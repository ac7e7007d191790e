import StringScript.Unicode.Age
import StringScript.Unicode.Category
import StringScript.Unicode.Property
import StringScript.Unicode.Script
import StringScript.Unicode.Segmentation

/-!
# Asking for characters by property

A pattern names a set of characters by one name, or by the name of a property and one of its values.
All names are compared loosely.
-/

namespace StringScript.Unicode

inductive Query
  | named (name : String)
  | valued (property value : String)
deriving Repr, DecidableEq

/-- The set that a query asks for. One name is the name of a binary property, of a category or of a
script. -/
def Query.members? : Query → Option CharSet
  | .named name => property? name <|> Category.named? name <|> Script.named? name
  | .valued property value =>
    if isNamed ["General_Category", "gc"] property then Category.named? value
    else if isNamed ["Script", "sc"] property then Script.named? value
    else if isNamed ["Script_Extensions", "scx"] property then Script.usedWith? value
    else if isNamed ["Age"] property then Age.upTo? value
    else if isNamed ["Grapheme_Cluster_Break", "GCB"] property then
      graphemeClusterBreak.named? value
    else if isNamed ["Word_Break", "WB"] property then wordBreak.named? value
    else if isNamed ["Sentence_Break", "SB"] property then sentenceBreak.named? value
    else none

def decimalDigits : CharSet := Category.members [.decimalNumber]

/-- The characters of words: letters, marks, decimal digits, connectors and joiners. -/
def wordChars : CharSet :=
  alphabetic.union <| joinControl.union <|
    Category.members (.decimalNumber :: .connectorPunctuation :: Category.marks)

/-- The characters of names: letters and numbers. -/
def alphanumeric : CharSet := alphabetic.union (Category.members Category.numbers)

end StringScript.Unicode
