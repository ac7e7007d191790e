import StringScript.Unicode.Query

/-!
# Patterns as they are written

The syntax tree of a pattern. What a part means depends on the flags that hold where it stands, so a
tree is not yet a set of texts.
-/

namespace StringScript.Pattern

/-- Why a text is no pattern, or no pattern that can be used. -/
inductive PatternError
  /-- The pattern ends inside a group, a class, an escape, a count or a name. -/
  | unclosed
  | unopened
  | nothingToRepeat
  | badCount
  | badEscape
  | badCodePoint
  | badRange
  | badGroupName
  | badFlags
  | badWordBoundary
  /-- The pattern looks around or back. -/
  | unsupported
  | unknownProperty
  /-- The part could match bytes that are no text. -/
  | notText
  | nestedTooDeep
  | tooLarge
deriving Repr, DecidableEq

/-- A character that stands for itself. -/
structure Letter where
  char : Char
  /-- Whether it is written as two hexadecimal digits, which may mean a byte. -/
  isByte : Bool
deriving Repr, DecidableEq

inductive Place
  | lineStart | lineEnd | textStart | textEnd
  | wordBoundary | notWordBoundary | wordStart | wordEnd | wordStartHalf | wordEndHalf
deriving Repr, DecidableEq

inductive Shorthand
  | digit | space | word
deriving Repr, DecidableEq

inductive Flag
  | ignoreCase | multiLine | dotAll | swapGreed | unicode | crlf | extended
deriving Repr, DecidableEq

def Flag.all : List Flag := [ignoreCase, multiLine, dotAll, swapGreed, unicode, crlf, extended]

def Flag.letter : Flag → Char
  | ignoreCase => 'i'
  | multiLine => 'm'
  | dotAll => 's'
  | swapGreed => 'U'
  | unicode => 'u'
  | crlf => 'R'
  | extended => 'x'

abbrev FlagChange := List (Flag × Bool)

inductive SetOperator
  | inter | diff | symmDiff
deriving Repr, DecidableEq

inductive ClassTree
  | empty
  | letter (l : Letter)
  | range (first last : Letter)
  | ascii (negated : Bool) (members : CharSet)
  | property (negated : Bool) (query : Unicode.Query)
  | shorthand (negated : Bool) (kind : Shorthand)
  | bracketed (negated : Bool) (body : ClassTree)
  | union (items : List ClassTree)
  | operation (operator : SetOperator) (lhs rhs : ClassTree)
deriving Repr, Inhabited

inductive Tree
  | empty
  /-- Flags for the rest of the group. -/
  | flags (change : FlagChange)
  | letter (l : Letter)
  | dot
  | place (p : Place)
  | property (negated : Bool) (query : Unicode.Query)
  | shorthand (negated : Bool) (kind : Shorthand)
  | bracketed (negated : Bool) (body : ClassTree)
  /-- The body at least `least` and at most `most` times, as often as can be if `greedy`. -/
  | repeated (least : Nat) (most : Option Nat) (greedy : Bool) (body : Tree)
  | group (captures : Bool) (change : FlagChange) (body : Tree)
  | alternation (branches : List Tree)
  | concat (parts : List Tree)
deriving Repr, Inhabited

namespace ClassTree

def ofItems : List ClassTree → ClassTree
  | [] => empty
  | [item] => item
  | items => union items

mutual

def depth : ClassTree → Nat
  | empty | letter _ | range .. | ascii .. | property .. | shorthand .. => 0
  | bracketed _ body => body.depth + 1
  | union items => maxDepth items + 1
  | operation _ lhs rhs => max lhs.depth rhs.depth + 1

def maxDepth : List ClassTree → Nat
  | [] => 0
  | item :: rest => max item.depth (maxDepth rest)

end

end ClassTree

namespace Tree

def ofParts : List Tree → Tree
  | [] => empty
  | [part] => part
  | parts => concat parts

def ofBranches : List Tree → Tree
  | [branch] => branch
  | branches => alternation branches

mutual

def depth : Tree → Nat
  | empty | flags _ | letter _ | dot | place _ | property .. | shorthand .. => 0
  | bracketed _ body => body.depth + 1
  | repeated _ _ _ body => body.depth + 1
  | group _ _ body => body.depth + 1
  | alternation branches => maxDepth branches + 1
  | concat parts => maxDepth parts + 1

def maxDepth : List Tree → Nat
  | [] => 0
  | part :: rest => max part.depth (maxDepth rest)

end

end Tree

end StringScript.Pattern
