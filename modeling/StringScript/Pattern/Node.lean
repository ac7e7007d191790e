import StringScript.Pattern.Tree
import StringScript.Unicode.CaseFolding

/-!
# What patterns mean

Flags are gone from a node: every part says which characters it takes, or which place it asks for.
Where several texts match, the order of branches and the greed of repetitions say which one is
meant.
-/

namespace StringScript.Pattern

inductive Look
  | textStart | textEnd
  /-- Lines end at line feeds. -/
  | lineStart | lineEnd
  /-- Lines end at carriage returns too; a carriage return and a line feed are one end. -/
  | anyLineStart | anyLineEnd
  | boundary (word : CharSet) | notBoundary (word : CharSet)
  | wordStart (word : CharSet) | wordEnd (word : CharSet)
  | wordStartHalf (word : CharSet) | wordEndHalf (word : CharSet)
deriving Repr, DecidableEq

/-- Whether a place lies between the given characters; none stands at the end of the text. -/
def Look.holds (before after : Option Char) (look : Look) : Bool :=
  match look with
  | textStart => before.isNone
  | textEnd => after.isNone
  | lineStart => before.all (· = '\n')
  | lineEnd => after.all (· = '\n')
  | anyLineStart => before.all fun c => c = '\n' || (c = '\r' && after ≠ some '\n')
  | anyLineEnd => after.all fun c => c = '\r' || (c = '\n' && before ≠ some '\r')
  | boundary word => before.any word.contains != after.any word.contains
  | notBoundary word => before.any word.contains == after.any word.contains
  | wordStart word => !before.any word.contains && after.any word.contains
  | wordEnd word => before.any word.contains && !after.any word.contains
  | wordStartHalf word => !before.any word.contains
  | wordEndHalf word => !after.any word.contains

inductive Node
  | empty
  | oneOf (members : CharSet)
  | look (place : Look)
  | concat (parts : List Node)
  /-- The branches in the order in which they are preferred. -/
  | alternation (branches : List Node)
  | repeated (least : Nat) (most : Option Nat) (greedy : Bool) (body : Node)
  | capture (body : Node)
deriving Repr, Inhabited

namespace Node

mutual

/-- Whether all that a node matches is the empty text. -/
def isWidthless : Node → Bool
  | empty | look _ => true
  | oneOf _ => false
  | concat parts => allWidthless parts
  | alternation branches => allWidthless branches
  | repeated _ most _ body => most.isSome && body.isWidthless
  | capture body => body.isWidthless

def allWidthless : List Node → Bool
  | [] => true
  | node :: rest => node.isWidthless && allWidthless rest

end

mutual

/-- Whether a node is seen to match no empty text. -/
def consumes : Node → Bool
  | empty | look _ => false
  | oneOf _ => true
  | concat parts => anyConsumes parts
  | alternation branches => allConsume branches
  | repeated least _ _ body => 1 ≤ least && body.consumes
  | capture body => body.consumes

def anyConsumes : List Node → Bool
  | [] => false
  | node :: rest => node.consumes || anyConsumes rest

def allConsume : List Node → Bool
  | [] => true
  | node :: rest => node.consumes && allConsume rest

end

/-- A repetition. One of the empty text is no more than one time, and one of exactly one time is
none. -/
def ofRepetition (least : Nat) (most : Option Nat) (greedy : Bool) (body : Node) : Node :=
  let (least, most) :=
    if body.isWidthless then (min least 1, some ((most.getD 1).min 1)) else (least, most)
  if most = some 0 then empty
  else if least = 1 && most = some 1 then body
  else repeated least most greedy body

end Node

structure Flags where
  ignoreCase : Bool := false
  multiLine : Bool := false
  dotAll : Bool := false
  swapGreed : Bool := false
  unicode : Bool := true
  crlf : Bool := false
deriving Repr, DecidableEq

namespace Flags

def set (flags : Flags) (flag : Flag) (on : Bool) : Flags :=
  match flag with
  | .ignoreCase => { flags with ignoreCase := on }
  | .multiLine => { flags with multiLine := on }
  | .dotAll => { flags with dotAll := on }
  | .swapGreed => { flags with swapGreed := on }
  | .unicode => { flags with unicode := on }
  | .crlf => { flags with crlf := on }
  | .extended => flags

def apply (flags : Flags) (change : FlagChange) : Flags :=
  change.foldl (fun flags (flag, on) => flags.set flag on) flags

/-- The set with the other cases of its members, if case is ignored. -/
def fold (flags : Flags) (s : CharSet) : CharSet :=
  if !flags.ignoreCase then s
  else if flags.unicode then Unicode.closeUnderFolding s
  else Unicode.closeUnderAsciiFolding s

/-- A set of bytes has to be a set of ASCII characters, because other bytes are no characters. -/
def checkText (flags : Flags) (s : CharSet) : Except PatternError CharSet :=
  if flags.unicode || s.isAscii then .ok s else .error .notText

/-- The set or its complement: among all characters, or among all bytes. -/
def negate (flags : Flags) (negated : Bool) (s : CharSet) : CharSet :=
  if !negated then s else if flags.unicode then s.complement else s.complementTo 0xFF

def foldNegate (flags : Flags) (negated : Bool) (s : CharSet) : Except PatternError CharSet :=
  flags.checkText (flags.negate negated (flags.fold s))

/-- The characters of a shorthand. They are closed under folding. -/
def shorthand (flags : Flags) (negated : Bool) (kind : Shorthand) : Except PatternError CharSet :=
  let members : CharSet :=
    match flags.unicode, kind with
    | true, .digit => Unicode.decimalDigits
    | true, .space => Text.blanks
    | true, .word => Unicode.wordChars
    | false, .digit => ⟨[(0x30, 0x39)]⟩
    | false, .space => ⟨[(0x09, 0x0D), (0x20, 0x20)]⟩
    | false, .word => ⟨[(0x30, 0x39), (0x41, 0x5A), (0x5F, 0x5F), (0x61, 0x7A)]⟩
  flags.checkText (flags.negate negated members)

def property (flags : Flags) (negated : Bool) (query : Unicode.Query) :
    Except PatternError CharSet :=
  if !flags.unicode then .error .notText
  else
    match query.members? with
    | some members => flags.foldNegate negated members
    | none => .error .unknownProperty

/-- The character of a letter. Two hexadecimal digits may be a byte, which has to be ASCII then. -/
def letter (flags : Flags) (l : Letter) : Except PatternError Char :=
  if !flags.unicode && l.isByte && 0x80 ≤ l.char.toNat then .error .notText else .ok l.char

/-- The character of a letter in a class. A class of bytes holds ASCII characters only. -/
def classLetter (flags : Flags) (l : Letter) : Except PatternError Char :=
  if !flags.unicode && 0x80 ≤ l.char.toNat then .error .notText else .ok l.char

end Flags

mutual

def ClassTree.members (flags : Flags) : ClassTree → Except PatternError CharSet
  | .empty => .ok .empty
  | .letter l => (flags.classLetter l).map .singleton
  | .range first last => do
    let first ← flags.classLetter first
    let last ← flags.classLetter last
    return .ofRanges [(first.toNat, last.toNat)]
  | .ascii negated members => flags.foldNegate negated members
  | .property negated query => flags.property negated query
  | .shorthand negated kind => flags.shorthand negated kind
  | .bracketed negated body => do
    flags.foldNegate negated (← body.members flags)
  | .union items => ClassTree.membersOfAny flags items
  | .operation operator lhs rhs => do
    let lhs := flags.fold (← lhs.members flags)
    let rhs := flags.fold (← rhs.members flags)
    match operator with
    | .inter => return lhs.inter rhs
    | .diff => return lhs.diff rhs
    | .symmDiff => return lhs.symmDiff rhs

def ClassTree.membersOfAny (flags : Flags) : List ClassTree → Except PatternError CharSet
  | [] => .ok .empty
  | item :: rest => do
    let members ← item.members flags
    return members.union (← ClassTree.membersOfAny flags rest)

end

def Place.toLook (flags : Flags) : Place → Look
  | .textStart => .textStart
  | .textEnd => .textEnd
  | .lineStart =>
    if !flags.multiLine then .textStart else if flags.crlf then .anyLineStart else .lineStart
  | .lineEnd =>
    if !flags.multiLine then .textEnd else if flags.crlf then .anyLineEnd else .lineEnd
  | .wordBoundary => .boundary (word flags)
  | .notWordBoundary => .notBoundary (word flags)
  | .wordStart => .wordStart (word flags)
  | .wordEnd => .wordEnd (word flags)
  | .wordStartHalf => .wordStartHalf (word flags)
  | .wordEndHalf => .wordEndHalf (word flags)
where
  word (flags : Flags) : CharSet :=
    if flags.unicode then Unicode.wordChars
    else ⟨[(0x30, 0x39), (0x41, 0x5A), (0x5F, 0x5F), (0x61, 0x7A)]⟩

/-- The characters that the dot stands for: all, or all but those that end a line. -/
def Flags.dot (flags : Flags) : Except PatternError CharSet :=
  if !flags.unicode then .error .notText
  else if flags.dotAll then .ok .all
  else if flags.crlf then .ok (CharSet.ofChars ['\n', '\r']).complement
  else .ok (CharSet.singleton '\n').complement

mutual

/-- The meaning of a tree where some flags hold, and the flags that hold after it. -/
def Tree.toNode (flags : Flags) : Tree → Except PatternError (Node × Flags)
  | .empty => .ok (.empty, flags)
  | .flags change => .ok (.empty, flags.apply change)
  | .letter l => do
    let c ← flags.letter l
    let members : CharSet :=
      if flags.unicode || c.toNat < 0x80 then flags.fold (.singleton c) else .singleton c
    return (.oneOf members, flags)
  | .dot => do return (.oneOf (← flags.dot), flags)
  | .place p => .ok (.look (p.toLook flags), flags)
  | .property negated query => do return (.oneOf (← flags.property negated query), flags)
  | .shorthand negated kind => do return (.oneOf (← flags.shorthand negated kind), flags)
  | .bracketed negated body => do
    return (.oneOf (← flags.foldNegate negated (← body.members flags)), flags)
  | .repeated least most greedy body => do
    let (body, _) ← body.toNode flags
    return (.ofRepetition least most (greedy != flags.swapGreed) body, flags)
  | .group captures change body => do
    let (body, _) ← body.toNode (flags.apply change)
    return (if captures then .capture body else body, flags)
  | .alternation branches => do
    let (branches, flags) ← Tree.toNodes flags branches
    return (.alternation branches, flags)
  | .concat parts => do
    let (parts, flags) ← Tree.toNodes flags parts
    return (.concat parts, flags)

def Tree.toNodes (flags : Flags) : List Tree → Except PatternError (List Node × Flags)
  | [] => .ok ([], flags)
  | tree :: rest => do
    let (node, flags) ← tree.toNode flags
    let (nodes, flags) ← Tree.toNodes flags rest
    return (node :: nodes, flags)

end

end StringScript.Pattern
