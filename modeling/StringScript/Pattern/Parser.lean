import StringScript.Pattern.Tree
import StringScript.Text.Numeral
import StringScript.Text.Occurrence

/-!
# Reading patterns

A pattern is read from left to right. The groups that are open, and inside brackets the classes that
are open, are carried along, innermost first. In extended mode blanks and comments between the parts
of a pattern mean nothing. Each function takes what is left of the pattern and gives what it leaves.
-/

namespace StringScript.Pattern

/-- What a function reads at the front of a pattern, and what it leaves. -/
abbrev WithRest (α : Type) := α × List Char

/-- Drops blanks, and comments from a number sign to the end of the line. -/
def dropComments (inComment : Bool) : List Char → List Char
  | [] => []
  | c :: rest =>
    if inComment then dropComments (c ≠ '\n') rest
    else if Text.isBlank c then dropComments false rest
    else if c = '#' then dropComments true rest
    else c :: rest

def skip (extended : Bool) (rest : List Char) : List Char :=
  if extended then dropComments false rest else rest

theorem length_dropComments_le (inComment : Bool) (cs : List Char) :
    (dropComments inComment cs).length ≤ cs.length := by
  induction cs generalizing inComment with
  | nil => simp [dropComments]
  | cons c rest ih =>
    unfold dropComments
    have := ih (decide (c ≠ '\n'))
    have := ih false
    have := ih true
    split
    · simp only [List.length_cons]; omega
    · split
      · simp only [List.length_cons]; omega
      · split <;> simp only [List.length_cons] <;> omega

theorem length_skip_le (extended : Bool) (cs : List Char) :
    (skip extended cs).length ≤ cs.length := by
  unfold skip
  split
  · exact length_dropComments_le false cs
  · exact Nat.le_refl _

/-! ## Escapes -/

def hexValue? (c : Char) : Option Nat :=
  if c.isDigit then some (c.toNat - '0'.toNat)
  else if 'a' ≤ c && c ≤ 'f' then some (c.toNat - 'a'.toNat + 10)
  else if 'A' ≤ c && c ≤ 'F' then some (c.toNat - 'A'.toNat + 10)
  else none

def charAt (point : Nat) : Except PatternError Char :=
  if h : point.isValidChar then .ok (Char.ofNatAux point h) else .error .badCodePoint

def hexDigits (extended : Bool) :
    (more value : Nat) → List Char → Except PatternError (WithRest Nat)
  | 0, value, rest => .ok (value, rest)
  | more + 1, value, c :: rest =>
    match hexValue? c with
    | some digit => hexDigits extended more (16 * value + digit) (skip extended rest)
    | none => .error .badCodePoint
  | _ + 1, _, [] => .error .unclosed

/-- Reads hexadecimal digits up to the closing brace; `value?` is their value so far. -/
def hexBraced (extended : Bool) (value? : Option Nat) (cs : List Char) :
    Except PatternError (WithRest Nat) :=
  match cs with
  | [] => .error .unclosed
  | '\x7d' :: rest =>
    match value? with
    | some value => .ok (value, skip extended rest)
    | none => .error .badCodePoint
  | c :: rest =>
    match hexValue? c with
    | none => .error .badCodePoint
    | some digit => hexBraced extended (some (16 * value?.getD 0 + digit)) (skip extended rest)
termination_by cs.length
decreasing_by
  have := length_skip_le extended rest
  simp only [List.length_cons]
  omega

/-- Reads a character by its code point, after the letter of the escape: `count` digits, or any
number of digits in braces. -/
def codePoint (extended : Bool) (count : Nat) (rest : List Char) :
    Except PatternError (WithRest Letter) :=
  match skip extended rest with
  | '\x7b' :: rest => do
    let (point, rest) ← hexBraced extended none (skip extended rest)
    return (⟨← charAt point, false⟩, rest)
  | rest => do
    let (point, rest) ← hexDigits extended count 0 rest
    return (⟨← charAt point, count = 2⟩, rest)

def braced (extended : Bool) (cs : List Char) : Except PatternError (WithRest (List Char)) :=
  match cs with
  | [] => .error .unclosed
  | '\x7d' :: rest => .ok ([], rest)
  | c :: rest => do
    let (text, rest) ← braced extended (skip extended rest)
    return (c :: text, rest)
termination_by cs.length
decreasing_by
  have := length_skip_le extended rest
  simp only [List.length_cons]
  omega

/-- What stands before and after the first `!=`. -/
def cutAtUnequal? : List Char → Option (List Char × List Char)
  | [] => none
  | '!' :: '=' :: after => some ([], after)
  | c :: rest => (cutAtUnequal? rest).map fun (before, after) => (c :: before, after)

/-- The query that a name in braces spells, and whether the characters that do not answer it are
meant. A `!=`, a colon or an equals sign stands between a property and its value; they are looked
for in this order, and a `!=` means the other characters. -/
def queryOf (written : List Char) : Bool × Unicode.Query :=
  let valued (before after : List Char) : Unicode.Query :=
    .valued (.ofList before) (.ofList after)
  match cutAtUnequal? written with
  | some (before, after) => (true, valued before after)
  | none =>
    match Text.cutAt? ':' written <|> Text.cutAt? '=' written with
    | some (before, after) => (false, valued before after)
    | none => (false, .named (.ofList written))

/-- Reads the name of a property, after the letter of the escape, and whether the characters without
the property are meant. -/
def query (extended : Bool) (rest : List Char) :
    Except PatternError (WithRest (Bool × Unicode.Query)) :=
  match skip extended rest with
  | [] => .error .unclosed
  | '\x7b' :: rest => do
    let (written, rest) ← braced extended (skip extended rest)
    return (queryOf written, rest)
  | '\\' :: _ => .error .unknownProperty
  | c :: rest => .ok ((false, .named c.toString), skip extended rest)

def wordPlace? (name : String) : Option Place :=
  if name = "start" then some .wordStart
  else if name = "end" then some .wordEnd
  else if name = "start-half" then some .wordStartHalf
  else if name = "end-half" then some .wordEndHalf
  else none

def isPlaceChar (c : Char) : Bool := c.isAlpha || c == '-'

def placeName (extended : Bool) (cs : List Char) : Except PatternError (WithRest (List Char)) :=
  match cs with
  | [] => .error .badWordBoundary
  | c :: rest =>
    if c = '\x7d' then .ok ([], rest)
    else if isPlaceChar c then do
      let (name, rest) ← placeName extended (skip extended rest)
      return (c :: name, rest)
    else .error .badWordBoundary
termination_by cs.length
decreasing_by
  have := length_skip_le extended rest
  simp only [List.length_cons]
  omega

/-- Reads what follows `\b`. A brace before anything but a letter or a hyphen starts a count. -/
def boundary (extended : Bool) (rest : List Char) : Except PatternError (WithRest Place) :=
  match rest with
  | '\x7b' :: inside =>
    match skip extended inside with
    | [] => .error .badWordBoundary
    | c :: more =>
      if isPlaceChar c then do
        let (name, after) ← placeName extended (c :: more)
        match wordPlace? (.ofList name) with
        | some place => return (place, after)
        | none => throw .badWordBoundary
      else .ok (.wordBoundary, rest)
  | _ => .ok (.wordBoundary, rest)

/-- What stands for one character, for a class of characters or for a place. -/
inductive Primitive
  | letter (l : Letter)
  | place (p : Place)
  | property (negated : Bool) (query : Unicode.Query)
  | shorthand (negated : Bool) (kind : Shorthand)

/-- Whether a backslash may stand before a character that then means itself. -/
def isEscapable (c : Char) : Bool :=
  c.toNat < 0x80 && !c.isAlphanum && c ≠ '<' && c ≠ '>'

def escape (extended : Bool) : List Char → Except PatternError (WithRest Primitive)
  | [] => .error .unclosed
  | c :: rest =>
    let letter (code : Nat) : Except PatternError (WithRest Primitive) :=
      .ok (.letter ⟨Char.ofNat code, false⟩, rest)
    let place (p : Place) : Except PatternError (WithRest Primitive) := .ok (.place p, rest)
    let shorthand (negated : Bool) (kind : Shorthand) : Except PatternError (WithRest Primitive) :=
      .ok (.shorthand negated kind, rest)
    let byCode (count : Nat) : Except PatternError (WithRest Primitive) := do
      let (l, rest) ← codePoint extended count rest
      return (.letter l, rest)
    let byProperty (negated : Bool) : Except PatternError (WithRest Primitive) := do
      let ((unequal, q), rest) ← query extended rest
      return (.property (negated != unequal) q, rest)
    match c with
    | 'x' => byCode 2
    | 'u' => byCode 4
    | 'U' => byCode 8
    | 'p' => byProperty false
    | 'P' => byProperty true
    | 'd' => shorthand false .digit
    | 'D' => shorthand true .digit
    | 's' => shorthand false .space
    | 'S' => shorthand true .space
    | 'w' => shorthand false .word
    | 'W' => shorthand true .word
    | 'a' => letter 0x07
    | 'f' => letter 0x0C
    | 't' => letter 0x09
    | 'n' => letter 0x0A
    | 'r' => letter 0x0D
    | 'v' => letter 0x0B
    | 'A' => place .textStart
    | 'z' => place .textEnd
    | 'b' => do
      let (p, rest) ← boundary extended rest
      return (.place p, rest)
    | 'B' => place .notWordBoundary
    | '<' => place .wordStart
    | '>' => place .wordEnd
    | c => if isEscapable c then .ok (.letter ⟨c, false⟩, rest) else .error .badEscape

/-! ## Classes -/

def asciiClasses : List (String × CharSet) := [
  ("alnum", ⟨[(0x30, 0x39), (0x41, 0x5A), (0x61, 0x7A)]⟩),
  ("alpha", ⟨[(0x41, 0x5A), (0x61, 0x7A)]⟩),
  ("ascii", ⟨[(0x00, 0x7F)]⟩),
  ("blank", ⟨[(0x09, 0x09), (0x20, 0x20)]⟩),
  ("cntrl", ⟨[(0x00, 0x1F), (0x7F, 0x7F)]⟩),
  ("digit", ⟨[(0x30, 0x39)]⟩),
  ("graph", ⟨[(0x21, 0x7E)]⟩),
  ("lower", ⟨[(0x61, 0x7A)]⟩),
  ("print", ⟨[(0x20, 0x7E)]⟩),
  ("punct", ⟨[(0x21, 0x2F), (0x3A, 0x40), (0x5B, 0x60), (0x7B, 0x7E)]⟩),
  ("space", ⟨[(0x09, 0x0D), (0x20, 0x20)]⟩),
  ("upper", ⟨[(0x41, 0x5A)]⟩),
  ("word", ⟨[(0x30, 0x39), (0x41, 0x5A), (0x5F, 0x5F), (0x61, 0x7A)]⟩),
  ("xdigit", ⟨[(0x30, 0x39), (0x41, 0x46), (0x61, 0x66)]⟩)]

/-- Reads a named class, after its opening bracket, if one stands there. -/
def asciiClass? (rest : List Char) : Option (ClassTree × List Char) :=
  match rest with
  | ':' :: inside =>
    let (negated, inside) :=
      match inside with
      | '^' :: inside => (true, inside)
      | inside => (false, inside)
    match inside.dropWhile (· ≠ ':') with
    | ':' :: ']' :: after =>
      (asciiClasses.lookup (.ofList (inside.takeWhile (· ≠ ':')))).map fun members =>
        (.ascii negated members, after)
    | _ => none
  | _ => none

/-- A class that is open: the items of the class around it, last first, and what comes before the
operator that waits for its second set. -/
structure OpenClass where
  outer : List ClassTree
  negated : Bool
  waiting : Option (SetOperator × ClassTree)

def OpenClass.collect (open_ : OpenClass) (items : List ClassTree) : ClassTree :=
  let last := ClassTree.ofItems items.reverse
  match open_.waiting with
  | some (operator, lhs) => .operation operator lhs last
  | none => last

/-- Reads the hyphens that stand first in a class, each for itself. -/
def leadingHyphens (extended : Bool) (items : List ClassTree) (cs : List Char) :
    Except PatternError (WithRest (List ClassTree)) :=
  match cs with
  | [] => .error .unclosed
  | c :: rest =>
    if c = '-' then
      leadingHyphens extended (.letter ⟨'-', false⟩ :: items) (skip extended rest)
    else .ok (items, c :: rest)
termination_by cs.length
decreasing_by
  have := length_skip_le extended rest
  simp only [List.length_cons]
  omega

/-- Reads the start of a class, after the opening bracket: whether it is negated, and the hyphens or
the closing bracket that stand for themselves there. -/
def classStart (extended : Bool) (rest : List Char) :
    Except PatternError (WithRest (Bool × List ClassTree)) := do
  let (negated, rest) :=
    match skip extended rest with
    | '^' :: rest => (true, skip extended rest)
    | rest => (false, rest)
  let (items, rest) ← leadingHyphens extended [] rest
  match items, rest with
  | [], ']' :: rest =>
    match skip extended rest with
    | [] => throw .unclosed
    | rest => return ((negated, [.letter ⟨']', false⟩]), rest)
  | items, rest => return ((negated, items), rest)

def classPrimitive (extended : Bool) : List Char → Except PatternError (WithRest Primitive)
  | [] => .error .unclosed
  | '\\' :: rest => escape extended rest
  | c :: rest => .ok (.letter ⟨c, false⟩, rest)

def Primitive.toItem : Primitive → Except PatternError ClassTree
  | letter l => .ok (.letter l)
  | property negated q => .ok (.property negated q)
  | shorthand negated kind => .ok (.shorthand negated kind)
  | place _ => .error .badEscape

def Primitive.toLetter : Primitive → Except PatternError Letter
  | letter l => .ok l
  | _ => .error .badRange

/-- The next character that means something. A comment counts up to its first character that is not
blank. -/
def peekSkipping (extended : Bool) (rest : List Char) : Option Char :=
  if extended then
    match rest.dropWhile Text.isBlank with
    | '#' :: rest => (rest.dropWhile Text.isBlank).head?
    | rest => rest.head?
  else rest.head?

/-- Reads a character, an escape or a range of a class. A hyphen before a hyphen or before the
closing bracket makes no range. -/
def classItem (extended : Bool) (rest : List Char) : Except PatternError (WithRest ClassTree) := do
  let (first, rest) ← classPrimitive extended rest
  match skip extended rest with
  | [] => throw .unclosed
  | '-' :: after =>
    let next := peekSkipping extended after
    if next = some ']' || next = some '-' then return (← first.toItem, '-' :: after)
    else
      let (last, rest) ← classPrimitive extended (skip extended after)
      let first ← first.toLetter
      let last ← last.toLetter
      if first.char ≤ last.char then return (.range first last, rest) else throw .badRange
  | rest => return (← first.toItem, rest)

def setOperator? : List Char → Option (SetOperator × List Char)
  | '&' :: '&' :: rest => some (.inter, rest)
  | '-' :: '-' :: rest => some (.diff, rest)
  | '~' :: '~' :: rest => some (.symmDiff, rest)
  | _ => none

/-- Reads the rest of a class. `inner` is the innermost open class with its items so far, last
first, and `outer` are the classes around it. The fuel bounds the items, each of which takes a
character. -/
def classBody (extended : Bool) :
    (fuel : Nat) → List OpenClass → OpenClass → List ClassTree → List Char →
      Except PatternError (WithRest Tree)
  | 0, _, _, _, _ => .error .unclosed
  | fuel + 1, outer, inner, items, cs => do
    let cs := skip extended cs
    match cs with
    | [] => throw .unclosed
    | '[' :: rest =>
      match asciiClass? rest with
      | some (named, rest) => classBody extended fuel outer inner (named :: items) rest
      | none =>
        let ((negated, first), rest) ← classStart extended rest
        classBody extended fuel (inner :: outer) ⟨items, negated, none⟩ first rest
    | ']' :: rest =>
      let body := inner.collect items
      match outer with
      | [] => return (.bracketed inner.negated body, rest)
      | next :: outer =>
        classBody extended fuel outer next (.bracketed inner.negated body :: inner.outer) rest
    | cs =>
      match setOperator? cs with
      | some (operator, rest) =>
        let inner := { inner with waiting := some (operator, inner.collect items) }
        classBody extended fuel outer inner [] rest
      | none => do
        let (item, rest) ← classItem extended cs
        classBody extended fuel outer inner (item :: items) rest

def bracketed (extended : Bool) (rest : List Char) : Except PatternError (WithRest Tree) := do
  let ((negated, items), rest) ← classStart extended rest
  classBody extended (rest.length + 1) [] ⟨[], negated, none⟩ items rest

/-! ## Groups -/

/-- Reads flags up to a colon or a closing parenthesis, which is given too. -/
def flagChange (on : Bool) (afterHyphen : Bool) (change : FlagChange) :
    List Char → Except PatternError (WithRest (FlagChange × Char))
  | [] => .error .unclosed
  | c :: rest =>
    if c = ':' || c = ')' then
      if afterHyphen then .error .badFlags else .ok ((change.reverse, c), rest)
    else if c = '-' then
      if on then flagChange false true change rest else .error .badFlags
    else
      match Flag.all.find? (·.letter = c) with
      | none => .error .badFlags
      | some flag =>
        if change.any (·.1 = flag) then .error .badFlags
        else flagChange on false ((flag, on) :: change) rest

def isNameChar (first : Bool) (c : Char) : Bool :=
  c == '_' ||
    if first then Unicode.alphabetic.contains c
    else c == '.' || c == '[' || c == ']' || Unicode.alphanumeric.contains c

def groupName (first : Bool) : List Char → Except PatternError (WithRest (List Char))
  | [] => .error .unclosed
  | c :: rest =>
    if c = '>' then .ok ([], rest)
    else if isNameChar first c then do
      let (name, rest) ← groupName false rest
      return (c :: name, rest)
    else .error .badGroupName

/-- A group that is open, with the parts before it, last first, and the branches of the level around
it. -/
structure OpenGroup where
  parts : List Tree
  branches : List Tree
  captures : Bool
  change : FlagChange
  /-- The mode that holds again after the group. -/
  extended : Bool

/-- How far a pattern is read. Parts and branches of the innermost level stand last first. -/
structure Progress where
  groups : List OpenGroup
  branches : List Tree
  parts : List Tree
  extended : Bool
  /-- The names of groups, which have to differ. -/
  names : List (List Char)

namespace Progress

def start : Progress := ⟨[], [], [], false, []⟩

def push (p : Progress) (part : Tree) : Progress := { p with parts := part :: p.parts }

def level (p : Progress) : Tree :=
  .ofBranches (Tree.ofParts p.parts.reverse :: p.branches).reverse

def openGroup (p : Progress) (captures : Bool) (change : FlagChange) : Progress where
  groups := ⟨p.parts, p.branches, captures, change, p.extended⟩ :: p.groups
  branches := []
  parts := []
  extended := (change.lookup .extended).getD p.extended
  names := p.names

def closeGroup (p : Progress) : Except PatternError Progress :=
  match p.groups with
  | [] => .error .unopened
  | group :: groups =>
    .ok { groups
          branches := group.branches
          parts := .group group.captures group.change p.level :: group.parts
          extended := group.extended
          names := p.names }

def addName (p : Progress) (name : List Char) : Except PatternError Progress :=
  if name.isEmpty || p.names.contains name then .error .badGroupName
  else .ok { p with names := name :: p.names }

/-- Reads the start of a group, or flags, after the opening parenthesis. -/
def parenthesis (p : Progress) (rest : List Char) : Except PatternError (WithRest Progress) :=
  let named (rest : List Char) : Except PatternError (WithRest Progress) := do
    let (name, rest) ← groupName true rest
    let p ← p.addName name
    return (p.openGroup true [], rest)
  match skip p.extended rest with
  | '?' :: '=' :: _ | '?' :: '!' :: _ | '?' :: '<' :: '=' :: _ | '?' :: '<' :: '!' :: _ =>
    .error .unsupported
  | '?' :: 'P' :: '<' :: rest => named rest
  | '?' :: '<' :: rest => named rest
  | '?' :: rest => do
    let ((change, last), rest) ← flagChange true false [] rest
    if last = ':' then return (p.openGroup false change, rest)
    else if change.isEmpty then throw .nothingToRepeat
    else
      let extended := (change.lookup .extended).getD p.extended
      return ({ p.push (.flags change) with extended }, rest)
  | rest => .ok (p.openGroup true [], rest)

def repeatLast (p : Progress) (least : Nat) (most : Option Nat) (greedy : Bool) :
    Except PatternError Progress :=
  match p.parts with
  | [] | .empty :: _ | .flags _ :: _ => .error .nothingToRepeat
  | part :: parts => .ok { p with parts := .repeated least most greedy part :: parts }

/-- Reads the question mark that makes a repetition reluctant. -/
def greed (rest : List Char) : Bool × List Char :=
  match rest with
  | '?' :: rest => (false, rest)
  | rest => (true, rest)

def repeatThen (p : Progress) (least : Nat) (most : Option Nat) (rest : List Char) :
    Except PatternError (WithRest Progress) := do
  let (greedy, rest) := greed rest
  return (← p.repeatLast least most greedy, rest)

/-- The digits of a count and what is left; in extended mode blanks and comments may stand between
them. -/
def countDigits (extended : Bool) (cs : List Char) : List Char × List Char :=
  match cs with
  | [] => ([], [])
  | c :: rest =>
    if c.isDigit then
      let (digits, rest) := countDigits extended (skip extended rest)
      (c :: digits, rest)
    else ([], c :: rest)
termination_by cs.length
decreasing_by
  have := length_skip_le extended rest
  simp only [List.length_cons]
  omega

/-- The counts of repetitions are 32-bit numbers, so each is below this bound. -/
def repeatBound : Nat := 4294967296

def number (extended : Bool) (rest : List Char) : Except PatternError (WithRest Nat) :=
  let (digits, rest) := countDigits extended (rest.dropWhile Text.isBlank)
  let value := Text.numeralValue digits
  if digits.isEmpty || repeatBound ≤ value then .error .badCount
  else .ok (value, skip extended (rest.dropWhile Text.isBlank))

def counted (p : Progress) (rest : List Char) : Except PatternError (WithRest Progress) := do
  let (least, rest) ← number p.extended (skip p.extended rest)
  let (most, rest) ←
    match rest with
    | ',' :: rest =>
      match skip p.extended rest with
      | '\x7d' :: rest => pure (none, '\x7d' :: rest)
      | rest => do
        let (most, rest) ← number p.extended rest
        pure (some most, rest)
    | rest => pure (some least, rest)
  match rest with
  | '\x7d' :: rest =>
    if most.any (· < least) then throw .badCount
    p.repeatThen least most (skip p.extended rest)
  | _ => throw .unclosed

/-- Reads one part, or one sign between parts. -/
def part (p : Progress) (c : Char) (rest : List Char) : Except PatternError (WithRest Progress) :=
  let add (tree : Tree) (rest : List Char) : Except PatternError (WithRest Progress) :=
    .ok (p.push tree, rest)
  match c with
  | '(' => p.parenthesis rest
  | ')' => do return (← p.closeGroup, rest)
  | '|' =>
    .ok ({ p with parts := [], branches := Tree.ofParts p.parts.reverse :: p.branches }, rest)
  | '[' => do
    let (tree, rest) ← bracketed p.extended rest
    add tree rest
  | '?' => p.repeatThen 0 (some 1) rest
  | '*' => p.repeatThen 0 none rest
  | '+' => p.repeatThen 1 none rest
  | '\x7b' => p.counted rest
  | '.' => add .dot rest
  | '^' => add (.place .lineStart) rest
  | '$' => add (.place .lineEnd) rest
  | '\\' => do
    let (primitive, rest) ← escape p.extended rest
    match primitive with
    | .letter l => add (.letter l) rest
    | .place place => add (.place place) rest
    | .property negated q => add (.property negated q) rest
    | .shorthand negated kind => add (.shorthand negated kind) rest
  | c => add (.letter ⟨c, false⟩) rest

/-- Reads the rest of a pattern. The fuel bounds the parts, each of which takes a character. -/
def finish : (fuel : Nat) → Progress → List Char → Except PatternError Tree
  | 0, _, _ => .error .unclosed
  | fuel + 1, p, cs =>
    match skip p.extended cs with
    | [] => if p.groups.isEmpty then .ok p.level else .error .unclosed
    | c :: rest => do
      let (p, rest) ← p.part c rest
      p.finish fuel rest

end Progress

def nestLimit : Nat := 250

def Tree.parse (pattern : List Char) : Except PatternError Tree := do
  let tree ← Progress.start.finish (pattern.length + 1) pattern
  if tree.depth ≤ nestLimit then return tree else throw .nestedTooDeep

end StringScript.Pattern
