import StringScript.Expr.Parser
import StringScript.Stmt
import StringScript.Text.Line

/-!
# Reading programs

Every line of a program that is not blank and no comment holds one statement or one word of a block.
The lines are read in order; the blocks that are open at a line are carried along, innermost first,
so that what a line means depends on earlier lines only.
-/

namespace StringScript

/-- The words that end a block or a part of it. They are compared as text, not as tokens. -/
inductive Terminator
  | otherwise | endIf | endFor | endWhile
deriving Repr, DecidableEq

namespace Terminator

def all : List Terminator := [otherwise, endIf, endFor, endWhile]

def text : Terminator → String
  | otherwise => "else"
  | endIf => "endif"
  | endFor => "endfor"
  | endWhile => "endwhile"

def ofText? (line : String) : Option Terminator := all.find? (·.text = line)

end Terminator

inductive Header
  | ifThen (test : Condition)
  | foreach (kind : Iteration) (var : String) (source : Expr)
  | whileDo (test : Condition)
deriving Repr

namespace Header

def keyword : Header → String
  | ifThen _ => "if"
  | foreach .. => "foreach"
  | whileDo _ => "while"

def terminator : Header → Terminator
  | ifThen _ => .endIf
  | foreach .. => .endFor
  | whileDo _ => .endWhile

end Header

inductive ParseFault
  | bad (error : SyntaxError)
  | unrecognized (line : String)
  /-- No block is open that the terminator could end. -/
  | stray (found : Terminator)
  /-- The innermost open block, from the line `openLine`, ends with another terminator. -/
  | mismatch (header : Header) (openLine : Nat) (found : Terminator)
  | unmatched (header : Header)
deriving Repr

structure ParseError where
  line : Nat
  fault : ParseFault
deriving Repr

def ParseFault.message : ParseFault → String
  | bad error => error.message
  | unrecognized line => "unrecognized statement: " ++ line
  | stray found => "'" ++ found.text ++ "' without a matching block"
  | mismatch header openLine found =>
    "expected '" ++ header.terminator.text ++ "' to close '" ++ header.keyword ++ "' from line " ++
      toString openLine ++ ", found '" ++ found.text ++ "'"
  | unmatched header => "unmatched " ++ header.keyword ++ "/" ++ header.terminator.text

def ParseError.message (e : ParseError) : String :=
  "line " ++ toString e.line ++ ": " ++ e.fault.message

/-- A block whose end is still to come. -/
structure OpenBlock where
  line : Nat
  header : Header
  /-- The part before `else`, once that word is read. -/
  thenBody : Option (List Stmt)
  body : List Stmt
deriving Repr

/-- The statement that a block is when it ends. Only an `if` block has two parts. -/
def OpenBlock.close (block : OpenBlock) : Stmt :=
  match block.header, block.thenBody with
  | .ifThen test, none => .ifThen test block.body
  | .ifThen test, some thenBody => .ifThenElse test thenBody block.body
  | .foreach kind var source, _ => .foreach kind var source block.body
  | .whileDo test, _ => .whileDo test block.body

inductive LineForm
  | terminator (word : Terminator)
  | header (header : Header)
  | simple (stmt : Stmt)
deriving Repr

namespace Reading

/-- Reads `target = value` when the second token is the equals sign. -/
def assignment : Reading Stmt := do
  match ← next with
  | some (.word target) =>
    let _ ← next
    pure (.assign target (← expr))
  | some token => throw (.badTarget token)
  | none => throw (.expectedExpr none)

def ifHeader : Reading Header := do
  keyword "if"
  let test ← condition
  keyword "then"
  pure (.ifThen test)

def foreachHeader : Reading Header := do
  keyword "foreach"
  let kind ← do
    if ← keyword? "char" then pure .chars
    else if ← keyword? "item" then pure .items
    else pure .auto
  let var ← word "loop variable"
  keyword "in"
  let source ← expr
  keyword "do"
  pure (.foreach kind var source)

def whileHeader : Reading Header := do
  keyword "while"
  let test ← condition
  keyword "do"
  pure (.whileDo test)

def printStmt : Reading Stmt := do
  keyword "print"
  pure (.print (← expr))

end Reading

/-- The form of the line with the given tokens; `none` if no statement starts like this. An equals
sign in the second place makes any line an assignment. -/
def LineForm.ofTokens? (tokens : List Token) : Option (Except SyntaxError LineForm) :=
  if tokens[1]? = some .assign then some ((Reading.assignment.whole tokens).map .simple)
  else
    match tokens.head? with
    | some (.word "print") => some ((Reading.printStmt.whole tokens).map .simple)
    | some (.word "if") => some ((Reading.ifHeader.whole tokens).map .header)
    | some (.word "foreach") => some ((Reading.foreachHeader.whole tokens).map .header)
    | some (.word "while") => some ((Reading.whileHeader.whole tokens).map .header)
    | _ => none

/-- The form of a trimmed line. -/
def LineForm.ofLine (line : String) : Except ParseFault LineForm :=
  match Terminator.ofText? line with
  | some word => .ok (.terminator word)
  | none =>
    match Token.tokenize line with
    | .error e => .error (.bad (.lexical e))
    | .ok tokens =>
      match LineForm.ofTokens? tokens with
      | none => .error (.unrecognized line)
      | some (.error e) => .error (.bad e)
      | some (.ok form) => .ok form

/-- The statements that are read so far: those of the program, and the open blocks, innermost
first. -/
structure Outline where
  blocks : List OpenBlock
  program : List Stmt
deriving Repr

namespace Outline

def empty : Outline := ⟨[], []⟩

def push (o : Outline) (stmt : Stmt) : Outline :=
  match o.blocks with
  | [] => { o with program := o.program ++ [stmt] }
  | block :: outer => { o with blocks := { block with body := block.body ++ [stmt] } :: outer }

/-- Ends the innermost open block, or turns to its second part. -/
def terminate (o : Outline) (word : Terminator) : Except ParseFault Outline :=
  match o.blocks with
  | [] => .error (.stray word)
  | block :: outer =>
    if word = block.header.terminator then .ok ({ o with blocks := outer }.push block.close)
    else
      match word, block.header, block.thenBody with
      | .otherwise, .ifThen _, none =>
        .ok { o with blocks := { block with thenBody := some block.body, body := [] } :: outer }
      | _, header, _ => .error (.mismatch header block.line word)

def addLine (o : Outline) (number : Nat) (line : String) : Except ParseFault Outline :=
  match LineForm.ofLine line with
  | .error fault => .error fault
  | .ok (.terminator word) => o.terminate word
  | .ok (.header header) => .ok { o with blocks := ⟨number, header, none, []⟩ :: o.blocks }
  | .ok (.simple stmt) => .ok (o.push stmt)

def addLines (o : Outline) : List (Nat × String) → Except ParseError Outline
  | [] => .ok o
  | (number, line) :: rest =>
    match o.addLine number line with
    | .error fault => .error ⟨number, fault⟩
    | .ok next => next.addLines rest

/-- The program, if no block is open. An open block is a fault of its first line. -/
def finish (o : Outline) : Except ParseError (List Stmt) :=
  match o.blocks with
  | [] => .ok o.program
  | block :: _ => .error ⟨block.line, .unmatched block.header⟩

end Outline

/-- The lines of a program that hold something, trimmed, with their numbers: all but blank lines and
comments. -/
def significantLines (source : String) : List (Nat × String) :=
  (Text.numberedLines source.toList).filterMap fun (number, line) =>
    match Text.trim line with
    | [] => none
    | '#' :: _ => none
    | trimmed => some (number, .ofList trimmed)

def parseProgram (source : String) : Except ParseError (List Stmt) :=
  match Outline.empty.addLines (significantLines source) with
  | .error e => .error e
  | .ok outline => outline.finish

end StringScript
