import StringScript.Builtin
import StringScript.Stmt.Parser

/-!
# Failures of programs

A failure ends the program that runs. Every failure is a cause; its wording is in `Failure.message`.
-/

namespace StringScript

inductive ArgumentFault
  /-- The argument at the position, counted from 1, is no numeral. -/
  | notCount (position : Nat) (found : String)
  | badPattern (pattern : String)
deriving Repr, DecidableEq

def ArgumentFault.message : ArgumentFault → String
  | notCount position found =>
    "argument " ++ toString position ++ " must be a non-negative integer, got '" ++ found ++ "'"
  | badPattern pattern => "invalid regex pattern '" ++ pattern ++ "'"

inductive Failure
  | undefinedVariable (name : String)
  | invalidVariableName (name : String)
  | invalidArgument (function : Builtin) (fault : ArgumentFault)
  /-- The index stands as it was written, so that one of any size can be shown. -/
  | indexOutOfBounds (index : String) (length : Nat)
  | unknownFunction (name : String)
  | arityMismatch (function : Builtin) (got : Nat)
  | iterationLimit (limit : Nat)
  | parse (error : ParseError)
deriving Repr

def Failure.message : Failure → String
  | undefinedVariable name => "Variable '" ++ name ++ "' not defined"
  | invalidVariableName name => "Variable name must be digits: " ++ name
  | invalidArgument function fault => function.name ++ ": " ++ fault.message
  | indexOutOfBounds index length =>
    "Index " ++ index ++ " out of bounds (length: " ++ toString length ++ ")"
  | unknownFunction name => "Unknown function '" ++ name ++ "'"
  | arityMismatch function got =>
    function.name ++ " expects " ++ toString function.arity ++
      (if function.arity = 1 then " argument" else " arguments") ++ ", got " ++ toString got
  | iterationLimit limit => "While loop exceeded maximum iterations (" ++ toString limit ++ ")"
  | parse error => error.message

end StringScript
