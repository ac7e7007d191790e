/-!
# Occurrences of one text in another

Occurrences are looked for from the left and do not overlap. `fields` cuts at them, `replaceAll`
puts another text in their place, and `hasInfix` asks whether there is one.
-/

namespace StringScript.Text

/-- The fields of `s` between the occurrences of the non-empty text `sep`; `skip` characters of `s`
belong to an occurrence that is already found. -/
def fieldsFrom (sep : List Char) : Nat → List Char → List (List Char)
  | _, [] => [[]]
  | skip + 1, _ :: rest => fieldsFrom sep skip rest
  | 0, c :: rest =>
    if sep.isPrefixOf (c :: rest) then [] :: fieldsFrom sep (sep.length - 1) rest
    else (fieldsFrom sep 0 rest).modifyHead (c :: ·)

/-- The fields of `s`: its parts between the occurrences of `sep`, and for the empty `sep` its
single characters. -/
def fields (sep s : List Char) : List (List Char) :=
  if sep.isEmpty then s.map ([·]) else fieldsFrom sep 0 s

/-- `s` with `new` for each occurrence of the non-empty text `old`; `skip` characters of `s` belong
to an occurrence that is already replaced. -/
def replaceFrom (old new : List Char) : Nat → List Char → List Char
  | _, [] => []
  | skip + 1, _ :: rest => replaceFrom old new skip rest
  | 0, c :: rest =>
    if old.isPrefixOf (c :: rest) then new ++ replaceFrom old new (old.length - 1) rest
    else c :: replaceFrom old new 0 rest

/-- `s` with `new` for each occurrence of `old`. The empty `old` occurs before each character and at
the end. -/
def replaceAll (old new s : List Char) : List Char :=
  if old.isEmpty then s.flatMap (fun c => new ++ [c]) ++ new else replaceFrom old new 0 s

def hasInfix (t : List Char) : List Char → Bool
  | [] => t.isEmpty
  | c :: rest => t.isPrefixOf (c :: rest) || hasInfix t rest

/-- The parts of `s` before and after the first `sep`, if there is one. -/
def cutAt? (sep : Char) : List Char → Option (List Char × List Char)
  | [] => none
  | c :: rest =>
    if c = sep then some ([], rest)
    else (cutAt? sep rest).map fun (before, after) => (c :: before, after)

end StringScript.Text
