import StringScript.Text.Bytes

/-!
# Files

A tree of files and directories, and what reading a path of it gives.
-/

namespace StringScript.CommandLine

inductive FileError
  | notFound
  | isDirectory
  /-- The path goes through a plain file. -/
  | notDirectory
  | notText
deriving Repr, DecidableEq

def FileError.message : FileError → String
  | notFound => "No such file or directory (os error 2)"
  | isDirectory => "Is a directory (os error 21)"
  | notDirectory => "Not a directory (os error 20)"
  | notText => "stream did not contain valid UTF-8"

inductive Entry
  | file (content : Text.ByteText)
  | directory
deriving Repr, DecidableEq

/-- The entries of a tree by the names on the way to them. -/
structure FileTree where
  entries : List (List String × Entry)
deriving Repr

namespace FileTree

/-- The names in a path. A slash at the end stands before an empty name. -/
def names (path : String) : List String :=
  (path.toList.splitOn '/').map String.ofList

def isStay (name : String) : Bool := name.isEmpty || name = "."

/-- What is at the end of a way from the top; each directory on the way to an entry is there too. -/
def entryAt (tree : FileTree) (way : List String) : Except FileError Entry :=
  match tree.entries.lookup way with
  | some entry => .ok entry
  | none =>
    if tree.entries.any fun (other, _) => way.isPrefixOf other then .ok .directory
    else .error .notFound

/-- Follows names in the directories above the top, which hold nothing that is known. -/
def followAbove : List String → Except FileError Entry
  | [] => .ok .directory
  | name :: rest => if isStay name || name = ".." then followAbove rest else .error .notFound

def follow (tree : FileTree) (way : List String) (entry : Entry) :
    List String → Except FileError Entry
  | [] => .ok entry
  | name :: rest =>
    match entry with
    | .file _ => .error .notDirectory
    | .directory =>
      if isStay name then tree.follow way .directory rest
      else if name = ".." then
        if way.isEmpty then followAbove rest else tree.follow way.dropLast .directory rest
      else
        match tree.entryAt (way ++ [name]) with
        | .error e => .error e
        | .ok next => tree.follow (way ++ [name]) next rest

/-- What a path leads to; it is relative to the top unless it starts with a slash. -/
def find (tree : FileTree) (path : String) : Except FileError Entry :=
  if path.isEmpty then .error .notFound
  else if path.toList.head? = some '/' then followAbove (names path)
  else tree.follow [] .directory (names path)

def ofPaths (listed : List (String × Entry)) : FileTree :=
  ⟨listed.map fun (path, entry) => ((names path).filter fun name => !isStay name, entry)⟩

def readText (tree : FileTree) (path : String) : Except FileError String :=
  match tree.find path with
  | .error e => .error e
  | .ok .directory => .error .isDirectory
  | .ok (.file content) =>
    match content.toString? with
    | some text => .ok text
    | none => .error .notText

def has (tree : FileTree) (path : String) : Bool :=
  match tree.find path with
  | .ok _ => true
  | .error _ => false

end FileTree

end StringScript.CommandLine
