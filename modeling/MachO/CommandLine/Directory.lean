import MachO.ByteOrder

/-!
# Directories

The files in a directory, and what is found under a path.  A path is followed
one name at a time: an empty name or a single dot stays where it is, two dots
go back, perhaps out of the directory, and nothing goes on from a file.
-/

namespace MachO.CommandLine

inductive PathError
  | missing
  | notFolder
  | nameTooLong
  deriving DecidableEq

def PathError.message : PathError → String
  | missing => "No such file or directory (os error 2)"
  | notFolder => "Not a directory (os error 20)"
  | nameTooLong => "File name too long (os error 36)"

inductive Found
  | file (contents : Bytes)
  | folder
  | nothing (reason : PathError)
  deriving DecidableEq

/-- The files of a directory, each under the names that lead to it. -/
structure Directory where
  files : List (List String × Bytes)

namespace Directory

def names (path : String) : List String :=
  let cut := path.toList.foldr
    (fun c cut =>
      if c = '/' then [] :: cut
      else match cut with
        | [] => [[c]]
        | name :: rest => (c :: name) :: rest)
    [[]]
  cut.map String.ofList

/-- A name that leads nowhere else. -/
def isIdle (name : String) : Bool :=
  name == "" || name == "."

def ofFiles (files : List (String × Bytes)) : Directory :=
  ⟨files.map fun (path, contents) =>
    ((names path).filter fun name => !isIdle name, contents)⟩

inductive Place
  | inside (folder : List String)
  /-- A folder around the directory, in which nothing else is known to be. -/
  | outside
  | atFile (contents : Bytes)
  deriving DecidableEq

/-- The longest name that a file can have, in bytes. -/
def longestName : Nat := 255

/-- The longest path that is followed, in bytes. -/
def longestPath : Nat := 4095

def enter (directory : Directory) (folder : List String) (name : String) :
    Except PathError Place :=
  let inner := folder ++ [name]
  match directory.files.lookup inner with
  | some contents => .ok (.atFile contents)
  | none =>
      if directory.files.any fun file => inner.isPrefixOf file.1 then
        .ok (.inside inner)
      else
        .error .missing

def leave : List String → Place
  | [] => .outside
  | folder => .inside folder.dropLast

def follow (directory : Directory) (place : Place) (name : String) :
    Except PathError Place :=
  match place with
  | .atFile _ => .error .notFolder
  | .inside folder =>
      if isIdle name then .ok place
      else if name = ".." then .ok (leave folder)
      else if longestName < name.utf8ByteSize then .error .nameTooLong
      else directory.enter folder name
  | .outside =>
      if isIdle name || name == ".." then .ok place
      else if longestName < name.utf8ByteSize then .error .nameTooLong
      else .error .missing

def find (directory : Directory) (path : String) : Found :=
  if longestPath < path.utf8ByteSize then .nothing .nameTooLong
  else
    let start := if path.toList.head? = some '/' then .outside else .inside []
    match (names path).foldlM directory.follow start with
    | .error reason => .nothing reason
    | .ok (.inside _) => .folder
    | .ok .outside => .folder
    | .ok (.atFile contents) => .file contents

end Directory

end MachO.CommandLine
