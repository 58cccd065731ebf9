/-! # Reading files

What can go wrong when a file is read, and a folder of files held in memory. -/

namespace Treewalk

inductive ReadError where
  /-- Refused by the system, with its reason and the number of that reason. -/
  | system (reason : String) (code : Nat)
  /-- The bytes are no text. -/
  | notText
  deriving DecidableEq

namespace ReadError

def notFound : ReadError := .system "No such file or directory" 2

def notADirectory : ReadError := .system "Not a directory" 20

def isADirectory : ReadError := .system "Is a directory" 21

def nameTooLong : ReadError := .system "File name too long" 36

def permissionDenied : ReadError := .system "Permission denied" 13

/-- The error of a given number, with the reason the system gave unless it is a common one. -/
def ofCode (code : Nat) (reason : String) : ReadError :=
  match code with
  | 2 => notFound
  | 13 => permissionDenied
  | 20 => notADirectory
  | 21 => isADirectory
  | 36 => nameTooLong
  | _ => .system reason code

def message : ReadError → String
  | .system reason code => reason ++ " (os error " ++ code.repr ++ ")"
  | .notText => "stream did not contain valid UTF-8"

end ReadError

/-- Files under their paths. A path is the list of its names; the paths in front of it are those of
folders. -/
structure Folder where
  files : List (List String × String)

namespace Folder

/-- The names that a path is made of. Empty ones, other than the last, mean nothing, and neither do
dots. -/
def names (path : String) : List String :=
  ((path.splitOn "/").filter fun name => name ≠ "" ∧ name ≠ ".")

/-- Files given by their relative paths. -/
def ofList (files : List (String × String)) : Folder :=
  ⟨files.map fun (path, text) => (names path, text)⟩

def file? (d : Folder) (path : List String) : Option String :=
  (d.files.find? fun f => f.1 = path).map (·.2)

def isFolder (d : Folder) (path : List String) : Bool :=
  path.isEmpty || d.files.any fun f => path.isPrefixOf f.1 && path ≠ f.1

/-- Where a path leads. -/
inductive Place where
  /-- To a path from the folder on, given with its last name first. -/
  | inside (path : List String)
  /-- To a folder that holds this one. Nothing else is known of it. -/
  | outside

/-- Names have at most this many bytes. -/
def nameLimit : Nat := 255

/-- Paths have fewer than this many bytes. -/
def pathLimit : Nat := 4096

/-- Takes one step from a place. Two dots lead to the folder that holds it. -/
def enter (d : Folder) (name : String) : Place → Except ReadError Place
  | .outside =>
    if name = ".." then .ok .outside
    else .error (if nameLimit < name.utf8ByteSize then .nameTooLong else .notFound)
  | .inside path =>
    if !d.isFolder path.reverse then
      .error (if (d.file? path.reverse).isSome then .notADirectory else .notFound)
    else if name = ".." then
      match path with
      | [] => .ok .outside
      | _ :: outer => .ok (.inside outer)
    else if nameLimit < name.utf8ByteSize then .error .nameTooLong
    else .ok (.inside (name :: path))

/-- Follows names one after the other. -/
def follow (d : Folder) : List String → Place → Except ReadError Place
  | [], place => .ok place
  | name :: rest, place => do d.follow rest (← d.enter name place)

/-- The path demands a folder by its end. -/
def demandsFolder (path : String) : Bool :=
  path.endsWith "/" || path.endsWith "/."

/-- The text of the file at a path. A path that starts with a slash starts outside. -/
def read (d : Folder) (path : String) : Except ReadError String := do
  if path.isEmpty then throw .notFound
  if pathLimit ≤ path.utf8ByteSize then throw .nameTooLong
  let start := if path.startsWith "/" then .outside else .inside []
  match ← d.follow (names path) start with
  | .outside => throw .isADirectory
  | .inside place =>
    if d.isFolder place.reverse then throw .isADirectory
    match d.file? place.reverse with
    | none => throw .notFound
    | some text => if demandsFolder path then throw .notADirectory else return text

end Folder

end Treewalk
