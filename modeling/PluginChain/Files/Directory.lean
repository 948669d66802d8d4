/-!
# Files in a directory

A path is a sequence of bytes, cut into names at the slashes. It is walked from the working
directory, whose files are known with all they hold. What lies outside is known to have directories
above the working one and nothing else.
-/

namespace PluginChain

/-- Why a file cannot be read. -/
inductive FileError where
  | notFound
  | notDirectory
  | isDirectory
  | nameTooLong
  /-- The path holds a NUL byte. -/
  | nulInPath
  /-- The file was to be text and is not UTF-8. -/
  | notText
  /-- Any other failure, in the words of the operating system. -/
  | other (detail : String)
deriving DecidableEq, Repr

/-- The wording of a failure. -/
def FileError.message : FileError → String
  | notFound => "No such file or directory (os error 2)"
  | notDirectory => "Not a directory (os error 20)"
  | isDirectory => "Is a directory (os error 21)"
  | nameTooLong => "File name too long (os error 36)"
  | nulInPath => "file name contained an unexpected NUL byte"
  | notText => "stream did not contain valid UTF-8"
  | other detail => detail

/-- A path as its bytes. -/
abbrev Path := List UInt8

namespace Path

/-- The names of a path, cut at the slashes; `name` is what precedes of the first one. -/
def namesAfter (name : List UInt8) : Path → List (List UInt8)
  | [] => [name]
  | b :: rest => if b = 0x2F then name :: namesAfter [] rest else namesAfter (name ++ [b]) rest

/-- The names of a path, cut at the slashes. -/
def names (path : Path) : List (List UInt8) := namesAfter [] path

/-- The name that means the directory itself. -/
def here : List UInt8 := [0x2E]

/-- The name that means the directory above. -/
def above : List UInt8 := [0x2E, 0x2E]

/-- The greatest length of one name. -/
def nameLimit : Nat := 255

/-- The greatest length of a path. -/
def pathLimit : Nat := 4095

end Path

/-- The files below a working directory, each with the names that lead to it. -/
structure Directory where
  files : List (List (List UInt8) × Array UInt8) := []

namespace Directory

/-- Where a walk has come to. -/
inductive Place where
  /-- In a directory below the working one, by the names that lead to it. -/
  | inside (names : List (List UInt8))
  /-- In a directory above the working one, or in the root. -/
  | outside
  /-- At a file. -/
  | file (content : Array UInt8)

/-- Adds a file. -/
def add (d : Directory) (path : Path) (content : Array UInt8) : Directory :=
  { d with files := (path.names, content) :: d.files }

/-- Whether some file lies below a directory. -/
def hasDirectory (d : Directory) (names : List (List UInt8)) : Bool :=
  d.files.any fun f => names.isPrefixOf f.1 && names.length < f.1.length

/-- Goes on by one name. -/
def enter (d : Directory) (place : Place) (name : List UInt8) : Except FileError Place :=
  match place with
  | .file _ => .error .notDirectory
  | .outside =>
    if name = [] ∨ name = Path.here ∨ name = Path.above then .ok .outside
    else if Path.nameLimit < name.length then .error .nameTooLong
    else .error .notFound
  | .inside names =>
    if name = [] ∨ name = Path.here then .ok (.inside names)
    else if name = Path.above then .ok (if names = [] then .outside else .inside names.dropLast)
    else if Path.nameLimit < name.length then .error .nameTooLong
    else match d.files.lookup (names ++ [name]) with
      | some content => .ok (.file content)
      | none => if d.hasDirectory (names ++ [name]) then .ok (.inside (names ++ [name]))
        else .error .notFound

/-- Walks along names. -/
def walk (d : Directory) (place : Place) : List (List UInt8) → Except FileError Place
  | [] => .ok place
  | name :: rest => do
    let place ← d.enter place name
    d.walk place rest

/-- Reads the file that a path leads to. -/
def read (d : Directory) (path : Path) : Except FileError (Array UInt8) := do
  if path.contains 0 then throw .nulInPath
  if path = [] then throw .notFound
  if Path.pathLimit < path.length then throw .nameTooLong
  let start := if path.head? = some 0x2F then Place.outside else Place.inside []
  match ← d.walk start path.names with
  | .file content => return content
  | _ => throw .isDirectory

end Directory

end PluginChain
