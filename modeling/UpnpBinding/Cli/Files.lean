import UpnpBinding.Text.Printable
import UpnpBinding.Text.Basic
/-!
The files a run reads. A path is followed one component at a time, from the working directory,
or from the root when it starts with a slash: an empty component and `.` stay where they are,
`..` goes up, and any component after a file, even the empty one after a final slash, is
refused, since a file is not a directory. A path that ends at a directory is not a file to read.
A component longer than 255 bytes is refused when it is looked up, and so is a whole path of
4096 bytes or more before anything is looked up.

A run without a disk reads from a tree of files held in memory, each given by its path from the
working directory. Only the directories that hold its files are known inside it; above the
working directory there are directories, but no entry of theirs is known by name.
-/
namespace UpnpBinding.Cli

/-- Why a file cannot be read. -/
inductive FileError where
  | notFound (path : String)
  | notDirectory (path : String)
  | isDirectory (path : String)
  | nameTooLong (path : String)
  | other (message : String)
  deriving Inhabited

def FileError.message : FileError → String
  | .notFound p => "[Errno 2] No such file or directory: " ++ Text.literal p
  | .notDirectory p => "[Errno 20] Not a directory: " ++ Text.literal p
  | .isDirectory p => "[Errno 21] Is a directory: " ++ Text.literal p
  | .nameTooLong p => "[Errno 36] File name too long: " ++ Text.literal p
  | .other m => m

def nameMax : Nat := 255

def pathMax : Nat := 4096

/-- Where following a path has got to. -/
inductive Place where
  | directory (parts : List String)
  | file (parts : List String)
  | outside
  deriving DecidableEq, Inhabited

/-- Where following a path ends: at a place, at a component that names nothing, at a component
after a file, or at a component too long to be a name. -/
inductive Reached where
  | place (p : Place)
  | missing
  | throughFile
  | tooLong
  deriving DecidableEq, Inhabited

/-- A tree of files in memory: the components of each file's path from the working directory,
and its contents. -/
structure FileTree where
  files : List (List String × ByteArray)
  deriving Inhabited

namespace FileTree

def components (path : String) : List String :=
  (Text.splitAt '/' path).filter fun c => !c.isEmpty && c != "."

def ofFiles (files : List (String × ByteArray)) : FileTree :=
  ⟨files.map fun (p, b) => (components p, b)⟩

def isFile (t : FileTree) (parts : List String) : Bool :=
  t.files.any (·.1 == parts)

def isDirectory (t : FileTree) (parts : List String) : Bool :=
  t.files.any fun f => parts.length < f.1.length && f.1.take parts.length == parts

def staysPut (c : String) : Bool := c.isEmpty || c == "."

def follow (t : FileTree) : Place → List String → Reached
  | p, [] => .place p
  | .file _, _ :: _ => .throughFile
  | .directory d, c :: rest =>
    if staysPut c then t.follow (.directory d) rest
    else if c == ".." then t.follow (if d.isEmpty then .outside else .directory d.dropLast) rest
    else
      let q := d ++ [c]
      if t.isFile q then t.follow (.file q) rest
      else if t.isDirectory q then t.follow (.directory q) rest
      else if nameMax < c.utf8ByteSize then .tooLong
      else .missing
  | .outside, c :: rest =>
    if staysPut c || c == ".." then t.follow .outside rest
    else if nameMax < c.utf8ByteSize then .tooLong
    else .missing

def read (t : FileTree) (path : String) : Except FileError ByteArray :=
  if path.isEmpty then .error (.notFound path)
  else if pathMax ≤ path.utf8ByteSize then .error (.nameTooLong path)
  else
    let start := if path.startsWith "/" then Place.outside else .directory []
    match t.follow start (Text.splitAt '/' path) with
    | .place (.file parts) =>
      match t.files.find? (·.1 == parts) with
      | some (_, b) => .ok b
      | none => .error (.notFound path)
    | .place _ => .error (.isDirectory path)
    | .missing => .error (.notFound path)
    | .throughFile => .error (.notDirectory path)
    | .tooLong => .error (.nameTooLong path)

end FileTree

end UpnpBinding.Cli
