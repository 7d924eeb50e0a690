/-!
# Files

What a program can find out about files is told by two answers: whether the operating system opens a
path for reading, and what comes of reading a file whole.  `FileSystem` is any such pair of answers.
A path may be absolute or relative and may lead anywhere, and the system may refuse it for any reason;
only a path with a NUL in it is never handed to the system (`openFile`).

`FileSystem.ofFiles` is the one that holds a few known files.  It walks along the components of a path
from left to right, each of which has to be found in a directory; directories can be opened too.

What tells one path from another, whatever files there are, is its route (`samePath`).
-/

namespace ClientWiring

/-! ## Faults -/

/-- The refusal of the operating system to open a path: its number and its words. -/
structure Refusal where
  number : Nat
  words : String
deriving DecidableEq, Repr

namespace Refusal

/-- There is no such file. -/
def notFound : Refusal := ⟨2, "No such file or directory"⟩

/-- The file may not be read. -/
def permissionDenied : Refusal := ⟨13, "Permission denied"⟩

/-- The path goes on behind something that is no directory. -/
def notADirectory : Refusal := ⟨20, "Not a directory"⟩

/-- The path or one of its components is too long. -/
def nameTooLong : Refusal := ⟨36, "File name too long"⟩

/-- The class of a refusal, by the numbers of the operating system. -/
def className (r : Refusal) : String :=
  match r.number with
  | 1 | 13 => "PermissionDenied"
  | 2 => "NotFound"
  | 4 => "Interrupted"
  | 11 => "WouldBlock"
  | 12 => "OutOfMemory"
  | 16 => "ResourceBusy"
  | 20 => "NotADirectory"
  | 21 => "IsADirectory"
  | 22 => "InvalidInput"
  | 26 => "ExecutableFileBusy"
  | 27 => "FileTooLarge"
  | 28 => "StorageFull"
  | 30 => "ReadOnlyFilesystem"
  | 36 => "InvalidFilename"
  | 38 | 95 => "Unsupported"
  | 40 => "FilesystemLoop"
  | 110 => "TimedOut"
  | 116 => "StaleNetworkFileHandle"
  | 122 => "QuotaExceeded"
  | _ => "Uncategorized"

end Refusal

/-- Why a path cannot be opened. -/
inductive OpenFault where
  | embeddedNul
  | refused (refusal : Refusal)
deriving DecidableEq, Repr

namespace OpenFault

/-- The class of a fault. -/
def className : OpenFault → String
  | embeddedNul => "InvalidInput"
  | refused refusal => refusal.className

/-- The wording of a fault. -/
def message : OpenFault → String
  | embeddedNul => "file name contained an unexpected NUL byte"
  | refused refusal => refusal.words ++ " (os error " ++ refusal.number.repr ++ ")"

end OpenFault

/-! ## File systems -/

/-- What comes of reading a file whole. -/
inductive Reading where
  /-- There is no regular file of this name. -/
  | missing
  /-- There is one, which cannot be read or is no text. -/
  | unreadable
  | text (content : String)
deriving DecidableEq, Repr

/-- The files as they are at some time. -/
structure FileSystem where
  /-- The answer of the operating system to a path that is to be opened for reading. -/
  answer : String → Except Refusal Unit
  read : String → Reading

/-- Opens a path for reading. -/
def FileSystem.openFile (fs : FileSystem) (path : String) : Except OpenFault Unit :=
  if path.toList.contains '\x00' then .error .embeddedNul
  else
    match fs.answer path with
    | .ok () => .ok ()
    | .error refusal => .error (.refused refusal)

namespace FileSystem

/-- Files that may not be read, whatever their paths. -/
def locked : FileSystem where
  answer _ := .error .permissionDenied
  read _ := .unreadable

/-! ## Routes -/

/-- The components of a path. -/
abbrev Components := List (List Char)

/-- What tells one path from another: whether it starts at the root, whether it starts at the
working directory by name, and its components without empty ones and points. -/
structure Route where
  fromRoot : Bool
  fromPoint : Bool
  names : Components
deriving DecidableEq, Repr

/-- The route that a path describes. -/
def Route.ofPath (path : String) : Route :=
  let all := path.toList.splitOn '/'
  let fromRoot := path.toList.head? = some '/'
  { fromRoot
    fromPoint := !fromRoot && all.head? = some ['.']
    names := all.filter fun name => name ≠ [] ∧ name ≠ ['.'] }

/-- Whether two paths describe the same route. -/
def samePath (a b : String) : Bool := Route.ofPath a = Route.ofPath b

/-! ## A few known files -/

/-- Where a walk stands: a directory below the root or below the working directory, a file with its
content, or a directory above the working directory, of which nothing is known. -/
inductive Place where
  | directory (fromRoot : Bool) (path : Components)
  | file (content : String)
  | above
deriving Repr

/-- Files by path, those with a relative one below the working directory. -/
abbrev Known := List (String × String)

namespace Known

/-- What stands at these components below the root or below the working directory. -/
def find? (files : Known) (fromRoot : Bool) (path : Components) : Option Place :=
  let routes := files.map fun f => (Route.ofPath f.1, f.2)
  let there := routes.filter fun f => f.1.fromRoot = fromRoot
  match there.find? fun f => f.1.names = path with
  | some f => some (.file f.2)
  | none =>
    if there.any fun f => path.isPrefixOf f.1.names then some (.directory fromRoot path) else none

/-- One step of a walk. -/
def step (files : Known) (name : List Char) : Place → Except Refusal Place
  | .file _ => .error .notADirectory
  | .above =>
    if name = [] ∨ name = ['.'] ∨ name = ['.', '.'] then .ok .above
    else if 255 < (String.ofList name).utf8ByteSize then .error .nameTooLong
    else .error .notFound
  | .directory fromRoot path =>
    if name = [] ∨ name = ['.'] then .ok (.directory fromRoot path)
    else if name = ['.', '.'] then
      .ok (if path = [] ∧ !fromRoot then .above else .directory fromRoot path.dropLast)
    else if 255 < (String.ofList name).utf8ByteSize then .error .nameTooLong
    else
      match files.find? fromRoot (path ++ [name]) with
      | some place => .ok place
      | none => .error .notFound

/-- Walks along components. -/
def walk (files : Known) (place : Place) : Components → Except Refusal Place
  | [] => .ok place
  | name :: rest =>
    match files.step name place with
    | .ok next => files.walk next rest
    | .error refusal => .error refusal

/-- The place that a path leads to.  The length of the whole path is checked before the walk. -/
def resolve (files : Known) (path : String) : Except Refusal Place :=
  let cs := path.toList
  if cs = [] then .error .notFound
  else if 4096 ≤ path.utf8ByteSize then .error .nameTooLong
  else files.walk (.directory (cs.head? = some '/') []) (cs.splitOn '/')

end Known

/-- The file system that holds these files and no others. -/
def ofFiles (files : Known) : FileSystem where
  answer path :=
    match files.resolve path with
    | .ok _ => .ok ()
    | .error refusal => .error refusal
  read path :=
    match files.resolve path with
    | .ok (.file content) => .text content
    | _ => .missing

end FileSystem

end ClientWiring
