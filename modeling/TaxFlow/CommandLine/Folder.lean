import TaxFlow.Text.Quoted

/-!
# Folders

The files that the command line can see, by path, and how paths lead to them. Directories are those
that the paths of files name.
-/
namespace TaxFlow

/-- Files by the parts of their paths. Absolute paths begin with a slash as their first part, and
those that leave the folder with two points. -/
abbrev Folder := List (List String × ByteArray)

inductive FolderFault where
  | noSuchDirectory
  | isDirectory
  | notDirectory
  | nullCharacter
  /-- What the system itself has against it. -/
  | system (code : Nat) (reason : String)
  deriving DecidableEq, Repr

def FolderFault.message (path : String) : FolderFault → String
  | noSuchDirectory => numbered 2 "No such file or directory"
  | isDirectory => numbered 21 "Is a directory"
  | notDirectory => numbered 20 "Not a directory"
  | nullCharacter => "embedded null byte"
  | system code reason => numbered code reason
where
  numbered (code : Nat) (reason : String) : String :=
    "[Errno " ++ toString code ++ "] " ++ reason ++ ": " ++ Text.quote path

namespace Folder

def parts (path : String) : List String :=
  let inner := ((path.toList.splitOn '/').filter (· ≠ [])).map String.ofList
  if path.toList.head? = some '/' then "/" :: inner else inner

/-- Whether a path can only lead to a directory. -/
def endsInSlash (path : String) : Bool := path.toList.getLast? == some '/'

/-- Whether a path is a directory: one that the path of a file names, the folder itself, one around
it, or the root. -/
def isDirectory (f : Folder) (path : List String) : Bool :=
  path.all (fun part => part = ".." || part = "/") ||
    f.any fun entry => path.isPrefixOf entry.1 && path != entry.1

def isFile (f : Folder) (path : List String) : Bool := f.any fun entry => entry.1 = path

def upward (path : List String) : List String :=
  match path.getLast? with
  | none | some ".." => path ++ [".."]
  | some "/" => path
  | some _ => path.dropLast

/-- Where the parts of a path lead from a directory. Only the last one need not be there. -/
def locateFrom (f : Folder) (here : List String) : List String → Except FolderFault (List String)
  | [] => .ok here
  | part :: rest =>
    if part = "." then locateFrom f here rest
    else if part = ".." then locateFrom f (upward here) rest
    else if part = "/" then locateFrom f ["/"] rest
    else if rest.isEmpty then .ok (here ++ [part])
    else if f.isDirectory (here ++ [part]) then locateFrom f (here ++ [part]) rest
    else if f.isFile (here ++ [part]) then .error .notDirectory
    else .error .noSuchDirectory

def locate (f : Folder) (path : String) : Except FolderFault (List String) :=
  if path.toList.contains '\x00' then .error .nullCharacter else f.locateFrom [] (parts path)

def read? (f : Folder) (path : String) : Option ByteArray :=
  match f.locate path with
  | .ok p => if endsInSlash path then none else f.lookup p
  | .error _ => none

/-- The folder with a file at these parts, which is made if it is not there. -/
def put (f : Folder) (path : List String) (content : ByteArray) : Folder :=
  if f.isFile path then f.map fun entry => if entry.1 = path then (path, content) else entry
  else f ++ [(path, content)]

def write (f : Folder) (path : String) (content : ByteArray) : Except FolderFault Folder := do
  let p ← f.locate path
  if endsInSlash path || f.isDirectory p then .error .isDirectory
  else .ok (f.put p content)

/-- Where parts lead if all directories are there. -/
def settled (path : List String) : List String :=
  path.foldl (fun here part =>
    if part = "." then here else if part = ".." then upward here else here ++ [part]) []

/-- The folder with all directories on the way to a path, each marked by an entry without a name. -/
def withWay (f : Folder) (path : String) : Folder :=
  let way := (parts path).dropLast
  f ++ (List.range way.length).map fun n => (settled (way.take (n + 1)) ++ [""], ByteArray.empty)

end Folder
end TaxFlow
