import EvmClient.Checkpoint.Directory

/-
Paths below a root, and the directories that they lead to.

   A path is walked name by name, as it is written. An empty name and a single dot stay, two dots lead one
   directory up, and a directory that is missing is made and entered. Only the name in front of a final dot
   has to be there already, since the dot asks for what is in it. No file gives way to a directory. -/
namespace EvmClient

/-- A directory with the directories in it, each under a name that stands for a folder. One that is not
listed is empty. -/
inductive Folder where
  | mk (directory : Directory) (below : List (String × Folder))
deriving Inhabited

namespace Folder

def directory : Folder → Directory
  | .mk d _ => d

def empty : Folder := .mk .empty []

def child (f : Folder) (name : String) : Folder :=
  match f with
  | .mk _ below => (below.lookup name).getD .empty

/-- Puts a directory under a name. -/
def put (f : Folder) (name : String) (child : Folder) : Folder :=
  match f with
  | .mk d below => .mk (d.set name .folder) ((name, child) :: below.filter (·.1 != name))

end Folder

/-- A directory on the way, with those above it, the nearest first, and the names that lead down. -/
structure Place where
  here : Folder
  above : List (String × Folder)

namespace Place

/-- The most bytes of a name. -/
def longestName : Nat := 255

/-- The most bytes of a path. -/
def longestPath : Nat := 4095

/-- The directory above; there is none above the root. -/
def up (p : Place) : Place :=
  match p.above with
  | [] => p
  | (name, parent) :: above => ⟨parent.put name p.here, above⟩

/-- Goes into a directory, which is made if it is missing and need not be there. -/
def enter (p : Place) (name : String) (isThere : Bool) : Except FileError Place :=
  if longestName < name.utf8ByteSize then .error .nameTooLong
  else
    match p.here.directory.find? name with
    | some (.file _) => .error .notFolder
    | some .folder => .ok ⟨p.here.child name, (name, p.here) :: p.above⟩
    | none => if isThere then .error .notFound else .ok ⟨.empty, (name, p.here) :: p.above⟩

/-- Nothing but a dot, or several, follows. -/
def endsInDot (rest : List String) : Bool := rest.all (fun name => name == "" || name == ".") && rest.contains "."

/-- Walks along names. -/
def walk (p : Place) : List String → Except FileError Place
  | [] => .ok p
  | name :: rest =>
    if name = "" ∨ name = "." then p.walk rest
    else if name = ".." then p.up.walk rest
    else
      match p.enter name (endsInDot rest) with
      | .error e => .error e
      | .ok p => p.walk rest

end Place

/-- The directory that a path below a root leads to. -/
def Directory.below (root : Directory) (path : String) : Except FileError Directory :=
  if path.toList.contains '\x00' then .error .invalidName
  else if Place.longestPath < path.utf8ByteSize then .error .nameTooLong
  else
    match (Place.mk (.mk root []) []).walk (path.splitOn "/") with
    | .error e => .error e
    | .ok p => .ok p.here.directory

end EvmClient
