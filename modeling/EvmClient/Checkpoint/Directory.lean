import EvmClient.Bytes

/-
A directory of a file system: names that stand for files or for further directories.

   The operations are those that a store needs, each with the reason why it fails. -/
namespace EvmClient

inductive DirectoryEntry where
  | file (content : Bytes)
  | folder
deriving DecidableEq, Repr

/-- Each name stands at most once. -/
structure Directory where
  entries : List (String × DirectoryEntry)
deriving DecidableEq, Repr, Inhabited

/-- Why an operation on files fails. -/
inductive FileError where
  | notFound
  | isFolder
  | notFolder
  | notText
  | nameTooLong
  | invalidName
deriving DecidableEq, Repr

def FileError.message : FileError → String
  | .notFound => "No such file or directory"
  | .isFolder => "Is a directory"
  | .notFolder => "Not a directory"
  | .notText => "stream did not contain valid UTF-8"
  | .nameTooLong => "File name too long"
  | .invalidName => "file name contained an unexpected NUL byte"

namespace Directory

def empty : Directory := ⟨[]⟩

def find? (d : Directory) (name : String) : Option DirectoryEntry := d.entries.lookup name

def erase (d : Directory) (name : String) : Directory := ⟨d.entries.filter (·.1 != name)⟩

def set (d : Directory) (name : String) (e : DirectoryEntry) : Directory := ⟨(name, e) :: (d.erase name).entries⟩

/-- The names in order. -/
def names (d : Directory) : List String := (d.entries.map (·.1)).mergeSort (fun a b => decide (a ≤ b))

/-- The content of a file. -/
def read (d : Directory) (name : String) : Except FileError Bytes :=
  match d.find? name with
  | none => .error .notFound
  | some .folder => .error .isFolder
  | some (.file b) => .ok b

/-- The text of a file. -/
def readText (d : Directory) (name : String) : Except FileError String :=
  match d.read name with
  | .error e => .error e
  | .ok b =>
    match String.fromUTF8? ⟨b.toArray⟩ with
    | some s => .ok s
    | none => .error .notText

/-- An empty file, in place of the file that was there. -/
def create (d : Directory) (name : String) : Except FileError Directory :=
  match d.find? name with
  | some .folder => .error .isFolder
  | _ => .ok (d.set name (.file []))

/-- Bytes behind those of a file, which is made where it is missing. -/
def append (d : Directory) (name : String) (b : Bytes) : Except FileError Directory :=
  match d.find? name with
  | some .folder => .error .isFolder
  | some (.file a) => .ok (d.set name (.file (a ++ b)))
  | none => .ok (d.set name (.file b))

/-- A file with this content, in place of the file that was there. -/
def write (d : Directory) (name : String) (b : Bytes) : Except FileError Directory :=
  match d.create name with
  | .error e => .error e
  | .ok d => d.append name b

/-- Gives a file another name; the file that had this name is gone. -/
def rename (d : Directory) (source target : String) : Except FileError Directory :=
  match d.find? source, d.find? target with
  | none, _ => .error .notFound
  | _, some .folder => .error .isFolder
  | some e, _ => .ok ((d.erase source).set target e)

/-! ## What an operation does to the entries -/

@[simp] theorem find?_empty (name : String) : empty.find? name = none := rfl

theorem lookup_cons_ne {a b : String} (e : DirectoryEntry) (rest : List (String × DirectoryEntry)) (h : a ≠ b) :
    ((b, e) :: rest).lookup a = rest.lookup a := by
  rw [List.lookup_cons, beq_eq_false_iff_ne.2 h]

theorem find?_erase (d : Directory) (name other : String) :
    (d.erase name).find? other = if other = name then none else d.find? other := by
  obtain ⟨es⟩ := d
  simp only [erase, find?]
  induction es with
  | nil => simp
  | cons p rest ih =>
    obtain ⟨a, e⟩ := p
    by_cases ha : a = name
    · subst ha
      rw [List.filter_cons_of_neg (by simp), ih]
      split
      · rfl
      · rename_i ho
        rw [lookup_cons_ne e rest ho]
    · rw [List.filter_cons_of_pos (by simpa using ha)]
      by_cases ho : other = a
      · subst ho; simp [ha]
      · rw [lookup_cons_ne e _ ho, lookup_cons_ne e _ ho, ih]

theorem find?_set (d : Directory) (name other : String) (e : DirectoryEntry) :
    (d.set name e).find? other = if other = name then some e else d.find? other := by
  by_cases ho : other = name
  · subst ho; simp [set, find?]
  · have h := find?_erase d name other
    simp only [find?, if_neg ho] at h
    simp only [set, find?, lookup_cons_ne e _ ho, if_neg ho, h]

end Directory
end EvmClient
