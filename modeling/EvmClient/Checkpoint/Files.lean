import EvmClient.Checkpoint
import EvmClient.Checkpoint.Path
import EvmClient.Json.Reader
import EvmClient.Json.Writer
import EvmClient.Text.Lines

/-
The store in two files of a directory.

   The height is a decimal number. It is written in steps: into a temporary file, which then takes the
   name of the height's file, so a write that is cut short leaves the old height. Failed transactions
   are appended, one JSON record a line. -/
namespace EvmClient

/-- The store's directory. -/
structure FileStore where
  directory : Directory
deriving DecidableEq, Inhabited

namespace FileStore

def heightFile : String := "latestNumber.info"
def temporaryFile : String := "latestNumber.info.tmp"
def failedFile : String := "errtx.info"

def ioError (e : FileError) : ClientError := .io e.message

/-! ## Reading -/

/-- The height that a text states; a blank text states none. -/
def heightOf (text : String) : Except ClientError Nat :=
  let trimmed := Text.trim text.toList
  if trimmed = [] then .ok 0
  else
    match Decimal.unsigned? UInt64.size trimmed with
    | some h => .ok h
    | none => .error (.checkpointCorrupt (Text.quoted '"' trimmed))

def readHeight (s : FileStore) : Except ClientError Nat :=
  match s.directory.readText heightFile with
  | .ok text => heightOf text
  | .error .notFound => .ok 0
  | .error e => .error (ioError e)

def recordOf (line : List Char) : Except ClientError FailedRecord :=
  match (Json.ofText? (String.ofList line)).bind FailedRecord.ofJson? with
  | some r => .ok r
  | none => .error (.checkpointCorrupt "the line is no record")

/-- The records in the order of their lines; blank lines are passed over. -/
def readFailed (s : FileStore) : Except ClientError (List FailedRecord) :=
  match s.directory.readText failedFile with
  | .ok text => ((Text.lines text.toList).filter (Text.trim · != [])).mapM recordOf
  | .error .notFound => .ok []
  | .error e => .error (ioError e)

/-! ## Writing -/

/-- A step of writing a height. -/
inductive WriteStep where
  | create
  | write (content : Bytes)
  | sync
  | rename
deriving DecidableEq

def WriteStep.perform : WriteStep → Directory → Except FileError Directory
  | .create, d => d.create temporaryFile
  | .write b, d => d.append temporaryFile b
  | .sync, d => .ok d
  | .rename, d => d.rename temporaryFile heightFile

/-- The bytes of a height's text. -/
def heightBytes (h : Nat) : Bytes := Hex.utf8 (Decimal.digits h)

def heightSteps (h : Nat) : List WriteStep := [.create, .write (heightBytes h), .sync, .rename]

/-- Performs steps up to the first that fails. -/
def performAll : List WriteStep → Directory → Except FileError Unit × Directory
  | [], d => (.ok (), d)
  | step :: rest, d =>
    match step.perform d with
    | .ok d => performAll rest d
    | .error e => (.error e, d)

def writeHeight (h : Nat) (s : FileStore) : Except ClientError Unit × FileStore :=
  match performAll (heightSteps h) s.directory with
  | (.ok (), d) => (.ok (), ⟨d⟩)
  | (.error e, d) => (.error (ioError e), ⟨d⟩)

/-- The bytes of a record's line. -/
def lineBytes (r : FailedRecord) : Bytes := Hex.utf8 (r.toJson.write ++ ['\n'])

def append (r : FailedRecord) (s : FileStore) : Except ClientError Unit × FileStore :=
  match s.directory.append failedFile (lineBytes r) with
  | .ok d => (.ok (), ⟨d⟩)
  | .error e => (.error (ioError e), s)

/-- The directory is there already, so there is nothing to make ready. -/
instance : CheckpointStore FileStore := ⟨fun _ s => (.ok (), s), readHeight, writeHeight, append⟩

/-- Puts a file into the store's directory. -/
def putFile (name : String) (b : Bytes) (s : FileStore) : Except ClientError Unit × FileStore :=
  match s.directory.write name b with
  | .ok d => (.ok (), ⟨d⟩)
  | .error e => (.error (ioError e), s)

/-! ## Opening -/

/-- The store in the directory at a path below a root that holds regular files only; directories on the
way are made. -/
def openBelow (root : Directory) (path : String) : Except ClientError FileStore :=
  match root.below path with
  | .error e => .error (ioError e)
  | .ok directory => .ok ⟨directory⟩

end FileStore
end EvmClient
