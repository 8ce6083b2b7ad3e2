import EvmClient.Proofs.AtomicWrites
import EvmClient.Proofs.RecordLines

/-
The store in files answers as the store in memory does.

   A store is called in any order: to read or write the height, to append a record, to read all records, to be opened
   again. Where nothing else touches the directory and no file operation fails, the two stores can be told apart by one
   thing only: the store in files gives the time of a record as its text says it.

   1. `Mirrors` — what the files say about the store in memory.
   2. `Mirrors.answer` — one call has the same answer, with settled records, and leaves mirrors.
   3. `fileStore_refines` — so have any number of calls, from the empty directory on.
   4. `leap_second_moved` — a record that does not come back as it was. -/
namespace EvmClient

/-! ## Calls -/

/-- A store whose records can be read, and which can be opened again. -/
class ReadableStore (σ : Type) [CheckpointStore σ] where
  readFailed : σ → Except ClientError (List FailedRecord)
  reopen : σ → Except ClientError σ

instance : ReadableStore FileStore := ⟨FileStore.readFailed, FileStore.reopen⟩

/-- The store in memory is the same when it is opened again. -/
instance : ReadableStore MemoryStore := ⟨fun s => .ok s.failed, .ok⟩

inductive StoreCall where
  | readHeight
  | writeHeight (height : Word64)
  | append (record : FailedRecord)
  | readFailed
  | reopen

/-- What a store answers to a call. -/
inductive StoreAnswer where
  | height (r : Except ClientError Nat)
  | failed (r : Except ClientError (List FailedRecord))
  | done (r : Except ClientError Unit)

section
variable {σ : Type} [CheckpointStore σ] [ReadableStore σ]

/-- The answer to a call, and the store that it leaves. -/
def StoreCall.answer (call : StoreCall) (s : σ) : StoreAnswer × σ :=
  match call with
  | .readHeight => (.height (CheckpointStore.readHeight s), s)
  | .writeHeight h => ((.done (CheckpointStore.writeHeight h.toNat s).1), (CheckpointStore.writeHeight h.toNat s).2)
  | .append record => ((.done (CheckpointStore.append record s).1), (CheckpointStore.append record s).2)
  | .readFailed => (.failed (ReadableStore.readFailed s), s)
  | .reopen =>
    match ReadableStore.reopen s with
    | .ok s => (.done (.ok ()), s)
    | .error e => (.done (.error e), s)

/-- The answers to calls one after the other, and the store that they leave. -/
def answers : List StoreCall → σ → List StoreAnswer × σ
  | [], s => ([], s)
  | call :: rest, s =>
    let (answer, s) := call.answer s
    let (more, s) := answers rest s
    (answer :: more, s)

end

/-- The answer with settled records. -/
def StoreAnswer.settled : StoreAnswer → StoreAnswer
  | .failed (.ok records) => .failed (.ok (records.map FailedRecord.settled))
  | answer => answer

/-- The height that a call writes. -/
def StoreCall.written? : StoreCall → Option Word64
  | .writeHeight h => some h
  | _ => none

/-- The record that a call appends. -/
def StoreCall.appended? : StoreCall → Option FailedRecord
  | .append record => some record
  | _ => none

/-! ## Files and memory -/

/-- The files say what the store in memory holds. A file that was never written is missing. -/
structure Mirrors (s : FileStore) (m : MemoryStore) : Prop where
  height : s.directory.find? FileStore.heightFile = some (.file (FileStore.heightBytes m.height)) ∧ m.height < UInt64.size ∨
    s.directory.find? FileStore.heightFile = none ∧ m.height = 0
  failed : s.directory.find? FileStore.failedFile = some (.file (m.failed.flatMap FileStore.lineBytes)) ∨
    s.directory.find? FileStore.failedFile = none ∧ m.failed = []
  temporary : s.directory.find? FileStore.temporaryFile ≠ some .folder

namespace FileStore

/-- Where no directory stands in the way, a height is written, and the log stays. -/
theorem writeHeight_done {s : FileStore} (h : Nat) (hheight : s.directory.find? heightFile ≠ some .folder)
    (htemporary : s.directory.find? temporaryFile ≠ some .folder) :
    ∃ d, s.writeHeight h = (.ok (), ⟨d⟩) ∧ d.find? heightFile = some (.file (heightBytes h)) ∧
      d.find? failedFile = s.directory.find? failedFile ∧ d.find? temporaryFile ≠ some .folder := by
  have hfailed : failedFile ≠ temporaryFile := by decide
  -- The directory before the rename: only the temporary file is new.
  obtain ⟨d₁, hd₁⟩ : ∃ d₁, d₁ = (s.directory.set temporaryFile (.file [])).set temporaryFile (.file (heightBytes h)) :=
    ⟨_, rfl⟩
  have happend : (s.directory.set temporaryFile (.file [])).append temporaryFile (heightBytes h) = .ok d₁ := by
    rw [Directory.append, Directory.find?_set, if_pos rfl, hd₁]
    rfl
  have hfind : ∀ name, name ≠ temporaryFile → d₁.find? name = s.directory.find? name := by
    intro name hname
    rw [hd₁, Directory.find?_set, if_neg hname, Directory.find?_set, if_neg hname]
  have hwritten : d₁.find? temporaryFile = some (.file (heightBytes h)) := by
    rw [hd₁, Directory.find?_set, if_pos rfl]
  have hrename : d₁.rename temporaryFile heightFile =
      .ok ((d₁.erase temporaryFile).set heightFile (.file (heightBytes h))) := by
    rw [← hfind heightFile temporaryFile_ne] at hheight
    unfold Directory.rename
    rw [hwritten]
    split
    · contradiction
    · contradiction
    · rename_i e he _
      cases he
      rfl
  refine ⟨(d₁.erase temporaryFile).set heightFile (.file (heightBytes h)), ?_, ?_, ?_, ?_⟩
  · unfold writeHeight heightSteps
    simp only [performAll, WriteStep.perform, create_eq htemporary, happend, hrename]
  · rw [Directory.find?_set, if_pos rfl]
  · rw [Directory.find?_set, if_neg failedFile_ne.symm, Directory.find?_erase, if_neg hfailed, hfind _ hfailed]
  · rw [Directory.find?_set, if_neg temporaryFile_ne.symm, Directory.find?_erase, if_pos rfl]
    simp

end FileStore

namespace Mirrors
open FileStore
variable {s : FileStore} {m : MemoryStore}

theorem readHeight (h : Mirrors s m) : s.readHeight = .ok m.height := by
  rcases h.height with ⟨hfile, hlt⟩ | ⟨hfile, hzero⟩
  · exact readHeight_of_file hlt hfile
  · rw [hzero]
    exact readHeight_of_none hfile

theorem readFailed (h : Mirrors s m) : s.readFailed = .ok (m.failed.map FailedRecord.settled) := by
  rcases h.failed with hfile | ⟨hfile, hnone⟩
  · exact readFailed_of_records hfile
  · rw [hnone]
    exact readFailed_of_none hfile

/-- A height takes the place of the one before. -/
theorem writeHeight (h : Mirrors s m) (height : Word64) (writes : List Nat) :
    (s.writeHeight height.toNat).1 = .ok () ∧
      Mirrors (s.writeHeight height.toNat).2 { m with height := height.toNat, writes := writes } := by
  have hfolder : s.directory.find? heightFile ≠ some .folder := by
    rcases h.height with ⟨hfile, -⟩ | ⟨hfile, -⟩
    · rw [hfile]
      simp
    · rw [hfile]
      simp
  obtain ⟨d, hd, hheight, hfailed, htemporary⟩ := writeHeight_done height.toNat hfolder h.temporary
  rw [hd]
  refine ⟨rfl, .inl ⟨hheight, height.isLt⟩, ?_, htemporary⟩
  show d.find? failedFile = _ ∨ d.find? failedFile = none ∧ _
  rw [hfailed]
  exact h.failed

/-- A record stands behind those before. -/
theorem append (h : Mirrors s m) (record : FailedRecord) :
    (s.append record).1 = .ok () ∧ Mirrors (s.append record).2 { m with failed := m.failed ++ [record] } := by
  have hlog : ∃ d, s.directory.append failedFile (lineBytes record) = .ok d ∧
      d.find? failedFile = some (.file ((m.failed ++ [record]).flatMap lineBytes)) := by
    have hlines : (m.failed ++ [record]).flatMap lineBytes = m.failed.flatMap lineBytes ++ lineBytes record := by
      rw [List.flatMap_append, List.flatMap_singleton]
    unfold Directory.append
    rcases h.failed with hfile | ⟨hfile, hnone⟩
    · rw [hfile]
      exact ⟨_, rfl, by rw [Directory.find?_set, if_pos rfl, hlines]⟩
    · rw [hfile]
      exact ⟨_, rfl, by rw [Directory.find?_set, if_pos rfl, hlines, hnone, List.flatMap_nil, List.nil_append]⟩
  obtain ⟨d, hd, hfailed⟩ := hlog
  have hothers : ∀ name, name ≠ failedFile → d.find? name = s.directory.find? name :=
    fun name hname => Directory.find?_append hd hname
  unfold FileStore.append
  rw [hd]
  refine ⟨rfl, ?_, .inl hfailed, ?_⟩
  · show d.find? heightFile = _ ∧ _ ∨ d.find? heightFile = none ∧ _
    rw [hothers heightFile failedFile_ne]
    exact h.height
  · show d.find? temporaryFile ≠ _
    rw [hothers temporaryFile (by decide)]
    exact h.temporary

/-- A call has the same answer from both stores, but for the times of records, and leaves mirrors. -/
theorem answer (h : Mirrors s m) (call : StoreCall) :
    (call.answer s).1 = (call.answer m).1.settled ∧ Mirrors (call.answer s).2 (call.answer m).2 := by
  cases call with
  | readHeight => exact ⟨congrArg StoreAnswer.height h.readHeight, h⟩
  | writeHeight height =>
    obtain ⟨hdone, hmirrors⟩ := h.writeHeight height (m.writes ++ [height.toNat])
    exact ⟨congrArg StoreAnswer.done hdone, hmirrors⟩
  | append record =>
    obtain ⟨hdone, hmirrors⟩ := h.append record
    exact ⟨congrArg StoreAnswer.done hdone, hmirrors⟩
  | readFailed => exact ⟨congrArg StoreAnswer.failed h.readFailed, h⟩
  | reopen =>
    have hreopen : ReadableStore.reopen s = .ok s := reopen_eq s
    unfold StoreCall.answer
    rw [hreopen]
    exact ⟨rfl, h⟩

/-- So have calls one after the other. -/
theorem answers (h : Mirrors s m) (calls : List StoreCall) :
    (answers calls s).1 = (answers calls m).1.map StoreAnswer.settled ∧ Mirrors (answers calls s).2 (answers calls m).2 := by
  induction calls generalizing s m with
  | nil => exact ⟨rfl, h⟩
  | cons call rest ih =>
    obtain ⟨hanswer, hnext⟩ := h.answer call
    obtain ⟨hrest, hlast⟩ := ih hnext
    unfold EvmClient.answers
    dsimp only
    rw [hanswer, hrest]
    exact ⟨rfl, hlast⟩

theorem empty : Mirrors ⟨.empty⟩ .empty := ⟨.inr ⟨rfl, rfl⟩, .inr ⟨rfl, rfl⟩, by simp⟩

end Mirrors

/-! ## From the empty directory -/

/-- What the store in memory holds after calls: the height that was written last, and every record. -/
theorem MemoryStore.answers_holds (calls : List StoreCall) (m : MemoryStore) :
    (answers calls m).2.height = ((calls.filterMap StoreCall.written?).getLast?).elim m.height BitVec.toNat ∧
      (answers calls m).2.failed = m.failed ++ calls.filterMap StoreCall.appended? := by
  induction calls generalizing m with
  | nil => exact ⟨rfl, (List.append_nil _).symm⟩
  | cons call rest ih =>
    obtain ⟨hheight, hfailed⟩ := ih (call.answer m).2
    have hrest : (answers (call :: rest) m).2 = (answers rest (call.answer m).2).2 := rfl
    rw [hrest, hheight, hfailed]
    cases call with
    | writeHeight height =>
      refine ⟨?_, rfl⟩
      have hwritten : (StoreCall.writeHeight height :: rest).filterMap StoreCall.written? =
          height :: rest.filterMap StoreCall.written? := rfl
      rw [hwritten, List.getLast?_cons]
      cases (rest.filterMap StoreCall.written?).getLast? with
      | none => rfl
      | some last => rfl
    | append record =>
      exact ⟨rfl, List.append_assoc m.failed [record] _⟩
    | readHeight => exact ⟨rfl, rfl⟩
    | readFailed => exact ⟨rfl, rfl⟩
    | reopen => exact ⟨rfl, rfl⟩

/-- Where all records are settled, so are all answers of the store in memory. -/
theorem MemoryStore.answers_settled {calls : List StoreCall} {m : MemoryStore}
    (hcalls : ∀ r ∈ calls.filterMap StoreCall.appended?, r.settled = r) (hm : ∀ r ∈ m.failed, r.settled = r) :
    (answers calls m).1.map StoreAnswer.settled = (answers calls m).1 := by
  have hmap : ∀ {records : List FailedRecord}, (∀ r ∈ records, r.settled = r) →
      records.map FailedRecord.settled = records :=
    fun h => (List.map_congr_left h).trans (List.map_id _)
  induction calls generalizing m with
  | nil => rfl
  | cons call rest ih =>
    have hsplit : (answers (call :: rest) m).1 = (call.answer m).1 :: (answers rest (call.answer m).2).1 := rfl
    rw [hsplit, List.map_cons]
    cases call with
    | append record =>
      obtain ⟨hrecord, hrest⟩ := List.forall_mem_cons.1 hcalls
      have hnext : ∀ r ∈ m.failed ++ [record], r.settled = r := by
        intro r hr
        rcases List.mem_append.1 hr with hr | hr
        · exact hm r hr
        · obtain rfl := List.mem_singleton.1 hr
          exact hrecord
      exact congrArg (_ :: ·) (ih hrest hnext)
    | readFailed =>
      have hanswer : StoreAnswer.settled (.failed (.ok m.failed)) = .failed (.ok m.failed) := by
        rw [StoreAnswer.settled, hmap hm]
      exact congrArg₂ List.cons hanswer (ih hcalls hm)
    | readHeight => exact congrArg (_ :: ·) (ih hcalls hm)
    | writeHeight height => exact congrArg (_ :: ·) (ih hcalls hm)
    | reopen => exact congrArg (_ :: ·) (ih hcalls hm)

/-- Whatever is asked of the two stores, in whatever order, they answer the same, but for the times of records: the
height that was written last, or zero, and every record that was appended, in order and settled. A settled record is the
record itself, unless its time has a leap second behind a second other than the last of its minute; it has the same
JSON. Where no record has such a time, the answers are the same altogether. -/
theorem fileStore_refines (calls : List StoreCall) :
    let onFiles := answers calls (⟨.empty⟩ : FileStore)
    let inMemory := answers calls MemoryStore.empty
    let appended := calls.filterMap StoreCall.appended?
    onFiles.1 = inMemory.1.map StoreAnswer.settled ∧
    onFiles.2.readHeight = .ok (((calls.filterMap StoreCall.written?).getLast?).elim 0 BitVec.toNat) ∧
    onFiles.2.readFailed = .ok (appended.map FailedRecord.settled) ∧
    (∀ r : FailedRecord, (r.settled = r ↔ r.recordedAt.nano < 1000000000 ∨ r.recordedAt.second = 59) ∧
      r.settled.toJson = r.toJson) ∧
    ((∀ r ∈ appended, r.recordedAt.nano < 1000000000 ∨ r.recordedAt.second = 59) →
      onFiles.1 = inMemory.1 ∧ onFiles.2.readFailed = .ok appended) := by
  intro onFiles inMemory appended
  obtain ⟨hanswers, hmirrors⟩ := Mirrors.empty.answers calls
  obtain ⟨hheight, hfailed⟩ := MemoryStore.answers_holds calls .empty
  have hread : onFiles.2.readFailed = .ok (appended.map FailedRecord.settled) := by
    rw [hmirrors.readFailed, hfailed]
    rfl
  refine ⟨hanswers, ?_, hread, fun r => ⟨FailedRecord.settled_eq_self_iff, r.settled_toJson⟩, fun hsettled => ?_⟩
  · rw [hmirrors.readHeight, hheight]
    rfl
  · have hself : ∀ r ∈ appended, r.settled = r := fun r hr => FailedRecord.settled_eq_self_iff.2 (hsettled r hr)
    have hmap : appended.map FailedRecord.settled = appended := (List.map_congr_left hself).trans (List.map_id _)
    refine ⟨hanswers.trans (MemoryStore.answers_settled hself (List.forall_mem_nil _)), ?_⟩
    rw [hread, hmap]

/-- A record of the fifth second, with a third of a second of a leap second behind it. -/
def leapRecord : FailedRecord where
  sender := default
  hash := default
  value := 0
  recipient := none
  nonce := 0
  data := []
  height := 2
  reason := "handler failed"
  recordedAt := ⟨⟨2024, 5, 6, by decide⟩, 7, 8, 5, 1333333333, by decide⟩

/-- It comes back from files as a record of the sixth second. -/
theorem leap_second_moved :
    let calls : List StoreCall := [.append leapRecord, .readFailed]
    (answers calls (⟨.empty⟩ : FileStore)).1 ≠ (answers calls MemoryStore.empty).1 := by
  intro calls
  have hmoved : leapRecord.settled ≠ leapRecord := mt FailedRecord.settled_eq_self_iff.1 (by decide)
  have hread : (answers calls (⟨.empty⟩ : FileStore)).1 = [.done (.ok ()), .failed (.ok [leapRecord.settled])] :=
    (Mirrors.empty.answers calls).1
  have hkept : (answers calls MemoryStore.empty).1 = [.done (.ok ()), .failed (.ok [leapRecord])] := rfl
  rw [hread, hkept]
  intro h
  simp only [List.cons.injEq, StoreAnswer.failed.injEq, Except.ok.injEq, and_true, true_and] at h
  exact hmoved h

end EvmClient
