import EvmClient.Checkpoint.Files
import EvmClient.Proofs.TimestampText
import EvmClient.Proofs.WireRecords

/-
What the log of failed transactions reads back as.

   A record is one line of JSON. Its strings may hold any characters: those that would break the line or end it are
   escaped, so the lines of a log are its records' texts, none of them blank. The time of a record is read as its text
   says it; all else is read as it was.

   1. `FailedRecord.settled`, `ofJson?_toJson` — the record that a record's own JSON says.
   2. `lines_unbroken` — lines that hold no control characters come apart as they were put together.
   3. `readFailed_of_records` — a log that was written record by record gives the settled records. -/
namespace EvmClient

namespace FailedRecord
open Json Wire

theorem height_readsBack :
    ReadsBack (fun h : Word64 => ofNat h.toNat) fun j => (asNat? UInt64.size j).map (BitVec.ofNat 64) where
  back h := by
    have hlt : h.toNat < UInt64.size := h.isLt
    rw [ofNat, asNat?, if_pos ⟨by omega, by omega⟩, Int.toNat_natCast]
    simp
  present _ := by simp [ofNat]
  plain h := by
    have hlt : h.toNat < UInt64.size := h.isLt
    show Number.Fits (.integer h.toNat)
    exact ⟨by omega, by omega⟩

/-- The record with the time that the text of its time says. -/
def settled (r : FailedRecord) : FailedRecord := { r with recordedAt := r.recordedAt.settled }

theorem settled_eq_self_iff {r : FailedRecord} :
    r.settled = r ↔ r.recordedAt.nano < 1000000000 ∨ r.recordedAt.second = 59 := by
  rw [← Timestamp.settled_eq_self_iff]
  constructor
  · exact fun h => congrArg recordedAt h
  · intro h
    rw [settled, h]

/-- A record and the settled one have the same JSON, so that no reader tells them apart. -/
theorem settled_toJson (r : FailedRecord) : r.settled.toJson = r.toJson := by
  rw [FailedRecord.toJson, FailedRecord.toJson, settled, Timestamp.settled_text]

/-- What a record's own JSON says. -/
theorem ofJson?_toJson (r : FailedRecord) : ofJson? r.toJson = some r.settled := by
  have hrecordedAt : ∀ f : Fields, f.found.lookup "recordedAt" = some (.string r.recordedAt.text) →
      (f.required "recordedAt" asString?).bind Timestamp.ofText? = some r.recordedAt.settled := by
    intro f hf
    rw [string_readsBack.required hf, Option.bind_some, Timestamp.ofText?_text]
  refine read_field (fields?_object (by decide) (List.Sublist.refl _)) ?_
  refine read_field (fixed_readsBack.required rfl) ?_
  refine read_field (fixed_readsBack.required rfl) ?_
  refine read_field (quantity256_readsBack.required rfl) ?_
  refine read_field ((Fields.optional_eq rfl).trans (fixed_readsBack.nullable rfl)) ?_
  refine read_field (quantity256_readsBack.required rfl) ?_
  refine read_field (bytes_readsBack.required rfl) ?_
  refine read_field ((Fields.required_map _).trans (height_readsBack.required rfl)) ?_
  refine read_field (string_readsBack.required rfl) ?_
  exact read_field (hrecordedAt _ rfl) rfl

theorem plain_toJson (r : FailedRecord) : r.toJson.Plain :=
  ⟨fixed_readsBack.plain _, fixed_readsBack.plain _, quantity256_readsBack.plain _,
    fixed_readsBack.plain_orNull _, quantity256_readsBack.plain _, bytes_readsBack.plain _, height_readsBack.plain _,
    string_readsBack.plain _, string_readsBack.plain _, trivial⟩

end FailedRecord

/-! ## Lines -/

namespace Text

theorem linesFrom_unbroken {cs : List Char} (hcs : Json.Unbroken cs) (current rest : List Char) :
    linesFrom current (cs ++ '\n' :: rest) = dropReturn (current.reverse ++ cs) :: linesFrom [] rest := by
  induction cs generalizing current with
  | nil =>
    rw [List.nil_append, List.append_nil]
    cases current <;> simp [linesFrom]
  | cons c cs ih =>
    obtain ⟨hc, hrest⟩ := List.forall_mem_cons.1 hcs
    have hfeed : c ≠ '\n' := by
      rintro rfl
      exact absurd hc (by decide)
    rw [List.cons_append]
    have hstep : linesFrom current (c :: (cs ++ '\n' :: rest)) = linesFrom (c :: current) (cs ++ '\n' :: rest) := by
      cases current <;> simp [linesFrom, hfeed]
    rw [hstep, ih hrest]
    simp

theorem dropReturn_unbroken {cs : List Char} (hcs : Json.Unbroken cs) : dropReturn cs = cs := by
  unfold dropReturn
  rw [if_neg]
  intro hlast
  have hreturn := hcs '\r' (List.mem_of_getLast? hlast)
  exact absurd hreturn (by decide)

/-- Lines without control characters are found again behind one another. -/
theorem lines_unbroken {ls : List (List Char)} (hls : ∀ l ∈ ls, Json.Unbroken l) :
    lines (ls.flatMap (· ++ ['\n'])) = ls := by
  induction ls with
  | nil => rfl
  | cons l ls ih =>
    obtain ⟨hl, hrest⟩ := List.forall_mem_cons.1 hls
    have htail := ih hrest
    rw [lines] at htail ⊢
    rw [List.flatMap_cons, List.append_assoc, List.singleton_append, linesFrom_unbroken hl, htail, List.reverse_nil,
      List.nil_append, dropReturn_unbroken hl]

/-- A text with something else than blanks is not blank. -/
theorem trim_ne_nil {c : Char} (hc : isBlank c = false) (cs : List Char) : trim (c :: cs) ≠ [] := by
  have hstart : trimStart (c :: cs) = c :: cs := List.dropWhile_cons_of_neg (by simp [hc])
  rw [trim, hstart, trimEnd]
  intro h
  have hblank := List.dropWhile_eq_nil_iff.1 (List.reverse_eq_nil_iff.1 h) c (List.mem_reverse.2 List.mem_cons_self)
  rw [hc] at hblank
  cases hblank

end Text

/-! ## The log -/

namespace FileStore

theorem recordOf_write (r : FailedRecord) : recordOf r.toJson.write = .ok r.settled := by
  rw [recordOf, Json.ofText?, String.toList_ofList, Json.read?_write r.plain_toJson, Option.bind_some, r.ofJson?_toJson]

/-- The text of a log. -/
def logText (records : List FailedRecord) : List Char := (records.map fun r => r.toJson.write).flatMap (· ++ ['\n'])

theorem utf8_logText (records : List FailedRecord) : Hex.utf8 (logText records) = records.flatMap lineBytes := by
  induction records with
  | nil => rfl
  | cons r records ih =>
    have hsplit : logText (r :: records) = (r.toJson.write ++ ['\n']) ++ logText records := rfl
    have happend : ∀ a b, Hex.utf8 (a ++ b) = Hex.utf8 a ++ Hex.utf8 b := fun a b => List.flatMap_append
    rw [hsplit, happend, ih, List.flatMap_cons, lineBytes]

theorem recordsOf_logText (records : List FailedRecord) :
    ((Text.lines (logText records)).filter (Text.trim · != [])).mapM recordOf = .ok (records.map FailedRecord.settled) := by
  have hunbroken : ∀ l ∈ records.map fun r => r.toJson.write, Json.Unbroken l := by
    intro l hl
    obtain ⟨r, -, rfl⟩ := List.mem_map.1 hl
    exact Json.unbroken_write _
  have hfilter : (records.map fun r => r.toJson.write).filter (Text.trim · != []) = records.map fun r => r.toJson.write := by
    apply List.filter_eq_self.2
    intro l hl
    obtain ⟨r, -, rfl⟩ := List.mem_map.1 hl
    -- A record is an object, so its line starts with a brace.
    obtain ⟨cs, hcs⟩ := Json.write_object _
    rw [FailedRecord.toJson, hcs]
    exact bne_iff_ne.2 (Text.trim_ne_nil (by decide) cs)
  have hread : recordOf ∘ (fun r => r.toJson.write) = fun r : FailedRecord => pure r.settled := by
    funext r
    rw [Function.comp_apply, recordOf_write]
    rfl
  rw [logText, Text.lines_unbroken hunbroken, hfilter, List.mapM_map, hread, List.mapM_pure]
  rfl

/-- A log of records gives them back, all and in order, and each settled. -/
theorem readFailed_of_records {s : FileStore} {records : List FailedRecord}
    (h : s.directory.find? failedFile = some (.file (records.flatMap lineBytes))) :
    s.readFailed = .ok (records.map FailedRecord.settled) := by
  unfold readFailed Directory.readText Directory.read
  rw [h]
  dsimp only
  rw [← utf8_logText, fromUTF8?_utf8]
  dsimp only
  rw [String.toList_ofList, recordsOf_logText]

theorem readFailed_of_none {s : FileStore} (h : s.directory.find? failedFile = none) : s.readFailed = .ok [] := by
  unfold readFailed Directory.readText Directory.read
  rw [h]

end FileStore
end EvmClient
