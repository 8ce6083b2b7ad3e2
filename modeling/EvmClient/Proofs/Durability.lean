import EvmClient.Checkpoint.Files

/-
What a scan may trust its store with.

   A store keeps one height: a write that succeeds sets it, a write that fails sets it or leaves it, and to
   append a record leaves it. `DurableStore` states this, and the stores in memory and in files satisfy it.

   1. `heightOf_digits` — the text of a height reads back.
   2. `performAll_height` — a write to files leaves the old height up to its last step, which sets the new one.
   3. `FaultyStore` — a store that fails when it is told to is as durable as the one within. -/
namespace EvmClient

/-- A store that keeps a height. Heights have 64 bits. -/
class DurableStore (σ : Type) [CheckpointStore σ] where
  height : σ → Nat
  read {s : σ} {h : Nat} : CheckpointStore.readHeight s = .ok h → height s = h
  write_ok {s s' : σ} {h : Nat} : h < UInt64.size → CheckpointStore.writeHeight h s = (.ok (), s') → height s' = h
  write_error {s s' : σ} {h : Nat} {e : ClientError} : h < UInt64.size →
    CheckpointStore.writeHeight h s = (.error e, s') → height s' = height s ∨ height s' = h
  append {s s' : σ} {record : FailedRecord} {r : Except ClientError Unit} :
    CheckpointStore.append record s = (r, s') → height s' = height s

/-! ## Memory -/

instance : DurableStore MemoryStore where
  height := MemoryStore.height
  read h := by cases h; rfl
  write_ok _ h := by cases h; rfl
  write_error _ h := by cases h
  append h := by cases h; rfl

/-! ## Files -/

/-- Text without blanks keeps everything when it is trimmed. -/
theorem trim_of_none_blank {cs : List Char} (h : ∀ c ∈ cs, Text.isBlank c = false) : Text.trim cs = cs := by
  have keep : ∀ cs : List Char, (∀ c ∈ cs, Text.isBlank c = false) → cs.dropWhile Text.isBlank = cs := by
    intro cs h
    cases cs with
    | nil => rfl
    | cons c rest => exact List.dropWhile_cons_of_neg (by rw [h c List.mem_cons_self]; exact Bool.false_ne_true)
  unfold Text.trim Text.trimStart Text.trimEnd
  rw [keep cs h, keep cs.reverse fun c hc => h c (List.mem_reverse.1 hc), List.reverse_reverse]

theorem isBlank_of_isDigit {c : Char} (h : c.isDigit = true) : Text.isBlank c = false := by
  obtain ⟨hlo, hhi⟩ := Char.isDigit_iff_toNat.1 h
  have hlo : 48 ≤ c.toNat := hlo
  have hhi : c.toNat ≤ 57 := hhi
  simp only [Text.isBlank, Bool.or_eq_false_iff, Bool.and_eq_false_iff, decide_eq_false_iff_not, beq_eq_false_iff_ne]
  omega

theorem trim_digits (h : Nat) : Text.trim (Decimal.digits h) = Decimal.digits h := by
  exact trim_of_none_blank fun c hc => isBlank_of_isDigit (Decimal.isDigit_digits _ c hc)

theorem unsigned?_digits {h bound : Nat} (hh : h < bound) : Decimal.unsigned? bound (Decimal.digits h) = some h := by
  have hvalue := Decimal.value?_digits h
  unfold Decimal.unsigned?
  split
  · rename_i rest hplus
    have hdigit := Decimal.isDigit_digits _ '+' (hplus ▸ List.mem_cons_self)
    exact absurd hdigit (by decide)
  · dsimp only
    rw [hvalue]
    exact if_pos hh

/-- The bytes of a text are the text's again. -/
theorem fromUTF8?_utf8 (cs : List Char) : String.fromUTF8? ⟨(Hex.utf8 cs).toArray⟩ = some (String.ofList cs) := by
  have hbytes : (⟨(Hex.utf8 cs).toArray⟩ : ByteArray) = cs.utf8Encode :=
    ByteArray.ext List.data_toByteArray.symm
  rw [hbytes]
  unfold String.fromUTF8?
  rw [dif_pos ByteArray.isValidUTF8_utf8Encode]
  exact congrArg some (String.toByteArray_inj.1 String.toByteArray_ofList.symm)

/-- Bytes that are read as a text are the bytes of that text, and of no other. -/
theorem fromUTF8?_eq_some_iff {b : Bytes} {text : String} :
    String.fromUTF8? ⟨b.toArray⟩ = some text ↔ b = Hex.utf8 text.toList := by
  constructor
  · intro h
    have htext : text.toByteArray = ⟨b.toArray⟩ := by
      unfold String.fromUTF8? at h
      split at h
      · cases h
        rfl
      · cases h
    have hutf8 : text.toByteArray.data = (Hex.utf8 text.toList).toArray := by
      rw [← String.utf8Encode_toList]
      exact List.data_toByteArray
    rw [htext] at hutf8
    exact List.toArray_inj hutf8
  · rintro rfl
    rw [fromUTF8?_utf8, String.ofList_toList]

/-- Bytes that no text has are not read as one. -/
theorem fromUTF8?_eq_none {b : Bytes} (h : ∀ cs, b ≠ Hex.utf8 cs) : String.fromUTF8? ⟨b.toArray⟩ = none :=
  Option.eq_none_iff_forall_ne_some.2 fun text htext => h text.toList (fromUTF8?_eq_some_iff.1 htext)

namespace FileStore

theorem heightOf_digits {h : Nat} (hh : h < UInt64.size) : heightOf (String.ofList (Decimal.digits h)) = .ok h := by
  unfold heightOf
  rw [String.toList_ofList, trim_digits]
  dsimp only
  rw [if_neg (Decimal.digits_spec h).1, unsigned?_digits hh]

theorem temporaryFile_ne : heightFile ≠ temporaryFile := by decide

theorem failedFile_ne : heightFile ≠ failedFile := by decide

/-- The height that a store states, zero where it states none. -/
def height (s : FileStore) : Nat :=
  match s.readHeight with
  | .ok h => h
  | .error _ => 0

/-- The height is told by the height's file. -/
theorem height_congr {d d' : Directory} (h : d'.find? heightFile = d.find? heightFile) :
    height ⟨d'⟩ = height ⟨d⟩ := by
  unfold height readHeight Directory.readText Directory.read
  rw [h]

theorem height_of_file {d : Directory} {h : Nat} (hh : h < UInt64.size)
    (hfile : d.find? heightFile = some (.file (heightBytes h))) : height ⟨d⟩ = h := by
  unfold height readHeight Directory.readText Directory.read
  rw [hfile]
  dsimp only
  rw [heightBytes, fromUTF8?_utf8]
  dsimp only
  rw [heightOf_digits hh]

end FileStore

namespace Directory

/-- An entry that is not written to stays. -/
theorem find?_append {d d' : Directory} {name other : String} {b : Bytes} (h : d.append name b = .ok d')
    (hne : other ≠ name) : d'.find? other = d.find? other := by
  unfold append at h
  split at h
  · cases h
  · cases h
    rw [find?_set, if_neg hne]
  · cases h
    rw [find?_set, if_neg hne]

theorem find?_create {d d' : Directory} {name : String} (h : d.create name = .ok d') (other : String) :
    d'.find? other = if other = name then some (.file []) else d.find? other := by
  unfold create at h
  split at h
  · cases h
  · cases h
    exact find?_set d name other _

theorem find?_rename {d d' : Directory} {source target : String} (h : d.rename source target = .ok d') :
    d'.find? target = d.find? source := by
  unfold rename at h
  split at h
  · cases h
  · cases h
  · rename_i e he _
    cases h
    rw [find?_set, if_pos rfl, he]

end Directory

namespace FileStore

/-- A write leaves the height's file up to its last step. -/
theorem performAll_height (h : Nat) (d : Directory) :
    (∃ d', performAll (heightSteps h) d = (.ok (), d') ∧ d'.find? heightFile = some (.file (heightBytes h))) ∨
      ∃ e d', performAll (heightSteps h) d = (.error e, d') ∧ d'.find? heightFile = d.find? heightFile := by
  simp only [heightSteps, performAll, WriteStep.perform]
  cases hcreate : d.create temporaryFile with
  | error e => exact .inr ⟨e, d, rfl, rfl⟩
  | ok d₁ =>
    have h₁ := Directory.find?_create hcreate
    dsimp only
    cases happend : d₁.append temporaryFile (heightBytes h) with
    | error e =>
      refine .inr ⟨e, d₁, rfl, ?_⟩
      rw [h₁ heightFile, if_neg temporaryFile_ne]
    | ok d₂ =>
      have hwritten : d₂.find? temporaryFile = some (.file (heightBytes h)) := by
        unfold Directory.append at happend
        rw [h₁ temporaryFile, if_pos rfl] at happend
        cases happend
        rw [Directory.find?_set, if_pos rfl, List.nil_append]
      have hkept : d₂.find? heightFile = d.find? heightFile := by
        rw [Directory.find?_append happend temporaryFile_ne, h₁ heightFile, if_neg temporaryFile_ne]
      dsimp only
      cases hrename : d₂.rename temporaryFile heightFile with
      | error e => exact .inr ⟨e, d₂, rfl, hkept⟩
      | ok d₃ =>
        refine .inl ⟨d₃, rfl, ?_⟩
        rw [Directory.find?_rename hrename, hwritten]

theorem writeHeight_height (h : Nat) (s : FileStore) :
    (∃ d, s.writeHeight h = (.ok (), ⟨d⟩) ∧ d.find? heightFile = some (.file (heightBytes h))) ∨
      ∃ e d, s.writeHeight h = (.error e, ⟨d⟩) ∧ d.find? heightFile = s.directory.find? heightFile := by
  unfold writeHeight
  rcases performAll_height h s.directory with ⟨d, hd, hfile⟩ | ⟨e, d, hd, hfile⟩
  · rw [hd]
    exact .inl ⟨d, rfl, hfile⟩
  · rw [hd]
    exact .inr ⟨_, d, rfl, hfile⟩

instance : DurableStore FileStore where
  height := height
  read {s h} hread := by
    have hread : s.readHeight = .ok h := hread
    unfold height
    rw [hread]
  write_ok {s s' h} hh hw := by
    have hw : s.writeHeight h = (.ok (), s') := hw
    rcases writeHeight_height h s with ⟨d, hd, hfile⟩ | ⟨e, d, hd, hfile⟩
    · cases hd.symm.trans hw
      exact height_of_file hh hfile
    · cases hd.symm.trans hw
  write_error {s s' h e} hh hw := by
    have hw : s.writeHeight h = (.error e, s') := hw
    rcases writeHeight_height h s with ⟨d, hd, hfile⟩ | ⟨e, d, hd, hfile⟩
    · cases hd.symm.trans hw
    · cases hd.symm.trans hw
      exact .inl (height_congr hfile)
  append {s s' record r} ha := by
    have ha : s.append record = (r, s') := ha
    unfold append at ha
    cases hd : s.directory.append failedFile (lineBytes record) with
    | error e =>
      rw [hd] at ha
      cases ha
      rfl
    | ok d =>
      rw [hd] at ha
      cases ha
      exact height_congr (Directory.find?_append hd failedFile_ne)

end FileStore

/-! ## Faults -/

/-- What becomes of something that a store is given to keep. -/
inductive Fault where
  | none
  /-- It is not kept. -/
  | refused (e : ClientError)
  /-- It is kept as far as the store within keeps it, but the giver is told of an error. -/
  | late (e : ClientError)
deriving DecidableEq

/-- A store that fails as it is told to; with nothing more to be told it does not fail. -/
structure FaultyStore (σ : Type) where
  inner : σ
  faults : List Fault

namespace FaultyStore
variable {σ : Type}

/-- Gives something to the store within, if the next fault lets it. -/
def give (keep : σ → Except ClientError Unit × σ) (s : FaultyStore σ) : Except ClientError Unit × FaultyStore σ :=
  match s.faults.headD .none with
  | .none => ((keep s.inner).1, ⟨(keep s.inner).2, s.faults.tail⟩)
  | .refused e => (.error e, ⟨s.inner, s.faults.tail⟩)
  | .late e => (.error e, ⟨(keep s.inner).2, s.faults.tail⟩)

/-- What was given was kept, or the giver is told of an error. -/
theorem give_cases (keep : σ → Except ClientError Unit × σ) {s s' : FaultyStore σ} {r : Except ClientError Unit}
    (h : give keep s = (r, s')) :
    keep s.inner = (r, s'.inner) ∨ ∃ e, r = .error e ∧ (s'.inner = s.inner ∨ s'.inner = (keep s.inner).2) := by
  unfold give at h
  split at h
  · cases h; exact .inl rfl
  · cases h; exact .inr ⟨_, rfl, .inl rfl⟩
  · cases h; exact .inr ⟨_, rfl, .inr rfl⟩

variable [CheckpointStore σ]

instance : CheckpointStore (FaultyStore σ) where
  openAt path s := ((CheckpointStore.openAt path s.inner).1, ⟨(CheckpointStore.openAt path s.inner).2, s.faults⟩)
  readHeight s := CheckpointStore.readHeight s.inner
  writeHeight h := give (CheckpointStore.writeHeight h)
  append record := give (CheckpointStore.append record)

variable [DurableStore σ]

/-- A write sets the height or leaves it. -/
theorem write_height {s s' : σ} {h : Nat} {r : Except ClientError Unit} (hh : h < UInt64.size)
    (hw : CheckpointStore.writeHeight h s = (r, s')) :
    DurableStore.height s' = DurableStore.height s ∨ DurableStore.height s' = h := by
  cases r with
  | ok _ => exact .inr (DurableStore.write_ok hh hw)
  | error e => exact DurableStore.write_error hh hw

instance : DurableStore (FaultyStore σ) where
  height s := DurableStore.height s.inner
  read h := DurableStore.read (σ := σ) h
  write_ok hh hw := by
    rcases give_cases _ hw with h | ⟨e, h, _⟩
    · exact DurableStore.write_ok hh h
    · cases h
  write_error hh hw := by
    rcases give_cases _ hw with h | ⟨e, _, h | h⟩
    · exact write_height hh h
    · exact .inl (congrArg DurableStore.height h)
    · rw [h]
      exact write_height hh rfl
  append ha := by
    rcases give_cases _ ha with h | ⟨e, _, h | h⟩
    · exact DurableStore.append h
    · exact congrArg DurableStore.height h
    · rw [h]
      exact DurableStore.append rfl

end FaultyStore
end EvmClient
