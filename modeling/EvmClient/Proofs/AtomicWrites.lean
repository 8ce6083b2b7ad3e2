import EvmClient.Proofs.Durability
import Mathlib

/-
Writes of a height that stop halfway.

   Any step of a write may fail, and the program may die in any step or between two; a write of bytes that does not
   do its work leaves the first of them, as many as it likes. A program that died opens its store again.

   1. `attemptSteps_cut` — what a write leaves: its first steps done, and at most a part of the next.
   2. `attempt_cases` — the height's file stays up to the rename, which puts the whole text of the height there.
   3. `SameBesides.attempt` — what a write does does not depend on what stands in the temporary file.
   4. `height_writes_atomic` — all of it for any number of writes, each with faults of its own. -/
namespace EvmClient

/-! ## Faults -/

/-- What becomes of a step; of a write of bytes that fails or dies the first `kept` bytes are left. -/
inductive StepFate where
  | works
  | fails (e : ClientError) (kept : Nat)
  | dies (kept : Nat)

namespace FileStore

/-- What a step leaves that does not do its work. -/
def WriteStep.leave (kept : Nat) : WriteStep → Directory → Directory
  | .write b, d =>
    match d.append temporaryFile (b.take kept) with
    | .ok d => d
    | .error _ => d
  | _, d => d

/-- How far a write came. -/
structure Attempt where
  /-- What the writer is told; nothing where the program died. -/
  told : Option (Except ClientError Unit)
  /-- The steps that did their work. -/
  done : List WriteStep
  directory : Directory

/-- Steps with their fates; where no fate is given a step works. -/
def attemptSteps : List WriteStep → List StepFate → Directory → Attempt
  | [], fates, d =>
    match fates.headD .works with
    | .dies _ => ⟨none, [], d⟩
    | _ => ⟨some (.ok ()), [], d⟩
  | step :: rest, fates, d =>
    match fates.headD .works with
    | .works =>
      match step.perform d with
      | .ok d =>
        let a := attemptSteps rest fates.tail d
        { a with done := step :: a.done }
      | .error e => ⟨some (.error (ioError e)), [], d⟩
    | .fails e kept => ⟨some (.error e), [], step.leave kept d⟩
    | .dies kept => ⟨none, [], step.leave kept d⟩

/-- A height to be written, with the fates of the steps. -/
structure HeightWrite where
  height : Word64
  fates : List StepFate

def attempt (w : HeightWrite) (s : FileStore) : Attempt :=
  attemptSteps (heightSteps w.height.toNat) w.fates s.directory

/-- The store that a write leaves. -/
def afterWrite (w : HeightWrite) (s : FileStore) : FileStore := ⟨(s.attempt w).directory⟩

def afterWrites (writes : List HeightWrite) (s : FileStore) : FileStore :=
  writes.foldl (fun s w => s.afterWrite w) s

/-- Whether a write came to its rename. -/
def Renames (w : HeightWrite) (s : FileStore) : Prop := WriteStep.rename ∈ (s.attempt w).done

instance (w : HeightWrite) (s : FileStore) : Decidable (s.Renames w) :=
  inferInstanceAs (Decidable (WriteStep.rename ∈ (s.attempt w).done))

/-- The heights of the writes that came to their rename, in order. -/
def renamed : List HeightWrite → FileStore → List Word64
  | [], _ => []
  | w :: rest, s => (if s.Renames w then [w.height] else []) ++ (s.afterWrite w).renamed rest

/-- What the writers are told. -/
def tellings : List HeightWrite → FileStore → List (Option (Except ClientError Unit))
  | [], _ => []
  | w :: rest, s => (s.attempt w).told :: (s.afterWrite w).tellings rest

/-- The store is opened again in its directory. -/
def reopen (s : FileStore) : Except ClientError FileStore := openBelow s.directory "."

theorem reopen_eq (s : FileStore) : s.reopen = .ok s := by
  have hpath : ".".splitOn "/" = ["."] := by cbv
  have hbelow : s.directory.below "." = .ok s.directory := by
    unfold Directory.below
    rw [if_neg (by decide), if_neg (by decide), hpath]
    rfl
  unfold reopen openBelow
  rw [hbelow]

/-- Without faults a write is `writeHeight`. -/
theorem attempt_faultless (h : Word64) (s : FileStore) :
    (s.attempt ⟨h, []⟩).told = some (s.writeHeight h.toNat).1 ∧ s.afterWrite ⟨h, []⟩ = (s.writeHeight h.toNat).2 := by
  have hsteps : ∀ steps d, (attemptSteps steps [] d).told = some ((performAll steps d).1.mapError ioError) ∧
      (attemptSteps steps [] d).directory = (performAll steps d).2 := by
    intro steps
    induction steps with
    | nil => exact fun d => ⟨rfl, rfl⟩
    | cons step rest ih =>
      intro d
      simp only [attemptSteps, performAll, List.headD_nil, List.tail_nil]
      cases step.perform d with
      | error e => exact ⟨rfl, rfl⟩
      | ok d' => exact ih d'
  obtain ⟨htold, hdirectory⟩ := hsteps (heightSteps h.toNat) s.directory
  unfold afterWrite attempt writeHeight
  dsimp only
  rw [htold, hdirectory]
  rcases performAll (heightSteps h.toNat) s.directory with ⟨_ | _, d⟩
  · exact ⟨rfl, rfl⟩
  · exact ⟨rfl, rfl⟩

/-! ## What a write leaves -/

/-- A write does its first steps. Either these are all, or a part of the next step is left and the write did not
succeed. -/
theorem attemptSteps_cut (steps : List WriteStep) (fates : List StepFate) (d : Directory) :
    ∃ n d₁, performAll (steps.take n) d = (.ok (), d₁) ∧ (attemptSteps steps fates d).done = steps.take n ∧
      ((steps.length ≤ n ∧ (attemptSteps steps fates d).directory = d₁ ∧
          ∀ e, (attemptSteps steps fates d).told ≠ some (.error e)) ∨
        (∃ step ∈ steps[n]?, (attemptSteps steps fates d).told ≠ some (.ok ()) ∧
          ((attemptSteps steps fates d).directory = d₁ ∨
            ∃ kept, (attemptSteps steps fates d).directory = step.leave kept d₁))) := by
  induction steps generalizing fates d with
  | nil =>
    refine ⟨0, d, rfl, ?_, .inl ⟨Nat.le_refl 0, ?_, ?_⟩⟩
    all_goals unfold attemptSteps; split
    all_goals simp
  | cons step rest ih =>
    unfold attemptSteps
    cases fates.headD .works with
    | works =>
      dsimp only
      cases hstep : step.perform d with
      | error e => exact ⟨0, d, rfl, rfl, .inr ⟨step, rfl, by simp, .inl rfl⟩⟩
      | ok d' =>
        -- The cut lies behind this step, and the rest of the steps knows where.
        obtain ⟨n, d₁, hperform, hdone, hcut⟩ := ih fates.tail d'
        refine ⟨n + 1, d₁, ?_, ?_, ?_⟩
        · rw [List.take_succ_cons, performAll, hstep]
          exact hperform
        · rw [List.take_succ_cons, ← hdone]
        · rw [List.length_cons, Nat.add_le_add_iff_right, List.getElem?_cons_succ]
          exact hcut
    | fails e kept => exact ⟨0, d, rfl, rfl, .inr ⟨step, rfl, by simp, .inr ⟨kept, rfl⟩⟩⟩
    | dies kept => exact ⟨0, d, rfl, rfl, .inr ⟨step, rfl, by simp, .inr ⟨kept, rfl⟩⟩⟩

/-- Up to the rename only the temporary file is written to. -/
theorem perform_others {step : WriteStep} {d d' : Directory} {name : String} (hstep : step ≠ .rename)
    (h : step.perform d = .ok d') (hname : name ≠ temporaryFile) : d'.find? name = d.find? name := by
  cases step with
  | create => rw [Directory.find?_create h, if_neg hname]
  | write b => exact Directory.find?_append h hname
  | sync =>
    cases h
    rfl
  | rename => exact absurd rfl hstep

theorem leave_others (step : WriteStep) (kept : Nat) (d : Directory) {name : String} (hname : name ≠ temporaryFile) :
    (step.leave kept d).find? name = d.find? name := by
  cases step with
  | write b =>
    unfold WriteStep.leave
    dsimp only
    split
    · rename_i d' h
      exact Directory.find?_append h hname
    · rfl
  | create => rfl
  | sync => rfl
  | rename => rfl

theorem performAll_others {steps : List WriteStep} {d d' : Directory} {r : Except FileError Unit} {name : String}
    (hsteps : .rename ∉ steps) (h : performAll steps d = (r, d')) (hname : name ≠ temporaryFile) :
    d'.find? name = d.find? name := by
  induction steps generalizing d with
  | nil =>
    cases h
    rfl
  | cons step rest ih =>
    obtain ⟨hstep, hrest⟩ := List.ne_and_not_mem_of_not_mem_cons hsteps
    unfold performAll at h
    split at h
    · rename_i d₁ hd₁
      rw [ih hrest h, perform_others hstep.symm hd₁ hname]
    · cases h
      rfl

/-- The rename is the last step of all. -/
theorem rename_mem_take (h n : Nat) : .rename ∈ (heightSteps h).take n ↔ 4 ≤ n := by
  have hlast : heightSteps h = [.create, .write (heightBytes h), .sync] ++ [.rename] := rfl
  constructor
  · intro hmem
    refine Nat.le_of_not_lt fun hn => ?_
    rw [hlast, List.take_append_of_le_length (Nat.le_of_lt_succ hn)] at hmem
    have hmem := List.mem_of_mem_take hmem
    simp at hmem
  · intro hn
    rw [List.take_of_length_le (by simpa [heightSteps] using hn), hlast]
    exact List.mem_append_right _ List.mem_cons_self

/-- A write that came to its rename left the text of its height; any other left the height's file, and its writer was
not told that it succeeded. -/
theorem attempt_cases (w : HeightWrite) (s : FileStore) :
    (s.Renames w ∧ (s.afterWrite w).directory.find? heightFile = some (.file (heightBytes w.height.toNat)) ∧
        ∀ e, (s.attempt w).told ≠ some (.error e)) ∨
      (¬ s.Renames w ∧ (s.attempt w).told ≠ some (.ok ()) ∧
        ∀ name, name ≠ temporaryFile → (s.afterWrite w).directory.find? name = s.directory.find? name) := by
  obtain ⟨n, d₁, hperform, hdone, hcut⟩ := attemptSteps_cut (heightSteps w.height.toNat) w.fates s.directory
  unfold Renames afterWrite attempt
  rw [hdone, rename_mem_take]
  rcases hcut with ⟨hn, hdirectory, htold⟩ | ⟨step, hstep, htold, hdirectory⟩
  · refine .inl ⟨hn, ?_, htold⟩
    rw [hdirectory]
    rw [List.take_of_length_le hn] at hperform
    rcases performAll_height w.height.toNat s.directory with ⟨d, hd, hfile⟩ | ⟨e, d, hd, -⟩
    · cases hd.symm.trans hperform
      exact hfile
    · cases hd.symm.trans hperform
  · -- A step is left that did not do its work, so the rename, the last one, is not among those that did.
    have hn : ¬ 4 ≤ n := fun hn => by
      rw [List.getElem?_eq_none hn] at hstep
      cases hstep
    refine .inr ⟨hn, htold, fun name hname => ?_⟩
    have hkept : d₁.find? name = s.directory.find? name :=
      performAll_others (mt (rename_mem_take _ _).1 hn) hperform hname
    rcases hdirectory with hdirectory | ⟨kept, hdirectory⟩
    · rw [hdirectory, hkept]
    · rw [hdirectory, leave_others step kept d₁ hname, hkept]

/-- After any writes the height's file is that of the last one that came to its rename. -/
theorem afterWrites_heightFile (writes : List HeightWrite) (s : FileStore) :
    (s.afterWrites writes).directory.find? heightFile =
      match (s.renamed writes).getLast? with
      | some h => some (.file (heightBytes h.toNat))
      | none => s.directory.find? heightFile := by
  induction writes generalizing s with
  | nil => rfl
  | cons w rest ih =>
    have hrest := ih (s.afterWrite w)
    have hafter : s.afterWrites (w :: rest) = (s.afterWrite w).afterWrites rest := rfl
    rw [hafter, hrest, renamed, List.getLast?_append]
    cases (renamed rest (s.afterWrite w)).getLast? with
    | some h => rfl
    | none =>
      rcases attempt_cases w s with ⟨hrenames, hfile, -⟩ | ⟨hrenames, -, hothers⟩
      · rw [if_pos hrenames]
        exact hfile
      · rw [if_neg hrenames]
        exact hothers heightFile temporaryFile_ne

/-! ## What the temporary file holds -/

/-- Two directories with the same entries. -/
def SameFiles (d d' : Directory) : Prop := ∀ name, d.find? name = d'.find? name

/-- Two directories with the same entries but for a temporary file that one or both may hold. -/
structure SameBesides (d d' : Directory) : Prop where
  others : ∀ name, name ≠ temporaryFile → d.find? name = d'.find? name
  left : d.find? temporaryFile ≠ some .folder
  right : d'.find? temporaryFile ≠ some .folder

section
variable {d d' : Directory}

theorem SameFiles.set (h : SameFiles d d') (name : String) (e : DirectoryEntry) :
    SameFiles (d.set name e) (d'.set name e) := by
  intro other
  rw [Directory.find?_set, Directory.find?_set, h other]

theorem SameFiles.erase (h : SameFiles d d') (name : String) : SameFiles (d.erase name) (d'.erase name) := by
  intro other
  rw [Directory.find?_erase, Directory.find?_erase, h other]

/-- What comes of one operation on two directories. -/
inductive SameEnd : Except FileError Directory → Except FileError Directory → Prop where
  | error (e : FileError) : SameEnd (.error e) (.error e)
  | ok {d d' : Directory} (h : SameFiles d d') : SameEnd (.ok d) (.ok d')

theorem SameFiles.append (h : SameFiles d d') (name : String) (b : Bytes) :
    SameEnd (d.append name b) (d'.append name b) := by
  unfold Directory.append
  rw [← h name]
  rcases d.find? name with _ | _ | _
  · exact .ok (h.set _ _)
  · exact .ok (h.set _ _)
  · exact .error _

theorem SameFiles.perform (h : SameFiles d d') (step : WriteStep) : SameEnd (step.perform d) (step.perform d') := by
  cases step with
  | create =>
    unfold WriteStep.perform Directory.create
    dsimp only
    rw [← h temporaryFile]
    rcases d.find? temporaryFile with _ | _ | _
    · exact .ok (h.set _ _)
    · exact .ok (h.set _ _)
    · exact .error _
  | write b => exact h.append temporaryFile b
  | sync => exact .ok h
  | rename =>
    unfold WriteStep.perform Directory.rename
    dsimp only
    rw [← h temporaryFile, ← h heightFile]
    rcases d.find? temporaryFile with _ | e
    · exact .error _
    · rcases d.find? heightFile with _ | _ | _
      · exact .ok ((h.erase _).set _ _)
      · exact .ok ((h.erase _).set _ _)
      · exact .error _

theorem SameFiles.leave (h : SameFiles d d') (step : WriteStep) (kept : Nat) :
    SameFiles (step.leave kept d) (step.leave kept d') := by
  cases step with
  | write b =>
    have hend := h.append temporaryFile (b.take kept)
    unfold WriteStep.leave
    dsimp only
    generalize d.append temporaryFile (b.take kept) = r, d'.append temporaryFile (b.take kept) = r' at hend ⊢
    cases hend with
    | error e => exact h
    | ok h => exact h
  | create => exact h
  | sync => exact h
  | rename => exact h

theorem SameFiles.attemptSteps (h : SameFiles d d') (steps : List WriteStep) (fates : List StepFate) :
    (attemptSteps steps fates d).told = (attemptSteps steps fates d').told ∧
      (attemptSteps steps fates d).done = (attemptSteps steps fates d').done ∧
      SameFiles (attemptSteps steps fates d).directory (attemptSteps steps fates d').directory := by
  induction steps generalizing fates d d' with
  | nil =>
    unfold FileStore.attemptSteps
    split
    · exact ⟨rfl, rfl, h⟩
    · exact ⟨rfl, rfl, h⟩
  | cons step rest ih =>
    unfold FileStore.attemptSteps
    cases fates.headD .works with
    | works =>
      have hend := h.perform step
      dsimp only
      generalize step.perform d = r, step.perform d' = r' at hend ⊢
      cases hend with
      | error e => exact ⟨rfl, rfl, h⟩
      | ok h =>
        obtain ⟨htold, hdone, hfiles⟩ := ih h fates.tail
        exact ⟨htold, congrArg (step :: ·) hdone, hfiles⟩
    | fails e kept => exact ⟨rfl, rfl, h.leave step kept⟩
    | dies kept => exact ⟨rfl, rfl, h.leave step kept⟩

/-- No step puts a directory in the temporary file's place. -/
theorem perform_no_folder {step : WriteStep} (hd : d.find? temporaryFile ≠ some .folder) (h : step.perform d = .ok d') :
    d'.find? temporaryFile ≠ some .folder := by
  cases step with
  | create =>
    rw [Directory.find?_create h, if_pos rfl]
    simp
  | write b =>
    unfold WriteStep.perform Directory.append at h
    dsimp only at h
    split at h
    · cases h
    · cases h
      rw [Directory.find?_set, if_pos rfl]
      simp
    · cases h
      rw [Directory.find?_set, if_pos rfl]
      simp
  | sync =>
    cases h
    exact hd
  | rename =>
    unfold WriteStep.perform Directory.rename at h
    dsimp only at h
    split at h
    · cases h
    · cases h
    · cases h
      rw [Directory.find?_set, if_neg temporaryFile_ne.symm, Directory.find?_erase, if_pos rfl]
      simp

theorem leave_no_folder (hd : d.find? temporaryFile ≠ some .folder) (step : WriteStep) (kept : Nat) :
    (step.leave kept d).find? temporaryFile ≠ some .folder := by
  cases step with
  | write b =>
    unfold WriteStep.leave
    dsimp only
    split
    · rename_i d' happend
      have hwrite : WriteStep.perform (.write (b.take kept)) d = .ok d' := happend
      exact perform_no_folder hd hwrite
    · exact hd
  | create => exact hd
  | sync => exact hd
  | rename => exact hd

theorem attemptSteps_no_folder (hd : d.find? temporaryFile ≠ some .folder) (steps : List WriteStep)
    (fates : List StepFate) : (attemptSteps steps fates d).directory.find? temporaryFile ≠ some .folder := by
  induction steps generalizing fates d with
  | nil =>
    unfold attemptSteps
    split
    · exact hd
    · exact hd
  | cons step rest ih =>
    unfold attemptSteps
    cases fates.headD .works with
    | works =>
      dsimp only
      cases hstep : step.perform d with
      | error e => exact hd
      | ok d' => exact ih (perform_no_folder hd hstep) fates.tail
    | fails e kept => exact leave_no_folder hd step kept
    | dies kept => exact leave_no_folder hd step kept

theorem create_eq {name : String} (h : d.find? name ≠ some .folder) : d.create name = .ok (d.set name (.file [])) := by
  unfold Directory.create
  split
  · contradiction
  · rfl

/-- What stood in the temporary file is gone with the first step. -/
theorem SameBesides.create (h : SameBesides d d') :
    ∃ e e', d.create temporaryFile = .ok e ∧ d'.create temporaryFile = .ok e' ∧ SameFiles e e' := by
  refine ⟨_, _, create_eq h.left, create_eq h.right, fun name => ?_⟩
  rw [Directory.find?_set, Directory.find?_set]
  split
  · rfl
  · rename_i hname
    exact h.others name hname

end

/-- A write does the same whatever stands in the temporary file. -/
theorem SameBesides.attempt {s t : FileStore} (h : SameBesides s.directory t.directory) (w : HeightWrite) :
    (s.attempt w).told = (t.attempt w).told ∧ (s.attempt w).done = (t.attempt w).done ∧
      SameBesides (s.afterWrite w).directory (t.afterWrite w).directory := by
  have hleft := attemptSteps_no_folder h.left (heightSteps w.height.toNat) w.fates
  have hright := attemptSteps_no_folder h.right (heightSteps w.height.toNat) w.fates
  suffices hsame : (s.attempt w).told = (t.attempt w).told ∧ (s.attempt w).done = (t.attempt w).done ∧
      ∀ name, name ≠ temporaryFile → (s.attempt w).directory.find? name = (t.attempt w).directory.find? name from
    ⟨hsame.1, hsame.2.1, hsame.2.2, hleft, hright⟩
  unfold FileStore.attempt heightSteps FileStore.attemptSteps
  cases w.fates.headD .works with
  | works =>
    -- The first step empties the temporary file; from there on the directories hold the same.
    obtain ⟨e, e', he, he', hfiles⟩ := h.create
    obtain ⟨htold, hdone, hfiles⟩ := hfiles.attemptSteps [.write (heightBytes w.height.toNat), .sync, .rename] w.fates.tail
    simp only [WriteStep.perform, he, he']
    exact ⟨htold, congrArg (WriteStep.create :: ·) hdone, fun name _ => hfiles name⟩
  | fails e kept => exact ⟨rfl, rfl, h.others⟩
  | dies kept => exact ⟨rfl, rfl, h.others⟩

/-- So do any number of writes. -/
theorem SameBesides.afterWrites {s t : FileStore} (h : SameBesides s.directory t.directory) (writes : List HeightWrite) :
    s.tellings writes = t.tellings writes ∧ s.renamed writes = t.renamed writes ∧
      SameBesides (s.afterWrites writes).directory (t.afterWrites writes).directory := by
  induction writes generalizing s t with
  | nil => exact ⟨rfl, rfl, h⟩
  | cons w rest ih =>
    obtain ⟨htold, hdone, hafter⟩ := h.attempt w
    obtain ⟨htellings, hrenamed, hrest⟩ := ih hafter
    have hrenames : s.Renames w ↔ t.Renames w := by
      unfold Renames
      rw [hdone]
    refine ⟨?_, ?_, hrest⟩
    · rw [tellings, tellings, htold, htellings]
    · simp only [renamed, hrenames, hrenamed]

/-- Nothing but writes of heights looks at the temporary file. -/
theorem SameBesides.reads {s t : FileStore} (h : SameBesides s.directory t.directory) :
    s.readHeight = t.readHeight ∧ s.readFailed = t.readFailed ∧ ∀ r, (s.append r).1 = (t.append r).1 := by
  have hfailed := h.others failedFile (by decide)
  unfold readHeight readFailed append Directory.readText Directory.read Directory.append
  rw [h.others heightFile temporaryFile_ne, hfailed]
  refine ⟨rfl, rfl, fun r => ?_⟩
  rcases t.directory.find? failedFile with _ | _ | _
  · rfl
  · rfl
  · rfl

/-! ## Any number of writes -/

theorem readHeight_of_file {s : FileStore} {h : Nat} (hh : h < UInt64.size)
    (hfile : s.directory.find? heightFile = some (.file (heightBytes h))) : s.readHeight = .ok h := by
  unfold readHeight Directory.readText Directory.read
  rw [hfile]
  dsimp only
  rw [heightBytes, fromUTF8?_utf8]
  exact heightOf_digits hh

theorem readHeight_of_none {s : FileStore} (hfile : s.directory.find? heightFile = none) : s.readHeight = .ok 0 := by
  unfold readHeight Directory.readText Directory.read
  rw [hfile]

/-- The store with some content in its temporary file. -/
def withLeftover (content : Bytes) (s : FileStore) : FileStore := ⟨s.directory.set temporaryFile (.file content)⟩

theorem sameBesides_withLeftover {s : FileStore} (hs : s.directory.find? temporaryFile ≠ some .folder) (content : Bytes) :
    SameBesides (s.withLeftover content).directory s.directory := by
  refine ⟨fun name hname => ?_, ?_, hs⟩
  · exact (Directory.find?_set _ _ _ _).trans (if_neg hname)
  · rw [withLeftover, Directory.find?_set, if_pos rfl]
    simp

theorem afterWrites_no_folder (writes : List HeightWrite) {s : FileStore}
    (hs : s.directory.find? temporaryFile ≠ some .folder) :
    (s.afterWrites writes).directory.find? temporaryFile ≠ some .folder := by
  induction writes generalizing s with
  | nil => exact hs
  | cons w rest ih => exact ih (attemptSteps_no_folder hs _ _)

/-- After any writes, whatever became of their steps, the height's file holds the height of the last that came to its
rename, and is missing where none did. A write that succeeds is seen at once, one that does not come to its rename
changes nothing, and what it leaves in the temporary file never matters. -/
theorem height_writes_atomic (s : FileStore) (hfresh : s.directory.find? heightFile = none)
    (htemporary : s.directory.find? temporaryFile ≠ some .folder) (writes : List HeightWrite) :
    let t := s.afterWrites writes
    let last := (s.renamed writes).getLast?
    t.directory.find? heightFile = last.map (fun h => .file (heightBytes h.toNat)) ∧
    (∃ reopened, t.reopen = .ok reopened ∧ reopened.readHeight = .ok (last.elim 0 BitVec.toNat)) ∧
    (∀ w, ((t.attempt w).told = some (.ok ()) → t.Renames w ∧
        ∃ reopened, (t.afterWrite w).reopen = .ok reopened ∧ reopened.readHeight = .ok w.height.toNat) ∧
      (∀ e, (t.attempt w).told = some (.error e) → ¬ t.Renames w) ∧
      (¬ t.Renames w → (t.afterWrite w).directory.find? heightFile = t.directory.find? heightFile)) ∧
    (∀ content more, let u := t.withLeftover content
      u.tellings more = t.tellings more ∧ u.renamed more = t.renamed more ∧
      (u.afterWrites more).readHeight = (t.afterWrites more).readHeight ∧
      (u.afterWrites more).readFailed = (t.afterWrites more).readFailed ∧
      ∀ r, ((u.afterWrites more).append r).1 = ((t.afterWrites more).append r).1) := by
  intro t last
  have hfile : t.directory.find? heightFile = last.map (fun h => .file (heightBytes h.toNat)) := by
    rw [afterWrites_heightFile, hfresh]
    change _ = Option.map _ (s.renamed writes).getLast?
    cases (s.renamed writes).getLast? with
    | none => rfl
    | some h => rfl
  refine ⟨hfile, ⟨t, reopen_eq t, ?_⟩, fun w => ?_, fun content more => ?_⟩
  · cases hlast : last with
    | none =>
      rw [hlast] at hfile
      exact readHeight_of_none hfile
    | some h =>
      rw [hlast] at hfile
      exact readHeight_of_file h.isLt hfile
  · rcases attempt_cases w t with ⟨hrenames, hfile, htold⟩ | ⟨hrenames, htold, hothers⟩
    · refine ⟨fun _ => ⟨hrenames, _, reopen_eq _, readHeight_of_file w.height.isLt hfile⟩, ?_, ?_⟩
      · exact fun e he => absurd he (htold e)
      · exact fun hnot => absurd hrenames hnot
    · exact ⟨fun hok => absurd hok htold, fun _ _ => hrenames, fun _ => hothers heightFile temporaryFile_ne⟩
  · have hsame := sameBesides_withLeftover (afterWrites_no_folder writes htemporary) content
    obtain ⟨htellings, hrenamed, hafter⟩ := hsame.afterWrites more
    exact ⟨htellings, hrenamed, hafter.reads⟩

/-- One write that works, one whose bytes are cut short, one whose program dies behind the rename, one whose program
dies in the bytes. -/
def unluckyWrites : List HeightWrite :=
  [⟨7, []⟩, ⟨12, [.works, .fails (.io "No space left on device") 1]⟩, ⟨9, [.works, .works, .works, .works, .dies 0]⟩,
    ⟨345, [.works, .dies 2]⟩]

theorem height_writes_atomic_unlucky :
    ∃ reopened, ((⟨.empty⟩ : FileStore).afterWrites unluckyWrites).reopen = .ok reopened ∧ reopened.readHeight = .ok 9 := by
  have hrenamed : (⟨.empty⟩ : FileStore).renamed unluckyWrites = [7, 9] := by decide
  obtain ⟨-, hread, -⟩ := height_writes_atomic ⟨.empty⟩ rfl (by simp) unluckyWrites
  rw [hrenamed] at hread
  exact hread

end FileStore
end EvmClient
