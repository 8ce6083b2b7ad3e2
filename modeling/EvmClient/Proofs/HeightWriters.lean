import EvmClient.Proofs.FaultyFiles
import Mathlib

/-
Writers of heights that get between one another.

   A write of a height is a few steps, and between two of them other writers may take theirs. Files are told apart by
   number here, since a writer goes on with the file that it has opened, whatever name the file has by then. Of the
   directory there are the two names under which heights are written. A writer that has begun is not given up, but its
   steps may fail.

   1. `Underway.step` — a move of the writer that has the lock is the next step of a write that is by itself.
   2. `locked_writes_in_order` — writers of one store do what their writes do one after another, and what can be read
      of the height at any time is what is there between two writes. So to write a height is one step for all who
      share the store, as `World.perform` has it.
   3. `once_height_unchanged` — a file that has been the height's is not written to again, so it does not matter when
      those who have opened it read it.
   4. `apart_writes_tear` — two stores over the directory have a lock each, and none of this holds. -/
namespace EvmClient
namespace FileStore

/-! ## Files and their names -/

/-- Files by number, and those that have the two names. A file that has lost its name is still there for who has
opened it. -/
structure Volume where
  files : List Bytes
  temporary? : Option Nat
  height? : Option Nat
  temporary_lt : ∀ f ∈ temporary?, f < files.length
  height_lt : ∀ f ∈ height?, f < files.length
  apart : ∀ f ∈ temporary?, height? ≠ some f

namespace Volume

def file (v : Volume) (f : Nat) : Bytes := v.files.getD f []

/-- A file with another content. -/
def put (v : Volume) (f : Nat) (b : Bytes) : Volume :=
  { v with
    files := v.files.set f b
    temporary_lt := by simpa using v.temporary_lt
    height_lt := by simpa using v.height_lt }

/-- Bytes over the first ones of a file. -/
def overwrite (v : Volume) (f : Nat) (b : Bytes) : Volume := v.put f (b ++ (v.file f).drop b.length)

/-- Opens the temporary file, which is emptied where it is there and made where it is not. -/
def create (v : Volume) : Nat × Volume :=
  match v.temporary? with
  | some f => (f, v.put f [])
  | none => (v.files.length,
    { v with
      files := v.files ++ [[]]
      temporary? := some v.files.length
      temporary_lt := by simp
      height_lt := fun f hf => by simpa using Nat.lt_succ_of_lt (v.height_lt f hf)
      apart := by
        rintro f ⟨⟩ hf
        exact Nat.lt_irrefl _ (v.height_lt _ hf) })

/-- Gives the height's name to the file that has the temporary one. -/
def rename (v : Volume) : Except FileError Volume :=
  match h : v.temporary? with
  | none => .error .notFound
  | some f => .ok
    { v with
      temporary? := none
      height? := some f
      temporary_lt := by simp
      height_lt := by
        rintro _ ⟨⟩
        exact v.temporary_lt f h
      apart := by simp }

/-- What a store sees of the files. -/
def store (v : Volume) : FileStore :=
  let entry (name : String) (f : Nat) : String × DirectoryEntry := (name, .file (v.file f))
  ⟨⟨(v.temporary?.map (entry temporaryFile)).toList ++ (v.height?.map (entry heightFile)).toList⟩⟩

end Volume

/-! ## Writers -/

/-- How far a writer is. -/
inductive WriterPhase where
  | waiting
  | locked
  | opened (file : Nat)
  | written
  | synced
  | ended (told : Except ClientError Unit)

namespace WriterPhase

/-- The writer has the lock of its store. -/
def busy : WriterPhase → Bool
  | .waiting | .ended _ => false
  | _ => true

/-- What the writer has been told. -/
def told? : WriterPhase → Option (Except ClientError Unit)
  | .ended told => some told
  | _ => none

/-- The steps that the writer has before it. -/
def rest (h : Word64) : WriterPhase → List WriteStep
  | .waiting | .locked => heightSteps h.toNat
  | .opened _ => [.write (heightBytes h.toNat), .sync, .rename]
  | .written => [.sync, .rename]
  | .synced => [.rename]
  | .ended _ => []

/-- The next step of a writer at work. -/
def step (h : Word64) : WriterPhase → Volume → WriterPhase × Volume
  | .locked, v => (.opened v.create.1, v.create.2)
  | .opened f, v => (.written, v.overwrite f (heightBytes h.toNat))
  | .written, v => (.synced, v)
  | .synced, v =>
    match v.rename with
    | .ok v => (.ended (.ok ()), v)
    | .error e => (.ended (.error (ioError e)), v)
  | p, v => (p, v)

/-- The next step fails; of the bytes that were to be written the first `kept` are there. -/
def fail (h : Word64) (e : ClientError) (kept : Nat) : WriterPhase → Volume → WriterPhase × Volume
  | .opened f, v => (.ended (.error e), v.overwrite f ((heightBytes h.toNat).take kept))
  | _, v => (.ended (.error e), v)

end WriterPhase

/-- It is a writer's turn, with what becomes of its step. A writer that waits takes the lock of its store, if it can. -/
structure WriterMove where
  writer : Nat
  fate : FileFate

/-- What comes of the move, for a writer at work. -/
def WriterMove.act (m : WriterMove) (h : Word64) (p : WriterPhase) (v : Volume) : WriterPhase × Volume :=
  match m.fate with
  | .works => p.step h v
  | .fails e kept => p.fail h e kept v

structure Writers where
  volume : Volume
  phase : Nat → WriterPhase
  /-- The stores whose lock is taken. -/
  held : List Nat
  /-- The writers that have come to their end, in order. -/
  ended : List Nat

namespace Writers

def initial (v : Volume) : Writers := ⟨v, fun _ => .waiting, [], []⟩

/-- One move of writers, each with a store and a height of its own. -/
def move (store : Nat → Nat) (height : Nat → Word64) (s : Writers) (m : WriterMove) : Writers :=
  let i := m.writer
  match s.phase i with
  | .ended _ => s
  | .waiting =>
    if store i ∈ s.held then s
    else { s with phase := Function.update s.phase i .locked, held := store i :: s.held }
  | p =>
    let (p, v) := m.act (height i) p s.volume
    let phase := Function.update s.phase i p
    if p.busy then { s with volume := v, phase }
    else ⟨v, phase, s.held.erase (store i), s.ended ++ [i]⟩

def run (store : Nat → Nat) (height : Nat → Word64) (s : Writers) (moves : List WriterMove) : Writers :=
  moves.foldl (move store height) s

end Writers

/-! ## What the steps do to the files -/

theorem SameFiles.refl (d : Directory) : SameFiles d d := fun _ => rfl

namespace Volume
variable {v : Volume} {f g : Nat} {b : Bytes}

@[simp] theorem temporary?_overwrite : (v.overwrite f b).temporary? = v.temporary? := rfl

@[simp] theorem height?_overwrite : (v.overwrite f b).height? = v.height? := rfl

theorem file_put (hf : f < v.files.length) : (v.put f b).file f = b := by
  simp [file, put, List.getD, List.getElem?_set_self hf]

theorem file_put_other (h : f ≠ g) : (v.put f b).file g = v.file g := by
  simp [file, put, List.getD, List.getElem?_set_ne h]

theorem find?_store (v : Volume) (name : String) : v.store.directory.find? name =
    if name = temporaryFile then v.temporary?.map fun f => .file (v.file f)
    else if name = heightFile then v.height?.map fun f => .file (v.file f)
    else none := by
  have hentry (known : String) (f? : Option Nat) (rest : List (String × DirectoryEntry)) :
      ((f?.map fun f => (known, DirectoryEntry.file (v.file f))).toList ++ rest).lookup name =
        if name = known then (f?.map fun f => .file (v.file f)).or (rest.lookup name) else rest.lookup name := by
    cases f? with
    | none => simp
    | some f =>
      by_cases hname : name = known
      · simp [hname]
      · simpa [hname] using Directory.lookup_cons_ne _ rest hname
  have hheight := hentry heightFile v.height? []
  rw [List.append_nil] at hheight
  unfold store Directory.find?
  rw [hentry temporaryFile, hheight]
  by_cases hname : name = temporaryFile
  · simp [hname, temporaryFile_ne.symm]
  · simp [hname]

theorem find?_temporaryFile (v : Volume) :
    v.store.directory.find? temporaryFile = v.temporary?.map fun f => .file (v.file f) := by
  rw [find?_store, if_pos rfl]

theorem find?_heightFile (v : Volume) :
    v.store.directory.find? heightFile = v.height?.map fun f => .file (v.file f) := by
  rw [find?_store, if_neg temporaryFile_ne, if_pos rfl]

/-- The file that `create` opens is empty and has the temporary name. -/
theorem create_opens (v : Volume) : v.create.2.temporary? = some v.create.1 ∧ v.create.2.file v.create.1 = [] := by
  unfold create
  split
  · rename_i f hf
    exact ⟨hf, file_put (v.temporary_lt f hf)⟩
  · exact ⟨rfl, by simp [file]⟩

theorem height?_create (v : Volume) : v.create.2.height? = v.height? := by
  unfold create
  split <;> rfl

/-- All other files stay as they are. -/
theorem create_others (hf : f < v.files.length) (hother : v.temporary? ≠ some f) :
    f < v.create.2.files.length ∧ v.create.2.temporary? ≠ some f ∧ v.create.2.file f = v.file f := by
  unfold create
  split
  · rename_i g hg
    have hne : g ≠ f := fun h => hother (h ▸ hg)
    exact ⟨by simpa [put] using hf, hother, file_put_other hne⟩
  · refine ⟨by simpa using Nat.lt_succ_of_lt hf, ?_, ?_⟩
    · simpa using Nat.ne_of_gt hf
    · simp [file, List.getD, List.getElem?_append_left hf]

/-- Opening the temporary file is the step `create` of a write. -/
theorem store_create (v : Volume) :
    ∃ d, WriteStep.create.perform v.store.directory = .ok d ∧ SameFiles v.create.2.store.directory d := by
  have hfree : v.store.directory.find? temporaryFile ≠ some .folder := by
    rw [find?_temporaryFile]
    cases v.temporary? with
    | none => simp
    | some f => simp
  refine ⟨_, create_eq hfree, fun name => ?_⟩
  obtain ⟨htemporary, hempty⟩ := v.create_opens
  rw [find?_store, Directory.find?_set, find?_store]
  split
  · rw [htemporary, Option.map_some, hempty]
  · rw [v.height?_create]
    cases hheight : v.height? with
    | none => rfl
    | some f =>
      have hother : v.temporary? ≠ some f := fun h => v.apart f h hheight
      simp only [Option.map_some, (create_others (v.height_lt f hheight) hother).2.2]

/-- So is writing to the empty file that has the temporary name. -/
theorem store_overwrite (htemporary : v.temporary? = some f) (hempty : v.file f = []) (b : Bytes) :
    ∃ d, (WriteStep.write b).perform v.store.directory = .ok d ∧ SameFiles (v.overwrite f b).store.directory d := by
  have hfind : v.store.directory.find? temporaryFile = some (.file []) := by
    rw [find?_temporaryFile, htemporary, Option.map_some, hempty]
  have happend : (WriteStep.write b).perform v.store.directory = .ok (v.store.directory.set temporaryFile (.file b)) := by
    unfold WriteStep.perform Directory.append
    dsimp only
    rw [hfind]
    rfl
  refine ⟨_, happend, fun name => ?_⟩
  rw [find?_store, Directory.find?_set, find?_store, temporary?_overwrite, height?_overwrite, htemporary]
  split
  · rw [Option.map_some, overwrite, file_put (v.temporary_lt f htemporary), hempty, List.drop_nil, List.append_nil]
  · cases hheight : v.height? with
    | none => rfl
    | some g =>
      have hne : f ≠ g := fun h => v.apart f htemporary (h ▸ hheight)
      simp only [Option.map_some, overwrite, file_put_other hne]

/-- The rename needs a temporary file. -/
theorem rename_cases (v : Volume) : (v.temporary? = none ∧ v.rename = .error .notFound) ∨
    ∃ f v', v.temporary? = some f ∧ v.rename = .ok v' ∧ v'.files = v.files ∧ v'.temporary? = none ∧
      v'.height? = some f := by
  unfold rename
  split
  · rename_i h
    exact .inl ⟨h, rfl⟩
  · rename_i f h
    exact .inr ⟨f, _, h, rfl, rfl, rfl, rfl⟩

/-- So is the rename, which fails in the same case. -/
theorem store_rename (v : Volume) : (∃ v' d, v.rename = .ok v' ∧ WriteStep.rename.perform v.store.directory = .ok d ∧
      SameFiles v'.store.directory d) ∨
    v.rename = .error .notFound ∧ WriteStep.rename.perform v.store.directory = .error .notFound := by
  rcases v.rename_cases with ⟨hnone, hrename⟩ | ⟨f, v', hf, hrename, hfiles, hnone, hsome⟩
  · refine .inr ⟨hrename, ?_⟩
    unfold WriteStep.perform Directory.rename
    dsimp only
    rw [find?_temporaryFile, hnone]
    rfl
  · refine .inl ⟨v', (v.store.directory.erase temporaryFile).set heightFile (.file (v.file f)), hrename, ?_, fun name => ?_⟩
    · unfold WriteStep.perform Directory.rename
      dsimp only
      rw [find?_temporaryFile, find?_heightFile, hf]
      cases v.height? with
      | none => rfl
      | some g => rfl
    · have hfile : v'.file f = v.file f := congrArg (·.getD f []) hfiles
      rw [find?_store, Directory.find?_set, Directory.find?_erase, find?_store, hnone, hsome, Option.map_some, hfile]
      by_cases hname : name = heightFile
      · rw [if_pos hname, if_pos hname, if_neg (hname ▸ temporaryFile_ne)]
      · rw [if_neg hname, if_neg hname]
        split
        · rfl
        · rfl

end Volume

/-! ## A write among others -/

theorem untold_of_busy {p : WriterPhase} (h : p.busy = true) : p.told? = none := by
  cases p with
  | ended _ => cases h
  | _ => rfl

/-- The file that a writer has opened is empty and has the temporary name. -/
def WriterPhase.Owns : WriterPhase → Volume → Prop
  | .opened f, v => v.temporary? = some f ∧ v.file f = []
  | _, _ => True

/-- What a writer at work is at after a move, beside what the next of its steps does to a directory. -/
inductive Advance (h : Word64) (v : Volume) : List WriteStep → FileFate → WriterPhase × Volume → Prop where
  | on {step : WriteStep} {p : WriterPhase} {v' : Volume} {d : Directory} (hperform : step.perform v.store.directory = .ok d)
      (hfiles : SameFiles v'.store.directory d) (hbusy : p.busy = true) (howns : p.Owns v') :
      Advance h v (step :: p.rest h) .works (p, v')
  | last {step : WriteStep} {v' : Volume} {d : Directory} (hperform : step.perform v.store.directory = .ok d)
      (hfiles : SameFiles v'.store.directory d) : Advance h v [step] .works (.ended (.ok ()), v')
  | error {step : WriteStep} {e : FileError} (rest : List WriteStep)
      (hperform : step.perform v.store.directory = .error e) :
      Advance h v (step :: rest) .works (.ended (.error (ioError e)), v)
  | failed {step : WriteStep} {v' : Volume} {e : ClientError} {kept : Nat} (rest : List WriteStep)
      (hfiles : SameFiles v'.store.directory (step.leave kept v.store.directory)) :
      Advance h v (step :: rest) (.fails e kept) (.ended (.error e), v')

section
variable {h : Word64} {p : WriterPhase} {v : Volume}

/-- A step that works is the next one of a write that is by itself. -/
theorem WriterPhase.step_advance (hbusy : p.busy = true) (howns : p.Owns v) :
    Advance h v (p.rest h) .works (p.step h v) := by
  cases p with
  | waiting | ended _ => cases hbusy
  | locked =>
    obtain ⟨d, hperform, hfiles⟩ := v.store_create
    exact .on (p := .opened v.create.1) hperform hfiles rfl v.create_opens
  | opened f =>
    obtain ⟨d, hperform, hfiles⟩ := Volume.store_overwrite howns.1 howns.2 (heightBytes h.toNat)
    exact .on (p := .written) hperform hfiles rfl trivial
  | written => exact .on (p := .synced) rfl (SameFiles.refl _) rfl trivial
  | synced =>
    show Advance h v [.rename] .works (match v.rename with | .ok v => _ | .error e => _)
    rcases v.store_rename with ⟨v', d, hrename, hperform, hfiles⟩ | ⟨hrename, hperform⟩
    · rw [hrename]
      exact .last hperform hfiles
    · rw [hrename]
      exact .error [] hperform

/-- A step that fails leaves what it leaves in a write that is by itself. -/
theorem WriterPhase.fail_advance (hbusy : p.busy = true) (howns : p.Owns v) (e : ClientError) (kept : Nat) :
    Advance h v (p.rest h) (.fails e kept) (p.fail h e kept v) := by
  cases p with
  | waiting | ended _ => cases hbusy
  | opened f =>
    obtain ⟨d, hperform, hfiles⟩ := Volume.store_overwrite howns.1 howns.2 ((heightBytes h.toNat).take kept)
    have hleave : (WriteStep.write (heightBytes h.toNat)).leave kept v.store.directory = d := by
      unfold WriteStep.perform at hperform
      unfold WriteStep.leave
      dsimp only at hperform ⊢
      rw [hperform]
    exact .failed _ (hleave ▸ hfiles)
  | locked | written | synced => exact .failed _ (SameFiles.refl _)

theorem WriterMove.advance (m : WriterMove) (hbusy : p.busy = true) (howns : p.Owns v) :
    Advance h v (p.rest h) m.fate (m.act h p v) := by
  unfold WriterMove.act
  cases m.fate with
  | works => exact WriterPhase.step_advance hbusy howns
  | fails e kept => exact WriterPhase.fail_advance hbusy howns e kept

end

/-- A write has begun over a store and goes on with the steps that its writer has before it. -/
structure Underway (h : Word64) (p : WriterPhase) (v : Volume) (s : FileStore) : Prop where
  busy : p.busy = true
  owns : p.Owns v
  goes : ∃ front, ∀ fates,
    (s.attempt ⟨h, front ++ fates⟩).told = (attemptSteps (p.rest h) fates v.store.directory).told ∧
    SameFiles (s.attempt ⟨h, front ++ fates⟩).directory (attemptSteps (p.rest h) fates v.store.directory).directory

/-- What a writer and the files are at when its write over a store has come to its end. -/
def Left (s : FileStore) (w : HeightWrite) (p : WriterPhase) (v : Volume) : Prop :=
  ∃ told, p = .ended told ∧ (s.attempt w).told = some told ∧ SameFiles (s.attempt w).directory v.store.directory

theorem Left.not_busy {s : FileStore} {w : HeightWrite} {p : WriterPhase} {v : Volume} (h : Left s w p v) :
    ¬ p.busy = true := by
  obtain ⟨told, rfl, -⟩ := h
  exact Bool.false_ne_true

namespace Underway
variable {h : Word64} {p : WriterPhase} {v : Volume} {s : FileStore}

/-- A write begins where no other is underway. -/
theorem start (hfiles : SameFiles v.store.directory s.directory) : Underway h .locked v s := by
  refine ⟨rfl, trivial, [], fun fates => ?_⟩
  obtain ⟨htold, -, hsame⟩ := hfiles.attemptSteps (heightSteps h.toNat) fates
  exact ⟨htold.symm, fun name => (hsame name).symm⟩

/-- With each move the write goes on or comes to its end. -/
theorem step (hu : Underway h p v s) (m : WriterMove) :
    Underway h (m.act h p v).1 (m.act h p v).2 s ∨
      ∃ fates, Left s ⟨h, fates⟩ (m.act h p v).1 (m.act h p v).2 := by
  obtain ⟨hbusy, howns, front, hgoes⟩ := hu
  have hadvance := m.advance (h := h) hbusy howns
  generalize p.rest h = steps, m.fate = fate, m.act h p v = after at hadvance hgoes ⊢
  cases hadvance with
  | on hperform hfiles hbusy howns =>
    refine .inl ⟨hbusy, howns, front ++ [.works], fun fates => ?_⟩
    obtain ⟨htold, hleft⟩ := hgoes (.works :: fates)
    obtain ⟨htold', -, hsame⟩ := hfiles.attemptSteps (WriterPhase.rest h _) fates
    rw [List.append_assoc, List.singleton_append, htold', htold]
    simp only [attemptSteps, List.headD_cons, List.tail_cons, hperform] at hleft ⊢
    exact ⟨trivial, fun name => (hleft name).trans (hsame name).symm⟩
  | last hperform hfiles =>
    obtain ⟨htold, hleft⟩ := hgoes [.works]
    simp only [attemptSteps, List.headD_cons, List.tail_cons, List.headD_nil, hperform] at htold hleft
    exact .inr ⟨_, _, rfl, htold, fun name => (hleft name).trans (hfiles name).symm⟩
  | error rest hperform =>
    obtain ⟨htold, hleft⟩ := hgoes [.works]
    simp only [attemptSteps, List.headD_cons, hperform] at htold hleft
    exact .inr ⟨_, _, rfl, htold, hleft⟩
  | failed rest hfiles =>
    obtain ⟨htold, hleft⟩ := hgoes [.fails _ _]
    exact .inr ⟨_, _, rfl, htold, fun name => (hleft name).trans (hfiles name).symm⟩

/-- While the write is underway the height's file is as it was. -/
theorem find?_heightFile (hu : Underway h p v s) :
    v.store.directory.find? heightFile = s.directory.find? heightFile := by
  obtain ⟨hbusy, howns, front, hgoes⟩ := hu
  -- Were the next step to fail, the write would leave the height's file as it is now. It would not have come to its
  -- rename, so it would leave the height's file as it was before.
  obtain ⟨htold, hleft⟩ := hgoes [.fails (.io "") 0]
  obtain ⟨step, rest, hrest⟩ : ∃ step rest, p.rest h = step :: rest := by
    cases p with
    | waiting | ended _ => cases hbusy
    | _ => exact ⟨_, _, rfl⟩
  rw [hrest] at htold hleft
  have hfile := hleft heightFile
  rcases attempt_cases ⟨h, front ++ [.fails (.io "") 0]⟩ s with ⟨-, -, hnot⟩ | ⟨-, -, hothers⟩
  · exact absurd htold (hnot _)
  · rw [← hothers heightFile temporaryFile_ne]
    exact (hfile.trans (leave_others step 0 _ temporaryFile_ne)).symm

end Underway

/-! ## Writers of one store -/

/-- What the writers were told that have come to their end, and what they left, is what their writes do one after
another. -/
structure InOrder (store : Nat) (height : Nat → Word64) (first : FileStore) (s : Writers)
    (writes : List HeightWrite) : Prop where
  nodup : s.ended.Nodup
  mem : ∀ i, i ∈ s.ended ↔ (s.phase i).told?.isSome
  heights : writes.map HeightWrite.height = s.ended.map height
  told : first.tellings writes = s.ended.map fun i => (s.phase i).told?
  lock : (s.held = [] ∧ (∀ i, (s.phase i).busy = false) ∧
      SameFiles s.volume.store.directory (first.afterWrites writes).directory) ∨
    ∃ i, s.held = [store] ∧ (∀ j, j ≠ i → (s.phase j).busy = false) ∧
      Underway (height i) (s.phase i) s.volume (first.afterWrites writes)

theorem tellings_snoc (writes : List HeightWrite) (w : HeightWrite) (s : FileStore) :
    s.tellings (writes ++ [w]) = s.tellings writes ++ [((s.afterWrites writes).attempt w).told] := by
  induction writes generalizing s with
  | nil => rfl
  | cons first rest ih => exact congrArg (_ :: ·) (ih _)

theorem afterWrites_snoc (writes : List HeightWrite) (w : HeightWrite) (s : FileStore) :
    s.afterWrites (writes ++ [w]) = (s.afterWrites writes).afterWrite w := List.foldl_append

namespace InOrder
variable {store : Nat} {height : Nat → Word64} {first : FileStore} {s : Writers} {writes : List HeightWrite}

theorem initial (v : Volume) : InOrder store height v.store (.initial v) [] :=
  ⟨.nil, fun _ => by simp [Writers.initial, WriterPhase.told?], rfl, rfl, .inl ⟨rfl, fun _ => rfl, .refl _⟩⟩

/-- The same writes are in order where a writer goes on. -/
theorem goes_on (h : InOrder store height first s writes) {i : Nat} {p : WriterPhase} {v : Volume}
    (huntold : (s.phase i).told? = none) (hunderway : Underway (height i) p v (first.afterWrites writes))
    (hothers : ∀ j, j ≠ i → (s.phase j).busy = false) :
    InOrder store height first ⟨v, Function.update s.phase i p, [store], s.ended⟩ writes := by
  have htold (j : Nat) : (Function.update s.phase i p j).told? = (s.phase j).told? := by
    by_cases hj : j = i
    · rw [hj, Function.update_self, untold_of_busy hunderway.busy, huntold]
    · rw [Function.update_of_ne hj]
  refine ⟨h.nodup, fun j => ?_, h.heights, ?_, .inr ⟨i, rfl, fun j hj => ?_, ?_⟩⟩
  · rw [htold]
    exact h.mem j
  · simp only [htold]
    exact h.told
  · exact (congrArg WriterPhase.busy (Function.update_of_ne hj ..)).trans (hothers j hj)
  · dsimp only
    rw [Function.update_self]
    exact hunderway

/-- A write that comes to its end is the last in the order. -/
theorem snoc (h : InOrder store height first s writes) {i : Nat} {p : WriterPhase} {v : Volume} {fates : List StepFate}
    (huntold : (s.phase i).told? = none) (hothers : ∀ j, j ≠ i → (s.phase j).busy = false)
    (hleft : Left (first.afterWrites writes) ⟨height i, fates⟩ p v) :
    InOrder store height first ⟨v, Function.update s.phase i p, [], s.ended ++ [i]⟩
      (writes ++ [⟨height i, fates⟩]) := by
  obtain ⟨told, rfl, htold, hfiles⟩ := hleft
  have hnot : i ∉ s.ended := fun hmem => by simpa [huntold] using (h.mem i).1 hmem
  have hkept {j : Nat} (hj : j ≠ i) : Function.update s.phase i (.ended told) j = s.phase j := Function.update_of_ne hj ..
  refine ⟨?_, fun j => ?_, ?_, ?_, .inl ⟨rfl, fun j => ?_, fun name => ?_⟩⟩
  · simpa [List.concat_eq_append] using h.nodup.concat hnot
  · by_cases hj : j = i
    · simp [hj, WriterPhase.told?]
    · simpa [hkept hj, hj] using h.mem j
  · rw [List.map_append, List.map_append, h.heights, List.map_singleton, List.map_singleton]
  · have hearlier : (s.ended.map fun j => (Function.update s.phase i (.ended told) j).told?) =
        s.ended.map fun j => (s.phase j).told? :=
      List.map_congr_left fun j hj => by rw [hkept fun hi => hnot (hi ▸ hj)]
    dsimp only
    rw [tellings_snoc, h.told, htold, List.map_append, List.map_singleton, hearlier, Function.update_self]
    rfl
  · by_cases hj : j = i
    · dsimp only
      rw [hj, Function.update_self]
      rfl
    · exact (congrArg WriterPhase.busy (hkept hj)).trans (hothers j hj)
  · rw [afterWrites_snoc]
    exact (hfiles name).symm

/-- Only the writer that has the lock is at work. -/
theorem at_work (h : InOrder store height first s writes) {i : Nat} (hbusy : (s.phase i).busy = true) :
    s.held = [store] ∧ (∀ j, j ≠ i → (s.phase j).busy = false) ∧
      Underway (height i) (s.phase i) s.volume (first.afterWrites writes) := by
  have hnot {j : Nat} (hidle : (s.phase j).busy = false) (hj : i = j) : False := by
    rw [← hj, hbusy] at hidle
    cases hidle
  rcases h.lock with ⟨-, hidle, -⟩ | ⟨j, htaken, hothers, hunderway⟩
  · exact (hnot (hidle i) rfl).elim
  · obtain rfl : i = j := by_contra fun hne => hnot (hothers i hne) rfl
    exact ⟨htaken, hothers, hunderway⟩

/-- The order is kept by every move. -/
theorem move (h : InOrder store height first s writes) (m : WriterMove) :
    ∃ writes', InOrder store height first (s.move (fun _ => store) height m) writes' := by
  unfold Writers.move
  dsimp only
  split
  · exact ⟨writes, h⟩
  · rename_i hphase
    have huntold : (s.phase m.writer).told? = none := hphase ▸ rfl
    rcases h.lock with ⟨hfree, hidle, hfiles⟩ | ⟨i, htaken, -⟩
    · rw [hfree, if_neg List.not_mem_nil]
      exact ⟨writes, h.goes_on huntold (.start hfiles) fun j _ => hidle j⟩
    · rw [htaken, if_pos (List.mem_singleton_self _)]
      exact ⟨writes, h⟩
  · rename_i hnot hwaits
    have hbusy : (s.phase m.writer).busy = true := by
      cases hphase : s.phase m.writer with
      | ended told => exact absurd hphase (hnot told)
      | waiting => exact absurd hphase hwaits
      | _ => rfl
    obtain ⟨htaken, hothers, hunderway⟩ := h.at_work hbusy
    have huntold := untold_of_busy hbusy
    rw [htaken]
    rcases hunderway.step m with hgoes | ⟨fates, hleft⟩
    · rw [if_pos hgoes.busy]
      exact ⟨writes, h.goes_on huntold hgoes hothers⟩
    · rw [if_neg hleft.not_busy, List.erase_cons_head]
      exact ⟨_, h.snoc huntold hothers hleft⟩

/-- It is kept by any moves. -/
theorem run (h : InOrder store height first s writes) (moves : List WriterMove) :
    ∃ writes', InOrder store height first (s.run (fun _ => store) height moves) writes' := by
  induction moves generalizing s writes with
  | nil => exact ⟨writes, h⟩
  | cons m rest ih =>
    obtain ⟨_, hmoved⟩ := h.move m
    exact ih hmoved

/-- Nobody reads anything but the height that the writes in order have left. -/
theorem readHeight (h : InOrder store height first s writes) :
    s.volume.store.readHeight = (first.afterWrites writes).readHeight := by
  have hfile : s.volume.store.directory.find? heightFile = (first.afterWrites writes).directory.find? heightFile := by
    rcases h.lock with ⟨-, -, hfiles⟩ | ⟨i, -, -, hunderway⟩
    · exact hfiles heightFile
    · exact hunderway.find?_heightFile
  unfold FileStore.readHeight Directory.readText Directory.read
  rw [hfile]

/-- The file that a writer has opened is its own. -/
theorem owns (h : InOrder store height first s writes) (i : Nat) : (s.phase i).Owns s.volume := by
  cases hbusy : (s.phase i).busy with
  | true => exact (h.at_work hbusy).2.2.owns
  | false =>
    cases hphase : s.phase i with
    | opened f =>
      rw [hphase] at hbusy
      cases hbusy
    | _ => trivial

end InOrder

/-- Writers of one store. Those that have come to their end were told what they would have been told if their writes had
been made one after another, in the order in which they ended, and at any time the height that can be read is the one
that these writes leave. When no writer is at work the files are those that they leave. -/
theorem locked_writes_in_order (store : Nat) (height : Nat → Word64) (v : Volume) (moves : List WriterMove) :
    let s := (Writers.initial v).run (fun _ => store) height moves
    s.ended.Nodup ∧ (∀ i, i ∈ s.ended ↔ (s.phase i).told?.isSome) ∧
    ∃ writes : List HeightWrite, writes.map HeightWrite.height = s.ended.map height ∧
      v.store.tellings writes = (s.ended.map fun i => (s.phase i).told?) ∧
      s.volume.store.readHeight = (v.store.afterWrites writes).readHeight ∧
      (s.held = [] → SameFiles s.volume.store.directory (v.store.afterWrites writes).directory) := by
  intro s
  have hinitial : InOrder store height v.store (.initial v) [] := .initial v
  obtain ⟨writes, h⟩ := hinitial.run moves
  refine ⟨h.nodup, h.mem, writes, h.heights, h.told, h.readHeight, fun hfree => ?_⟩
  rcases h.lock with ⟨-, -, hfiles⟩ | ⟨i, htaken, -⟩
  · exact hfiles
  · exact absurd (hfree.symm.trans htaken) (List.cons_ne_nil _ _).symm

/-! ## Files that have been the height's -/

/-- A file with this content that has not the temporary name. -/
structure Settled (f : Nat) (b : Bytes) (v : Volume) : Prop where
  lt : f < v.files.length
  other : v.temporary? ≠ some f
  content : v.file f = b

namespace Settled
variable {f : Nat} {b : Bytes} {v : Volume}

theorem overwrite (hv : Settled f b v) {g : Nat} (hg : v.temporary? = some g) (c : Bytes) :
    Settled f b (v.overwrite g c) := by
  have hne : g ≠ f := fun h => hv.other (h ▸ hg)
  exact ⟨by simpa [Volume.overwrite, Volume.put] using hv.lt, hv.other, (Volume.file_put_other hne).trans hv.content⟩

/-- A writer writes to the file that has the temporary name. -/
theorem act {h : Word64} {p : WriterPhase} (hv : Settled f b v) (howns : p.Owns v) (m : WriterMove) :
    Settled f b (m.act h p v).2 := by
  unfold WriterMove.act
  cases m.fate with
  | works =>
    cases p with
    | waiting | written | ended _ => exact hv
    | locked =>
      obtain ⟨hlt, hother, hcontent⟩ := Volume.create_others hv.lt hv.other
      exact ⟨hlt, hother, hcontent.trans hv.content⟩
    | opened g => exact hv.overwrite howns.1 _
    | synced =>
      show Settled f b (match v.rename with | .ok v => _ | .error e => _ : WriterPhase × Volume).2
      rcases v.rename_cases with ⟨-, hrename⟩ | ⟨g, v', -, hrename, hfiles, htemporary, -⟩
      · rw [hrename]
        exact hv
      · rw [hrename]
        refine ⟨hfiles ▸ hv.lt, by simp [htemporary], ?_⟩
        exact (congrArg (·.getD f []) hfiles).trans hv.content
  | fails e kept =>
    cases p with
    | opened g => exact hv.overwrite howns.1 _
    | _ => exact hv

end Settled

theorem Writers.volume_move (store : Nat → Nat) (height : Nat → Word64) (s : Writers) (m : WriterMove) :
    (s.move store height m).volume = s.volume ∨
      (s.move store height m).volume = (m.act (height m.writer) (s.phase m.writer) s.volume).2 := by
  unfold Writers.move
  dsimp only
  split
  · exact .inl rfl
  · split
    · exact .inl rfl
    · exact .inl rfl
  · split
    · exact .inr rfl
    · exact .inr rfl

theorem Settled.run {f : Nat} {b : Bytes} {store : Nat} {height : Nat → Word64} {first : FileStore} {s : Writers}
    {writes : List HeightWrite} (hs : Settled f b s.volume) (h : InOrder store height first s writes)
    (moves : List WriterMove) : Settled f b (s.run (fun _ => store) height moves).volume := by
  induction moves generalizing s writes with
  | nil => exact hs
  | cons m rest ih =>
    obtain ⟨_, hmoved⟩ := h.move m
    refine ih ?_ hmoved
    rcases s.volume_move (fun _ => store) height m with hvolume | hvolume
    · exact hvolume ▸ hs
    · exact hvolume ▸ hs.act (h.owns m.writer) m

/-- A file that is or was the height's is not written to again. -/
theorem once_height_unchanged (store : Nat) (height : Nat → Word64) (v : Volume) (moves more : List WriterMove) :
    let s := (Writers.initial v).run (fun _ => store) height moves
    ∀ f ∈ s.volume.height?, (s.run (fun _ => store) height more).volume.file f = s.volume.file f := by
  intro s f hf
  have hinitial : InOrder store height v.store (.initial v) [] := .initial v
  obtain ⟨_, h⟩ := hinitial.run moves
  have hs : Settled f (s.volume.file f) s.volume :=
    ⟨s.volume.height_lt f hf, fun htemporary => s.volume.apart f htemporary hf, rfl⟩
  exact (hs.run h more).content

/-- Two stores over the directory, in which there is the height seven. The writer of nine opens and so empties the file
to which the writer of eight then gives the height's name: the height reads zero, though the writer of eight is told
that it succeeded. In the end nine can be read, though its writer is told that it failed. -/
theorem apart_writes_tear :
    let v : Volume := ⟨[heightBytes 7], none, some 0, by simp, by simp, by simp⟩
    let after (turns : List Nat) : Writers :=
      (Writers.initial v).run id (fun i => if i = 0 then 8 else 9) (turns.map (⟨·, .works⟩))
    let s := after [0, 0, 0, 0, 1, 1, 0]
    let t := after [0, 0, 0, 0, 1, 1, 0, 1, 1, 1]
    v.store.readHeight = .ok 7 ∧
      (s.phase 0).told? = some (.ok ()) ∧ s.volume.store.readHeight = .ok 0 ∧
      (t.phase 1).told? = some (.error (ioError .notFound)) ∧ t.volume.store.readHeight = .ok 9 := by
  decide +kernel

end FileStore
end EvmClient
