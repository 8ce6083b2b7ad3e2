import EvmClient.Proofs.AtomicWrites
import EvmClient.Proofs.Interleaving

/-
The log of failed transactions, over files that may fail.

   An append or a step of a height's write may fail, and leaves as much of what it was to write as it likes. The log
   only ever grows. A record is on a line of its own if the log ended with a line before it; an append that failed may
   have left a part of a line there, and the next record is glued to it.

   1. `FaultyFiles.writeHeight_log` — the write of a height leaves the log as it is, wherever it fails.
   2. `log_grows` — a step leaves the log as it is, or adds to its end.
   3. `append_logged` — an append that works puts its record on a line of its own, if the log ended with a line.
   4. `endsLine_step` — only an append that fails leaves a part of a line. -/
namespace EvmClient

/-! ## The log -/

/-- The bytes of the log; where it is missing, none. -/
def FileStore.log (s : FileStore) : Bytes :=
  match s.directory.find? failedFile with
  | some (.file b) => b
  | _ => []

/-- The byte that ends a line. -/
def lineFeed : UInt8 := 10

/-- Nothing stands behind the last line. -/
def EndsLine (b : Bytes) : Prop := b = [] ∨ b.getLast? = some lineFeed

instance (b : Bytes) : Decidable (EndsLine b) := inferInstanceAs (Decidable (_ ∨ _))

/-- A record is on a line of its own. -/
def Logged (log : Bytes) (record : FailedRecord) : Prop :=
  ∃ before after, log = before ++ FileStore.lineBytes record ++ after ∧ EndsLine before

theorem Logged.mono {log log' : Bytes} {record : FailedRecord} (h : Logged log record) (hlog : log <+: log') :
    Logged log' record := by
  obtain ⟨before, after, rfl, hbefore⟩ := h
  obtain ⟨more, rfl⟩ := hlog
  exact ⟨before, after ++ more, by simp, hbefore⟩

namespace FileStore

theorem lineBytes_eq (record : FailedRecord) : lineBytes record = Hex.utf8 record.toJson.write ++ [lineFeed] :=
  List.flatMap_append

theorem endsLine_lineBytes (b : Bytes) (record : FailedRecord) : EndsLine (b ++ lineBytes record) := by
  rw [lineBytes_eq, ← List.append_assoc]
  exact .inr List.getLast?_concat

/-- What is appended to the log's file comes behind the log. -/
theorem log_append {d d' : Directory} {b : Bytes} (h : d.append failedFile b = .ok d') : log ⟨d'⟩ = log ⟨d⟩ ++ b := by
  unfold Directory.append at h
  unfold log
  cases hfile : d.find? failedFile with
  | none =>
    rw [hfile] at h
    cases h
    simp [Directory.find?_set]
  | some entry =>
    rw [hfile] at h
    cases entry with
    | file a =>
      cases h
      simp [Directory.find?_set]
    | folder => cases h

/-- The write of a height leaves every other file, wherever it stops. -/
theorem attemptSteps_others {name : String} (htemporary : name ≠ temporaryFile) (hheight : name ≠ heightFile)
    (steps : List WriteStep) (fates : List StepFate) (d : Directory) :
    (attemptSteps steps fates d).directory.find? name = d.find? name := by
  have hperform {step : WriteStep} {d d' : Directory} (h : step.perform d = .ok d') : d'.find? name = d.find? name := by
    by_cases hrename : step = .rename
    · subst hrename
      unfold WriteStep.perform Directory.rename at h
      dsimp only at h
      split at h
      · cases h
      · cases h
      · cases h
        rw [Directory.find?_set, if_neg hheight, Directory.find?_erase, if_neg htemporary]
    · exact perform_others hrename h htemporary
  induction steps generalizing fates d with
  | nil =>
    unfold attemptSteps
    split <;> rfl
  | cons step rest ih =>
    unfold attemptSteps
    cases fates.headD .works with
    | works =>
      dsimp only
      cases hstep : step.perform d with
      | error e => rfl
      | ok d' => exact (ih fates.tail d').trans (hperform hstep)
    | fails e kept => exact leave_others step kept d htemporary
    | dies kept => exact leave_others step kept d htemporary

end FileStore

/-- Every record's line begins with the same two characters. -/
theorem FileStore.lineBytes_head (record : FailedRecord) : ∃ rest, lineBytes record = 0x7b :: 0x22 :: rest :=
  ⟨_, rfl⟩

/-- No record is logged where the log is one line, and this does not begin as a record does. -/
theorem not_logged {log : Bytes} (hline : lineFeed ∉ log.dropLast) (hhead : log[1]? ≠ some 0x22)
    (record : FailedRecord) : ¬ Logged log record := by
  rintro ⟨before, after, rfl, hbefore⟩
  obtain ⟨rest, hrecord⟩ := FileStore.lineBytes_head record
  rw [hrecord, List.append_assoc] at hline hhead
  rcases hbefore with rfl | hlast
  · exact hhead rfl
  · -- The line that ends in front of the record ends within the log.
    rw [List.dropLast_append_of_ne_nil (by simp)] at hline
    exact hline (List.mem_append_left _ (List.mem_of_getLast? hlast))

/-! ## Files that may fail -/

/-- What becomes of an operation on a file; of what was to be written by one that fails, the first bytes are left. -/
inductive FileFate where
  | works
  | fails (e : ClientError) (kept : Nat)

def FileFate.ofStep : FileFate → StepFate
  | .works => .works
  | .fails e kept => .fails e kept

/-- A store in files, with the fates of the appends to come and those of the steps of the height writes to come.
Where no fate is given, an operation works. -/
structure FaultyFiles where
  files : FileStore
  appends : List FileFate
  writes : List (List FileFate)

namespace FaultyFiles

def append (record : FailedRecord) (s : FaultyFiles) : Except ClientError Unit × FaultyFiles :=
  match s.appends.headD .works with
  | .works => ((s.files.append record).1, ⟨(s.files.append record).2, s.appends.tail, s.writes⟩)
  | .fails e kept =>
    match s.files.directory.append FileStore.failedFile ((FileStore.lineBytes record).take kept) with
    | .ok d => (.error e, ⟨⟨d⟩, s.appends.tail, s.writes⟩)
    | .error _ => (.error e, ⟨s.files, s.appends.tail, s.writes⟩)

/-- The write of a height as far as it comes. -/
def attempt (height : Nat) (s : FaultyFiles) : FileStore.Attempt :=
  FileStore.attemptSteps (FileStore.heightSteps height) ((s.writes.headD []).map FileFate.ofStep) s.files.directory

def writeHeight (height : Nat) (s : FaultyFiles) : Except ClientError Unit × FaultyFiles :=
  ((s.attempt height).told.getD (.ok ()), ⟨⟨(s.attempt height).directory⟩, s.appends, s.writes.tail⟩)

instance : CheckpointStore FaultyFiles := ⟨fun _ s => (.ok (), s), fun s => s.files.readHeight, writeHeight, append⟩

/-- The program does not die, so the writer is always told something. -/
theorem attempt_told (height : Nat) (s : FaultyFiles) : (s.attempt height).told ≠ none := by
  have hsteps : ∀ (steps : List FileStore.WriteStep) (fates : List FileFate) (d : Directory),
      (FileStore.attemptSteps steps (fates.map FileFate.ofStep) d).told ≠ none := by
    intro steps
    induction steps with
    | nil =>
      intro fates d
      rcases fates with _ | ⟨_ | _, fates⟩ <;> simp [FileStore.attemptSteps, FileFate.ofStep]
    | cons step rest ih =>
      intro fates d
      rcases fates with _ | ⟨_ | _, fates⟩
      · simp only [List.map_nil, FileStore.attemptSteps, List.headD_nil, List.tail_nil]
        cases step.perform d with
        | error e => simp
        | ok d' => exact ih [] d'
      · simp only [List.map_cons, FileStore.attemptSteps, List.headD_cons, List.tail_cons, FileFate.ofStep]
        cases step.perform d with
        | error e => simp
        | ok d' => exact ih fates d'
      · simp [FileStore.attemptSteps, FileFate.ofStep]
  exact hsteps _ _ _

theorem writeHeight_log (height : Nat) (s : FaultyFiles) : (s.writeHeight height).2.files.log = s.files.log := by
  have htemporary : FileStore.failedFile ≠ FileStore.temporaryFile := by decide
  have hfile := FileStore.attemptSteps_others htemporary FileStore.failedFile_ne.symm (FileStore.heightSteps height)
    ((s.writes.headD []).map FileFate.ofStep) s.files.directory
  show FileStore.log ⟨(s.attempt height).directory⟩ = s.files.log
  unfold FileStore.log attempt
  rw [hfile]

/-- An append puts the line behind the log, or fails and puts a part of the line there. -/
theorem append_log (record : FailedRecord) (s : FaultyFiles) :
    ((s.append record).1 = .ok () ∧ (s.append record).2.files.log = s.files.log ++ FileStore.lineBytes record) ∨
      ∃ e part, (s.append record).1 = .error e ∧ part <+: FileStore.lineBytes record ∧
        (s.append record).2.files.log = s.files.log ++ part := by
  unfold append
  cases s.appends.headD .works with
  | works =>
    dsimp only
    unfold FileStore.append
    cases h : s.files.directory.append FileStore.failedFile (FileStore.lineBytes record) with
    | ok d => exact .inl ⟨rfl, FileStore.log_append h⟩
    | error e => exact .inr ⟨_, [], rfl, List.nil_prefix, (List.append_nil _).symm⟩
  | fails e kept =>
    dsimp only
    cases h : s.files.directory.append FileStore.failedFile ((FileStore.lineBytes record).take kept) with
    | ok d => exact .inr ⟨e, _, rfl, List.take_prefix kept _, FileStore.log_append h⟩
    | error _ => exact .inr ⟨e, [], rfl, List.nil_prefix, (List.append_nil _).symm⟩

end FaultyFiles

/-! ## What steps do to the log -/

section Steps
variable {ν : Type} [Node ν]

/-- A step that is no append leaves the log as it is. -/
theorem Op.Leads.log_steady {op : Op} {s s' : FaultyFiles} {r : op.Answer} (h : op.Leads s r s')
    (hop : ∀ record, op ≠ .append record) : s'.files.log = s.files.log := by
  cases op with
  | append record => exact absurd rfl (hop record)
  | writeHeight height =>
    have hstore : s' = (s.writeHeight height).2 := congrArg Prod.snd h
    rw [hstore]
    exact s.writeHeight_log height
  | openStore path => exact congrArg (fun s => s.files.log) (congrArg Prod.snd h)
  | readHeight => exact congrArg (fun s => s.files.log) h.2
  | _ => exact congrArg (fun s => s.files.log) h

/-- The log only grows. -/
theorem log_grows (e : TaskStep ν FaultyFiles) : e.found.store.files.log <+: e.kept.files.log := by
  by_cases hop : ∃ record, e.op = .append record
  · obtain ⟨task, found, op⟩ := e
    obtain ⟨record, rfl⟩ := hop
    show _ <+: (found.store.append record).2.files.log
    rcases found.store.append_log record with ⟨-, hlog⟩ | ⟨_, _, -, -, hlog⟩
    · rw [hlog]
      exact List.prefix_append _ _
    · rw [hlog]
      exact List.prefix_append _ _
  · rw [e.leads.log_steady fun record h => hop ⟨record, h⟩]

theorem log_prefix {s s' : FaultyFiles} {es : List (TaskStep ν FaultyFiles)} (h : Threaded s es s') :
    s.files.log <+: s'.files.log := by
  induction es generalizing s with
  | nil => exact h ▸ List.prefix_refl _
  | cons e es ih =>
    obtain ⟨rfl, hrest⟩ := h
    exact (log_grows e).trans (ih hrest)

/-- The step is an append that failed. -/
def TaskStep.appendFails (e : TaskStep ν FaultyFiles) : Bool :=
  match e.op, e.answer with
  | .append _, .error _ => true
  | _, _ => false

theorem TaskStep.log_append {e : TaskStep ν FaultyFiles} {record : FailedRecord} (hop : e.op = .append record)
    (hworks : e.appendFails = false) : e.kept.files.log = e.found.store.files.log ++ FileStore.lineBytes record := by
  obtain ⟨task, found, op⟩ := e
  obtain rfl : op = .append record := hop
  rcases found.store.append_log record with ⟨-, hlog⟩ | ⟨error, _, hfailed, -, -⟩
  · exact hlog
  · have hanswer : TaskStep.answer ⟨task, found, .append record⟩ = .error error := hfailed
    unfold TaskStep.appendFails at hworks
    rw [hanswer] at hworks
    cases hworks

/-- An append that works puts its record on a line of its own, if the log ended with a line. -/
theorem append_logged {e : TaskStep ν FaultyFiles} {record : FailedRecord} (hop : e.op = .append record)
    (hworks : e.appendFails = false) (hends : EndsLine e.found.store.files.log) : Logged e.kept.files.log record :=
  ⟨e.found.store.files.log, [], by rw [e.log_append hop hworks, List.append_nil], hends⟩

/-- Only an append that fails leaves a part of a line. -/
theorem endsLine_step {e : TaskStep ν FaultyFiles} (hends : EndsLine e.found.store.files.log)
    (hworks : e.appendFails = false) : EndsLine e.kept.files.log := by
  by_cases hop : ∃ record, e.op = .append record
  · obtain ⟨record, hop⟩ := hop
    rw [e.log_append hop hworks]
    exact FileStore.endsLine_lineBytes _ record
  · rw [e.leads.log_steady fun record h => hop ⟨record, h⟩]
    exact hends

/-- As long as no append fails, the log ends with a line. -/
theorem endsLine_threaded {s s' : FaultyFiles} {es : List (TaskStep ν FaultyFiles)} (h : Threaded s es s')
    (hends : EndsLine s.files.log) (hworks : ∀ e ∈ es, e.appendFails = false) : EndsLine s'.files.log := by
  induction es generalizing s with
  | nil => exact h ▸ hends
  | cons e es ih =>
    obtain ⟨rfl, hrest⟩ := h
    obtain ⟨he, hes⟩ := List.forall_mem_cons.1 hworks
    exact ih hrest (endsLine_step hends he) hes

end Steps
end EvmClient
