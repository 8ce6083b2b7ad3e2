import EvmClient.Client
import EvmClient.Node.Simulated
import EvmClient.Proofs.Durability
import EvmClient.Proofs.TickProtocol

/-
When the height that is kept goes down.

   A tick reads the height once and counts on from what it read. Its lock keeps out the ticks of its own scanner
   only, so ticks of several scanners that share one store may be at work at the same time, and each writes the heights
   that it has counted. A tick is overtaken if another one has written a height since it read its own.

   The store has a lock for its writers, so among those who share it a write is one step
   (`FileStore.locked_writes_in_order`). Stores that are opened one by one over a directory have a lock each, and
   their writes can tear each other (`FileStore.apart_writes_tear`): then a height can be lost where no tick was
   overtaken, and what is said here of one store does not hold.

   1. `TickMove.last_height` — a tick that is by itself counts from no less than what is kept.
   2. `Watched.stepped` — neither do ticks at the same time, but for those that were overtaken.
   3. `heights_rise_unless_overtaken` — only a write of a tick that was overtaken lowers the height.
   4. `second_scan_lowers` — two scans of one client do so, each of whose writes is made in one go. -/
namespace EvmClient

/-! ## What a tick counts from -/

/-- The height that a tick counts from. -/
def TickState.last? : TickState → Option Nat
  | .ready last | .handing last _ _ | .owing last _ _ _ _ | .dated last _ _ _ => some last
  | _ => none

section Moves
variable {σ : Type} [CheckpointStore σ] {scanner : Scanner} {k k' : TickState} {op : Op} {r : op.Answer} {s s' : σ}

theorem Op.Idle.store (hop : op.Idle) (hl : op.Leads s r s') : s' = s := by
  cases op with
  | ask _ _ | take | isClosed | dial | put _ | destroy _ | isDone _ | pause _ _ => exact hl
  | _ => exact absurd hop id

variable [DurableStore σ]

/-- Only a write changes the height that is kept. -/
theorem TickMove.height_steady (h : TickMove scanner k op r k') (hl : op.Leads s r s')
    (hop : ∀ height, op ≠ .writeHeight height) : DurableStore.height s' = DurableStore.height s := by
  cases h with
  | wrote last _ _ | unwritten last _ _ _ => exact absurd rfl (hop _)
  | appended _ _ _ _ _ => exact DurableStore.append hl.symm
  | read _ | unread _ => exact congrArg DurableStore.height hl.2
  | idle _ hidle => exact congrArg DurableStore.height (hidle.store hl)
  | _ => exact congrArg DurableStore.height hl

/-- What is written is the height behind the one that was counted from. -/
theorem TickMove.write_height {height : Nat} (h : TickMove scanner k op r k') (hl : op.Leads s r s')
    (hop : op = .writeHeight height) : (∃ last, k.last? = some last ∧ height = last + 1) ∧
      (DurableStore.height s' = DurableStore.height s ∨ DurableStore.height s' = height) := by
  cases h with
  | wrote last block hsize =>
    cases hop
    exact ⟨⟨last, rfl, rfl⟩, .inr (DurableStore.write_ok hsize hl.symm)⟩
  | unwritten last block e hsize =>
    cases hop
    exact ⟨⟨last, rfl, rfl⟩, DurableStore.write_error hsize hl.symm⟩
  | idle _ hidle =>
    subst hop
    exact absurd hidle id
  | _ => cases hop

/-- A tick that is by itself counts from no less than what is kept: from what it has just read, or from what it
counted from before. -/
theorem TickMove.last_height {last : Nat} (h : TickMove scanner k op r k') (hl : op.Leads s r s')
    (hlast : k'.last? = some last) : (op = .readHeight ∧ DurableStore.height s' ≤ last) ∨
      ∃ before, k.last? = some before ∧ (DurableStore.height s ≤ before → DurableStore.height s' ≤ last) := by
  have hkept (hsame : DurableStore.height s' = DurableStore.height s) :
      DurableStore.height s ≤ last → DurableStore.height s' ≤ last := fun h => hsame ▸ h
  cases h with
  | read height =>
    cases hlast
    refine .inl ⟨rfl, ?_⟩
    rw [hl.2, DurableStore.read hl.1.symm]
    exact Nat.le_max_left _ _
  | wrote before block hsize =>
    cases hlast
    exact .inr ⟨before, rfl, fun _ => Nat.le_of_eq (DurableStore.write_ok hsize hl.symm)⟩
  | idle _ hidle => exact .inr ⟨last, hlast, hkept (congrArg DurableStore.height (hidle.store hl))⟩
  | appended _ _ _ _ _ =>
    cases hlast
    exact .inr ⟨last, rfl, hkept (DurableStore.append hl.symm)⟩
  | served before c block | succeeded before _ _ _ | failed before _ _ _ _ | dated before _ _ _ _ _ =>
    cases hlast
    exact .inr ⟨last, rfl, hkept (congrArg DurableStore.height hl)⟩
  | lock | unlock _ | unread _ | unserved _ _ _ | unwritten _ _ _ _ => cases hlast

end Moves

/-! ## Ticks that were overtaken -/

/-- What holds of each entry of a log and those before it. -/
theorem each_snoc {α : Type} {P : List α → α → Prop} {log : List α} {e : α}
    (hlog : ∀ before e after, log = before ++ e :: after → P before e) (he : P log e) :
    ∀ before e' after, log ++ [e] = before ++ e' :: after → P before e' := by
  intro before e' after h
  rcases List.eq_nil_or_concat after with rfl | ⟨after, last, rfl⟩
  · obtain ⟨hbefore, hlast⟩ := List.append_inj' h rfl
    cases hlast
    exact hbefore ▸ he
  · rw [List.concat_eq_append, ← List.cons_append, ← List.append_assoc] at h
    exact hlog before e' after (List.append_inj' h rfl).1

section Overtaken
variable {ν σ : Type}

/-- Since a task read the height, another one has written a height. -/
def Overtaken (log : List (TaskStep ν σ)) (task : Nat) : Prop :=
  ∃ before read between write after, log = before ++ read :: between ++ write :: after ∧
    read.task = task ∧ read.op = .readHeight ∧ write.task ≠ task ∧ ∃ height, write.op = .writeHeight height

theorem Overtaken.mono {log : List (TaskStep ν σ)} {task : Nat} (h : Overtaken log task) (e : TaskStep ν σ) :
    Overtaken (log ++ [e]) task := by
  obtain ⟨before, read, between, write, after, rfl, h⟩ := h
  exact ⟨before, read, between, write, after ++ [e], by simp, h⟩

/-- A write of another task overtakes all that have read before. -/
theorem Overtaken.of_write {log : List (TaskStep ν σ)} {read write : TaskStep ν σ} {height : Nat} (hmem : read ∈ log)
    (hread : read.op = .readHeight) (hne : write.task ≠ read.task) (hwrite : write.op = .writeHeight height) :
    Overtaken (log ++ [write]) read.task := by
  obtain ⟨before, after, rfl⟩ := List.append_of_mem hmem
  exact ⟨before, read, after, write, [], rfl, rfl, hread, hne, height, hwrite⟩

variable [Node ν] [CheckpointStore σ] [DurableStore σ]

/-- A step keeps the height or raises it, or is a write of a task that was overtaken. -/
def Rises (before : List (TaskStep ν σ)) (e : TaskStep ν σ) : Prop :=
  DurableStore.height e.found.store ≤ DurableStore.height e.kept ∨
    (∃ height, e.op = .writeHeight height) ∧ Overtaken before e.task

/-- What is kept is no more than what a tick counts from, unless the tick was overtaken. -/
structure Watched (scanner : Nat → Scanner) (s : TaskSystem (Except ClientError TickOutcome) ν σ) : Prop where
  counts : ∀ i last, (tickState (scanner i) (s.stepsOf i)).last? = some last →
    (∃ read ∈ s.log, read.task = i ∧ read.op = .readHeight) ∧
      (DurableStore.height s.world.store ≤ last ∨ Overtaken s.log i)
  rises : ∀ before e after, s.log = before ++ e :: after → Rises before e

namespace Watched
variable {scanner : Nat → Scanner} {s : TaskSystem (Except ClientError TickOutcome) ν σ} {task : Nat} {op : Op}
  {next : op.Answer → Program (Except ClientError TickOutcome)}

/-- The step of a tick raises the height unless the tick was overtaken. -/
theorem rises_step (h : Watched scanner s)
    (hop : (tickState (scanner task) (s.stepsOf task)).Allows (scanner task) op) :
    Rises s.log ⟨task, s.world, op⟩ := by
  have hmove := hop.move (s.world.perform op).1
  have hleads := perform_leads s.world op
  by_cases hwrite : ∃ height, op = .writeHeight height
  · obtain ⟨height, hwrite⟩ := hwrite
    obtain ⟨⟨last, hlast, rfl⟩, hkept⟩ := hmove.write_height hleads hwrite
    rcases (h.counts task last hlast).2 with hle | hovertaken
    · left
      show DurableStore.height s.world.store ≤ DurableStore.height (s.world.perform op).2.store
      omega
    · exact .inr ⟨⟨_, hwrite⟩, hovertaken⟩
  · exact .inl (Nat.le_of_eq (hmove.height_steady hleads fun height h => hwrite ⟨height, h⟩).symm)

/-- A step of any tick keeps the watch. -/
theorem stepped (h : Watched scanner s)
    (hop : (tickState (scanner task) (s.stepsOf task)).Allows (scanner task) op) :
    Watched scanner (s.stepped task op next) := by
  have hmove := hop.move (s.world.perform op).1
  have hleads := perform_leads s.world op
  refine ⟨fun i last hlast => ?_, each_snoc h.rises (h.rises_step hop)⟩
  show (∃ read ∈ s.log ++ [⟨task, s.world, op⟩], _) ∧
    (DurableStore.height (s.world.perform op).2.store ≤ last ∨ Overtaken (s.log ++ [⟨task, s.world, op⟩]) i)
  by_cases hi : i = task
  · subst hi
    rw [tickState_stepped] at hlast
    rcases hmove.last_height hleads hlast with ⟨hread, hle⟩ | ⟨before, hbefore, hle⟩
    · exact ⟨⟨⟨i, s.world, op⟩, by simp, rfl, hread⟩, .inl hle⟩
    · obtain ⟨⟨read, hmem, hread⟩, hcount⟩ := h.counts i before hbefore
      exact ⟨⟨read, List.mem_append_left _ hmem, hread⟩, hcount.imp hle fun ho => ho.mono _⟩
  · rw [s.stepsOf_stepped_other hi] at hlast
    obtain ⟨⟨read, hmem, htask, hread⟩, hcount⟩ := h.counts i last hlast
    refine ⟨⟨read, List.mem_append_left _ hmem, htask, hread⟩, ?_⟩
    by_cases hwrite : ∃ height, op = .writeHeight height
    · obtain ⟨height, hwrite⟩ := hwrite
      subst htask
      exact .inr (.of_write hmem hread (Ne.symm hi) hwrite)
    · rw [hmove.height_steady hleads fun height h => hwrite ⟨height, h⟩]
      exact hcount.imp id fun ho => ho.mono _

end Watched

/-! ## The heights that are kept -/

/-- The heights that were kept, at first and after each step. -/
def keptHeights (s : σ) (log : List (TaskStep ν σ)) : List Nat :=
  DurableStore.height s :: log.map fun e => DurableStore.height e.kept

/-- Where no step lowers the height, it never goes down. -/
theorem keptHeights_sorted {s s' : σ} {log : List (TaskStep ν σ)} (hstore : Threaded s log s')
    (hrises : ∀ e ∈ log, DurableStore.height e.found.store ≤ DurableStore.height e.kept) :
    (keptHeights s log).Pairwise (· ≤ ·) := by
  induction log generalizing s with
  | nil => exact List.pairwise_singleton _ _
  | cons e log ih =>
    obtain ⟨rfl, hrest⟩ := hstore
    obtain ⟨he, hlog⟩ := List.forall_mem_cons.1 hrises
    have hsorted := ih hrest hlog
    refine List.pairwise_cons.2 ⟨fun height hmem => ?_, hsorted⟩
    rcases List.mem_cons.1 hmem with rfl | hmem
    · exact he
    · exact Nat.le_trans he ((List.pairwise_cons.1 hsorted).1 height hmem)

/-- Ticks at the same time of any scanners that share one store, so that a write of one is a single step for the
others: a step that lowers the height that is kept is a write, and since the tick that writes has read the height,
another tick has written one. If there is no such write, the height never goes down. -/
theorem heights_rise_unless_overtaken (scanner : Nat → Scanner) (ctx : Nat → Context) (w : World ν σ)
    (moves : List (TaskMove ν σ)) :
    let s := (TaskSystem.ticks scanner ctx w).run moves
    (∀ before e after, s.log = before ++ e :: after →
      DurableStore.height e.found.store ≤ DurableStore.height e.kept ∨
        (∃ height, e.op = .writeHeight height) ∧ Overtaken before e.task) ∧
    ((∀ before e after, s.log = before ++ e :: after → (∃ height, e.op = .writeHeight height) →
      ¬ Overtaken before e.task) → (keptHeights w.store s.log).Pairwise (· ≤ ·)) := by
  intro s
  have htraced : s.Traced _ w.store := TaskSystem.run_traced _ w moves
  have hwatched : Watched scanner s := by
    refine TaskSystem.ticks_induct ?_ ?_ ?_ moves
    · refine ⟨fun i last hlast => ?_, fun before e after h => ?_⟩
      · cases hlast
      · exact absurd h (by simp [TaskSystem.ticks, TaskSystem.initial])
    · exact fun s task op next hop _ hs => hs.stepped hop
    · exact fun s w' hs => ⟨hs.counts, hs.rises⟩
  refine ⟨hwatched.rises, fun hnone => keptHeights_sorted htraced.threaded fun e he => ?_⟩
  obtain ⟨before, after, hsplit⟩ := List.append_of_mem he
  rcases hwatched.rises before e after hsplit with hle | ⟨hwrite, hovertaken⟩
  · exact hle
  · exact absurd hovertaken (hnone before e after hsplit hwrite)

/-- Two scans of one client, from the first block and from the fifth, over one directory and a chain of ten blocks.
The second begins in the pause of the first behind the second block, and writes six; then the first writes three. No
step of the one falls into a write of the other, so it does not matter that each has opened a store of its own. -/
theorem second_scan_lowers :
    let node := [1, 2, 3, 4, 5, 6, 7, 8, 9, 10].foldl (fun n h => n.addBlock (SimulatedNode.blockOf h [])) SimulatedNode.initial
    let scans (task : Nat) : Program (Except ClientError ScanEnd) :=
      (Client.startScan .standard task .background (if task = 0 then 1 else 5) 1000 (fun _ _ _ => .success) 1).run
    let w : World SimulatedNode FileStore := .initial node 0 ⟨.empty⟩
    let moves : List (TaskMove SimulatedNode FileStore) :=
      List.replicate 14 (.step 0) ++ List.replicate 14 (.step 1) ++ List.replicate 4 (.step 0)
    let s := (TaskSystem.initial scans w).run moves
    heightWrites true (effectsOf s.log) = [2, 6, 3] ∧ s.world.store.height = 3 ∧
      ¬ (keptHeights w.store s.log).Pairwise (· ≤ ·) := by decide +kernel

end Overtaken
end EvmClient
