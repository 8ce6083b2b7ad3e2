import EvmClient.Proofs.Course
import Mathlib.Logic.Function.Basic

/-
Programs that run at the same time.

   Tasks share one world and its store, each at some place in a program of its own. The step of any of them may be the
   next, only that a lock which is taken is waited for. Between two steps everything may change that is not the tasks'
   alone: the node, the pool, the time, the signals; the store and the locks stay. There are as many tasks as numbers;
   one that never takes a step was not called. The log tells all steps, each with the world that it found.

   1. `Traced` — each task's steps are a run of its program as far as it came, and the store goes from step to step.
   2. `run_induct` — what the steps and the changes from outside keep, a whole run keeps.
   3. `Ran.obeys`, `Ran.allowed` — what a law says of a program, it says of the steps of its task.
   4. `Ran.course` — the steps of one task over the store are a course. -/
namespace EvmClient

/-! ## Steps of tasks -/

structure TaskStep (ν σ : Type) where
  task : Nat
  /-- The world before the step. -/
  found : World ν σ
  op : Op

section Steps
variable {α κ ν σ : Type} [Node ν] [CheckpointStore σ]

namespace TaskStep

def answer (e : TaskStep ν σ) : e.op.Answer := (e.found.perform e.op).1

/-- What was done, and how it was answered. -/
def exchange (e : TaskStep ν σ) : (op : Op) × op.Answer := ⟨e.op, e.answer⟩

/-- The store after the step. -/
def kept (e : TaskStep ν σ) : σ := (e.found.perform e.op).2.store

def effect? (e : TaskStep ν σ) : Option Effect := e.op.effect? e.answer

theorem leads (e : TaskStep ν σ) : e.op.Leads e.found.store e.answer e.kept := perform_leads e.found e.op

end TaskStep

/-- From one place in a program, steps lead to another. -/
inductive Program.Ran : Program α → List (TaskStep ν σ) → Program α → Prop where
  | nil (p : Program α) : Ran p [] p
  | cons {e : TaskStep ν σ} {next : e.op.Answer → Program α} {es : List (TaskStep ν σ)} {p : Program α} :
    Ran (next e.answer) es p → Ran (.step e.op next) (e :: es) p

/-- Each step finds the store that the one before left. -/
def Threaded : σ → List (TaskStep ν σ) → σ → Prop
  | s, [], s' => s = s'
  | s, e :: es, s' => e.found.store = s ∧ Threaded e.kept es s'

theorem threaded_append {a b : List (TaskStep ν σ)} {s s' : σ} :
    Threaded s (a ++ b) s' ↔ ∃ m, Threaded s a m ∧ Threaded m b s' := by
  induction a generalizing s with
  | nil => exact ⟨fun h => ⟨s, rfl, h⟩, by rintro ⟨_, rfl, h⟩; exact h⟩
  | cons e a ih =>
    constructor
    · rintro ⟨hfound, hrest⟩
      obtain ⟨m, ha, hb⟩ := ih.1 hrest
      exact ⟨m, ⟨hfound, ha⟩, hb⟩
    · rintro ⟨m, ⟨hfound, ha⟩, hb⟩
      exact ⟨hfound, ih.2 ⟨m, ha, hb⟩⟩

namespace Program.Ran
variable {p p' : Program α} {es : List (TaskStep ν σ)}

theorem snoc {e : TaskStep ν σ} {next : e.op.Answer → Program α} (h : p.Ran es (.step e.op next)) :
    p.Ran (es ++ [e]) (next e.answer) := by
  generalize hq : Program.step e.op next = q at h
  induction h with
  | nil p =>
    subst hq
    exact .cons (.nil _)
  | cons _ ih => exact .cons (ih hq)

theorem split {a b : List (TaskStep ν σ)} (h : p.Ran (a ++ b) p') : ∃ m, p.Ran a m ∧ m.Ran b p' := by
  induction a generalizing p with
  | nil => exact ⟨p, .nil p, h⟩
  | cons e a ih =>
    cases h with
    | cons h =>
      obtain ⟨m, ha, hb⟩ := ih h
      exact ⟨m, .cons ha, hb⟩

/-! ## Laws -/

section Laws
variable {law : Law κ} {post : α → κ → Prop} {after : κ → (op : Op) → op.Answer → κ} {k : κ}

variable (after) in
/-- What is left of a program obeys the law in the state that the steps led to, if the law knows their answers. -/
theorem obeys_answered (h : p.Ran es p') (hp : p.Obeys law post k)
    (hafter : ∀ e ∈ es, ∀ k, law.leads k e.op e.answer (after k e.op e.answer)) :
    p'.Obeys law post (es.foldl (fun k e => after k e.op e.answer) k) := by
  induction h generalizing k with
  | nil p => exact hp
  | @cons e _ _ _ _ ih =>
    obtain ⟨hfirst, hrest⟩ := List.forall_mem_cons.1 hafter
    exact ih (hp.2 _ _ (hfirst k)) hrest

/-- So it does if the law knows all answers. -/
theorem obeys (h : p.Ran es p') (hp : p.Obeys law post k) (hafter : ∀ k op r, law.leads k op r (after k op r)) :
    p'.Obeys law post (es.foldl (fun k e => after k e.op e.answer) k) :=
  h.obeys_answered after hp fun e _ k => hafter k e.op e.answer

/-- Each step is allowed in the state that the steps before led to. -/
theorem allowed {before rest : List (TaskStep ν σ)} {e : TaskStep ν σ} (h : p.Ran (before ++ e :: rest) p')
    (hp : p.Obeys law post k) (hafter : ∀ k op r, law.leads k op r (after k op r)) :
    law.allows (before.foldl (fun k e => after k e.op e.answer) k) e.op := by
  obtain ⟨m, hbefore, hrest⟩ := h.split
  have hm := hbefore.obeys hp hafter
  cases hrest with
  | cons _ => exact hm.1

end Laws
end Program.Ran

/-! ## Courses -/

/-- Whether a program has come to its end. -/
def Program.isDone : Program α → Bool
  | .done _ => true
  | .step _ _ => false

/-- How many steps a course through these steps may take, if it stops there. -/
def Program.limit (p : Program α) (es : List (TaskStep ν σ)) : Option Nat := if p.isDone then none else some es.length

/-- The worlds that steps found, and behind them one and the same. -/
def worldsOf (es : List (TaskStep ν σ)) (w : World ν σ) : Nat → World ν σ := fun n => (es[n]?.map TaskStep.found).getD w

/-- The effects of steps. -/
def effectsOf (es : List (TaskStep ν σ)) : List Effect := es.filterMap TaskStep.effect?

/-- A program that is not at its end is cut. -/
def Program.remnant (p : Program α) : List Effect := if p.isDone then [] else [.cut]

/-- The steps of a program over the store that they share are a course. -/
theorem Program.Ran.course {p p' : Program α} {es : List (TaskStep ν σ)} (h : p.Ran es p') (w : World ν σ) {s s' : σ}
    (hstore : Threaded s es s') (t : List Effect) :
    p.course (worldsOf es w) (p'.limit es) ⟨t, s⟩ = ⟨t ++ effectsOf es ++ p'.remnant, s'⟩ := by
  induction h generalizing s t with
  | nil p =>
    obtain rfl : s = s' := hstore
    cases p with
    | done a => simp [Program.course, effectsOf, Program.remnant, Program.isDone]
    | step op next =>
      simp [Program.course, Program.limit, effectsOf, Program.remnant, Program.isDone, Course.stop]
  | @cons e next es p' _ ih =>
    obtain ⟨rfl, hrest⟩ := hstore
    have hlimit : p'.limit (e :: es) ≠ some 0 := by
      unfold Program.limit
      split <;> simp
    have hnext : (p'.limit (e :: es)).map (· - 1) = p'.limit es := by
      unfold Program.limit
      split <;> rfl
    have hworlds : (fun i => worldsOf (e :: es) w (i + 1)) = worldsOf es w := rfl
    have heffects : effectsOf (e :: es) = e.effect?.toList ++ effectsOf es := by
      unfold effectsOf
      cases h : e.effect? <;> simp [h]
    rw [Program.course, if_neg hlimit, hnext, hworlds, heffects]
    refine (ih hrest (t ++ e.effect?.toList)).trans ?_
    rw [List.append_assoc t]

end Steps

/-! ## Systems -/

structure TaskSystem (α ν σ : Type) where
  world : World ν σ
  /-- What is left of each task's program. -/
  rest : Nat → Program α
  log : List (TaskStep ν σ)

inductive TaskMove (ν σ : Type) where
  | step (task : Nat)
  /-- The world becomes another, but for the store and the locks. -/
  | outside (w : World ν σ)

namespace TaskSystem
variable {α ν σ : Type}

/-- No task has begun. -/
def initial (programs : Nat → Program α) (w : World ν σ) : TaskSystem α ν σ := ⟨{ w with held := [] }, programs, []⟩

/-- The steps of one task. -/
def stepsOf (s : TaskSystem α ν σ) (task : Nat) : List (TaskStep ν σ) := s.log.filter (·.task = task)

/-- The task has come to its end. -/
def Finished (s : TaskSystem α ν σ) (task : Nat) : Prop := (s.rest task).isDone = true

variable [Node ν] [CheckpointStore σ]

/-- The system after a task's step. -/
def stepped (s : TaskSystem α ν σ) (task : Nat) (op : Op) (next : op.Answer → Program α) : TaskSystem α ν σ :=
  let (r, world) := s.world.perform op
  ⟨world, Function.update s.rest task (next r), s.log ++ [⟨task, s.world, op⟩]⟩

def move (s : TaskSystem α ν σ) : TaskMove ν σ → TaskSystem α ν σ
  | .step task =>
    match s.rest task with
    | .done _ => s
    | .step op next => if s.world.enabled op then s.stepped task op next else s
  | .outside w => { s with world := { w with store := s.world.store, held := s.world.held } }

def run (s : TaskSystem α ν σ) (moves : List (TaskMove ν σ)) : TaskSystem α ν σ := moves.foldl move s

theorem stepsOf_stepped_self (s : TaskSystem α ν σ) (task : Nat) (op : Op) (next : op.Answer → Program α) :
    (s.stepped task op next).stepsOf task = s.stepsOf task ++ [⟨task, s.world, op⟩] := by
  show (s.log ++ [_]).filter _ = _
  rw [List.filter_append]
  simp [stepsOf]

theorem stepsOf_stepped_other (s : TaskSystem α ν σ) {task other : Nat} (h : other ≠ task) (op : Op)
    (next : op.Answer → Program α) : (s.stepped task op next).stepsOf other = s.stepsOf other := by
  show (s.log ++ [_]).filter _ = _
  rw [List.filter_append]
  simp [stepsOf, h.symm]

/-- What the log tells of the tasks and of the store. -/
structure Traced (programs : Nat → Program α) (store : σ) (s : TaskSystem α ν σ) : Prop where
  ran : ∀ task, (programs task).Ran (s.stepsOf task) (s.rest task)
  threaded : Threaded store s.log s.world.store

theorem Traced.stepped {programs : Nat → Program α} {store : σ} {s : TaskSystem α ν σ} (hs : Traced programs store s)
    {task : Nat} {op : Op} {next : op.Answer → Program α} (hrest : s.rest task = .step op next) :
    Traced programs store (s.stepped task op next) := by
  refine ⟨fun other => ?_, threaded_append.2 ⟨s.world.store, hs.threaded, rfl, rfl⟩⟩
  by_cases hother : other = task
  · subst hother
    have hran := hs.ran other
    have hnow : (s.stepped other op next).rest other = next (s.world.perform op).1 := Function.update_self _ _ _
    rw [hrest] at hran
    rw [stepsOf_stepped_self, hnow]
    exact Program.Ran.snoc (e := ⟨other, s.world, op⟩) hran
  · have hsame : (s.stepped task op next).rest other = s.rest other := Function.update_of_ne hother _ _
    rw [stepsOf_stepped_other s hother, hsame]
    exact hs.ran other

/-- What the steps and the changes from outside keep, a whole run keeps. -/
theorem run_induct {programs : Nat → Program α} {w : World ν σ} {P : TaskSystem α ν σ → Prop}
    (hinitial : P (initial programs w))
    (hstep : ∀ s task op next, Traced programs w.store s → s.rest task = .step op next →
      s.world.enabled op = true → P s → P (s.stepped task op next))
    (houtside : ∀ s w', P s → P (s.move (.outside w'))) (moves : List (TaskMove ν σ)) :
    Traced programs w.store ((initial programs w).run moves) ∧ P ((initial programs w).run moves) := by
  have hrun : ∀ (moves : List (TaskMove ν σ)) (s : TaskSystem α ν σ), Traced programs w.store s ∧ P s →
      Traced programs w.store (s.run moves) ∧ P (s.run moves) := by
    intro moves
    induction moves with
    | nil => exact fun _ hs => hs
    | cons m moves ih =>
      rintro s ⟨htraced, hs⟩
      refine ih _ ?_
      cases m with
      | outside w' => exact ⟨⟨htraced.ran, htraced.threaded⟩, houtside s w' hs⟩
      | step task =>
        simp only [move]
        split
        · exact ⟨htraced, hs⟩
        · rename_i op next hrest
          split
          · rename_i henabled
            exact ⟨htraced.stepped hrest, hstep s task op next htraced hrest henabled hs⟩
          · exact ⟨htraced, hs⟩
  exact hrun moves _ ⟨⟨fun _ => .nil _, rfl⟩, hinitial⟩

theorem run_traced (programs : Nat → Program α) (w : World ν σ) (moves : List (TaskMove ν σ)) :
    Traced programs w.store ((initial programs w).run moves) :=
  (run_induct (P := fun _ => True) trivial (fun _ _ _ _ _ _ _ h => h) (fun _ _ h => h) moves).1

end TaskSystem
end EvmClient
