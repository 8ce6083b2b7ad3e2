import EvmClient.Proofs.Actions
import EvmClient.Proofs.Law

/-
Runs amid all else that happens, and runs that are cut short.

   `Program.run` runs a program by itself. A course runs it amid all else: each step finds a world of its own,
   of which nothing but the store is what the step before left behind, and the course may be cut off after
   any number of steps. What it leaves behind is the store and its effects.

   1. `perform_leads` — what a step can do to the store, whatever the world is.
   2. `run_is_course` — a run by itself is a course that is not cut.
   3. `course_ends` — where the courses of a program end that obeys a law on courses. -/
namespace EvmClient

/-! ## Effects -/

/-- What counts of the steps of a scan. -/
inductive Effect where
  | served (height : Nat) (block : Block)
  | handled (tx : Transaction) (block : Block)
  | appended (success : Bool)
  | wrote (height : Nat) (success : Bool)
  /-- The course ended before its program. -/
  | cut
deriving DecidableEq

/-- The effect of a question, by its answer. -/
def Query.effect? : (query : Query) → Except ClientError query.Answer → Option Effect
  | .blockByHeight height, .ok (some block) => some (.served height block)
  | _, _ => none

/-- A question has no effect, or a block was served. -/
theorem Query.effect?_cases (query : Query) (r : Except ClientError query.Answer) :
    query.effect? r = none ∨ ∃ height block, query.effect? r = some (.served height block) := by
  unfold effect?
  split
  · exact .inr ⟨_, _, rfl⟩
  · exact .inl rfl

/-- The effect of a step, by its answer. -/
def Op.effect? : (op : Op) → op.Answer → Option Effect
  | .ask _ query, r => query.effect? r
  | .handle _ tx block, _ => some (.handled tx block)
  | .append _, r => some (.appended r.isOk)
  | .writeHeight height, r => some (.wrote height r.isOk)
  | _, _ => none

def Effect.served? : Effect → Option (Nat × Block)
  | .served height block => some (height, block)
  | _ => none

def Effect.call? : Effect → Option (Transaction × Block)
  | .handled tx block => some (tx, block)
  | _ => none

def Effect.write? (success : Bool) : Effect → Option Nat
  | .wrote height kept => if kept = success then some height else none
  | _ => none

/-- The blocks that were served, with the heights that were asked for. -/
def servedBlocks (effects : List Effect) : List (Nat × Block) := effects.filterMap Effect.served?

/-- The transactions that a handler was given. -/
def handlerCalls (effects : List Effect) : List (Transaction × Block) := effects.filterMap Effect.call?

/-- The heights whose write succeeded, or failed. -/
def heightWrites (success : Bool) (effects : List Effect) : List Nat := effects.filterMap (Effect.write? success)

@[simp] theorem handlerCalls_append (a b : List Effect) : handlerCalls (a ++ b) = handlerCalls a ++ handlerCalls b :=
  List.filterMap_append

@[simp] theorem handlerCalls_singleton (e : Effect) : handlerCalls [e] = e.call?.toList := by
  cases e <;> rfl

@[simp] theorem heightWrites_append (success : Bool) (a b : List Effect) :
    heightWrites success (a ++ b) = heightWrites success a ++ heightWrites success b := List.filterMap_append

@[simp] theorem heightWrites_singleton (success : Bool) (e : Effect) :
    heightWrites success [e] = (e.write? success).toList := by
  unfold heightWrites
  cases h : e.write? success <;> simp [h]

/-! ## Courses -/

/-- What a course has left behind so far. -/
structure Course (σ : Type) where
  effects : List Effect
  store : σ

namespace Course
variable {σ : Type}

/-- The course after a step that left a store. -/
def step (c : Course σ) (op : Op) (r : op.Answer) (store : σ) : Course σ :=
  ⟨c.effects ++ (op.effect? r).toList, store⟩

/-- The course is cut off. -/
def stop (c : Course σ) : Course σ := ⟨c.effects ++ [.cut], c.store⟩

end Course

/-- The world before a step, and then those of the rest of the run. -/
def worldsFrom {ν σ : Type} (w : World ν σ) (worlds : Nat → World ν σ) : Nat → World ν σ
  | 0 => w
  | i + 1 => worlds i

section Courses
variable {α ν σ : Type} [Node ν] [CheckpointStore σ]

/-- Runs a program through one world after the other, but for so many steps only if there is a limit. -/
def Program.course : Program α → (Nat → World ν σ) → (limit : Option Nat) → Course σ → Course σ
  | .done _, _, _, c => c
  | .step op next, worlds, limit, c =>
    if limit = some 0 then c.stop
    else
      let (r, w) := World.perform { worlds 0 with store := c.store } op
      (next r).course (fun i => worlds (i + 1)) (limit.map (· - 1)) (c.step op r w.store)

/-- What a step can do: only the store's own operations tell of the store, and only they change it. -/
def Op.Leads (s : σ) : (op : Op) → op.Answer → σ → Prop
  | .openStore path, r, s' => (r, s') = CheckpointStore.openAt path s
  | .readHeight, r, s' => r = CheckpointStore.readHeight s ∧ s' = s
  | .writeHeight height, r, s' => (r, s') = CheckpointStore.writeHeight height s
  | .append record, r, s' => (r, s') = CheckpointStore.append record s
  | _, _, s' => s' = s

theorem perform_leads (w : World ν σ) (op : Op) : op.Leads w.store (w.perform op).1 (w.perform op).2.store := by
  cases op with
  | pause ctx span =>
    obtain ⟨_, _, _, _, hpause⟩ := World.pause_frame ctx span w
    show (w.pause ctx span).2.store = w.store
    rw [hpause]
  | readHeight => exact ⟨rfl, rfl⟩
  | _ => rfl

/-- The transactions that handlers were given are told by the effects. -/
theorem perform_handled (w : World ν σ) (op : Op) :
    (w.perform op).2.handled = w.handled ++ handlerCalls (op.effect? (w.perform op).1).toList := by
  cases op with
  | handle handler tx block => rfl
  | pause ctx span =>
    obtain ⟨_, _, _, _, hpause⟩ := World.pause_frame ctx span w
    show (w.pause ctx span).2.handled = w.handled ++ []
    rw [hpause, List.append_nil]
  | ask c query =>
    have hnone : handlerCalls (query.effect? (w.perform (.ask c query)).1).toList = [] := by
      rcases query.effect?_cases (w.perform (.ask c query)).1 with h | ⟨_, _, h⟩ <;> rw [h] <;> rfl
    exact (List.append_nil _).symm.trans (congrArg _ hnone.symm)
  | writeHeight height =>
    exact (List.append_nil _).symm
  | _ => exact (List.append_nil _).symm

/-- A run by itself is a course through the worlds that its steps leave. -/
theorem run_is_course (p : Program α) (w : World ν σ) (t : List Effect) :
    ∃ worlds : Nat → World ν σ, (p.run w).2.store = (p.course worlds none ⟨t, w.store⟩).store ∧
      ∃ calls, (p.run w).2.handled = w.handled ++ calls ∧
        handlerCalls (p.course worlds none ⟨t, w.store⟩).effects = handlerCalls t ++ calls := by
  induction p generalizing w t with
  | done a => exact ⟨fun _ => w, rfl, [], (List.append_nil _).symm, (List.append_nil _).symm⟩
  | step op next ih =>
    have hhandled := perform_handled w op
    obtain ⟨worlds, hstore, calls, hrun, hcourse⟩ :=
      ih (w.perform op).1 (w.perform op).2 (t ++ (op.effect? (w.perform op).1).toList)
    refine ⟨worldsFrom w worlds, hstore, handlerCalls (op.effect? (w.perform op).1).toList ++ calls, ?_, ?_⟩
    · rw [← List.append_assoc, ← hhandled]
      exact hrun
    · rw [← List.append_assoc, ← handlerCalls_append]
      exact hcourse

theorem effect?_ne_cut (op : Op) (r : op.Answer) : op.effect? r ≠ some .cut := by
  cases op with
  | ask c query =>
    show query.effect? r ≠ some .cut
    rcases query.effect?_cases r with h | ⟨_, _, h⟩ <;> rw [h] <;> exact fun h => by cases h
  | _ => exact fun h => by cases h

/-- A course without a limit is not cut. -/
theorem course_uncut (p : Program α) (worlds : Nat → World ν σ) {c : Course σ} (hc : .cut ∉ c.effects) :
    .cut ∉ (p.course worlds none c).effects := by
  induction p generalizing worlds c with
  | done a => exact hc
  | step op next ih =>
    apply ih
    intro h
    rcases List.mem_append.1 h with h | h
    · exact hc h
    · exact effect?_ne_cut op _ (Option.mem_toList.1 h)

/-! ## What courses keep -/

/-- Before each step `inv` holds of the course. -/
def courseLaw (inv : Course σ → Prop) : Law (Course σ) where
  allows c _ := inv c
  leads c op r c' := ∃ s, op.Leads c.store r s ∧ c' = c.step op r s

/-- The steps that tell nothing and leave the store. -/
def Op.Plain : Op → Prop
  | .ask _ (.blockByHeight _) | .handle _ _ _ | .openStore _ | .readHeight | .writeHeight _ | .append _ => False
  | _ => True

theorem Op.Plain.leads {op : Op} (hop : op.Plain) {s s' : σ} {r : op.Answer} (h : op.Leads s r s') :
    s' = s ∧ op.effect? r = none := by
  cases op with
  | ask c query =>
    cases query with
    | blockByHeight height => exact absurd hop id
    | _ => exact ⟨h, rfl⟩
  | handle _ _ _ | openStore _ | readHeight | writeHeight _ | append _ => exact absurd hop id
  | _ => exact ⟨h, rfl⟩

/-- A plain step adds nothing to a course. -/
theorem courseLaw_plain {inv : Course σ → Prop} {op : Op} (hop : op.Plain) {c c' : Course σ} {r : op.Answer}
    (h : (courseLaw inv).leads c op r c') : c' = c := by
  obtain ⟨s', hs, rfl⟩ := h
  obtain ⟨rfl, hnone⟩ := hop.leads hs
  rw [Course.step, hnone, Option.toList_none, List.append_nil]

/-- Where a program's courses end, cut or not. -/
theorem course_ends {inv ends : Course σ → Prop} {post : α → Course σ → Prop} {p : Program α} {c : Course σ}
    (hp : p.Obeys (courseLaw inv) post c) (hcut : ∀ c, inv c → ends c.stop) (hend : ∀ a c, post a c → ends c)
    (worlds : Nat → World ν σ) (limit : Option Nat) : ends (p.course worlds limit c) := by
  induction p generalizing worlds limit c with
  | done a => exact hend a c hp
  | step op next ih =>
    obtain ⟨hinv, hnext⟩ := hp
    rw [Program.course]
    split
    · exact hcut c hinv
    · have hleads := perform_leads { worlds 0 with store := c.store } op
      exact ih _ (hnext _ _ ⟨_, hleads, rfl⟩) _ _

end Courses
end EvmClient
