import EvmClient.Proofs.Timeline
import Mathlib

/-
When a context is done, and when a wait for it is over.

   Both are told by two things: the ends of the timeouts that were attached on the way to the context, and what is done
   with the handle that it shares. A cancellation counts if it is sent before the handle is dropped, and from then on for
   ever; to drop the handle neither brings it about nor takes it back. Who waits sees none of this at once: a watcher looks
   at the channel step by step, and other tasks cancel and drop in between.

   1. `done_from_first_trigger` — the deadline of a context, when it is done, that it stays so, that a drop changes
      nothing and that clones agree; and that a wait is over at the first time from its start on at which the context is
      done, whatever happens between the steps of the watcher, and goes on for ever if there is none.
   2. `await_isFirst` — the same of the wait alone, from any state of the watcher.
   3. `doneWithin_eq_pause` — a wait with a limit is the pause that ends early with its context.

   What carries the wait is `Watched`: a watcher that waits has seen no value yet, so any that is there or comes wakes it,
   and one that has given up has found the handle dropped and unused. -/
namespace EvmClient

/-! ## Contexts by how they were made -/

/-- How a context was made, with the times of the calls. -/
inductive Recipe where
  | background
  | withTimeout (now span : ℕ)
  | withHandle (h : Handle)
  | clone (of : Recipe)
  | timeout (now span : ℕ) (of : Recipe)

namespace Recipe

def context : Recipe → Context
  | background => .background
  | withTimeout now span => .withTimeout now span
  | withHandle h => .withHandle h
  | clone r => r.context
  | timeout now span r => r.context.timeout now span

/-- The handle that the context shares. -/
def handle? : Recipe → Option Handle
  | background | withTimeout _ _ => none
  | withHandle h => some h
  | clone r | timeout _ _ r => r.handle?

/-- The ends of the timeouts that were attached. -/
def ends : Recipe → List ℕ
  | background | withHandle _ => []
  | withTimeout now span => [now + span]
  | clone r => r.ends
  | timeout now span r => (now + span) :: r.ends

theorem context_handle? (r : Recipe) : r.context.handle? = r.handle? := by
  induction r with
  | background | withTimeout | withHandle => rfl
  | clone r ih => exact ih
  | timeout now span r ih => exact ih

/-- A context ends with the first of its timeouts. -/
theorem context_deadline? (r : Recipe) : r.context.deadline? = r.ends.min? := by
  induction r with
  | background | withTimeout | withHandle => rfl
  | clone r ih => exact ih
  | timeout now span r ih =>
    rw [context, Context.timeout, ends, List.min?_cons, ih]
    cases r.ends.min? with
    | none => rfl
    | some d => simp [Nat.min_comm]

theorem deadline_le_iff (r : Recipe) (t : ℕ) :
    (∃ d, r.context.deadline? = some d ∧ d ≤ t) ↔ ∃ e ∈ r.ends, e ≤ t := by
  rw [context_deadline?]
  constructor
  · intro hsome
    obtain ⟨d, hd, ht⟩ := hsome
    exact ⟨d, (List.min?_eq_some_iff.1 hd).1, ht⟩
  · intro hsome
    obtain ⟨e, he, ht⟩ := hsome
    obtain ⟨d, hd⟩ := Option.isSome_iff_exists.1 (List.isSome_min?_of_mem he)
    exact ⟨d, hd, Nat.le_trans ((List.min?_eq_some_iff.1 hd).2 e he) ht⟩

end Recipe

/-! ## What happens to a channel -/

/-- What is done with handles, and when. -/
abbrev Script := List (ℕ × HandleAct)

/-- A cancellation is sent by a time, and the handle is not dropped before. -/
def Script.CancelsBy (script : Script) (h : Handle) (t : ℕ) : Prop :=
  ∃ before u after, script = before ++ (u, HandleAct.cancel h) :: after ∧ u ≤ t ∧ ∀ v, (v, HandleAct.drop h) ∉ before

theorem Script.cancelsBy_cons (v : ℕ) (a : HandleAct) (rest : Script) (h : Handle) (t : ℕ) :
    Script.CancelsBy ((v, a) :: rest) h t ↔
      a = .cancel h ∧ v ≤ t ∨ a ≠ .drop h ∧ Script.CancelsBy rest h t := by
  constructor
  · intro hsome
    obtain ⟨before, u, after, heq, hu, hno⟩ := hsome
    cases before with
    | nil =>
      simp only [List.nil_append, List.cons.injEq, Prod.mk.injEq] at heq
      exact .inl ⟨heq.1.2, heq.1.1 ▸ hu⟩
    | cons p before =>
      simp only [List.cons_append, List.cons.injEq] at heq
      refine .inr ⟨?_, before, u, after, heq.2, hu, ?_⟩
      · intro ha
        exact hno v (by simp [← heq.1, ha])
      · intro w hw
        exact hno w (List.mem_cons_of_mem _ hw)
  · intro hcases
    rcases hcases with ⟨rfl, hv⟩ | ⟨ha, before, u, after, rfl, hu, hno⟩
    · exact ⟨[], v, rest, rfl, hv, by simp⟩
    · refine ⟨(v, a) :: before, u, after, rfl, hu, ?_⟩
      intro w hw
      rcases List.mem_cons.1 hw with heq | hw
      · simp only [Prod.mk.injEq] at heq
        exact ha heq.2.symm
      · exact hno w hw

/-- What an act does to the channel of a handle. -/
def HandleAct.effect (h : Handle) (g : Channel) : HandleAct → Channel
  | .cancel k => if k = h then g.cancel else g
  | .drop k => if k = h then g.drop else g

namespace Channels

/-- The channels after what was done with the handles up to a time. -/
def upTo (script : Script) (t : ℕ) (s : Channels) : Channels :=
  (script.filter (·.1 ≤ t)).foldl (fun s p => s.act p.2) s

variable {script past rest : Script} {t v : ℕ} {a : HandleAct} {s : Channels} {h k : Handle} {g : Channel}

theorem upTo_of_le (hv : v ≤ t) : s.upTo ((v, a) :: rest) t = (s.act a).upTo rest t := by
  rw [upTo, List.filter_cons_of_pos (by simpa using hv), List.foldl_cons]
  rfl

theorem upTo_of_all_lt (hlater : ∀ p ∈ script, t < p.1) : s.upTo script t = s := by
  rw [upTo, filter_le_eq_nil hlater, List.foldl_nil]

/-- What came before a time is over then. -/
theorem upTo_append {u : ℕ} (hpast : ∀ p ∈ past, p.1 ≤ t) (hu : t ≤ u) :
    s.upTo (past ++ rest) u = (s.upTo past t).upTo rest u := by
  have hall : ∀ v, t ≤ v → past.filter (·.1 ≤ v) = past := by
    intro v hv
    apply List.filter_eq_self.2
    intro p hp
    have := hpast p hp
    simp only [decide_eq_true_eq]
    omega
  simp only [upTo, List.filter_append, List.foldl_append, hall t (Nat.le_refl t), hall u hu]

theorem get?_act (a : HandleAct) (s : Channels) (h : Handle) :
    (s.act a).list[h]? = s.list[h]?.map fun g => a.effect h g := by
  cases a with
  | cancel k =>
    rw [act, List.getElem?_modify]
    by_cases hk : k = h <;> simp [HandleAct.effect, hk]
  | drop k =>
    rw [act, List.getElem?_modify]
    by_cases hk : k = h <;> simp [HandleAct.effect, hk]

theorem signals_get? (s : Channels) (h : Handle) : s.signals.list[h]? = s.list[h]?.map Channel.toSignal :=
  List.getElem?_map

/-- A dropped handle is as much cancelled as it was. -/
theorem isCancelled_drop (s : Channels) (h k : Handle) :
    (s.act (.drop k)).signals.isCancelled h = s.signals.isCancelled h := by
  rw [Signals.isCancelled, Signals.isCancelled, signals_get?, signals_get?, get?_act]
  cases s.list[h]? with
  | none => rfl
  | some g => by_cases hk : k = h <;> simp [HandleAct.effect, hk, Channel.drop]

/-- A channel is cancelled from the first value on that is sent before the handle is dropped. -/
theorem cancelled_upTo (hscript : script.Pairwise (·.1 ≤ ·.1)) (hg : s.list[h]? = some g) :
    (s.upTo script t).signals.isCancelled h = true ↔
      g.cancelled = true ∨ g.dropped = false ∧ Script.CancelsBy script h t := by
  induction script generalizing s g with
  | nil =>
    have hnever : ¬Script.CancelsBy [] h t := by
      intro hsome
      obtain ⟨before, u, after, heq, _⟩ := hsome
      simp at heq
    simp [upTo, Signals.isCancelled, signals_get?, hg, hnever]
  | cons p rest ih =>
    obtain ⟨v, a⟩ := p
    rw [List.pairwise_cons] at hscript
    rw [Script.cancelsBy_cons]
    by_cases hv : v ≤ t
    · have hact : (s.act a).list[h]? = some (a.effect h g) := by rw [get?_act, hg, Option.map_some]
      rw [upTo_of_le hv, ih hscript.2 hact]
      cases a with
      | cancel k =>
        by_cases hk : k = h
        · cases hd : g.dropped <;> simp [HandleAct.effect, hk, Channel.cancel, hd, hv]
        · simp [HandleAct.effect, hk]
      | drop k => by_cases hk : k = h <;> simp [HandleAct.effect, hk, Channel.drop]
    · have hlater : ∀ p ∈ (v, a) :: rest, t < p.1 := by
        intro p hp
        rcases List.mem_cons.1 hp with rfl | hp
        · exact Nat.lt_of_not_le hv
        · exact Nat.lt_of_lt_of_le (Nat.lt_of_not_le hv) (hscript.1 p hp)
      have hnever : ¬Script.CancelsBy rest h t := by
        intro hsome
        obtain ⟨before, u, after, heq, hu, _⟩ := hsome
        have := hlater (u, .cancel h) (by simp [heq])
        omega
      rw [upTo_of_all_lt hlater]
      simp [Signals.isCancelled, signals_get?, hg, hv, hnever]

end Channels

namespace Context

/-- Whether a context is done at a time of a script. -/
def DoneAt (script : Script) (s : Channels) (c : Context) (t : ℕ) : Prop := c.isDone t (s.upTo script t).signals = true

variable {script past rest : Script} {s : Channels} {c : Context} {t u v now : ℕ} {a : HandleAct}

theorem isCancelled_iff_channel? (s : Channels) (c : Context) :
    (∃ h, c.handle? = some h ∧ s.signals.isCancelled h = true) ↔ ∃ g, c.channel? s = some g ∧ g.cancelled = true := by
  cases hh : c.handle? with
  | none => simp [channel?, hh]
  | some h =>
    simp only [channel?, hh, Option.bind_some, Option.some.injEq, exists_eq_left', Signals.isCancelled,
      Channels.signals_get?]
    cases s.list[h]? <;> simp

theorem doneAt_iff : c.DoneAt script s t ↔
    (∃ d, c.deadline? = some d ∧ d ≤ t) ∨ ∃ g, c.channel? (s.upTo script t) = some g ∧ g.cancelled = true := by
  rw [DoneAt, isDone_eq_true_iff, isCancelled_iff_channel?]

/-- Before the first act nothing changes but the time. -/
theorem doneAt_of_all_lt (hlater : ∀ p ∈ script, t < p.1) : c.DoneAt script s t ↔ c.isDone t s.signals = true := by
  rw [DoneAt, Channels.upTo_of_all_lt hlater]

theorem doneAt_of_le (hv : v ≤ t) : c.DoneAt ((v, a) :: rest) s t ↔ c.DoneAt rest (s.act a) t := by
  rw [DoneAt, Channels.upTo_of_le hv]
  rfl

theorem doneAt_append (hpast : ∀ p ∈ past, p.1 ≤ t) (hu : t ≤ u) :
    c.DoneAt (past ++ rest) s u ↔ c.DoneAt rest (s.upTo past t) u := by
  rw [DoneAt, Channels.upTo_append hpast hu]
  rfl

end Context

/-! ## The watcher -/

/-- A channel is cancelled if and only if a value was sent. -/
def Channel.Counted (g : Channel) : Prop := g.cancelled = true ↔ g.sends ≠ 0

namespace Channel
variable {g : Channel}

theorem counted_opened : opened.Counted := by simp [Counted, opened]

theorem Counted.unused (hg : g.Counted) (hnone : g.sends = 0) : g.cancelled = false := by
  rw [← Bool.not_eq_true]
  intro hcancelled
  exact hg.1 hcancelled hnone

theorem counted_cancel (hg : g.Counted) : g.cancel.Counted := by
  cases hd : g.dropped with
  | true => simpa [cancel, hd] using hg
  | false => simp [cancel, hd, Counted]

theorem counted_effect (h : Handle) (a : HandleAct) (hg : g.Counted) : (a.effect h g).Counted := by
  cases a with
  | cancel k =>
    rw [HandleAct.effect]
    split
    · exact counted_cancel hg
    · exact hg
  | drop k =>
    rw [HandleAct.effect]
    split
    · exact hg
    · exact hg

end Channel

namespace Watch

/-- What a watcher knows of its channel. -/
def Fits (g : Channel) : Watch → Prop
  | .looking => True
  | .waiting seen => seen = 0
  | .forsaken => g.dropped = true ∧ g.cancelled = false
  | .signalled => g.cancelled = true

variable {g : Channel} {w : Watch}

theorem fits_step (hg : g.Counted) (hw : w.Fits g) : (w.step g).Fits g := by
  cases w with
  | looking =>
    rw [step]
    split
    next hcancelled => exact hcancelled
    next hnot =>
      have hnone := mt hg.2 hnot
      exact not_not.1 hnone
  | waiting seen =>
    have hseen : seen = 0 := hw
    rw [step]
    split
    next => trivial
    next hsame =>
      have hnone : g.sends = 0 := (not_not.1 hsame).trans hseen
      split
      next hdropped => exact ⟨hdropped, hg.unused hnone⟩
      next => exact hseen
  | forsaken => exact hw
  | signalled => exact hw

/-- A cancellation leaves all that a watcher knows true: what was sent is still there, and nothing is sent through a
dropped handle. -/
theorem fits_cancel (hw : w.Fits g) : w.Fits g.cancel := by
  cases hd : g.dropped with
  | true => simpa [Channel.cancel, hd] using hw
  | false =>
    cases w with
    | looking => trivial
    | waiting seen => exact hw
    | forsaken => exact absurd hw.1 (by simp [hd])
    | signalled => simp [Channel.cancel, hd, Fits]

theorem fits_drop (hw : w.Fits g) : w.Fits g.drop := by
  cases w with
  | looking => trivial
  | waiting seen => exact hw
  | forsaken => exact ⟨rfl, hw.2⟩
  | signalled => exact hw

/-- Whatever other tasks do, what a watcher knows stays true. -/
theorem fits_effect (h : Handle) (a : HandleAct) (hw : w.Fits g) : w.Fits (a.effect h g) := by
  cases a with
  | cancel k =>
    rw [HandleAct.effect]
    split
    · exact fits_cancel hw
    · exact hw
  | drop k =>
    rw [HandleAct.effect]
    split
    · exact fits_drop hw
    · exact hw

/-- Where a watcher comes to stand if nothing more is done with the handle. -/
def outcome (g : Channel) : Watch :=
  if g.cancelled then .signalled else if g.dropped then .forsaken else .waiting 0

/-- Three steps bring a watcher as far as it comes. -/
theorem step_thrice (hg : g.Counted) (hw : w.Fits g) : ((w.step g).step g).step g = outcome g := by
  cases hc : g.cancelled with
  | true =>
    have hsome : g.sends ≠ 0 := hg.1 hc
    cases w with
    | looking => simp [step, outcome, hc]
    | waiting seen =>
      have hseen : seen = 0 := hw
      simp [step, outcome, hc, hseen, hsome]
    | forsaken => exact absurd hw.2 (by simp [hc])
    | signalled => simp [step, outcome, hc]
  | false =>
    have hnone : g.sends = 0 := not_not.1 (mt hg.2 (by simp [hc]))
    cases w with
    | looking => cases hd : g.dropped <;> simp [step, outcome, hc, hd, hnone]
    | waiting seen =>
      have hseen : seen = 0 := hw
      cases hd : g.dropped <;> simp [step, outcome, hc, hd, hseen, hnone]
    | forsaken => simp [step, outcome, hc, hw.1]
    | signalled => exact absurd hw (by simp [Fits, hc])

theorem outcome_signalled_iff (g : Channel) : outcome g = .signalled ↔ g.cancelled = true := by
  cases hc : g.cancelled <;> cases hd : g.dropped <;> simp [outcome, hc, hd]

end Watch

/-! ## The wait -/

namespace Context

/-- The watcher of a context's channel knows nothing wrong. -/
def Watched (s : Channels) (c : Context) (w : Watch) : Prop :=
  match c.channel? s with
  | some g => g.Counted ∧ w.Fits g
  | none => w ≠ .signalled

variable {script : Script} {s : Channels} {c : Context} {w : Watch} {t u now next : ℕ} {a : HandleAct}

theorem watched_looking (h : ∀ g, c.channel? s = some g → g.Counted) : c.Watched s .looking := by
  rw [Watched]
  cases hg : c.channel? s with
  | none => simp
  | some g => exact ⟨h g hg, trivial⟩

theorem watched_watch (hw : c.Watched s w) : c.Watched s (c.watch s w) := by
  rw [Watched] at hw ⊢
  rw [watch]
  cases hg : c.channel? s with
  | none => simpa [hg] using hw
  | some g =>
    rw [hg] at hw
    exact ⟨hw.1, Watch.fits_step hw.1 hw.2⟩

theorem watched_act (a : HandleAct) (hw : c.Watched s w) : c.Watched (s.act a) w := by
  rw [Watched, channel?] at hw ⊢
  cases hh : c.handle? with
  | none =>
    rw [hh] at hw
    exact hw
  | some h =>
    rw [hh, Option.bind_some] at hw
    rw [Option.bind_some, Channels.get?_act]
    cases hg : s.list[h]? with
    | none =>
      rw [hg] at hw
      exact hw
    | some g =>
      rw [hg] at hw
      exact ⟨Channel.counted_effect h a hw.1, Watch.fits_effect h a hw.2⟩

theorem watched_upTo (script : Script) (t : ℕ) (hw : c.Watched s w) : c.Watched (s.upTo script t) w := by
  rw [Channels.upTo]
  generalize script.filter (·.1 ≤ t) = acts
  induction acts generalizing s with
  | nil => exact hw
  | cons p rest ih => exact ih (watched_act p.2 hw)

theorem watchOut_eq (hw : c.Watched s w) : c.watchOut s w = ((c.channel? s).map Watch.outcome).getD w := by
  rw [Watched] at hw
  simp only [watchOut, watch]
  cases hg : c.channel? s with
  | none => rfl
  | some g =>
    rw [hg] at hw
    exact Watch.step_thrice hw.1 hw.2

theorem watched_watchOut (hw : c.Watched s w) : c.Watched s (c.watchOut s w) :=
  watched_watch (watched_watch (watched_watch hw))

/-- A watcher that has done all there is to do has seen a signal if there is one; so who waits sees what a glance at the
context sees. -/
theorem isOver_iff (hw : c.Watched s w) : c.isOver now (c.watchOut s w) = true ↔ c.isDone now s.signals = true := by
  rw [isDone_eq_true_iff, isCancelled_iff_channel?, watchOut_eq hw]
  rw [Watched] at hw
  simp only [isOver, Bool.or_eq_true, Option.any_eq_true, decide_eq_true_eq]
  cases hg : c.channel? s with
  | none =>
    rw [hg] at hw
    simp [hw]
  | some g => simp [Watch.outcome_signalled_iff]

end Context

/-! ## The first time -/

/-- The first time from `now` on at which something holds, if there is one. -/
def IsFirst (P : ℕ → Prop) (now : ℕ) : Option ℕ → Prop
  | some t => IsLeast {u | now ≤ u ∧ P u} t
  | none => ∀ u, now ≤ u → ¬P u

namespace IsFirst
variable {P Q : ℕ → Prop} {now t : ℕ} {o : Option ℕ}

theorem of_now (h : P now) : IsFirst P now (some now) := ⟨⟨Nat.le_refl now, h⟩, fun _ hu => hu.1⟩

/-- What does not hold up to a time holds first from there on. -/
theorem later (hnow : now ≤ t) (hnot : ∀ u, now ≤ u → u < t → ¬P u) (h : IsFirst P t o) : IsFirst P now o := by
  cases o with
  | none =>
    intro u hu
    by_cases hut : u < t
    · exact hnot u hu hut
    · exact h u (Nat.le_of_not_lt hut)
  | some first =>
    refine ⟨⟨Nat.le_trans hnow h.1.1, h.1.2⟩, ?_⟩
    intro u hu
    by_cases hut : u < t
    · exact absurd hu.2 (hnot u hu.1 hut)
    · exact h.2 ⟨Nat.le_of_not_lt hut, hu.2⟩

theorem congr (hPQ : ∀ u, now ≤ u → (P u ↔ Q u)) (h : IsFirst P now o) : IsFirst Q now o := by
  cases o with
  | none =>
    intro u hu hQ
    exact h u hu ((hPQ u hu).2 hQ)
  | some first =>
    refine ⟨⟨h.1.1, (hPQ first h.1.1).1 h.1.2⟩, ?_⟩
    intro u hu
    exact h.2 ⟨hu.1, (hPQ u hu.1).2 hu.2⟩

end IsFirst

/-! ## A wait among the turns of others -/

/-- What other tasks do with handles while a context is waited for. -/
def WaitTurn.acts : List (ℕ × WaitTurn) → Script
  | [] => []
  | (t, .act a) :: rest => (t, a) :: acts rest
  | (_, .step) :: rest => acts rest

theorem WaitTurn.acts_le {turns : List (ℕ × WaitTurn)} {t : ℕ} (h : ∀ q ∈ turns, t ≤ q.1) :
    ∀ p ∈ acts turns, t ≤ p.1 := by
  induction turns with
  | nil => simp [acts]
  | cons q rest ih =>
    obtain ⟨u, turn⟩ := q
    rw [List.forall_mem_cons] at h
    cases turn with
    | act a =>
      rw [acts, List.forall_mem_cons]
      exact ⟨h.1, ih h.2⟩
    | step => exact ih h.2

namespace Context
variable {script : Script} {s : Channels} {c : Context} {w w' : Watch} {now next stop t : ℕ}
  {turns : List (ℕ × WaitTurn)}

/-- Until someone does something with a handle, a context that is not done gets done by its deadline only. -/
theorem doneAt_iff_deadline (hnot : ¬c.isDone now s.signals = true) (hlater : ∀ p ∈ script, t < p.1) :
    c.DoneAt script s t ↔ ∃ d, c.deadline? = some d ∧ d ≤ t := by
  rw [doneAt_of_all_lt hlater, isDone_eq_true_iff]
  constructor
  · intro h
    rcases h with hdeadline | hcancelled
    · exact hdeadline
    · exact absurd (isDone_eq_true_iff.2 (.inr hcancelled)) hnot
  · intro hdeadline
    exact .inl hdeadline

theorem isFirst_deadline {d : ℕ} (hnot : ¬c.isDone now s.signals = true) (hlater : ∀ p ∈ script, d ≤ p.1)
    (hd : c.deadline? = some d) : IsFirst (c.DoneAt script s) now (some d) := by
  have hnow : now < d := by
    apply Nat.lt_of_not_le
    intro hle
    exact hnot (isDone_eq_true_iff.2 (.inl ⟨d, hd, hle⟩))
  refine ⟨⟨Nat.le_of_lt hnow, doneAt_iff.2 (.inl ⟨d, hd, Nat.le_refl d⟩)⟩, ?_⟩
  intro u hdue
  have hdone := hdue.2
  apply Nat.le_of_not_lt
  intro hud
  obtain ⟨e, he, heu⟩ := (doneAt_iff_deadline hnot fun p hp => Nat.lt_of_lt_of_le hud (hlater p hp)).1 hdone
  rw [hd, Option.some.injEq] at he
  omega

/-- A wait that is over before the next turn is over at the first time at which the context is done. -/
theorem pass_error (hw : c.Watched s w) (hnext : now < next) (hlater : ∀ p ∈ script, next ≤ p.1)
    (h : await.pass c now next s w = .error stop) : IsFirst (c.DoneAt script s) now (some stop) := by
  rw [await.pass] at h
  split at h
  next hover =>
    obtain rfl : now = stop := by simpa using h
    rw [isOver_iff hw] at hover
    exact .of_now ((doneAt_of_all_lt fun p hp => Nat.lt_of_lt_of_le hnext (hlater p hp)).2 hover)
  next hnot =>
    rw [isOver_iff hw] at hnot
    split at h
    next d hd =>
      split at h
      next hdnext =>
        obtain rfl : d = stop := by simpa using h
        exact isFirst_deadline hnot (fun p hp => Nat.le_trans hdnext (hlater p hp)) hd
      next => cases h
    next => cases h

/-- A wait that goes on up to the next turn has missed nothing. -/
theorem pass_ok (hw : c.Watched s w) (hlater : ∀ p ∈ script, next ≤ p.1) (h : await.pass c now next s w = .ok w') :
    c.Watched s w' ∧ ∀ u, now ≤ u → u < next → ¬c.DoneAt script s u := by
  rw [await.pass] at h
  split at h
  next => cases h
  next hnot =>
    rw [isOver_iff hw] at hnot
    have hbefore : w' = c.watchOut s w ∧ ∀ d, c.deadline? = some d → next < d := by
      split at h
      next d hd =>
        split at h
        next => cases h
        next hlate =>
          refine ⟨by simpa using h.symm, ?_⟩
          intro e he
          rw [hd, Option.some.injEq] at he
          omega
      next hd =>
        refine ⟨by simpa using h.symm, ?_⟩
        intro e he
        rw [hd] at he
        cases he
    refine ⟨hbefore.1 ▸ watched_watchOut hw, ?_⟩
    intro u _ hu hdone
    obtain ⟨d, hd, hdu⟩ := (doneAt_iff_deadline hnot fun p hp => Nat.lt_of_lt_of_le hu (hlater p hp)).1 hdone
    have := hbefore.2 d hd
    omega

/-- From any state of the watcher, and whatever happens between its steps, a wait is over at the first time at which the
context is done. The induction is on the turns; `Watched` goes from each to the next. -/
theorem await_isFirst (hturns : turns.Pairwise (·.1 ≤ ·.1)) (hnow : ∀ q ∈ turns, now ≤ q.1) (hw : c.Watched s w) :
    IsFirst (c.DoneAt (WaitTurn.acts turns) s) now (c.await turns now s w) := by
  induction turns generalizing now s w with
  | nil =>
    rw [await]
    have hlater : ∀ t, ∀ p ∈ WaitTurn.acts [], t ≤ p.1 := by simp [WaitTurn.acts]
    split
    next hover =>
      rw [isOver_iff hw] at hover
      exact .of_now ((doneAt_of_all_lt (hlater (now + 1))).2 hover)
    next hnot =>
      rw [isOver_iff hw] at hnot
      cases hd : c.deadline? with
      | some d => exact isFirst_deadline hnot (hlater d) hd
      | none =>
        intro u _ hdone
        obtain ⟨d, he, _⟩ := (doneAt_iff_deadline hnot (hlater (u + 1))).1 hdone
        rw [hd] at he
        cases he
  | cons q rest ih =>
    obtain ⟨t, turn⟩ := q
    rw [List.pairwise_cons] at hturns
    have ht : now ≤ t := hnow _ List.mem_cons_self
    have hlater : ∀ p ∈ WaitTurn.acts ((t, turn) :: rest), t ≤ p.1 := by
      apply WaitTurn.acts_le
      rw [List.forall_mem_cons]
      exact ⟨Nat.le_refl t, hturns.1⟩
    -- From the turn on, it is the wait that the induction is about.
    have hturn : ∀ w', c.Watched s w' → IsFirst (c.DoneAt (WaitTurn.acts ((t, turn) :: rest)) s) t
        (c.await rest t (c.afterTurn s w' turn).1 (c.afterTurn s w' turn).2) := by
      intro w' hw'
      cases turn with
      | step => exact ih hturns.2 hturns.1 (watched_watch hw')
      | act a =>
        refine (ih hturns.2 hturns.1 (watched_act a hw')).congr ?_
        intro u hu
        exact (doneAt_of_le hu).symm
    rw [await]
    split
    next stop hpass =>
      split at hpass
      next hlt => exact pass_error hw hlt hlater hpass
      next => cases hpass
    next w' hpass =>
      split at hpass
      next hlt =>
        obtain ⟨hw', hnot⟩ := pass_ok hw hlater hpass
        exact (hturn w' hw').later ht hnot
      next hge =>
        obtain rfl : w = w' := by simpa using hpass
        obtain rfl : now = t := by omega
        exact hturn w hw

end Context

/-! ## A wait with a limit -/

namespace Channels

theorem signals_ofSignals (s : Signals) : (ofSignals s).signals = s := by
  simp [ofSignals, signals, Function.comp_def]

theorem counted_ofSignals {s : Signals} {h : Handle} {g : Channel} (hg : (ofSignals s).list[h]? = some g) :
    g.Counted := by
  simp only [ofSignals, List.getElem?_map, Option.map_eq_some_iff] at hg
  obtain ⟨signal, _, rfl⟩ := hg
  cases hc : signal.cancelled <;> simp [Channel.Counted, hc]

theorem signals_cancel (h : Handle) (s : Channels) : (s.act (.cancel h)).signals = s.signals.cancel h := by
  simp only [act, signals, Signals.cancel, Signals.mk.injEq]
  apply List.ext_getElem?
  intro k
  simp only [List.getElem?_map, List.getElem?_modify]
  cases s.list[k]? with
  | none => simp
  | some g =>
    by_cases hk : h = k
    · cases hd : g.dropped <;> simp [hk, Channel.cancel, hd]
    · simp [hk]

/-- The channels of those who wait are the handles of the world. -/
theorem signals_upTo {ν : Type} (agenda : List (ℕ × Event ν)) {now t : ℕ} (ht : now ≤ t) (s : Channels) :
    (s.upTo (WaitTurn.acts (agenda.filterMap (World.waitTurn? now))) t).signals = s.signals.upTo agenda t := by
  induction agenda generalizing s with
  | nil => rfl
  | cons p rest ih =>
    obtain ⟨v, e⟩ := p
    cases e with
    | node change =>
      rw [List.filterMap_cons_none (by rfl), ih]
      by_cases hv : v ≤ t
      · rw [Signals.upTo_of_le hv]
        rfl
      · rw [Signals.upTo, Signals.upTo, List.filter_cons_of_neg (by simpa using hv)]
    | cancel h =>
      rw [List.filterMap_cons_some (b := (max now v, .act (.cancel h))) (by rfl), WaitTurn.acts]
      by_cases hv : v ≤ t
      · rw [upTo_of_le (Nat.max_le.2 ⟨ht, hv⟩), Signals.upTo_of_le hv, ih, signals_cancel]
        rfl
      · have hmax : ¬max now v ≤ t := fun hle => hv (Nat.le_trans (Nat.le_max_right _ _) hle)
        rw [Signals.upTo, List.filter_cons_of_neg (by simpa using hv), upTo,
          List.filter_cons_of_neg (by simpa using hmax)]
        exact ih s

end Channels

namespace World
variable {ν σ : Type} {ctx : Context} {span t : ℕ} {w : World ν σ}

/-- By the coming events a wait is over at the first time at which the context is done. -/
theorem overAt?_isFirst (hordered : w.Ordered) (ctx : Context) :
    IsFirst (fun t => w.doneAt ctx t = true) w.now (w.overAt? ctx) := by
  have hturns : (w.agenda.filterMap (waitTurn? w.now)).Pairwise (·.1 ≤ ·.1) := by
    refine List.Pairwise.filterMap _ ?_ hordered
    intro p q hpq p' hp q' hq
    obtain ⟨t, e⟩ := p
    obtain ⟨u, f⟩ := q
    cases e <;> cases f <;> simp only [waitTurn?, Option.some.injEq, reduceCtorEq] at hp hq
    subst hp hq
    exact max_le_max (Nat.le_refl _) hpq
  have hnow : ∀ q ∈ w.agenda.filterMap (waitTurn? w.now), w.now ≤ q.1 := by
    intro q hq
    obtain ⟨⟨t, e⟩, _, he⟩ := List.mem_filterMap.1 hq
    cases e <;> simp only [waitTurn?, Option.some.injEq, reduceCtorEq] at he
    subst he
    exact Nat.le_max_left _ _
  have hwatched : ctx.Watched (.ofSignals w.signals) .looking := by
    apply Context.watched_looking
    intro g hg
    obtain ⟨h, _, hg⟩ := Option.bind_eq_some_iff.1 hg
    exact Channels.counted_ofSignals hg
  refine (Context.await_isFirst hturns hnow hwatched).congr ?_
  intro u hu
  rw [Context.DoneAt, Channels.signals_upTo _ hu, Channels.signals_ofSignals]
  rfl

/-- Where only a signal at the very end would end a pause, the context is not seen to be done. -/
theorem pause_late (hspan : 0 < span) (hundone : ¬w.isDone ctx = true)
    (hnot : ∀ t, w.now ≤ t → t < w.now + span → w.doneAt ctx t = false)
    (hdeadline : ctx.deadline? ≠ some (w.now + span)) : (w.pause ctx span).1 = false := by
  have hlate : ∀ d, ctx.deadline? = some d → w.now + span < d := by
    intro d hd
    have hnow : w.now < d := by
      apply Nat.lt_of_not_le
      intro hle
      exact hundone (Context.isDone_eq_true_iff.2 (.inl ⟨d, hd, hle⟩))
    have hne : d ≠ w.now + span := by
      rintro rfl
      exact hdeadline hd
    have hge : ¬d < w.now + span := by
      intro hlt
      have := hnot d (Nat.le_of_lt hnow) hlt
      rw [doneAt_eq_true_iff.2 (.inl ⟨d, hd, Nat.le_refl d⟩)] at this
      cases this
    omega
  have hend : w.pauseEnd ctx span = w.now + span := by
    obtain heq | ⟨hle, hd⟩ := w.pauseEnd_cases ctx span
    · exact heq
    · have := hlate _ hd
      omega
  rw [pause_eq hspan hundone, hend, elapse_undone rfl (by omega) hnot, ← Bool.not_eq_true]
  intro hdone
  obtain ⟨d, hd, hle⟩ | ⟨h, hh, hcancelled⟩ := Context.isDone_eq_true_iff.1 hdone
  · have := hlate d hd
    exact absurd hle (Nat.not_le_of_lt this)
  · -- What was cancelled on the way was cancelled before the end.
    obtain hbefore | ⟨hlive, u, hu⟩ := (Signals.isCancelled_afterAll h _ w.signals).1 hcancelled
    · exact hundone (Context.isDone_eq_true_iff.2 (.inr ⟨h, hh, hbefore⟩))
    · have hlt : u < w.now + span := by
        have := List.all_eq_true.1 List.all_takeWhile _ hu
        simpa using this
      have hmem := (List.takeWhile_sublist _).mem hu
      have := hnot (max w.now u) (Nat.le_max_left _ _) (Nat.max_lt.2 ⟨by omega, hlt⟩)
      rw [doneAt_eq_true_iff.2 (.inr ⟨h, hh, .inr ⟨hlive, u, Nat.le_max_right _ _, hmem⟩⟩)] at this
      cases this

/-- A wait with a limit is a pause. -/
theorem doneWithin_eq_pause (hordered : w.Ordered) (ctx : Context) (span : ℕ) :
    w.doneWithin ctx span = w.pause ctx span := by
  suffices hanswer : (w.doneWithin ctx span).1 = (w.pause ctx span).1 from Prod.ext hanswer rfl
  by_cases hdone : w.isDone ctx = true
  · simp [doneWithin, pause, hdone]
  have hstart : ctx.deadline? ≠ some w.now := by
    intro hd
    exact hdone (Context.isDone_eq_true_iff.2 (.inl ⟨w.now, hd, Nat.le_refl _⟩))
  have hfirst := overAt?_isFirst hordered ctx
  obtain ⟨T, hT⟩ := exists_doneFrom ctx w
  rw [doneWithin, Bool.eq_false_of_not_eq_true hdone, Bool.false_or]
  rcases Nat.eq_zero_or_pos span with rfl | hspan
  · -- There is no time to get done in.
    have hpause : (w.pause ctx 0).1 = false := by simp [pause, hdone]
    rw [hpause]
    cases hover : w.overAt? ctx with
    | none => rfl
    | some t =>
      rw [hover] at hfirst
      have hnow : w.now ≤ t := hfirst.1.1
      have hlt : ¬t < w.now := Nat.not_lt_of_le hnow
      simp only [Nat.add_zero, Option.any_some, Bool.or_eq_false_iff, decide_eq_false_iff_not, Bool.and_eq_false_imp,
        decide_eq_true_eq]
      exact ⟨hlt, fun ht => ht ▸ hstart⟩
  · cases hover : w.overAt? ctx with
    | none =>
      rw [hover] at hfirst
      have hafter : (w.now + span : ℕ) < T := by
        rw [← not_le, ← hT _ (Nat.le_add_right _ _)]
        exact hfirst _ (Nat.le_add_right _ _)
      rw [pause_passes hspan hT hafter]
      rfl
    | some t =>
      rw [hover] at hfirst
      obtain ⟨⟨hnow, hdoneAt⟩, hleast⟩ := hfirst
      have hTt : T ≤ (t : ℕ) := (hT t hnow).1 hdoneAt
      have hnot : ∀ u, w.now ≤ u → u < t → w.doneAt ctx u = false := by
        intro u hu hut
        rw [← Bool.not_eq_true]
        intro hdoneAt
        exact absurd (hleast ⟨hu, hdoneAt⟩) (Nat.not_le_of_lt hut)
      rcases Nat.lt_trichotomy t (w.now + span) with hlt | rfl | hgt
      · have hTlt : T < (w.now + span : ℕ) := lt_of_le_of_lt hTt (Nat.cast_lt.2 hlt)
        rw [(pause_ends hspan hordered hT (le_of_lt hTlt) fun heq => absurd heq (ne_of_lt hTlt)).1]
        simp [hlt]
      · by_cases hd : ctx.deadline? = some (w.now + span)
        · rw [(pause_ends hspan hordered hT hTt fun _ => hd).1]
          simp [hd]
        · rw [pause_late hspan hdone hnot hd]
          simp [hd]
      · have hafter : (w.now + span : ℕ) < T := by
          rw [← not_le, ← hT _ (Nat.le_add_right _ _), hnot _ (Nat.le_add_right _ _) hgt]
          exact Bool.false_ne_true
        rw [pause_passes hspan hT hafter]
        simp [Nat.not_lt_of_lt hgt, Nat.ne_of_gt hgt]

end World

/-! ## Done from the first trigger on -/

/-- A context, however it was made, is done from its deadline on, which is the end of its first timeout, and from the first
cancellation on that is sent before its handle is dropped. It stays so, a drop changes nothing, and all that share the
handle see the same. A wait is over at the first time from its start on at which the context is done: whatever is done
with handles before the wait (`past`) and in its course, and however the steps of the watcher fall in between
(`turns`). -/
theorem done_from_first_trigger (r : Recipe) (script : Script) (s : Channels) (hscript : script.Pairwise (·.1 ≤ ·.1))
    (hopened : ∀ h, r.handle? = some h → s.list[h]? = some .opened) :
    r.context.deadline? = r.ends.min? ∧
    (∀ t, r.context.DoneAt script s t ↔
      (∃ d, r.context.deadline? = some d ∧ d ≤ t) ∨ ∃ h, r.handle? = some h ∧ script.CancelsBy h t) ∧
    (∀ t h, r.context.isDone t ((s.upTo script t).act (.drop h)).signals =
      r.context.isDone t (s.upTo script t).signals) ∧
    (∀ t u, t ≤ u → r.context.DoneAt script s t → r.context.DoneAt script s u) ∧
    (∀ r' : Recipe, r'.handle? = r.handle? → ∀ t, (∀ e ∈ r.ends ++ r'.ends, t < e) →
      (r'.context.DoneAt script s t ↔ r.context.DoneAt script s t)) ∧
    (∀ (past : Script) (turns : List (ℕ × WaitTurn)) (t : ℕ), script = past ++ WaitTurn.acts turns →
      (∀ p ∈ past, p.1 ≤ t) → turns.Pairwise (·.1 ≤ ·.1) → (∀ q ∈ turns, t ≤ q.1) →
      IsFirst (r.context.DoneAt script s) t (r.context.await turns t (s.upTo past t) .looking)) := by
  have hdone : ∀ r' : Recipe, r'.handle? = r.handle? → ∀ t, r'.context.DoneAt script s t ↔
      (∃ d, r'.context.deadline? = some d ∧ d ≤ t) ∨ ∃ h, r.handle? = some h ∧ script.CancelsBy h t := by
    intro r' hsame t
    rw [Context.DoneAt, Context.isDone_eq_true_iff, Recipe.context_handle?, hsame]
    refine or_congr_right (exists_congr fun h => and_congr_right fun hh => ?_)
    simp [Channels.cancelled_upTo hscript (hopened h hh), Channel.opened]
  refine ⟨r.context_deadline?, hdone r rfl, ?_, ?_, ?_, ?_⟩
  · intro t h
    simp only [Context.isDone, funext fun k => Channels.isCancelled_drop (s.upTo script t) k h]
  · intro t u htu h
    rw [hdone r rfl] at h ⊢
    rcases h with ⟨d, hd, ht⟩ | ⟨k, hk, before, v, after, heq, hv, hno⟩
    · exact .inl ⟨d, hd, Nat.le_trans ht htu⟩
    · exact .inr ⟨k, hk, before, v, after, heq, Nat.le_trans hv htu, hno⟩
  · intro r' hsame t hbefore
    have hlate : ∀ r'' : Recipe, (∀ e ∈ r''.ends, t < e) → ¬∃ d, r''.context.deadline? = some d ∧ d ≤ t := by
      intro r'' hends hd
      obtain ⟨e, he, hle⟩ := (r''.deadline_le_iff t).1 hd
      exact absurd hle (Nat.not_le_of_lt (hends e he))
    rw [List.forall_mem_append] at hbefore
    rw [hdone r' hsame, hdone r rfl, iff_false_intro (hlate r hbefore.1), iff_false_intro (hlate r' hbefore.2)]
  · intro past turns t heq hpast hturns hnow
    subst heq
    have hwatched : r.context.Watched (s.upTo past t) .looking := by
      apply Context.watched_upTo
      apply Context.watched_looking
      intro g hg
      obtain ⟨h, hh, hg⟩ := Option.bind_eq_some_iff.1 hg
      rw [Recipe.context_handle?] at hh
      rw [hopened h hh, Option.some.injEq] at hg
      exact hg ▸ Channel.counted_opened
    refine (Context.await_isFirst hturns hnow hwatched).congr ?_
    intro u hu
    exact (Context.doneAt_append hpast hu).symm

/-- A handle is used and dropped at the same time, before the watcher looks again; dropped alone it leaves the deadline. -/
theorem done_from_first_trigger_cancel_then_drop :
    let r : Recipe := .timeout 3 100 (.clone (.timeout 2 50 (.withHandle 0)))
    let turns : List (ℕ × WaitTurn) := [(4, .step), (5, .act (.cancel 0)), (5, .act (.drop 0)), (6, .step)]
    r.context.deadline? = some 52 ∧ ¬r.context.DoneAt (WaitTurn.acts turns) ⟨[.opened]⟩ 4 ∧
      r.context.DoneAt (WaitTurn.acts turns) ⟨[.opened]⟩ 5 ∧
      r.context.await turns 1 ⟨[.opened]⟩ .looking = some 5 ∧
      r.context.await [(4, .step), (5, .act (.drop 0))] 1 ⟨[.opened]⟩ .looking = some 52 ∧
      IsFirst (r.context.DoneAt (WaitTurn.acts turns) ⟨[.opened]⟩) 1 (some 5) := by
  intro r turns
  have hopened : ∀ h, r.handle? = some h → ([Channel.opened] : List Channel)[h]? = some .opened := by
    intro h hh
    obtain rfl : 0 = h := by simpa [r, Recipe.handle?] using hh
    rfl
  have hall := done_from_first_trigger r (WaitTurn.acts turns) ⟨[.opened]⟩ (by decide) hopened
  have hawait : r.context.await turns 1 ⟨[.opened]⟩ .looking = some 5 := by decide
  have hfirst := hall.2.2.2.2.2 [] turns 1 rfl (by simp) (by decide) (by decide)
  refine ⟨hall.1.trans (by decide), by simp only [Context.DoneAt]; decide, by simp only [Context.DoneAt]; decide, hawait, by decide,
    ?_⟩
  exact hawait ▸ hfirst

end EvmClient
