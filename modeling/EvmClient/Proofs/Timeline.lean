import EvmClient.Proofs.Actions
import Mathlib

/-
When a context gets done, and where a pause ends.

   What is to come is told by the agenda of a world: the signals at a later time are those of now after the
   events up to then, and a context is done at that time by its deadline and those signals. So every context is
   done from one time on, or never, and a pause is cut short exactly where that time lies in it.

   1. `exists_doneFrom` — the time from which on a context is done.
   2. `pause_passes` — a pause in which the context does not get done takes its whole span.
   3. `pause_ends` — any other pause ends at that time.

   A signal that comes at the very end of a pause is not seen by it, a deadline is; so `pause_ends` asks whether
   the time at the end of the span is the deadline. -/
namespace EvmClient

/-! ## What the coming events do -/

/-- The signals after an event. -/
def Event.signal {ν : Type} (e : Event ν) (s : Signals) : Signals :=
  match e with
  | .cancel h => s.cancel h
  | .node _ => s

/-- The node after an event. -/
def Event.change {ν : Type} (e : Event ν) (n : ν) : ν :=
  match e with
  | .cancel _ => n
  | .node change => change n

/-- Of what comes later nothing has come by now. -/
theorem filter_le_eq_nil {α : Type} {t : ℕ} {coming : List (ℕ × α)} (h : ∀ p ∈ coming, t < p.1) :
    coming.filter (·.1 ≤ t) = [] := by
  apply List.filter_eq_nil_iff.2
  intro p hp
  simpa using h p hp

namespace Signals
variable {ν : Type}

/-- The signals after events, one after the other. -/
def afterAll (events : List (Nat × Event ν)) (s : Signals) : Signals := events.foldl (fun s e => e.2.signal s) s

/-- The signals after those events that come up to a time. -/
def upTo (events : List (Nat × Event ν)) (t : Nat) (s : Signals) : Signals := s.afterAll (events.filter (·.1 ≤ t))

/-- Whether a handle is there and not dropped. -/
def isLive (h : Handle) (s : Signals) : Bool := s.list[h]?.any (!·.dropped)

theorem isLive_cancel (h g : Handle) (s : Signals) : (s.cancel g).isLive h = s.isLive h := by
  simp only [isLive, cancel, List.getElem?_modify]
  cases s.list[h]? with
  | none => rfl
  | some a =>
    by_cases hg : g = h
    · cases hd : a.dropped <;> simp [hg, hd]
    · simp [hg]

theorem isCancelled_cancel (h g : Handle) (s : Signals) :
    (s.cancel g).isCancelled h = (s.isCancelled h || (g == h && s.isLive h)) := by
  simp only [isLive, isCancelled, cancel, List.getElem?_modify]
  cases s.list[h]? with
  | none => simp
  | some a =>
    by_cases hg : g = h
    · cases hd : a.dropped <;> simp [hg, hd]
    · simp [hg]

theorem afterAll_cons (p : Nat × Event ν) (rest : List (Nat × Event ν)) (s : Signals) :
    s.afterAll (p :: rest) = (p.2.signal s).afterAll rest := rfl

theorem afterAll_append (a b : List (Nat × Event ν)) (s : Signals) : s.afterAll (a ++ b) = (s.afterAll a).afterAll b :=
  List.foldl_append

/-- A handle is cancelled by then, or an event cancels it that is not dropped. -/
theorem isCancelled_afterAll (h : Handle) (events : List (Nat × Event ν)) (s : Signals) :
    (s.afterAll events).isCancelled h = true ↔
      s.isCancelled h = true ∨ s.isLive h = true ∧ ∃ t, (t, Event.cancel h) ∈ events := by
  induction events generalizing s with
  | nil => simp [afterAll]
  | cons p rest ih =>
    obtain ⟨t, e⟩ := p
    rw [afterAll_cons, ih]
    cases e with
    | node change => simp [Event.signal]
    | cancel g =>
      simp only [Event.signal, isLive_cancel, isCancelled_cancel]
      by_cases hg : g = h
      · subst hg
        simp only [BEq.rfl, Bool.true_and, Bool.or_eq_true, List.mem_cons, Prod.mk.injEq]
        constructor
        · rintro ((hs | hl) | ⟨hl, _⟩)
          · exact .inl hs
          · exact .inr ⟨hl, t, .inl ⟨rfl, trivial⟩⟩
          · exact .inr ⟨hl, t, .inl ⟨rfl, trivial⟩⟩
        · rintro (hs | ⟨hl, _⟩)
          · exact .inl (.inl hs)
          · exact .inl (.inr hl)
      · simp [hg, Ne.symm hg]

theorem upTo_of_le {t now : Nat} {e : Event ν} {rest : List (Nat × Event ν)} {s : Signals} (h : now ≤ t) :
    s.upTo ((now, e) :: rest) t = (e.signal s).upTo rest t := by
  rw [upTo, upTo, List.filter_cons_of_pos (by simpa using h), afterAll_cons]

/-- Nothing happens before the first event. -/
theorem upTo_of_all_lt {t : Nat} {events : List (Nat × Event ν)} {s : Signals} (h : ∀ p ∈ events, t < p.1) :
    s.upTo events t = s := by
  rw [upTo, filter_le_eq_nil h]
  rfl

end Signals

/-! ## When a context is done -/

namespace Context

theorem isDone_eq_true_iff {ctx : Context} {t : Nat} {s : Signals} :
    ctx.isDone t s = true ↔
      (∃ d, ctx.deadline? = some d ∧ d ≤ t) ∨ ∃ h, ctx.handle? = some h ∧ s.isCancelled h = true := by
  simp [isDone, Option.any_eq_true]

end Context

namespace World
variable {ν σ : Type}

/-- Whether a context is done at a time to come, if nothing but the coming events happens. -/
def doneAt (ctx : Context) (t : Nat) (w : World ν σ) : Bool := ctx.isDone t (w.signals.upTo w.agenda t)

/-- A context is done from a time on, or never. -/
def DoneFrom (ctx : Context) (T : ℕ∞) (w : World ν σ) : Prop := ∀ t : ℕ, w.now ≤ t → (w.doneAt ctx t = true ↔ T ≤ t)

/-- The earliest event comes first. -/
def Ordered (w : World ν σ) : Prop := w.agenda.Pairwise (·.1 ≤ ·.1)

theorem doneAt_eq_true_iff {ctx : Context} {t : Nat} {w : World ν σ} :
    w.doneAt ctx t = true ↔ (∃ d, ctx.deadline? = some d ∧ d ≤ t) ∨ ∃ h, ctx.handle? = some h ∧
      (w.signals.isCancelled h = true ∨ w.signals.isLive h = true ∧ ∃ u ≤ t, (u, Event.cancel h) ∈ w.agenda) := by
  rw [doneAt, Context.isDone_eq_true_iff]
  simp only [Signals.upTo, Signals.isCancelled_afterAll, List.mem_filter, decide_eq_true_eq]
  grind

theorem doneAt_mono {ctx : Context} {t u : Nat} (htu : t ≤ u) {w : World ν σ} (h : w.doneAt ctx t = true) :
    w.doneAt ctx u = true := by
  rw [doneAt_eq_true_iff] at h ⊢
  obtain ⟨d, hd, hle⟩ | ⟨g, hg, hs | ⟨hl, v, hv, hmem⟩⟩ := h
  · exact .inl ⟨d, hd, Nat.le_trans hle htu⟩
  · exact .inr ⟨g, hg, .inl hs⟩
  · exact .inr ⟨g, hg, .inr ⟨hl, v, Nat.le_trans hv htu, hmem⟩⟩

/-- Every context has such a time. -/
theorem exists_doneFrom (ctx : Context) (w : World ν σ) : ∃ T, w.DoneFrom ctx T := by
  by_cases h : ∃ t, w.now ≤ t ∧ w.doneAt ctx t = true
  · classical
    refine ⟨(Nat.find h : ℕ), ?_⟩
    intro t ht
    rw [Nat.cast_le]
    constructor
    · intro hdone
      exact Nat.find_min' h ⟨ht, hdone⟩
    · intro hle
      exact doneAt_mono hle (Nat.find_spec h).2
  · refine ⟨⊤, ?_⟩
    intro t ht
    constructor
    · intro hdone
      exact absurd ⟨t, ht, hdone⟩ h
    · intro hle
      exact absurd (top_le_iff.1 hle) (ENat.natCast_ne_top t)

/-! ## Event by event -/

/-- The world after its first coming event. -/
def occur (t : Nat) (e : Event ν) (rest : List (Nat × Event ν)) (w : World ν σ) : World ν σ :=
  { w with now := max w.now t, node := e.change w.node, signals := e.signal w.signals, agenda := rest }

/-- The context is done, and nothing more is due. -/
def Settled (ctx : Context) (w : World ν σ) : Prop := w.isDone ctx = true ∧ ∀ p ∈ w.agenda, w.now < p.1

section
variable {ctx : Context} {stop t : Nat} {e : Event ν} {rest : List (Nat × Event ν)} {w : World ν σ}

theorem happen_occur : happen e { w with now := max w.now t, agenda := rest } = w.occur t e rest := by
  cases e <;> rfl

theorem elapse_late (h : stop ≤ t) : elapse ctx stop ((t, e) :: rest) w = { w with now := stop, agenda := (t, e) :: rest } := by
  rw [elapse, if_pos h]

theorem elapse_settled (h : t < stop) (hs : (w.occur t e rest).Settled ctx) :
    elapse ctx stop ((t, e) :: rest) w = w.occur t e rest := by
  have hall : rest.all ((w.occur t e rest).now < ·.1) = true :=
    List.all_eq_true.2 fun p hp => decide_eq_true (hs.2 p hp)
  rw [elapse, if_neg (Nat.not_le_of_lt h)]
  simp only [happen_occur]
  rw [if_pos ⟨hs.1, hall⟩]

theorem elapse_unsettled (h : t < stop) (hs : ¬(w.occur t e rest).Settled ctx) :
    elapse ctx stop ((t, e) :: rest) w = elapse ctx stop rest (w.occur t e rest) := by
  rw [elapse, if_neg (Nat.not_le_of_lt h)]
  simp only [happen_occur]
  rw [if_neg]
  rintro ⟨hdone, hall⟩
  exact hs ⟨hdone, fun p hp => of_decide_eq_true (List.all_eq_true.1 hall p hp)⟩

theorem doneAt_occur {u : Nat} (hw : w.agenda = (t, e) :: rest) (hu : t ≤ u) :
    (w.occur t e rest).doneAt ctx u = w.doneAt ctx u := by
  simp only [doneAt, hw, Signals.upTo_of_le hu, occur]

/-- Before the first event only time tells. -/
theorem doneAt_of_later {u : Nat} (h : ∀ p ∈ w.agenda, u < p.1) : w.doneAt ctx u = ctx.isDone u w.signals := by
  rw [doneAt, Signals.upTo_of_all_lt h]

/-- Before the deadline only a signal makes a context done, and that it does at once. -/
theorem settled_of_doneAt {u : Nat} (hdeadline : ∀ d, ctx.deadline? = some d → u < d) (hnow : w.now ≤ u)
    (hlater : ∀ p ∈ w.agenda, u < p.1) (h : w.doneAt ctx u = true) : w.Settled ctx := by
  rw [doneAt_of_later hlater, Context.isDone_eq_true_iff] at h
  obtain ⟨d, hd, hle⟩ | hcancelled := h
  · have := hdeadline d hd
    omega
  · exact ⟨Context.isDone_eq_true_iff.2 (.inr hcancelled), fun p hp => Nat.lt_of_le_of_lt hnow (hlater p hp)⟩

theorem Settled.doneAt (h : w.Settled ctx) : w.doneAt ctx w.now = true := by
  rw [doneAt_of_later h.2]
  exact h.1

end

/-! ## Where a pause ends -/

/-- The world after a time in which the events before it have happened. -/
def advance (stop : Nat) (w : World ν σ) : World ν σ :=
  { w with
    now := stop
    node := (w.agenda.takeWhile (·.1 < stop)).foldl (fun n e => e.2.change n) w.node
    signals := w.signals.afterAll (w.agenda.takeWhile (·.1 < stop))
    agenda := w.agenda.dropWhile (·.1 < stop) }

/-- Where the context is not done before the end, all events before it happen. -/
theorem elapse_undone {ctx : Context} {stop : Nat} {agenda : List (Nat × Event ν)} {w : World ν σ}
    (hw : w.agenda = agenda) (hstop : w.now < stop) (h : ∀ t, w.now ≤ t → t < stop → w.doneAt ctx t = false) :
    elapse ctx stop agenda w = w.advance stop := by
  induction agenda generalizing w with
  | nil => simp [elapse, advance, hw, Signals.afterAll]
  | cons p rest ih =>
    obtain ⟨t, e⟩ := p
    by_cases ht : stop ≤ t
    · rw [elapse_late ht]
      simp [advance, hw, Signals.afterAll, Nat.not_lt_of_le ht]
    · have hlt : t < stop := Nat.lt_of_not_le ht
      have hnow : (w.occur t e rest).now < stop := Nat.max_lt.2 ⟨hstop, hlt⟩
      have hrest : ∀ u, (w.occur t e rest).now ≤ u → u < stop → (w.occur t e rest).doneAt ctx u = false := by
        intro u hu hus
        rw [doneAt_occur hw (Nat.le_trans (Nat.le_max_right _ _) hu)]
        exact h u (Nat.le_trans (Nat.le_max_left _ _) hu) hus
      have hgo : ¬(w.occur t e rest).Settled ctx := by
        intro hs
        have := hrest _ (Nat.le_refl _) hnow
        rw [hs.doneAt] at this
        cases this
      rw [elapse_unsettled hlt hgo, ih rfl hnow hrest]
      simp [advance, occur, hw, Signals.afterAll, hlt]

/-- Where the context is done before the end, time stops when it is. -/
theorem elapse_done {ctx : Context} {stop T : Nat} {agenda : List (Nat × Event ν)} {w : World ν σ}
    (hw : w.agenda = agenda) (hordered : w.Ordered) (hdeadline : ∀ d, ctx.deadline? = some d → stop ≤ d)
    (hnow : w.now ≤ T) (hT : T < stop) (hdone : w.doneAt ctx T = true)
    (hleast : ∀ t, w.now ≤ t → t < T → w.doneAt ctx t = false) (hmore : ¬w.Settled ctx) :
    (elapse ctx stop agenda w).now = T ∧ (elapse ctx stop agenda w).isDone ctx = true := by
  have hbefore : ∀ d, ctx.deadline? = some d → T < d := fun d hd => Nat.lt_of_lt_of_le hT (hdeadline d hd)
  induction agenda generalizing w with
  | nil =>
    refine absurd (settled_of_doneAt hbefore hnow ?_ hdone) hmore
    rw [hw]
    exact fun p hp => absurd hp List.not_mem_nil
  | cons p rest ih =>
    obtain ⟨t, e⟩ := p
    rw [Ordered, hw, List.pairwise_cons] at hordered
    -- The first event is due: all others come later, and one is needed.
    have htT : t ≤ T := by
      refine Nat.le_of_not_lt fun hlt => hmore (settled_of_doneAt hbefore hnow ?_ hdone)
      rw [hw]
      intro p hp
      rcases List.mem_cons.1 hp with rfl | hp
      · exact hlt
      · exact Nat.lt_of_lt_of_le hlt (hordered.1 p hp)
    have hnow' : (w.occur t e rest).now ≤ T := Nat.max_le.2 ⟨hnow, htT⟩
    have hleast' : ∀ u, (w.occur t e rest).now ≤ u → u < T → (w.occur t e rest).doneAt ctx u = false := by
      intro u hu huT
      rw [doneAt_occur hw (Nat.le_trans (Nat.le_max_right _ _) hu)]
      exact hleast u (Nat.le_trans (Nat.le_max_left _ _) hu) huT
    have hdone' : (w.occur t e rest).doneAt ctx T = true := by
      rw [doneAt_occur hw htT]
      exact hdone
    by_cases hs : (w.occur t e rest).Settled ctx
    · rw [elapse_settled (Nat.lt_of_le_of_lt htT hT) hs]
      refine ⟨Nat.le_antisymm hnow' (Nat.le_of_not_lt fun hlt => ?_), hs.1⟩
      have := hleast' _ (Nat.le_refl _) hlt
      rw [hs.doneAt] at this
      cases this
    · rw [elapse_unsettled (Nat.lt_of_le_of_lt htT hT) hs]
      exact ih rfl hordered.2 hnow' hdone' hleast' hs

section
variable {ctx : Context} {span stop : Nat} {T : ℕ∞} {w : World ν σ}

theorem doneAt_of_isDone (h : w.isDone ctx = true) : w.doneAt ctx w.now = true := by
  rw [isDone, Context.isDone_eq_true_iff] at h
  rw [doneAt_eq_true_iff]
  obtain hd | ⟨g, hg, hs⟩ := h
  · exact .inl hd
  · exact .inr ⟨g, hg, .inl hs⟩

theorem upTo_advance {u : Nat} (hu : stop ≤ u) :
    (w.advance stop).signals.upTo (w.advance stop).agenda u = w.signals.upTo w.agenda u := by
  have htaken : ∀ p ∈ w.agenda.takeWhile (·.1 < stop), decide (p.1 ≤ u) = true := by
    intro p hp
    have hlt := List.all_eq_true.1 List.all_takeWhile p hp
    simp only [decide_eq_true_eq] at hlt ⊢
    omega
  have hsplit : w.agenda.filter (·.1 ≤ u) =
      w.agenda.takeWhile (·.1 < stop) ++ (w.agenda.dropWhile (·.1 < stop)).filter (·.1 ≤ u) := by
    conv => lhs; rw [← List.takeWhile_append_dropWhile (p := fun p => decide (p.1 < stop)) (l := w.agenda)]
    rw [List.filter_append, List.filter_eq_self.2 htaken]
  rw [Signals.upTo, Signals.upTo, hsplit, Signals.afterAll_append]
  rfl

/-- What is to come does not change as time goes by. -/
theorem doneAt_advance {u : Nat} (hu : stop ≤ u) : (w.advance stop).doneAt ctx u = w.doneAt ctx u := by
  rw [doneAt, doneAt, upTo_advance hu]

theorem DoneFrom.advance (hT : w.DoneFrom ctx T) (hstop : w.now ≤ stop) : (w.advance stop).DoneFrom ctx T := by
  intro t ht
  have ht : stop ≤ t := ht
  rw [doneAt_advance ht]
  exact hT t (Nat.le_trans hstop ht)

/-- A context is not done before its time. -/
theorem DoneFrom.undone (hT : w.DoneFrom ctx T) (h : (w.now : ℕ∞) < T) : w.isDone ctx = false := by
  rw [← Bool.not_eq_true]
  intro hdone
  have hle := (hT w.now (Nat.le_refl _)).1 (doneAt_of_isDone hdone)
  exact absurd h (not_lt.2 hle)

theorem Ordered.advance (h : w.Ordered) (stop : Nat) : (w.advance stop).Ordered :=
  h.sublist (List.dropWhile_sublist _)

/-- The end of a pause, if no event ends it before. -/
def pauseEnd (ctx : Context) (span : Nat) (w : World ν σ) : Nat :=
  (ctx.deadline?.map (min · (w.now + span))).getD (w.now + span)

theorem pause_eq (hspan : 0 < span) (h : ¬w.isDone ctx = true) :
    w.pause ctx span =
      ((elapse ctx (w.pauseEnd ctx span) w.agenda w).isDone ctx, elapse ctx (w.pauseEnd ctx span) w.agenda w) := by
  rw [pause, if_neg h, if_neg (Nat.ne_of_gt hspan)]
  rfl

theorem pauseEnd_le_deadline {d : Nat} (hd : ctx.deadline? = some d) : w.pauseEnd ctx span ≤ d := by
  simp only [pauseEnd, hd, Option.map_some, Option.getD_some]
  exact Nat.min_le_left _ _

/-- A pause goes on for its span, or up to the deadline. -/
theorem pauseEnd_cases (ctx : Context) (span : Nat) (w : World ν σ) :
    w.pauseEnd ctx span = w.now + span ∨
      w.pauseEnd ctx span ≤ w.now + span ∧ ctx.deadline? = some (w.pauseEnd ctx span) := by
  cases hd : ctx.deadline? with
  | none => simp [pauseEnd, hd]
  | some d =>
    simp only [pauseEnd, hd, Option.map_some, Option.getD_some, Option.some.injEq]
    omega

/-- A pause in which the context does not get done takes its whole span. -/
theorem pause_passes (hspan : 0 < span) (hT : w.DoneFrom ctx T) (h : (w.now + span : ℕ) < T) :
    w.pause ctx span = (false, w.advance (w.now + span)) := by
  have hnot : ∀ t : ℕ, w.now ≤ t → t ≤ w.now + span → w.doneAt ctx t = false := by
    intro t hnow hle
    rw [← Bool.not_eq_true, hT t hnow, not_le]
    exact lt_of_le_of_lt (Nat.cast_le.2 hle) h
  have hundone := hT.undone (lt_of_le_of_lt (Nat.cast_le.2 (Nat.le_add_right w.now span)) h)
  have hend : w.pauseEnd ctx span = w.now + span := by
    obtain heq | ⟨hle, hd⟩ := w.pauseEnd_cases ctx span
    · exact heq
    · -- A deadline in the span would be over at its end.
      have := hnot (w.now + span) (Nat.le_add_right _ _) (Nat.le_refl _)
      rw [doneAt_eq_true_iff.2 (.inl ⟨_, hd, hle⟩)] at this
      cases this
  have hadvance : elapse ctx (w.now + span) w.agenda w = w.advance (w.now + span) :=
    elapse_undone rfl (by omega) fun t hnow hlt => hnot t hnow (Nat.le_of_lt hlt)
  have hstill := (hT.advance (Nat.le_add_right w.now span)).undone h
  rw [pause_eq hspan (by simp [hundone]), hend, hadvance, hstill]

/-- A pause in which the context gets done ends when it does. -/
theorem pause_ends (hspan : 0 < span) (hordered : w.Ordered) (hT : w.DoneFrom ctx T) (h : T ≤ (w.now + span : ℕ))
    (htie : T = (w.now + span : ℕ) → ctx.deadline? = some (w.now + span)) :
    (w.pause ctx span).1 = true ∧ ((w.pause ctx span).2.now : ℕ∞) = max T w.now := by
  lift T to ℕ using ne_top_of_le_ne_top (ENat.natCast_ne_top _) h
  rw [Nat.cast_le] at h
  rw [Nat.cast_inj] at htie
  have hdone : ∀ t, w.now ≤ t → (w.doneAt ctx t = true ↔ T ≤ t) := by
    intro t ht
    rw [hT t ht, Nat.cast_le]
  by_cases hnow : w.isDone ctx = true
  · have hle := (hdone w.now (Nat.le_refl _)).1 (doneAt_of_isDone hnow)
    rw [pause, if_pos hnow]
    exact ⟨rfl, (max_eq_right (Nat.cast_le.2 hle)).symm⟩
  · rw [pause_eq hspan hnow]
    have hlater : w.now < w.pauseEnd ctx span := by
      obtain heq | ⟨-, hd⟩ := w.pauseEnd_cases ctx span
      · omega
      · refine Nat.lt_of_not_le fun hle => hnow ?_
        exact Context.isDone_eq_true_iff.2 (.inl ⟨_, hd, hle⟩)
    by_cases hbefore : max T w.now < w.pauseEnd ctx span
    · -- A signal ends the pause.
      have hdeadline : ∀ d, ctx.deadline? = some d → w.pauseEnd ctx span ≤ d := fun d hd => pauseEnd_le_deadline hd
      obtain ⟨hend, hisDone⟩ := elapse_done (w := w) (T := max T w.now) rfl hordered hdeadline
        (Nat.le_max_right _ _) hbefore
        ((hdone _ (Nat.le_max_right _ _)).2 (Nat.le_max_left _ _))
        (fun t ht hlt => by rw [← Bool.not_eq_true, hdone t ht]; omega) (fun hs => hnow hs.1)
      refine ⟨hisDone, ?_⟩
      rw [hend]
      exact Nat.mono_cast.map_max
    · -- The deadline ends it.
      have hend : T = w.pauseEnd ctx span ∧ ctx.deadline? = some (w.pauseEnd ctx span) := by
        obtain heq | ⟨hle, hd⟩ := w.pauseEnd_cases ctx span
        · have hT' : T = w.now + span := by omega
          exact ⟨by omega, heq ▸ htie hT'⟩
        · have := (hdone _ (Nat.le_of_lt hlater)).1 (doneAt_eq_true_iff.2 (.inl ⟨_, hd, Nat.le_refl _⟩))
          exact ⟨by omega, hd⟩
      have hnot : ∀ t, w.now ≤ t → t < w.pauseEnd ctx span → w.doneAt ctx t = false := by
        intro t ht hlt
        rw [← Bool.not_eq_true, hdone t ht]
        omega
      rw [elapse_undone (w := w) rfl hlater hnot]
      refine ⟨Context.isDone_eq_true_iff.2 (.inl ⟨_, hend.2, Nat.le_refl _⟩), ?_⟩
      show ((w.pauseEnd ctx span : ℕ) : ℕ∞) = max ↑T ↑w.now
      rw [← hend.1, max_eq_left]
      exact Nat.cast_le.2 (by omega)

end
end World
end EvmClient
