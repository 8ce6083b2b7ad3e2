import EvmClient.Confirmation
import EvmClient.Node.Simulated
import EvmClient.Proofs.Timeline

/-
When and how the wait for a transaction ends.

   A wait asks at the end of each interval, and three things can end it: an answer that decides, the last attempt,
   and its context. The world of the wait is any one: a node with any answers, a context with any deadline and any
   signal, further events on the agenda.

   1. `poll_asks`, `poll_cut` — one attempt: it asks at the end of its interval, or is cut short in it.
   2. `poll_spends` — attempts that decide nothing, one after the other.
   3. `wait_ends_first` — the result, its time, and the questions with theirs, by what comes first.

   Questions are asked in a run but leave no trace in its result, so `Program.questions` goes along the run and lists
   them. A signal at the very end of an interval may be seen or not, so the statements leave it out; a deadline there
   is seen. -/
namespace EvmClient

/-! ## What is asked and answered -/

section
variable {ν σ : Type} [Node ν] [CheckpointStore σ]

/-- The question that a step is, with its time. -/
def Op.question? (now : Nat) : Op → Option (Nat × Query)
  | .ask _ query => some (now, query)
  | _ => none

/-- The questions that a run asks, each with its time. -/
def Program.questions {α : Type} : Program α → World ν σ → List (Nat × Query)
  | .done _, _ => []
  | .step op next, w => (op.question? w.now).toList ++ (next (w.perform op).1).questions (w.perform op).2

namespace Program
variable {α : Type} {op : Op} {next : op.Answer → Program α} {w w' : World ν σ} {r : op.Answer}

theorem questions_step (h : w.perform op = (r, w')) :
    (step op next).questions w = (op.question? w.now).toList ++ (next r).questions w' := by
  rw [questions, h]

end Program

namespace Confirmation

/-- One attempt as a tree of steps. -/
theorem poll_succ (interval : Nat) (ctx : Context) (c : Connection) (hash : Hash) (left attempts : Nat) :
    (poll interval ctx c hash (left + 1) attempts).run =
      .step (.pause ctx interval) fun late =>
        if late then .done (.error (.receiptReadTimeout hash))
        else .step (.isDone ctx) fun done =>
          if done then .done (.error (.receiptReadTimeout hash))
          else .step (.ask c (.receipt hash)) fun answer =>
            match decision? hash answer with
            | some r => .done r
            | none => (poll interval ctx c hash left (attempts + 1)).run := by
  rw [poll]
  refine congrArg (Program.step _) (funext fun late => ?_)
  cases late with
  | true => rfl
  | false =>
    refine congrArg (Program.step _) (funext fun done => ?_)
    cases done with
    | true => rfl
    | false =>
      refine congrArg (Program.step _) (funext fun answer => ?_)
      show ExceptT.run (match decision? hash answer with
        | some r => (liftM r : Action TransferStatus)
        | none => poll interval ctx c hash left (attempts + 1)) = _
      cases decision? hash answer with
      | none => rfl
      | some r => cases r <;> rfl

/-- The result that an answer decides: a failed receipt, or a successful one that names its block. -/
inductive Decides (hash : Hash) : Except ClientError (Option Receipt) → Except ClientError TransferStatus → Prop
  | failed {receipt : Receipt} (status : receipt.status = some 0) :
      Decides hash (.ok (some receipt)) (.error (.transactionFailed hash))
  | confirmed {receipt : Receipt} {height : Word64} (status : receipt.status = some 1)
      (block : receipt.blockNumber = some height) : Decides hash (.ok (some receipt)) (.ok (.confirmed height))

theorem decision?_eq_some_iff {hash : Hash} {answer : Except ClientError (Option Receipt)}
    {r : Except ClientError TransferStatus} : decision? hash answer = some r ↔ Decides hash answer r := by
  constructor
  · intro h
    unfold decision? at h
    split at h
    · rename_i receipt
      split at h
      · rename_i hfailed
        cases h
        exact .failed (by simpa [Receipt.isFailed] using hfailed)
      · split at h
        · rename_i hsuccess
          obtain ⟨height, hblock, rfl⟩ := Option.map_eq_some_iff.1 h
          exact .confirmed (by simpa [Receipt.isSuccess] using hsuccess) hblock
        · cases h
    · cases h
  · intro h
    cases h with
    | failed hstatus => simp [decision?, Receipt.isFailed, hstatus]
    | confirmed hstatus hblock =>
      simp [decision?, Receipt.isFailed, Receipt.isSuccess, hstatus, hblock]

/-- The first question, counted from 1, whose answer decides anything; none may. -/
def FirstDecisive (hash : Hash) (answers : Nat → Except ClientError (Option Receipt)) (first : ℕ∞) : Prop :=
  ∀ n : ℕ, first ≤ n ↔ ∃ k, 1 ≤ k ∧ k ≤ n ∧ ∃ r, Decides hash (answers k) r

end Confirmation

/-- Each time it is asked for the receipt the node gives the next of the answers, counted from 1, and no coming event
changes that. -/
def World.Answers (c : Connection) (hash : Hash) (answers : Nat → Except ClientError (Option Receipt))
    (w : World ν σ) : Prop :=
  ∃ after : Nat → ν → Prop, after 0 w.node ∧
    (∀ k n, after k n → (Node.ask (.receipt hash) c n).1 = answers (k + 1) ∧
      after (k + 1) (Node.ask (.receipt hash) c n).2) ∧
    ∀ p ∈ w.agenda, ∀ k n, after k n → after k (p.2.change n)

namespace World
variable {c : Connection} {hash : Hash} {answers : Nat → Except ClientError (Option Receipt)} {w : World ν σ}

omit [CheckpointStore σ] in
theorem Answers.advance (h : w.Answers c hash answers) (stop : Nat) : (w.advance stop).Answers c hash answers := by
  obtain ⟨after, hstart, hask, hevents⟩ := h
  refine ⟨after, ?_, hask, ?_⟩
  · have hkept : ∀ (events : List (Nat × Event ν)) (n : ν), (∀ p ∈ events, p ∈ w.agenda) → after 0 n →
        after 0 (events.foldl (fun n e => e.2.change n) n) := by
      intro events
      induction events with
      | nil => exact fun n _ hn => hn
      | cons p rest ih =>
        intro n hp hn
        apply ih
        · exact fun q hq => hp q (List.mem_cons_of_mem _ hq)
        · exact hevents p (hp p List.mem_cons_self) 0 n hn
    exact hkept _ _ (fun p hp => (List.takeWhile_sublist _).subset hp) hstart
  · intro p hp
    exact hevents p ((List.dropWhile_sublist _).subset hp)

theorem Answers.ask (h : w.Answers c hash answers) :
    (w.perform (.ask c (.receipt hash))).1 = answers 1 ∧
      (w.perform (.ask c (.receipt hash))).2.Answers c hash fun k => answers (k + 1) := by
  obtain ⟨after, hstart, hask, hevents⟩ := h
  obtain ⟨hanswer, hnext⟩ := hask 0 w.node hstart
  refine ⟨hanswer, fun k n => after (k + 1) n, hnext, ?_, ?_⟩
  · intro k n hn
    exact hask (k + 1) n hn
  · intro p hp k n hn
    exact hevents p hp (k + 1) n hn

end World

namespace World

/-- The node after so many questions for the receipt. -/
def nodeAfter (c : Connection) (hash : Hash) (w : World ν σ) : Nat → ν
  | 0 => w.node
  | k + 1 => (Node.ask (.receipt hash) c (w.nodeAfter c hash k)).2

/-- What the node answers to the question for the receipt, counted from 1. -/
def answer (c : Connection) (hash : Hash) (w : World ν σ) (k : Nat) : Except ClientError (Option Receipt) :=
  (Node.ask (.receipt hash) c (w.nodeAfter c hash (k - 1))).1

omit [CheckpointStore σ] in
/-- Where only signals are to come, every node has its sequence of answers. -/
theorem answers_answer (c : Connection) (hash : Hash) {w : World ν σ} (h : ∀ p ∈ w.agenda, ∃ g, p.2 = .cancel g) :
    w.Answers c hash (w.answer c hash) := by
  refine ⟨fun k n => n = w.nodeAfter c hash k, rfl, ?_, ?_⟩
  · rintro k n rfl
    exact ⟨rfl, rfl⟩
  · rintro p hp k n rfl
    obtain ⟨g, hg⟩ := h p hp
    rw [hg]
    rfl

end World

/-! ## Attempt after attempt -/

namespace Confirmation

/-- The world of a wait before an attempt, where the context gets done at `T`. -/
structure Waiting (interval : Nat) (ctx : Context) (c : Connection) (hash : Hash)
    (answers : Nat → Except ClientError (Option Receipt)) (T : ℕ∞) (w : World ν σ) : Prop where
  ordered : w.Ordered
  done : w.DoneFrom ctx T
  /-- No signal comes at the very end of an interval. -/
  untied : ∀ k : ℕ, 1 ≤ k → T = (w.now + k * interval : ℕ) → ctx.deadline? = some (w.now + k * interval)
  answered : w.Answers c hash answers

variable {interval : Nat} {ctx : Context} {c : Connection} {hash : Hash}
  {answers : Nat → Except ClientError (Option Receipt)} {T : ℕ∞} {w : World ν σ}

/-- The world after an attempt that decided nothing, or that decided. -/
def asked (interval : Nat) (c : Connection) (hash : Hash) (w : World ν σ) : World ν σ :=
  ((w.advance (w.now + interval)).perform (.ask c (.receipt hash))).2

theorem Waiting.next (h : Waiting interval ctx c hash answers T w) :
    Waiting interval ctx c hash (fun k => answers (k + 1)) T (asked interval c hash w) where
  ordered := h.ordered.advance _
  done := h.done.advance (Nat.le_add_right _ _)
  untied := by
    intro k h1 hk
    have hnow : (asked interval c hash w).now + k * interval = w.now + (k + 1) * interval := by
      show w.now + interval + k * interval = _
      rw [Nat.succ_mul]
      omega
    rw [hnow] at hk ⊢
    exact h.untied (k + 1) (Nat.le_succ_of_le h1) hk
  answered := (h.answered.advance _).ask.2

/-- An attempt whose interval passes asks its question at the end. -/
theorem poll_asks (hinterval : 0 < interval) (h : Waiting interval ctx c hash answers T w)
    (hT : (w.now + interval : ℕ) < T) (left attempts : Nat) :
    (poll interval ctx c hash (left + 1) attempts).run.run w =
        (match decision? hash (answers 1) with
        | some r => (r, asked interval c hash w)
        | none => (poll interval ctx c hash left (attempts + 1)).run.run (asked interval c hash w)) ∧
      (poll interval ctx c hash (left + 1) attempts).run.questions w = (w.now + interval, .receipt hash) ::
        match decision? hash (answers 1) with
        | some _ => []
        | none => (poll interval ctx c hash left (attempts + 1)).run.questions (asked interval c hash w) := by
  have hpause : w.perform (.pause ctx interval) = (false, w.advance (w.now + interval)) :=
    World.pause_passes hinterval h.done hT
  have hdone : (w.advance (w.now + interval)).perform (.isDone ctx) = (false, w.advance (w.now + interval)) := by
    rw [World.perform, (h.done.advance (Nat.le_add_right w.now interval)).undone hT]
  have hask : (w.advance (w.now + interval)).perform (.ask c (.receipt hash)) = (answers 1, asked interval c hash w) :=
    Prod.ext (h.answered.advance (w.now + interval)).ask.1 rfl
  rw [poll_succ, Program.run_step hpause, Program.questions_step hpause, if_neg Bool.false_ne_true,
    Program.run_step hdone, Program.questions_step hdone, if_neg Bool.false_ne_true, Program.run_step hask,
    Program.questions_step hask]
  cases decision? hash (answers 1) with
  | none => exact ⟨rfl, rfl⟩
  | some r => exact ⟨rfl, rfl⟩

/-- An attempt in whose interval the context gets done asks nothing. -/
theorem poll_cut (hinterval : 0 < interval) (h : Waiting interval ctx c hash answers T w)
    (hT : T ≤ (w.now + interval : ℕ)) (left attempts : Nat) :
    ∃ w', (poll interval ctx c hash (left + 1) attempts).run.run w = (.error (.receiptReadTimeout hash), w') ∧
      (w'.now : ℕ∞) = max T w.now ∧ (poll interval ctx c hash (left + 1) attempts).run.questions w = [] := by
  have htie : T = (w.now + interval : ℕ) → ctx.deadline? = some (w.now + interval) := by
    have := h.untied 1 (Nat.le_refl 1)
    rwa [Nat.one_mul] at this
  obtain ⟨hlate, hnow⟩ := World.pause_ends hinterval h.ordered h.done hT htie
  have hpause : w.perform (.pause ctx interval) = (true, (w.pause ctx interval).2) := Prod.ext hlate rfl
  refine ⟨_, ?_, hnow, ?_⟩
  · rw [poll_succ, Program.run_step hpause, if_pos rfl]
    rfl
  · rw [poll_succ, Program.questions_step hpause, if_pos rfl]
    rfl

/-- The times of the first questions of a wait. -/
def questionsUpTo (start interval : Nat) (hash : Hash) (n : Nat) : List (Nat × Query) :=
  (List.range' 1 n).map fun k => (start + k * interval, .receipt hash)

theorem questionsUpTo_succ (start interval : Nat) (hash : Hash) (n : Nat) :
    questionsUpTo start interval hash (n + 1) =
      questionsUpTo start interval hash n ++ [(start + (n + 1) * interval, .receipt hash)] := by
  rw [questionsUpTo, List.range'_concat, List.map_append, Nat.one_mul, Nat.add_comm 1 n]
  rfl

/-- Attempts that decide nothing are spent one after the other. -/
theorem poll_spends (hinterval : 0 < interval) (h : Waiting interval ctx c hash answers T w) (left spent : Nat)
    (hspent : spent ≤ left) (hundecided : ∀ k, 1 ≤ k → k ≤ spent → decision? hash (answers k) = none)
    (hT : spent = 0 ∨ (w.now + spent * interval : ℕ) < T) :
    ∃ w', Waiting interval ctx c hash (fun k => answers (spent + k)) T w' ∧ w'.now = w.now + spent * interval ∧
      (poll interval ctx c hash left 0).run.run w = (poll interval ctx c hash (left - spent) spent).run.run w' ∧
      (poll interval ctx c hash left 0).run.questions w =
        questionsUpTo w.now interval hash spent ++ (poll interval ctx c hash (left - spent) spent).run.questions w' := by
  induction spent with
  | zero => exact ⟨w, by simpa using h, by simp, rfl, rfl⟩
  | succ spent ih =>
    have hlast : (w.now + (spent + 1) * interval : ℕ) < T := by
      rcases hT with hT | hT
      · cases hT
      · exact hT
    have hearlier : (w.now + spent * interval : ℕ) < T :=
      lt_of_le_of_lt (Nat.cast_le.2 (Nat.add_le_add_left (Nat.mul_le_mul_right _ (Nat.le_succ _)) _)) hlast
    obtain ⟨w', hw', hnow, hrun, hquestions⟩ :=
      ih (Nat.le_of_succ_le hspent) (fun k h1 hk => hundecided k h1 (Nat.le_succ_of_le hk)) (.inr hearlier)
    have hend : w'.now + interval = w.now + (spent + 1) * interval := by rw [hnow, Nat.succ_mul]; omega
    obtain ⟨n, hn⟩ : ∃ n, left - spent = n + 1 := ⟨left - spent - 1, by omega⟩
    obtain ⟨hstep, hasked⟩ := poll_asks hinterval hw' (by rw [hend]; exact hlast) n spent
    have hn' : left - (spent + 1) = n := by omega
    rw [hundecided (spent + 1) (by omega) (Nat.le_refl _)] at hstep hasked
    refine ⟨asked interval c hash w', ?_, hend, ?_, ?_⟩
    · have := hw'.next
      simpa [Nat.add_assoc, Nat.add_comm 1] using this
    · rw [hrun, hn, hstep, hn']
    · rw [hquestions, hn, hasked, questionsUpTo_succ, hn', hend, List.append_assoc]
      rfl

/-- How many questions are asked before a time. -/
theorem exists_asked (start interval T : Nat) (hinterval : 0 < interval) :
    ∃ n, ∀ k, 1 ≤ k → (k ≤ n ↔ start + k * interval < T) := by
  refine ⟨(T - 1 - start) / interval, ?_⟩
  intro k hk
  have hpos : 0 < k * interval := Nat.mul_pos hk hinterval
  rw [Nat.le_div_iff_mul_le hinterval]
  omega

theorem undecided_of_lt {first : ℕ∞} (hfirst : FirstDecisive hash answers first) {k : Nat} (h1 : 1 ≤ k)
    (hk : (k : ℕ∞) < first) : decision? hash (answers k) = none := by
  rw [Option.eq_none_iff_forall_ne_some]
  intro r hr
  have hle := (hfirst k).2 ⟨k, h1, Nat.le_refl _, r, decision?_eq_some_iff.1 hr⟩
  exact absurd hk (not_lt.2 hle)

theorem decided_of_first {first : Nat} (hfirst : FirstDecisive hash answers first) :
    1 ≤ first ∧ ∃ r, Decides hash (answers first) r := by
  obtain ⟨k, h1, hk, hr⟩ := (hfirst first).1 (le_refl _)
  have hle := Nat.cast_le.1 ((hfirst k).2 ⟨k, h1, Nat.le_refl _, hr⟩)
  obtain rfl := Nat.le_antisymm hk hle
  exact ⟨h1, hr⟩

section
variable {left last : Nat}

theorem poll_ends_late (hinterval : 0 < interval) (h : Waiting interval ctx c hash answers T w) (hlast : 1 ≤ last)
    (hleft : last ≤ left) (hundecided : ∀ k, 1 ≤ k → k < last → decision? hash (answers k) = none)
    (hT : T ≤ (w.now + last * interval : ℕ)) :
    ∃ w' n, (poll interval ctx c hash left 0).run.run w = (.error (.receiptReadTimeout hash), w') ∧
      (w'.now : ℕ∞) = max T w.now ∧
      (poll interval ctx c hash left 0).run.questions w = questionsUpTo w.now interval hash n ∧
      ∀ k, 1 ≤ k → (k ≤ n ↔ ((w.now + k * interval : ℕ) : ℕ∞) < T) := by
  obtain ⟨t, rfl⟩ := ENat.ne_top_iff_exists.1 (ne_top_of_le_ne_top (ENat.natCast_ne_top _) hT)
  rw [Nat.cast_le] at hT
  obtain ⟨n, hn⟩ := exists_asked w.now interval t hinterval
  -- So many attempts are spent, and the next one is cut.
  have hnlast : n < last := by
    refine Nat.lt_of_not_le fun hle => ?_
    have := (hn last hlast).1 hle
    omega
  have hspent : n = 0 ∨ ((w.now + n * interval : ℕ) : ℕ∞) < (t : ℕ∞) := by
    rcases Nat.eq_zero_or_pos n with h0 | hpos
    · exact .inl h0
    · exact .inr (Nat.cast_lt.2 ((hn n hpos).1 (Nat.le_refl _)))
  obtain ⟨w', hw', hnow, hrun, hquestions⟩ :=
    poll_spends hinterval h left n (by omega) (fun k h1 hk => hundecided k h1 (by omega)) hspent
  obtain ⟨rest, hrest⟩ : ∃ rest, left - n = rest + 1 := ⟨left - n - 1, by omega⟩
  have hnext : t ≤ w'.now + interval := by
    have := (hn (n + 1) (by omega)).not.1 (by omega)
    rw [Nat.succ_mul] at this
    omega
  obtain ⟨w'', hcut, hend, hsilent⟩ := poll_cut hinterval hw' (Nat.cast_le.2 hnext) rest n
  refine ⟨w'', n, ?_, ?_, ?_, ?_⟩
  · rw [hrun, hrest, hcut]
  · rw [hend, hnow]
    rcases hspent with rfl | hlt
    · simp
    · rw [max_eq_left (le_of_lt hlt), max_eq_left]
      exact le_trans (Nat.cast_le.2 (Nat.le_add_right _ _)) (le_of_lt hlt)
  · rw [hquestions, hrest, hsilent, List.append_nil]
  · intro k hk
    rw [hn k hk, Nat.cast_lt]

theorem poll_ends_decided (hinterval : 0 < interval) (h : Waiting interval ctx c hash answers T w) (hlast : 1 ≤ last)
    (hleft : last ≤ left) (hundecided : ∀ k, 1 ≤ k → k < last → decision? hash (answers k) = none)
    (hT : (w.now + last * interval : ℕ) < T) {r : Except ClientError TransferStatus} (hr : Decides hash (answers last) r) :
    ∃ w', (poll interval ctx c hash left 0).run.run w = (r, w') ∧ w'.now = w.now + last * interval ∧
      (poll interval ctx c hash left 0).run.questions w = questionsUpTo w.now interval hash last := by
  obtain ⟨spent, rfl⟩ : ∃ spent, last = spent + 1 := ⟨last - 1, by omega⟩
  have hearlier : (w.now + spent * interval : ℕ) < T :=
    lt_of_le_of_lt (Nat.cast_le.2 (Nat.add_le_add_left (Nat.mul_le_mul_right _ (Nat.le_succ _)) _)) hT
  obtain ⟨w', hw', hnow, hrun, hquestions⟩ := poll_spends hinterval h left spent
    (by omega) (fun k h1 hk => hundecided k h1 (by omega)) (.inr hearlier)
  obtain ⟨rest, hrest⟩ : ∃ rest, left - spent = rest + 1 := ⟨left - spent - 1, by omega⟩
  have hend : w'.now + interval = w.now + (spent + 1) * interval := by rw [hnow, Nat.succ_mul]; omega
  obtain ⟨hstep, hasked⟩ := poll_asks hinterval hw' (by rw [hend]; exact hT) rest spent
  rw [decision?_eq_some_iff.2 hr] at hstep hasked
  refine ⟨asked interval c hash w', ?_, hend, ?_⟩
  · rw [hrun, hrest, hstep]
  · rw [hquestions, hrest, hasked, questionsUpTo_succ, hend]

theorem poll_ends_undecided (hinterval : 0 < interval) (h : Waiting interval ctx c hash answers T w)
    (hundecided : ∀ k, 1 ≤ k → k ≤ left → decision? hash (answers k) = none)
    (hT : (w.now + left * interval : ℕ) < T) :
    ∃ w', (poll interval ctx c hash left 0).run.run w = (.ok (.unconfirmed left), w') ∧
      w'.now = w.now + left * interval ∧
      (poll interval ctx c hash left 0).run.questions w = questionsUpTo w.now interval hash left := by
  obtain ⟨w', -, hnow, hrun, hquestions⟩ := poll_spends hinterval h left left (Nat.le_refl left) hundecided (.inr hT)
  rw [Nat.sub_self] at hrun hquestions
  exact ⟨w', hrun, hnow, hquestions.trans (List.append_nil _)⟩

end

/-- A wait ends with the first answer that decides, with the last attempt, or with its context, whichever comes first;
with the context where two come together. -/
theorem wait_ends_first {config : ConfirmationConfig} {first : ℕ∞} (hinterval : 1 ≤ config.pollInterval)
    (hordered : w.Ordered) (hdone : w.DoneFrom ctx T)
    (huntied : ∀ k : ℕ, 1 ≤ k → T = (w.now + k * config.pollInterval : ℕ) →
      ctx.deadline? = some (w.now + k * config.pollInterval))
    (hanswers : w.Answers c hash answers) (hfirst : FirstDecisive hash answers first) :
    let m := config.maxRetries
    let last := (min first m).toNat
    let time := fun k : ℕ => w.now + k * config.pollInterval
    let asked := questionsUpTo w.now config.pollInterval hash
    let program := (wait config ctx c hash).run
    (m = 0 → program.run w = (.ok (.unconfirmed 0), w) ∧ program.questions w = []) ∧
    (m ≠ 0 → T ≤ time last → ∃ w' n, program.run w = (.error (.receiptReadTimeout hash), w') ∧
      (w'.now : ℕ∞) = max T w.now ∧ program.questions w = asked n ∧ ∀ k, 1 ≤ k → (k ≤ n ↔ (time k : ℕ∞) < T)) ∧
    (m ≠ 0 → time last < T → first ≤ m → ∃ w' r, program.run w = (r, w') ∧ Decides hash (answers last) r ∧
      w'.now = time last ∧ program.questions w = asked last) ∧
    (m ≠ 0 → time last < T → m < first → ∃ w', program.run w = (.ok (.unconfirmed m), w') ∧
      w'.now = time m ∧ program.questions w = asked m) := by
  intro m last time asked program
  have hwaiting : Waiting config.pollInterval ctx c hash answers T w := ⟨hordered, hdone, huntied, hanswers⟩
  have hlast : (last : ℕ∞) = min first m := ENat.natCast_toNat (ne_top_of_le_ne_top (ENat.natCast_ne_top m) (min_le_right _ _))
  have hlastm : last ≤ m := by
    rw [← Nat.cast_le (α := ℕ∞), hlast]
    exact min_le_right _ _
  have hundecided : ∀ k, 1 ≤ k → k < last → decision? hash (answers k) = none := by
    intro k h1 hk
    apply undecided_of_lt hfirst h1
    exact lt_of_lt_of_le (Nat.cast_lt.2 hk) (hlast ▸ min_le_left _ _)
  refine ⟨?_, ?_, ?_, ?_⟩
  · intro hm
    have hprogram : program = (poll config.pollInterval ctx c hash m 0).run := rfl
    rw [hprogram, hm]
    exact ⟨rfl, rfl⟩
  · intro hm hT
    have hfirst1 : 1 ≤ first := by
      refine Order.one_le_iff_ne_zero.2 fun h0 => ?_
      have hzero : FirstDecisive hash answers (0 : ℕ) := by rwa [h0] at hfirst
      obtain ⟨h1, -⟩ := decided_of_first hzero
      omega
    have h1 : 1 ≤ last := by
      rw [← Nat.cast_le (α := ℕ∞), hlast]
      exact le_min hfirst1 (Nat.cast_le.2 (Nat.one_le_iff_ne_zero.2 hm))
    exact poll_ends_late hinterval hwaiting h1 hlastm hundecided hT
  · intro hm hT hle
    rw [min_eq_left hle] at hlast
    rw [← hlast] at hfirst
    obtain ⟨h1, r, hr⟩ := decided_of_first hfirst
    obtain ⟨w', hrun, hnow, hquestions⟩ := poll_ends_decided hinterval hwaiting h1 hlastm hundecided hT hr
    exact ⟨w', r, hrun, hr, hnow, hquestions⟩
  · intro hm hT hlt
    rw [min_eq_right (le_of_lt hlt), Nat.cast_inj] at hlast
    rw [hlast] at hT
    apply poll_ends_undecided hinterval hwaiting _ hT
    intro k h1 hk
    exact undecided_of_lt hfirst h1 (lt_of_le_of_lt (Nat.cast_le.2 hk) hlt)

end Confirmation
end

/-! ## A wait that is cancelled -/

namespace Confirmation

def minedHash : Hash := FixedBytes.ofNat 32 0x77

/-- A node that knows the receipt from the third question on. -/
def slowNode : SimulatedNode :=
  (SimulatedNode.initial.setReceipt (SimulatedNode.receiptOf minedHash 42 true)).scriptReceipts minedHash
    [.absent, .failure]

/-- The context of handle 0 is cancelled between the first question and the second. -/
def cancelling : World SimulatedNode MemoryStore :=
  { World.initial slowNode 0 .empty with signals := ⟨[⟨false, false⟩]⟩, agenda := [(1500, .cancel 0)] }

def impatient : Context := ⟨some 2500, some 0⟩

theorem impatient_done : cancelling.DoneFrom impatient (1500 : ℕ) := by
  intro t ht
  rw [World.doneAt_eq_true_iff, Nat.cast_le]
  constructor
  · rintro (⟨d, hd, hle⟩ | ⟨g, hg, hs | ⟨-, u, hu, hmem⟩⟩)
    · cases hd
      omega
    · cases hg
      cases hs
    · obtain ⟨rfl, -⟩ := Prod.mk.inj (List.mem_singleton.1 hmem)
      exact hu
  · intro hle
    exact .inr ⟨0, rfl, .inr ⟨rfl, 1500, hle, List.mem_singleton_self _⟩⟩

theorem slowNode_decides : FirstDecisive minedHash (cancelling.answer 0 minedHash) (3 : ℕ) := by
  intro n
  have hthird : Decides minedHash (cancelling.answer 0 minedHash 3) (.ok (.confirmed 42)) := .confirmed rfl rfl
  rw [Nat.cast_le]
  constructor
  · intro hn
    exact ⟨3, by decide, hn, _, hthird⟩
  · rintro ⟨k, h1, hk, r, hr⟩
    -- The first two answers decide nothing.
    refine Nat.le_of_not_lt fun hlt => ?_
    obtain rfl | rfl : k = 1 ∨ k = 2 := by omega
    · cases hr
    · cases hr

theorem wait_ends_first_cancelled : ∃ w',
    (wait ⟨1000, 24⟩ impatient 0 minedHash).run.run cancelling = (.error (.receiptReadTimeout minedHash), w') ∧
      w'.now = 1500 ∧ (wait ⟨1000, 24⟩ impatient 0 minedHash).run.questions cancelling = [(1000, .receipt minedHash)] := by
  have hordered : cancelling.Ordered := List.pairwise_singleton _ _
  have huntied : ∀ k : ℕ, 1 ≤ k → ((1500 : ℕ) : ℕ∞) = (cancelling.now + k * 1000 : ℕ) →
      impatient.deadline? = some (cancelling.now + k * 1000) := by
    intro k _ hk
    have hk : 1500 = 0 + k * 1000 := Nat.cast_inj.1 hk
    omega
  have hanswers : cancelling.Answers 0 minedHash (cancelling.answer 0 minedHash) := by
    apply World.answers_answer
    intro p hp
    rw [List.mem_singleton.1 hp]
    exact ⟨0, rfl⟩
  have hinterval : 1 ≤ (⟨1000, 24⟩ : ConfirmationConfig).pollInterval := by decide
  obtain ⟨-, hlate, -, -⟩ := wait_ends_first hinterval hordered impatient_done huntied hanswers slowNode_decides
  have hlast : (min ((3 : ℕ) : ℕ∞) (24 : ℕ)).toNat = 3 := by
    rw [← Nat.mono_cast.map_min]
    rfl
  simp only [hlast] at hlate
  obtain ⟨w', n, hrun, hnow, hquestions, hn⟩ := hlate (by decide) (Nat.cast_le.2 (by decide))
  have h1 := (hn 1 (by decide)).2 (Nat.cast_lt.2 (by decide))
  have h2 := (hn 2 (by decide)).not.2 (by rw [Nat.cast_lt]; decide)
  obtain rfl : n = 1 := by omega
  refine ⟨w', hrun, ?_, hquestions⟩
  rw [← Nat.mono_cast.map_max, Nat.cast_inj] at hnow
  exact hnow

end Confirmation
end EvmClient
