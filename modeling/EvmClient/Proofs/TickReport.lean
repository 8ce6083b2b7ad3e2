import EvmClient.Node.Simulated
import EvmClient.Proofs.Interleaving
import EvmClient.Proofs.ScanTrail

/-
What a tick tells of itself.

   A tick ends with an answer that is put together from where its loop stopped. `TickReport` is what its steps tell
   instead: which highest block the node reported, which blocks were asked for and how that was answered, what was
   handed to the handler and what the handler made of it, and what the looks at the context showed. The steps are
   answered in any way, only those that go to the store as a store in memory answers them.

   1. `Program.Ran.reported` — what holds along the tree of a program holds of the report of its steps.
   2. `handleAll_tallies`, `scanNext_tallies` — one block, gone over or not served.
   3. `scanBlocks_tallies` — the blocks up to where the loop stops.
   4. `tick_answer_tells` — the answer of a tick, by the report of its steps. -/
namespace EvmClient

/-! ## A run by itself -/

section Steps
variable {α β ν σ : Type} [Node ν] [CheckpointStore σ]

/-- The steps of a program that runs by itself. -/
def Program.steps : Program α → World ν σ → List (TaskStep ν σ)
  | .done _, _ => []
  | .step op next, w => ⟨0, w, op⟩ :: (next (w.perform op).1).steps (w.perform op).2

theorem Program.steps_step {op : Op} {next : op.Answer → Program α} {w w' : World ν σ} {r : op.Answer}
    (h : w.perform op = (r, w')) : (Program.step op next).steps w = ⟨0, w, op⟩ :: (next r).steps w' := by
  rw [steps, h]

theorem Program.steps_bind (p : Program α) (f : α → Program β) (w : World ν σ) :
    (p >>= f).steps w = p.steps w ++ (f (p.run w).1).steps (p.run w).2 := by
  induction p generalizing w with
  | done a => rfl
  | step op next ih => exact congrArg (_ :: ·) (ih _ _)

theorem Program.ran_steps (p : Program α) (w : World ν σ) : p.Ran (p.steps w) (.done (p.run w).1) := by
  induction p generalizing w with
  | done a => exact .nil _
  | step op next ih => exact .cons (e := ⟨0, w, op⟩) (ih _ _)

theorem Program.threaded_steps (p : Program α) (w : World ν σ) : Threaded w.store (p.steps w) (p.run w).2.store := by
  induction p generalizing w with
  | done a => exact rfl
  | step op next ih => exact ⟨rfl, ih _ _⟩

theorem Program.Only.all_steps {kind : Op → Prop} {p : Program α} (hp : p.Only kind) (w : World ν σ) :
    ∀ e ∈ p.steps w, kind e.op := by
  induction p generalizing w with
  | done a => exact List.forall_mem_nil _
  | step op next ih => exact List.forall_mem_cons.2 ⟨hp.1, ih _ (hp.2 _ () trivial) _⟩

end Steps

/-! ## Reports -/

structure TickReport where
  /-- The heights of the highest block, as the node reported them. -/
  heads : List Nat
  /-- The heights of the blocks that were asked for, with the answers. -/
  questions : List (Nat × Except ClientError (Option Block))
  /-- What the handler was given, with the causes of its failures. -/
  calls : List ((Transaction × Block) × Option (List String))
  /-- The looks at contexts: whether they were done. -/
  looks : List (Context × Bool)

namespace TickReport

def empty : TickReport := ⟨[], [], [], []⟩

/-- What a step adds, by its answer. -/
def add (k : TickReport) : (op : Op) → op.Answer → TickReport
  | .ask _ .blockNumber, .ok head => { k with heads := k.heads ++ [head.toNat] }
  | .ask _ (.blockByHeight height), r => { k with questions := k.questions ++ [(height, r)] }
  | .handle _ tx block, r => { k with calls := k.calls ++ [((tx, block), r)] }
  | .isDone ctx, done => { k with looks := k.looks ++ [(ctx, done)] }
  | .pause ctx _, done => { k with looks := k.looks ++ [(ctx, done)] }
  | _, _ => k

/-- The report of steps. -/
def ofSteps {ν σ : Type} [Node ν] [CheckpointStore σ] (es : List (TaskStep ν σ)) : TickReport :=
  es.foldl (fun k e => k.add e.op e.answer) empty

/-- How many calls of the handler failed. -/
def failures (k : TickReport) : Nat := k.calls.countP (·.2.isSome)

end TickReport

/-- The law that allows all steps and keeps the report and the store. -/
def reportLaw (σ : Type) [CheckpointStore σ] : Law (TickReport × σ) where
  allows _ _ := True
  leads k op r k' := k'.1 = k.1.add op r ∧ op.Leads k.2 r k'.2

section Reports
variable {α ν σ : Type} [Node ν] [CheckpointStore σ]

/-- What the law says of a program holds of the report of its steps. -/
theorem Program.Ran.reported {p : Program α} {es : List (TaskStep ν σ)} {a : α} (hran : p.Ran es (.done a)) {s s' : σ}
    (hstore : Threaded s es s') {post : α → TickReport × σ → Prop} (hp : p.Obeys (reportLaw σ) post (.empty, s)) :
    post a (.ofSteps es, s') := by
  have hrun : ∀ {p q : Program α} {es : List (TaskStep ν σ)} {k : TickReport} {s s' : σ}, p.Ran es q → q = .done a →
      Threaded s es s' → p.Obeys (reportLaw σ) post (k, s) →
      post a (es.foldl (fun k e => k.add e.op e.answer) k, s') := by
    intro p q es k s s' hran
    induction hran generalizing k s with
    | nil p =>
      rintro rfl hstore hp
      obtain rfl : s = s' := hstore
      exact hp
    | @cons e next es q _ ih =>
      rintro hq ⟨rfl, hrest⟩ hp
      exact ih hq hrest (hp.2 _ (_, _) ⟨rfl, e.leads⟩)
  exact hrun hran rfl hstore hp

variable {op : Op} {post : op.Answer → TickReport × σ → Prop} {k : TickReport × σ}

/-- What a step tells is added to the report. -/
theorem Program.Obeys.told (h : ∀ r s', op.Leads k.2 r s' → post r (k.1.add op r, s')) :
    (Program.perform op).Obeys (reportLaw σ) post k := by
  refine .perform trivial ?_
  intro r k' hk'
  have hadded : k' = (k.1.add op r, k'.2) := Prod.ext hk'.1 rfl
  rw [hadded]
  exact h r k'.2 hk'.2

/-- A step that leaves the store. -/
theorem Program.Obeys.observed (hstore : ∀ r s', op.Leads k.2 r s' → s' = k.2)
    (h : ∀ r, post r (k.1.add op r, k.2)) :
    (Program.perform op).Obeys (reportLaw σ) post k := by
  apply Program.Obeys.told
  intro r s' hleads
  rw [hstore r s' hleads]
  exact h r

/-- A step of which nothing is told, and which leaves the store. -/
theorem Program.Obeys.untold (htold : ∀ (k : TickReport) (r : op.Answer), k.add op r = k)
    (hstore : ∀ r s', op.Leads k.2 r s' → s' = k.2) (h : ∀ r, post r k) :
    (Program.perform op).Obeys (reportLaw σ) post k := by
  apply Program.Obeys.observed hstore
  intro r
  rw [htold]
  exact h r

end Reports

/-! ## Tallies -/

/-- Blocks as they were served, from a height on. -/
def served (first : Nat) (blocks : List Block) : List (Nat × Except ClientError (Option Block)) :=
  (blocks.zipIdx first).map fun (block, height) => (height, .ok (some block))

theorem served_append (first : Nat) (blocks : List Block) (block : Block) :
    served first (blocks ++ [block]) = served first blocks ++ [(first + blocks.length, .ok (some block))] := by
  simp [served, List.zipIdx_append]

theorem served_heights (first : Nat) (blocks : List Block) :
    (served first blocks).map Prod.fst = List.range' first blocks.length := by
  rw [served, List.map_map]
  exact List.zipIdx_map_snd first blocks

/-- All that is handed out of blocks. -/
def callsOfAll (blocks : List Block) : List (Transaction × Block) := blocks.flatMap fun b => callsOf b b.transactions

theorem callsOfAll_append (blocks : List Block) (block : Block) :
    callsOfAll (blocks ++ [block]) = callsOfAll blocks ++ callsOf block block.transactions := by
  simp [callsOfAll]

/-- What a report and a store tell of a tick that began with another store: what was asked, handed out, written and
looked at, and the height; the calls that failed are as many as the new records. -/
structure Tally (s : MemoryStore) (highest : Nat) (questions : List (Nat × Except ClientError (Option Block)))
    (calls : List (Transaction × Block)) (writes : List Nat) (height failed : Nat) (looks : List (Context × Bool))
    (k : TickReport × MemoryStore) : Prop where
  heads : k.1.heads = [highest]
  questions : k.1.questions = questions
  calls : k.1.calls.map Prod.fst = calls
  failures : k.1.failures = failed
  looks : k.1.looks = looks
  store : ∃ records, records.length = failed ∧ k.2 = ⟨height, s.writes ++ writes, s.failed ++ records⟩

namespace Tally
variable {s : MemoryStore} {highest height failed : Nat} {questions : List (Nat × Except ClientError (Option Block))}
  {calls : List (Transaction × Block)} {writes : List Nat} {looks : List (Context × Bool)}
  {k : TickReport × MemoryStore}

theorem asked (h : Tally s highest questions calls writes height failed looks k) (c : Connection) (asked : Nat)
    (r : Except ClientError (Option Block)) :
    Tally s highest (questions ++ [(asked, r)]) calls writes height failed looks
      (k.1.add (.ask c (.blockByHeight asked)) r, k.2) :=
  { h with questions := congrArg (· ++ [(asked, r)]) h.questions }

theorem looked (h : Tally s highest questions calls writes height failed looks k) (look : Context × Bool) :
    Tally s highest questions calls writes height failed (looks ++ [look])
      ({ k.1 with looks := k.1.looks ++ [look] }, k.2) :=
  { h with looks := congrArg (· ++ [look]) h.looks }

theorem wrote (h : Tally s highest questions calls writes height failed looks k) (written : Nat) :
    Tally s highest questions calls (writes ++ [written]) written failed looks
      (k.1, { k.2 with height := written, writes := k.2.writes ++ [written] }) := by
  obtain ⟨records, hlength, hstore⟩ := h.store
  refine { h with store := ⟨records, hlength, ?_⟩ }
  rw [hstore, List.append_assoc]

variable {handler : Handler} {tx : Transaction} {block : Block}

theorem succeeded (h : Tally s highest questions calls writes height failed looks k) :
    Tally s highest questions (calls ++ [(tx, block)]) writes height failed looks
      (k.1.add (.handle handler tx block) none, k.2) := by
  refine { h with calls := ?_, failures := ?_ }
  · show (k.1.calls ++ [((tx, block), none)]).map Prod.fst = _
    rw [List.map_append, h.calls]
    rfl
  · show (k.1.calls ++ [((tx, block), none)]).countP _ = _
    rw [List.countP_append]
    exact h.failures

/-- A call that fails is recorded. -/
theorem recorded (h : Tally s highest questions calls writes height failed looks k) (causes : List String)
    (record : FailedRecord) :
    Tally s highest questions (calls ++ [(tx, block)]) writes height (failed + 1) looks
      (k.1.add (.handle handler tx block) (some causes), { k.2 with failed := k.2.failed ++ [record] }) := by
  obtain ⟨records, hlength, hstore⟩ := h.store
  refine { h with calls := ?_, failures := ?_, store := ⟨records ++ [record], by simp [hlength], ?_⟩ }
  · show (k.1.calls ++ [((tx, block), some causes)]).map Prod.fst = _
    rw [List.map_append, h.calls]
    rfl
  · show (k.1.calls ++ [((tx, block), some causes)]).countP _ = _
    rw [List.countP_append]
    exact congrArg (· + 1) h.failures
  · rw [hstore, List.append_assoc]

end Tally

/-! ## One block -/

section Blocks
variable {s : MemoryStore} {highest height failed : Nat} {questions : List (Nat × Except ClientError (Option Block))}
  {calls : List (Transaction × Block)} {writes : List Nat} {looks : List (Context × Bool)}

theorem record_tallies (tx : Transaction) (block : Block) (causes : List String) (k : TickReport × MemoryStore) :
    (Scanner.record tx block causes).Obeys (reportLaw MemoryStore)
      (fun _ k' => ∃ record, k' = (k.1, { k.2 with failed := k.2.failed ++ [record] })) k := by
  refine .bind (.untold (fun _ _ => rfl) (fun _ _ h => h) fun recordedAt => ?_)
  refine .bind (.told fun r s' happend => ?_)
  cases happend
  exact ⟨_, rfl⟩

/-- All transactions of a block are handed out, and those that fail are recorded. -/
theorem handleAll_tallies (scanner : Scanner) (block : Block) (txs : List Transaction) :
    ∀ (calls : List (Transaction × Block)) (failed : Nat) (k : TickReport × MemoryStore),
      Tally s highest questions calls writes height failed looks k →
      (scanner.handleAll block txs).Obeys (reportLaw MemoryStore)
        (fun n => Tally s highest questions (calls ++ callsOf block txs) writes height (failed + n) looks) k := by
  induction txs with
  | nil =>
    intro calls failed k h
    show Tally s highest questions (calls ++ []) writes height (failed + 0) looks k
    rw [List.append_nil]
    exact h
  | cons tx txs ih =>
    intro calls failed k h
    have hcalls : calls ++ callsOf block (tx :: txs) = calls ++ [(tx, block)] ++ callsOf block txs := by
      rw [List.append_assoc]
      rfl
    rw [hcalls]
    refine .bind (.observed (fun _ _ h => h) fun r => ?_)
    cases r with
    | none => exact ih _ _ _ h.succeeded
    | some causes =>
      refine .bind ((record_tallies tx block causes _).mono ?_)
      rintro _ _ ⟨record, rfl⟩
      refine .bind ((ih _ _ _ (h.recorded causes record)).mono ?_)
      intro n k' h'
      have hfailed : failed + (n + 1) = failed + 1 + n := by omega
      show Tally s highest questions _ writes height (failed + (n + 1)) looks k'
      rw [hfailed]
      exact h'

/-- The answer to a question for a block that makes the tick end with this error. -/
def EndsTick (height : Nat) (answer : Except ClientError (Option Block)) (e : ClientError) : Prop :=
  answer = .error e ∨ answer = .ok none ∧ e = .blockNotFound height

theorem fetch_tallies (c : Connection) (asked : Nat) {k : TickReport × MemoryStore}
    (h : Tally s highest questions calls writes height failed looks k) :
    (Scanner.fetch c asked).run.Obeys (reportLaw MemoryStore)
      (fun
        | .ok block => Tally s highest (questions ++ [(asked, .ok (some block))]) calls writes height failed looks
        | .error e => fun k => ∃ answer, EndsTick asked answer e ∧
            Tally s highest (questions ++ [(asked, answer)]) calls writes height failed looks k) k := by
  refine .action (.observed (fun _ _ h => h) fun r => ?_)
  have hasked := h.asked c asked r
  rcases r with e | none | block
  · exact ⟨_, .inl rfl, hasked⟩
  · exact ⟨_, .inr ⟨rfl, rfl⟩, hasked⟩
  · exact hasked

/-- A block is gone over as a whole and its height is written, or it is not served and nothing more happens. -/
theorem scanNext_tallies (scanner : Scanner) (c : Connection) (p : Progress) {k : TickReport × MemoryStore}
    (h : Tally s highest questions calls writes height p.failed looks k) :
    (scanner.scanNext c p).run.Obeys (reportLaw MemoryStore)
      (fun
        | .ok q => fun k => q.last = p.last + 1 ∧ ∃ block,
            Tally s highest (questions ++ [(p.last + 1, .ok (some block))]) (calls ++ callsOf block block.transactions)
              (writes ++ [p.last + 1]) (p.last + 1) q.failed looks k
        | .error e => fun k => ∃ answer, EndsTick (p.last + 1) answer e ∧
            Tally s highest (questions ++ [(p.last + 1, answer)]) calls writes height p.failed looks k) k := by
  refine .action ((fetch_tallies c (p.last + 1) h).mono ?_)
  intro r k h
  cases r with
  | error e => exact h
  | ok block =>
    refine .program ((handleAll_tallies scanner block block.transactions _ _ _ h).mono ?_)
    intro failed k h
    refine .action (.told fun r s' hwrite => ?_)
    cases hwrite
    exact ⟨rfl, block, h.wrote (p.last + 1)⟩

/-! ## All blocks -/

/-- These blocks are gone over from behind a height on, and nothing else was asked for, handed out or written. -/
def Scanned (s : MemoryStore) (resume highest : Nat) (blocks : List Block) (failed : Nat)
    (looks : List (Context × Bool)) : TickReport × MemoryStore → Prop :=
  Tally s highest (served (resume + 1) blocks) (callsOfAll blocks) (List.range' (resume + 1) blocks.length)
    (if blocks = [] then s.height else resume + blocks.length) failed looks

/-- The block behind them was asked for, too, and was not served. -/
def Stopped (s : MemoryStore) (resume highest : Nat) (e : ClientError) (k : TickReport × MemoryStore) : Prop :=
  ∃ blocks answer failed looks, resume + blocks.length + 1 < highest ∧
    EndsTick (resume + blocks.length + 1) answer e ∧
    Tally s highest (served (resume + 1) blocks ++ [(resume + blocks.length + 1, answer)]) (callsOfAll blocks)
      (List.range' (resume + 1) blocks.length) (if blocks = [] then s.height else resume + blocks.length) failed looks k

/-- The loop came to the end of its blocks, or the last look showed that the context is done. -/
def LoopEnd (ctx : Context) (highest last : Nat) (blocks : List Block) (looks : List (Context × Bool)) : Prop :=
  last + 1 = highest ∨ last + 1 < highest ∧
    ∃ n, looks = List.replicate n (ctx, false) ++ [(ctx, true)] ∧ (blocks ≠ [] → 0 < n)

variable {resume : Nat}

theorem Scanned.next {blocks : List Block} {block : Block} {failed' : Nat} {k : TickReport × MemoryStore}
    (h : Tally s highest (served (resume + 1) blocks ++ [(resume + blocks.length + 1, .ok (some block))])
      (callsOfAll blocks ++ callsOf block block.transactions)
      (List.range' (resume + 1) blocks.length ++ [resume + blocks.length + 1]) (resume + blocks.length + 1) failed' looks
      k) :
    Scanned s resume highest (blocks ++ [block]) failed' looks k := by
  have hfirst : resume + 1 + blocks.length = resume + blocks.length + 1 := by omega
  have hheight : (if blocks ++ [block] = [] then s.height else resume + (blocks ++ [block]).length) =
      resume + blocks.length + 1 := by
    rw [if_neg (by simp), List.length_append]
    rfl
  rw [Scanned, served_append, callsOfAll_append, hheight, hfirst, List.length_append, List.length_singleton,
    List.range'_1_concat, hfirst]
  exact h

/-- The loop goes over one block after the other. -/
theorem scanBlocks_tallies (scanner : Scanner) (ctx : Context) (c : Connection) (left : Nat) :
    ∀ (blocks : List Block) (p : Progress) (n : Nat) (k : TickReport × MemoryStore), p.last = resume + blocks.length →
      p.last + left + 1 = highest → (blocks ≠ [] → 0 < n) →
      Scanned s resume highest blocks p.failed (List.replicate n (ctx, false)) k →
      (scanner.scanBlocks ctx c left p).run.Obeys (reportLaw MemoryStore)
        (fun
          | .ok q => fun k => ∃ blocks looks, q.last = resume + blocks.length ∧
              LoopEnd ctx highest q.last blocks looks ∧ Scanned s resume highest blocks q.failed looks k
          | .error e => Stopped s resume highest e) k := by
  -- So many blocks are left; each look up to now has shown that the context is not done.
  induction left with
  | zero =>
    intro blocks p n k hlast hend hn h
    exact ⟨blocks, _, hlast, .inl hend, h⟩
  | succ left ih =>
    intro blocks p n k hlast hend hn h
    refine .program (.observed (fun _ _ h => h) fun ended => ?_)
    have hlooked := h.looked (ctx, ended)
    cases ended with
    | true => exact ⟨blocks, _, hlast, .inr ⟨by omega, n, rfl, hn⟩, hlooked⟩
    | false =>
      rw [← List.replicate_succ'] at hlooked
      refine .action ((scanNext_tallies scanner c p hlooked).mono ?_)
      intro r k h
      cases r with
      | error e =>
        obtain ⟨answer, hanswer, h⟩ := h
        rw [hlast] at hanswer h
        exact ⟨blocks, answer, _, _, by omega, hanswer, h⟩
      | ok q =>
        obtain ⟨hq, block, h⟩ := h
        rw [hlast] at hq h
        have hnext : q.last = resume + (blocks ++ [block]).length := by
          rw [hq, List.length_append]
          rfl
        have h := Scanned.next h
        dsimp only
        split
        · refine .program (.observed (fun _ _ h => h) fun ended => ?_)
          have hlooked := h.looked (ctx, ended)
          cases ended with
          | true => exact ⟨_, _, hnext, .inr ⟨by omega, n + 1, rfl, fun _ => Nat.succ_pos n⟩, hlooked⟩
          | false =>
            rw [← List.replicate_succ'] at hlooked
            exact ih _ q _ _ hnext (by omega) (fun _ => Nat.succ_pos _) hlooked
        · exact ih _ q _ _ hnext (by omega) (fun _ => Nat.succ_pos n) h

/-! ## The tick -/

/-- Nothing was asked for, handed out or written. -/
def Untouched (s : MemoryStore) (k : TickReport × MemoryStore) : Prop :=
  k.1.questions = [] ∧ k.1.calls = [] ∧ k.2 = s

/-- What the answer of a tick says of its steps. -/
def Answered (ctx : Context) (s : MemoryStore) (resume : Nat) :
    Except ClientError TickOutcome → TickReport × MemoryStore → Prop
  | .ok (.skipped resume' highest) => fun k => resume' = resume ∧ highest < UInt64.size ∧ k.1.heads = [highest] ∧
      Untouched s k
  | .ok (.scanned first last failed) => fun k => ∃ highest blocks looks, highest < UInt64.size ∧ first = resume + 1 ∧
      last = resume + blocks.length ∧ blocks ≠ [] ∧ LoopEnd ctx highest last blocks looks ∧
      Scanned s resume highest blocks failed looks k
  | .error e => fun k => (∀ highest ∈ k.1.heads, highest < UInt64.size) ∧ Untouched s k ∨
      ∃ highest, highest < UInt64.size ∧ Stopped s resume highest e k

/-- Where no block is gone over, nothing is touched. -/
theorem Scanned.untouched {k : TickReport × MemoryStore} (h : Scanned s resume highest [] failed looks k) :
    Untouched s k := by
  have hcalls : k.1.calls = [] := List.map_eq_nil_iff.1 h.calls
  have hfailed : failed = 0 := by
    rw [← h.failures, TickReport.failures, hcalls]
    rfl
  obtain ⟨records, hlength, hstore⟩ := h.store
  have hrecords : records = [] := List.eq_nil_of_length_eq_zero (hlength.trans hfailed)
  refine ⟨h.questions, hcalls, hstore.trans ?_⟩
  rw [hrecords, List.append_nil]
  show (⟨s.height, s.writes ++ [], s.failed⟩ : MemoryStore) = s
  rw [List.append_nil]

theorem tickOver_answered (scanner : Scanner) (ctx : Context) (c : Connection) (s : MemoryStore) :
    (scanner.tickOver ctx c).run.Obeys (reportLaw MemoryStore) (Answered ctx s (max s.height scanner.start))
      (.empty, s) := by
  refine .action (.observed (fun _ _ h => h) fun r => ?_)
  cases r with
  | error e => exact .inl ⟨fun _ h => absurd h List.not_mem_nil, rfl, rfl, rfl⟩
  | ok head =>
    have hsize : head.toNat < UInt64.size := head.isLt
    refine .action (.told fun r s' hread => ?_)
    obtain ⟨hanswer, hkept⟩ := hread
    cases hkept
    obtain rfl : r = .ok s.height := hanswer
    dsimp only
    generalize max s.height scanner.start = resume
    split
    · exact ⟨rfl, hsize, rfl, rfl, rfl, rfl⟩
    · rename_i hnew
      have hstart : Scanned s resume head.toNat [] 0 (List.replicate 0 (ctx, false))
          (⟨[head.toNat], [], [], []⟩, s) := by
        refine ⟨rfl, rfl, rfl, rfl, rfl, [], rfl, ?_⟩
        show s = ⟨s.height, s.writes ++ [], s.failed ++ []⟩
        rw [List.append_nil, List.append_nil]
      have hend : resume + (head.toNat - 1 - resume) + 1 = head.toNat := by omega
      have hloop := scanBlocks_tallies scanner ctx c (head.toNat - 1 - resume) [] ⟨resume, 0⟩ 0 _ rfl hend
        (fun h => absurd rfl h) hstart
      refine .action (hloop.mono ?_)
      intro r k h
      cases r with
      | error e => exact .inr ⟨_, hsize, h⟩
      | ok p =>
        obtain ⟨blocks, looks, hlast, hloopEnd, hscanned⟩ := h
        dsimp only
        split
        · -- The loop ended before its first block.
          rename_i hnone
          obtain rfl : blocks = [] := List.eq_nil_of_length_eq_zero (by omega)
          exact ⟨rfl, hsize, hscanned.heads, hscanned.untouched⟩
        · rename_i hsome
          refine ⟨_, blocks, looks, hsize, rfl, hlast, ?_, hloopEnd, hscanned⟩
          rintro rfl
          exact hsome hlast

/-- Nothing is told of a lease, and it leaves the store. -/
theorem leasing_untold {σ α : Type} [CheckpointStore σ] {p : Program α} (hp : p.Only Op.OfLease) (k : TickReport × σ) :
    p.Obeys (reportLaw σ) (fun _ k' => k' = k) k := by
  refine hp.keeps ?_ rfl
  rintro op hop _ rfl
  refine ⟨trivial, ?_⟩
  rintro r ⟨k', s'⟩ ⟨hk, hs⟩
  cases op with
  | take | isClosed | dial | put _ | destroy _ => exact Prod.ext hk hs
  | _ => exact absurd hop id

/-- A tick answers what its steps tell. -/
theorem tick_answered (scanner : Scanner) (ctx : Context) (s : MemoryStore) :
    (scanner.tick ctx).run.Obeys (reportLaw MemoryStore) (Answered ctx s (max s.height scanner.start)) (.empty, s) := by
  refine .bind (.untold (fun _ _ => rfl) (fun _ _ h => h) fun _ => ?_)
  have hunlock : ∀ (r : Except ClientError TickOutcome) (k : TickReport × MemoryStore),
      Answered ctx s (max s.height scanner.start) r k →
      (Program.perform (.unlock scanner.lock) >>= fun _ => pure r).Obeys (reportLaw MemoryStore)
        (Answered ctx s (max s.height scanner.start)) k :=
    fun r k h => .bind (.untold (fun _ _ => rfl) (fun _ _ h => h) fun _ => h)
  refine .bind (.bind ((leasing_untold acquire_steps _).mono ?_))
  rintro r _ rfl
  cases r with
  | error e => exact hunlock _ _ (.inl ⟨fun _ h => absurd h List.not_mem_nil, rfl, rfl, rfl⟩)
  | ok c =>
    refine .bind ((tickOver_answered scanner ctx c s).mono ?_)
    intro r k h
    refine .bind ((leasing_untold (giveBack_steps c) k).mono ?_)
    rintro _ k' hk'
    rw [hk']
    exact hunlock r k h

theorem Scanned.asked {blocks : List Block} {k : TickReport × MemoryStore}
    (h : Scanned s resume highest blocks failed looks k) :
    k.1.questions.map Prod.fst = List.range' (resume + 1) blocks.length := by
  rw [h.questions, served_heights]

theorem asked_unserved {k : TickReport × MemoryStore} {blocks : List Block} {answer : Except ClientError (Option Block)}
    (h : k.1.questions = served (resume + 1) blocks ++ [(resume + blocks.length + 1, answer)]) :
    k.1.questions.map Prod.fst = List.range' (resume + 1) (blocks.length + 1) := by
  have hlast : resume + 1 + blocks.length = resume + blocks.length + 1 := by omega
  rw [h, List.map_append, served_heights, List.range'_1_concat, hlast]
  rfl

namespace Answered
variable {ctx : Context} {r : Except ClientError TickOutcome} {k : TickReport × MemoryStore}

theorem heads_lt (h : Answered ctx s resume r k) : ∀ highest ∈ k.1.heads, highest < UInt64.size := by
  intro head hhead
  rcases r with e | ⟨resume', highest⟩ | ⟨first, last, failed⟩
  · rcases h with ⟨hsize, -⟩ | ⟨highest, hsize, blocks, answer, failed, looks, -, -, h⟩
    · exact hsize head hhead
    · rw [h.heads, List.mem_singleton] at hhead
      rwa [hhead]
  · obtain ⟨-, hsize, hheads, -⟩ := h
    rw [hheads, List.mem_singleton] at hhead
    rwa [hhead]
  · obtain ⟨highest, blocks, looks, hsize, -, -, -, -, h⟩ := h
    rw [h.heads, List.mem_singleton] at hhead
    rwa [hhead]

/-- Only blocks below the highest are asked for. -/
theorem asked_lt (h : Answered ctx s resume r k) :
    ∀ asked ∈ k.1.questions.map Prod.fst, ∃ highest ∈ k.1.heads, resume < asked ∧ asked < highest := by
  intro asked hasked
  have hnone : Untouched s k → False := by
    intro huntouched
    rw [huntouched.1] at hasked
    cases hasked
  rcases r with e | ⟨resume', highest⟩ | ⟨first, last, failed⟩
  · rcases h with ⟨-, huntouched⟩ | ⟨highest, -, blocks, answer, failed, looks, hlt, -, h⟩
    · exact absurd huntouched hnone
    · rw [asked_unserved h.questions, List.mem_range'_1] at hasked
      exact ⟨highest, by simp [h.heads], by omega, by omega⟩
  · exact absurd h.2.2.2 hnone
  · obtain ⟨highest, blocks, looks, -, -, hlast, -, hend, h⟩ := h
    rw [h.asked, List.mem_range'_1] at hasked
    refine ⟨highest, by simp [h.heads], by omega, ?_⟩
    rcases hend with hlast | ⟨hlast, -⟩ <;> omega

end Answered

/-- Over a store in memory, the answer of a tick tells exactly what its steps did, however they were answered. A tick
that skips touches nothing. One that scans has gone over its blocks one after the other and over nothing else, up to the
highest but one unless its context got done meanwhile, and its count of failures is that of the calls that failed and of
the records. One that fails has touched nothing, or has gone over all blocks below one that was not served. No height
that a tick asks for, and no sum that it forms, lies above the highest block. -/
theorem tick_answer_tells {ν : Type} [Node ν] {scanner : Scanner} {ctx : Context} {es : List (TaskStep ν MemoryStore)}
    {r : Except ClientError TickOutcome} {s s' : MemoryStore} (hran : (scanner.tick ctx).run.Ran es (.done r))
    (hstore : Threaded s es s') :
    let resume := max s.height scanner.start
    let report := TickReport.ofSteps es
    let asked := report.questions.map Prod.fst
    let called := report.calls.map Prod.fst
    (∀ resume' highest, r = .ok (.skipped resume' highest) →
      resume' = resume ∧ report.heads = [highest] ∧ asked = [] ∧ called = [] ∧ s' = s) ∧
    (∀ first last failed, r = .ok (.scanned first last failed) →
      ∃ highest blocks records, report.heads = [highest] ∧ first = resume + 1 ∧ first ≤ last ∧ last < highest ∧
        report.questions = served first blocks ∧ asked = List.range' first (last + 1 - first) ∧
        called = callsOfAll blocks ∧ report.calls.countP (·.2.isSome) = failed ∧ records.length = failed ∧
        s' = ⟨last, s.writes ++ List.range' first (last + 1 - first), s.failed ++ records⟩ ∧
        (last = highest - 1 ∨ ∃ n, report.looks = List.replicate (n + 1) (ctx, false) ++ [(ctx, true)])) ∧
    (∀ e, r = .error e → asked = [] ∧ called = [] ∧ s' = s ∨
      ∃ highest h blocks answer, report.heads = [highest] ∧ resume < h ∧ h < highest ∧
        report.questions = served (resume + 1) blocks ++ [(h, answer)] ∧
        asked = List.range' (resume + 1) (h - resume) ∧ called = callsOfAll blocks ∧
        s'.writes = s.writes ++ List.range' (resume + 1) (h - 1 - resume) ∧
        (answer = .error e ∨ answer = .ok none ∧ e = .blockNotFound h)) ∧
    (∀ highest ∈ report.heads, highest < UInt64.size) ∧
    (∀ h ∈ asked, ∃ highest ∈ report.heads, resume < h ∧ h < highest) := by
  intro resume report asked called
  have hanswered : Answered ctx s resume r (report, s') := hran.reported hstore (tick_answered scanner ctx s)
  clear_value resume report
  refine ⟨?_, ?_, ?_, hanswered.heads_lt, hanswered.asked_lt⟩
  · rintro resume' highest rfl
    obtain ⟨hresume, -, hheads, hquestions, hcalls, hstore⟩ := hanswered
    exact ⟨hresume, hheads, congrArg (List.map Prod.fst) hquestions, congrArg (List.map Prod.fst) hcalls, hstore⟩
  · rintro first last failed rfl
    obtain ⟨highest, blocks, looks, -, rfl, rfl, hsome, hend, h⟩ := hanswered
    obtain ⟨records, hlength, hstore⟩ := h.store
    have hpos := List.length_pos_iff.2 hsome
    have hcount : resume + blocks.length + 1 - (resume + 1) = blocks.length := by omega
    rw [if_neg hsome] at hstore
    rw [hcount]
    refine ⟨highest, blocks, records, h.heads, rfl, by omega, ?_, h.questions, h.asked, h.calls, h.failures, hlength,
      hstore, ?_⟩
    · rcases hend with hlast | ⟨hlast, -⟩ <;> omega
    · rcases hend with hlast | ⟨-, n, hlooks, hn⟩
      · left
        omega
      · right
        obtain ⟨m, rfl⟩ := Nat.exists_eq_add_of_lt (hn hsome)
        exact ⟨m, h.looks.trans (by simpa using hlooks)⟩
  · rintro e rfl
    rcases hanswered with ⟨-, hquestions, hcalls, hstore⟩ | ⟨highest, -, blocks, answer, failed, looks, hlt, hanswer, h⟩
    · exact .inl ⟨congrArg (List.map Prod.fst) hquestions, congrArg (List.map Prod.fst) hcalls, hstore⟩
    · right
      obtain ⟨records, -, rfl⟩ := h.store
      have hcount : resume + blocks.length + 1 - resume = blocks.length + 1 := by omega
      have hcount' : resume + blocks.length + 1 - 1 - resume = blocks.length := by omega
      refine ⟨highest, resume + blocks.length + 1, blocks, answer, h.heads, by omega, hlt, h.questions, ?_, h.calls, ?_,
        hanswer⟩
      · rw [hcount]
        exact asked_unserved h.questions
      · rw [hcount']

/-! ## A tick that is cancelled on the way -/

/-- The handler fails for every transaction and cancels the tick's context. -/
def cancellingScanner : Scanner := ⟨0, 1, 0, fun _ _ _ => ⟨some ["refused"], [0]⟩⟩

/-- Blocks up to the fourth, of which the second holds a transaction. -/
def cancellableWorld : World SimulatedNode MemoryStore :=
  let second := SimulatedNode.blockOf 2 [SimulatedNode.transactionOf 7 default default 1]
  let node := [second, SimulatedNode.blockOf 3 [], SimulatedNode.blockOf 4 []].foldl (fun n b => n.addBlock b) .initial
  { World.initial node 1 .empty with signals := ⟨[⟨false, false⟩]⟩ }

def cancelledTick : Program (Except ClientError TickOutcome) := (cancellingScanner.tick (.withHandle 0)).run

/-- The second block is gone over, and then the context is done. -/
theorem tick_answer_tells_cancelled :
    cancelledTick.Ran (cancelledTick.steps cancellableWorld) (.done (.ok (.scanned 2 2 1))) ∧
    Threaded .empty (cancelledTick.steps cancellableWorld) (cancelledTick.run cancellableWorld).2.store ∧
    ∃ records, records.length = 1 ∧ (cancelledTick.run cancellableWorld).2.store = ⟨2, [2], records⟩ ∧
      ∃ n, (TickReport.ofSteps (cancelledTick.steps cancellableWorld)).looks =
        List.replicate (n + 1) (.withHandle 0, false) ++ [(.withHandle 0, true)] := by
  have hanswer : (cancelledTick.run cancellableWorld).1 = .ok (.scanned 2 2 1) := rfl
  have hran := Program.ran_steps cancelledTick cancellableWorld
  have hstore := Program.threaded_steps cancelledTick cancellableWorld
  rw [hanswer] at hran
  obtain ⟨-, hscanned, -⟩ := tick_answer_tells hran hstore
  obtain ⟨highest, blocks, records, hheads, -, -, -, -, -, -, -, hlength, hkept, hend⟩ := hscanned 2 2 1 rfl
  refine ⟨hran, hstore, records, hlength, hkept, ?_⟩
  have hhighest : (TickReport.ofSteps (cancelledTick.steps cancellableWorld)).heads = [4] := by decide +kernel
  obtain rfl : highest = 4 := by simpa [hheads] using hhighest
  exact hend.resolve_left (by decide)

end Blocks
end EvmClient
