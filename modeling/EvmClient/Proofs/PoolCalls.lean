import EvmClient.Lease
import EvmClient.Proofs.Law

/-
What the calls of a pool do with connections.

   A task that runs such a call has connections in its hand: those that it took or made and has not given
   away. `poolLaw` allows it to put back and to destroy only these, and to empty the queue only after it
   closed the pool itself. Each call obeys this law, whatever its steps are answered; in the end its hand holds
   what it leases out.

   1. `Holding.after_conserves` — a step moves connections between the queue, a hand and those destroyed,
      and only a dial makes one.
   2. `PoolCall.obeys` — the calls obey the law. -/
namespace EvmClient

theorem count_erase_mem {l : List Connection} {a : Connection} (ha : a ∈ l) (c : Connection) :
    (l.erase a).count c + [a].count c = l.count c := by
  have hperm := (List.perm_cons_erase ha).count_eq c
  rw [List.count_cons] at hperm
  rw [List.count_singleton]
  exact hperm.symm

/-! ## Steps -/

/-- What a step makes of the pool: only four kinds of steps change it. -/
def Op.PoolLeads (p : Pool) : (op : Op) → op.Answer → Pool → Prop
  | .take, r, p' => (r, p') = p.take
  | .isClosed, r, p' => r = p.closed ∧ p' = p
  | .put c, r, p' => (r, p') = p.put c
  | .markClosed, r, p' => (r, p') = p.markClosed
  | .drain, r, p' => (r, p') = p.drain
  | _, _, p' => p' = p

/-- What comes back is kept by an open pool that has room for it, and by no other. -/
theorem Op.PoolLeads.put_cases {c : Connection} {p p' : Pool} {r : Bool} (hp : Op.PoolLeads p (.put c) r p') :
    (r = true ∧ p' = { p with idle := p.idle ++ [c] } ∧ p.closed = false ∧ p.idle.length < p.capacity) ∨
      (r = false ∧ p' = p) := by
  have hput : (r, p') = p.put c := hp
  unfold Pool.put at hput
  by_cases haccepts : p.accepts = true
  · rw [if_pos haccepts] at hput
    cases hput
    unfold Pool.accepts at haccepts
    obtain ⟨hopen, hroom⟩ := Bool.and_eq_true_iff.1 haccepts
    refine .inl ⟨rfl, rfl, ?_, of_decide_eq_true hroom⟩
    simpa using hopen
  · rw [if_neg haccepts] at hput
    cases hput
    exact .inr ⟨rfl, rfl⟩

/-- The connections that a step makes. -/
def Op.makes : (op : Op) → op.Answer → List Connection
  | .dial, .ok c => [c]
  | _, _ => []

theorem Op.makes_nodup (op : Op) (r : op.Answer) : (op.makes r).Nodup := by
  cases op with
  | dial =>
    cases r with
    | error e => exact .nil
    | ok c => exact List.nodup_cons.2 ⟨List.not_mem_nil, .nil⟩
  | _ => exact .nil

/-- The connections that a step destroys. -/
def Op.destroys : Op → List Connection
  | .destroy c => [c]
  | _ => []

/-- Whether a step empties the queue. -/
def Op.drains : Op → Bool
  | .drain => true
  | _ => false

/-- What a task has to do with the pool: the connections in its hand, and whether it has closed the pool and
not emptied the queue yet. -/
structure Holding where
  hand : List Connection
  closing : Bool
deriving DecidableEq

namespace Holding

def after (k : Holding) : (op : Op) → op.Answer → Holding
  | .take, some c => { k with hand := c :: k.hand }
  | .dial, .ok c => { k with hand := c :: k.hand }
  | .put c, true => { k with hand := k.hand.erase c }
  | .destroy c, _ => { k with hand := k.hand.erase c }
  | .markClosed, true => { k with closing := true }
  | .drain, cs => ⟨cs ++ k.hand, false⟩
  | _, _ => k

def Allows (k : Holding) : Op → Prop
  | .put c | .destroy c => c ∈ k.hand
  | .drain => k.closing = true
  | _ => True

/-- Connections go between the queue, the hand and those destroyed; only a dial makes one. -/
theorem after_conserves {k : Holding} {op : Op} {p p' : Pool} {r : op.Answer} (hop : k.Allows op)
    (hp : op.PoolLeads p r p') (c : Connection) :
    p'.idle.count c + (k.after op r).hand.count c + op.destroys.count c =
      p.idle.count c + k.hand.count c + (op.makes r).count c := by
  cases op with
  | take =>
    obtain ⟨capacity, idle, closed⟩ := p
    cases hp
    cases idle with
    | nil => rfl
    | cons a idle =>
      simp only [List.head?_cons, List.tail_cons, after, Op.destroys, Op.makes, List.count_cons,
        List.count_nil]
      omega
  | dial =>
    cases hp
    cases r with
    | error e => rfl
    | ok a =>
      simp only [after, Op.destroys, Op.makes, List.count_cons, List.count_nil]
      omega
  | put a =>
    have herase := count_erase_mem hop c
    rcases hp.put_cases with ⟨rfl, rfl, _, _⟩ | ⟨rfl, rfl⟩
    · simp only [after, Op.destroys, Op.makes, List.count_append, List.count_nil]
      omega
    · rfl
  | destroy a =>
    have herase := count_erase_mem hop c
    cases hp
    simp only [after, Op.destroys, Op.makes, List.count_nil]
    omega
  | markClosed =>
    cases hp
    cases hclosed : p.closed <;> rfl
  | drain =>
    cases hp
    simp only [after, Op.destroys, Op.makes, List.count_append, List.count_nil]
    omega
  | isClosed =>
    cases hp.2
    rfl
  | _ =>
    cases hp
    rfl

end Holding

/-- What a step does to the pool's bounds: the capacity stays, and the queue does not outgrow it. -/
theorem Op.PoolLeads.bounded {op : Op} {p p' : Pool} {r : op.Answer} (hp : op.PoolLeads p r p') :
    p'.capacity = p.capacity ∧ (p.idle.length ≤ p.capacity → p'.idle.length ≤ p.capacity) := by
  cases op with
  | take =>
    cases hp
    refine ⟨rfl, fun h => ?_⟩
    have htail : p.idle.tail.length ≤ p.idle.length := by
      rw [List.length_tail]
      omega
    exact Nat.le_trans htail h
  | put c =>
    rcases hp.put_cases with ⟨rfl, rfl, _, hroom⟩ | ⟨rfl, rfl⟩
    · refine ⟨rfl, fun _ => ?_⟩
      rw [List.length_append, List.length_singleton]
      omega
    · exact ⟨rfl, id⟩
  | drain =>
    cases hp
    exact ⟨rfl, fun _ => Nat.zero_le _⟩
  | isClosed =>
    cases hp.2
    exact ⟨rfl, id⟩
  | _ =>
    cases hp
    exact ⟨rfl, id⟩

/-- A pool stays closed. -/
theorem Op.PoolLeads.stays_closed {op : Op} {p p' : Pool} {r : op.Answer} (hp : op.PoolLeads p r p')
    (h : p.closed = true) : p'.closed = true := by
  cases op with
  | put c =>
    rcases hp.put_cases with ⟨rfl, rfl, _, _⟩ | ⟨rfl, rfl⟩ <;> exact h
  | markClosed =>
    cases hp
    rfl
  | isClosed =>
    cases hp.2
    exact h
  | _ =>
    cases hp
    exact h

/-- Who closes the pool is to empty its queue. -/
theorem Op.PoolLeads.closes {op : Op} {p p' : Pool} {r : op.Answer} (hp : op.PoolLeads p r p') (k : Holding)
    (h : p'.closed = true) : p.closed = true ∨ (k.after op r).closing = true := by
  cases op with
  | put c =>
    rcases hp.put_cases with ⟨rfl, rfl, _, _⟩ | ⟨rfl, rfl⟩ <;> exact .inl h
  | markClosed =>
    cases hp
    cases hclosed : p.closed with
    | true => exact .inl rfl
    | false => exact .inr rfl
  | isClosed =>
    cases hp.2
    exact .inl h
  | _ =>
    cases hp
    exact .inl h

/-- Who is to empty the queue of a pool has closed it, or has done so before. -/
theorem Op.PoolLeads.closing {op : Op} {p p' : Pool} {r : op.Answer} (hp : op.PoolLeads p r p') {k : Holding}
    (h : (k.after op r).closing = true) : k.closing = true ∨ p'.closed = true := by
  cases op with
  | take => cases r <;> exact .inl h
  | dial => cases r <;> exact .inl h
  | put c => cases r <;> exact .inl h
  | markClosed =>
    cases hp
    exact .inr rfl
  | drain => cases h
  | _ => exact .inl h

/-- The queue is emptied only by the step that is to empty it. -/
theorem Holding.closing_after {k : Holding} (op : Op) (r : op.Answer) (h : k.closing = true) :
    op.drains = true ∨ (k.after op r).closing = true := by
  cases op with
  | take => cases r <;> exact .inr h
  | dial => cases r <;> exact .inr h
  | put c => cases r <;> exact .inr h
  | markClosed => cases r <;> first | exact .inr h | exact .inr rfl
  | drain => exact .inl rfl
  | _ => exact .inr h

/-- Nothing comes into the queue of a closed pool. -/
theorem Op.PoolLeads.stays_empty {op : Op} {p p' : Pool} {r : op.Answer} (hp : op.PoolLeads p r p')
    (hclosed : p.closed = true) (hidle : p.idle = []) : p'.idle = [] := by
  cases op with
  | take =>
    cases hp
    show p.idle.tail = []
    rw [hidle]
    rfl
  | put c =>
    rcases hp.put_cases with ⟨_, _, hopen, _⟩ | ⟨rfl, rfl⟩
    · rw [hclosed] at hopen
      cases hopen
    · exact hidle
  | drain =>
    cases hp
    rfl
  | isClosed =>
    cases hp.2
    exact hidle
  | _ =>
    cases hp
    exact hidle

theorem Op.PoolLeads.emptied {op : Op} {p p' : Pool} {r : op.Answer} (hp : op.PoolLeads p r p')
    (h : op.drains = true) : p'.idle = [] := by
  cases op with
  | drain =>
    cases hp
    rfl
  | _ => cases h

/-! ## Calls -/

/-- The law of who works with a pool. -/
def poolLaw : Law Holding where
  allows := Holding.Allows
  leads k op r k' := k' = k.after op r

/-- The calls of a pool. A lease that comes to its end is dropped or discarded; a connection that was never
leased is released. -/
inductive PoolCall where
  | acquire
  | drop (c : Connection)
  | discard (c : Connection)
  | release (c : Connection)
  | prewarm (n : Nat)
  | close
deriving DecidableEq

namespace PoolCall

/-- What a call does; it ends with the connections that it leases out. -/
def program : PoolCall → Program (List Connection)
  | .acquire => do
    match ← Lease.acquire.run with
    | .ok c => return [c]
    | .error _ => return []
  | .drop c | .release c => do
    let _ ← Lease.giveBack c
    return []
  | .discard c => do
    Lease.discard c
    return []
  | .prewarm n => do
    let _ ← Lease.prewarm n
    return []
  | .close => do
    Lease.close
    return []

/-- The connections that a call begins with. -/
def hand : PoolCall → List Connection
  | .drop c | .discard c | .release c => [c]
  | .acquire | .prewarm _ | .close => []

end PoolCall

theorem acquire_holds : Lease.acquire.run.Obeys poolLaw
    (fun
      | .ok c => (· = ⟨[c], false⟩)
      | .error _ => (· = ⟨[], false⟩)) ⟨[], false⟩ := by
  refine .program (.perform trivial fun idle k hk => ?_)
  subst hk
  cases idle with
  | some c => rfl
  | none =>
    refine .program (.perform trivial fun closed k hk => ?_)
    subst hk
    cases closed with
    | true => rfl
    | false =>
      refine .perform trivial fun r k hk => ?_
      subst hk
      cases r <;> rfl

/-- A connection that is given back leaves the hand, whether the pool keeps it or not. -/
theorem giveBack_holds {k : Holding} {c : Connection} (hc : c ∈ k.hand) : (Lease.giveBack c).Obeys poolLaw
    (fun _ => (· = { k with hand := k.hand.erase c })) k := by
  refine .bind (.perform hc fun kept k' hk => ?_)
  subst hk
  cases kept with
  | true => rfl
  | false =>
    refine .bind (.perform hc fun _ k' hk => ?_)
    subst hk
    rfl

theorem prewarm_holds (n : Nat) : (Lease.prewarm n).Obeys poolLaw (fun _ => (· = ⟨[], false⟩)) ⟨[], false⟩ := by
  induction n with
  | zero => rfl
  | succ n ih =>
    refine .bind (.perform trivial fun r k hk => ?_)
    subst hk
    cases r with
    | error e => exact ih
    | ok c =>
      refine .bind ((giveBack_holds List.mem_cons_self).mono fun kept k hk => ?_)
      have hnone : k = ⟨[], false⟩ := by
        rw [hk, Holding.after, List.erase_cons_head]
      subst hnone
      cases kept with
      | true => exact .bind (ih.mono fun _ _ hk => hk)
      | false => rfl

theorem destroyAll_holds (cs : List Connection) :
    (Lease.destroyAll cs).Obeys poolLaw (fun _ => (· = ⟨[], false⟩)) ⟨cs, false⟩ := by
  induction cs with
  | nil => rfl
  | cons c cs ih =>
    refine .bind (.perform List.mem_cons_self fun _ k hk => ?_)
    subst hk
    rw [Holding.after, List.erase_cons_head]
    exact ih

theorem close_holds : Lease.close.Obeys poolLaw (fun _ => (· = ⟨[], false⟩)) ⟨[], false⟩ := by
  refine .bind (.perform trivial fun first k hk => ?_)
  subst hk
  cases first with
  | false => rfl
  | true =>
    refine .bind (.perform rfl fun cs k hk => ?_)
    have hdrained : k = ⟨cs ++ [], false⟩ := hk
    rw [hdrained, List.append_nil]
    exact destroyAll_holds cs

/-- A call obeys the law, and at its end its hand holds what it leases out. -/
theorem PoolCall.obeys (call : PoolCall) :
    call.program.Obeys poolLaw (fun leases => (· = ⟨leases, false⟩)) ⟨call.hand, false⟩ := by
  have hback (c : Connection) : (do let _ ← Lease.giveBack c; return [] : Program (List Connection)).Obeys poolLaw
      (fun leases => (· = ⟨leases, false⟩)) ⟨[c], false⟩ := by
    refine .bind ((giveBack_holds List.mem_cons_self).mono fun _ k hk => ?_)
    rw [hk, List.erase_cons_head]
    rfl
  cases call with
  | acquire =>
    refine .bind (acquire_holds.mono fun r k hk => ?_)
    cases r <;> exact hk
  | drop c => exact hback c
  | release c => exact hback c
  | discard c =>
    refine .bind (.perform List.mem_cons_self fun _ k hk => ?_)
    have hgone : k = ⟨[c].erase c, false⟩ := hk
    rw [hgone, List.erase_cons_head]
    rfl
  | prewarm n => exact .bind ((prewarm_holds n).mono fun _ _ hk => hk)
  | close => exact .bind (close_holds.mono fun _ _ hk => hk)

end EvmClient
