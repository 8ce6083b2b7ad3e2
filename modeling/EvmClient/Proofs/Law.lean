import EvmClient.Lease

/-
Laws that programs obey.

   A law says which steps are allowed in which state, and to which states a step leads, by its answer. A
   program obeys a law from a state on if all its steps are allowed, whatever they are answered, and a
   statement holds in the state at its end. This follows the tree of the program and not a run of it, so it
   serves a run that is cut short, and the steps of one program among those of others, too.

   1. `mono`, `bind`, `perform`, `steady` — the rules for programs.
   2. `action`, `program` — the rules for what an action does first.
   3. `Program.Only`, `Action.Only` — programs whose steps are all of one kind, and `keeps`: such a program obeys a law
      whose states keep something under steps of this kind.
   4. `acquire_steps`, `giveBack_steps` — the steps of a lease, for every law that has nothing to say of them;
      `Action.Only.withConnection` — those of a leased operation. -/
namespace EvmClient

structure Law (κ : Type) where
  allows : κ → Op → Prop
  leads : κ → (op : Op) → op.Answer → κ → Prop

/-- From a state on, a program's steps are allowed, and `post` holds at its end. -/
def Program.Obeys {α κ : Type} (law : Law κ) (post : α → κ → Prop) : Program α → κ → Prop
  | .done a => post a
  | .step op next => fun k => law.allows k op ∧ ∀ r k', law.leads k op r k' → (next r).Obeys law post k'

namespace Program.Obeys
variable {α β κ : Type} {law : Law κ} {post : α → κ → Prop} {k : κ}

theorem mono {post' : α → κ → Prop} {p : Program α} (hp : p.Obeys law post k) (h : ∀ a k, post a k → post' a k) :
    p.Obeys law post' k := by
  induction p generalizing k with
  | done a => exact h a k hp
  | step op next ih => exact ⟨hp.1, fun r k' hr => ih r (hp.2 r k' hr)⟩

theorem bind {post : β → κ → Prop} {p : Program α} {f : α → Program β}
    (hp : p.Obeys law (fun a => (f a).Obeys law post) k) : (p >>= f).Obeys law post k := by
  induction p generalizing k with
  | done a => exact hp
  | step op next ih => exact ⟨hp.1, fun r k' hr => ih r (hp.2 r k' hr)⟩

theorem perform {op : Op} {post : op.Answer → κ → Prop} (hop : law.allows k op)
    (h : ∀ r k', law.leads k op r k' → post r k') : (Program.perform op).Obeys law post k := ⟨hop, h⟩

/-- A step that leads nowhere else. -/
theorem steady {op : Op} {post : op.Answer → κ → Prop} (hsteady : ∀ r k', law.leads k op r k' → k' = k)
    (hop : law.allows k op) (h : ∀ r, post r k) : (Program.perform op).Obeys law post k := by
  refine perform hop fun r k' hr => ?_
  rw [hsteady r k' hr]
  exact h r

/-- What follows an action follows its value; an error is the end. -/
theorem action {post : Except ClientError β → κ → Prop} {a : Action α} {f : α → Action β}
    (ha : a.run.Obeys law (fun | .ok v => (f v).run.Obeys law post | .error e => post (.error e)) k) :
    (a >>= f).run.Obeys law post k := by
  refine bind (ha.mono fun r k hr => ?_)
  cases r with
  | ok v => exact hr
  | error e => exact hr

theorem program {post : Except ClientError β → κ → Prop} {p : Program α} {f : α → Action β}
    (hp : p.Obeys law (fun a => (f a).run.Obeys law post) k) :
    ((liftM p : Action α) >>= f).run.Obeys law post k :=
  action (bind (hp.mono fun _ _ h => h))

end Program.Obeys

/-! ## Steps of one kind -/

/-- The law that allows the steps of one kind, and keeps no state. -/
def kindLaw (kind : Op → Prop) : Law Unit where
  allows _ op := kind op
  leads _ _ _ _ := True

/-- All steps of the program are of one kind. -/
def Program.Only {α : Type} (kind : Op → Prop) (p : Program α) : Prop := p.Obeys (kindLaw kind) (fun _ _ => True) ()

/-- All steps of the action are of one kind. -/
def Action.Only {α : Type} (kind : Op → Prop) (a : Action α) : Prop := a.run.Only kind

namespace Program.Only
variable {α β : Type} {kind : Op → Prop}

theorem perform {op : Op} (h : kind op) : (Program.perform op).Only kind := Obeys.perform h fun _ _ _ => trivial

theorem bind {p : Program α} {f : α → Program β} (hp : p.Only kind) (hf : ∀ v, (f v).Only kind) :
    (p >>= f).Only kind :=
  Obeys.bind (hp.mono fun v _ _ => hf v)

theorem imp {kind' : Op → Prop} {p : Program α} (hp : p.Only kind) (h : ∀ op, kind op → kind' op) : p.Only kind' := by
  induction p with
  | done a => trivial
  | step op next ih => exact ⟨h op hp.1, fun r k _ => ih r (hp.2 r k trivial)⟩

/-- What steps of one kind keep, a program of such steps keeps. -/
theorem keeps {κ : Type} {law : Law κ} {inv : κ → Prop} {k : κ} {p : Program α} (hp : p.Only kind)
    (hkind : ∀ op, kind op → ∀ k, inv k → law.allows k op ∧ ∀ r k', law.leads k op r k' → inv k') (hk : inv k) :
    p.Obeys law (fun _ => inv) k := by
  induction p generalizing k with
  | done a => exact hk
  | step op next ih =>
    obtain ⟨hallows, hleads⟩ := hkind op hp.1 k hk
    exact ⟨hallows, fun r k' hr => ih r (hp.2 r () trivial) (hleads r k' hr)⟩

end Program.Only

namespace Action.Only
variable {α β : Type} {kind : Op → Prop}

theorem pure (v : α) : Only kind (Pure.pure v : Action α) := trivial

theorem throw (e : ClientError) : Only kind (MonadExcept.throw e : Action α) := trivial

theorem except (r : Except ClientError α) : Only kind (liftM r : Action α) := trivial

theorem bind {a : Action α} {f : α → Action β} (ha : Only kind a) (hf : ∀ v, Only kind (f v)) : Only kind (a >>= f) := by
  refine Program.Obeys.action (ha.mono fun r _ _ => ?_)
  cases r with
  | ok v => exact hf v
  | error e => exact trivial

theorem program {p : Program α} (hp : p.Only kind) : Only kind (liftM p : Action α) := hp.bind fun _ => trivial

theorem ite {c : Prop} [Decidable c] {a b : Action α} (ha : Only kind a) (hb : Only kind b) :
    Only kind (if c then a else b) := by
  split
  · exact ha
  · exact hb

theorem ask {c : Connection} {query : Query} (h : kind (.ask c query)) : Only kind (Action.ask c query) := .perform h

theorem outcome {a : Action α} (ha : Only kind a) : Only kind a.outcome := Program.Only.bind ha fun _ => trivial

end Action.Only

/-! ## Leases -/

/-- The steps with which a connection is taken and given back. -/
def Op.OfLease : Op → Prop
  | .take | .isClosed | .dial | .put _ | .destroy _ => True
  | _ => False

theorem acquire_steps : Lease.acquire.Only Op.OfLease := by
  refine .bind (.program (.perform trivial)) fun idle => ?_
  cases idle with
  | some c => exact .pure c
  | none => exact .bind (.program (.perform trivial)) fun closed => .ite (.throw _) (.perform trivial)

theorem giveBack_steps (c : Connection) : (Lease.giveBack c).Only Op.OfLease := by
  refine .bind (.perform trivial) fun kept => ?_
  cases kept with
  | true => exact trivial
  | false => exact .bind (.perform trivial) fun _ => trivial

/-- A leased operation has the steps of its lease and those of its body. -/
theorem Action.Only.withConnection {α : Type} {kind : Op → Prop} {body : Connection → Action α}
    (hlease : ∀ op, op.OfLease → kind op) (hbody : ∀ c, Only kind (body c)) :
    Only kind (Lease.withConnection body) := by
  refine Program.Only.bind (acquire_steps.imp hlease) fun r => ?_
  cases r with
  | error e => exact trivial
  | ok c =>
    refine .bind (hbody c) fun r => ?_
    exact .bind ((giveBack_steps c).imp hlease) fun _ => trivial

end EvmClient
