import EvmClient.Proofs.Law
import EvmClient.World

/-
What a run asks the node, and what it is answered.

   A run leaves no list of its questions behind, so `Program.exchanges` goes along the run and lists them with
   their answers. `askLaw` is about programs that do nothing but ask over one connection. Its state is the list
   up to here; it says which answers there may be, in view of what was asked before.

   1. `Program.answered` — each answer of the list was given by the node.
   2. `Obeys.exchanged` — what the law says of a program holds of its run and the list. -/
namespace EvmClient

/-- A question with its answer. -/
abbrev Exchange := (query : Query) × Except ClientError query.Answer

/-- The question that a step is, with its answer. -/
def Op.exchange? : (op : Op) → op.Answer → Option Exchange
  | .ask _ query, r => some ⟨query, r⟩
  | _, _ => none

/-- What answers there may be, after what was asked. -/
abbrev Fitting := List Exchange → (query : Query) → Except ClientError query.Answer → Prop

def Op.IsAsk (c : Connection) : Op → Prop
  | .ask c' _ => c' = c
  | _ => False

/-- A fitting answer is added to the list. -/
def Op.Tells (fits : Fitting) (told : List Exchange) : (op : Op) → op.Answer → List Exchange → Prop
  | .ask _ query, r, told' => fits told query r ∧ told' = told ++ [⟨query, r⟩]
  | _, _, told' => told' = told

/-- The law of who asks over one connection. -/
def askLaw (c : Connection) (fits : Fitting) : Law (List Exchange) where
  allows _ op := op.IsAsk c
  leads told op r told' := op.Tells fits told r told'

section Runs
variable {α ν σ : Type} [Node ν] [CheckpointStore σ]

/-- The questions of a run with their answers. -/
def Program.exchanges : Program α → World ν σ → List Exchange
  | .done _, _ => []
  | .step op next, w => (op.exchange? (w.perform op).1).toList ++ (next (w.perform op).1).exchanges (w.perform op).2

/-- Each answer of the list is one that the node gave. -/
theorem Program.answered {p : Program α} {w : World ν σ} {x : Exchange} (hx : x ∈ p.exchanges w) :
    ∃ (c : Connection) (n : ν), x.2 = (Node.ask x.1 c n).1 := by
  induction p generalizing w with
  | done a => cases hx
  | step op next ih =>
    rcases List.mem_append.1 hx with hnow | hlater
    · cases op with
      | ask c query =>
        obtain rfl := List.mem_singleton.1 hnow
        exact ⟨c, w.node, rfl⟩
      | _ => cases hnow
    · exact ih _ hlater

/-- Over this connection the node gives fitting answers, after what was asked and from then on. -/
def Node.Gives (c : Connection) (fits : Fitting) (told : List Exchange) (n : ν) : Prop :=
  ∃ keeps : List Exchange → ν → Prop, keeps told n ∧ ∀ told n, keeps told n → ∀ query,
    fits told query (Node.ask query c n).1 ∧ keeps (told ++ [⟨query, (Node.ask query c n).1⟩]) (Node.ask query c n).2

theorem Node.Gives.ask {c : Connection} {fits : Fitting} {told : List Exchange} {n : ν} (h : Node.Gives c fits told n)
    (query : Query) : fits told query (Node.ask query c n).1 ∧
      Node.Gives c fits (told ++ [⟨query, (Node.ask query c n).1⟩]) (Node.ask query c n).2 := by
  obtain ⟨keeps, hnow, hkeeps⟩ := h
  exact ⟨(hkeeps told n hnow query).1, keeps, (hkeeps told n hnow query).2, hkeeps⟩

/-- Every node gives some answers. -/
theorem Node.gives_any (c : Connection) (told : List Exchange) (n : ν) : Node.Gives c (fun _ _ _ => True) told n :=
  ⟨fun _ _ => True, trivial, fun _ _ _ _ => ⟨trivial, trivial⟩⟩

/-- What the law says of a program holds of its run, with the list of what was asked and answered. -/
theorem Program.Obeys.exchanged {p : Program α} {c : Connection} {fits : Fitting} {post : α → List Exchange → Prop}
    {told : List Exchange} (hp : p.Obeys (askLaw c fits) post told) {w : World ν σ} (hw : Node.Gives c fits told w.node) :
    post (p.run w).1 (told ++ p.exchanges w) := by
  induction p generalizing told w with
  | done a =>
    have hend : post a told := hp
    rw [Program.exchanges, List.append_nil]
    exact hend
  | step op next ih =>
    obtain ⟨hop, hnext⟩ := hp
    cases op with
    | ask c' query =>
      obtain rfl : c' = c := hop
      obtain ⟨hfits, hrest⟩ := hw.ask query
      have hpost := ih _ (hnext _ _ ⟨hfits, rfl⟩) (w := (w.perform (.ask c' query)).2) hrest
      rw [List.append_assoc] at hpost
      exact hpost
    | _ => exact absurd hop id

end Runs
end EvmClient
