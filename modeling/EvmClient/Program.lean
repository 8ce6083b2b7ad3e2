import EvmClient.Context
import EvmClient.FailedRecord
import EvmClient.Node

/-
The operations of the client as trees of steps.

   A step is one thing that happens at once: a look into the pool, a question to the node, a pause, a
   write to the store. `Program` is a tree of such steps, each followed by what is done with its answer,
   so one definition serves the run of one operation alone and the interleaved runs of many.
   An `Action` is a program that may end in an error. -/
namespace EvmClient

/-- What a handler made of a transaction: why it failed, if it did, the root cause first, and the
handles that it cancelled on the way. -/
structure Verdict where
  failure? : Option (List String)
  cancels : List Handle
deriving DecidableEq

def Verdict.success : Verdict := ⟨none, []⟩

/-- The text of a failure: the outermost cause first. -/
def Verdict.text (causes : List String) : String := ": ".intercalate causes.reverse

/-- What is done with each transaction of a scan; it may depend on all that was handled before. -/
abbrev Handler := List (Transaction × Block) → Transaction → Block → Verdict

inductive Op where
  /-- Takes an idle connection from the pool. -/
  | take
  | isClosed
  | dial
  /-- Gives a connection back to the pool; answered by whether it was kept. -/
  | put (c : Connection)
  | destroy (c : Connection)
  | markClosed
  | drain
  | ask (c : Connection) (query : Query)
  | time
  | isDone (ctx : Context)
  /-- Waits for a span or until the context is done; answered by whether it is done. -/
  | pause (ctx : Context) (span : Nat)
  /-- Waits for a lock and takes it. -/
  | lock (id : Nat)
  | unlock (id : Nat)
  /-- Answered by the causes of the handler's failure. -/
  | handle (handler : Handler) (tx : Transaction) (block : Block)
  | openStore (path : String)
  | readHeight
  | writeHeight (height : Nat)
  | append (record : FailedRecord)
  | clock

@[reducible] def Op.Answer : Op → Type
  | .take => Option Connection
  | .isClosed | .put _ | .markClosed | .isDone _ | .pause _ _ => Bool
  | .dial => Except ClientError Connection
  | .destroy _ | .lock _ | .unlock _ => Unit
  | .drain => List Connection
  | .ask _ query => Except ClientError query.Answer
  | .time => Nat
  | .handle _ _ _ => Option (List String)
  | .openStore _ | .writeHeight _ | .append _ => Except ClientError Unit
  | .readHeight => Except ClientError Nat
  | .clock => Timestamp

inductive Program (α : Type) where
  | done (a : α)
  | step (op : Op) (next : op.Answer → Program α)

namespace Program
variable {α β : Type}

def bind : Program α → (α → Program β) → Program β
  | .done a, f => f a
  | .step op next, f => .step op fun r => (next r).bind f

instance : Monad Program where
  pure := .done
  bind := bind

/-- One step. -/
def perform (op : Op) : Program op.Answer := .step op .done

theorem bind_done (p : Program α) : p.bind .done = p := by
  induction p with
  | done a => rfl
  | step op next ih => simp only [bind, ih]

theorem bind_bind {γ : Type} (p : Program α) (f : α → Program β) (g : β → Program γ) :
    (p.bind f).bind g = p.bind fun a => (f a).bind g := by
  induction p with
  | done a => rfl
  | step op next ih => simp only [bind, ih]

instance : LawfulMonad Program :=
  LawfulMonad.mk' Program bind_done (fun _ _ => rfl) bind_bind

end Program

/-- A program that ends in a value or an error. -/
abbrev Action := ExceptT ClientError Program

namespace Action
variable {α : Type}

/-- An action's outcome as a value: an error does not end what follows. -/
def outcome (a : Action α) : Action (Except ClientError α) := ExceptT.lift a.run

/-- Asks the node over a connection. -/
def ask (c : Connection) (query : Query) : Action query.Answer := .mk (.perform (.ask c query))

def dial : Action Connection := .mk (.perform .dial)

def openStore (path : String) : Action Unit := .mk (.perform (.openStore path))

def readHeight : Action Nat := .mk (.perform .readHeight)

def writeHeight (height : Nat) : Action Unit := .mk (.perform (.writeHeight height))

end Action
end EvmClient
