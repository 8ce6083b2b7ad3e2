import EvmClient.Proofs.ChainView
import EvmClient.Proofs.Durability
import EvmClient.Proofs.RecordFields

/-
What a node's answer over HTTP is taken for.

   A response has a status and a body. Its status, the shape of its body, the error member, the presence of a result
   and the type of the result are looked at in this order, and the first that is at fault tells how the query failed;
   if none is, the result is the answer. So every response belongs to one class, whatever its body holds, and no two
   classes have one in common. The failures of a submission are apart from those of all other queries, since what was
   submitted may have arrived.

   1. `RpcReply.ofJson?_object_iff`, `RpcReply.errorOf?_object_iff` — the objects that are replies, by their members.
   2. `Query.read_judged`, `Query.Judged.eq_read` — what a result is taken for, by the type of the query.
   3. `Query.classified`, `Query.Classified.eq_result` — every response is in a class, and in no other.
   4. `rpc_answers_classified` — all answers of a node over HTTP. -/
namespace EvmClient

/-! ## Replies -/

namespace RpcReply

theorem codeOf?_eq_some_iff {j : Json} {code : Int} :
    codeOf? j = some code ↔
      j = .number (.integer code) ∧ Int64.minValue.toInt ≤ code ∧ code ≤ Int64.maxValue.toInt := by
  unfold codeOf?
  split
  · rename_i i
    simp only [Option.ite_none_right_eq_some, Option.some.injEq, Json.number.injEq, Json.Number.integer.injEq]
    constructor
    · rintro ⟨hfits, rfl⟩
      exact ⟨rfl, hfits⟩
    · rintro ⟨rfl, hfits⟩
      exact ⟨hfits, rfl⟩
  · rename_i hother
    constructor
    · intro h
      cases h
    · rintro ⟨rfl, -⟩
      exact absurd rfl (hother code)

theorem asString?_eq_some_iff {j : Json} {text : String} : j.asString? = some text ↔ j = .string text := by
  cases j <;> simp [Json.asString?]

/-- An error member is a code of 64 bits and a message, and whatever else it may hold. -/
theorem errorOf?_object_iff {members : List (String × Json)} {code : Int} {reason : String} :
    errorOf? (.object members) = some (code, reason) ↔ Json.Once ["code", "message"] members ∧
      members.lookup "code" = some (.number (.integer code)) ∧ Int64.minValue.toInt ≤ code ∧
      code ≤ Int64.maxValue.toInt ∧ members.lookup "message" = some (.string reason) := by
  have hcode := Json.lookup_filter (by simp : "code" ∈ ["code", "message"]) members
  have hmessage := Json.lookup_filter (by simp : "message" ∈ ["code", "message"]) members
  unfold errorOf?
  simp only [Option.bind_eq_bind, Option.bind_eq_some_iff, Json.fields?_object_eq_some_iff,
    Json.Fields.required_eq_some_iff, codeOf?_eq_some_iff, asString?_eq_some_iff, Option.pure_def, Option.some.injEq,
    Prod.mk.injEq]
  constructor
  · rintro ⟨_, ⟨honce, rfl⟩, _, ⟨_, hfound, rfl, hlow, hhigh⟩, _, ⟨_, hreason, rfl⟩, rfl, rfl⟩
    exact ⟨honce, hcode ▸ hfound, hlow, hhigh, hmessage ▸ hreason⟩
  · rintro ⟨honce, hfound, hlow, hhigh, hreason⟩
    have hread : ∃ j, List.lookup "code" (members.filter fun m => ["code", "message"].contains m.1) = some j ∧
        j = .number (.integer code) ∧ Int64.minValue.toInt ≤ code ∧ code ≤ Int64.maxValue.toInt :=
      ⟨_, hcode.trans hfound, rfl, hlow, hhigh⟩
    exact ⟨_, ⟨honce, rfl⟩, code, hread, reason, ⟨_, hmessage.trans hreason, rfl⟩, rfl, rfl⟩

/-- What a reply says of the two members that count. -/
structure Of (member : String → Option Json) (reply : RpcReply) : Prop where
  result : reply.result? = member "result"
  readable : ∀ j, member "result" = some j → j.isReadable deepest = true
  error : (member "error" = none ∨ member "error" = some .null) ∧ reply.error? = none ∨
    ∃ e cause, member "error" = some e ∧ e ≠ .null ∧ errorOf? e = some cause ∧ reply.error? = some cause

theorem ofJson?_eq_some_iff {j : Json} {reply : RpcReply} :
    ofJson? j = some reply ↔ ∃ f, j.fields? ["result", "error"] = some f ∧ reply.Of (f.found.lookup ·) := by
  unfold ofJson?
  simp only [Option.bind_eq_bind, Option.bind_eq_some_iff]
  constructor
  · rintro ⟨f, hfields, hread⟩
    refine ⟨f, hfields, ?_⟩
    split at hread
    · cases hread
    · rename_i hreadable
      obtain ⟨_, herror, hreply⟩ := Option.bind_eq_some_iff.1 hread
      cases hreply
      refine ⟨rfl, fun j hj => ?_, Json.Fields.optionalOrAbsent_eq_some_iff.1 herror⟩
      rw [hj] at hreadable
      simpa using hreadable
  · rintro ⟨f, hfields, hresult, hreadable, herror⟩
    refine ⟨f, hfields, ?_⟩
    have hany : ¬((f.found.lookup "result").any fun j => !j.isReadable deepest) = true := by
      cases hj : f.found.lookup "result" with
      | none => simp
      | some j => simp [hreadable j hj]
    rw [if_neg hany, Json.Fields.optionalOrAbsent_eq_some_iff.2 herror, ← hresult]
    rfl

/-- An object is a reply if neither member stands twice, the result can be read, and the error is none, or has its code
and its message. -/
theorem ofJson?_object_iff {members : List (String × Json)} {reply : RpcReply} :
    ofJson? (.object members) = some reply ↔
      Json.Once ["result", "error"] members ∧ reply.Of (members.lookup ·) := by
  have hresult := Json.lookup_filter (by simp : "result" ∈ ["result", "error"]) members
  have herror := Json.lookup_filter (by simp : "error" ∈ ["result", "error"]) members
  rw [ofJson?_eq_some_iff]
  constructor
  · rintro ⟨_, hfields, hof⟩
    obtain ⟨honce, rfl⟩ := Json.fields?_object_eq_some_iff.1 hfields
    exact ⟨honce, by rw [hof.result, hresult], fun j hj => hof.readable j (hresult.trans hj), herror ▸ hof.error⟩
  · rintro ⟨honce, hof⟩
    refine ⟨_, Json.fields?_object_eq_some_iff.2 ⟨honce, rfl⟩, ?_⟩
    exact ⟨by rw [hof.result, hresult], fun j hj => hof.readable j (hresult.symm.trans hj), herror.symm ▸ hof.error⟩

theorem ofBody?_utf8 (cs : List Char) : ofBody? (Hex.utf8 cs) = (Json.read? cs).bind ofJson? := by
  rw [ofBody?, fromUTF8?_utf8]
  dsimp only
  rw [String.toList_ofList]
  rfl

end RpcReply

/-! ## Results -/

namespace Query

/-- What stands for a thing that is not there, if the query allows for that. -/
def absent? : (query : Query) → Option query.Answer
  | .receipt _ | .transaction _ | .blockByHeight _ | .blockByHash _ => some none
  | _ => none

/-- A result states a value of the type that the query asks for. -/
def States : (query : Query) → Json → query.Answer → Prop
  | .blockNumber, j, a | .chain, j, a | .pendingNonce _, j, a | .estimateGas _, j, a => Wire.quantity? 64 j = some a
  | .balance _, j, a | .gasPrice, j, a => Wire.quantity? 256 j = some a
  | .call _, j, a | .code _, j, a => ∃ text, j = .string text ∧ Wire.bytesOf text = .ok a
  | .sendRaw _, j, a => Wire.fixed? 32 j = some a
  | .receipt _, j, a => j = .null ∧ a = none ∨ ∃ receipt, Receipt.ofJson? j = some receipt ∧ a = some receipt
  | .transaction _, j, a => j = .null ∧ a = none ∨ ∃ tx, Transaction.ofJson? j = some tx ∧ a = some tx
  | .blockByHeight _, j, a | .blockByHash _, j, a =>
    j = .null ∧ a = none ∨ ∃ block, Block.ofJson? j = some block ∧ a = some block

/-- A text that is asked for as bytes, and is not hexadecimal. -/
def Malformed : Query → Json → Hex.DecodeError → Prop
  | .call _, j, e | .code _, j, e => ∃ text, j = .string text ∧ Wire.bytesOf text = .error e
  | _, _, _ => False

/-- A result of another type states nothing, and is no text where bytes are asked for. -/
def Mistyped (query : Query) (j : Json) : Prop := (∀ a, ¬query.States j a) ∧ ∀ e, ¬query.Malformed j e

/-- What a result is taken for. -/
inductive Judged (query : Query) (j : Json) : Except RpcError query.Answer → Prop where
  | states {a : query.Answer} : query.States j a → Judged query j (.ok a)
  | mistyped : query.Mistyped j → Judged query j (.error (.serialization "the result has another type"))
  | malformed {e : Hex.DecodeError} : query.Malformed j e → Judged query j (.error (.decode e.message))

section Readers
variable {α : Type} {read : Json → Option α} {j : Json} {e : RpcError}

theorem typed_eq_ok_iff {a : α} : typed read j = .ok a ↔ read j = some a := by
  unfold typed
  cases read j <;> simp

theorem typed_error (h : typed read j = .error e) : e = .serialization "the result has another type" := by
  unfold typed at h
  split at h
  · cases h
  · cases h
    rfl

/-- No record is `null`, so what is read from it is that there is none. -/
theorem typedOrNull_eq_ok_iff {o : Option α} (hnull : read .null = none) :
    typedOrNull read j = .ok o ↔ j = .null ∧ o = none ∨ ∃ a, read j = some a ∧ o = some a := by
  unfold typedOrNull typed
  split
  · simp [hnull, eq_comm]
  · rename_i hother
    cases hread : read j with
    | none => simpa [Except.map] using fun h => absurd h hother
    | some a => simpa [Except.map, eq_comm] using fun h => absurd h hother

theorem typedOrNull_error (h : typedOrNull read j = .error e) : e = .serialization "the result has another type" := by
  unfold typedOrNull at h
  split at h
  · cases h
  · cases hread : typed read j with
    | ok a =>
      rw [hread] at h
      cases h
    | error e' =>
      rw [hread] at h
      cases h
      exact typed_error hread

theorem typedBytes_string (text : String) :
    typedBytes (.string text) = (Wire.bytesOf text).mapError fun d => .decode d.message := by
  have htyped : typed Json.asString? (.string text) = .ok text := rfl
  rw [typedBytes, htyped]
  cases hbytes : Wire.bytesOf text <;> simp only [bind, Except.bind, hbytes] <;> rfl

theorem typedBytes_other (h : ∀ text, j ≠ .string text) :
    typedBytes j = .error (.serialization "the result has another type") := by
  cases j with
  | string text => exact absurd rfl (h text)
  | _ => rfl

theorem typedBytes_eq_ok_iff {b : Bytes} :
    typedBytes j = .ok b ↔ ∃ text, j = .string text ∧ Wire.bytesOf text = .ok b := by
  by_cases htext : ∃ text, j = .string text
  · obtain ⟨text, rfl⟩ := htext
    rw [typedBytes_string]
    cases hbytes : Wire.bytesOf text <;> simp [hbytes, Except.mapError]
  · have hother := not_exists.1 htext
    rw [typedBytes_other hother]
    simp [hother]

theorem typedBytes_error (h : typedBytes j = .error e) :
    e = .serialization "the result has another type" ∧ (∀ text, j ≠ .string text) ∨
      ∃ d, (∃ text, j = .string text ∧ Wire.bytesOf text = .error d) ∧ e = .decode d.message := by
  by_cases htext : ∃ text, j = .string text
  · obtain ⟨text, rfl⟩ := htext
    rw [typedBytes_string] at h
    cases hbytes : Wire.bytesOf text with
    | ok b =>
      rw [hbytes] at h
      cases h
    | error d =>
      rw [hbytes] at h
      cases h
      exact .inr ⟨d, ⟨text, rfl, hbytes⟩, rfl⟩
  · have hother := not_exists.1 htext
    rw [typedBytes_other hother] at h
    cases h
    exact .inl ⟨rfl, hother⟩

end Readers

variable {query : Query} {j : Json}

theorem read_eq_ok_iff {a : query.Answer} : query.read j = .ok a ↔ query.States j a := by
  cases query with
  | blockNumber | chain | pendingNonce _ | estimateGas _ | balance _ | gasPrice | sendRaw _ => exact typed_eq_ok_iff
  | receipt _ | transaction _ | blockByHeight _ | blockByHash _ => exact typedOrNull_eq_ok_iff rfl
  | call _ | code _ => exact typedBytes_eq_ok_iff

/-- Only a text that is no bytes is told apart from the other results that state nothing. -/
theorem read_error {e : RpcError} (h : query.read j = .error e) :
    e = .serialization "the result has another type" ∧ (∀ d, ¬query.Malformed j d) ∨
      ∃ d, query.Malformed j d ∧ e = .decode d.message := by
  cases query with
  | blockNumber | chain | pendingNonce _ | estimateGas _ | balance _ | gasPrice | sendRaw _ =>
    exact .inl ⟨typed_error h, fun _ => id⟩
  | receipt _ | transaction _ | blockByHeight _ | blockByHash _ => exact .inl ⟨typedOrNull_error h, fun _ => id⟩
  | call _ | code _ =>
    rcases typedBytes_error h with ⟨rfl, hother⟩ | hd
    · refine .inl ⟨rfl, fun d hd => ?_⟩
      obtain ⟨text, htext, -⟩ := hd
      exact hother text htext
    · exact .inr hd

theorem Malformed.read_eq {d : Hex.DecodeError} (h : query.Malformed j d) :
    query.read j = .error (.decode d.message) := by
  cases query with
  | call _ | code _ =>
    obtain ⟨text, rfl, hd⟩ := h
    show typedBytes (.string text) = _
    rw [typedBytes_string, hd, Except.mapError]
  | _ => exact absurd h id

/-- A result is taken for what reading it gives. -/
theorem read_judged (query : Query) (j : Json) : query.Judged j (query.read j) := by
  cases hread : query.read j with
  | ok a => exact .states (read_eq_ok_iff.1 hread)
  | error e =>
    rcases read_error hread with ⟨rfl, hplain⟩ | ⟨d, hd, rfl⟩
    · refine .mistyped ⟨fun a ha => ?_, hplain⟩
      rw [read_eq_ok_iff.2 ha] at hread
      cases hread
    · exact .malformed hd

/-- And for nothing else. -/
theorem Judged.eq_read {out : Except RpcError query.Answer} (h : query.Judged j out) : query.read j = out := by
  cases h with
  | states ha => exact read_eq_ok_iff.2 ha
  | mistyped hj =>
    -- Reading it gives no value and finds no text at fault, so one error is left.
    cases hread : query.read j with
    | ok a => exact absurd (read_eq_ok_iff.1 hread) (hj.1 a)
    | error e =>
      rcases read_error hread with ⟨rfl, -⟩ | ⟨d, hd, -⟩
      · rfl
      · exact absurd hd (hj.2 d)
  | malformed hd => exact hd.read_eq

end Query

/-! ## Responses -/

namespace HttpResponse

/-- The status tells of no failure. -/
def Succeeds (r : HttpResponse) : Prop := 200 ≤ r.status ∧ r.status < 300

variable {r : HttpResponse}

theorem result_refused (h : ¬r.Succeeds) : r.result = .error (.httpStatus r.status) := if_neg h

theorem result_unreadable (h : r.Succeeds) (hbody : RpcReply.ofBody? r.body = none) :
    r.result = .error (.decode "error decoding response body") := by
  refine (if_pos h).trans ?_
  rw [hbody]

theorem result_reply {reply : RpcReply} (h : r.Succeeds) (hbody : RpcReply.ofBody? r.body = some reply) :
    r.result = reply.result := by
  refine (if_pos h).trans ?_
  rw [hbody]

end HttpResponse

namespace Query

/-- The classes of responses, each with what has to be at fault first, or with the value if nothing is. -/
inductive Classified (query : Query) (r : HttpResponse) : Except RpcError query.Answer → Prop where
  | refused : ¬r.Succeeds → Classified query r (.error (.httpStatus r.status))
  | unreadable : r.Succeeds → RpcReply.ofBody? r.body = none →
    Classified query r (.error (.decode "error decoding response body"))
  | failed {reply : RpcReply} {code : Int} {reason : String} : r.Succeeds → RpcReply.ofBody? r.body = some reply →
    reply.error? = some (code, reason) → Classified query r (.error (.node code reason))
  | missing {reply : RpcReply} : r.Succeeds → RpcReply.ofBody? r.body = some reply → reply.error? = none →
    reply.result? = none → Classified query r (.error .missingResult)
  | judged {reply : RpcReply} {j : Json} {out : Except RpcError query.Answer} : r.Succeeds →
    RpcReply.ofBody? r.body = some reply → reply.error? = none → reply.result? = some j →
    query.Judged j.lastWins out → Classified query r out

/-- What a response gives belongs to a class. -/
theorem classified (query : Query) (r : HttpResponse) : query.Classified r (r.result.bind query.read) := by
  by_cases hstatus : r.Succeeds
  · cases hbody : RpcReply.ofBody? r.body with
    | none =>
      rw [r.result_unreadable hstatus hbody]
      exact .unreadable hstatus hbody
    | some reply =>
      rw [r.result_reply hstatus hbody, RpcReply.result]
      cases herror : reply.error? with
      | some cause => exact .failed hstatus hbody herror
      | none =>
        cases hresult : reply.result? with
        | none => exact .missing hstatus hbody herror hresult
        | some j => exact .judged hstatus hbody herror hresult (query.read_judged j.lastWins)
  · rw [r.result_refused hstatus]
    exact .refused hstatus

/-- And to no other. -/
theorem Classified.eq_result {query : Query} {r : HttpResponse} {out : Except RpcError query.Answer}
    (h : query.Classified r out) : r.result.bind query.read = out := by
  cases h with
  | refused hstatus => rw [r.result_refused hstatus, Except.bind]
  | unreadable hstatus hbody => rw [r.result_unreadable hstatus hbody, Except.bind]
  | failed hstatus hbody herror => rw [r.result_reply hstatus hbody, RpcReply.result, herror, Except.bind]
  | missing hstatus hbody herror hresult =>
    rw [r.result_reply hstatus hbody, RpcReply.result, herror, hresult, Except.bind]
  | judged hstatus hbody herror hresult hj =>
    rw [r.result_reply hstatus hbody, RpcReply.result, herror, hresult, Except.bind, hj.eq_read]

theorem answer_ok (query : Query) (r : HttpResponse) :
    query.answer (.ok r) = (r.result.bind query.read).mapError query.failure := by
  unfold answer
  dsimp only
  cases r.result.bind query.read <;> rfl

/-- What is absent is told by `null`, and by nothing else. -/
theorem states_absent_iff {query : Query} {j : Json} {a : query.Answer} (h : query.absent? = some a) :
    query.States j a ↔ j = .null := by
  cases query with
  | receipt _ | transaction _ | blockByHeight _ | blockByHash _ =>
    cases h
    simp [States]
  | _ => cases h

/-- For all other queries `null` has the wrong type. -/
theorem mistyped_null {query : Query} (h : query.absent? = none) : query.Mistyped .null := by
  cases query with
  | receipt _ | transaction _ | blockByHeight _ | blockByHash _ => cases h
  | _ => exact ⟨by simp [States, Wire.quantity?, Wire.fixed?], by simp [Malformed]⟩

theorem failure_other {query : Query} (h : ∀ raw, query ≠ .sendRaw raw) (cause : RpcError) :
    query.failure cause = .rpc cause := by
  cases query with
  | sendRaw raw => exact absurd rfl (h raw)
  | _ => rfl

end Query

/-! ## Nodes -/

namespace HttpNode
variable {κ : Type} [Link κ] {n : HttpNode κ}

/-- What comes back over a connection for a query. -/
def response (n : HttpNode κ) (query : Query) (c : Connection) : Except LinkFailure HttpResponse :=
  (Link.post n.endpoint (query.request (n.nextIds.getD c 1)) n.link).1

/-- A connection is made only where the question that it begins with was answered. -/
theorem dial_ok {c : Connection} (h : n.dial.1 = .ok c) :
    ∃ chain, Query.chain.answer (n.newConnection.2.response .chain c) = .ok chain := by
  unfold dial at h
  dsimp only at h
  split at h
  · cases h
  · split at h
    · cases h
    · split at h
      · rename_i chain hchain
        cases h
        exact ⟨chain, hchain⟩
      · cases h

end HttpNode

/-- Every answer of a node over HTTP is what its response is taken for. -/
theorem rpc_answers_classified :
    (∀ (query : Query) (r : HttpResponse), ∃ out, query.Classified r out ∧
      (∀ other, query.Classified r other → other = out) ∧ query.answer (.ok r) = out.mapError query.failure) ∧
    (∀ cs members reply, Json.read? cs = some (.object members) →
      (RpcReply.ofBody? (Hex.utf8 cs) = some reply ↔
        Json.Once ["result", "error"] members ∧ reply.Of (members.lookup ·))) ∧
    (∀ (query : Query) (j : Json) (a : query.Answer), query.absent? = some a → (query.States j a ↔ j = .null)) ∧
    (∀ query : Query, query.absent? = none → query.Mistyped .null) ∧
    (∀ raw response e, (Query.sendRaw raw).answer response = .error e →
      (∃ cause, e = .submit cause) ∧ e.isRetryable = false) ∧
    (∀ (query : Query) response e, (∀ raw, query ≠ .sendRaw raw) → query.answer response = .error e →
      ∃ cause, e = .rpc cause) ∧
    ∀ (κ : Type) [Link κ] (n : HttpNode κ),
      (∀ query c, (Node.ask query c n).1 = query.answer (n.response query c)) ∧
      (∀ c, (Node.dial n).1 = .ok c → ∃ chain, Query.chain.answer (n.newConnection.2.response .chain c) = .ok chain) ∧
      ∀ e, (Node.dial n).1 = .error e → ∃ reason, e = .dialFailed reason := by
  refine ⟨fun query r => ?_, fun cs members reply hread => ?_, fun query j a => Query.states_absent_iff,
    fun query => Query.mistyped_null, fun raw response e h => ?_, fun query response e hquery h => ?_,
    fun κ _ n => ⟨fun query c => rfl, fun c => HttpNode.dial_ok, fun e => HttpNode.dial_error⟩⟩
  · exact ⟨_, query.classified r, fun other h => h.eq_result.symm, query.answer_ok r⟩
  · rw [RpcReply.ofBody?_utf8, hread, Option.bind_some, RpcReply.ofJson?_object_iff]
  · obtain ⟨cause, rfl⟩ := Query.answer_error h
    exact ⟨⟨cause, rfl⟩, rfl⟩
  · obtain ⟨cause, rfl⟩ := Query.answer_error h
    exact ⟨cause, Query.failure_other hquery cause⟩

def tooLow : Json := .object [("code", .number (.integer (-32000))), ("message", .string "nonce too low")]

/-- A reply with an error and a result. -/
def refusal : List (String × Json) := [("result", .null), ("error", tooLow)]

/-- A submission that is answered with both has failed, and is not tried again. -/
theorem rpc_answers_classified_refusal :
    (Query.sendRaw []).answer (.ok ⟨200, Hex.utf8 (Json.object refusal).write⟩) =
        .error (.submit (.node (-32000) "nonce too low")) ∧
      (ClientError.submit (.node (-32000) "nonce too low")).isRetryable = false := by
  obtain ⟨hclasses, hreplies, -, -, hsubmits, -⟩ := rpc_answers_classified
  obtain ⟨out, -, hunique, hanswer⟩ := hclasses (.sendRaw []) ⟨200, Hex.utf8 (Json.object refusal).write⟩
  have hread : Json.read? (Json.object refusal).write = some (.object refusal) :=
    Json.read?_write ⟨trivial, ⟨⟨by decide, by decide⟩, trivial, trivial⟩, trivial⟩
  have herror : RpcReply.errorOf? tooLow = some (-32000, "nonce too low") :=
    RpcReply.errorOf?_object_iff.2 ⟨by decide, rfl, by decide, by decide, rfl⟩
  have hbody : RpcReply.ofBody? (Hex.utf8 (Json.object refusal).write) =
      some ⟨some .null, some (-32000, "nonce too low")⟩ := by
    refine (hreplies _ _ _ hread).2 ⟨by decide, rfl, fun j hj => ?_, .inr ⟨_, _, rfl, by simp [tooLow], herror, rfl⟩⟩
    cases hj
    rfl
  rw [← hunique _ (.failed ⟨by decide, by decide⟩ hbody rfl)] at hanswer
  exact ⟨hanswer, (hsubmits [] _ _ hanswer).2⟩

end EvmClient
