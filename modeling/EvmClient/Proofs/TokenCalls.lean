import EvmClient.Token

/-
Call data and numeric answers of token contracts are exact.

   A call is a selector of four bytes and a word of 32 bytes for each argument. A word is the big-endian form of a
   number; the word of an address is that of the number of its bytes. All words have one width and all selectors
   another, so nothing runs together, and no two calls have the same bytes. A numeric answer is read exactly if it is
   the word of a number that its type has room for.

   1. `addressWord_eq` — the word of an address is the word of its number.
   2. `TokenCall.encode_eq` — the bytes of a call.
   3. `TokenCall.encode_injective` — no two calls have the same.
   4. `decodeBalanceOf_eq_ok_iff`, `decodeDecimals_eq_ok_iff` — the answers that are read.
   5. `token_calls_exact` — the calls and the answers together. -/
namespace EvmClient

/-! ## Words -/

namespace Bytes

theorem toNat_zeros (k : Nat) (b : Bytes) : toNat (List.replicate k 0 ++ b) = toNat b := by
  induction k with
  | zero => rfl
  | succ k ih =>
    rw [List.replicate_succ, List.cons_append, toNat_cons, ih]
    simp

/-- A byte string is the fixed-width form of one number, and this number has room in the width. -/
theorem eq_ofNat_iff {len n : Nat} {b : Bytes} (h : n < capacity len) :
    b = ofNat len n ↔ b.length = len ∧ toNat b = n := by
  constructor
  · rintro rfl
    exact ⟨length_ofNat len n, toNat_ofNat len n h⟩
  · rintro ⟨rfl, rfl⟩
    exact (ofNat_toNat b).symm

theorem ofNat_injective {len m n : Nat} (hm : m < capacity len) (hn : n < capacity len)
    (h : ofNat len m = ofNat len n) : m = n := by
  rw [← toNat_ofNat len m hm, h, toNat_ofNat len n hn]

end Bytes

theorem FixedBytes.toNat_lt {n : Nat} (b : FixedBytes n) : b.toNat < Bytes.capacity n := by
  have h := Bytes.toNat_lt b.toList
  rwa [b.length_eq] at h

theorem FixedBytes.toNat_injective {n : Nat} {a b : FixedBytes n} (h : a.toNat = b.toNat) : a = b := by
  rw [← ofNat_toNat a, h, ofNat_toNat]

theorem Address.toNat_lt_word (a : Address) : a.toNat < Bytes.capacity 32 :=
  Nat.lt_trans a.toNat_lt (by decide)

theorem Word256.toNat_lt_word (v : Word256) : v.toNat < Bytes.capacity 32 := v.isLt

namespace Token

/-- Zeros in front of its bytes make the word of an address that of its number. -/
theorem addressWord_eq (a : Address) : addressWord a = Bytes.ofNat 32 a.toNat := by
  refine (Bytes.eq_ofNat_iff a.toNat_lt_word).2 ⟨?_, Bytes.toNat_zeros 12 a.toList⟩
  rw [addressWord, List.length_append, List.length_replicate, a.length_eq]

end Token

/-! ## Calls -/

/-- The functions of a token contract that are called, with their arguments. -/
inductive TokenCall where
  | transfer (payee : Address) (amount : Word256)
  | balanceOf (owner : Address)
  | decimals
  | symbol
deriving DecidableEq

namespace TokenCall
open Token

def encode : TokenCall → Bytes
  | .transfer payee amount => encodeTransfer payee amount
  | .balanceOf owner => encodeBalanceOf owner
  | .decimals => encodeDecimals
  | .symbol => encodeSymbol

def selector : TokenCall → Bytes
  | .transfer _ _ => transferSelector
  | .balanceOf _ => balanceSelector
  | .decimals => decimalsSelector
  | .symbol => symbolSelector

/-- The numbers of the arguments. -/
def arguments : TokenCall → List Nat
  | .transfer payee amount => [payee.toNat, amount.toNat]
  | .balanceOf owner => [owner.toNat]
  | .decimals | .symbol => []

/-- A call is its selector and a word for each argument. -/
theorem encode_eq (call : TokenCall) : call.encode = call.selector ++ call.arguments.flatMap (Bytes.ofNat 32) := by
  cases call with
  | transfer payee amount =>
    simp [encode, encodeTransfer, selector, arguments, addressWord_eq, numberWord]
  | balanceOf owner => simp [encode, encodeBalanceOf, selector, arguments, addressWord_eq]
  | decimals => rfl
  | symbol => rfl

theorem length_selector (call : TokenCall) : call.selector.length = 4 := by
  cases call <;> rfl

/-- All words have one width, so words that stand behind one another are told apart. -/
theorem words_injective {ms ns : List Nat} (hlength : ms.length = ns.length)
    (hms : ∀ m ∈ ms, m < Bytes.capacity 32) (hns : ∀ n ∈ ns, n < Bytes.capacity 32)
    (h : ms.flatMap (Bytes.ofNat 32) = ns.flatMap (Bytes.ofNat 32)) : ms = ns := by
  induction ms generalizing ns with
  | nil => exact (List.eq_nil_of_length_eq_zero hlength.symm).symm
  | cons m ms ih =>
    cases ns with
    | nil => cases hlength
    | cons n ns =>
      obtain ⟨hm, hms⟩ := List.forall_mem_cons.1 hms
      obtain ⟨hn, hns⟩ := List.forall_mem_cons.1 hns
      have hwidth : (Bytes.ofNat 32 m).length = (Bytes.ofNat 32 n).length := by
        rw [Bytes.length_ofNat, Bytes.length_ofNat]
      obtain ⟨hword, hrest⟩ := List.append_inj h hwidth
      rw [Bytes.ofNat_injective hm hn hword, ih (Nat.succ.inj hlength) hms hns hrest]

theorem arguments_lt (call : TokenCall) : ∀ n ∈ call.arguments, n < Bytes.capacity 32 := by
  cases call with
  | transfer payee amount =>
    exact List.forall_mem_cons.2 ⟨payee.toNat_lt_word, List.forall_mem_singleton.2 amount.toNat_lt_word⟩
  | balanceOf owner => exact List.forall_mem_singleton.2 owner.toNat_lt_word
  | decimals => exact List.forall_mem_nil _
  | symbol => exact List.forall_mem_nil _

/-- No two calls have the same bytes. -/
theorem encode_injective {a b : TokenCall} (h : a.encode = b.encode) : a = b := by
  rw [encode_eq, encode_eq] at h
  obtain ⟨hselector, hwords⟩ := List.append_inj h (by rw [length_selector, length_selector])
  have hsame : a.arguments.length = b.arguments.length → a.arguments = b.arguments := fun hlength =>
    words_injective hlength a.arguments_lt b.arguments_lt hwords
  -- The selectors tell the functions apart, and then the words tell the arguments.
  cases a with
  | transfer payee amount =>
    cases b with
    | transfer payee' amount' =>
      have harguments : payee.toNat = payee'.toNat ∧ amount.toNat = amount'.toNat := by
        simpa [arguments] using hsame rfl
      rw [FixedBytes.toNat_injective harguments.1, BitVec.eq_of_toNat_eq harguments.2]
    | _ => cases hselector
  | balanceOf owner =>
    cases b with
    | balanceOf owner' =>
      have hargument : owner.toNat = owner'.toNat := by simpa [arguments] using hsame rfl
      rw [FixedBytes.toNat_injective hargument]
    | _ => cases hselector
  | decimals =>
    cases b with
    | decimals => rfl
    | _ => cases hselector
  | symbol =>
    cases b with
    | symbol => rfl
    | _ => cases hselector

end TokenCall

/-! ## Answers -/

namespace Token

theorem word?_eq_some_iff {data : Bytes} {n : Nat} :
    word? data = some n ↔ n < Bytes.capacity 32 ∧ data = Bytes.ofNat 32 n := by
  unfold word?
  constructor
  · intro h
    split at h
    · rename_i hlength
      cases h
      have hlt := Bytes.toNat_lt data
      have hword := Bytes.ofNat_toNat data
      rw [hlength] at hlt hword
      exact ⟨hlt, hword.symm⟩
    · cases h
  · rintro ⟨hlt, hdata⟩
    obtain ⟨hlength, hnumber⟩ := (Bytes.eq_ofNat_iff hlt).1 hdata
    rw [if_pos hlength, hnumber]

theorem decodeBalanceOf_eq_ok_iff {data : Bytes} {v : Word256} :
    decodeBalanceOf data = .ok v ↔ data = Bytes.ofNat 32 v.toNat := by
  unfold decodeBalanceOf
  constructor
  · intro h
    split at h
    · rename_i n hword
      cases h
      obtain ⟨hlt, hdata⟩ := word?_eq_some_iff.1 hword
      have hroom : n < 2 ^ 256 := hlt
      rw [BitVec.toNat_ofNat, Nat.mod_eq_of_lt hroom]
      exact hdata
    · cases h
  · intro h
    rw [word?_eq_some_iff.2 ⟨v.toNat_lt_word, h⟩]
    dsimp only
    rw [BitVec.ofNat_toNat, BitVec.setWidth_eq]

theorem decodeDecimals_eq_ok_iff {data : Bytes} {n : Nat} :
    decodeDecimals data = .ok n ↔ data = Bytes.ofNat 32 n ∧ n < 256 := by
  unfold decodeDecimals
  constructor
  · intro h
    split at h
    · rename_i m hword
      split at h
      · rename_i hlt
        cases h
        exact ⟨(word?_eq_some_iff.1 hword).2, hlt⟩
      · cases h
    · cases h
  · rintro ⟨hdata, hlt⟩
    have hroom : n < Bytes.capacity 32 := Nat.lt_trans hlt (by decide)
    rw [word?_eq_some_iff.2 ⟨hroom, hdata⟩]
    exact if_pos hlt

theorem decodeBalanceOf_error {data : Bytes} {e : ClientError} (h : decodeBalanceOf data = .error e) :
    ∃ reason, e = .abi reason := by
  unfold decodeBalanceOf at h
  split at h
  · cases h
  · cases h
    exact ⟨_, rfl⟩

theorem decodeDecimals_error {data : Bytes} {e : ClientError} (h : decodeDecimals data = .error e) :
    ∃ reason, e = .abi reason := by
  unfold decodeDecimals at h
  split at h
  · split at h
    · cases h
    · cases h
      exact ⟨_, rfl⟩
  · cases h
    exact ⟨_, rfl⟩

end Token

open Token

/-- The bytes of a call are its selector and the words of its arguments, and those of no other call; an answer is read
exactly if it is the word of a number of its type, as this number. -/
theorem token_calls_exact :
    (∀ payee amount, encodeTransfer payee amount =
      [0xa9, 0x05, 0x9c, 0xbb] ++ Bytes.ofNat 32 payee.toNat ++ Bytes.ofNat 32 amount.toNat) ∧
    (∀ owner, encodeBalanceOf owner = [0x70, 0xa0, 0x82, 0x31] ++ Bytes.ofNat 32 owner.toNat) ∧
    (∀ a b : TokenCall, a.encode = b.encode → a = b) ∧
    (∀ data v, decodeBalanceOf data = .ok v ↔ data = Bytes.ofNat 32 v.toNat) ∧
    (∀ data, (∀ v : Word256, data ≠ Bytes.ofNat 32 v.toNat) → ∃ reason, decodeBalanceOf data = .error (.abi reason)) ∧
    (∀ data n, decodeDecimals data = .ok n ↔ data = Bytes.ofNat 32 n ∧ n < 256) ∧
    ∀ data, (∀ n < 256, data ≠ Bytes.ofNat 32 n) → ∃ reason, decodeDecimals data = .error (.abi reason) := by
  refine ⟨fun payee amount => ?_, fun owner => ?_, fun a b => TokenCall.encode_injective,
    fun data v => decodeBalanceOf_eq_ok_iff, fun data hdata => ?_, fun data n => decodeDecimals_eq_ok_iff,
    fun data hdata => ?_⟩
  · rw [encodeTransfer, addressWord_eq]
    rfl
  · rw [encodeBalanceOf, addressWord_eq]
    rfl
  · cases hread : decodeBalanceOf data with
    | ok v => exact absurd (decodeBalanceOf_eq_ok_iff.1 hread) (hdata v)
    | error e =>
      obtain ⟨reason, rfl⟩ := decodeBalanceOf_error hread
      exact ⟨reason, rfl⟩
  · cases hread : decodeDecimals data with
    | ok n =>
      obtain ⟨hword, hlt⟩ := decodeDecimals_eq_ok_iff.1 hread
      exact absurd hword (hdata n hlt)
    | error e =>
      obtain ⟨reason, rfl⟩ := decodeDecimals_error hread
      exact ⟨reason, rfl⟩

/-- A word that is one too great for decimals, and one with a byte behind it, are refused. -/
theorem token_calls_exact_refusals :
    (∃ reason, decodeDecimals (Bytes.ofNat 32 256) = .error (.abi reason)) ∧
      ∃ reason, decodeBalanceOf (Bytes.ofNat 32 1000 ++ [0]) = .error (.abi reason) := by
  obtain ⟨-, -, -, -, hbalance, -, hdecimals⟩ := token_calls_exact
  have hroom : (256 : Nat) < Bytes.capacity 32 := by decide
  refine ⟨hdecimals _ fun n hn h => ?_, hbalance _ fun v h => ?_⟩
  · have hsame := Bytes.ofNat_injective hroom (Nat.lt_trans hn hroom) h
    omega
  · have hlength := congrArg List.length h
    rw [List.length_append, Bytes.length_ofNat, Bytes.length_ofNat] at hlength
    cases hlength

end EvmClient
