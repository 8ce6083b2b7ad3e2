import EvmClient.Proofs.RawForms

/-
What a signature covers.

   Three kinds of byte strings are hashed and signed: the fields of a legacy transaction with the chain that it
   is meant for, the same fields alone, and the nine fields of a dynamic-fee transaction behind its type byte.
   An item ends where it says that it ends, so fields that follow one another are told apart one by one, and
   no byte string is a payload in two ways.

   1. `header_append_inj`, `string_append_inj`, `list_append_inj` — where an item ends does not depend on what
      stands behind it.
   2. `chainPayload_inj`, `plainPayload_inj`, `DynamicFee.payload_inj` — each payload determines its fields.
   3. `payload_eq_iff` — two payloads of any kinds are equal only if one and the same thing is signed.

   A header gives eight bytes to a size. Legacy payloads are told apart whatever the size of their data is, since
   little stands behind the data; the access list that stands behind those of a dynamic-fee transaction has any
   size, so there the payload has to have a size of 64 bits. -/
namespace EvmClient

namespace Bytes

/-- The fixed-width form keeps a number up to its capacity. -/
theorem toNat_ofNat_mod (len n : Nat) : toNat (ofNat len n) = n % capacity len := by
  induction len generalizing n with
  | zero => simp [ofNat, toNat, Nat.mod_one]
  | succ len ih =>
    have hlast : toNat [UInt8.ofNat n] = n % 256 := by simp [toNat]
    calc toNat (ofNat (len + 1) n) = toNat (ofNat len (n / 256)) * 256 + n % 256 := by
          rw [ofNat, toNat_append, hlast, List.length_singleton, capacity_succ, capacity_zero, Nat.one_mul]
      _ = n / 256 % capacity len * 256 + n % 256 := by rw [ih]
      _ = n % (256 * capacity len) := by rw [Nat.mod_mul, Nat.mul_comm 256, Nat.add_comm]
      _ = n % capacity (len + 1) := by rw [capacity_succ, Nat.mul_comm]

theorem toNat_minimal_mod (len n : Nat) : toNat (minimal len n) = n % capacity len := by
  rw [minimal, toNat_stripZeros, toNat_ofNat_mod]

theorem minimal_inj {len m n : Nat} (hm : m < capacity len) (hn : n < capacity len)
    (h : minimal len m = minimal len n) : m = n := by
  have hnat := congrArg toNat h
  rwa [toNat_minimal len m hm, toNat_minimal len n hn] at hnat

end Bytes

namespace Rlp

/-! ## Where an item ends -/

/-- A header is its first byte, which says how many bytes follow it, and those bytes of the size. -/
theorem header_parts (mark len : Nat) : ∃ tag size, header mark len = UInt8.ofNat (mark + tag) :: size ∧
    tag ≤ 63 ∧ size.length = tag - 55 ∧
      (len ≤ 55 ∧ tag = len ∨ 55 < len ∧ tag = 55 + size.length ∧ size = Bytes.minimal 8 len) := by
  have hsize := Bytes.length_minimal_le 8 len
  unfold header
  split
  · rename_i hshort
    exact ⟨len, [], rfl, by omega, by simp; omega, .inl ⟨hshort, rfl⟩⟩
  · rename_i hlong
    exact ⟨55 + (Bytes.minimal 8 len).length, Bytes.minimal 8 len, congrArg (UInt8.ofNat · :: _) (Nat.add_assoc _ _ _),
      by omega, by omega, .inr ⟨by omega, rfl, rfl⟩⟩

theorem tag_inj {mark s t : Nat} (hm : IsMark mark) (hs : s ≤ 63) (ht : t ≤ 63)
    (h : UInt8.ofNat (mark + s) = UInt8.ofNat (mark + t)) : s = t := by
  have hnat := congrArg UInt8.toNat h
  rw [UInt8.toNat_ofNat', UInt8.toNat_ofNat'] at hnat
  rcases hm with rfl | rfl <;> omega

/-- Where a header ends does not depend on what stands behind it. -/
theorem header_append_inj {mark a b : Nat} (hm : IsMark mark) {x y : Bytes}
    (h : header mark a ++ x = header mark b ++ y) : header mark a = header mark b ∧ x = y := by
  obtain ⟨s, sa, ha, hs, hsa, -⟩ := header_parts mark a
  obtain ⟨t, sb, hb, ht, hsb, -⟩ := header_parts mark b
  apply List.append_inj h
  rw [ha, hb, List.cons_append, List.cons_append, List.cons.injEq] at h
  have htag := tag_inj hm hs ht h.1
  rw [ha, hb, List.length_cons, List.length_cons, hsa, hsb, htag]

/-- The size in a header has eight bytes, so two sizes with one header are equal or far apart. -/
theorem header_inj {mark a b : Nat} (hm : IsMark mark) (h : header mark a = header mark b) :
    a = b ∨ UInt64.size ≤ b ∧ a + UInt64.size ≤ b + 55 ∨ UInt64.size ≤ a ∧ b + UInt64.size ≤ a + 55 := by
  obtain ⟨s, sa, ha, hs, hsa, hca⟩ := header_parts mark a
  obtain ⟨t, sb, hb, ht, hsb, hcb⟩ := header_parts mark b
  rw [ha, hb, List.cons.injEq] at h
  obtain ⟨htag, hsize⟩ := h
  have htag := tag_inj hm hs ht htag
  have hmod : ∀ n, Bytes.toNat (Bytes.minimal 8 n) = n % 18446744073709551616 := Bytes.toNat_minimal_mod 8
  have hza := hmod a
  have hzb := hmod b
  have hempty : Bytes.toNat [] = 0 := rfl
  have hpow : UInt64.size = 18446744073709551616 := rfl
  rcases hca with ⟨hca, rfl⟩ | ⟨hca, hta, rfl⟩
  · rcases hcb with ⟨hcb, rfl⟩ | ⟨hcb, htb, rfl⟩
    · exact .inl htag
    · -- No byte of the long size is written, so it is a multiple of the eight bytes' capacity.
      have hnil : Bytes.minimal 8 b = [] := List.eq_nil_of_length_eq_zero (by omega)
      rw [hnil, hempty] at hzb
      omega
  · rcases hcb with ⟨hcb, rfl⟩ | ⟨hcb, htb, rfl⟩
    · have hnil : Bytes.minimal 8 a = [] := List.eq_nil_of_length_eq_zero (by omega)
      rw [hnil, hempty] at hza
      omega
    · rw [hsize, hzb] at hza
      omega

/-- A written list determines the bytes of its entries. -/
theorem list_append_inj {l m : List Bytes} {x y : Bytes} (hl : l.flatten.length < UInt64.size)
    (hm : m.flatten.length < UInt64.size) (h : list l ++ x = list m ++ y) : l.flatten = m.flatten ∧ x = y := by
  rw [list, list, List.append_assoc, List.append_assoc] at h
  obtain ⟨hheader, h⟩ := header_append_inj (.inr rfl) h
  apply List.append_inj h
  rcases header_inj (.inr rfl) hheader with heq | ⟨hfar, -⟩ | ⟨hfar, -⟩ <;> omega

theorem list_inj {l m : List Bytes} (h : list l = list m) : l.flatten = m.flatten :=
  (header_append_inj (.inr rfl) h).2

/-- Two strings that are short, or behind which little stands. -/
def Near (a b x y : Bytes) : Prop :=
  (a.length < UInt64.size ∧ b.length < UInt64.size) ∨ (x.length + 55 < UInt64.size ∧ y.length + 55 < UInt64.size)

/-- Where a string ends does not depend on what stands behind it. -/
theorem string_append_inj {a b x y : Bytes} (hnear : Near a b x y) (h : string a ++ x = string b ++ y) :
    a = b ∧ x = y := by
  have hfirst : ∀ (c : Bytes) (z : UInt8), z.toNat < 0x80 → ∀ u v, header 0x80 c.length ++ u ≠ z :: v := by
    intro c z hz u v heq
    obtain ⟨w, rest, hw, hle, -⟩ := header_cons (.inl rfl : IsMark 0x80) c.length
    rw [hw, List.cons_append, List.cons.injEq] at heq
    rw [heq.1] at hle
    omega
  obtain ⟨u, hu, rfl, hsa⟩ | ⟨-, hsa⟩ := string_cases a
  · obtain ⟨v, hv, rfl, hsb⟩ | ⟨-, hsb⟩ := string_cases b
    · rw [hsa, hsb] at h
      exact List.append_inj h rfl
    · rw [hsa, hsb, List.append_assoc] at h
      exact absurd h.symm (hfirst b u hu _ _)
  · obtain ⟨v, hv, rfl, hsb⟩ | ⟨-, hsb⟩ := string_cases b
    · rw [hsa, hsb, List.append_assoc] at h
      exact absurd h (hfirst a v hv _ _)
    · rw [hsa, hsb, List.append_assoc, List.append_assoc] at h
      obtain ⟨hheader, h⟩ := header_append_inj (.inl rfl) h
      have hlen := congrArg List.length h
      rw [List.length_append, List.length_append] at hlen
      apply List.append_inj h
      unfold Near at hnear
      rcases header_inj (.inl rfl) hheader with heq | hfar | hfar <;> omega

/-! ## Fields -/

theorem quantity_append_inj {w : Nat} {v v' : BitVec w} {x y : Bytes} (hw : w / 8 * 8 = w) (hw' : w < UInt64.size)
    (h : quantity v ++ x = quantity v' ++ y) : v = v' ∧ x = y := by
  have hv := Bytes.length_minimal_le (w / 8) v.toNat
  have hv' := Bytes.length_minimal_le (w / 8) v'.toNat
  obtain ⟨hmin, hrest⟩ := string_append_inj (.inl ⟨by omega, by omega⟩) h
  have hnat := Bytes.minimal_inj (toNat_lt_capacity hw v) (toNat_lt_capacity hw v') hmin
  exact ⟨BitVec.eq_of_toNat_eq hnat, hrest⟩

theorem fixed_append_inj {n : Nat} {a b : FixedBytes n} {x y : Bytes} (hn : n < UInt64.size)
    (h : fixed a ++ x = fixed b ++ y) : a = b ∧ x = y := by
  have ha := a.length_eq
  have hb := b.length_eq
  obtain ⟨hbytes, hrest⟩ := string_append_inj (.inl ⟨by omega, by omega⟩) h
  exact ⟨FixedBytes.ext hbytes, hrest⟩

/-- A missing recipient is told from every address. -/
theorem recipient_append_inj {a b : Option Address} {x y : Bytes} (h : recipient a ++ x = recipient b ++ y) :
    a = b ∧ x = y := by
  have hlen : ∀ c : Option Address, ((c.map FixedBytes.toList).getD []).length = if c.isSome then 20 else 0 := by
    intro c
    cases c with
    | none => rfl
    | some c => exact c.length_eq
  have hle : ∀ c : Option Address, ((c.map FixedBytes.toList).getD []).length < UInt64.size := by
    intro c
    rw [hlen]
    split <;> decide
  rw [recipient_eq, recipient_eq] at h
  obtain ⟨hbytes, hrest⟩ := string_append_inj (.inl ⟨hle a, hle b⟩) h
  refine ⟨?_, hrest⟩
  have hsome := congrArg List.length hbytes
  rw [hlen, hlen] at hsome
  cases a with
  | none =>
    cases b with
    | none => rfl
    | some b => cases hsome
  | some a =>
    cases b with
    | none => cases hsome
    | some b => exact congrArg some (FixedBytes.ext hbytes)

/-! ## Lists of items -/

/-- Items that end where they end are told apart in a row of them. -/
theorem flatten_map_inj {α : Type} {g : α → Bytes} {l m : List α} (hne : ∀ a, g a ≠ [])
    (hinj : ∀ a ∈ l, ∀ b ∈ m, ∀ x y, g a ++ x = g b ++ y → a = b ∧ x = y)
    (h : (l.map g).flatten = (m.map g).flatten) : l = m := by
  induction l generalizing m with
  | nil =>
    cases m with
    | nil => rfl
    | cons b m => exact absurd h.symm (by simp [hne b])
  | cons a l ih =>
    cases m with
    | nil => exact absurd h (by simp [hne a])
    | cons b m =>
      rw [List.map_cons, List.map_cons, List.flatten_cons, List.flatten_cons] at h
      obtain ⟨rfl, hrest⟩ := hinj a List.mem_cons_self b List.mem_cons_self _ _ h
      rw [ih (fun c hc d hd => hinj c (List.mem_cons_of_mem _ hc) d (List.mem_cons_of_mem _ hd)) hrest]

end Rlp
open Rlp

/-! ## Legacy transactions -/

namespace Draft

theorem fields_append_inj {d d' : Draft} {x y : Bytes} (hx : x.length + 55 < UInt64.size)
    (hy : y.length + 55 < UInt64.size) (h : d.fields.flatten ++ x = d'.fields.flatten ++ y) : d = d' ∧ x = y := by
  simp only [fields, List.flatten_cons, List.flatten_nil, List.append_nil, List.append_assoc] at h
  obtain ⟨hnonce, h⟩ := quantity_append_inj rfl (by decide) h
  obtain ⟨hprice, h⟩ := quantity_append_inj rfl (by decide) h
  obtain ⟨hlimit, h⟩ := quantity_append_inj rfl (by decide) h
  obtain ⟨hrecipient, h⟩ := recipient_append_inj h
  obtain ⟨hvalue, h⟩ := quantity_append_inj rfl (by decide) h
  obtain ⟨hdata, h⟩ := string_append_inj (.inr ⟨hx, hy⟩) h
  refine ⟨?_, h⟩
  cases d
  cases d'
  simp only [Draft.mk.injEq]
  exact ⟨hnonce, hprice, hlimit, hrecipient, hvalue, hdata⟩

/-- What stands behind the fields of a payload for one chain. -/
def chainTail (chain : Word64) : Bytes := quantity chain ++ (string [] ++ string [])

theorem length_chainTail_le (chain : Word64) : (chainTail chain).length ≤ 35 := by
  have hchain := length_quantity_le chain
  have hnone := length_string_le []
  simp only [chainTail, List.length_append, List.length_nil] at hnone ⊢
  omega

theorem chainPayload_flatten (d : Draft) (chain : Word64) :
    (d.fields ++ [quantity chain, string [], string []]).flatten = d.fields.flatten ++ chainTail chain := by
  simp [chainTail]

theorem chainPayload_inj {d d' : Draft} {c c' : Word64} (h : d.chainPayload c = d'.chainPayload c') :
    d = d' ∧ c = c' := by
  have hc := length_chainTail_le c
  have hc' := length_chainTail_le c'
  have hroom : 90 < UInt64.size := by decide
  have h := list_inj h
  rw [chainPayload_flatten, chainPayload_flatten] at h
  obtain ⟨hd, htail⟩ := fields_append_inj (by omega) (by omega) h
  exact ⟨hd, (quantity_append_inj rfl (by decide) htail).1⟩

theorem plainPayload_inj {d d' : Draft} (h : d.plainPayload = d'.plainPayload) : d = d' := by
  have h := congrArg (· ++ []) (list_inj h)
  exact (fields_append_inj (by decide) (by decide) h).1

/-- Behind the fields a chain is named, or it is not. -/
theorem chainPayload_ne_plainPayload (d d' : Draft) (c : Word64) : d.chainPayload c ≠ d'.plainPayload := by
  intro h
  have hc := length_chainTail_le c
  have hroom : 90 < UInt64.size := by decide
  have h := list_inj h
  rw [chainPayload_flatten, ← List.append_nil d'.fields.flatten] at h
  obtain ⟨-, htail⟩ := fields_append_inj (by omega) (by decide) h
  simp [chainTail, string, header] at htail

end Draft

/-! ## Dynamic-fee transactions -/

theorem AccessEntry.encode_ne_nil (a : AccessEntry) : a.encode ≠ [] := by
  obtain ⟨x, rest, hx, -⟩ := header_cons (.inr rfl : IsMark 0xc0)
    [fixed a.address, list (a.storageKeys.map fixed)].flatten.length
  rw [encode, list, hx]
  exact List.cons_ne_nil _ _

/-- An entry determines its address and all of its keys. -/
theorem AccessEntry.encode_append_inj {a b : AccessEntry} {x y : Bytes} (ha : a.encode.length < UInt64.size)
    (hb : b.encode.length < UInt64.size) (h : a.encode ++ x = b.encode ++ y) : a = b ∧ x = y := by
  have hparts := Nat.lt_of_le_of_lt (flatten_le_list _) ha
  have hparts' := Nat.lt_of_le_of_lt (flatten_le_list _) hb
  obtain ⟨h, hrest⟩ := list_append_inj hparts hparts' h
  simp only [List.flatten_cons, List.flatten_nil, List.append_nil] at h
  obtain ⟨haddress, hkeys⟩ := fixed_append_inj (by decide) h
  have hne : ∀ key : Hash, fixed key ≠ [] := by
    intro key
    have hle := length_le_string key.toList
    have hlen := key.length_eq
    exact List.ne_nil_of_length_pos (show 0 < (string key.toList).length by omega)
  have hlist := flatten_map_inj hne (fun _ _ _ _ _ _ => fixed_append_inj (by decide)) (list_inj hkeys)
  refine ⟨?_, hrest⟩
  cases a
  cases b
  simp only [AccessEntry.mk.injEq]
  exact ⟨haddress, hlist⟩

namespace DynamicFee

/-- The transaction without its signature: what the nine signed fields hold. -/
def unsigned (t : DynamicFee) : DynamicFee := { t with v := 0, r := 0, s := 0 }

theorem payload_inj {t t' : DynamicFee} (hlen : t.payload.length < UInt64.size) (h : t.payload = t'.payload) :
    t.unsigned = t'.unsigned := by
  have hlen' := h ▸ hlen
  have hdata : ∀ u : DynamicFee, u.payload.length < UInt64.size →
      u.data.length < UInt64.size ∧ ∀ a ∈ u.accessList, a.encode.length < UInt64.size := by
    intro u hu
    have hlist : (list u.fields).length < UInt64.size := Nat.lt_of_succ_lt hu
    have hstring : (string u.data).length < UInt64.size := length_entry_lt (by simp [fields]) hlist
    have haccess : (list (u.accessList.map AccessEntry.encode)).length < UInt64.size :=
      length_entry_lt (by simp [fields]) hlist
    refine ⟨Nat.lt_of_le_of_lt (length_le_string _) hstring, ?_⟩
    intro a ha
    exact length_entry_lt (List.mem_map_of_mem ha) haccess
  obtain ⟨hd, haccess⟩ := hdata t hlen
  obtain ⟨hd', haccess'⟩ := hdata t' hlen'
  have h := list_inj (List.cons.inj h).2
  simp only [fields, List.flatten_cons, List.flatten_nil, List.append_nil] at h
  obtain ⟨hchain, h⟩ := quantity_append_inj rfl (by decide) h
  obtain ⟨hnonce, h⟩ := quantity_append_inj rfl (by decide) h
  obtain ⟨hpriority, h⟩ := quantity_append_inj rfl (by decide) h
  obtain ⟨hfee, h⟩ := quantity_append_inj rfl (by decide) h
  obtain ⟨hlimit, h⟩ := quantity_append_inj rfl (by decide) h
  obtain ⟨hrecipient, h⟩ := recipient_append_inj h
  obtain ⟨hvalue, h⟩ := quantity_append_inj rfl (by decide) h
  obtain ⟨hbytes, h⟩ := string_append_inj (.inl ⟨hd, hd'⟩) h
  have hlist := flatten_map_inj AccessEntry.encode_ne_nil
    (fun a ha b hb _ _ => AccessEntry.encode_append_inj (haccess a ha) (haccess' b hb)) (list_inj h)
  simp only [unsigned, DynamicFee.mk.injEq, and_true]
  exact ⟨hchain, hnonce, hpriority, hfee, hlimit, hrecipient, hvalue, hbytes, hlist⟩

/-- A list has no type byte. -/
theorem payload_ne_list (t : DynamicFee) (entries : List Bytes) : t.payload ≠ list entries := by
  intro h
  obtain ⟨x, rest, hx, hle, -⟩ := header_cons (.inr rfl : IsMark 0xc0) entries.flatten.length
  have hcons : list entries = x :: (rest ++ entries.flatten) := by rw [list, hx, List.cons_append]
  have hfirst := (List.cons.inj (h.trans hcons)).1
  rw [← hfirst] at hle
  exact absurd hle (by decide)

end DynamicFee

/-! ## All three together -/

/-- What a signature can be made for. -/
inductive Signable where
  | forChain (d : Draft) (chain : Word64)
  | plain (d : Draft)
  | dynamicFee (t : DynamicFee)

namespace Signable

/-- The bytes that are hashed. -/
def payload : Signable → Bytes
  | .forChain d chain => d.chainPayload chain
  | .plain d => d.plainPayload
  | .dynamicFee t => t.payload

/-- The digest that is signed. -/
def digest : Signable → Hash
  | .forChain d chain => d.signingHash chain
  | .plain d => d.plainHash
  | .dynamicFee t => t.signingHash

theorem digest_eq (a : Signable) : a.digest = keccak256 a.payload := by
  cases a <;> rfl

/-- One and the same thing to sign; the signature that a transaction carries is no part of it. -/
def Same : Signable → Signable → Prop
  | .forChain d c, .forChain d' c' => d = d' ∧ c = c'
  | .plain d, .plain d' => d = d'
  | .dynamicFee t, .dynamicFee t' => t.unsigned = t'.unsigned
  | _, _ => False

/-- The size of the payload has 64 bits. That of a legacy transaction need not. -/
def Sized : Signable → Prop
  | .dynamicFee t => t.payload.length < UInt64.size
  | _ => True

theorem same_of_payload {a b : Signable} (ha : a.Sized) (h : a.payload = b.payload) : a.Same b := by
  cases a with
  | forChain d c =>
    cases b with
    | forChain d' c' => exact Draft.chainPayload_inj h
    | plain d' => exact absurd h (d.chainPayload_ne_plainPayload d' c)
    | dynamicFee t' => exact absurd h.symm (t'.payload_ne_list _)
  | plain d =>
    cases b with
    | forChain d' c' => exact absurd h.symm (d'.chainPayload_ne_plainPayload d c')
    | plain d' => exact Draft.plainPayload_inj h
    | dynamicFee t' => exact absurd h.symm (t'.payload_ne_list _)
  | dynamicFee t =>
    cases b with
    | forChain d' c' => exact absurd h (t.payload_ne_list _)
    | plain d' => exact absurd h (t.payload_ne_list _)
    | dynamicFee t' => exact DynamicFee.payload_inj ha h

theorem payload_of_same {a b : Signable} (h : a.Same b) : a.payload = b.payload := by
  cases a with
  | forChain d c =>
    cases b with
    | forChain d' c' =>
      obtain ⟨rfl, rfl⟩ := h
      rfl
    | plain d' | dynamicFee t' => cases h
  | plain d =>
    cases b with
    | plain d' =>
      cases h
      rfl
    | forChain d' c' | dynamicFee t' => cases h
  | dynamicFee t =>
    cases b with
    | dynamicFee t' =>
      -- The signature is no part of what is hashed.
      show t.unsigned.payload = t'.unsigned.payload
      have h : t.unsigned = t'.unsigned := h
      rw [h]
    | forChain d' c' | plain d' => cases h

/-- Two payloads are equal exactly if the same thing is signed; so one digest stands for two things only if the hash
function takes two different byte strings to it. -/
theorem payload_eq_iff {a b : Signable} (ha : a.Sized) :
    (a.payload = b.payload ↔ a.Same b) ∧
      (a.digest = b.digest → a.Same b ∨ a.payload ≠ b.payload ∧ keccak256 a.payload = keccak256 b.payload) := by
  refine ⟨⟨same_of_payload ha, payload_of_same⟩, ?_⟩
  intro h
  rw [digest_eq, digest_eq] at h
  by_cases hp : a.payload = b.payload
  · exact .inl (same_of_payload ha hp)
  · exact .inr ⟨hp, h⟩

/-- The same announcement, with the second key at the other contract. -/
def movedKey : DynamicFee :=
  { Envelope.announcing with
    accessList := [⟨FixedBytes.ofNat 20 8, [FixedBytes.ofNat 32 1]⟩, ⟨FixedBytes.ofNat 20 9, [FixedBytes.ofNat 32 2]⟩] }

theorem movedKey_told_apart : (dynamicFee Envelope.announcing).Sized ∧
    (dynamicFee Envelope.announcing).payload ≠ (dynamicFee movedKey).payload := by
  have hsized : Envelope.announcing.payload.length < UInt64.size := by decide +kernel
  refine ⟨hsized, fun h => ?_⟩
  have hsame := (payload_eq_iff (a := dynamicFee Envelope.announcing) (b := dynamicFee movedKey) hsized).1.1 h
  have hother : Envelope.announcing.unsigned ≠ movedKey.unsigned := by decide
  exact hother hsame

end Signable
end EvmClient
