import EvmClient.Envelope.Raw
import EvmClient.Proofs.FieldForms

/-
Raw transactions and what is read from them.

   A raw transaction is the list of its fields, behind a type byte for the newer envelope. The reader finds
   its fields by their place, and counts the entries of a list by reading on until no further item is found.

   1. `raw_reads_back` — writing and reading again gives the same transaction, in either envelope, with any
      access list.
   2. `raw_faithful_iff` — the other way round, a transaction that was read gives back the bytes that it was
      read from exactly if nothing was left over in them.
   3. `leftovers_lost` — the reader does not ask for that: bytes that begin no item are passed over behind the
      outer list, behind its last field, and in the lists of an access list.

   What is left over is lost in the fields, so the hash that is computed from them is not the hash of the
   bytes that were read. -/
namespace EvmClient
open Rlp

/-! ## Readings one after another -/

/-- What was read in two parts had its first part read. -/
theorem first_ok {ε α β : Type} {x : Except ε α} {f : α → Except ε β} {b : β} (h : (x >>= f) = .ok b) :
    ∃ a, x = .ok a := by
  obtain ⟨a, ha, -⟩ := bind_eq_ok_iff.1 h
  exact ⟨a, ha⟩

/-- What is read from each written form is read from all of them. -/
theorem mapM_map {ε α β : Type} {f : α → Except ε β} {g : β → α} {l : List β} (h : ∀ b ∈ l, f (g b) = .ok b) :
    (l.map g).mapM f = .ok l := by
  induction l with
  | nil => rfl
  | cons b rest ih =>
    have hrest : (rest.map g).mapM f = .ok rest := ih fun c hc => h c (List.mem_cons_of_mem _ hc)
    rw [List.map_cons, List.mapM_cons, h b List.mem_cons_self, hrest]
    rfl

/-- Items that can be read only if they are written forms are the written forms of what they are read as. -/
theorem eq_map_of_mapM {ε α β : Type} {f : α → Except ε β} {g : β → α} {l : List α}
    (h : ∀ a ∈ l, ∀ b, f a = .ok b → a = g b) {r : List β} (hr : l.mapM f = .ok r) : l = r.map g := by
  induction l generalizing r with
  | nil =>
    cases hr
    rfl
  | cons a rest ih =>
    rw [List.mapM_cons, bind_eq_ok_iff] at hr
    obtain ⟨b, hb, hr⟩ := hr
    rw [bind_eq_ok_iff] at hr
    obtain ⟨r', hr', hr⟩ := hr
    cases hr
    rw [List.map_cons, ← h a List.mem_cons_self b hb, ← ih (fun c hc => h c (List.mem_cons_of_mem _ hc)) hr']

/-- Where the entries fill the payload, each of them lies in it. -/
theorem innerEntry_eq {v : ListView} (h : v.payload = v.entries.flatten.length) (i : Nat) :
    v.innerEntry i = v.entry i := by
  have hle : (v.entries.take (i + 1)).flatten.length ≤ v.payload := by
    have hsplit := congrArg (fun l => l.flatten.length) (List.take_append_drop (i + 1) v.entries)
    simp only [List.flatten_append, List.length_append] at hsplit
    omega
  rw [ListView.innerEntry, if_pos hle]

/-! ## Legacy transactions -/

/-- The nine written fields of a signed transaction. -/
def Legacy.items (t : Legacy) : List Bytes :=
  t.draft.fields ++ [quantity t.signature.v, quantity t.signature.r, quantity t.signature.s]

theorem Legacy.raw_eq (t : Legacy) : t.raw = list t.items := rfl

/-- Nine whole items are read as a transaction exactly if they are its written fields. -/
theorem Legacy.decode?_of_view {b : Bytes} {items : List Bytes} {p : Nat} (hv : ListView.of? b = .ok ⟨items, p⟩)
    (hw : ∀ item ∈ items, Whole item) {t : Legacy} : Legacy.decode? b = .ok t ↔ items = t.items := by
  simp only [Legacy.decode?, hv, bind_eq_ok_iff, Except.ok.injEq, exists_eq_left']
  by_cases hlen : items.length = 9
  · rw [if_neg (by rw [hlen]; decide)]
    -- Each reader accepts the written form of its value and nothing else, so the readings are nine equations.
    match items, hlen with
    | [a0, a1, a2, a3, a4, a5, a6, a7, a8], _ =>
      simp only [List.mem_cons, List.not_mem_nil, or_false, forall_eq_or_imp, forall_eq] at hw
      obtain ⟨h0, h1, h2, h3, h4, h5, h6, h7, h8⟩ := hw
      simp only [ListView.entry, List.getElem?_cons_zero, List.getElem?_cons_succ, bind_eq_ok_iff, Except.ok.injEq,
        exists_eq_left', word64?_eq_ok_iff h0, quantity?_eq_ok_iff h1, word64?_eq_ok_iff h2,
        recipient?_eq_ok_iff h3, quantity?_eq_ok_iff h4, string?_eq_ok_iff h5, word64?_eq_ok_iff h6,
        quantity?_eq_ok_iff h7, quantity?_eq_ok_iff h8]
      constructor
      · rintro ⟨nonce, e0, price, e1, limit, e2, payee, e3, value, e4, data, e5, v, e6, r, e7, s, e8, h⟩
        cases h
        rw [e0, e1, e2, e3, e4, e5, e6, e7, e8]
        rfl
      · intro h
        simp only [Legacy.items, Draft.fields, List.cons_append, List.nil_append, List.cons.injEq, and_true] at h
        obtain ⟨e0, e1, e2, e3, e4, e5, e6, e7, e8⟩ := h
        exact ⟨_, e0, _, e1, _, e2, _, e3, _, e4, _, e5, _, e6, _, e7, _, e8, rfl⟩
  · rw [if_pos hlen]
    constructor
    · intro h
      cases h
    · rintro rfl
      exact absurd rfl hlen

theorem Draft.exact_fields (d : Draft) : ∀ field ∈ d.fields, field.length < UInt64.size → Exact field := by
  simp only [Draft.fields, List.mem_cons, List.not_mem_nil, or_false, forall_eq_or_imp, forall_eq]
  exact ⟨exact_quantity, exact_quantity, exact_quantity, exact_recipient, exact_quantity, exact_string⟩

theorem Legacy.exact_items (t : Legacy) : ∀ item ∈ t.items, item.length < UInt64.size → Exact item := by
  intro item hitem
  rcases List.mem_append.1 hitem with h | h
  · exact t.draft.exact_fields item h
  · simp only [List.mem_cons, List.not_mem_nil, or_false] at h
    rcases h with h | h | h <;> rw [h] <;> exact exact_quantity

/-- Everything but the data has a bounded size. -/
theorem Legacy.length_raw_le (t : Legacy) : t.raw.length ≤ t.draft.data.length + 262 := by
  have hheader := length_header_le 0xc0 t.items.flatten.length
  have hnonce := length_quantity_le t.draft.nonce
  have hprice := length_quantity_le t.draft.gasPrice
  have hlimit := length_quantity_le t.draft.gasLimit
  have hrecipient := length_recipient_le t.draft.recipient
  have hvalue := length_quantity_le t.draft.value
  have hdata := length_string_le t.draft.data
  have hv := length_quantity_le t.signature.v
  have hr := length_quantity_le t.signature.r
  have hs := length_quantity_le t.signature.s
  rw [Legacy.raw_eq, list, List.length_append]
  simp only [Legacy.items, Draft.fields, List.cons_append, List.nil_append, List.flatten_cons, List.flatten_nil,
    List.length_append, List.length_nil] at hheader ⊢
  omega

/-- Reading undoes writing. -/
theorem Legacy.decode?_raw {t : Legacy} (h : t.raw.length < UInt64.size) : Legacy.decode? t.raw = .ok t := by
  have hopen : ListView.of? t.raw = .ok ⟨t.items, t.items.flatten.length⟩ := exact_list_opens t.exact_items h
  apply (Legacy.decode?_of_view hopen ?_).2 rfl
  intro item hitem
  exact (exact_entries t.exact_items h item hitem).whole

/-- Where nothing is left over, only the written form of a transaction is read as it. -/
theorem Legacy.raw_of_decode? {b : Bytes} (hb : Exact b) {t : Legacy} (h : Legacy.decode? b = .ok t) : t.raw = b := by
  obtain ⟨v, hv⟩ := first_ok h
  obtain ⟨entries, rfl, rfl, hexact⟩ := hb.opened hv
  have hitems := (Legacy.decode?_of_view hv fun entry he => (hexact entry he).whole).1 h
  rw [Legacy.raw_eq, hitems]

/-! ## Access lists -/

namespace AccessEntry

theorem exact_keys (keys : List Hash) : ∀ key ∈ keys.map fixed, key.length < UInt64.size → Exact key := by
  intro key hkey
  obtain ⟨k, -, rfl⟩ := List.mem_map.1 hkey
  exact exact_fixed

theorem exact_parts (a : AccessEntry) :
    ∀ part ∈ [fixed a.address, list (a.storageKeys.map fixed)], part.length < UInt64.size → Exact part := by
  simp only [List.mem_cons, List.not_mem_nil, or_false, forall_eq_or_imp, forall_eq]
  exact ⟨exact_fixed, exact_list (exact_keys a.storageKeys)⟩

theorem exact_encode {a : AccessEntry} (h : a.encode.length < UInt64.size) : Exact a.encode :=
  exact_list a.exact_parts h

/-- An entry is read from an address and a list of keys. -/
theorem decode?_of_view {b : Bytes} {items : List Bytes} {p : Nat} (hv : ListView.of? b = .ok ⟨items, p⟩)
    {a : AccessEntry} :
    decode? b = .ok a ↔ ∃ address keys v, items = [address, keys] ∧ ListView.of? keys = .ok v ∧
      v.entries.mapM (fixed? 32) = .ok a.storageKeys ∧ fixed? 20 address = .ok a.address := by
  simp only [decode?, hv, bind_eq_ok_iff, Except.ok.injEq, exists_eq_left']
  by_cases hlen : items.length = 2
  · rw [if_neg (by rw [hlen]; decide)]
    match items, hlen with
    | [a0, a1], _ =>
      simp only [ListView.entry, List.getElem?_cons_zero, List.getElem?_cons_succ, bind_eq_ok_iff, Except.ok.injEq,
        exists_eq_left']
      constructor
      · rintro ⟨v, hkeys, storageKeys, hread, address, haddress, h⟩
        cases h
        exact ⟨a0, a1, v, rfl, hkeys, hread, haddress⟩
      · rintro ⟨_, _, v, h, hkeys, hread, haddress⟩
        cases h
        exact ⟨v, hkeys, a.storageKeys, hread, a.address, haddress, rfl⟩
  · rw [if_pos hlen]
    constructor
    · intro h
      cases h
    · rintro ⟨_, _, _, rfl, -⟩
      exact absurd rfl hlen

theorem decode?_encode {a : AccessEntry} (h : a.encode.length < UInt64.size) : decode? a.encode = .ok a := by
  have hparts := exact_entries a.exact_parts h
  have hsize : (list (a.storageKeys.map fixed)).length < UInt64.size := length_entry_lt (by simp) h
  have hkeys := exact_entries (exact_keys a.storageKeys) hsize
  apply (decode?_of_view (exact_list_opens a.exact_parts h)).2
  refine ⟨_, _, _, rfl, exact_list_opens (exact_keys a.storageKeys) hsize, ?_, ?_⟩
  · apply mapM_map
    intro key hk
    exact (fixed?_eq_ok_iff (hkeys _ (List.mem_map_of_mem hk)).whole).2 rfl
  · exact (fixed?_eq_ok_iff (hparts _ List.mem_cons_self).whole).2 rfl

theorem encode_of_decode? {b : Bytes} (hb : Exact b) {a : AccessEntry} (h : decode? b = .ok a) : b = a.encode := by
  obtain ⟨v, hv⟩ := first_ok h
  obtain ⟨parts, rfl, rfl, hexact⟩ := hb.opened hv
  obtain ⟨address, keys, kv, rfl, hkv, hread, haddress⟩ := (decode?_of_view hv).1 h
  obtain ⟨entries, rfl, rfl, hkeys⟩ := (hexact keys (by simp)).opened hkv
  have hentries : entries = a.storageKeys.map fixed :=
    eq_map_of_mapM (fun key hk _ => (fixed?_eq_ok_iff (hkeys key hk).whole).1) hread
  have haddr : address = fixed a.address := (fixed?_eq_ok_iff (hexact address (by simp)).whole).1 haddress
  rw [encode, ← hentries, ← haddr]

end AccessEntry

/-! ## Dynamic-fee transactions -/

namespace DynamicFee

/-- The twelve written fields, with the form of the access list given. -/
def itemsWith (t : DynamicFee) (access : Bytes) : List Bytes :=
  [quantity t.chain, quantity t.nonce, quantity t.maxPriorityFee, quantity t.maxFee, quantity t.gasLimit,
   Rlp.recipient t.recipient, quantity t.value, string t.data, access, quantity t.v, quantity t.r, quantity t.s]

def access (t : DynamicFee) : Bytes := list (t.accessList.map AccessEntry.encode)

theorem raw_eq (t : DynamicFee) : t.raw = typeByte :: list (t.itemsWith t.access) := rfl

theorem exact_announced (t : DynamicFee) :
    ∀ entry ∈ t.accessList.map AccessEntry.encode, entry.length < UInt64.size → Exact entry := by
  intro entry he
  obtain ⟨a, -, rfl⟩ := List.mem_map.1 he
  exact AccessEntry.exact_encode

theorem exact_access (t : DynamicFee) (h : t.access.length < UInt64.size) : Exact t.access :=
  exact_list t.exact_announced h

theorem exact_items (t : DynamicFee) : ∀ item ∈ t.itemsWith t.access, item.length < UInt64.size → Exact item := by
  simp only [itemsWith, List.mem_cons, List.not_mem_nil, or_false, forall_eq_or_imp, forall_eq]
  exact ⟨exact_quantity, exact_quantity, exact_quantity, exact_quantity, exact_quantity, exact_recipient,
    exact_quantity, exact_string, t.exact_access, exact_quantity, exact_quantity, exact_quantity⟩

/-- Twelve whole items that fill their list are read as a transaction exactly if they are its written fields, where
the ninth only has to be readable as its access list. -/
theorem decode?_of_view {b : Bytes} {items : List Bytes} (hv : ListView.of? b = .ok ⟨items, items.flatten.length⟩)
    (hw : ∀ item ∈ items, Whole item) {t : DynamicFee} :
    decode? b = .ok t ↔ ∃ access v, items = t.itemsWith access ∧ ListView.of? access = .ok v ∧
      v.entries.mapM AccessEntry.decode? = .ok t.accessList := by
  simp only [decode?, hv, bind_eq_ok_iff, Except.ok.injEq, exists_eq_left']
  by_cases hlen : items.length = 12
  · rw [if_neg (by rw [hlen]; decide), innerEntry_eq rfl]
    match items, hlen with
    | [a0, a1, a2, a3, a4, a5, a6, a7, a8, a9, a10, a11], _ =>
      simp only [List.mem_cons, List.not_mem_nil, or_false, forall_eq_or_imp, forall_eq] at hw
      -- The ninth entry has no reader of its own form: it is opened, and its entries are read.
      obtain ⟨h0, h1, h2, h3, h4, h5, h6, h7, -, h9, h10, h11⟩ := hw
      simp only [ListView.entry, List.getElem?_cons_zero, List.getElem?_cons_succ, bind_eq_ok_iff, Except.ok.injEq,
        exists_eq_left', quantity?_eq_ok_iff h0, quantity?_eq_ok_iff h1, quantity?_eq_ok_iff h2,
        quantity?_eq_ok_iff h3, quantity?_eq_ok_iff h4, recipient?_eq_ok_iff h5, quantity?_eq_ok_iff h6,
        string?_eq_ok_iff h7, quantity?_eq_ok_iff h9, quantity?_eq_ok_iff h10, quantity?_eq_ok_iff h11]
      constructor
      · rintro ⟨v, hopen, accessList, hread, chain, e0, nonce, e1, priority, e2, fee, e3, limit, e4, payee, e5, value,
          e6, data, e7, parity, e9, r, e10, s, e11, h⟩
        cases h
        refine ⟨a8, v, ?_, hopen, hread⟩
        rw [e0, e1, e2, e3, e4, e5, e6, e7, e9, e10, e11]
        rfl
      · rintro ⟨access, v, h, hopen, hread⟩
        simp only [itemsWith, List.cons.injEq, and_true] at h
        obtain ⟨e0, e1, e2, e3, e4, e5, e6, e7, e8, e9, e10, e11⟩ := h
        rw [← e8] at hopen
        exact ⟨v, hopen, _, hread, _, e0, _, e1, _, e2, _, e3, _, e4, _, e5, _, e6, _, e7, _, e9, _, e10, _, e11, rfl⟩
  · rw [if_pos hlen]
    constructor
    · intro h
      cases h
    · rintro ⟨_, _, rfl, -⟩
      exact absurd rfl hlen

/-- Reading undoes writing. -/
theorem decode?_items {t : DynamicFee} (h : (list (t.itemsWith t.access)).length < UInt64.size) :
    decode? (list (t.itemsWith t.access)) = .ok t := by
  have hexact := exact_entries t.exact_items h
  have haccess : t.access.length < UInt64.size := length_entry_lt (by simp [itemsWith]) h
  apply (decode?_of_view (exact_list_opens t.exact_items h) fun item hi => (hexact item hi).whole).2
  refine ⟨t.access, _, rfl, exact_list_opens t.exact_announced haccess, ?_⟩
  apply mapM_map
  intro a ha
  exact AccessEntry.decode?_encode (length_entry_lt (List.mem_map_of_mem ha) haccess)

/-- Where nothing is left over, only the written form of a transaction is read as it. -/
theorem items_of_decode? {b : Bytes} (hb : Exact b) {t : DynamicFee} (h : decode? b = .ok t) :
    list (t.itemsWith t.access) = b := by
  obtain ⟨v, hv⟩ := first_ok h
  obtain ⟨entries, rfl, rfl, hexact⟩ := hb.opened hv
  obtain ⟨access, av, rfl, hav, hread⟩ := (decode?_of_view hv fun entry he => (hexact entry he).whole).1 h
  obtain ⟨inner, rfl, rfl, hinner⟩ := (hexact access (by simp [itemsWith])).opened hav
  have hlist : inner = t.accessList.map AccessEntry.encode :=
    eq_map_of_mapM (fun entry he _ => AccessEntry.encode_of_decode? (hinner entry he)) hread
  rw [DynamicFee.access, hlist]

end DynamicFee

/-! ## Both envelopes -/

namespace Envelope

/-- The list of a raw transaction: what stands behind the type byte, or all of it where there is none. -/
def body (raw : Bytes) : Bytes := if raw.head? = some DynamicFee.typeByte then raw.tail else raw

theorem body_typed (rest : Bytes) : body (DynamicFee.typeByte :: rest) = rest := rfl

/-- A list has no type byte. -/
theorem list_untyped (entries : List Bytes) :
    ∃ x rest, list entries = x :: rest ∧ 0xc0 ≤ x ∧ body (list entries) = list entries := by
  obtain ⟨x, rest, hx, hle, -⟩ := header_cons (.inr rfl : IsMark 0xc0) entries.flatten.length
  have hcons : list entries = x :: (rest ++ entries.flatten) := by rw [list, hx, List.cons_append]
  have hmark : 0xc0 ≤ x := UInt8.le_iff_toNat_le.2 hle
  refine ⟨x, _, hcons, hmark, ?_⟩
  have hne : x ≠ DynamicFee.typeByte := by
    rintro rfl
    exact absurd hmark (by decide)
  rw [body, hcons, List.head?_cons, if_neg (fun h => hne (Option.some.inj h))]

/-- What was read was read from the body, by the reader of its envelope. -/
theorem ofRaw?_cases {raw : Bytes} {tx : Envelope} (h : ofRaw? raw = .ok tx) :
    (∃ t, tx = .legacy t ∧ body raw = raw ∧ Legacy.decode? raw = .ok t) ∨
      ∃ t rest, tx = .dynamicFee t ∧ raw = DynamicFee.typeByte :: rest ∧ DynamicFee.decode? rest = .ok t := by
  unfold ofRaw? at h
  split at h
  · cases h
  · rename_i x rest
    split at h
    · rename_i hx
      split at h
      · rename_i t ht
        cases h
        refine .inl ⟨t, rfl, ?_, ht⟩
        have hne : x ≠ DynamicFee.typeByte := by
          rintro rfl
          exact absurd hx (by decide)
        rw [body, List.head?_cons, if_neg (fun h => hne (Option.some.inj h))]
      · cases h
    · split at h
      · rename_i hx
        split at h
        · rename_i t ht
          cases h
          rw [hx]
          exact .inr ⟨t, rest, rfl, rfl, ht⟩
        · cases h
      · cases h

theorem exact_body_raw {tx : Envelope} (h : tx.raw.length < UInt64.size) : Exact (body tx.raw) := by
  cases tx with
  | legacy t =>
    obtain ⟨-, -, -, -, hbody⟩ := list_untyped t.items
    have hraw : (Envelope.legacy t).raw = list t.items := rfl
    rw [hraw] at h ⊢
    rw [hbody]
    exact exact_list t.exact_items h
  | dynamicFee t =>
    have hraw : (Envelope.dynamicFee t).raw = DynamicFee.typeByte :: list (t.itemsWith t.access) := rfl
    rw [hraw] at h ⊢
    rw [body_typed]
    rw [List.length_cons] at h
    exact exact_list t.exact_items (Nat.lt_of_succ_lt h)

theorem ofRaw?_legacy {t : Legacy} (h : t.raw.length < UInt64.size) : ofRaw? t.raw = .ok (.legacy t) := by
  have hread : Legacy.decode? t.raw = .ok t := Legacy.decode?_raw h
  obtain ⟨x, rest, hcons, hx, -⟩ := list_untyped t.items
  rw [Legacy.raw_eq, hcons] at hread ⊢
  simp only [ofRaw?, if_pos hx, hread]

theorem ofRaw?_dynamicFee {t : DynamicFee} (h : t.raw.length < UInt64.size) : ofRaw? t.raw = .ok (.dynamicFee t) := by
  rw [DynamicFee.raw_eq] at h ⊢
  rw [List.length_cons] at h
  have hread := DynamicFee.decode?_items (Nat.lt_of_succ_lt h)
  have hlow : ¬0xc0 ≤ DynamicFee.typeByte := by decide
  simp only [ofRaw?, if_neg hlow, if_true, hread]

/-- A raw transaction is read as the transaction that it was written from. -/
theorem raw_reads_back (tx : Envelope) (h : tx.raw.length < UInt64.size) : ofRaw? tx.raw = .ok tx := by
  cases tx with
  | legacy t => exact ofRaw?_legacy h
  | dynamicFee t => exact ofRaw?_dynamicFee h

/-- A dynamic-fee transaction that announces two keys of one contract, and another contract without keys. -/
def announcing : DynamicFee :=
  { chain := 1, nonce := 5, maxPriorityFee := 1000000000, maxFee := 2000000000, gasLimit := 50000
    recipient := some (FixedBytes.ofNat 20 7), value := 0, data := List.replicate 60 0x80
    accessList := [⟨FixedBytes.ofNat 20 8, [FixedBytes.ofNat 32 1, FixedBytes.ofNat 32 2]⟩, ⟨FixedBytes.ofNat 20 9, []⟩]
    v := 1, r := 123, s := 456 }

theorem raw_reads_back_announcing :
    (Envelope.dynamicFee announcing).raw.length < UInt64.size ∧
      ofRaw? (Envelope.dynamicFee announcing).raw = .ok (.dynamicFee announcing) := by
  have h : (Envelope.dynamicFee announcing).raw.length < UInt64.size := by decide +kernel
  exact ⟨h, raw_reads_back (.dynamicFee announcing) h⟩

/-- A transaction that was read gives back its bytes exactly if nothing was left over in them, and then its hash
is theirs. -/
theorem raw_faithful_iff {raw : Bytes} {tx : Envelope} (h : ofRaw? raw = .ok tx) :
    (Exact (body raw) → tx.raw = raw ∧ tx.hash = keccak256 raw) ∧
      (raw.length < UInt64.size → tx.raw = raw → Exact (body raw)) := by
  have hash_eq : tx.hash = keccak256 tx.raw := by cases tx <;> rfl
  have hback : Exact (body raw) → tx.raw = raw := by
    intro hexact
    -- What was read is written back by the writer of the same envelope.
    obtain ⟨t, rfl, hbody, ht⟩ | ⟨t, rest, rfl, rfl, ht⟩ := ofRaw?_cases h
    · rw [hbody] at hexact
      exact Legacy.raw_of_decode? hexact ht
    · rw [body_typed] at hexact
      exact congrArg (DynamicFee.typeByte :: ·) (DynamicFee.items_of_decode? hexact ht)
  constructor
  · intro hexact
    have hraw := hback hexact
    exact ⟨hraw, by rw [hash_eq, hraw]⟩
  · intro hlen hraw
    rw [← hraw] at hlen ⊢
    exact exact_body_raw hlen

theorem raw_faithful_announcing :
    ofRaw? (Envelope.dynamicFee announcing).raw = .ok (.dynamicFee announcing) ∧
      Exact (body (Envelope.dynamicFee announcing).raw) := by
  have hlen : announcing.raw.length < UInt64.size := by decide +kernel
  have h : ofRaw? announcing.raw = .ok (.dynamicFee announcing) := ofRaw?_dynamicFee hlen
  exact ⟨h, (raw_faithful_iff h).2 hlen rfl⟩

/-- A raw transaction with a byte behind its list. -/
def longerRaw : Bytes := [0xc9, 0x80, 0x80, 0x80, 0x80, 0x80, 0x80, 0x80, 0x80, 0x80, 0xb8]

/-- One with a byte in its list behind the last field. -/
def longerList : Bytes := [0xca, 0x80, 0x80, 0x80, 0x80, 0x80, 0x80, 0x80, 0x80, 0x80, 0xb8]

/-- One with a byte in its access list. -/
def longerAccess : Bytes :=
  [0x02, 0xcd, 0x80, 0x80, 0x80, 0x80, 0x80, 0x80, 0x80, 0x80, 0xc1, 0xb8, 0x80, 0x80, 0x80]

/-- Bytes that begin no item are passed over, and are missing in what the transaction gives back. -/
theorem leftovers_lost :
    (∃ tx, ofRaw? longerRaw = .ok tx ∧ tx.raw ≠ longerRaw) ∧ (∃ tx, ofRaw? longerList = .ok tx ∧ tx.raw ≠ longerList) ∧
      ∃ tx, ofRaw? longerAccess = .ok tx ∧ tx.raw ≠ longerAccess := by
  refine ⟨⟨_, rfl, ?_⟩, ⟨_, rfl, ?_⟩, ⟨_, rfl, ?_⟩⟩
  · decide
  · decide
  · decide

end Envelope
end EvmClient
