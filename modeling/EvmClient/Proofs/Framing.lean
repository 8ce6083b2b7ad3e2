import EvmClient.Rlp

/-
How items stand in a byte string.

   `split?` takes the first item off a byte string by what its header announces. An item is `Whole` if it
   announces its own length, so that it is taken off again whatever stands behind it, and a list of whole
   items is read back entry by entry.

   1. `whole_string`, `whole_list` — what is written is whole, as long as its size fits in 64 bits.
   2. `ListView.of?_list` — a written list is opened to its entries.
   3. `Exact` — nothing is left over in a byte string: its item ends where it ends, and every list in it where
      its last entry ends. `Exact.opened` says that such a list is the written form of its entries. -/
namespace EvmClient.Rlp

/-! ## The first item -/

theorem longExtent_append {k : Nat} {rest : Bytes} {e : Extent} (behind : Bytes) (h : longExtent k rest = .ok e) :
    longExtent k (rest ++ behind) = .ok e := by
  cases rest with
  | nil => cases h
  | cons x r =>
    simp only [longExtent, List.cons_append] at h ⊢
    by_cases hx : x = 0
    · rw [if_pos hx] at h
      cases h
    · by_cases hk : (x :: r).length < k
      · rw [if_neg hx, if_pos hk] at h
        cases h
      · have hk' : k ≤ (x :: r).length := Nat.le_of_not_lt hk
        have hlong : ¬(x :: (r ++ behind)).length < k := by
          simp only [List.length_cons, List.length_append] at hk' ⊢
          omega
        rw [if_neg hx, if_neg hk] at h
        rw [if_neg hx, if_neg hlong, ← List.cons_append, List.take_append_of_le_length hk']
        exact h

/-- What stands behind an item does not change what its header announces. -/
theorem announced_append {b : Bytes} {e : Extent} (behind : Bytes) (h : announced b = .ok e) :
    announced (b ++ behind) = .ok e := by
  cases b with
  | nil => cases h
  | cons x rest =>
    simp only [announced, List.cons_append] at h ⊢
    split
    · simpa [*] using h
    · split
      · simpa [*] using h
      · split
        · exact longExtent_append behind (by simpa [*] using h)
        · split
          · simpa [*] using h
          · exact longExtent_append behind (by simpa [*] using h)

theorem extent?_append {b : Bytes} {e : Extent} (behind : Bytes) (h : extent? b = .ok e) :
    extent? (b ++ behind) = .ok e := by
  unfold extent? at h ⊢
  cases ha : announced b with
  | error d => rw [ha] at h; cases h
  | ok a =>
    rw [ha] at h
    rw [announced_append behind ha]
    by_cases hb : a.total ≤ b.length
    · simp only [hb, if_true] at h
      have hb' : a.total ≤ (b ++ behind).length := by rw [List.length_append]; omega
      simp only [hb', if_true]
      exact h
    · simp [hb] at h

/-- A byte string that is one item, with nothing behind it. -/
def Whole (item : Bytes) : Prop := split? item = .ok (item, [])

theorem whole_iff {item : Bytes} : Whole item ↔ ∃ e, announced item = .ok e ∧ e.total = item.length := by
  constructor
  · intro h
    unfold Whole split? extent? at h
    split at h
    · cases h
    · rename_i e he
      split at he
      · cases he
      · rename_i a ha
        split at he <;> cases he
        rename_i hle
        injection h with h
        have hdrop : item.drop e.total = [] := congrArg Prod.snd h
        exact ⟨e, ha, Nat.le_antisymm hle (List.drop_eq_nil_iff.1 hdrop)⟩
  · rintro ⟨e, ha, ht⟩
    simp only [Whole, split?, extent?, ha, ht, Nat.le_refl, if_true, List.take_length, List.drop_length]

theorem Whole.ne_nil {item : Bytes} (h : Whole item) : item ≠ [] := by
  rintro rfl
  cases h

/-- A whole item is taken off whatever stands behind it. -/
theorem Whole.split {item : Bytes} (h : Whole item) (behind : Bytes) : split? (item ++ behind) = .ok (item, behind) := by
  obtain ⟨e, ha, ht⟩ := whole_iff.1 h
  have hext : extent? item = .ok e := by simp only [extent?, ha, ht, Nat.le_refl, if_true]
  simp only [split?, extent?_append behind hext, ht, List.take_left', List.drop_left']

/-- Whole items that follow one another are told apart. -/
theorem items_flatten {l : List Bytes} (h : ∀ item ∈ l, Whole item) {fuel : Nat} (hfuel : l.flatten.length ≤ fuel) :
    items fuel l.flatten = l := by
  induction l generalizing fuel with
  | nil =>
    cases fuel with
    | zero => rfl
    | succ fuel => rfl
  | cons item rest ih =>
    have hitem : Whole item := h item List.mem_cons_self
    have hpos : 0 < item.length := List.length_pos_iff.2 hitem.ne_nil
    rw [List.flatten_cons, List.length_append] at hfuel
    obtain ⟨left, rfl⟩ : ∃ left, fuel = left + 1 := ⟨fuel - 1, by omega⟩
    have hrest : items left rest.flatten = rest := by
      apply ih
      · intro i hi
        exact h i (List.mem_cons_of_mem _ hi)
      · omega
    rw [List.flatten_cons, items, hitem.split]
    simp only [hrest]

/-! ## Headers -/

theorem minimal_cons {len n : Nat} (hpos : 0 < n) (hn : n < Bytes.capacity len) :
    ∃ x rest, Bytes.minimal len n = x :: rest ∧ x ≠ 0 := by
  cases hm : Bytes.minimal len n with
  | nil =>
    have hzero := Bytes.toNat_minimal len n hn
    rw [hm, Bytes.toNat_nil] at hzero
    omega
  | cons x rest =>
    have hhead := Bytes.head?_minimal len n
    rw [hm] at hhead
    exact ⟨x, rest, rfl, fun hx => hhead (by rw [hx]; rfl)⟩

/-- A size of more than 55 bytes is read back from its own bytes. -/
theorem longExtent_size {len : Nat} (hlong : 55 < len) (hlen : len < UInt64.size) (behind : Bytes) :
    longExtent (Bytes.minimal 8 len).length (Bytes.minimal 8 len ++ behind) =
      .ok ⟨1 + (Bytes.minimal 8 len).length, len⟩ := by
  have hcap : len < Bytes.capacity 8 := hlen
  have hnat := Bytes.toNat_minimal 8 len hcap
  obtain ⟨x, rest, hm, hx⟩ := minimal_cons (by omega) hcap
  rw [hm] at hnat ⊢
  have hk : ¬(x :: (rest ++ behind)).length < (x :: rest).length := by
    simp only [List.length_cons, List.length_append]
    omega
  have htake : (x :: (rest ++ behind)).take (x :: rest).length = x :: rest := by
    rw [← List.cons_append, List.take_left']
    rfl
  simp only [longExtent, List.cons_append]
  rw [if_neg hx, if_neg hk, htake, hnat, if_neg (by omega)]

/-- What was read as a long size is the shortest form of that size. -/
theorem longExtent_minimal {k : Nat} {rest : Bytes} {e : Extent} (hk : k ≤ 8) (h : longExtent k rest = .ok e) :
    e.header = 1 + k ∧ Bytes.minimal 8 e.content = rest.take k ∧ (rest.take k).length = k ∧
      55 < e.content ∧ e.content < UInt64.size := by
  cases rest with
  | nil => cases h
  | cons x r =>
    simp only [longExtent] at h
    split at h
    · cases h
    · rename_i hx
      split at h
      · cases h
      · rename_i hlen
        split at h
        · cases h
        · rename_i hlong
          have htake : ((x :: r).take k).length = k := by
            rw [List.length_take]
            omega
          cases h
          refine ⟨rfl, ?_, htake, Nat.lt_of_not_le hlong, ?_⟩
          · apply Bytes.minimal_toNat
            · omega
            · -- The first byte of the size is not zero.
              cases k with
              | zero => simp
              | succ k => simpa using hx
          · have hcap : ∀ j ≤ 8, Bytes.capacity j ≤ UInt64.size := by decide
            have hlt := Bytes.toNat_lt ((x :: r).take k)
            rw [htake] at hlt
            exact Nat.lt_of_lt_of_le hlt (hcap k hk)

/-- The marks of strings and of lists. -/
def IsMark (mark : Nat) : Prop := mark = 0x80 ∨ mark = 0xc0

/-- A header's first byte tells the kind of its item. -/
theorem header_cons {mark : Nat} (hm : IsMark mark) (len : Nat) :
    ∃ x rest, header mark len = x :: rest ∧ mark ≤ x.toNat ∧ x.toNat < mark + 64 := by
  have hk := Bytes.length_minimal_le 8 len
  unfold header
  split
  · refine ⟨_, _, rfl, ?_, ?_⟩ <;> rw [UInt8.toNat_ofNat'] <;> rcases hm with rfl | rfl <;> omega
  · refine ⟨_, _, rfl, ?_, ?_⟩ <;> rw [UInt8.toNat_ofNat'] <;> rcases hm with rfl | rfl <;> omega

/-- A header announces itself and the content that it was written for. -/
theorem announced_header {mark len : Nat} (hm : IsMark mark) (hlen : len < UInt64.size) (behind : Bytes) :
    announced (header mark len ++ behind) = .ok ⟨(header mark len).length, len⟩ := by
  by_cases hshort : len ≤ 55
  · have hx : (UInt8.ofNat (mark + len)).toNat = mark + len := by
      rw [UInt8.toNat_ofNat']
      rcases hm with rfl | rfl <;> omega
    simp only [header, if_pos hshort, List.cons_append, List.nil_append, announced, hx]
    rcases hm with rfl | rfl
    · rw [if_neg (by omega), if_pos (by omega)]
      simp
    · rw [if_neg (by omega), if_neg (by omega), if_neg (by omega), if_pos (by omega)]
      simp
  · have hlong := longExtent_size (Nat.lt_of_not_le hshort) hlen behind
    have hk := Bytes.length_minimal_le 8 len
    have hcap : len < Bytes.capacity 8 := hlen
    obtain ⟨y, r, hy, -⟩ := minimal_cons (by omega) hcap
    have hpos : 0 < (Bytes.minimal 8 len).length := by simp [hy]
    have hx : (UInt8.ofNat (mark + 55 + (Bytes.minimal 8 len).length)).toNat =
        mark + 55 + (Bytes.minimal 8 len).length := by
      rw [UInt8.toNat_ofNat']
      rcases hm with rfl | rfl <;> omega
    simp only [header, if_neg hshort, List.cons_append, announced, hx, List.length_cons]
    rcases hm with rfl | rfl
    · rw [if_neg (by omega), if_neg (by omega), if_pos (by omega)]
      rw [show 0x80 + 55 + (Bytes.minimal 8 len).length - 0xb7 = (Bytes.minimal 8 len).length by omega, hlong,
        Nat.add_comm]
    · rw [if_neg (by omega), if_neg (by omega), if_neg (by omega), if_neg (by omega)]
      rw [show 0xc0 + 55 + (Bytes.minimal 8 len).length - 0xf7 = (Bytes.minimal 8 len).length by omega, hlong,
        Nat.add_comm]

/-- The mark of the item that begins with a byte. -/
def markOf (x : UInt8) : Nat := if x < 0xc0 then 0x80 else 0xc0

/-- A header that can be read is the one that is written for the content that it announces. -/
theorem header_of_announced {x : UInt8} {rest : Bytes} {e : Extent} (hx : 0x80 ≤ x.toNat)
    (h : announced (x :: rest) = .ok e) :
    header (markOf x) e.content = (x :: rest).take e.header ∧ e.content < UInt64.size := by
  have hlt := x.toNat_lt
  have hmark : markOf x = if x.toNat < 0xc0 then 0x80 else 0xc0 := by
    simp only [markOf, UInt8.lt_iff_toNat_lt]
    rfl
  have hself : ∀ n, n = x.toNat → UInt8.ofNat n = x := by
    intro n hn
    rw [hn, UInt8.ofNat_toNat]
  -- The two short and the two long forms, in the order of their first bytes.
  have hshort : ∀ mark, mark = markOf x → mark ≤ x.toNat → x.toNat - mark ≤ 55 → e = ⟨1, x.toNat - mark⟩ →
      header (markOf x) e.content = (x :: rest).take e.header ∧ e.content < UInt64.size := by
    rintro mark rfl hle h55 rfl
    have hb := hself (markOf x + (x.toNat - markOf x)) (by omega)
    refine ⟨?_, Nat.lt_of_le_of_lt h55 (by decide)⟩
    simp only [header, if_pos h55, hb, List.take_succ_cons, List.take_zero]
  have hlong : ∀ mark k, mark = markOf x → k ≤ 8 → x.toNat = mark + 55 + k → longExtent k rest = .ok e →
      header (markOf x) e.content = (x :: rest).take e.header ∧ e.content < UInt64.size := by
    rintro mark k rfl hk hxk hl
    obtain ⟨hhead, hmin, hlen, h55, hsize⟩ := longExtent_minimal hk hl
    refine ⟨?_, hsize⟩
    simp only [header, if_neg (Nat.not_le_of_lt h55), hmin, hlen, hself _ hxk.symm]
    rw [hhead, Nat.add_comm 1 k, List.take_succ_cons]
  simp only [announced] at h
  rw [if_neg (by omega)] at h
  split at h
  · rename_i hb7
    rw [if_pos (show x.toNat < 0xc0 by omega)] at hmark
    cases h
    exact hshort 0x80 hmark.symm hx (by omega) rfl
  · split at h
    · rename_i hbf
      rw [if_pos (show x.toNat < 0xc0 by omega)] at hmark
      exact hlong 0x80 (x.toNat - 0xb7) hmark.symm (by omega) (by omega) h
    · rename_i hbf
      rw [if_neg (show ¬x.toNat < 0xc0 by omega)] at hmark
      split at h
      · rename_i hf7
        cases h
        exact hshort 0xc0 hmark.symm (by omega) (by omega) rfl
      · exact hlong 0xc0 (x.toNat - 0xf7) hmark.symm (by omega) (by omega) h

/-! ## What is written is whole -/

theorem whole_header {mark : Nat} (hm : IsMark mark) {content : Bytes} (h : content.length < UInt64.size) :
    Whole (header mark content.length ++ content) := by
  apply whole_iff.2
  refine ⟨_, announced_header hm h content, ?_⟩
  rw [Extent.total, List.length_append]

/-- A single small byte stands for itself, and every other string has a header. -/
theorem string_cases (b : Bytes) :
    (∃ x : UInt8, x.toNat < 0x80 ∧ b = [x] ∧ string b = [x]) ∨
      (∀ x, b = [x] → 0x80 ≤ x.toNat) ∧ string b = header 0x80 b.length ++ b := by
  unfold string
  split
  · rename_i x
    by_cases hx : x < 0x80
    · exact .inl ⟨x, UInt8.lt_iff_toNat_lt.1 hx, rfl, if_pos hx⟩
    · right
      rw [UInt8.lt_iff_toNat_lt] at hx
      refine ⟨?_, by rw [if_neg (by rwa [UInt8.lt_iff_toNat_lt])]; rfl⟩
      intro y hy
      cases hy
      exact Nat.le_of_not_lt hx
  · rename_i hne
    exact .inr ⟨fun x hx => absurd hx (hne x), rfl⟩

theorem whole_string {b : Bytes} (h : b.length < UInt64.size) : Whole (string b) := by
  obtain ⟨x, hx, rfl, hs⟩ | ⟨-, hs⟩ := string_cases b
  · rw [hs]
    apply whole_iff.2
    refine ⟨⟨0, 1⟩, ?_, rfl⟩
    simp only [announced]
    rw [if_pos (by omega)]
  · rw [hs]
    exact whole_header (.inl rfl) h

theorem whole_list {entries : List Bytes} (h : entries.flatten.length < UInt64.size) : Whole (list entries) :=
  whole_header (.inr rfl) h

/-- A written list is opened to its entries. -/
theorem ListView.of?_list {entries : List Bytes} (hw : ∀ entry ∈ entries, Whole entry)
    (hlen : entries.flatten.length < UInt64.size) :
    ListView.of? (list entries) = .ok ⟨entries, entries.flatten.length⟩ := by
  obtain ⟨x, rest, hx, hmark, -⟩ := header_cons (.inr rfl : IsMark 0xc0) entries.flatten.length
  have hann : announced (list entries) = _ := announced_header (.inr rfl) hlen entries.flatten
  have hext : extent? (list entries) = .ok ⟨(header 0xc0 entries.flatten.length).length, entries.flatten.length⟩ := by
    have hle : (header 0xc0 entries.flatten.length).length + entries.flatten.length ≤ (list entries).length :=
      Nat.le_of_eq (by rw [list, List.length_append])
    simp only [extent?, hann, Extent.total, hle, if_true]
  have hcons : list entries = x :: (rest ++ entries.flatten) := by rw [list, hx, List.cons_append]
  have hlist : ¬x < 0xc0 := by
    rw [UInt8.lt_iff_toNat_lt]
    exact Nat.not_lt_of_le hmark
  have hdrop : (list entries).drop (header 0xc0 entries.flatten.length).length = entries.flatten := by
    rw [list, List.drop_left']
    rfl
  unfold ListView.of?
  simp only [hcons, if_neg hlist]
  simp only [← hcons, hext, hdrop, List.take_length]
  cases entries with
  | nil => rfl
  | cons first others =>
    -- Behind the first entry stand the others, and nothing else.
    have hfirst : Whole first := hw first List.mem_cons_self
    have hothers : ∀ entry ∈ others, Whole entry := fun entry he => hw entry (List.mem_cons_of_mem _ he)
    have hrest : (list (first :: others)).drop ((header 0xc0 (first :: others).flatten.length).length + first.length) =
        others.flatten := by
      rw [← List.drop_drop, hdrop, List.flatten_cons, List.drop_left']
      rfl
    simp only [List.flatten_cons] at hrest ⊢
    rw [hfirst.split]
    simp only [hrest, items_flatten hothers (Nat.le_refl _)]

/-! ## Nothing left over -/

/-- Whether a byte string begins with a list. -/
def isList : Bytes → Bool
  | [] => false
  | x :: _ => decide (0xc0 ≤ x)

/-- What stands behind the header of the first item. -/
def payload (item : Bytes) : Bytes :=
  match announced item with
  | .error _ => []
  | .ok e => item.drop e.header

/-- A byte string in which nothing is left over: one item, and each list in it is filled by its entries. -/
inductive Exact : Bytes → Prop
  | string {item : Bytes} (whole : Whole item) (kind : isList item = false) : Exact item
  | list {item : Bytes} {entries : List Bytes} (whole : Whole item) (kind : isList item = true)
      (filled : payload item = entries.flatten) (inner : ∀ entry ∈ entries, Exact entry) : Exact item

theorem Exact.whole {item : Bytes} (h : Exact item) : Whole item := by
  cases h <;> assumption

theorem isList_header {mark len : Nat} (hm : IsMark mark) (content : Bytes) :
    isList (header mark len ++ content) = decide (mark = 0xc0) := by
  obtain ⟨x, rest, hx, hle, hlt⟩ := header_cons hm len
  simp only [hx, List.cons_append, isList, decide_eq_decide, UInt8.le_iff_toNat_le]
  have hc0 : (0xc0 : UInt8).toNat = 0xc0 := rfl
  rw [hc0]
  rcases hm with rfl | rfl <;> omega

theorem length_le_string (b : Bytes) : b.length ≤ (string b).length := by
  obtain ⟨x, -, rfl, hs⟩ | ⟨-, hs⟩ := string_cases b
  · exact Nat.le_of_eq (congrArg List.length hs.symm)
  · rw [hs, List.length_append]
    omega

theorem length_header_le (mark len : Nat) : (header mark len).length ≤ 9 := by
  unfold header
  split
  · simp
  · have hsize := Bytes.length_minimal_le 8 len
    rw [List.length_cons]
    omega

theorem length_string_le (b : Bytes) : (string b).length ≤ b.length + 9 := by
  obtain ⟨x, -, rfl, hs⟩ | ⟨-, hs⟩ := string_cases b
  · rw [hs]
    omega
  · have hheader := length_header_le 0x80 b.length
    rw [hs, List.length_append]
    omega

theorem flatten_le_list (entries : List Bytes) : entries.flatten.length ≤ (list entries).length := by
  rw [list, List.length_append]
  omega

theorem exact_string {b : Bytes} (h : (string b).length < UInt64.size) : Exact (string b) := by
  apply Exact.string (whole_string (Nat.lt_of_le_of_lt (length_le_string b) h))
  obtain ⟨x, hx, -, hs⟩ | ⟨-, hs⟩ := string_cases b
  · rw [hs, isList, decide_eq_false_iff_not, UInt8.le_iff_toNat_le]
    have hc0 : (0xc0 : UInt8).toNat = 0xc0 := rfl
    omega
  · rw [hs]
    exact isList_header (.inl rfl) b

/-- The entries of a list are no longer than the list. -/
theorem length_entry_lt {entries : List Bytes} {entry : Bytes} (he : entry ∈ entries)
    (h : (list entries).length < UInt64.size) : entry.length < UInt64.size := by
  have hsub := (List.sublist_flatten_of_mem he).length_le
  exact Nat.lt_of_le_of_lt (Nat.le_trans hsub (flatten_le_list entries)) h

section
variable {entries : List Bytes}

theorem exact_entries (hi : ∀ entry ∈ entries, entry.length < UInt64.size → Exact entry)
    (h : (list entries).length < UInt64.size) : ∀ entry ∈ entries, Exact entry :=
  fun entry he => hi entry he (length_entry_lt he h)

/-- A list of such entries is opened to them. -/
theorem exact_list_opens (hi : ∀ entry ∈ entries, entry.length < UInt64.size → Exact entry)
    (h : (list entries).length < UInt64.size) :
    ListView.of? (list entries) = .ok ⟨entries, entries.flatten.length⟩ := by
  apply ListView.of?_list
  · intro entry he
    exact (exact_entries hi h entry he).whole
  · exact Nat.lt_of_le_of_lt (flatten_le_list entries) h

theorem exact_list (hi : ∀ entry ∈ entries, entry.length < UInt64.size → Exact entry)
    (h : (list entries).length < UInt64.size) : Exact (list entries) := by
  have hlen : entries.flatten.length < UInt64.size := Nat.lt_of_le_of_lt (flatten_le_list entries) h
  refine .list (whole_list hlen) (isList_header (.inr rfl) _) ?_ (exact_entries hi h)
  rw [payload, list, announced_header (.inr rfl) hlen]
  simp only [List.drop_left']

end

/-- Where nothing is left over, a list is the written form of the entries that it is opened to. -/
theorem Exact.opened {item : Bytes} {v : ListView} (h : Exact item) (hv : ListView.of? item = .ok v) :
    ∃ entries, item = Rlp.list entries ∧ v = ⟨entries, entries.flatten.length⟩ ∧ ∀ entry ∈ entries, Exact entry := by
  cases h with
  | string whole kind =>
    -- A string is not opened.
    cases item with
    | nil => cases hv
    | cons x rest =>
      have hx : x < 0xc0 := by simpa [isList] using kind
      simp [ListView.of?, hx] at hv
  | @list _ entries whole kind filled inner =>
    obtain ⟨e, ha, ht⟩ := whole_iff.1 whole
    cases item with
    | nil => cases kind
    | cons x rest =>
      have hx : 0xc0 ≤ x.toNat := by
        have hle := UInt8.le_iff_toNat_le.1 (of_decide_eq_true kind)
        exact hle
      have hmark : markOf x = 0xc0 := if_neg (by rw [UInt8.lt_iff_toNat_lt]; exact Nat.not_lt_of_le hx)
      obtain ⟨hhead, hsize⟩ := header_of_announced (by omega) ha
      rw [payload, ha] at filled
      dsimp only at filled
      have hcontent : e.content = entries.flatten.length := by
        rw [← filled, List.length_drop, ← ht, Extent.total]
        omega
      have hlist : x :: rest = Rlp.list entries := by
        rw [Rlp.list, ← hcontent, ← hmark, hhead, ← filled, List.take_append_drop]
      have hopen := ListView.of?_list (fun entry he => (inner entry he).whole) (hcontent ▸ hsize)
      rw [hlist, hopen] at hv
      cases hv
      exact ⟨entries, hlist, rfl, inner⟩

end EvmClient.Rlp
