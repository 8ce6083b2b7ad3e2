import EvmClient.Json.Reader
import EvmClient.Json.Writer
import Mathlib.Data.List.TakeDrop

/-
JSON text reads back.

   What `write` makes of a value, `readValue` takes apart again, whatever stands behind it, as long as this does not
   go on with a number. The steps that the reader may take are bounded by the length of the text.

   1. `stringBody_writeString` — the characters of a string, escaped or not.
   2. `number?_writeNumber` — numbers.
   3. `readValue_write` — whole values, by recursion on them.
   4. `read?_write` — a text of its own.
   5. `unbroken_write` — no control character stands in a text. -/
namespace EvmClient

theorem Hex.value?_digit : ∀ v, v < 16 → Hex.value? (Hex.digit v) = some v := by decide

namespace Json

/-! ## What reads back -/

/-- A number that reads back: an integer of 64 bits, signed or not, or one with an exponent. -/
def Number.Fits : Number → Prop
  | .integer i => -(UInt64.size / 2 : Nat) ≤ i ∧ i < UInt64.size
  | .real _ _ => True

mutual

/-- A value all of whose strings denote characters and whose integers have 64 bits. -/
def Plain : Json → Prop
  | .broken => False
  | .number n => n.Fits
  | .array elements => PlainElements elements
  | .object members => PlainMembers members
  | _ => True

def PlainElements : List Json → Prop
  | [] => True
  | v :: rest => Plain v ∧ PlainElements rest

def PlainMembers : List (String × Json) → Prop
  | [] => True
  | (_, v) :: rest => Plain v ∧ PlainMembers rest

end

/-- A text that does not go on with a number. -/
def EndsNumber (rest : List Char) : Prop := ∀ c ∈ rest.head?, c.isDigit = false ∧ c ≠ '.' ∧ c ≠ 'e' ∧ c ≠ 'E'

/-! ## Strings -/

/-- A control character that has no letter is read off its two digits. -/
theorem escaped?_unit {c : Char} (hc : c.toNat < 32) (rest : List Char) :
    escaped? ('u' :: '0' :: '0' :: Hex.digit (c.toNat / 16) :: Hex.digit (c.toNat % 16) :: rest) = some (some c, rest) := by
  have hzero : Hex.value? '0' = some 0 := by decide
  have hunit : unit? ('0' :: '0' :: Hex.digit (c.toNat / 16) :: Hex.digit (c.toNat % 16) :: rest) =
      some (c.toNat, rest) := by
    have hcode : ((0 * 16 + 0) * 16 + c.toNat / 16) * 16 + c.toNat % 16 = c.toNat := by omega
    simp only [unit?, hzero, Hex.value?_digit _ (by omega : c.toNat / 16 < 16),
      Hex.value?_digit _ (by omega : c.toNat % 16 < 16)]
    simp only [Option.bind_eq_bind, Option.bind_some, Option.pure_def, hcode]
  unfold escaped?
  simp only [hunit]
  rw [if_pos (.inl (by omega)), Char.ofNat_toNat]

theorem stringBody_escaped {fuel : Nat} {c : Char} {cs rest : List Char} (h : escaped? cs = some (some c, rest)) :
    stringBody (fuel + 1) ('\\' :: cs) = (stringBody fuel rest).map fun p => (p.1.map (c :: ·), p.2) := by
  simp only [stringBody, h]
  rcases stringBody fuel rest with _ | ⟨_ | body, rest⟩
  · rfl
  · rfl
  · rfl

/-- A character takes one step, escaped or not. -/
theorem stringBody_escape (fuel : Nat) (c : Char) (rest : List Char) :
    stringBody (fuel + 1) (escape c ++ rest) = (stringBody fuel rest).map fun p => (p.1.map (c :: ·), p.2) := by
  unfold escape
  -- The seven characters that have an escape of one letter.
  iterate 7
    split
    · subst c
      exact stringBody_escaped rfl
  split
  · rename_i hcontrol
    exact stringBody_escaped (escaped?_unit hcontrol rest)
  · rename_i hquote hbackslash _ _ _ _ _ hplain
    rw [List.singleton_append, stringBody, if_neg hplain]
    · rcases stringBody fuel rest with _ | ⟨body, rest⟩
      · rfl
      · rfl
    · exact hquote
    · exact hbackslash

/-- The characters up to the closing quote are those that were written. -/
theorem stringBody_writeString {fuel : Nat} {cs : List Char} (hfuel : cs.length < fuel) (rest : List Char) :
    stringBody fuel (cs.flatMap escape ++ '"' :: rest) = some (some cs, rest) := by
  induction cs generalizing fuel with
  | nil =>
    obtain ⟨fuel, rfl⟩ : ∃ n, fuel = n + 1 := ⟨fuel - 1, by simp at hfuel; omega⟩
    rfl
  | cons c cs ih =>
    obtain ⟨fuel, rfl⟩ : ∃ n, fuel = n + 1 := ⟨fuel - 1, by simp at hfuel; omega⟩
    have hrest : cs.length < fuel := by simpa using hfuel
    rw [List.flatMap_cons, List.append_assoc, stringBody_escape, ih hrest]
    rfl

theorem length_escape_pos (c : Char) : 1 ≤ (escape c).length := by
  unfold escape
  repeat' split
  all_goals simp

theorem length_le_flatMap_escape (cs : List Char) : cs.length ≤ (cs.flatMap escape).length := by
  induction cs with
  | nil => simp
  | cons c cs ih =>
    have hc := length_escape_pos c
    simp only [List.flatMap_cons, List.length_append, List.length_cons]
    omega

/-! ## Numbers -/

theorem EndsNumber.noDigit {rest : List Char} (h : EndsNumber rest) : ∀ c ∈ rest.head?, c.isDigit = false :=
  fun c hc => (h c hc).1

theorem takeDigits_append {ds rest : List Char} (hds : ∀ c ∈ ds, c.isDigit = true)
    (hrest : ∀ c ∈ rest.head?, c.isDigit = false) : takeDigits (ds ++ rest) = (ds, rest) := by
  have htake : rest.takeWhile Char.isDigit = [] ∧ rest.dropWhile Char.isDigit = rest := by
    cases rest with
    | nil => exact ⟨rfl, rfl⟩
    | cons c rest => simp [hrest c rfl]
  rw [takeDigits, List.span_eq_takeWhile_dropWhile, List.takeWhile_append_of_pos hds, List.dropWhile_append_of_pos hds,
    htake.1, htake.2, List.append_nil]

theorem fraction?_ends {rest : List Char} (h : ∀ c ∈ rest.head?, c ≠ '.') : fraction? rest = some (none, rest) := by
  unfold fraction?
  split
  · exact absurd rfl (h '.' rfl)
  · rfl

theorem exponent?_ends {rest : List Char} (h : EndsNumber rest) : exponent? rest = some (none, rest) := by
  unfold exponent?
  split
  · rename_i c rest
    obtain ⟨-, -, he, hE⟩ := h c rfl
    rw [if_neg (by simp [he, hE])]
  · rfl

/-- The sign of an integer and its digits. -/
theorem writeInt_cases (i : Int) : (i < 0 ∧ writeInt i = '-' :: Decimal.digits i.natAbs) ∨
    (0 ≤ i ∧ writeInt i = Decimal.digits i.natAbs) := by
  unfold writeInt
  split
  · rename_i h
    exact .inl ⟨h, rfl⟩
  · rename_i h
    exact .inr ⟨by omega, rfl⟩

theorem number?_digits (n : Nat) (rest : List Char) :
    number? (Decimal.digits n ++ rest) = unsignedNumber? false (Decimal.digits n ++ rest) := by
  obtain ⟨c, ds, hc⟩ := List.exists_cons_of_ne_nil (Decimal.digits_spec n).1
  have hdigit : c.isDigit = true := Decimal.isDigit_digits _ c (hc ▸ List.mem_cons_self)
  rw [hc, List.cons_append]
  unfold number?
  split
  · rename_i h
    cases h
    cases hdigit
  · rfl

theorem number?_writeInt (i : Int) (rest : List Char) :
    number? (writeInt i ++ rest) = unsignedNumber? (decide (i < 0)) (Decimal.digits i.natAbs ++ rest) := by
  rcases writeInt_cases i with ⟨hi, h⟩ | ⟨hi, h⟩
  · rw [h, decide_eq_true hi]
    rfl
  · rw [h, decide_eq_false (by omega), number?_digits]

/-- The exponent of a number, with its sign. -/
theorem exponent?_writeInt (e : Int) {rest : List Char} (h : EndsNumber rest) :
    exponent? ('e' :: (writeInt e ++ rest)) = some (some e, rest) := by
  obtain ⟨n, hn⟩ : ∃ n, n = e.natAbs := ⟨_, rfl⟩
  have hdigits := takeDigits_append (Decimal.isDigit_digits n) h.noDigit
  obtain ⟨c, ds, hc⟩ := List.exists_cons_of_ne_nil (Decimal.digits_spec n).1
  have hdigit : c.isDigit = true := Decimal.isDigit_digits _ c (hc ▸ List.mem_cons_self)
  have hvalue := (Decimal.digits_spec n).2.2
  rw [hc] at hdigits hvalue
  rcases writeInt_cases e with ⟨he, hwrite⟩ | ⟨he, hwrite⟩
  · have hint : -(n : Int) = e := by omega
    rw [hwrite, ← hn, hc]
    simp only [exponent?, List.cons_append] at hdigits ⊢
    simp [hdigits, hvalue, hint]
  · have hint : (n : Int) = e := by omega
    have hminus : c ≠ '-' := Decimal.ne_of_isDigit hdigit (by decide)
    have hplus : c ≠ '+' := Decimal.ne_of_isDigit hdigit (by decide)
    rw [hwrite, ← hn, hc]
    simp only [exponent?, List.cons_append] at hdigits ⊢
    simp [hminus, hplus, hdigits, hvalue, hint]

theorem no_leading_zero (n : Nat) : ¬((Decimal.digits n).length > 1 ∧ (Decimal.digits n).head? = some '0') := by
  rintro ⟨hlength, hhead⟩
  rcases Nat.eq_zero_or_pos n with rfl | hn
  · exact absurd hlength (by decide)
  · exact Decimal.head?_digits hn hhead

theorem unsignedNumber?_integer (negative : Bool) (n : Nat) {rest : List Char} (h : EndsNumber rest) :
    unsignedNumber? negative (Decimal.digits n ++ rest) = some (integerNumber negative n, rest) := by
  have hdigits := takeDigits_append (Decimal.isDigit_digits n) h.noDigit
  have hfraction : fraction? rest = some (none, rest) := fraction?_ends fun c hc => (h c hc).2.1
  obtain ⟨hnonempty, -, hvalue⟩ := Decimal.digits_spec n
  have hzero := no_leading_zero n
  obtain ⟨c, ds, hc⟩ := List.exists_cons_of_ne_nil hnonempty
  rw [hc] at hdigits hvalue hzero
  unfold unsignedNumber?
  rw [hc, hdigits]
  simp only [if_neg hzero, hfraction, exponent?_ends h, hvalue]

theorem unsignedNumber?_real (negative : Bool) (n : Nat) (e : Int) {rest : List Char} (h : EndsNumber rest) :
    unsignedNumber? negative (Decimal.digits n ++ 'e' :: (writeInt e ++ rest)) =
      some (.real (if negative then -(n : Int) else n) e, rest) := by
  have hmark : ∀ c ∈ ('e' :: (writeInt e ++ rest)).head?, c.isDigit = false := by simp
  have hdigits := takeDigits_append (Decimal.isDigit_digits n) hmark
  have hfraction : fraction? ('e' :: (writeInt e ++ rest)) = some (none, 'e' :: (writeInt e ++ rest)) :=
    fraction?_ends (by simp)
  obtain ⟨hnonempty, -, hvalue⟩ := Decimal.digits_spec n
  have hzero := no_leading_zero n
  obtain ⟨c, ds, hc⟩ := List.exists_cons_of_ne_nil hnonempty
  rw [hc] at hdigits hvalue hzero
  unfold unsignedNumber?
  rw [hc, hdigits]
  simp only [if_neg hzero, hfraction, exponent?_writeInt e h]
  simp [hvalue]

/-- A number reads back where its text ends. -/
theorem number?_writeNumber {n : Number} (hn : n.Fits) {rest : List Char} (h : EndsNumber rest) :
    number? (writeNumber n ++ rest) = some (n, rest) := by
  cases n with
  | integer i =>
    obtain ⟨hlo, hhi⟩ := hn
    rw [writeNumber, number?_writeInt, unsignedNumber?_integer _ _ h]
    unfold integerNumber
    by_cases hi : i < 0
    · have hneg : -(i.natAbs : Int) = i := by omega
      rw [decide_eq_true hi, if_pos rfl, if_pos ⟨by omega, by omega⟩, hneg]
    · have hpos : (i.natAbs : Int) = i := by omega
      rw [decide_eq_false hi, if_neg (by decide), if_pos (by omega), hpos]
  | real m e =>
    rw [writeNumber, List.append_assoc, List.cons_append, number?_writeInt, unsignedNumber?_real _ _ _ h]
    by_cases hm : m < 0
    · have hneg : -(m.natAbs : Int) = m := by omega
      rw [if_pos (decide_eq_true hm), hneg]
    · have hpos : (m.natAbs : Int) = m := by omega
      rw [if_neg (by simpa using hm), hpos]

/-! ## Values -/

theorem writeNumber_cons (n : Number) : ∃ c cs, writeNumber n = c :: cs ∧ (c = '-' ∨ c.isDigit = true) := by
  have hint : ∀ i, ∃ c cs, writeInt i = c :: cs ∧ (c = '-' ∨ c.isDigit = true) := by
    intro i
    rcases writeInt_cases i with ⟨-, h⟩ | ⟨-, h⟩
    · exact ⟨_, _, h, .inl rfl⟩
    · obtain ⟨c, cs, hc⟩ := List.exists_cons_of_ne_nil (Decimal.digits_spec i.natAbs).1
      exact ⟨c, cs, h.trans hc, .inr (Decimal.isDigit_digits _ c (hc ▸ List.mem_cons_self))⟩
  cases n with
  | integer i => exact hint i
  | real m e =>
    obtain ⟨c, cs, hc, hfirst⟩ := hint m
    exact ⟨c, cs ++ 'e' :: writeInt e, by rw [writeNumber, hc, List.cons_append], hfirst⟩

/-- The text of a value starts with no blank and closes nothing. -/
theorem write_cons (v : Json) : ∃ c cs, write v = c :: cs ∧ isBlank c = false ∧ c ≠ ']' := by
  cases v with
  | null => exact ⟨_, _, rfl, by decide, by decide⟩
  | bool b => cases b <;> exact ⟨_, _, rfl, by decide, by decide⟩
  | number n =>
    obtain ⟨c, cs, hc, hfirst⟩ := writeNumber_cons n
    refine ⟨c, cs, hc, ?_⟩
    rcases hfirst with rfl | hdigit
    · decide
    · simp only [isBlank, Bool.or_eq_false_iff, beq_eq_false_iff_ne]
      refine ⟨⟨⟨⟨?_, ?_⟩, ?_⟩, ?_⟩, ?_⟩
      all_goals
        rintro rfl
        cases hdigit
  | string s => exact ⟨_, _, rfl, by decide, by decide⟩
  | broken => exact ⟨_, _, rfl, by decide, by decide⟩
  | array vs => cases vs <;> exact ⟨_, _, rfl, by decide, by decide⟩
  | object ms => cases ms <;> exact ⟨_, _, rfl, by decide, by decide⟩

theorem write_object (members : List (String × Json)) : ∃ cs, write (.object members) = '{' :: cs := by
  cases members with
  | nil => exact ⟨_, rfl⟩
  | cons m rest => exact ⟨_, rfl⟩

theorem skip_cons {c : Char} (hc : isBlank c = false) (cs : List Char) : skip (c :: cs) = c :: cs :=
  List.dropWhile_cons_of_neg (by simp [hc])

theorem skip_write (v : Json) (rest : List Char) : skip (write v ++ rest) = write v ++ rest := by
  obtain ⟨c, cs, hc, hblank, -⟩ := write_cons v
  rw [hc, List.cons_append, skip_cons hblank]

theorem endsNumber_elements (vs : List Json) (rest : List Char) : EndsNumber (writeElements vs ++ rest) := by
  cases vs with
  | nil => simp [EndsNumber, writeElements]
  | cons v vs => simp [EndsNumber, writeElements]

theorem endsNumber_members (ms : List (String × Json)) (rest : List Char) : EndsNumber (writeMembers ms ++ rest) := by
  cases ms with
  | nil => simp [EndsNumber, writeMembers]
  | cons m ms => simp [EndsNumber, writeMembers]

theorem length_lt_writeString (s : String) : s.toList.length + 2 ≤ (writeString s).length := by
  have := length_le_flatMap_escape s.toList
  simp only [writeString, List.length_cons, List.length_append, List.length_nil]
  omega

/-- A member as it is read. -/
def rawMember (m : String × Json) : RawMember := (some m.1.toList, m.2)

theorem objectOf_raw (ms : List (String × Json)) : objectOf (ms.map rawMember) = .object ms := by
  have hmembers : ∀ f : RawMember → Option (String × Json), (∀ m, f (rawMember m) = some m) →
      (ms.map rawMember).mapM f = some ms := by
    intro f hf
    induction ms with
    | nil => rfl
    | cons m ms ih =>
      rw [List.map_cons, List.mapM_cons, hf m, ih]
      rfl
  unfold objectOf
  rw [hmembers]
  intro m
  simp [rawMember]

theorem readMember_write {name : String} {v : Json} {fuel : Nat} {rest : List Char}
    (hname : (writeString name).length ≤ fuel + 1) (hv : readValue fuel (write v ++ rest) = some (v, rest)) :
    readMember (fuel + 1) (writeString name ++ ':' :: (write v ++ rest)) = some (rawMember (name, v), rest) := by
  have hlength := length_lt_writeString name
  have hbody := stringBody_writeString (by omega : name.toList.length < fuel) (':' :: (write v ++ rest))
  have htext : writeString name ++ ':' :: (write v ++ rest) =
      '"' :: (name.toList.flatMap escape ++ '"' :: ':' :: (write v ++ rest)) := by
    simp [writeString]
  have hquote : isBlank '"' = false := by decide
  have hcolon : isBlank ':' = false := by decide
  rw [htext, readMember, skip_cons hquote]
  simp only [hbody, skip_cons hcolon, hv]
  rfl

/-- What starts like a number is read as one. -/
theorem readValue_number {n : Number} (hn : n.Fits) (fuel : Nat) {rest : List Char} (hrest : EndsNumber rest) :
    readValue (fuel + 1) (writeNumber n ++ rest) = some (.number n, rest) := by
  have hnumber := number?_writeNumber hn hrest
  have hskip : skip (writeNumber n ++ rest) = writeNumber n ++ rest := skip_write (.number n) rest
  obtain ⟨c, cs, hc, hfirst⟩ := writeNumber_cons n
  have hother : ∀ d : Char, d ≠ '-' → d.isDigit = false → c ≠ d := by
    rintro d hminus hdigit rfl
    rcases hfirst with rfl | hfirst
    · exact hminus rfl
    · rw [hfirst] at hdigit
      cases hdigit
  have hn := hother 'n' (by decide) (by decide)
  have ht := hother 't' (by decide) (by decide)
  have hf := hother 'f' (by decide) (by decide)
  have hquote := hother '"' (by decide) (by decide)
  have hbracket := hother '[' (by decide) (by decide)
  have hbrace := hother '{' (by decide) (by decide)
  rw [readValue, hskip]
  rw [hc, List.cons_append] at hnumber ⊢
  simp [hn, ht, hf, hquote, hbracket, hbrace, hnumber]

mutual

-- Each reader spends one step on the character in front of it, so the length of the text bounds the steps of all.

/-- The text of a value is read as that value, whatever follows that is no more of a number. -/
theorem readValue_write (v : Json) (hv : v.Plain) {fuel : Nat} (hfuel : (write v).length ≤ fuel) {rest : List Char}
    (hrest : EndsNumber rest) : readValue fuel (write v ++ rest) = some (v, rest) := by
  obtain ⟨fuel, rfl⟩ : ∃ n, fuel = n + 1 := by
    obtain ⟨c, cs, hc, -⟩ := write_cons v
    rw [hc, List.length_cons] at hfuel
    exact ⟨fuel - 1, by omega⟩
  match v with
  | .null => rfl
  | .bool true => rfl
  | .bool false => rfl
  | .number n => exact readValue_number hv fuel hrest
  | .string s =>
    have hlength := length_lt_writeString s
    rw [write] at hfuel
    have hbody := stringBody_writeString (by omega : s.toList.length < fuel) rest
    rw [write, writeString, List.cons_append, List.append_assoc, readValue, skip_cons (by decide)]
    simp only [List.singleton_append, hbody, String.ofList_toList]
  | .broken => exact hv.elim
  | .array [] => rfl
  | .array (v :: vs) =>
    obtain ⟨hv, hvs⟩ := hv
    rw [write, List.length_cons, List.length_append] at hfuel
    have hhead : readValue fuel (write v ++ (writeElements vs ++ rest)) = some (v, writeElements vs ++ rest) :=
      readValue_write v hv (by omega) (endsNumber_elements vs rest)
    have htail : readElements fuel (writeElements vs ++ rest) = some (vs, rest) :=
      readElements_write vs hvs (by omega) rest
    have hskip := skip_write v (writeElements vs ++ rest)
    -- The array is not taken for an empty one.
    obtain ⟨c, cs, hc, -, hclose⟩ := write_cons v
    rw [write, List.cons_append, List.append_assoc, readValue, skip_cons (by decide)]
    rw [hc, List.cons_append] at hskip hhead ⊢
    simp [hskip, hclose, hhead, htail]
  | .object [] => rfl
  | .object ((name, v) :: ms) =>
    obtain ⟨hv, hms⟩ := hv
    rw [write, List.length_cons, List.length_append, List.length_cons, List.length_append] at hfuel
    obtain ⟨fuel, rfl⟩ : ∃ n, fuel = n + 1 := ⟨fuel - 1, by omega⟩
    have hname : (writeString name).length ≤ fuel + 1 := by omega
    have hvalue : readValue fuel (write v ++ (writeMembers ms ++ rest)) = some (v, writeMembers ms ++ rest) :=
      readValue_write v hv (by omega) (endsNumber_members ms rest)
    have hhead := readMember_write hname hvalue
    have htail : readMembers (fuel + 1) (writeMembers ms ++ rest) = some (ms.map rawMember, rest) :=
      readMembers_write ms hms (by omega) rest
    have htext : write (.object ((name, v) :: ms)) ++ rest =
        '{' :: (writeString name ++ ':' :: (write v ++ (writeMembers ms ++ rest))) := by
      simp [write]
    rw [htext, readValue, skip_cons (by decide)]
    obtain ⟨text, hquote⟩ : ∃ text, writeString name ++ ':' :: (write v ++ (writeMembers ms ++ rest)) = '"' :: text :=
      ⟨_, rfl⟩
    rw [hquote] at hhead ⊢
    have hobject := objectOf_raw ((name, v) :: ms)
    rw [List.map_cons] at hobject
    simp [skip_cons (by decide : isBlank '"' = false), hhead, htail, hobject]

theorem readElements_write (vs : List Json) (hvs : PlainElements vs) {fuel : Nat}
    (hfuel : (writeElements vs).length ≤ fuel) (rest : List Char) :
    readElements fuel (writeElements vs ++ rest) = some (vs, rest) := by
  match vs with
  | [] =>
    obtain ⟨fuel, rfl⟩ : ∃ n, fuel = n + 1 := ⟨fuel - 1, by simp [writeElements] at hfuel; omega⟩
    rfl
  | v :: vs =>
    obtain ⟨hv, hvs⟩ := hvs
    rw [writeElements, List.length_cons, List.length_append] at hfuel
    obtain ⟨fuel, rfl⟩ : ∃ n, fuel = n + 1 := ⟨fuel - 1, by omega⟩
    have hhead : readValue fuel (write v ++ (writeElements vs ++ rest)) = some (v, writeElements vs ++ rest) :=
      readValue_write v hv (by omega) (endsNumber_elements vs rest)
    have htail : readElements fuel (writeElements vs ++ rest) = some (vs, rest) :=
      readElements_write vs hvs (by omega) rest
    rw [writeElements, List.cons_append, List.append_assoc, readElements, skip_cons (by decide)]
    simp only [hhead, htail]

theorem readMembers_write (ms : List (String × Json)) (hms : PlainMembers ms) {fuel : Nat}
    (hfuel : (writeMembers ms).length ≤ fuel) (rest : List Char) :
    readMembers fuel (writeMembers ms ++ rest) = some (ms.map rawMember, rest) := by
  match ms with
  | [] =>
    obtain ⟨fuel, rfl⟩ : ∃ n, fuel = n + 1 := ⟨fuel - 1, by simp [writeMembers] at hfuel; omega⟩
    rfl
  | (name, v) :: ms =>
    obtain ⟨hv, hms⟩ := hms
    rw [writeMembers, List.length_cons, List.length_append, List.length_cons, List.length_append] at hfuel
    have hstring := length_lt_writeString name
    obtain ⟨fuel, rfl⟩ : ∃ n, fuel = n + 2 := ⟨fuel - 2, by omega⟩
    have hname : (writeString name).length ≤ fuel + 1 := by omega
    have hvalue : readValue fuel (write v ++ (writeMembers ms ++ rest)) = some (v, writeMembers ms ++ rest) :=
      readValue_write v hv (by omega) (endsNumber_members ms rest)
    have hhead := readMember_write hname hvalue
    have htail : readMembers (fuel + 1) (writeMembers ms ++ rest) = some (ms.map rawMember, rest) :=
      readMembers_write ms hms (by omega) rest
    have htext : writeMembers ((name, v) :: ms) ++ rest =
        ',' :: (writeString name ++ ':' :: (write v ++ (writeMembers ms ++ rest))) := by
      simp [writeMembers]
    rw [htext, readMembers, skip_cons (by decide)]
    simp only [hhead, htail, List.map_cons]

end

/-- The text of a value is read as that value. -/
theorem read?_write {v : Json} (hv : v.Plain) : read? (write v) = some v := by
  have hends : EndsNumber [] := by simp [EndsNumber]
  have hfuel : (write v).length ≤ 2 * (write v).length + 2 := by omega
  have hread := readValue_write v hv hfuel hends
  rw [List.append_nil] at hread
  rw [read?, hread]
  rfl

/-! ## No control characters -/

/-- A text without control characters; it stands on one line. -/
def Unbroken (cs : List Char) : Prop := ∀ c ∈ cs, 32 ≤ c.toNat

instance (cs : List Char) : Decidable (Unbroken cs) := List.decidableBAll (fun c : Char => 32 ≤ c.toNat) cs

theorem Unbroken.nil : Unbroken [] := List.forall_mem_nil _

theorem Unbroken.cons {c : Char} {cs : List Char} (hc : 32 ≤ c.toNat) (hcs : Unbroken cs) : Unbroken (c :: cs) :=
  List.forall_mem_cons.2 ⟨hc, hcs⟩

theorem Unbroken.append {a b : List Char} (ha : Unbroken a) (hb : Unbroken b) : Unbroken (a ++ b) :=
  List.forall_mem_append.2 ⟨ha, hb⟩

theorem unbroken_digits (n : Nat) : Unbroken (Decimal.digits n) := by
  intro c hc
  have hdigit := (Char.isDigit_iff_toNat.1 (Decimal.isDigit_digits _ c hc)).1
  have hlo : 48 ≤ c.toNat := hdigit
  omega

theorem unbroken_writeInt (i : Int) : Unbroken (writeInt i) := by
  rcases writeInt_cases i with ⟨-, h⟩ | ⟨-, h⟩
  · rw [h]
    exact .cons (by decide) (unbroken_digits _)
  · rw [h]
    exact unbroken_digits _

theorem unbroken_escape (c : Char) : Unbroken (escape c) := by
  have hdigit : ∀ v, v < 16 → 32 ≤ (Hex.digit v).toNat := by decide
  unfold escape Unbroken
  repeat' split
  all_goals simp
  · exact ⟨hdigit _ (by omega), hdigit _ (by omega)⟩
  · omega

theorem unbroken_writeString (s : String) : Unbroken (writeString s) := by
  have hbody : Unbroken (s.toList.flatMap escape) := by
    intro c hc
    obtain ⟨d, -, hd⟩ := List.mem_flatMap.1 hc
    exact unbroken_escape d c hd
  exact .cons (by decide) (hbody.append (.cons (by decide) .nil))

theorem unbroken_writeNumber (n : Number) : Unbroken (writeNumber n) := by
  cases n with
  | integer i => exact unbroken_writeInt i
  | real m e => exact (unbroken_writeInt m).append (.cons (by decide) (unbroken_writeInt e))

mutual

/-- Control characters are escaped, so a value takes one line. -/
theorem unbroken_write (v : Json) : Unbroken (write v) := by
  match v with
  | .null => decide
  | .bool true => decide
  | .bool false => decide
  | .number n => exact unbroken_writeNumber n
  | .string s => exact unbroken_writeString s
  | .broken => decide
  | .array [] => decide
  | .array (v :: vs) => exact .cons (by decide) ((unbroken_write v).append (unbroken_writeElements vs))
  | .object [] => decide
  | .object ((name, v) :: ms) =>
    exact .cons (by decide) ((unbroken_writeString name).append
      (.cons (by decide) ((unbroken_write v).append (unbroken_writeMembers ms))))

theorem unbroken_writeElements (vs : List Json) : Unbroken (writeElements vs) := by
  match vs with
  | [] => decide
  | v :: vs => exact .cons (by decide) ((unbroken_write v).append (unbroken_writeElements vs))

theorem unbroken_writeMembers (ms : List (String × Json)) : Unbroken (writeMembers ms) := by
  match ms with
  | [] => decide
  | (name, v) :: ms =>
    exact .cons (by decide) ((unbroken_writeString name).append
      (.cons (by decide) ((unbroken_write v).append (unbroken_writeMembers ms))))

end

end Json
end EvmClient
