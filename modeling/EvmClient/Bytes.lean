/-
Byte strings.

   1. `Bytes` is a list of bytes; `Bytes.toNat` and `Bytes.ofNat` are its big-endian number forms,
      and `Bytes.minimal` is the form without leading zero bytes.
   2. `FixedBytes n` is a byte string whose length is known: addresses, hashes, bloom filters.

   Main statements: the fixed-width form reads back (`toNat_ofNat`), every byte string is the
   fixed-width form of its number (`ofNat_toNat`), the minimal form reads back (`toNat_minimal`), and a
   byte string without leading zeros is the minimal form of its number (`minimal_toNat`). -/
namespace EvmClient

abbrev Bytes := List UInt8

/-- A 64-bit quantity: a nonce, a gas limit, a block number. -/
abbrev Word64 := BitVec 64

/-- A 256-bit quantity: a balance, a price, a signature scalar. -/
abbrev Word256 := BitVec 256

/-- How many values a 256-bit quantity has. -/
def Word256.size : Nat := 0x10000000000000000000000000000000000000000000000000000000000000000

namespace Bytes

/-- How many byte strings of a length there are. -/
def capacity (len : Nat) : Nat := Nat.pow 256 len

/-- The number that a big-endian byte string denotes. -/
def toNat (b : Bytes) : Nat := b.foldl (fun acc x => acc * 256 + x.toNat) 0

/-- The `len` low bytes of a number, most significant first. -/
def ofNat : Nat → Nat → Bytes
  | 0, _ => []
  | len + 1, n => ofNat len (n / 256) ++ [UInt8.ofNat n]

/-- The bytes from the first nonzero one on. -/
def stripZeros (b : Bytes) : Bytes := b.dropWhile (· == 0)

/-- The form of a number below `capacity len` without leading zeros; zero is the empty string. -/
def minimal (len n : Nat) : Bytes := stripZeros (ofNat len n)

/-! ## Numbers and bytes -/

@[simp] theorem capacity_zero : capacity 0 = 1 := rfl

theorem capacity_succ (len : Nat) : capacity (len + 1) = capacity len * 256 := rfl

theorem foldl_toNat (b : Bytes) (k : Nat) :
    b.foldl (fun acc x => acc * 256 + x.toNat) k = k * capacity b.length + toNat b := by
  induction b generalizing k with
  | nil => simp [toNat]
  | cons x r ih =>
    simp only [toNat, List.foldl_cons, List.length_cons, capacity_succ, ih (k * 256 + x.toNat), ih (0 * 256 + x.toNat)]
    rw [Nat.add_mul, Nat.mul_assoc, Nat.mul_comm 256, Nat.zero_mul, Nat.zero_add, Nat.add_assoc]

theorem toNat_nil : toNat [] = 0 := rfl

theorem toNat_cons (x : UInt8) (r : Bytes) : toNat (x :: r) = x.toNat * capacity r.length + toNat r := by
  rw [toNat, List.foldl_cons, foldl_toNat, Nat.zero_mul, Nat.zero_add]

theorem toNat_append (a b : Bytes) : toNat (a ++ b) = toNat a * capacity b.length + toNat b := by
  rw [toNat, List.foldl_append, foldl_toNat]
  rfl

@[simp] theorem length_ofNat (len n : Nat) : (ofNat len n).length = len := by
  induction len generalizing n with
  | zero => rfl
  | succ len ih => simp [ofNat, ih]

theorem toNat_lt (b : Bytes) : toNat b < capacity b.length := by
  induction b with
  | nil => simp [toNat]
  | cons x r ih =>
    have hx : x.toNat < 256 := x.toNat_lt
    have hm : (x.toNat + 1) * capacity r.length ≤ 256 * capacity r.length := Nat.mul_le_mul_right _ hx
    rw [toNat_cons, List.length_cons, capacity_succ, Nat.mul_comm _ 256]
    rw [Nat.add_mul, Nat.one_mul] at hm
    omega

/-- The fixed-width form reads back. -/
theorem toNat_ofNat (len n : Nat) (h : n < capacity len) : toNat (ofNat len n) = n := by
  induction len generalizing n with
  | zero => simp only [capacity_zero, Nat.lt_one_iff] at h; subst h; rfl
  | succ len ih =>
    have hd : n / 256 < capacity len := by
      rw [Nat.div_lt_iff_lt_mul (by decide)]
      rwa [capacity_succ] at h
    rw [ofNat, toNat_append, ih _ hd]
    simp only [toNat, List.length_singleton, capacity_succ, capacity_zero, Nat.one_mul, List.foldl_cons, List.foldl_nil, UInt8.toNat_ofNat']
    omega

/-- Every byte string is the fixed-width form of the number it denotes. -/
theorem ofNat_toNat (b : Bytes) : ofNat b.length (toNat b) = b := by
  suffices h : ∀ n (b : Bytes), b.length = n → ofNat n (toNat b) = b from h _ _ rfl
  intro n
  induction n with
  | zero => intro b hb; rw [List.eq_nil_of_length_eq_zero hb]; rfl
  | succ n ih =>
    intro b hb
    have hne : b ≠ [] := by intro h; subst h; simp at hb
    obtain ⟨a, x, rfl⟩ : ∃ a x, b = a ++ [x] := ⟨b.dropLast, b.getLast hne, (List.dropLast_concat_getLast hne).symm⟩
    have ha : a.length = n := by simpa using hb
    have hx : x.toNat < 256 := x.toNat_lt
    have h1 : toNat (a ++ [x]) = toNat a * 256 + x.toNat := by
      rw [toNat_append]; simp [toNat, capacity_succ]
    rw [h1, ofNat, show (toNat a * 256 + x.toNat) / 256 = toNat a by omega, ih a ha]
    congr 2
    apply UInt8.toNat_inj.1
    rw [UInt8.toNat_ofNat']
    omega

theorem toNat_stripZeros (b : Bytes) : toNat (stripZeros b) = toNat b := by
  induction b with
  | nil => rfl
  | cons x r ih =>
    rw [stripZeros, List.dropWhile_cons]
    split
    · rename_i h
      rw [beq_iff_eq] at h
      subst h
      simp only [stripZeros] at ih
      rw [ih, toNat_cons]
      simp
    · rfl

/-- The minimal form reads back. -/
theorem toNat_minimal (len n : Nat) (h : n < capacity len) : toNat (minimal len n) = n := by
  rw [minimal, toNat_stripZeros, toNat_ofNat len n h]

theorem head?_stripZeros (b : Bytes) : (stripZeros b).head? ≠ some 0 := by
  induction b with
  | nil => simp [stripZeros]
  | cons x r ih =>
    rw [stripZeros, List.dropWhile_cons]
    split
    · exact ih
    · rename_i h
      simpa using h

theorem length_stripZeros_le (b : Bytes) : (stripZeros b).length ≤ b.length :=
  (List.dropWhile_suffix _).length_le

/-- Zeros in front are all that is stripped. -/
theorem stripZeros_zeros_append (k : Nat) {b : Bytes} (h : b.head? ≠ some 0) :
    stripZeros (List.replicate k 0 ++ b) = b := by
  induction k with
  | zero =>
    cases b with
    | nil => rfl
    | cons x r =>
      have hx : x ≠ 0 := by simpa using h
      simp [stripZeros, hx]
  | succ k ih =>
    rw [List.replicate_succ, List.cons_append, stripZeros, List.dropWhile_cons]
    exact ih

theorem head?_minimal (len n : Nat) : (minimal len n).head? ≠ some 0 := head?_stripZeros _

theorem length_minimal_le (len n : Nat) : (minimal len n).length ≤ len := by
  have h := length_stripZeros_le (ofNat len n)
  rwa [length_ofNat] at h

/-- A byte string without a leading zero is the minimal form of the number it denotes. -/
theorem minimal_toNat {len : Nat} {b : Bytes} (hlen : b.length ≤ len) (h : b.head? ≠ some 0) :
    minimal len (toNat b) = b := by
  have hnat : toNat (List.replicate (len - b.length) 0 ++ b) = toNat b := by
    rw [← toNat_stripZeros, stripZeros_zeros_append _ h]
  have hfixed : ofNat len (toNat b) = List.replicate (len - b.length) 0 ++ b := by
    have hpad := ofNat_toNat (List.replicate (len - b.length) 0 ++ b)
    rwa [List.length_append, List.length_replicate, Nat.sub_add_cancel hlen, hnat] at hpad
  rw [minimal, hfixed, stripZeros_zeros_append _ h]

end Bytes

/-- A byte string of length `n`. -/
structure FixedBytes (n : Nat) where
  toList : Bytes
  length_eq : toList.length = n
deriving DecidableEq

abbrev Address := FixedBytes 20
abbrev Hash := FixedBytes 32
abbrev Bloom := FixedBytes 256

namespace FixedBytes
variable {n : Nat}

@[ext] theorem ext {a b : FixedBytes n} (h : a.toList = b.toList) : a = b := by
  cases a; cases b; cases h; rfl

/-- Refuses a byte string of another length. -/
def ofList? (b : Bytes) : Option (FixedBytes n) := if h : b.length = n then some ⟨b, h⟩ else none

/-- The low `n` bytes of a number. -/
def ofNat (n v : Nat) : FixedBytes n := ⟨Bytes.ofNat n v, Bytes.length_ofNat n v⟩

def toNat (b : FixedBytes n) : Nat := Bytes.toNat b.toList

/-- All bytes zero. -/
def zero (n : Nat) : FixedBytes n := ⟨List.replicate n 0, List.length_replicate⟩

instance : Inhabited (FixedBytes n) := ⟨zero n⟩

/-- The last `n` bytes, with zeros in front where there are fewer. -/
def lastOf (n : Nat) (b : Bytes) : FixedBytes n :=
  ⟨List.replicate (n - b.length) 0 ++ b.drop (b.length - n), by simp; omega⟩

@[simp] theorem ofList?_toList (a : FixedBytes n) : ofList? a.toList = some a := by
  simp [ofList?, a.length_eq]

theorem ofList?_eq_some {b : Bytes} {a : FixedBytes n} : ofList? b = some a ↔ b = a.toList := by
  constructor
  · intro h
    simp only [ofList?] at h
    split at h
    · cases h; rfl
    · cases h
  · rintro rfl; exact ofList?_toList a

@[simp] theorem ofNat_toNat (a : FixedBytes n) : ofNat n a.toNat = a := by
  apply ext
  have h := Bytes.ofNat_toNat a.toList
  rw [a.length_eq] at h
  exact h

end FixedBytes
end EvmClient
