import EvmClient.Bytes

/-
The length-prefixed encoding of byte strings and lists that raw transactions are written in.

   Writing: `string` and `list` put a header in front of their content; `quantity` writes a number as
   its shortest byte string.

   Reading: `split?` takes the first item off a byte string. `ListView.of?` opens a list and finds its
   entries. The first entry must lie in the list's payload; the later ones are read on through the
   bytes behind it, payload or not, until no further item is found. Reading an entry by `string?`,
   `quantity?` or `fixed?` refuses forms that are not the shortest. -/
namespace EvmClient.Rlp

/-- Why bytes are refused. -/
inductive DecodeError where
  | tooBig
  | tooShort
  | expectedList
  | expectedString
  | wrongCount
  | zeroInLength
  | notShortest
  | addressLength
deriving DecidableEq, Repr

def DecodeError.name : DecodeError → String
  | .tooBig => "RlpIsTooBig"
  | .tooShort => "RlpIsTooShort"
  | .expectedList => "RlpExpectedToBeList"
  | .expectedString => "RlpExpectedToBeData"
  | .wrongCount => "RlpIncorrectListLen"
  | .zeroInLength => "RlpDataLenWithZeroPrefix"
  | .notShortest => "RlpInvalidIndirection"
  | .addressLength => "Custom(\"Invalid address length\")"

/-! ## Writing -/

/-- The header of a content of `len` bytes; `mark` is that of the empty content. -/
def header (mark len : Nat) : Bytes :=
  if len ≤ 55 then [UInt8.ofNat (mark + len)]
  else
    let size := Bytes.minimal 8 len
    UInt8.ofNat (mark + 55 + size.length) :: size

/-- A byte below `0x80` stands for itself; every other string has a header. -/
def string (b : Bytes) : Bytes :=
  match b with
  | [x] => if x < 0x80 then [x] else [0x81, x]
  | b => header 0x80 b.length ++ b

/-- A list of written items. -/
def list (items : List Bytes) : Bytes := header 0xc0 items.flatten.length ++ items.flatten

/-- A number as its shortest byte string; zero is the empty one. -/
def quantity {w : Nat} (v : BitVec w) : Bytes := string (Bytes.minimal (w / 8) v.toNat)

def fixed {n : Nat} (b : FixedBytes n) : Bytes := string b.toList

/-! ## Reading -/

/-- The sizes of an item's header and of its content. -/
structure Extent where
  header : Nat
  content : Nat
deriving DecidableEq, Repr

def Extent.total (e : Extent) : Nat := e.header + e.content

/-- The extent of an item whose content length is written in `k` bytes. -/
def longExtent (k : Nat) (rest : Bytes) : Except DecodeError Extent :=
  match rest with
  | [] => .error .tooShort
  | x :: _ =>
    if x = 0 then .error .zeroInLength
    else if rest.length < k then .error .tooShort
    else
      let len := Bytes.toNat (rest.take k)
      if len ≤ 55 then .error .notShortest else .ok ⟨1 + k, len⟩

/-- What the header of a byte string's first item announces. -/
def announced : Bytes → Except DecodeError Extent
  | [] => .error .tooShort
  | x :: rest =>
    let m := x.toNat
    if m ≤ 0x7f then .ok ⟨0, 1⟩
    else if m ≤ 0xb7 then .ok ⟨1, m - 0x80⟩
    else if m ≤ 0xbf then longExtent (m - 0xb7) rest
    else if m ≤ 0xf7 then .ok ⟨1, m - 0xc0⟩
    else longExtent (m - 0xf7) rest

/-- The extent of the first item, which must lie in the byte string. -/
def extent? (b : Bytes) : Except DecodeError Extent :=
  match announced b with
  | .error e => .error e
  | .ok e => if e.total ≤ b.length then .ok e else .error .tooShort

/-- The first item, header and content, and the bytes behind it. -/
def split? (b : Bytes) : Except DecodeError (Bytes × Bytes) :=
  match extent? b with
  | .error e => .error e
  | .ok e => .ok (b.take e.total, b.drop e.total)

/-- The items that follow one another from the start of a byte string, at most `fuel` of them. -/
def items : Nat → Bytes → List Bytes
  | 0, _ => []
  | fuel + 1, b =>
    match split? b with
    | .error _ => []
    | .ok (item, rest) => item :: items fuel rest

/-- A list as it is read: its entries, and the length of its payload. -/
structure ListView where
  entries : List Bytes
  payload : Nat
deriving DecidableEq, Repr

namespace ListView

/-- Opens a list. One whose header or first entry cannot be read has no entries. -/
def of? (b : Bytes) : Except DecodeError ListView :=
  match b with
  | [] => .error .expectedList
  | x :: _ =>
    if x < 0xc0 then .error .expectedList
    else
      match extent? b with
      | .error _ => .ok ⟨[], 0⟩
      | .ok e =>
        match split? ((b.drop e.header).take e.content) with
        | .error _ => .ok ⟨[], e.content⟩
        | .ok (first, _) =>
          let rest := b.drop (e.header + first.length)
          .ok ⟨first :: items rest.length rest, e.content⟩

/-- An entry by its place. -/
def entry (v : ListView) (i : Nat) : Except DecodeError Bytes :=
  match v.entries[i]? with
  | some b => .ok b
  | none => .error .tooShort

/-- An entry that lies in the payload. -/
def innerEntry (v : ListView) (i : Nat) : Except DecodeError Bytes :=
  if (v.entries.take (i + 1)).flatten.length ≤ v.payload then v.entry i else .error .tooShort

end ListView

/-- The content of a written string. -/
def string? (item : Bytes) : Except DecodeError Bytes :=
  match item with
  | [] => .error .tooShort
  | x :: rest =>
    let m := x.toNat
    if m ≤ 0x7f then .ok [x]
    else if m ≤ 0xb7 then
      if m = 0x81 ∧ (rest.headD 0).toNat < 0x80 then .error .notShortest else .ok rest
    else if m ≤ 0xbf then .ok (rest.drop (m - 0xb7))
    else .error .expectedString

/-- A number of at most `w` bits without leading zeros; a leading zero is seen before the size. -/
def quantity? (w : Nat) (item : Bytes) : Except DecodeError (BitVec w) :=
  match string? item with
  | .error e => .error e
  | .ok b =>
    if b.head? = some 0 then .error .notShortest
    else if b.length * 8 ≤ w then .ok (BitVec.ofNat w (Bytes.toNat b))
    else .error .tooBig

/-- As `quantity? 64`, but the size is seen before a leading zero. -/
def word64? (item : Bytes) : Except DecodeError Word64 :=
  match string? item with
  | .error e => .error e
  | .ok b =>
    if 8 < b.length then .error .tooBig
    else if b.head? = some 0 then .error .notShortest
    else .ok (BitVec.ofNat 64 (Bytes.toNat b))

/-- A byte string of a known length. -/
def fixed? (n : Nat) (item : Bytes) : Except DecodeError (FixedBytes n) :=
  match string? item with
  | .error e => .error e
  | .ok b =>
    match FixedBytes.ofList? b with
    | some a => .ok a
    | none => .error (if b.length < n then .tooShort else .tooBig)

end EvmClient.Rlp
