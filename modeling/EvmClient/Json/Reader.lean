import EvmClient.Hex
import EvmClient.Json.Value
import EvmClient.Text.Decimal

/-
Reading JSON text.

   The reader is strict: no trailing commas, no leading zeros, no raw control characters in strings,
   nothing but blanks behind the value. Repeated names are kept. A string with an escape that denotes
   no character, and an object with a name like that, is read as such, since a reader of records may have
   to skip it.

   The first argument of the mutual readers bounds their steps; the length of the text is enough. -/
namespace EvmClient.Json

def isBlank (c : Char) : Bool := c == ' ' || c == '\n' || c == '\t' || c == '\r'

def skip (cs : List Char) : List Char := cs.dropWhile isBlank

/-- The code unit of four hexadecimal digits. -/
def unit? : List Char → Option (Nat × List Char)
  | a :: b :: c :: d :: rest => do
    let a ← Hex.value? a
    let b ← Hex.value? b
    let c ← Hex.value? c
    let d ← Hex.value? d
    return (((a * 16 + b) * 16 + c) * 16 + d, rest)
  | _ => none

/-- The character of an escape after the backslash; the inner option is empty where the escape denotes
none. -/
def escaped? : List Char → Option (Option Char × List Char)
  | '"' :: r => some (some '"', r)
  | '\\' :: r => some (some '\\', r)
  | '/' :: r => some (some '/', r)
  | 'b' :: r => some (some '\x08', r)
  | 'f' :: r => some (some '\x0c', r)
  | 'n' :: r => some (some '\n', r)
  | 'r' :: r => some (some '\r', r)
  | 't' :: r => some (some '\t', r)
  | 'u' :: r =>
    match unit? r with
    | none => none
    | some (u, r) =>
      if u < 0xd800 ∨ 0xdfff < u then some (some (Char.ofNat u), r)
      else if 0xdc00 ≤ u then some (none, r)
      else
        match r with
        | '\\' :: 'u' :: r' =>
          match unit? r' with
          | none => none
          | some (low, r'') =>
            if 0xdc00 ≤ low ∧ low ≤ 0xdfff then
              some (some (Char.ofNat (0x10000 + (u - 0xd800) * 0x400 + (low - 0xdc00))), r'')
            else some (none, r'')
        | r => some (none, r)
  | _ => none

/-- The characters of a string up to its closing quote, or nothing where one escape denotes none. -/
def stringBody : Nat → List Char → Option (Option (List Char) × List Char)
  | 0, _ => none
  | _ + 1, [] => none
  | _ + 1, '"' :: rest => some (some [], rest)
  | fuel + 1, '\\' :: rest =>
    match escaped? rest with
    | none => none
    | some (c, rest) =>
      match stringBody fuel rest with
      | none => none
      | some (body, rest) =>
        match c, body with
        | some c, some body => some (some (c :: body), rest)
        | _, _ => some (none, rest)
  | fuel + 1, c :: rest =>
    if c.toNat < 32 then none
    else
      match stringBody fuel rest with
      | none => none
      | some (body, rest) => some (body.map (c :: ·), rest)

def takeDigits (cs : List Char) : List Char × List Char := cs.span Char.isDigit

/-- The exponent part, if one follows. -/
def exponent? : List Char → Option (Option Int × List Char)
  | c :: rest =>
    if c = 'e' ∨ c = 'E' then
      let (negative, body) := match rest with
        | '-' :: r => (true, r)
        | '+' :: r => (false, r)
        | r => (false, r)
      match takeDigits body with
      | ([], _) => none
      | (ds, rest) =>
        let v : Int := Decimal.value ds
        some (some (if negative then -v else v), rest)
    else some (none, c :: rest)
  | [] => some (none, [])

/-- The fraction part, if one follows: its digits. -/
def fraction? : List Char → Option (Option (List Char) × List Char)
  | '.' :: rest =>
    match takeDigits rest with
    | ([], _) => none
    | (ds, rest) => some (some ds, rest)
  | rest => some (none, rest)

/-- An integer literal keeps its value where 64 bits hold it; minus zero is no integer. -/
def integerNumber (negative : Bool) (v : Nat) : Number :=
  if negative then
    if 0 < v ∧ v ≤ UInt64.size / 2 then .integer (-(v : Int)) else .real (-(v : Int)) 0
  else if v < UInt64.size then .integer v
  else .real v 0

/-- A number after its sign. -/
def unsignedNumber? (negative : Bool) (cs : List Char) : Option (Number × List Char) :=
  match takeDigits cs with
  | ([], _) => none
  | (ds, rest) =>
    if ds.length > 1 ∧ ds.head? = some '0' then none
    else
      match fraction? rest with
      | none => none
      | some (fraction, rest) =>
        match exponent? rest with
        | none => none
        | some (exponent, rest) =>
          match fraction, exponent with
          | none, none => some (integerNumber negative (Decimal.value ds), rest)
          | _, _ =>
            let all := ds ++ fraction.getD []
            let m : Int := Decimal.value all
            let e : Int := exponent.getD 0 - ((fraction.getD []).length : Int)
            some (.real (if negative then -m else m) e, rest)

def number? (cs : List Char) : Option (Number × List Char) :=
  match cs with
  | '-' :: rest => unsignedNumber? true rest
  | cs => unsignedNumber? false cs

/-- A member whose name may denote no characters. -/
abbrev RawMember := Option (List Char) × Json

/-- The object of members that all have readable names. -/
def objectOf (members : List RawMember) : Json :=
  match members.mapM fun (name, v) => name.map fun name => (String.ofList name, v) with
  | some members => .object members
  | none => .broken

mutual

/-- A value behind blanks, and the text after it. -/
def readValue : Nat → List Char → Option (Json × List Char)
  | 0, _ => none
  | fuel + 1, cs =>
    match skip cs with
    | [] => none
    | 'n' :: 'u' :: 'l' :: 'l' :: rest => some (.null, rest)
    | 't' :: 'r' :: 'u' :: 'e' :: rest => some (.bool true, rest)
    | 'f' :: 'a' :: 'l' :: 's' :: 'e' :: rest => some (.bool false, rest)
    | '"' :: rest =>
      match stringBody fuel rest with
      | none => none
      | some (some body, rest) => some (.string (String.ofList body), rest)
      | some (none, rest) => some (.broken, rest)
    | '[' :: rest =>
      match skip rest with
      | ']' :: rest => some (.array [], rest)
      | rest =>
        match readValue fuel rest with
        | none => none
        | some (v, rest) =>
          match readElements fuel rest with
          | none => none
          | some (vs, rest) => some (.array (v :: vs), rest)
    | '{' :: rest =>
      match skip rest with
      | '}' :: rest => some (.object [], rest)
      | rest =>
        match readMember fuel rest with
        | none => none
        | some (m, rest) =>
          match readMembers fuel rest with
          | none => none
          | some (ms, rest) => some (objectOf (m :: ms), rest)
    | cs =>
      match number? cs with
      | none => none
      | some (n, rest) => some (.number n, rest)

/-- The elements after the first, up to the closing bracket. -/
def readElements : Nat → List Char → Option (List Json × List Char)
  | 0, _ => none
  | fuel + 1, cs =>
    match skip cs with
    | ']' :: rest => some ([], rest)
    | ',' :: rest =>
      match readValue fuel rest with
      | none => none
      | some (v, rest) =>
        match readElements fuel rest with
        | none => none
        | some (vs, rest) => some (v :: vs, rest)
    | _ => none

/-- A name, a colon and a value. -/
def readMember : Nat → List Char → Option (RawMember × List Char)
  | 0, _ => none
  | fuel + 1, cs =>
    match skip cs with
    | '"' :: rest =>
      match stringBody fuel rest with
      | some (name, rest) =>
        match skip rest with
        | ':' :: rest =>
          match readValue fuel rest with
          | none => none
          | some (v, rest) => some ((name, v), rest)
        | _ => none
      | _ => none
    | _ => none

/-- The members after the first, up to the closing brace. -/
def readMembers : Nat → List Char → Option (List RawMember × List Char)
  | 0, _ => none
  | fuel + 1, cs =>
    match skip cs with
    | '}' :: rest => some ([], rest)
    | ',' :: rest =>
      match readMember fuel rest with
      | none => none
      | some (m, rest) =>
        match readMembers fuel rest with
        | none => none
        | some (ms, rest) => some (m :: ms, rest)
    | _ => none

end

/-- The value that a whole text denotes. -/
def read? (cs : List Char) : Option Json :=
  match readValue (2 * cs.length + 2) cs with
  | some (v, rest) => if skip rest = [] then some v else none
  | none => none

def ofText? (s : String) : Option Json := read? s.toList

end EvmClient.Json
