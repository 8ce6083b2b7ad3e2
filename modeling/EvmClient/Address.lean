import EvmClient.Digest.Keccak
import EvmClient.Error
import EvmClient.Text.Blank

/-
The text of addresses.

   An address is 40 hexadecimal digits of either case after an optional `0x` or `0X`; the case of the
   letters is not checked. Shown addresses carry a checksum in the case of their letters: a letter is
   upper-case where the digest of the lower-case digits has a half byte of eight or more. -/
namespace EvmClient.Address

/-- The digits of an address text: what follows one optional mark. -/
def body (cs : List Char) : List Char := Hex.unmarked [['0', 'x'], ['0', 'X']] cs

def isHex (cs : List Char) : Bool := (body cs).length == 40 && (body cs).all Hex.isDigit

/-- The address that a text denotes once the blanks around it are gone. -/
def parse? (cs : List Char) : Option Address :=
  let trimmed := Text.trim cs
  if isHex trimmed then
    match Hex.decode (Hex.utf8 (body trimmed)) with
    | .ok b => FixedBytes.ofList? b
    | .error _ => none
  else none

def parse (s : String) : Except ClientError Address :=
  match parse? s.toList with
  | some a => .ok a
  | none => .error (.invalidAddress s)

/-- A contract's address must be given; a blank text counts as missing. -/
def parseContract (s : Option String) : Except ClientError Address :=
  match s with
  | none => .error .contractAddressRequired
  | some s =>
    let trimmed := Text.trim s.toList
    if trimmed = [] then .error .contractAddressRequired else parse (String.ofList trimmed)

/-! ## The checksum form -/

/-- The letters of the digits raised where the half byte at their place is eight or more. -/
def raise (digits : List Char) (marks : List Nat) : List Char :=
  List.zipWith (fun c m => if 8 ≤ m then c.toUpper else c) digits marks

def checksumChars (a : Address) : List Char :=
  let digits := Hex.encodeChars a.toList
  '0' :: 'x' :: raise digits (Hex.halves (keccak256 (Hex.utf8 digits)).toList)

def checksum (a : Address) : String := String.ofList (checksumChars a)

/-- The address of a public key's coordinates: the last 20 bytes of their digest. -/
def ofPublicKeyBytes (b : Bytes) : Address := FixedBytes.lastOf 20 (keccak256 b).toList

end EvmClient.Address
