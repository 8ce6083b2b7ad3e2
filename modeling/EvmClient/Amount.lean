import EvmClient.Error
import EvmClient.Text.Blank
import EvmClient.Text.Decimal

/-
Amounts: decimal text and base units.

   A token with `d` decimals counts in base units of `10 ^ -d`. A decimal amount is read without knowing
   `d`: digits with at most one point and at least one digit. Its base units are the floor of its value
   times `10 ^ d`, if 256 bits hold it. Base units are shown with the point put back and without zeros
   at the end. -/
namespace EvmClient

/-- A decimal amount in its shortest form: no zeros in front of the integer part, none at the end of
the fraction. -/
structure DecimalAmount where
  integer : List Char
  fraction : List Char
deriving DecidableEq

namespace DecimalAmount

def isZeroDigit (c : Char) : Bool := c == '0'

/-- The digits from the first nonzero one on. -/
def stripFront (cs : List Char) : List Char := cs.dropWhile isZeroDigit

/-- The digits up to the last nonzero one. -/
def stripBack (cs : List Char) : List Char := (cs.reverse.dropWhile isZeroDigit).reverse

/-- The text before the first point and the text after it. -/
def splitPoint (cs : List Char) : List Char × List Char :=
  match cs.span (· != '.') with
  | (i, _ :: f) => (i, f)
  | (i, []) => (i, [])

def read? (cs : List Char) : Option DecimalAmount :=
  let (i, f) := splitPoint (Text.trim cs)
  if (i = [] ∧ f = []) ∨ !i.all Char.isDigit ∨ !f.all Char.isDigit then none
  else some ⟨stripFront i, stripBack f⟩

def parse (s : String) : Except ClientError DecimalAmount :=
  match read? s.toList with
  | some a => .ok a
  | none => .error (.invalidAmount (String.ofList (Text.trim s.toList)))

def isZero (a : DecimalAmount) : Bool := a.integer.isEmpty && a.fraction.isEmpty

def chars (a : DecimalAmount) : List Char :=
  let i := if a.integer = [] then ['0'] else a.integer
  if a.fraction = [] then i else i ++ '.' :: a.fraction

def text (a : DecimalAmount) : String := String.ofList a.chars

/-- The digits of the amount in units of `10 ^ -decimals`, the rest cut off. -/
def unitDigits (a : DecimalAmount) (decimals : Nat) : List Char :=
  a.integer ++ a.fraction.take decimals ++ List.replicate (decimals - a.fraction.length) '0'

/-- The amount in base units; more than 256 bits are refused. -/
def baseUnits (a : DecimalAmount) (decimals : Nat) : Except ClientError Word256 :=
  let n := Decimal.value (a.unitDigits decimals)
  if n < Word256.size then .ok (BitVec.ofNat 256 n) else .error (.invalidAmount a.text)

end DecimalAmount

def parseUnits (s : String) (decimals : Nat) : Except ClientError Word256 := do
  (← DecimalAmount.parse s).baseUnits decimals

/-- Base units as decimal text. -/
def unitChars (value : Word256) (decimals : Nat) : List Char :=
  let digits := Decimal.digits value.toNat
  if decimals = 0 then digits
  else
    let padded := List.replicate (decimals + 1 - digits.length) '0' ++ digits
    let point := padded.length - decimals
    let fraction := DecimalAmount.stripBack (padded.drop point)
    if fraction = [] then padded.take point else padded.take point ++ '.' :: fraction

def formatUnits (value : Word256) (decimals : Nat) : String := String.ofList (unitChars value decimals)

/-- An amount of base units with the decimals to show it by. -/
structure TokenAmount where
  raw : Word256
  decimals : Nat
deriving DecidableEq

def TokenAmount.text (a : TokenAmount) : String := formatUnits a.raw a.decimals

end EvmClient
