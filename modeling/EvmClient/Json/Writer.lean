import EvmClient.Hex
import EvmClient.Json.Value
import EvmClient.Text.Decimal

/-
The compact text of JSON values: no blanks, members in their order.

   In strings the quote, the backslash and the control characters are escaped, five of the latter by
   a letter and the others by four hexadecimal digits; every other character stands for itself. -/
namespace EvmClient.Json

def escape (c : Char) : List Char :=
  if c = '"' then ['\\', '"']
  else if c = '\\' then ['\\', '\\']
  else if c = '\x08' then ['\\', 'b']
  else if c = '\x09' then ['\\', 't']
  else if c = '\x0a' then ['\\', 'n']
  else if c = '\x0c' then ['\\', 'f']
  else if c = '\x0d' then ['\\', 'r']
  else if c.toNat < 32 then ['\\', 'u', '0', '0', Hex.digit (c.toNat / 16), Hex.digit (c.toNat % 16)]
  else [c]

def writeString (s : String) : List Char := '"' :: (s.toList.flatMap escape ++ ['"'])

def writeInt (i : Int) : List Char :=
  if i < 0 then '-' :: Decimal.digits i.natAbs else Decimal.digits i.natAbs

def writeNumber : Number → List Char
  | .integer i => writeInt i
  | .real m e => writeInt m ++ 'e' :: writeInt e

mutual

def write : Json → List Char
  | .null => ['n', 'u', 'l', 'l']
  | .bool true => ['t', 'r', 'u', 'e']
  | .bool false => ['f', 'a', 'l', 's', 'e']
  | .number n => writeNumber n
  | .string s => writeString s
  | .broken => ['"', '\\', 'u', 'd', '8', '0', '0', '"']
  | .array [] => ['[', ']']
  | .array (v :: rest) => '[' :: (write v ++ writeElements rest)
  | .object [] => ['{', '}']
  | .object ((name, v) :: rest) => '{' :: (writeString name ++ ':' :: (write v ++ writeMembers rest))

/-- The elements after the first, and the closing bracket. -/
def writeElements : List Json → List Char
  | [] => [']']
  | v :: rest => ',' :: (write v ++ writeElements rest)

/-- The members after the first, and the closing brace. -/
def writeMembers : List (String × Json) → List Char
  | [] => ['}']
  | (name, v) :: rest => ',' :: (writeString name ++ ':' :: (write v ++ writeMembers rest))

end

/-- The compact text of a value. -/
def text (v : Json) : String := String.ofList (write v)

end EvmClient.Json
