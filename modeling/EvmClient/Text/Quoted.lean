import EvmClient.Text.Printed

/-
Quoted text for messages.

   The quote, the backslash and the usual controls are written behind a backslash, and every other
   character without a print of its own by its number. -/
namespace EvmClient.Text

/-- A character by its number. -/
def numbered (c : Char) : List Char :=
  '\\' :: 'u' :: '\x7b' :: (Nat.toDigits 16 c.toNat ++ ['\x7d'])

def escape (quote c : Char) : List Char :=
  if c = '\x00' then ['\\', '0']
  else if c = '\t' then ['\\', 't']
  else if c = '\n' then ['\\', 'n']
  else if c = '\r' then ['\\', 'r']
  else if c = quote ∨ c = '\\' then ['\\', c]
  else if isPrinted c then [c]
  else numbered c

def quoted (quote : Char) (cs : List Char) : String :=
  String.ofList (quote :: (cs.flatMap (escape quote) ++ [quote]))

end EvmClient.Text
