import EvmClient.Url.Host

/-
Absolute URLs: whether a text is one, and its scheme.

   A text is read without the blanks and controls around it and without the tabs and line breaks in it.
   The schemes of the web need a host after any number of slashes, other schemes only after two. -/
namespace EvmClient.Url

/-- The characters that count. -/
def significant (cs : List Char) : List Char :=
  let isOuter (c : Char) : Bool := c.toNat ≤ 32
  let inner := ((cs.dropWhile isOuter).reverse.dropWhile isOuter).reverse
  inner.filter fun c => !(c == '\t' || c == '\n' || c == '\r')

/-- The scheme, in small letters, and the text behind its colon. -/
def splitScheme? (cs : List Char) : Option (List Char × List Char) :=
  let isSchemeChar (c : Char) : Bool := c.isAlphanum || c == '+' || c == '-' || c == '.'
  match cs.takeWhile isSchemeChar, cs.dropWhile isSchemeChar with
  | c :: scheme, ':' :: rest => if c.isAlpha then some ((c :: scheme).map Char.toLower, rest) else none
  | _, _ => none

/-- The schemes of the web, where a backslash counts as a slash. -/
def isWeb (scheme : String) : Bool := ["http", "https", "ws", "wss", "ftp"].contains scheme

def isSlash (web : Bool) (c : Char) : Bool := c == '/' || (web && c == '\\')

/-- A character that ends the authority. -/
def endsAuthority (web : Bool) (c : Char) : Bool := isSlash web c || c == '?' || c == '#'

/-- The text up to the last mark, if there is one, and the text behind it. -/
def splitLastMark (mark : Char) (cs : List Char) : Option (List Char) × List Char :=
  let behind := (cs.reverse.takeWhile (· != mark)).reverse
  if behind.length = cs.length then (none, cs) else (some (cs.take (cs.length - behind.length - 1)), behind)

/-- The host of an authority, and the port with its colon. Colons in brackets belong to the host. -/
def splitPort (brackets : Bool) : List Char → List Char × List Char
  | [] => ([], [])
  | c :: rest =>
    if c = ':' ∧ !brackets then ([], c :: rest)
    else
      let (host, port) := splitPort (if c = '[' then true else if c = ']' then false else brackets) rest
      (c :: host, port)

/-- The digits of a port up to a backslash: none, or a number of 16 bits. -/
def checkPort (cs : List Char) : Except ParseError Unit :=
  let digits := cs.takeWhile (· != '\\')
  if digits = [] ∨ (Decimal.value? digits).any (· < UInt16.size) then .ok () else .error .port

/-- What stands before the host asks for one: a user, or the mark behind it with a path after it. -/
def needsHost (user : Option (List Char)) (path : List Char) : Bool :=
  match user with
  | none => false
  | some [] => path != []
  | some u => u != [':']

/-- The authority: user, host and port. A user or a port needs a host. -/
def checkAuthority (web : Bool) (cs : List Char) : Except ParseError Unit := do
  let (user, rest) := splitLastMark '@' (cs.takeWhile (!endsAuthority web ·))
  let (host, port) := splitPort false rest
  if host = [] ∧ (web ∨ port ≠ [] ∨ needsHost user (cs.dropWhile (!endsAuthority web ·))) then .error .emptyHost
  else
    if web then checkHost host else checkOpaqueHost host
    checkPort (port.drop 1)

/-- A letter and a colon or bar in place of a host. -/
def isDrive : List Char → Bool
  | [c, d] => c.isAlpha && (d == ':' || d == '|')
  | _ => false

/-- The host of a file, which may be missing. -/
def checkFileHost (cs : List Char) : Except ParseError Unit :=
  let host := cs.takeWhile (!endsAuthority true ·)
  if host = [] ∨ isDrive host then .ok () else checkHost host

/-- The scheme of an absolute URL. -/
def scheme (text : String) : Except ParseError String :=
  match splitScheme? (significant text.toList) with
  | none => .error .noBase
  | some (name, rest) => do
    let name := String.ofList name
    if name = "file" then
      match rest with
      | a :: b :: rest => if isSlash true a ∧ isSlash true b then checkFileHost rest
      | _ => pure ()
    else if isWeb name then checkAuthority true (rest.dropWhile (isSlash true))
    else
      match rest with
      | '/' :: '/' :: rest => checkAuthority false rest
      | _ => pure ()
    return name

end EvmClient.Url
