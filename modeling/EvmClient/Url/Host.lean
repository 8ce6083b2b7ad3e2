import EvmClient.Hex
import EvmClient.Text.Decimal
import EvmClient.Url.Domain

/-
The hosts that a URL can name.

   1. Addresses: four numbers with points between them, of which the later may be left out, or groups of
      hexadecimal digits with colons between them in brackets.
   2. Domains: percent escapes are resolved, and the text has to name a domain. A domain whose last label
      is a number has to be an address. -/
namespace EvmClient.Url

/-- Why a text is no absolute URL. -/
inductive ParseError where
  | noBase
  | emptyHost
  | domain
  | hostCharacter
  | port
  | ipv4
  | ipv6
deriving DecidableEq, Repr

def ParseError.message : ParseError → String
  | .noBase => "relative URL without a base"
  | .emptyHost => "empty host"
  | .domain => "invalid international domain name"
  | .hostCharacter => "invalid domain character"
  | .port => "invalid port number"
  | .ipv4 => "invalid IPv4 address"
  | .ipv6 => "invalid IPv6 address"

/-! ## Addresses of four numbers -/

/-- Digits of a base, possibly none. -/
def based? (base : Nat) (cs : List Char) : Option Nat :=
  (cs.mapM Hex.value?).bind fun ds =>
    if ds.all (· < base) then some (ds.foldl (fun acc d => acc * base + d) 0) else none

/-- A number of an address: hexadecimal behind `0x`, octal behind a zero, decimal otherwise. -/
def addressNumber? : List Char → Option Nat
  | [] => none
  | '0' :: 'x' :: ds => based? 16 ds
  | '0' :: 'X' :: ds => based? 16 ds
  | '0' :: d :: ds => based? 8 (d :: ds)
  | ds => based? 10 ds

/-- The labels without the empty one behind a final point. -/
def dropRoot (labels : List (List Char)) : List (List Char) :=
  if labels.getLast? = some [] then labels.dropLast else labels

def endsInNumber (labels : List (List Char)) : Bool :=
  match (dropRoot labels).getLast? with
  | none => false
  | some last => (last != [] && last.all Char.isDigit) || (addressNumber? last).isSome

/-- The last number fills the places that are left out. -/
def isIpv4 (labels : List (List Char)) : Bool :=
  let ps := dropRoot labels
  match ps.mapM addressNumber? with
  | some ns =>
    ns.length ≤ 4 && ns.dropLast.all (· ≤ 255) && (ns.getLast?.all fun n => n < Bytes.capacity (5 - ns.length))
  | none => false

/-! ## Addresses of eight groups -/

def isGroup (cs : List Char) : Bool := 1 ≤ cs.length && cs.length ≤ 4 && cs.all Hex.isDigit

/-- A number up to 255 without leading zeros. -/
def isOctet (cs : List Char) : Bool :=
  match Decimal.value? cs with
  | some n => n ≤ 255 && (cs.length == 1 || cs.head? != some '0')
  | none => false

def isDotted (cs : List Char) : Bool :=
  let ps := Text.parts '.' cs
  ps.length == 4 && ps.all isOctet

/-- How many groups a text of groups fills; four dotted numbers at its end fill two. -/
def groups? (cs : List Char) : Option Nat :=
  if cs = [] then some 0
  else
    let ps := Text.parts ':' cs
    let last := ps.getLastD []
    if !ps.dropLast.all isGroup then none
    else if isGroup last then some ps.length
    else if isDotted last then some (ps.length + 1)
    else none

/-- The text before the first double colon, and the text after it. -/
def splitDouble : List Char → Option (List Char × List Char)
  | ':' :: ':' :: rest => some ([], rest)
  | c :: rest => (splitDouble rest).map fun (a, b) => (c :: a, b)
  | [] => none

/-- Eight groups, or fewer with a double colon in place of the missing ones. -/
def isIpv6 (cs : List Char) : Bool :=
  match splitDouble cs with
  | none => groups? cs == some 8
  | some (a, b) =>
    match groups? a, groups? b with
    | some m, some n => (a == [] || (Text.parts ':' a).all isGroup) && m + n ≤ 7
    | _, _ => false

/-! ## Domains -/

/-- The bytes of a text with its escapes resolved; a percent sign without two digits stands for itself. -/
def percentDecode : Bytes → Bytes
  | [] => []
  | x :: rest =>
    if x = 37 then
      match rest with
      | hi :: lo :: rest' =>
        match Hex.value? (Char.ofNat hi.toNat), Hex.value? (Char.ofNat lo.toNat) with
        | some h, some l => UInt8.ofNat (h * 16 + l) :: percentDecode rest'
        | _, _ => x :: percentDecode (hi :: lo :: rest')
      | rest => x :: percentDecode rest
    else x :: percentDecode rest

/-- Whether a text names a host of the web. -/
def checkHost (cs : List Char) : Except ParseError Unit :=
  match cs with
  | '[' :: rest =>
    if rest.getLast? = some ']' ∧ isIpv6 rest.dropLast then .ok () else .error .ipv6
  | cs =>
    match (String.fromUTF8? ⟨(percentDecode (Hex.utf8 cs)).toArray⟩).bind fun text => labels? text.toList with
    | none => .error .domain
    | some labels =>
      if labels = [[]] then .error .emptyHost
      else if endsInNumber labels && !isIpv4 labels then .error .ipv4
      else .ok ()

/-- Whether a text can stand for the host of another scheme. -/
def checkOpaqueHost (cs : List Char) : Except ParseError Unit :=
  match cs with
  | '[' :: rest =>
    if rest.getLast? = some ']' ∧ isIpv6 rest.dropLast then .ok () else .error .ipv6
  | cs =>
    if cs.any fun c => c.toNat = 0 || "\t\n\r #/:<>?@[\\]^|".toList.contains c then .error .hostCharacter else .ok ()

end EvmClient.Url
