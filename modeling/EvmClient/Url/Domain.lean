import EvmClient.Text.Direction
import EvmClient.Text.Joining
import EvmClient.Text.Normal
import EvmClient.Url.Mapping
import EvmClient.Url.Punycode

/-
The names of domains.

   What stands for the characters of a text is brought into normal form and cut at the points. A label is
   either the text itself or the ASCII form of one, which must be in normal form and hold nothing that
   something else would stand for. No label begins with a mark, and the signs that join letters or keep
   them apart stand only where letters bind or join. Where one label is written from right to left, each
   label keeps to one direction. -/
namespace EvmClient.Url

/-- The ASCII characters that no domain has. -/
def isForbidden (c : Char) : Bool :=
  let n := c.toNat
  n ≤ 32 || n == 127 || "#%/:<>?@[\\]^|".toList.contains c

/-! ## Labels -/

/-- The longest ASCII form that is read, behind its prefix. -/
def longestCoded : Nat := 2000

/-- The most characters of a label beyond ASCII. -/
def longestLabel : Nat := 1000

/-- The text that an ASCII form denotes, which must need this form. -/
def decodedLabel? (coded : List Char) : Option (List Char) :=
  if longestCoded < coded.length then none
  else
    match Punycode.decode? coded with
    | some label =>
      if label.any (128 ≤ ·.toNat) && label.all (fun c => mapped? c == some [c]) && Text.normalize label == label then
        some label
      else none
    | none => none

/-- The text that a label denotes. -/
def denoted? : List Char → Option (List Char)
  | 'x' :: 'n' :: '-' :: '-' :: coded => decodedLabel? coded
  | label => some label

/-- The first letter that marks do not hide joins in the given way. -/
def meets (joins : Char → Bool) (cs : List Char) : Bool := (cs.dropWhile Text.isTransparent).head?.any joins

/-- Whether a joining or separating sign stands where it may: behind a mark that binds, or, if it keeps
letters apart, between letters that would join. The characters before it are given from the last one on. -/
def joinerFits (before : List Char) (c : Char) (rest : List Char) : Bool :=
  match before with
  | [] => false
  | mark :: _ =>
    Text.combiningClass mark == Text.Combining.binding ||
      (c == nonJoiner && meets Text.joinsNext before && meets Text.joinsPrevious rest)

/-- Every joining or separating sign stands where it may. -/
def joinersFit (before : List Char) : List Char → Bool
  | [] => true
  | c :: rest => ((c != joiner && c != nonJoiner) || joinerFits before c rest) && joinersFit (c :: before) rest

def isLabel (label : List Char) : Bool :=
  !label.any isForbidden && !label.head?.any Text.isMark && joinersFit [] label &&
    (label.all (·.toNat < 128) || label.length ≤ longestLabel)

/-! ## Directions -/

open Text (Direction)

/-- Some character runs from right to left, or is a digit of a script that does. -/
def isRightToLeft (label : List Char) : Bool :=
  label.any fun c => Direction.ofChar c == .rightToLeft || Direction.ofChar c == .arabicNumber

/-- The directions behind the first character, without the marks at the end. -/
def directions (cs : List Char) : List Direction :=
  ((cs.map Direction.ofChar).reverse.dropWhile (· == .mark)).reverse

/-- From left to right: no letter or digit of the other direction, and a letter or digit at the end. -/
def fitsLeftToRight (ds : List Direction) : Bool :=
  ds.all (fun d => d != .rightToLeft && d != .arabicNumber) &&
    ds.getLast?.all fun d => d == .leftToRight || d == .number

/-- From right to left: no letter of the other direction, digits of one kind, and a letter or digit at
the end. -/
def fitsRightToLeft (ds : List Direction) : Bool :=
  ds.all (· != .leftToRight) && !(ds.contains .number && ds.contains .arabicNumber) &&
    ds.getLast?.all fun d => d == .rightToLeft || d == .number || d == .arabicNumber

/-- A label begins with a letter, and keeps to its direction. -/
def fitsDirection : List Char → Bool
  | [] => true
  | c :: rest =>
    match Direction.ofChar c with
    | .leftToRight => fitsLeftToRight (directions rest)
    | .rightToLeft => fitsRightToLeft (directions rest)
    | _ => false

/-! ## Domains -/

/-- The labels of the domain that a text names, in their written form. -/
def labels? (text : List Char) : Option (List (List Char)) :=
  match text.mapM mapped? with
  | none => none
  | some words =>
    let labels := Text.parts '.' (Text.normalize words.flatten)
    match labels.mapM denoted? with
    | none => none
    | some texts =>
      if texts.all isLabel && (!texts.any isRightToLeft || texts.all fitsDirection) then some labels else none

end EvmClient.Url
