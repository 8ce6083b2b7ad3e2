import EvmClient.Text.Combining
import EvmClient.Text.Composition

/-
The normal form of texts, in which everything is composed that can be.

   Composed characters are taken apart, the marks behind each character are put into the order of their
   classes, and then each character is composed with what follows it, as long as no mark of the same or of
   a higher class stands between them. -/
namespace EvmClient.Text

/-- How often a character can be taken apart. -/
def nesting : Nat := 2

/-- The characters that a character is composed of. -/
def decompose : Nat → Char → List Char
  | 0, c => [c]
  | fuel + 1, c =>
    match components? c with
    | some (a, b) => decompose fuel a ++ [b]
    | none => [c]

/-- A character with its class. -/
abbrev Classed := Nat × Char

/-- Puts a character in front of a text, behind the marks of lower classes that it begins with. -/
def place (c : Classed) : List Classed → List Classed
  | [] => [c]
  | d :: rest => if 0 < d.1 ∧ d.1 < c.1 then d :: place c rest else c :: d :: rest

/-- The marks of each character in the order of their classes. -/
def reorder (cs : List Classed) : List Classed := cs.foldr place []

/-- Composes a character with what follows it. The marks in between, the last one first, do not compose. -/
def composeWith (head : Char) (between : List Classed) : List Classed → List Char
  | [] => head :: (between.reverse.map (·.2))
  | (k, c) :: rest =>
    let blocked := between.head?.any fun d => k ≤ d.1
    match if blocked then none else composed? head c with
    | some head => composeWith head between rest
    | none =>
      if k = 0 then head :: (between.reverse.map (·.2) ++ composeWith c [] rest)
      else composeWith head ((k, c) :: between) rest

def compose : List Classed → List Char
  | [] => []
  | (_, c) :: rest => composeWith c [] rest

def normalize (cs : List Char) : List Char :=
  compose (reorder ((cs.flatMap (decompose nesting)).map fun c => (combiningClass c, c)))

end EvmClient.Text
