/-
Texts cut at a mark. -/
namespace EvmClient.Text

/-- The parts of a text between the occurrences of a mark. -/
def parts (mark : Char) : List Char → List (List Char)
  | [] => [[]]
  | c :: rest =>
    if c = mark then [] :: parts mark rest
    else
      match parts mark rest with
      | p :: ps => (c :: p) :: ps
      | [] => [[c]]

end EvmClient.Text
