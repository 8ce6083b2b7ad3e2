/-
The lines of a text: what stands between line feeds, without a carriage return right before one. What
   stands behind the last line feed is a line unless it is empty. -/
namespace EvmClient.Text

/-- A line without the carriage return at its end. -/
def dropReturn (cs : List Char) : List Char :=
  if cs.getLast? = some '\r' then cs.dropLast else cs

/-- The lines, given the part of the current one that is read already, in reverse. -/
def linesFrom : List Char → List Char → List (List Char)
  | [], [] => []
  | current, [] => [current.reverse]
  | current, c :: rest =>
    if c = '\n' then dropReturn current.reverse :: linesFrom [] rest else linesFrom (c :: current) rest

def lines (cs : List Char) : List (List Char) := linesFrom [] cs

end EvmClient.Text
