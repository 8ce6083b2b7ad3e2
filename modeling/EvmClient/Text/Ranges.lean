/-
Sets of code points, as ranges with their first and last one. -/
namespace EvmClient.Text

abbrev Ranges := List (Nat × Nat)

def Ranges.includes (rs : Ranges) (n : Nat) : Bool := rs.any fun (first, last) => first ≤ n && n ≤ last

end EvmClient.Text
