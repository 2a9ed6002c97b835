/-! Sets of characters given as ascending spans of code points, both ends included. -/
namespace Reckon.Text

abbrev Span := Nat × Nat

/-- Stops at the first span that lies above `n`, so the list has to ascend. -/
def covers : List Span → Nat → Bool
  | [], _ => false
  | (first, last) :: spans, n => first ≤ n && (n ≤ last || covers spans n)

end Reckon.Text
