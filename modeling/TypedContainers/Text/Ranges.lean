/-!
# Tables of code points

A class of characters is given as a table of closed ranges, in increasing order.
-/

namespace TypedContainers.Text

/-- Whether one of the ranges holds the code point, decided by halving the part of
the table that may hold it. -/
def inRanges (ranges : Array (Nat × Nat)) (code : Nat) : Bool :=
  search ranges.size 0 ranges.size
where
  search : Nat → Nat → Nat → Bool
    | 0, _, _ => false
    | fuel + 1, low, high =>
      if low < high then
        let middle := (low + high) / 2
        match ranges[middle]? with
        | none => false
        | some (first, last) =>
          if code < first then search fuel low middle
          else if last < code then search fuel (middle + 1) high
          else true
      else false

end TypedContainers.Text
