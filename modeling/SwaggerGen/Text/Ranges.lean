/-!
# Ranges of code points

A property of characters is a table of ranges, in ascending order and with both ends included.
-/

namespace SwaggerGen.Text

def inRanges (ranges : List (Nat × Nat)) (code : Nat) : Bool :=
  ranges.any fun range => range.1 ≤ code && code ≤ range.2

end SwaggerGen.Text
