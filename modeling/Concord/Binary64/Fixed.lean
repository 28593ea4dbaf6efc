import Concord.Binary64.Rounding

/-!
# Fixed decimal places

`Binary64.oneDecimal` is the text of a number with exactly one digit after the point: the exact
value rounded to tenths, a tie to the even tenth. The sign bit always shows, also on zero.
-/

namespace Concord.Binary64

/-- The magnitude in tenths, rounded to the nearest, a tie to the even one. -/
def tenths (x : Binary64) : Nat := roundHalfEven (10 * x.magnitude.1) x.magnitude.2

/-- The number with one digit after the point. -/
def oneDecimal (x : Binary64) : String :=
  (if x.negative then "-" else "") ++ toString (x.tenths / 10) ++ "." ++ toString (x.tenths % 10)

end Concord.Binary64
