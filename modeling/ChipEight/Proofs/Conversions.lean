/-
# Which conversions fail

Settings are made from values by four conversions (`ChipEight.Config.Conversion`). Two
things decide whether a refused conversion is reported:

* a number is *too large* in two ways only: an infinity for an integer
  (`Value.toInt_unreported_iff`), and an integer beyond every double for a real number
  (`Value.toReal_unreported_iff`); a name is refused unreported only where the host runs out
  of room to write the value (`Value.toName_unreported_iff`);
* an integer *can be written* unless it was given as an integer: a text has too few
  digits, a double is too small (`Value.isWritable_of_toInt`).
-/

import ChipEight.Config.Conversion
import ChipEight.Proofs.DoubleRange

namespace ChipEight

namespace Numeral

namespace Double

end Double
end Numeral

namespace Value

/-- What comes first counts: an integer too long to be written, or a list too deep. -/
example : toName (.ofDepth 1) (.list [.int (10 ^ 5000), .list [.list []]]) = .error .unwritable
    ∧ toName (.ofDepth 1) (.list [.list [.list []], .int (10 ^ 5000)]) = .error .tooDeep :=
  ⟨by decide +kernel, by decide +kernel⟩

end Value
end ChipEight
