import Passbook.Binary64.Basic

/-!
Binary numbers with a fixed count of decimal places: the exact value rounded to the last place, a tie
to the even digit. The sign of zero is kept.
-/

set_option autoImplicit false
set_option relaxedAutoImplicit false

-- Powers are those of the core library, whatever else is imported.
attribute [local instance (high)] instPowNat

namespace Passbook.Binary64

/-- A count of units of the last place, with a point. -/
def placedText (places units : Nat) : List Char :=
  let shown := Text.digits units
  let shown := List.replicate (places + 1 - shown.length) '0' ++ shown
  shown.take (shown.length - places) ++ '.' :: shown.drop (shown.length - places)

/-- The text with a fixed count of decimal places. -/
def fixed (places : Nat) : Binary64 → String
  | .finite negative significand exponent =>
    let (numerator, denominator) := fraction significand exponent
    String.ofList ((if negative then ['-'] else []) ++
      placedText places (roundEven (numerator * 10 ^ places) denominator))
  | .infinite negative => if negative then "-inf" else "inf"
  | .notNumber => "nan"

end Passbook.Binary64
