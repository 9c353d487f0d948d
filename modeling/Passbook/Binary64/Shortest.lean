import Passbook.Binary64.Basic

/-!
The shortest text of a binary number. Of all decimals that read back as the number, one with the
fewest digits is taken, and of those the nearest. The digits come from testing, for each count of
digits, the two neighbours of the number on that decimal grid (`digitsAt?`); `shortest` is the first
grid with a hit. `text` writes the digits: with a point from `1e-4` up to below `1e16`, otherwise with
an exponent of at least two digits.
-/

set_option autoImplicit false
set_option relaxedAutoImplicit false

-- Powers are those of the core library, whatever else is imported.
attribute [local instance (high)] instPowNat

namespace Passbook.Binary64

/-- The bounds between which every number is closest to a given one: the numerators of the number and
of both bounds over one denominator. Below a power of two the next number is half as far away. -/
structure Neighbourhood where
  low : Nat
  value : Nat
  high : Nat
  denominator : Nat
  closed : Bool

/-- The numbers that round to a given significand and exponent. -/
def neighbourhood (significand : Nat) (exponent : Int) : Neighbourhood :=
  let narrow := significand = 2 ^ (bits - 1) ∧ minExponent < exponent
  let (scale, denominator) :=
    if 0 ≤ exponent then (2 ^ exponent.toNat, 4) else (1, 4 * 2 ^ (-exponent).toNat)
  { low := (4 * significand - if narrow then 1 else 2) * scale
    value := 4 * significand * scale
    high := (4 * significand + 2) * scale
    denominator := denominator
    closed := significand % 2 = 0 }

/-- Whether a fraction lies in the neighbourhood. -/
def Neighbourhood.holds (n : Neighbourhood) (numerator denominator : Nat) : Bool :=
  let low := n.low * denominator
  let high := n.high * denominator
  let point := numerator * n.denominator
  if n.closed then low ≤ point && point ≤ high else low < point && point < high

/-- The power of ten at which a positive fraction begins: its first digit stands there. -/
def leadingPower (numerator denominator : Nat) : Int :=
  let guess : Int :=
    (Decimal.digitCount numerator : Int) - Decimal.digitCount denominator
  let reached : Bool :=
    if 0 ≤ guess then denominator * 10 ^ guess.toNat ≤ numerator
    else denominator ≤ numerator * 10 ^ (-guess).toNat
  if reached then guess else guess - 1

/-- The digits of a grid point next to the number, and the power of ten of the grid, when one of the
two next ones rounds to the number; of two the nearer, a tie to the even. -/
def digitsAt? (n : Neighbourhood) (power : Int) : Option (Nat × Int) :=
  let (up, down) := if 0 ≤ power then (10 ^ power.toNat, 1) else (1, 10 ^ (-power).toNat)
  let below := n.value * down / (n.denominator * up)
  let holds (count : Nat) : Bool := n.holds (count * up) down
  let twice := 2 * n.value * down
  let middle := (2 * below + 1) * (n.denominator * up)
  let nearer :=
    if twice < middle ∨ (twice = middle ∧ below % 2 = 0) then below else below + 1
  let further := if nearer = below then below + 1 else below
  if holds nearer then some (nearer, power)
  else if holds further then some (further, power)
  else none

/-- The first grid, from the coarsest on, with a point that reads back. -/
def firstGrid (n : Neighbourhood) : Nat → Int → Nat × Int
  | 0, power => (n.value / n.denominator, power)
  | more + 1, power => (digitsAt? n power).getD (firstGrid n more (power - 1))

/-- The fewest digits that read back as a positive number, and the power of ten of the last. -/
def shortest (significand : Nat) (exponent : Int) : Nat × Int :=
  let n := neighbourhood significand exponent
  firstGrid n 17 (leadingPower n.value n.denominator)

/-- Digits without the zeros at the end, which belong to the power of ten. -/
def trimmed (digits : Nat × Int) : Nat × Int :=
  let most := Decimal.digitCount digits.1
  let rec strip : Nat → Nat → Int → Nat × Int
    | 0, count, power => (count, power)
    | more + 1, count, power =>
      if count % 10 = 0 then strip more (count / 10) (power + 1) else (count, power)
  strip most digits.1 digits.2

/-- An exponent with a sign and at least two digits. -/
def exponentText (power : Int) : List Char :=
  let shown := Text.digits power.natAbs
  'e' :: (if power < 0 then '-' else '+') :: (List.replicate (2 - shown.length) '0' ++ shown)

/-- Digits with the power of ten of the last of them, as text. -/
def digitsText (count : Nat) (power : Int) : List Char :=
  let shown := Text.digits count
  let start := power + shown.length - 1
  if -4 ≤ start ∧ start < 16 then
    if 0 ≤ power then shown ++ List.replicate power.toNat '0' ++ ".0".toList
    else if 0 ≤ start then
      shown.take (start + 1).toNat ++ '.' :: shown.drop (start + 1).toNat
    else '0' :: '.' :: (List.replicate (-start - 1).toNat '0' ++ shown)
  else
    (match shown with
      | [] => []
      | [digit] => [digit]
      | digit :: rest => digit :: '.' :: rest) ++ exponentText start

/-- The characters of the shortest text. -/
def chars : Binary64 → List Char
  | .finite negative significand exponent =>
    (if negative then ['-'] else []) ++
      if significand = 0 then "0.0".toList
      else
        let (count, power) := trimmed (shortest significand exponent)
        digitsText count power
  | .infinite negative => (if negative then ['-'] else []) ++ "inf".toList
  | .notNumber => "nan".toList

/-- The shortest text that reads back as the number. -/
def text (x : Binary64) : String := String.ofList x.chars

end Passbook.Binary64
