/-!
Decimal digits of every script. Each script that writes numbers in tens has its ten digits in a row,
so a table of the zeros is enough. `digitValue?_lt` says that a value read is below ten.
-/

set_option autoImplicit false
set_option relaxedAutoImplicit false

namespace Passbook.Text

/-- The digit zero of each script, ascending. -/
def zeros : List Nat := [
  0x30, 0x660, 0x6F0, 0x7C0, 0x966, 0x9E6, 0xA66, 0xAE6, 0xB66, 0xBE6, 0xC66, 0xCE6, 0xD66,
  0xDE6, 0xE50, 0xED0, 0xF20, 0x1040, 0x1090, 0x17E0, 0x1810, 0x1946, 0x19D0, 0x1A80, 0x1A90,
  0x1B50, 0x1BB0, 0x1C40, 0x1C50, 0xA620, 0xA8D0, 0xA900, 0xA9D0, 0xA9F0, 0xAA50, 0xABF0, 0xFF10,
  0x104A0, 0x10D30, 0x11066, 0x110F0, 0x11136, 0x111D0, 0x112F0, 0x11450, 0x114D0, 0x11650,
  0x116C0, 0x11730, 0x118E0, 0x11950, 0x11C50, 0x11D50, 0x11DA0, 0x16A60, 0x16AC0, 0x16B50,
  0x1D7CE, 0x1D7D8, 0x1D7E2, 0x1D7EC, 0x1D7F6, 0x1E140, 0x1E2F0, 0x1E950, 0x1FBF0]

/-- The value of a decimal digit of any script. -/
def digitValue? (c : Char) : Option Nat :=
  if 0x30 ≤ c.toNat ∧ c.toNat ≤ 0x39 then some (c.toNat - 0x30)
  else if c.toNat < 0x80 then none
  else (zeros.find? fun start ↦ start ≤ c.toNat ∧ c.toNat < start + 10).map (c.toNat - ·)

/-- The value of a digit of the ten that this text is written in. -/
def plainDigit? (c : Char) : Option Nat :=
  if 0x30 ≤ c.toNat ∧ c.toNat ≤ 0x39 then some (c.toNat - 0x30) else none

theorem digitValue?_lt {c : Char} {value : Nat} (h : digitValue? c = some value) : value < 10 := by
  unfold digitValue? at h
  split at h
  · next range => simp only [Option.some.injEq] at h; omega
  · split at h
    · simp at h
    · obtain ⟨start, found, rfl⟩ := Option.map_eq_some_iff.1 h
      have range := List.find?_some found
      simp only [decide_eq_true_eq] at range
      omega

/-- The number that a row of digits denotes, most significant digit first. -/
def ofDigits (digits : List Nat) : Nat :=
  digits.foldl (fun number digit ↦ number * 10 + digit) 0

/-- The digits of a number in base ten, most significant first; zero has one digit. -/
def digits (number : Nat) : List Char := Nat.toDigits 10 number

end Passbook.Text
