/-!
White space. Two classes are in use: `isWhiteSpace` is the property of that name which text standards
define, and `isBlank` adds to it the four separators of file, group, record and unit, which decimals
are trimmed of as well. `isWhiteSpace_isBlank` says that the first is part of the
second.
-/

set_option autoImplicit false
set_option relaxedAutoImplicit false

namespace Passbook.Text

/-- The characters that text standards count as white space. -/
def isWhiteSpace (c : Char) : Bool :=
  let n := c.toNat
  (9 ≤ n && n ≤ 13) || n == 0x20 || n == 0x85 || n == 0xA0 || n == 0x1680 ||
    (0x2000 ≤ n && n ≤ 0x200A) || n == 0x2028 || n == 0x2029 || n == 0x202F || n == 0x205F ||
    n == 0x3000

/-- White space together with the separators of file, group, record and unit. -/
def isBlank (c : Char) : Bool :=
  isWhiteSpace c || (0x1C ≤ c.toNat && c.toNat ≤ 0x1F)

theorem isWhiteSpace_isBlank (c : Char) (h : isWhiteSpace c = true) : isBlank c = true := by
  simp [isBlank, h]

/-- A text without the characters of a class at its two ends. -/
def trim (blank : Char → Bool) (text : List Char) : List Char :=
  ((text.dropWhile blank).reverse.dropWhile blank).reverse

end Passbook.Text
