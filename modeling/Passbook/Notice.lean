/-!
Notices: what a ledger reports about its work to those who run it, as data. The text of a notice is
made where it arises; `Notice.shown` is what is shown of it: its first line, with a mark in place of
every reference.
-/

set_option autoImplicit false
set_option relaxedAutoImplicit false

-- The zero of a sum is that of the core library, whatever else is imported.
attribute [local instance (high)] Zero.ofOfNat0

namespace Passbook

/-- How much a notice matters. -/
inductive Severity where
  | info
  | warning
  | error
deriving DecidableEq, Repr

/-- The name of a severity. -/
def Severity.name : Severity → String
  | .info => "INFO"
  | .warning => "WARNING"
  | .error => "ERROR"

/-- A notice. -/
structure Notice where
  severity : Severity
  text : String
deriving DecidableEq, Repr

namespace Notice

/-- Whether a character is a digit in base sixteen as references are written. -/
def isReferenceDigit (c : Char) : Bool := c.isDigit || ('a' ≤ c && c ≤ 'f')

/-- Whether a text begins with groups of digits of the given lengths, with hyphens between them. -/
def beginsWithGroups : List Nat → List Char → Bool
  | [], _ => true
  | length :: others, text =>
    let group := text.take length
    let rest := text.drop length
    group.length = length && group.all isReferenceDigit &&
      (others.isEmpty || (rest.head? = some '-' && beginsWithGroups others (rest.drop 1)))

/-- The lengths of the groups of a reference. -/
def referenceGroups : List Nat := [8, 4, 4, 4, 12]

/-- The characters of a reference, with the hyphens between its groups. -/
def referenceLength : Nat := referenceGroups.sum + (referenceGroups.length - 1)

/-- A text with a mark in place of every reference; so many of its characters belong to a reference that
was found. -/
def masked : Nat → List Char → List Char
  | _, [] => []
  | hidden + 1, _ :: rest => masked hidden rest
  | 0, c :: rest =>
    if beginsWithGroups referenceGroups (c :: rest) then
      "<uuid>".toList ++ masked (referenceLength - 1) rest
    else c :: masked 0 rest

/-- What is shown of a notice. -/
def shown (notice : Notice) : String :=
  String.ofList (masked 0 (notice.text.toList.takeWhile (· ≠ '\n')))

end Notice

end Passbook
