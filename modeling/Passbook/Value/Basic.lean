import Passbook.Binary64.Shortest
import Passbook.Decimal.Printing
import Passbook.Text.Quoted

/-!
Values as callers hand them in. An amount, a description or an identifier may be anything that a caller
can write down, so the ledger takes a `Value` and decides for itself what it accepts. `quoted` is how a
message shows a value, `asText` how it writes one out, and `kindName` is the name of its kind.
-/

set_option autoImplicit false
set_option relaxedAutoImplicit false

-- Powers are those of the core library, whatever else is imported.
attribute [local instance (high)] instPowNat

namespace Passbook

/-- What a caller can hand in. Texts consist of characters: a sequence with an unpaired surrogate, which no store can
write either, is none of them. -/
inductive Value where
  | text (content : String)
  | integer (number : Int)
  | truth (holds : Bool)
  | absent
  | decimal (number : Decimal)
  | binary (number : Binary64)
  | list (members : List Value)
  | tuple (members : List Value)
  | mapping (entries : List (String × Value))
  | bytes (content : List UInt8)
deriving Repr, Inhabited

namespace Value

/-- The name of the kind of a value. -/
def kindName : Value → String
  | .text _ => "str"
  | .integer _ => "int"
  | .truth _ => "bool"
  | .absent => "NoneType"
  | .decimal _ => "Decimal"
  | .binary _ => "float"
  | .list _ => "list"
  | .tuple _ => "tuple"
  | .mapping _ => "dict"
  | .bytes _ => "bytes"

/-- Texts with a comma and a space between them. -/
def joined (members : List String) : String := ", ".intercalate members

mutual

/-- A value as a message shows it. -/
def quoted : Value → String
  | .text content => Text.quoted content
  | .integer number => toString number
  | .truth holds => if holds then "True" else "False"
  | .absent => "None"
  | .decimal number => number.shown
  | .binary number => number.text
  | .list members => "[" ++ joined (quotedMembers members) ++ "]"
  | .tuple [member] => "(" ++ quoted member ++ ",)"
  | .tuple members => "(" ++ joined (quotedMembers members) ++ ")"
  | .mapping entries => "\x7b" ++ joined (quotedEntries entries) ++ "\x7d"
  | .bytes content => Text.quotedBytes content

/-- The members of a list as a message shows them. -/
def quotedMembers : List Value → List String
  | [] => []
  | member :: rest => quoted member :: quotedMembers rest

/-- The entries of a mapping as a message shows them. -/
def quotedEntries : List (String × Value) → List String
  | [] => []
  | (key, value) :: rest => (Text.quoted key ++ ": " ++ quoted value) :: quotedEntries rest

end

/-- A value written out: text and decimals as they are, all else as a message shows it. -/
def asText : Value → String
  | .text content => content
  | .decimal number => number.text
  | other => other.quoted

/-- The most digits of a whole number that can be written out. -/
def maxWrittenDigits : Nat := 4300

mutual

/-- Whether a value can be written out: its whole numbers must not have too many digits. -/
def isWritable : Value → Bool
  | .integer number => Decimal.digitCount number.natAbs ≤ maxWrittenDigits
  | .list members | .tuple members => areWritable members
  | .mapping entries => entriesWritable entries
  | _ => true

/-- Whether all members can be written out. -/
def areWritable : List Value → Bool
  | [] => true
  | member :: rest => isWritable member && areWritable rest

/-- Whether all entries can be written out. -/
def entriesWritable : List (String × Value) → Bool
  | [] => true
  | (_, value) :: rest => isWritable value && entriesWritable rest

end

/-- A value, or another one where it is missing. -/
def orElse (value usual : Value) : Value :=
  match value with
  | .absent => usual
  | value => value

/-- The whole number that a value is; a truth value counts as zero or one. -/
def toInt? : Value → Option Int
  | .integer number => some number
  | .truth holds => some (if holds then 1 else 0)
  | _ => none

end Value

/-- The least number of a signed word of 64 bits. -/
def minWord : Int := -(2 ^ (63 : Nat))

/-- The largest number of a signed word of 64 bits. -/
def maxWord : Int := 2 ^ (63 : Nat) - 1

/-- Whether a number fits a signed word of 64 bits. -/
def fitsWord (number : Int) : Bool := minWord ≤ number && number ≤ maxWord

end Passbook
