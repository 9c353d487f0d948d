import Passbook.Failure
import Passbook.Binary64.Reading

/-!
References by which a caller recognises a transaction again. One is either chosen by the caller, as a
number of 128 bits written in base sixteen, or drawn by the ledger; drawn ones differ from each other
and from all that callers choose. `Reference.read` reads a chosen one; `text` writes it in five groups.
-/

set_option autoImplicit false
set_option relaxedAutoImplicit false

namespace Passbook

/-- A reference: the number that a caller chose, or the next one drawn. -/
inductive Reference where
  | chosen (number : Nat)
  | drawn (serial : Nat)
deriving DecidableEq, Repr

namespace Reference

/-- The value of a digit in base sixteen. -/
def digitOf? (c : Char) : Option Nat :=
  if '0' ≤ c ∧ c ≤ '9' then some (c.toNat - '0'.toNat)
  else if 'a' ≤ c ∧ c ≤ 'f' then some (c.toNat - 'a'.toNat + 10)
  else if 'A' ≤ c ∧ c ≤ 'F' then some (c.toNat - 'A'.toNat + 10)
  else none

/-- Digits in base sixteen, with an underscore between two of them at most. -/
def digits? (behindDigit : Bool) : List Char → Option (List Nat)
  | [] => if behindDigit then some [] else none
  | '_' :: rest => if behindDigit then digits? false rest else none
  | c :: rest => do
    let digit ← digitOf? c
    return digit :: (← digits? true rest)

/-- The number that a text denotes in base sixteen; `0x` may stand in front. -/
def hexadecimal? (text : List Char) : Option Int :=
  let (negative, text) := Decimal.splitSign (Text.plainNumber text)
  let digits :=
    match text with
    | '0' :: x :: rest =>
      if x = 'x' ∨ x = 'X' then
        digits? false (match rest with | '_' :: rest => rest | rest => rest)
      else digits? false text
    | text => digits? false text
  digits.map fun digits ↦
    let magnitude : Int := (digits.foldl (fun number digit ↦ number * 16 + digit) 0 : Nat)
    if negative then -magnitude else magnitude

/-- A text without every occurrence of a word; the last argument bounds the text's length. -/
def without (word : List Char) : Nat → List Char → List Char
  | 0, text => text
  | _, [] => []
  | more + 1, c :: rest =>
    if word.isPrefixOf (c :: rest) then without word more ((c :: rest).drop word.length)
    else c :: without word more rest

/-- The digits of a written reference: without the words that may announce one, the braces around it
and the hyphens between its groups. -/
def bare (text : List Char) : List Char :=
  let text := without "urn:".toList text.length text
  let text := without "uuid:".toList text.length text
  (Text.trim (fun c ↦ c = '\x7b' || c = '\x7d') text).filter (· ≠ '-')

/-- The reference that a text denotes. -/
def read (text : String) : Except Failure Reference :=
  let digits := bare text.toList
  if digits.length ≠ 32 then .error (.badValue .badReference)
  else match hexadecimal? digits with
    | none => .error (.badValue (.notHexadecimal (String.ofList digits)))
    | some number =>
      if number < 0 then .error (.badValue .referenceRange) else .ok (.chosen number.toNat)

/-- A chosen reference in its five groups. -/
def grouped (number : Nat) : String :=
  let digits := Text.hexadecimal 32 number
  let part (start length : Nat) : List Char := (digits.drop start).take length
  String.ofList (part 0 8 ++ '-' :: part 8 4 ++ '-' :: part 12 4 ++ '-' :: part 16 4 ++
    '-' :: part 20 12)

end Reference

end Passbook
