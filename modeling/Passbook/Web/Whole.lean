import Passbook.Text.Blank
import Passbook.Text.Digit

/-!
Whole numbers in the texts of requests. The plain form has a minus perhaps, and digits without a zero in
front. A text in another form is cleaned first: white space around it, a plus, zeros in front, a fraction
of nothing but zeros and single underscores between digits are taken away (`cleaned?`), and what remains
must have the plain form. `Whole.ofText` reads a text.
-/

set_option autoImplicit false
set_option relaxedAutoImplicit false

namespace Passbook.Web.Whole

/-- Why a text denotes no whole number. -/
inductive Absence where
  | malformed
  /-- The number is longer than what is read of one. -/
  | tooLong
deriving DecidableEq, Repr

/-- The most characters of a number in its plain form. -/
def maxLength : Nat := 4300

/-- Whether a minus stands in front, and what stands behind it. -/
def splitMinus : List Char → Bool × List Char
  | '-' :: rest => (true, rest)
  | text => (false, text)

/-- The whole number that a text denotes in its plain form. One that begins as it should is too long
whatever follows its digits. -/
def ofPlain (text : List Char) : Except Absence Int :=
  let (negative, unsigned) := splitMinus text
  let shown := unsigned.takeWhile Char.isDigit
  let rest := unsigned.dropWhile Char.isDigit
  match shown with
  | [] => .error .malformed
  | '0' :: more => if more.isEmpty ∧ rest.isEmpty then .ok 0 else .error .malformed
  | shown =>
    if maxLength < text.length - rest.length then .error .tooLong
    else if !rest.isEmpty then .error .malformed
    else
      let magnitude : Int := (Text.ofDigits (shown.filterMap Text.plainDigit?) : Nat)
      .ok (if negative then -magnitude else magnitude)

/-- A text behind the zeros in front of a number and the underscores among them. One zero stays if there
is nothing else or a point follows; what begins with neither a digit nor a minus is no number. -/
def withoutZeros? (text : List Char) : Option (List Char) :=
  let begins (c : Char) : Bool := ('1' ≤ c && c ≤ '9') || c = '-'
  match text with
  | '0' :: rest =>
    match rest.dropWhile fun c ↦ c = '0' ∨ c = '_' with
    | [] => some (text.drop (text.length - 1))
    | c :: more =>
      if begins c then some (c :: more)
      else if c = '.' then some (text.drop (text.length - more.length - 2))
      else none
  | c :: _ => if begins c then some text else none
  | [] => none

/-- A text without a fraction of nothing but zeros, of which there must be some. -/
def withoutFraction (text : List Char) : List Char :=
  match text.dropWhile (· ≠ '.') with
  | _ :: '0' :: zeros => if zeros.all (· = '0') then text.takeWhile (· ≠ '.') else text
  | _ => text

/-- Whether underscores stand only between other characters, one at a time. -/
def joinsParts : List Char → Bool
  | [] => true
  | ['_'] => false
  | '_' :: '_' :: _ => false
  | _ :: rest => joinsParts rest

/-- A text without underscores, if they stand only between other characters. -/
def withoutUnderscores (text : List Char) : List Char :=
  if text.head? ≠ some '_' ∧ joinsParts text then text.filter (· ≠ '_') else text

/-- The plain form of a number without a plus. -/
def cleanedUnsigned? (text : List Char) : Option (List Char) :=
  (withoutZeros? text).map fun text ↦ withoutUnderscores (withoutFraction text)

/-- The plain form of a whole number that is written more freely. -/
def cleaned? (text : List Char) : Option (List Char) :=
  match Text.trim Text.isWhiteSpace text with
  | '-' :: rest => (cleanedUnsigned? rest).map ('-' :: ·)
  | '+' :: '-' :: _ => none
  | '+' :: rest => cleanedUnsigned? rest
  | rest => cleanedUnsigned? rest

/-- The whole number that a text denotes. -/
def ofText (text : String) : Except Absence Int :=
  match ofPlain text.toList with
  | .error .malformed =>
    match (cleaned? text.toList).map ofPlain with
    | some (.ok number) => .ok number
    | _ => .error .malformed
  | outcome => outcome

end Passbook.Web.Whole
