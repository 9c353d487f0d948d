import Passbook.Account.Status
import Passbook.Decimal.Arithmetic
import Passbook.Failure
import Passbook.Json.Basic
import Passbook.Web.Whole

/-!
Fields of requests. Each kind of field has a reader that gives its value or says what is wrong with it:
whole numbers, amounts, texts and names. A `Problem` says in addition where the field stands and what was
found there.
-/

set_option autoImplicit false
set_option relaxedAutoImplicit false

namespace Passbook.Web

/-- What is wrong with a field. -/
inductive FieldFault where
  | missing
  | notWhole
  | notWholeText
  | fraction
  | tooLargeWhole
  | notFinite
  | notAbove (bound : Int)
  | belowLeast (bound : Int)
  | aboveMost (bound : Int)
  | notDecimal
  | notDecimalText
  | tooManyPlaces
  | notText
  | brokenText
  | tooLong (most : Nat)
  | notAmong (names : List String)
  | notObject
  | notJson
deriving DecidableEq, Repr

/-- Names in quotation marks, the last two with a word between them. -/
def alternatives : List String → String
  | [] => ""
  | [name] => "'" ++ name ++ "'"
  | [first, second] => "'" ++ first ++ "' or '" ++ second ++ "'"
  | first :: rest => "'" ++ first ++ "', " ++ alternatives rest

namespace FieldFault

/-- The kind of a fault. -/
def kind : FieldFault → String
  | .missing => "missing"
  | .notWhole => "int_type"
  | .notWholeText => "int_parsing"
  | .fraction => "int_from_float"
  | .tooLargeWhole => "int_parsing_size"
  | .notFinite => "finite_number"
  | .notAbove _ => "greater_than"
  | .belowLeast _ => "greater_than_equal"
  | .aboveMost _ => "less_than_equal"
  | .notDecimal => "decimal_type"
  | .notDecimalText => "decimal_parsing"
  | .tooManyPlaces => "decimal_max_places"
  | .notText => "string_type"
  | .brokenText => "string_unicode"
  | .tooLong _ => "string_too_long"
  | .notAmong _ => "enum"
  | .notObject => "model_attributes_type"
  | .notJson => "json_invalid"

/-- The fault in words. -/
def message : FieldFault → String
  | .missing => "Field required"
  | .notWhole => "Input should be a valid integer"
  | .notWholeText => "Input should be a valid integer, unable to parse string as an integer"
  | .fraction => "Input should be a valid integer, got a number with a fractional part"
  | .tooLargeWhole => "Unable to parse input string as an integer, exceeded maximum size"
  | .notFinite => "Input should be a finite number"
  | .notAbove bound => "Input should be greater than " ++ toString bound
  | .belowLeast bound => "Input should be greater than or equal to " ++ toString bound
  | .aboveMost bound => "Input should be less than or equal to " ++ toString bound
  | .notDecimal => "Decimal input should be an integer, float, string or Decimal object"
  | .notDecimalText => "Input should be a valid decimal"
  | .tooManyPlaces => "Decimal input should have no more than 2 decimal places"
  | .notText => "Input should be a valid string"
  | .brokenText => "Input should be a valid string, unable to parse raw data as a unicode string"
  | .tooLong most => "String should have at most " ++ toString most ++ " characters"
  | .notAmong names => "Input should be " ++ alternatives names
  | .notObject => "Input should be a valid dictionary or object to extract fields from"
  | .notJson => "JSON decode error"

end FieldFault

/-- A step on the way to a field. -/
inductive Step where
  | name (text : String)
  | place (number : Nat)
deriving DecidableEq, Repr

/-- What is wrong where, and what was found there. -/
structure Problem where
  fault : FieldFault
  location : List Step
  found : Json
deriving Repr

/-- The whole number that a text denotes. -/
def wholeOfText (text : String) : Except FieldFault Int :=
  match Whole.ofText text with
  | .ok number => .ok number
  | .error .malformed => .error .notWholeText
  | .error .tooLong => .error .tooLargeWhole

/-- The whole number of a field. One written with a point must lie strictly between the bounds of a
signed word of 64 bits. -/
def whole (found : Json) : Except FieldFault Int :=
  match found with
  | .bool holds => .ok (if holds then 1 else 0)
  | .integer number => .ok number
  | .number value =>
    match value with
    | .finite .. =>
      match value.toInt? with
      | none => .error .fraction
      | some number =>
        if minWord < number ∧ number ≤ maxWord then .ok number else .error .tooLargeWhole
    | _ => .error .notFinite
  | .string content => wholeOfText content
  | .brokenText => .error .notWholeText
  | .null | .array _ | .object _ => .error .notWhole

/-- A number above a bound. -/
def above (bound : Int) (number : Int) : Except FieldFault Int :=
  if bound < number then .ok number else .error (.notAbove bound)

/-- A number within bounds. -/
def within (least most : Int) (number : Int) : Except FieldFault Int :=
  if number < least then .error (.belowLeast least)
  else if most < number then .error (.aboveMost most)
  else .ok number

/-- The decimal that a field denotes; a binary number counts as its shortest text. -/
def decimalOf (found : Json) : Except FieldFault Decimal :=
  let ofText (text : String) : Except FieldFault Decimal :=
    match Decimal.ofText? text with
    | some number => .ok number
    | none => .error .notDecimalText
  match found with
  | .string content => ofText content
  | .integer number => .ok (Decimal.ofInt number)
  | .number value => ofText value.text
  | .brokenText => .error .notDecimalText
  | .null | .bool _ | .array _ | .object _ => .error .notDecimal

/-- The decimal places that a finite decimal needs: zeros at its end are not counted. -/
def neededPlaces : Decimal → Nat
  | .finite _ coefficient exponent =>
    let places := (-exponent).toNat
    if coefficient = 0 then 0 else places - (Decimal.stripZeros places coefficient).2
  | _ => 0

/-- The amount of a field: finite, of two places at most, and above zero. -/
def amount (found : Json) : Except FieldFault Decimal := do
  let number ← decimalOf found
  if !number.isFinite then throw .notFinite
  if 2 < neededPlaces number then throw .tooManyPlaces
  if number.compare? .zero = some .gt then return number else throw (.notAbove 0)

/-- The text of a field, of at most so many characters. -/
def shortText (most : Nat) (found : Json) : Except FieldFault String :=
  match found with
  | .string content => if most < content.length then .error (.tooLong most) else .ok content
  | .brokenText => .error .brokenText
  | _ => .error .notText

/-- The member of a closed set that a field names. -/
def among {Member : Type} (ofName? : String → Option Member) (names : List String) (found : Json) :
    Except FieldFault Member :=
  let member? : Option Member := match found with
    | .string content => ofName? content
    | _ => none
  (member?.map .ok).getD (.error (.notAmong names))

/-- The kind of account that a field names. -/
def accountKind : Json → Except FieldFault AccountKind :=
  among AccountKind.ofName? (AccountKind.all.map (·.name))

/-- The status that a field names. -/
def accountStatus : Json → Except FieldFault AccountStatus :=
  among AccountStatus.ofName? (AccountStatus.all.map (·.name))

end Passbook.Web
