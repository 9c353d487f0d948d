import Passbook.Binary64.Shortest
import Passbook.Text.Quoted

/-!
JSON values and how they are written. Whole numbers and others are kept apart, entries of an object keep
their order, and a text whose characters cannot be encoded is kept as `brokenText`. `Json.text` writes a
value in one line.
-/

set_option autoImplicit false
set_option relaxedAutoImplicit false

namespace Passbook

/-- A JSON value. -/
inductive Json where
  | null
  | bool (holds : Bool)
  | integer (number : Int)
  | number (value : Binary64)
  | string (content : String)
  /-- A text with half of a pair of code units in it. -/
  | brokenText
  | array (members : List Json)
  | object (entries : List (String × Json))
deriving Repr, Inhabited

namespace Json

/-- How a character is written inside quotation marks. -/
def escaped (c : Char) : List Char :=
  if c = '"' ∨ c = '\\' then ['\\', c]
  else if c.toNat < 0x20 then '\\' :: 'u' :: Text.hexadecimal 4 c.toNat
  else [c]

/-- A text between quotation marks. -/
def quoted (content : String) : String :=
  String.ofList ('"' :: content.toList.flatMap escaped ++ ['"'])

mutual

/-- A value in one line. -/
def text : Json → String
  | .null => "null"
  | .bool holds => if holds then "true" else "false"
  | .integer whole => toString whole
  | .number value => value.text
  | .string content => quoted content
  | .brokenText => quoted "\uFFFD"
  | .array members => "[" ++ ",".intercalate (memberTexts members) ++ "]"
  | .object entries => "\x7b" ++ ",".intercalate (entryTexts entries) ++ "\x7d"

/-- The members of an array, each in one line. -/
def memberTexts : List Json → List String
  | [] => []
  | member :: rest => text member :: memberTexts rest

/-- The entries of an object, each in one line. -/
def entryTexts : List (String × Json) → List String
  | [] => []
  | (key, value) :: rest => (quoted key ++ ":" ++ text value) :: entryTexts rest

end

/-- The value of the last entry under a key. -/
def entry? (value : Json) (key : String) : Option Json :=
  match value with
  | .object entries => entries.reverse.lookup key
  | _ => none

mutual

/-- Whether all numbers are finite, so that the value can be sent. -/
def isFinite : Json → Bool
  | .number (.finite ..) => true
  | .number _ => false
  | .array members => areFinite members
  | .object entries => entriesFinite entries
  | _ => true

/-- Whether all members can be sent. -/
def areFinite : List Json → Bool
  | [] => true
  | member :: rest => isFinite member && areFinite rest

/-- Whether all entries can be sent. -/
def entriesFinite : List (String × Json) → Bool
  | [] => true
  | (_, value) :: rest => isFinite value && entriesFinite rest

end

mutual

/-- Whether all texts can be encoded. -/
def isEncodable : Json → Bool
  | .brokenText => false
  | .array members => areEncodable members
  | .object entries => entriesEncodable entries
  | _ => true

/-- Whether all members can be encoded. -/
def areEncodable : List Json → Bool
  | [] => true
  | member :: rest => isEncodable member && areEncodable rest

/-- Whether all entries can be encoded. -/
def entriesEncodable : List (String × Json) → Bool
  | [] => true
  | (_, value) :: rest => isEncodable value && entriesEncodable rest

end

end Json

end Passbook
