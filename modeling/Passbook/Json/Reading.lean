import Passbook.Json.Basic
import Passbook.Decimal.Reading
import Passbook.Text.Scheme

/-!
Reading JSON. Beyond the standard, the words for what is not a number and for infinities are read. A
fault has a place: the first character that cannot be right, or for a text without an end the mark that
opens it. Arrays and objects stand in each other up to a limit only. `Json.read` reads a text, and
`Json.readBytes` reads bytes in the encoding scheme that their start shows.
-/

set_option autoImplicit false
set_option relaxedAutoImplicit false

namespace Passbook.Json

/-- Why a text cannot be read. -/
inductive Fault where
  /-- It is wrong from this character on. -/
  | malformed (place : Nat)
  /-- A whole number has more digits than can be converted. -/
  | tooManyDigits
  /-- Too many arrays and objects stand in each other. -/
  | tooDeep
  /-- The bytes are not text in the encoding scheme that their start shows. -/
  | undecodable
deriving DecidableEq, Repr

/-- A place in a text, and what stands from there on. -/
structure Cursor where
  place : Nat
  rest : List Char
deriving Repr

namespace Cursor

/-- The cursor so many characters further. -/
def skip (cursor : Cursor) (count : Nat) : Cursor :=
  ⟨cursor.place + count, cursor.rest.drop count⟩

/-- Whether a character may stand between values. -/
def isSpace (c : Char) : Bool := c = ' ' || c = '\t' || c = '\n' || c = '\r'

/-- The cursor behind the space in front of it. -/
def skipSpace (cursor : Cursor) : Cursor :=
  cursor.skip (cursor.rest.takeWhile isSpace).length

/-- The cursor behind a word, if that stands there. -/
def behind? (cursor : Cursor) (word : String) : Option Cursor :=
  if word.toList.isPrefixOf cursor.rest then some (cursor.skip word.length) else none

end Cursor

/-- What a reader gives: something, and the cursor behind it. -/
abbrev Reader (Result : Type) := Cursor → Except Fault (Result × Cursor)

/-- The value of four digits in base sixteen. -/
def fourDigits? (text : List Char) : Option Nat :=
  let digits := (text.take 4).filterMap fun c ↦
    if '0' ≤ c ∧ c ≤ '9' then some (c.toNat - '0'.toNat)
    else if 'a' ≤ c ∧ c ≤ 'f' then some (c.toNat - 'a'.toNat + 10)
    else if 'A' ≤ c ∧ c ≤ 'F' then some (c.toNat - 'A'.toNat + 10)
    else none
  if digits.length = 4 then some (digits.foldl (fun number digit ↦ number * 16 + digit) 0) else none

/-- The character that an escape of one letter stands for. -/
def shortEscape? (c : Char) : Option Char :=
  match c with
  | '"' => some '"'
  | '\\' => some '\\'
  | '/' => some '/'
  | 'b' => some '\x08'
  | 'f' => some '\x0c'
  | 'n' => some '\n'
  | 'r' => some '\r'
  | 't' => some '\t'
  | _ => none

/-- A text as it is read: its characters from the last one on, and whether a half of a pair was among
them. -/
structure Gathered where
  reversed : List Char := []
  broken : Bool := false

/-- The text with one more code unit. -/
def Gathered.push (gathered : Gathered) (unit : Nat) : Gathered :=
  if Text.isHighHalf unit || Text.isLowHalf unit then
    { reversed := '\uFFFD' :: gathered.reversed, broken := true }
  else { gathered with reversed := Char.ofNat unit :: gathered.reversed }

/-- A code unit in four digits behind a cursor, with at least one more character behind it. -/
def readUnit (cursor : Cursor) : Except Fault (Nat × Cursor) :=
  if cursor.rest.length ≤ 4 then .error (.malformed (cursor.place - 1))
  else match fourDigits? cursor.rest with
    | some unit => .ok (unit, cursor.skip 4)
    | none => .error (.malformed (cursor.place - 1))

/-- A code unit and, if that is the first half of a pair, the second half behind it. -/
def readPair (cursor : Cursor) : Except Fault (Nat × Cursor) := do
  let (unit, next) ← readUnit cursor
  match Text.isHighHalf unit, next.rest with
  | true, '\\' :: 'u' :: _ :: _ :: _ :: _ :: _ :: _ =>
    let (second, behind) ← readUnit (next.skip 2)
    if Text.isLowHalf second then return (Text.joinHalves unit second, behind)
    else return (unit, next)
  | _, _ => return (unit, next)

/-- The rest of a text whose opening mark stood at a place; the first argument bounds its length. -/
def readTextFrom (start : Nat) : Nat → Gathered → Reader Gathered
  | 0, _, _ => .error (.malformed start)
  | more + 1, gathered, cursor =>
    match cursor.rest with
    | [] => .error (.malformed start)
    | '"' :: _ => .ok (gathered, cursor.skip 1)
    | ['\\'] => .error (.malformed start)
    | '\\' :: 'u' :: _ => do
      let (unit, next) ← readPair (cursor.skip 2)
      readTextFrom start more (gathered.push unit) next
    | '\\' :: c :: _ =>
      match shortEscape? c with
      | some c => readTextFrom start more (gathered.push c.toNat) (cursor.skip 2)
      | none => .error (.malformed cursor.place)
    | c :: _ =>
      if c.toNat < 0x20 then .error (.malformed cursor.place)
      else readTextFrom start more (gathered.push c.toNat) (cursor.skip 1)

/-- A text; the cursor stands behind its opening mark. -/
def readText : Reader Gathered := fun cursor ↦
  readTextFrom (cursor.place - 1) (cursor.rest.length + 1) {} cursor

/-- The characters that were gathered. -/
def Gathered.content (gathered : Gathered) : String := String.ofList gathered.reversed.reverse

/-- The value of the characters that were gathered. -/
def Gathered.value (gathered : Gathered) : Json :=
  if gathered.broken then .brokenText else .string gathered.content

/-- An entry under the text that was gathered. Nobody can ask for an entry whose key cannot be encoded,
so all that its value shows is that the object cannot be encoded either. -/
def Gathered.entry (gathered : Gathered) (value : Json) : String × Json :=
  (gathered.content, if gathered.broken then .array [value, .brokenText] else value)

/-- The characters of a fraction at the start of a text: a point and digits. -/
def fractionPart (text : List Char) : List Char :=
  match text with
  | '.' :: rest =>
    let digits := rest.takeWhile Char.isDigit
    if digits.isEmpty then [] else '.' :: digits
  | _ => []

/-- The characters of an exponent at the start of a text: a letter, perhaps a sign, and digits. -/
def exponentPart (text : List Char) : List Char :=
  match text with
  | c :: rest =>
    if c = 'e' ∨ c = 'E' then
      let (sign, rest) : List Char × List Char :=
        match rest with
        | '+' :: rest => (['+'], rest)
        | '-' :: rest => (['-'], rest)
        | rest => ([], rest)
      let digits := rest.takeWhile Char.isDigit
      if digits.isEmpty then [] else c :: sign ++ digits
    else []
  | [] => []

/-- The most digits of a whole number. -/
def maxDigits : Nat := 4300

/-- A number. -/
def readNumber : Reader Json := fun cursor ↦
  let (sign, rest) : List Char × List Char :=
    match cursor.rest with
    | '-' :: rest => (['-'], rest)
    | rest => ([], rest)
  let whole :=
    match rest with
    | '0' :: _ => ['0']
    | rest => rest.takeWhile Char.isDigit
  if whole.isEmpty then .error (.malformed cursor.place)
  else
    let fraction := fractionPart (rest.drop whole.length)
    let exponent := exponentPart (rest.drop (whole.length + fraction.length))
    let next := cursor.skip (sign.length + whole.length + fraction.length + exponent.length)
    if fraction.isEmpty ∧ exponent.isEmpty then
      let magnitude : Int := (Text.ofDigits (whole.filterMap Text.plainDigit?) : Nat)
      if maxDigits < whole.length then .error .tooManyDigits
      else .ok (.integer (if sign.isEmpty then magnitude else -magnitude), next)
    else
      match Decimal.magnitude? (whole ++ fraction ++ exponent) with
      | some (coefficient, power) =>
        .ok (.number (.ofDecimal (!sign.isEmpty) coefficient power), next)
      | none => .error (.malformed cursor.place)

/-- The words that stand for values. -/
def words : List (String × Json) := [
  ("null", .null),
  ("true", .bool true),
  ("false", .bool false),
  ("NaN", .number .notNumber),
  ("Infinity", .number (.infinite false)),
  ("-Infinity", .number (.infinite true))]

/-- A value that is neither a text nor made of others. -/
def readPlain : Reader Json := fun cursor ↦
  match words.findSome? fun (word, value) ↦ (cursor.behind? word).map (value, ·) with
  | some result => .ok result
  | none => readNumber cursor

/-- How many arrays and objects may stand in each other. -/
def maxDepth : Nat := 960

/-- The entries with one more, which takes the place of an entry under the same key. -/
def putEntry (entries : List (String × Json)) (key : String) (value : Json) :
    List (String × Json) :=
  if entries.any (·.1 == key) then
    entries.map fun entry ↦ if entry.1 == key then (key, value) else entry
  else entries ++ [(key, value)]

/-- An object of entries as they were written: of several under one key the last counts. -/
def ofEntries (entries : List (String × Json)) : Json :=
  .object (entries.foldl (fun earlier (key, value) ↦ putEntry earlier key value) [])

mutual

/-- A value inside so many arrays and objects; the first argument bounds the number of its parts. -/
def readValue : Nat → Nat → Reader Json
  | 0, _, cursor => .error (.malformed cursor.place)
  | more + 1, depth, cursor =>
    match cursor.rest with
    | '"' :: _ => do
      let (gathered, next) ← readText (cursor.skip 1)
      return (gathered.value, next)
    | '[' :: _ =>
      let inside := (cursor.skip 1).skipSpace
      if maxDepth ≤ depth then .error .tooDeep
      else match inside.rest with
        | ']' :: _ => .ok (.array [], inside.skip 1)
        | _ => do
          let (members, next) ← readMembers more (depth + 1) inside
          return (.array members, next)
    | '\x7b' :: _ =>
      let inside := (cursor.skip 1).skipSpace
      if maxDepth ≤ depth then .error .tooDeep
      else match inside.rest with
        | '\x7d' :: _ => .ok (.object [], inside.skip 1)
        | _ => do
          let (entries, next) ← readEntries more (depth + 1) inside
          return (ofEntries entries, next)
    | _ => readPlain cursor

/-- The members of an array from one of them on, and the bracket behind them. -/
def readMembers : Nat → Nat → Reader (List Json)
  | 0, _, cursor => .error (.malformed cursor.place)
  | more + 1, depth, cursor => do
    let (member, next) ← readValue more depth cursor
    let next := next.skipSpace
    match next.rest with
    | ']' :: _ => return ([member], next.skip 1)
    | ',' :: _ =>
      let (members, next) ← readMembers more depth (next.skip 1).skipSpace
      return (member :: members, next)
    | _ => throw (.malformed next.place)

/-- The entries of an object from one of them on, and the brace behind them. -/
def readEntries : Nat → Nat → Reader (List (String × Json))
  | 0, _, cursor => .error (.malformed cursor.place)
  | more + 1, depth, cursor =>
    match cursor.rest with
    | '"' :: _ => do
      let (key, next) ← readText (cursor.skip 1)
      let next := next.skipSpace
      match next.rest with
      | ':' :: _ =>
        let (value, next) ← readValue more depth (next.skip 1).skipSpace
        let next := next.skipSpace
        match next.rest with
        | '\x7d' :: _ => return ([key.entry value], next.skip 1)
        | ',' :: _ =>
          let (entries, next) ← readEntries more depth (next.skip 1).skipSpace
          return (key.entry value :: entries, next)
        | _ => throw (.malformed next.place)
      | _ => throw (.malformed next.place)
    | _ => .error (.malformed cursor.place)

end

/-- The value that characters denote. Every part but the outermost takes two steps at most for each of
its characters. -/
def readChars (text : List Char) : Except Fault Json := do
  let (value, next) ← readValue (2 * text.length + 2) 0 (Cursor.skipSpace ⟨0, text⟩)
  let next := next.skipSpace
  if next.rest.isEmpty then return value else throw (.malformed next.place)

/-- The value that a text denotes. -/
def read (text : String) : Except Fault Json := readChars text.toList

/-- The value that bytes denote. -/
def readBytes (bytes : List Nat) : Except Fault Json :=
  match (Text.Scheme.ofStart bytes).decode? bytes with
  | some text => readChars text
  | none => .error .undecodable

end Passbook.Json
