import Passbook.Text.Quoted

/-!
How much is reported. A level is chosen by its name in any case; an empty choice falls back on the
setting. `Verbosity.levelNamed` finds the number of a level, below which notices are not shown.
-/

set_option autoImplicit false
set_option relaxedAutoImplicit false

namespace Passbook.Verbosity

/-- The names of the levels. -/
def levels : List (String × Nat) := [
  ("CRITICAL", 50),
  ("FATAL", 50),
  ("ERROR", 40),
  ("WARNING", 30),
  ("WARN", 30),
  ("INFO", 20),
  ("DEBUG", 10),
  ("NOTSET", 0)]

/-- Names that stand for something, but for no level. -/
inductive NoLevel where
  | unknown
  | notLevel
  | unknownFormat
deriving DecidableEq, Repr

/-- The reason in words, where there are any. -/
def NoLevel.message? : NoLevel → Option String
  | .unknownFormat => some ("Unknown level: " ++ Text.quoted "%(levelname)s:%(name)s:%(message)s")
  | _ => none

/-- A letter in its large form. Two letters of other scripts turn into plain ones, and letters that are
written as one come apart. -/
def upper (c : Char) : List Char :=
  match c with
  | 'ı' => ['I']
  | 'ſ' => ['S']
  | 'ß' => ['S', 'S']
  | 'ﬀ' => ['F', 'F']
  | 'ﬁ' => ['F', 'I']
  | 'ﬂ' => ['F', 'L']
  | 'ﬃ' => ['F', 'F', 'I']
  | 'ﬄ' => ['F', 'F', 'L']
  | 'ﬅ' => ['S', 'T']
  | 'ﬆ' => ['S', 'T']
  | c => [c.toUpper]

/-- The level with a name, in small or large letters. -/
def levelNamed (name : String) : Except NoLevel Nat :=
  let name := String.ofList (name.toList.flatMap upper)
  match levels.lookup name with
  | some level => .ok level
  | none =>
    if name = "BASIC_FORMAT" then .error .unknownFormat
    else if name = "_STYLES" then .error .notLevel
    else .error .unknown

/-- The level that is chosen, or else the one that is set. -/
def choose (choice : Option String) (setting : String) : Except NoLevel Nat :=
  match choice with
  | some name => levelNamed (if name.isEmpty then setting else name)
  | none => levelNamed setting

/-- Where reports go: to one place. -/
def places : Nat := 1

/-- The level for the statements that the store runs. -/
def storeLevel : Nat := 30

end Passbook.Verbosity
