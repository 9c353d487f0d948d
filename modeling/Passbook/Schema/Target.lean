import Passbook.Binary64.Reading
import Passbook.Schema

/-!
Where the tables are asked to go. A target names a revision, perhaps behind a label, or counts steps from
the present revision or from one that it names. There are two revisions, one step apart, and the tables
only go back when the base is asked for by its own name. `Schema.move` does what a target asks for: it
first sees to the table that remembers the revision, unless the target is no single one.
-/

set_option autoImplicit false
set_option relaxedAutoImplicit false

namespace Passbook.Schema

/-- Why the tables do not go where they are asked to go. -/
inductive Stop where
  /-- There is no such revision. -/
  | noSuchRevision
  /-- The target names a revision, but there is no way to it. -/
  | noWay
deriving DecidableEq, Repr

/-- What a target asks for. -/
inductive Target where
  | base
  /-- From one revision to another. -/
  | span
  /-- So many steps, from a revision or from where the tables stand. -/
  | stepwise (label start : Option (List Char)) (count : Int)
  | revision (label : Option (List Char)) (name : List Char)
deriving DecidableEq, Repr

namespace Target

/-- Whether a character may stand in the name of a revision from which steps are counted. -/
def isNameChar (c : Char) : Bool := c.isAlphanum || c = '_'

/-- A revision to count from, if there is one, and a signed number of steps at the start of a text. -/
def steps? (text : List Char) : Option (Option (List Char) × Int) :=
  let name := text.takeWhile isNameChar
  match text.drop name.length with
  | [] => none
  | sign :: rest =>
    let digits := (rest.takeWhile fun c ↦ (Text.digitValue? c).isSome).filterMap Text.digitValue?
    if (sign = '+' ∨ sign = '-') ∧ ¬ digits.isEmpty then
      let count : Int := (Text.ofDigits digits : Nat)
      some (if name.isEmpty then none else some name, if sign = '-' then -count else count)
    else none

/-- Steps behind a label: the label ends at the first sign for one that steps follow. So many characters
of it have been read, the last of which comes first. -/
def labelledSteps? (read : List Char) : List Char → Option Target
  | [] => none
  | '@' :: rest =>
    match read, steps? rest with
    | _ :: _, some (start, count) => some (.stepwise (some read.reverse) start count)
    | _, _ => labelledSteps? ('@' :: read) rest
  | c :: rest => if c = '\n' then none else labelledSteps? (c :: read) rest

/-- The target that a text denotes. -/
def ofText (text : String) : Target :=
  let chars := text.toList
  if chars.contains ':' then .span
  else if text = "base" then .base
  else
    let direct := (steps? chars).map fun (start, count) ↦ Target.stepwise none start count
    match (labelledSteps? [] chars).or direct with
    | some target => target
    | none =>
      if chars.contains '@' then
        .revision (some (chars.takeWhile (· ≠ '@'))) ((chars.dropWhile (· ≠ '@')).drop 1)
      else .revision none chars

end Target

/-- Whether a text is an identifier of the revision that creates the tables, which may be cut short. -/
def isFirst (name : List Char) : Bool := !name.isEmpty && name.isPrefixOf firstName.toList

/-- The revision with a name. -/
def revisionNamed? (name : List Char) : Option Revision :=
  if name = "base".toList then some .base
  else if name = "head".toList ∨ name = "heads".toList ∨ isFirst name then some .first
  else none

/-- Whether a text names a revision. -/
def isKnown (name : List Char) : Bool := (revisionNamed? name).isSome

/-- The revision so many steps from where the tables stand: the one way is from the base to the first
revision. -/
def ahead (current : Revision) (label : Option (List Char)) (count : Int) : Except Stop Revision :=
  if current = .base ∧ count = 1 ∧ label.all isKnown then .ok .first else .error .noSuchRevision

/-- The revision so many steps from a named one. On the way up a label is looked at where a revision
follows; otherwise it must be an identifier. -/
def stepsFrom (start : List Char) (label : Option (List Char)) (count : Int) : Except Stop Revision :=
  match revisionNamed? start with
  | none => .error .noSuchRevision
  | some .base =>
    if 0 < count then
      if !label.all isKnown then .error .noSuchRevision
      else if count = 1 then .ok .first
      else .error .noWay
    else if !label.all isFirst then .error .noSuchRevision
    else if count = -1 then .ok .first
    else .error .noWay
  | some .first =>
    if 0 < count then .error .noWay
    else if !label.all isFirst then .error .noSuchRevision
    else if count = 0 then .ok .first
    else .error .noWay

/-- A named revision. Behind a label the base is where the tables stand, and so is a number below zero;
without a label such a number leads below the base. Any other name needs a label that is an identifier,
or an empty one. -/
def labelled (current : Revision) (label : Option (List Char)) (name : List Char) :
    Except Stop Revision :=
  if label.isSome && name = "base".toList then .ok current
  else if ((Text.wholeNumber? (String.ofList name)).any fun number ↦ number < 0) then
    if label.isSome then .ok current else .error .noWay
  else if !label.all fun label ↦ label.isEmpty || isFirst label then .error .noSuchRevision
  else if name.isEmpty then .error .noWay
  else match revisionNamed? name with
    | some revision => .ok revision
    | none => .error .noSuchRevision

/-- Goes where a text asks the tables to go: the revision afterwards, if one is remembered, and why they
did not go there. -/
def move (current : Option Revision) (text : String) : Option Revision × Option Stop :=
  let standing := current.getD .base
  let arrive : Except Stop Revision → Option Revision × Option Stop
    | .ok revision => (some revision, none)
    | .error stop => (some standing, some stop)
  match Target.ofText text with
  | .base => (some .base, none)
  | .span => (current, some .noSuchRevision)
  | .stepwise label none count => arrive (ahead standing label count)
  | .stepwise label (some start) count => arrive (stepsFrom start label count)
  | .revision label name => arrive (labelled standing label name)

end Passbook.Schema
