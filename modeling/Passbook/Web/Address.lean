import Passbook.Binary64.Reading
import Passbook.Text.Encoding

/-!
Addresses of requests. A target is a full address with a scheme and a host, or a path at this site
(`Target`). What it leads to is an `Address`: a path that begins with one slash, in which steps of one and
two dots have been taken (`walked`), and a query. Escapes in a path are replaced when a request is sent
and once more when it arrives. Of several values under one name in a query the last counts.
-/

set_option autoImplicit false
set_option relaxedAutoImplicit false

-- The zero of a sum is that of the core library, whatever else is imported.
attribute [local instance (high)] Zero.ofOfNat0

namespace Passbook.Web

/-- The characters before the first mark, and those behind it if there is one. -/
def splitAt (mark : Char) (text : List Char) : List Char × Option (List Char) :=
  match text.dropWhile (· ≠ mark) with
  | [] => (text.takeWhile (· ≠ mark), none)
  | _ :: rest => (text.takeWhile (· ≠ mark), some rest)

/-- Why a target leads nowhere. -/
inductive Misdirection where
  /-- It does not have the form of a target, or is too long. -/
  | malformed
  /-- Nobody answers under its scheme. -/
  | unknownScheme
  /-- Under its scheme a conversation is held, not a request answered. -/
  | conversation
deriving DecidableEq, Repr

/-- Who is asked: a user perhaps, a host and a port. -/
structure Authority where
  user : List Char := []
  host : List Char := []
  port : List Char := []
deriving DecidableEq, Repr

namespace Authority

/-- The host at the start of a text, which may stand in brackets, and what follows. -/
def splitHost (text : List Char) : List Char × List Char :=
  let plain := (text.takeWhile (· ≠ ':'), text.dropWhile (· ≠ ':'))
  match text with
  | '[' :: _ =>
    let behind := (text.reverse.takeWhile (· ≠ ']')).length
    if text.contains ']' then (text.take (text.length - behind), text.drop (text.length - behind))
    else plain
  | _ => plain

/-- The authority that a text denotes: a user stands in front of the last sign for it. -/
def ofChars (text : List Char) : Authority :=
  let behind := (text.reverse.takeWhile (· ≠ '@')).reverse
  let (host, rest) := splitHost behind
  { user := text.take (text.length - behind.length - 1)
    host
    port := match rest with | ':' :: port => port | port => port }

/-- Whether there is nobody who is asked. -/
def isEmpty (authority : Authority) : Bool :=
  authority.user.isEmpty && authority.host.isEmpty && authority.port.isEmpty

/-- The digits of a text between its other characters. -/
def digitRuns (text : List Char) : List (List Char) := text.splitOnP (!·.isDigit)

/-- Whether a host looks like four numbers: some digits, any character, and so on. -/
def looksNumbered (host : List Char) : Bool :=
  let runs := digitRuns host
  runs.all (!·.isEmpty) && runs.length ≤ 4 &&
    4 ≤ runs.length + (runs.map fun run ↦ (run.length - 1) / 2).sum

/-- Whether digits are a number of one byte, without a zero in front. -/
def isByte (digits : List Char) : Bool :=
  digits.length ≤ 3 && (digits.head? ≠ some '0' || digits.length = 1) &&
    Text.ofDigits (digits.filterMap Text.plainDigit?) < 256

/-- Whether a host is four bytes with points between them. -/
def isNumbered (host : List Char) : Bool :=
  let parts := host.splitOn '.'
  parts.length = 4 && parts.all fun part ↦ !part.isEmpty && part.all Char.isDigit && isByte part

/-- Whether the port is a whole number, or there is none, and a host that looks like four numbers is
one that exists. -/
def isSound (authority : Authority) : Bool :=
  (authority.port.isEmpty || (Text.wholeNumber? (String.ofList authority.port)).isSome) &&
    (!looksNumbered authority.host || isNumbered authority.host)

end Authority

/-- The parts of a target; what stands behind a number sign is left out. -/
structure Target where
  scheme : List Char
  authority : Authority
  path : List Char
  query : Option (List Char)
deriving DecidableEq, Repr

/-- The steps of a path taken one by one behind those taken before, the last of which comes first: one
dot stays where it is, two go back. -/
def walkBehind (taken : List (List Char)) : List (List Char) → List (List Char)
  | [] => taken.reverse
  | step :: rest =>
    if step = ['.'] then walkBehind taken rest
    else if step = ['.', '.'] then walkBehind (if taken = [[]] then taken else taken.tail) rest
    else walkBehind (step :: taken) rest

/-- A path in which the steps of one and two dots have been taken. -/
def walked (path : List Char) : List Char :=
  let steps := ((String.ofList path).splitOn "/").map String.toList
  List.intercalate ['/'] (walkBehind [] steps)

namespace Target

/-- Whether a character may stand in a scheme. -/
def isSchemeChar (c : Char) : Bool := c.isAlphanum || c = '+' || c = '.' || c = '-'

/-- The scheme in front of a colon, and what follows; it begins with a letter. -/
def splitScheme (text : List Char) : List Char × List Char :=
  let scheme := text.takeWhile isSchemeChar
  match text.drop scheme.length with
  | ':' :: rest => if scheme.head?.all Char.isAlpha then (scheme, rest) else ([], text)
  | _ => ([], text)

/-- The authority behind two slashes, and what follows. -/
def splitAuthority (text : List Char) : Authority × List Char :=
  match text with
  | '/' :: '/' :: rest =>
    let ends (c : Char) : Bool := c = '/' || c = '?' || c = '#'
    (Authority.ofChars (rest.takeWhile (!ends ·)), rest.dropWhile (!ends ·))
  | text => ({}, text)

/-- The parts of a text. -/
def ofChars (text : List Char) : Target :=
  let (scheme, text) := splitScheme text
  let (authority, text) := splitAuthority text
  let (path, query) := splitAt '?' (splitAt '#' text).1
  { scheme := scheme.map Char.toLower, authority, path, query }

/-- Whether a target says by itself where it leads. -/
def isFull (target : Target) : Bool := !target.scheme.isEmpty && !target.authority.host.isEmpty

/-- Whether the parts of a target fit together. Without a scheme and an authority a path must not look
as if it had one; with an authority it must begin with a slash. -/
def isSound (target : Target) : Bool :=
  target.authority.isSound &&
    if target.authority.isEmpty then
      !target.scheme.isEmpty ||
        !("//".toList.isPrefixOf target.path || ":".toList.isPrefixOf target.path)
    else target.path.isEmpty || target.path.head? == some '/'

/-- The path of a target, walked where a scheme or an authority stands in front of it. -/
def ownPath (target : Target) : List Char :=
  if target.scheme.isEmpty && target.authority.isEmpty then target.path else walked target.path

end Target

/-- Where a request leads at a site. -/
structure Address where
  path : List Char
  query : Option (List Char) := none
deriving DecidableEq, Repr

namespace Address

/-- The most characters of a target, and of each of its parts once escaped. -/
def maxLength : Nat := 65536

/-- Whether a character controls a device instead of being shown. -/
def isControl (c : Char) : Bool := c.toNat < 0x20 || c.toNat = 0x7F

/-- How many characters a character takes once escaped; some that stand for themselves in a query are
escaped in a path. -/
def escapedLength (inPath : Bool) (c : Char) : Nat :=
  let escaped := ['\x20', '"', '#', '<', '>'] ++ if inPath then ['?', '`', '\x7b', '\x7d'] else []
  if 0x20 ≤ c.toNat ∧ c.toNat < 0x7F ∧ ¬ escaped.contains c then 1
  else 3 * (Text.bytesOf c).length

/-- Whether a part is short enough once escaped. -/
def isShort (inPath : Bool) (part : List Char) : Bool :=
  (part.map (escapedLength inPath)).sum ≤ maxLength

/-- An address with a path, which is one slash at least. -/
def ofPath (path : List Char) (query : Option (List Char)) : Address :=
  { path := if path.isEmpty then ['/'] else path, query }

/-- The address of a target at this site. -/
def atSite (target : Target) : Except Misdirection Address :=
  let path := '/' :: target.ownPath.dropWhile (· = '/')
  if isShort true path && isShort false (target.query.getD []) then
    .ok (ofPath (walked path) target.query)
  else .error .malformed

/-- The address of a full target; the host does not matter. -/
def atHost (target : Target) : Except Misdirection Address :=
  let scheme := String.ofList target.scheme
  if scheme = "http" ∨ scheme = "https" then .ok (ofPath target.ownPath target.query)
  else if scheme = "ws" ∨ scheme = "wss" then .error .conversation
  else .error .unknownScheme

/-- The address that a target leads to. -/
def ofTarget (text : String) : Except Misdirection Address :=
  let target := Target.ofChars text.toList
  if maxLength < text.length ∨ text.toList.any isControl ∨ ¬ target.isSound then .error .malformed
  else if target.isFull then atHost target
  else atSite target

/-- The path as it arrives. -/
def pathText (address : Address) : String :=
  Text.unescape (Text.unescape (String.ofList address.path))

/-- One part of a query. -/
def queryPart (part : String) : String × String :=
  let plain (text : List Char) : String :=
    Text.unescape (String.ofList (text.map fun c ↦ if c = '+' then ' ' else c))
  let (name, value) := splitAt '=' part.toList
  (plain name, plain (value.getD []))

/-- The names and values of the query. -/
def queryEntries (address : Address) : List (String × String) :=
  match address.query with
  | none => []
  | some query =>
    (((String.ofList query).splitOn "&").filter (!·.isEmpty)).map queryPart

/-- The value of a name in the query. -/
def queryValue? (address : Address) (name : String) : Option String :=
  address.queryEntries.reverse.lookup name

end Address

end Passbook.Web
