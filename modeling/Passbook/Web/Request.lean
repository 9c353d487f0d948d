import Passbook.Json.Reading
import Passbook.Web.Address

/-!
Requests and their bodies. A body is read as JSON if its type says that it is JSON.
-/

set_option autoImplicit false
set_option relaxedAutoImplicit false

namespace Passbook.Web

/-- What a request carries. -/
inductive Body where
  | absent
  | json (value : Json)
  | raw (content contentType : String)
deriving Repr

/-- A request. -/
structure Request where
  method : String
  target : String
  body : Body := .absent
deriving Repr

/-- Whether a type of content is JSON; a body without a type is taken for JSON. -/
def isJsonType (contentType : String) : Bool :=
  contentType.isEmpty ||
    let kind := (Text.trim Text.isBlank (splitAt ';' contentType.toList).1).map Char.toLower
    match splitAt '/' kind with
    | (main, some rest) =>
      main = "application".toList && !rest.contains '/' &&
        (rest = "json".toList || "nosj+".toList.isPrefixOf rest.reverse)
    | _ => false

/-- Whether a body can be sent: the name of its type may have plain characters only. -/
def Body.isSendable : Body → Bool
  | .raw _ contentType => contentType.toList.all fun c ↦ c.toNat < 0x80
  | .absent | .json _ => true

/-- What a body turns out to be. -/
inductive Content where
  | missing
  | json (value : Json)
  /-- Bytes of another type. -/
  | bytes
deriving Repr

/-- The content of a body. -/
def Body.content (body : Body) : Except Json.Fault Content :=
  let ofJson (value : Json) : Content :=
    match value with
    | .null => .missing
    | value => .json value
  match body with
  | .absent => .ok .missing
  | .json value => .ok (ofJson value)
  | .raw content contentType =>
    if content.isEmpty then .ok .missing
    else if isJsonType contentType then (Json.readBytes (Text.bytes content)).map ofJson
    else .ok .bytes

end Passbook.Web
