import AccessControl.Fault
import AccessControl.Http.MediaType
import AccessControl.Http.RequestTarget
import AccessControl.Json.Basic

/-! # Requests and responses -/

namespace AccessControl.Http

structure Request where
  method : String
  target : RequestTarget
  headers : List (String × String) := []
  body : String := ""
deriving DecidableEq, Repr

/-- The body, if there is one, is JSON. -/
structure Response where
  status : Nat
  body : Option Json := none

/-- Why a request does not reach its handler. -/
inductive Rejection where
  | unknownPath
  | wrongMethod
  | badPath
  | badQuery
  | unknownMediaType
  | bodyTooLarge
  | malformedBody
  | unfitBody
deriving DecidableEq, Repr

def Rejection.status : Rejection → Nat
  | unknownPath => 404
  | wrongMethod => 405
  | badPath | badQuery | malformedBody => 400
  | bodyTooLarge => 413
  | unknownMediaType => 415
  | unfitBody => 422

namespace Request

/-- What methods and header names are. -/
def isToken (s : String) : Bool := !s.isEmpty && s.toList.all MediaType.isTokenChar

def isHeaderChar (c : Char) : Bool := (0x20 ≤ c.toNat && c.toNat ≠ 0x7F) || c = '\t'

/-- The method and the headers have the characters that they can be sent with. -/
def isProper (r : Request) : Bool :=
  isToken r.method
    && r.headers.all fun (name, value) => isToken name && value.toList.all isHeaderChar

def isVisible (c : Char) : Bool := (0x20 ≤ c.toNat && c.toNat < 0x7F) || c = '\t'

/-- The first header of a name, unless it holds other characters than visible ones of ASCII. Header
names have no case. -/
def header? (r : Request) (name : String) : Option String :=
  ((r.headers.find? fun h => h.1.toLower = name.toLower).map (·.2)).filter fun v =>
    v.toList.all isVisible

def hasJsonBody (r : Request) : Bool :=
  ((r.header? "content-type").bind MediaType.parse?).any MediaType.isJson

end Request

namespace Response

def ok (body : Json) : Response := { status := 200, body := some body }

def created (body : Json) : Response := { status := 201, body := some body }

def noContent : Response := { status := 204 }

def ofRejection (r : Rejection) : Response := { status := r.status }

def statusOf : Fault.Kind → Nat
  | .validation => 400
  | .notFound => 404
  | .conflict => 409
  | .unauthorized => 401
  | .forbidden => 403
  | .internal => 500

/-- A refusal with its message. -/
def refusal (kind : Fault.Kind) (message : String) : Response where
  status := statusOf kind
  body := some (.object [("message", .string (kind.labelled message))])

def ofFault (fault : Fault) : Response := refusal fault.kind fault.message

end Response

end AccessControl.Http
