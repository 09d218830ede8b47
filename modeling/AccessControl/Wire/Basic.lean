import AccessControl.Identifier
import AccessControl.Instant.Text
import AccessControl.Json.Member

/-! # Identifiers and instants in JSON -/

namespace AccessControl

namespace Id

variable {kind : Entity}

def toJson (id : Id kind) : Json := .string id.toString

def decode : Json.Decoder (Id kind) := .textOf ofText?

@[simp] theorem decode_toJson (id : Id kind) : decode id.toJson.outline = .ok id := by
  simp [decode, toJson, Json.outline, Json.Decoder.textOf, Json.Decoder.text,
    Json.Decoder.expecting, bind, Except.bind, ofText?_toString]

end Id

namespace Instant

def toJson (t : Instant) : Json := .string t.toString

def decode : Json.Decoder Instant := .textOf parse?

end Instant

end AccessControl
