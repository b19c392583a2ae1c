/-
Reading the replies of the cluster API.

A code from 400 to 599 refuses the request.  Then the body says why, if it has the form
for that, and else the code and the body are quoted.  Any other reply must be JSON of
the kind that the request asks for.
-/
import ControlPlane.Json.Decode
import ControlPlane.Json.Parser
import ControlPlane.Kubernetes.Request
import ControlPlane.Resource
import ControlPlane.Text.Base64
import ControlPlane.Validation

namespace ControlPlane.Kubernetes

open Json

/-! ### Refusals -/

/-- The usual phrase for a code that refuses a request. -/
def codePhrase : Nat → String
  | 400 => "Bad Request"
  | 401 => "Unauthorized"
  | 402 => "Payment Required"
  | 403 => "Forbidden"
  | 404 => "Not Found"
  | 405 => "Method Not Allowed"
  | 406 => "Not Acceptable"
  | 407 => "Proxy Authentication Required"
  | 408 => "Request Timeout"
  | 409 => "Conflict"
  | 410 => "Gone"
  | 411 => "Length Required"
  | 412 => "Precondition Failed"
  | 413 => "Payload Too Large"
  | 414 => "URI Too Long"
  | 415 => "Unsupported Media Type"
  | 416 => "Range Not Satisfiable"
  | 417 => "Expectation Failed"
  | 418 => "I'm a teapot"
  | 421 => "Misdirected Request"
  | 422 => "Unprocessable Entity"
  | 423 => "Locked"
  | 424 => "Failed Dependency"
  | 425 => "Too Early"
  | 426 => "Upgrade Required"
  | 428 => "Precondition Required"
  | 429 => "Too Many Requests"
  | 431 => "Request Header Fields Too Large"
  | 451 => "Unavailable For Legal Reasons"
  | 500 => "Internal Server Error"
  | 501 => "Not Implemented"
  | 502 => "Bad Gateway"
  | 503 => "Service Unavailable"
  | 504 => "Gateway Timeout"
  | 505 => "HTTP Version Not Supported"
  | 506 => "Variant Also Negotiates"
  | 507 => "Insufficient Storage"
  | 508 => "Loop Detected"
  | 510 => "Not Extended"
  | 511 => "Network Authentication Required"
  | _ => "<unknown status code>"

def Refusal.decode (s : Source) : Decoded Refusal := do
  let r ← asRecord 4 4 s
  let status ← r.required 0 "status" asString
  let message ← r.orElse 1 "message" "" asString
  let reason ← r.orElse 2 "reason" "" asString
  let code ← r.required 3 "code" (asNatBelow UInt16.size)
  .ok { status, message, reason, code }

/-- Why a reply refuses a request. -/
def Refusal.ofReply (r : Reply) : Refusal :=
  match (Source.parse? r.body.toList).map Refusal.decode with
  | some (.ok refusal) => refusal
  | _ =>
    { status := toString r.code ++ " " ++ codePhrase r.code
      message := Text.quoted r.body
      reason := "Failed to parse error data"
      code := r.code }

/-- The value in a reply. -/
def Reply.read (decode : Source → Decoded α) (r : Reply) : Except Fault α :=
  if 400 ≤ r.code ∧ r.code < 600 then .error (.refused (.ofReply r))
  else
    match (Source.parse? r.body.toList).map decode with
    | some (.ok a) => .ok a
    | _ => .error .unreadable

/-! ### Secrets and config maps -/

/-- One given text. -/
def asExactly (expected : String) (s : Source) : Decoded Unit := do
  if (← asString s) = expected then .ok () else .error .mismatch

/-- Bytes in base 64; null stands for none. -/
def asBytes (s : Source) : Decoded Bytes := do
  match ← asOptional asString s with
  | none => .ok []
  | some text =>
    match Base64.decode? text.toList with
    | some b => .ok b
    | none => .error .mismatch

/-- A secret or a config map: its metadata and its data. -/
def decodeHolder (kind : String) (asDatum : Source → Decoded α) (others : Record → Decoded Unit)
    (s : Source) : Decoded (ObjectMeta × Table String α) := do
  let r ← asObject s
  let _ ← r.orElse 0 "apiVersion" () (asExactly "v1")
  let _ ← r.orElse 1 "kind" () (asExactly kind)
  let data ← r.optional 2 "data" (asTable asDatum)
  let _ ← r.optional 3 "immutable" asBool
  let metadata ← r.optional 4 "metadata" ObjectMeta.decode
  others r
  .ok (metadata.getD {}, data.getD .empty)

def decodeSecret : Source → Decoded (ObjectMeta × SecretData) :=
  decodeHolder "Secret" asBytes fun r => do
    let _ ← r.optional 5 "stringData" (asTable asString)
    let _ ← r.optional 6 "type" asString
    .ok ()

def decodeConfigMap : Source → Decoded (ObjectMeta × Table String String) :=
  decodeHolder "ConfigMap" asString fun r => do
    let _ ← r.optional 5 "binaryData" (asTable asBytes)
    .ok ()

/-! ### Objects of any kind

Their metadata is read, and all else is kept as the value that it stands for. -/

/-- What an object holds besides its metadata. -/
def decodeObject (s : Source) : Decoded Json := do
  let r ← asStrictObject s
  let _ ← r.orElse 0 "metadata" {} ObjectMeta.decode
  r.others ["metadata"]

/-- The metadata of a list, of which nothing is used. -/
def decodeListMeta (s : Source) : Decoded Unit := do
  let r ← asObject s
  let _ ← r.optional 0 "continue" asString
  let _ ← r.optional 1 "remainingItemCount" asInt64
  let _ ← r.optional 2 "resourceVersion" asString
  let _ ← r.optional 3 "selfLink" asString
  .ok ()

/-- The items of a list of objects. -/
def decodeItems (decode : Source → Decoded α) (s : Source) : Decoded (List α) := do
  let r ← asStrictObject s
  let _ ← r.orElse 0 "metadata" () decodeListMeta
  let items ← r.required 1 "items" (asOptional (asList decode))
  let _ ← r.others ["metadata", "items"]
  .ok (items.getD [])

/-! ### The answer to a deletion -/

/-- Whether a request was carried out: a name, or an object with the name and nothing for
it. -/
def asOutcome : Source → Decoded Bool
  | .str name | .obj [(name, .null)] =>
    if name = "Success" then .ok true
    else if name = "Failure" then .ok false
    else .error .mismatch
  | _ => .error .mismatch

/-- One of the causes of a failure. -/
def decodeCause (s : Source) : Decoded Unit := do
  let r ← asRecord 0 3 s
  let _ ← r.orElse 0 "reason" "" asString
  let _ ← r.orElse 1 "message" "" asString
  let _ ← r.orElse 2 "field" "" asString
  .ok ()

/-- What a report tells in particular. -/
def decodeDetails (s : Source) : Decoded Unit := do
  let r ← asRecord 0 6 s
  let _ ← r.orElse 0 "name" "" asString
  let _ ← r.orElse 1 "group" "" asString
  let _ ← r.orElse 2 "kind" "" asString
  let _ ← r.orElse 3 "uid" "" asString
  let _ ← r.orElse 4 "causes" [] (asList decodeCause)
  let _ ← r.orElse 5 "retryAfterSeconds" 0 (asNatBelow UInt32.size)
  .ok ()

/-- A report on a request. -/
def decodeReport (s : Source) : Decoded Unit := do
  let r ← asStrictObject s
  let _ ← r.optional 0 "status" asOutcome
  let _ ← r.orElse 1 "code" 0 (asNatBelow UInt16.size)
  let _ ← r.orElse 2 "message" "" asString
  let _ ← r.orElse 3 "reason" "" asString
  let _ ← r.optional 4 "details" decodeDetails
  .ok ()

/-- The answer to a deletion: a report of it, or the object that is going away.  All of it
must stand for a value. -/
def decodeDeletion (s : Source) : Decoded Unit := do
  let j ← asValue s
  if j.get? "kind" matches some (.str "Status") then decodeReport s
  else do
    let _ ← decodeObject s
    .ok ()

end ControlPlane.Kubernetes
