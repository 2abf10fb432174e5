import Stencil.Generate.Basic
import Stencil.Json.Printer
import Stencil.Service.MediaType
import Stencil.Service.Query

/-! # The service

The service answers calls by the profiles of a registry.  Each route has one method; one that is asked
with `GET` can be asked with `HEAD` as well, which leaves out the body.  Every origin may call, and a
call that asks what is allowed is answered before its path is looked at. -/

namespace Stencil.Service

/-- A call of the service. -/
structure Call where
  method : String
  /-- The path, and the query behind a question mark. -/
  target : String
  headers : List (String × String) := []
  body : String := ""
  deriving DecidableEq, Repr

/-- What a reply consists of. -/
inductive Body where
  | empty
  | text (s : String)
  | json (v : Json)

/-- A reply of the service. -/
structure Reply where
  status : Nat
  body : Body

namespace Body

/-- The media type of a body, if it has one. -/
def mediaType? : Body → Option String
  | .empty => none
  | .text _ => some "text/plain; charset=utf-8"
  | .json _ => some "application/json"

/-- The text of a body. -/
def toText : Body → String
  | .empty => ""
  | .text s => s
  | .json v => v.compact

end Body

namespace Call

/-- A target without the scheme and the host that may stand in front of its path. -/
def withoutHost (cs : List Char) : List Char :=
  if cs.head? = some '/' then cs
  else
    match cs.dropWhile (· != ':') with
    | ':' :: '/' :: '/' :: cs =>
      let resource := cs.dropWhile fun c => c != '/' && c != '?'
      if resource.head? = some '/' then resource else '/' :: resource
    | _ => cs

/-- The path and the query of the target. -/
def resource (c : Call) : List Char := withoutHost (c.target.toList.takeWhile (· != '#'))

/-- The path of the target. -/
def path (c : Call) : String := String.ofList (c.resource.takeWhile (· != '?'))

/-- The query of the target. -/
def query (c : Call) : String := String.ofList ((c.resource.dropWhile (· != '?')).drop 1)

/-- The first header of a name. -/
def header? (c : Call) (name : String) : Option String :=
  (c.headers.find? fun h => Text.sameIgnoringCase h.1 name).map (·.2)

end Call

/-! ## Replies -/

/-- A reply without a body. -/
def Reply.bare (status : Nat) : Reply := ⟨status, .empty⟩

/-- What a successful call has asked for. -/
def Reply.success (data : Json) : Reply :=
  ⟨200, .json (.object [("success", .bool true), ("data", data)])⟩

/-- The reply to a request that cannot be met. -/
def Reply.failure (p : Problem) : Reply :=
  ⟨if p.isUserError then 400 else 500,
    .json (.object [("success", .bool false), ("error", .string p.message)])⟩

/-- The reply to a call for profiles with a code and a name.  Neither may be given twice. -/
def listReply (registry : Registry) (query : String) : Reply :=
  let values (name : String) : List String :=
    (queryFields query).filterMap fun f => if f.1 = name then some f.2 else none
  match values "code", values "name" with
  | _ :: _ :: _, _ | _, _ :: _ :: _ => ⟨400, .text "Failed to deserialize query string"⟩
  | codes, names =>
    .success (.object [("langs", profileList (registry.list codes.head? names.head?))])

/-- The number of bytes of the longest body that is read. -/
def maxBodyBytes : Nat := 2097152

/-- The request in the body of a call, or the reply if there is none. -/
def requestOf (c : Call) : Except Reply Request :=
  let isJson := ((c.header? "content-type").bind MediaType.ofText?).any MediaType.isJson
  if !isJson then
    .error ⟨415, .text "Expected request with \x60Content-Type: application/json\x60"⟩
  else if maxBodyBytes < c.body.utf8ByteSize then
    .error ⟨413, .text "Failed to buffer the request body: length limit exceeded"⟩
  else
    match Request.decoder.ofTextAhead c.body with
    | .ok request => .ok request
    | .error .mismatched =>
      .error ⟨422, .text "Failed to deserialize the JSON body into the target type"⟩
    | .error _ => .error ⟨400, .text "Failed to parse the request body as JSON"⟩

/-- The reply to a call for files, which took some time. -/
def generateReply (registry : Registry) (nanos : Nat) (c : Call) : Reply :=
  match requestOf c with
  | .error reply => reply
  | .ok request =>
    match generate registry request with
    | .ok files => .success (Response.mk files nanos).toJson
    | .error p => .failure p

/-! ## Routes -/

/-- What can be called for. -/
inductive Route where
  | health
  | langs
  | types
  | generate
  deriving DecidableEq, Repr

namespace Route

/-- The route of a path. -/
def ofPath? : String → Option Route
  | "/health" => some .health
  | "/langs" => some .langs
  | "/types" => some .types
  | "/generate" => some .generate
  | _ => none

/-- The method of a route. -/
def method : Route → String
  | .generate => "POST"
  | _ => "GET"

/-- The reply to a call that has come by a route. -/
def reply (registry : Registry) (nanos : Nat) (c : Call) : Route → Reply
  | .health => ⟨200, .json (.object [("status", .string "ok")])⟩
  | .langs => listReply registry c.query
  | .types => .success (.object tagLists)
  | .generate => generateReply registry nanos c

end Route

/-- What is sent for a reply. -/
structure Message where
  status : Nat
  headers : List (String × String)
  body : String
  deriving DecidableEq, Repr

/-- The message of a reply.  Every origin may read it. -/
def Reply.message (r : Reply) : Message where
  status := r.status
  headers :=
    (r.body.mediaType?.map fun t => ("content-type", t)).toList ++
      [("access-control-allow-origin", "*")]
  body := r.body.toText

/-- The message that answers a call.  The time that it took to get there is part of one reply. -/
def answer (registry : Registry) (nanos : Nat) (c : Call) : Message :=
  -- Browsers ask before they call, on any path.
  if c.method = "OPTIONS" then (Reply.bare 200).message
  else
    match Route.ofPath? c.path with
    | none => (Reply.bare 404).message
    | some route =>
      if c.method = route.method then (route.reply registry nanos c).message
      else if c.method = "HEAD" && route.method = "GET" then
        { (route.reply registry nanos c).message with body := "" }
      else (Reply.bare 405).message

end Stencil.Service
