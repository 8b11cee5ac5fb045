import Playbook.Handler.Actions
import Playbook.Http.Message
import Playbook.Http.Url
import Playbook.Json.Reader
import Playbook.Settings.Basic

/-!
The action that calls another system: one HTTP request, sent by a transport within a time limit,
and an answer whose body is bounded. The limit of time is for the sending up to the head of the
response; the body is read without one. A status outside the two hundreds is a failure unless the
parameters allow it.
-/
namespace Playbook.CallExternal

open Json (Value)
open ActionHandler (Ended fail answer)

/-- Sends a request; the answer is a response, or why there is none. -/
abbrev Transport := Http.Request → Activity Empty (Except String Http.Response)

/-- The transport of a place without a network: every request that can be built fails. -/
def unreachable : Transport := fun q => .done <| .error <|
  match Http.Url.parse? q.url with
  | some url => s!"error sending request for url ({url.print})"
  | none => "builder error"

def method (params : Value) : Except ActionError String :=
  let name := Text.asciiUpper (Text.trim ((textParam? params "method").getD "GET"))
  if Http.isToken name then .ok name
  else .error (.invalidParams s!"invalid HTTP method '{name}': invalid HTTP method")

def url (params : Value) : Except ActionError String :=
  match textParam? params "url" with
  | none => .error (.invalidParams "missing 'url' parameter")
  | some url =>
    if Text.allBlank url then .error (.invalidParams "url must be non-empty") else .ok url

def header (name : String) (v : Value) : Except ActionError (String × String) :=
  if !Http.isHeaderName name then
    .error (.invalidParams s!"invalid header name '{name}': invalid HTTP header name")
  else match v with
    | .text s =>
      if Http.isHeaderValue s then .ok (Text.asciiLower name, s)
      else
        .error (.invalidParams s!"invalid value for header '{name}': failed to parse header value")
    | _ => .error (.invalidParams s!"header '{name}' value must be a string")

def headers (params : Value) : Except ActionError (List (String × String)) :=
  match params.get? "headers" with
  | none => .ok []
  | some (.object entries) => do .ok (Keyed.ofList (← entries.mapM fun (name, v) => header name v))
  | some _ => .error (.invalidParams "'headers' must be an object")

def timeoutSeconds (settings : HttpSettings) (params : Value) : Except ActionError Nat :=
  let seconds := match params.get? "timeout_seconds" with
    | some (.number (.int (.ofNat n))) => n
    | _ => settings.timeoutSeconds
  if seconds = 0 then .error (.invalidParams "timeout_seconds must be greater than zero")
  else .ok seconds

/-- The request that the parameters describe and the seconds that its sending may take. -/
def request (settings : HttpSettings) (params : Value) : Except ActionError (Http.Request × Nat) := do
  let method ← method params
  let url ← url params
  let headers ← headers params
  let seconds ← timeoutSeconds settings params
  .ok (⟨method, url, headers, params.get? "body"⟩, seconds)

/-- Reads a body to its end, behind what was read of it before. A piece with which it outgrows the
limit ends the reading at once. -/
def readBody (settings : HttpSettings) (before : String) :
    Activity String (Except String Unit) → Activity Empty (Except ActionError String)
  | .done (.ok ()) => .done (.ok before)
  | .done (.error message) =>
    .done (.error (.failed s!"failed reading response body: {message}"))
  | .panic message => .panic message
  | .record piece rest =>
    if settings.maxResponseBytes < (before ++ piece).utf8ByteSize then
      .done <| .error <| .failed <|
        s!"response body exceeded size limit ({settings.maxResponseBytes} bytes)"
    else readBody settings (before ++ piece) rest
  | .sleep ms rest => .sleep ms (readBody settings before rest)

/-- What a response with its whole body gives the step. -/
def outcome (allowErrorStatus : Bool) (q : Http.Request) (r : Http.Response) (body : String) :
    Except ActionError Value :=
  if !r.isSuccess && !allowErrorStatus then
    .error (.failed s!"{q.method} {q.url} returned HTTP {r.status}")
  else
    let isJson := Text.hasInfix "application/json".toList (Text.asciiLower r.contentType).toList
    .ok (.table [
      ("method", .text q.method),
      ("url", .text q.url),
      ("status", .ofNat r.status),
      ("ok", .bool r.isSuccess),
      ("content_type", .text r.contentType),
      ("body", .text body),
      ("json", if isJson then (Json.parse? body).getD .null else .null)])

def handler (transport : Transport) (settings : HttpSettings) : ActionHandler where
  execute i := ActionHandler.unlessCancelled i <|
    match request settings i.params with
    | .error e => fail e
    | .ok (q, seconds) => do
      let allowErrorStatus := ((i.params.get? "allow_error_status").bind Value.bool?).getD false
      match ← (transport q).within (seconds * 1000) with
      | none => fail (.failed s!"HTTP request timed out after {seconds} seconds")
      | some (.error message) => fail (.failed s!"HTTP request failed: {message}")
      | some (.ok r) =>
        match ← readBody settings "" r.body with
        | .error e => fail e
        | .ok body => .done (outcome allowErrorStatus q r body)
  check s :=
    let issueOf {α : Type} : Except ActionError α → List String
      | .ok _ => []
      | .error e => [e.message]
    issueOf (url s.action.params) ++ issueOf (method s.action.params) ++
      issueOf (headers s.action.params)

end Playbook.CallExternal
