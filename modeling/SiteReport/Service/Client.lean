import SiteReport.Json.Parser
import SiteReport.Submission
import SiteReport.Web.Url

/-!
The server behind an endpoint: `POST images` uploads a photo, `POST reports` creates a report and
`PUT reports/{id}` replaces one. A call is a request, the reply to it, and what is understood of the
reply.
-/

namespace SiteReport

inductive Method where
  | post
  | put
  deriving DecidableEq

def Method.name : Method → String
  | .post => "POST"
  | .put => "PUT"

structure Request where
  method : Method
  url : Url
  authorization : String
  contentType : String
  body : String
  deriving DecidableEq

inductive Reply where
  | answered (status : Nat) (body : String)
  /-- No connection, or none that lasts until the answer. -/
  | broken
  deriving DecidableEq

instance : Inhabited Reply := ⟨.broken⟩

/-- How the world answers. Uploads are numbered, because the same photo may be sent twice. -/
structure Network where
  upload : (turn : Nat) → Request → Reply
  send : Request → Reply

/-- The replies so far, those to uploads in the order of their turns. -/
structure Replies where
  uploads : List Reply := []
  report : Option Reply := none
  deriving DecidableEq

namespace Replies

/-- A network that knows only these replies. -/
def network (r : Replies) : Network where
  upload turn _ := r.uploads.getD turn .broken
  send _ := r.report.getD .broken

/-- The first event of a run that still waits for its reply. -/
def next? (r : Replies) (trace : List SubmitEvent) : Option SubmitEvent :=
  ((trace.filter SubmitEvent.isUpload)[r.uploads.length]?).or
    (if r.report.isNone then trace.find? SubmitEvent.isSend else none)

/-- One reply more. -/
def add (r : Replies) (e : SubmitEvent) (reply : Reply) : Replies :=
  if e.isUpload then { r with uploads := r.uploads ++ [reply] } else { r with report := some reply }

end Replies

namespace Client

/-- The path of a call below the endpoint, which may end in slashes. The path is not encoded here. -/
def address (endpoint path : String) : String :=
  String.ofList (endpoint.toList.reverse.dropWhile (· = '/')).reverse ++ "/" ++ path

/-- Can the text stand in the head of a request? Tabs are the only control characters there. -/
def fitsHead (s : String) : Bool :=
  s.toList.all fun c => c = '\t' || (0x20 ≤ c.toNat && c.toNat ≠ 0x7F)

/-- A request with a JSON body. It cannot be put together for an address that is none, or with a
token that no head can hold. -/
def request (endpoint path : String) (method : Method) (token : Token) (body : Json) :
    Except ServiceError Request :=
  match Url.parse? (address endpoint path) with
  | none => .error (.http .builder)
  | some url =>
    if fitsHead token.secret then
      .ok { method, url, authorization := "Bearer " ++ token.secret
            contentType := "application/json", body := body.compact }
    else .error (.http .builder)

def uploadBody (r : UploadRequest) : Json := .record
  [("file_name", .ofText r.fileName), ("mime_type", .ofText r.mimeType), ("data", .ofText r.data),
    ("category", r.category.toJson), ("date", r.date.toJson)]

def uploadRequest (endpoint : String) (r : UploadRequest) : Except ServiceError Request :=
  request endpoint "images" .post r.token (uploadBody r)

/-- A report on its way, with any payload. -/
def reportRequest (endpoint : String) (token : Token) (update : Option String) (payload : Json) :
    Except ServiceError Request :=
  match update with
  | none => request endpoint "reports" .post token payload
  | some id => request endpoint ("reports/" ++ id) .put token payload

/-- Replies of these codes have no body, whatever follows their head. -/
def hasBody (status : Nat) : Bool := status ≠ 204 && status ≠ 304

/-- The text that a reply gives under a name. -/
def understand (url : Url) (name : String) : Reply → Except ServiceError String
  | .broken => .error (.http (.sending url.text))
  | .answered status body =>
    let body := if hasBody status then body else ""
    if 200 ≤ status ∧ status ≤ 299 then
      match (Json.parse? body).bind (Json.record? [name]) with
      | some [some v] =>
        match v.toText? with
        | some s => .ok s
        | none => .error (.http .decoding)
      | _ => .error (.http .decoding)
    else if status = 401 then .error .notAuthenticated
    else .error (.status status body)

/-- Sends a request, if there is one, and understands the reply. -/
def exchange (name : String) (answer : Request → Reply) (r : Except ServiceError Request) :
    Except ServiceError String :=
  match r with
  | .error e => .error e
  | .ok r => understand r.url name (answer r)

/-- The service of an endpoint over a network. -/
def service (endpoint : String) (token : Option Token) (network : Network) : Service :=
  { token
    upload := fun turn r => exchange "url" (network.upload turn) (uploadRequest endpoint r)
    send := fun r =>
      exchange "id" network.send (reportRequest endpoint r.token r.update r.payload.toJson) }

/-- The request that an event of a run stands for, if it came to be one. -/
def requestOf? (endpoint : String) : SubmitEvent → Option Request
  | .phase _ => none
  | .upload r => (uploadRequest endpoint r).toOption
  | .send r => (reportRequest endpoint r.token r.update r.payload.toJson).toOption

end Client

end SiteReport
