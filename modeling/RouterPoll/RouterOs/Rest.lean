import RouterPoll.Adapter.Contract
import RouterPoll.Json.Parser
import RouterPoll.Net.Url
import RouterPoll.Text.Base64

/-!
# Resources over HTTP

Fetching a resource of a router with a user name and a password. A link carries one request at a time. An answer counts if its status says success and its body is the document that was asked for; a router that refuses the credentials is told apart from one that answers with another status, and no answer from a connection that fails, breaks or stays silent. Nothing is sent once the poll is called off, or when there is no time at all to wait.
-/

namespace RouterPoll

namespace RouterOs

/-- A request to read one resource. -/
structure Request where
  url : Url
  username : String
  password : Secret
  verifyCert : Bool
  deriving DecidableEq

/-- The credentials as they stand in the head of a request. -/
def Request.authorization (request : Request) : String :=
  "Basic " ++ String.ofList
    (Text.base64 (request.username ++ ":" ++ request.password.reveal).toUTF8.toList)

/-- What comes of a request: an answer, no connection, a connection that ends without an answer, no answer in time, or the end of the poll while waiting. -/
inductive Reply where
  | answer (status : Nat) (body : List UInt8)
  | refused
  | broken
  | silence
  | interrupted
  deriving DecidableEq

/-- A way to reach routers. -/
structure Link (ε : Type) where
  fetch : Request → ε → Reply × ε

/-- A link on which nothing is ever heard. -/
def Link.silent : Link ε where
  fetch _ env := (.silence, env)

/-- How one router is reached for the length of a poll. -/
structure Session where
  baseUrl : String
  username : String
  password : Secret
  verifyCert : Bool
  timeoutMs : Nat
  deriving DecidableEq

/-! ### Status -/

/-- The registered phrase of a status. -/
def reason? : Nat → Option String
  | 100 => some "Continue"
  | 101 => some "Switching Protocols"
  | 102 => some "Processing"
  | 103 => some "Early Hints"
  | 200 => some "OK"
  | 201 => some "Created"
  | 202 => some "Accepted"
  | 203 => some "Non Authoritative Information"
  | 204 => some "No Content"
  | 205 => some "Reset Content"
  | 206 => some "Partial Content"
  | 207 => some "Multi-Status"
  | 208 => some "Already Reported"
  | 226 => some "IM Used"
  | 300 => some "Multiple Choices"
  | 301 => some "Moved Permanently"
  | 302 => some "Found"
  | 303 => some "See Other"
  | 304 => some "Not Modified"
  | 305 => some "Use Proxy"
  | 307 => some "Temporary Redirect"
  | 308 => some "Permanent Redirect"
  | 400 => some "Bad Request"
  | 401 => some "Unauthorized"
  | 402 => some "Payment Required"
  | 403 => some "Forbidden"
  | 404 => some "Not Found"
  | 405 => some "Method Not Allowed"
  | 406 => some "Not Acceptable"
  | 407 => some "Proxy Authentication Required"
  | 408 => some "Request Timeout"
  | 409 => some "Conflict"
  | 410 => some "Gone"
  | 411 => some "Length Required"
  | 412 => some "Precondition Failed"
  | 413 => some "Payload Too Large"
  | 414 => some "URI Too Long"
  | 415 => some "Unsupported Media Type"
  | 416 => some "Range Not Satisfiable"
  | 417 => some "Expectation Failed"
  | 418 => some "I'm a teapot"
  | 421 => some "Misdirected Request"
  | 422 => some "Unprocessable Entity"
  | 423 => some "Locked"
  | 424 => some "Failed Dependency"
  | 425 => some "Too Early"
  | 426 => some "Upgrade Required"
  | 428 => some "Precondition Required"
  | 429 => some "Too Many Requests"
  | 431 => some "Request Header Fields Too Large"
  | 451 => some "Unavailable For Legal Reasons"
  | 500 => some "Internal Server Error"
  | 501 => some "Not Implemented"
  | 502 => some "Bad Gateway"
  | 503 => some "Service Unavailable"
  | 504 => some "Gateway Timeout"
  | 505 => some "HTTP Version Not Supported"
  | 506 => some "Variant Also Negotiates"
  | 507 => some "Insufficient Storage"
  | 508 => some "Loop Detected"
  | 510 => some "Not Extended"
  | 511 => some "Network Authentication Required"
  | _ => none

def statusText (status : Nat) : String :=
  Text.natText status ++ " " ++ (reason? status).getD "<unknown status code>"

def isSuccess (status : Nat) : Bool := 200 ≤ status && status < 300

def isRejection (status : Nat) : Bool := status == 401 || status == 403

/-! ### Documents -/

/-- How a body becomes what was asked for. -/
abbrev Payload (α : Type) := Json.Document → Option α

/-- An array of any values, which nest one level less deep than a whole document may. -/
def rowsOf : Payload (List Json) := fun document =>
  match document.root, document.trailing with
  | .array items, none => (Json.Node.itemValues? (Json.depthLimit - 1) items).toOption
  | _, _ => none

/-- Any document. -/
def anyDocument : Payload Json := fun document => document.value?.toOption

/-! ### Requests -/

namespace Session

def timeout (session : Session) (path : String) : PollError :=
  .timeout path (session.timeoutMs / 1000)

/-- What the reply to a request for a path amounts to. -/
def interpret (session : Session) (path url : String) (payload : Payload α) :
    Reply → Except PollError α
  | .refused =>
    .error (.connect session.baseUrl ("error sending request for url (" ++ url ++ ")"))
  | .broken => .error (.protocol (path ++ ": error sending request for url (" ++ url ++ ")"))
  | .silence => .error (session.timeout path)
  | .interrupted => .error .cancelled
  | .answer status body =>
    if isSuccess status then
      match payload (Json.Document.ofBytes body) with
      | some value => .ok value
      | none =>
        .error (.protocol ("invalid " ++ path ++ " payload: error decoding response body"))
    else if isRejection status then .error (.auth session.baseUrl)
    else .error (.protocol (path ++ " returned HTTP " ++ statusText status))

def request (session : Session) (url : Url) : Request :=
  ⟨url, session.username, session.password, session.verifyCert⟩

/-- Reads the resource at a path. -/
def get [Surroundings ε] (session : Session) (link : Link ε) (payload : Payload α)
    (path : String) (env : ε) : Except PollError α × ε :=
  if Surroundings.isCancelled env then (.error .cancelled, env)
  else
    match (Url.parse? (session.baseUrl ++ path)).map Url.ofRequest with
    | none => (.error (.protocol (path ++ ": builder error")), env)
    | some url =>
      if !url.isReachable then
        (.error (.protocol (path ++ ": builder error for url (" ++ url.text ++ ")")), env)
      else if session.timeoutMs == 0 then (.error (session.timeout path), env)
      else
        let (reply, env) := link.fetch (session.request url) env
        (session.interpret path url.text payload reply, env)

end Session

end RouterOs

end RouterPoll
