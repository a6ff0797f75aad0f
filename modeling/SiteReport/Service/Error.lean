/-!
What goes wrong outside the document: the server, the network, files and settings. Each cause has
its text, its diagnostic code and, where there is one, a hint.
-/

namespace SiteReport

/-- The standard phrase of a status code. -/
def reasonPhrase? : (status : Nat) → Option String
  | 100 => some "Continue"
  | 101 => some "Switching Protocols"
  | 102 => some "Processing"
  | 103 => some "Early Hints"
  | 200 => some "OK"
  | 201 => some "Created"
  | 202 => some "Accepted"
  | 203 => some "Non Authoritative Information"
  | 204 => some "No Content"
  | 205 => some "Reset Content"
  | 206 => some "Partial Content"
  | 207 => some "Multi-Status"
  | 208 => some "Already Reported"
  | 226 => some "IM Used"
  | 300 => some "Multiple Choices"
  | 301 => some "Moved Permanently"
  | 302 => some "Found"
  | 303 => some "See Other"
  | 304 => some "Not Modified"
  | 305 => some "Use Proxy"
  | 307 => some "Temporary Redirect"
  | 308 => some "Permanent Redirect"
  | 400 => some "Bad Request"
  | 401 => some "Unauthorized"
  | 402 => some "Payment Required"
  | 403 => some "Forbidden"
  | 404 => some "Not Found"
  | 405 => some "Method Not Allowed"
  | 406 => some "Not Acceptable"
  | 407 => some "Proxy Authentication Required"
  | 408 => some "Request Timeout"
  | 409 => some "Conflict"
  | 410 => some "Gone"
  | 411 => some "Length Required"
  | 412 => some "Precondition Failed"
  | 413 => some "Payload Too Large"
  | 414 => some "URI Too Long"
  | 415 => some "Unsupported Media Type"
  | 416 => some "Range Not Satisfiable"
  | 417 => some "Expectation Failed"
  | 418 => some "I'm a teapot"
  | 421 => some "Misdirected Request"
  | 422 => some "Unprocessable Entity"
  | 423 => some "Locked"
  | 424 => some "Failed Dependency"
  | 425 => some "Too Early"
  | 426 => some "Upgrade Required"
  | 428 => some "Precondition Required"
  | 429 => some "Too Many Requests"
  | 431 => some "Request Header Fields Too Large"
  | 451 => some "Unavailable For Legal Reasons"
  | 500 => some "Internal Server Error"
  | 501 => some "Not Implemented"
  | 502 => some "Bad Gateway"
  | 503 => some "Service Unavailable"
  | 504 => some "Gateway Timeout"
  | 505 => some "HTTP Version Not Supported"
  | 506 => some "Variant Also Negotiates"
  | 507 => some "Insufficient Storage"
  | 508 => some "Loop Detected"
  | 510 => some "Not Extended"
  | 511 => some "Network Authentication Required"
  | _ => none

/-- The code with its phrase. -/
def statusLine (status : Nat) : String :=
  status.repr ++ " " ++ (reasonPhrase? status).getD "<unknown status code>"

/-- Where an exchange with the server broke off. -/
inductive HttpFault where
  /-- The request cannot be put together. -/
  | builder
  /-- No connection, or none that lasts until the answer. -/
  | sending (url : String)
  /-- The answer is not what was asked for. -/
  | decoding
  deriving DecidableEq

namespace HttpFault

def message : HttpFault → String
  | .builder => "builder error"
  | .sending url => "error sending request for url (" ++ url ++ ")"
  | .decoding => "error decoding response body"

/-- Another try may succeed when the server was not reached. -/
def isTransient : HttpFault → Bool
  | .sending _ => true
  | _ => false

end HttpFault

inductive ServiceError where
  | http (fault : HttpFault)
  /-- The server answered, but not with success. -/
  | status (code : Nat) (body : String)
  | notAuthenticated
  | notFound (what : String)
  | config (text : String)
  | io (text : String)
  /-- A text that is not of its format. -/
  | format (text : String)
  deriving DecidableEq

namespace ServiceError

def message : ServiceError → String
  | .http fault => fault.message
  | .status code body => "server responded with " ++ statusLine code ++ ": " ++ body
  | .notAuthenticated => "not authenticated"
  | .notFound what => "not found: " ++ what
  | .config text => "configuration error: " ++ text
  | .io text => text
  | .format text => text

def code? : ServiceError → Option String
  | .http _ => some "fieldreport::http"
  | .status _ _ => some "fieldreport::status"
  | .notAuthenticated => some "fieldreport::auth"
  | .notFound _ => some "fieldreport::not_found"
  | .config _ => some "fieldreport::config"
  | .io _ => none
  | .format _ => none

def help? : ServiceError → Option String
  | .notAuthenticated =>
    some "sign in again, or export the variable named by `api.token_env`"
  | _ => none

/-- May the same call succeed later? -/
def isTransient : ServiceError → Bool
  | .http fault => fault.isTransient
  | .status code _ => 500 ≤ code && code ≤ 599
  | _ => false

end ServiceError

end SiteReport
