import TokenBridge.Json.Parser
import TokenBridge.Report
import TokenBridge.Url

set_option autoImplicit false

/-! # Exchanges with servers

A request is either answered, with a status and a body, or comes to nothing. Here is what can come
of a request, how statuses are shown, and how each failure is reported.
-/

namespace TokenBridge.Http

/-! ## Answers -/

structure Response where
  status : Nat
  /-- The part of the body that arrived. -/
  body : String
  /-- As much of the body arrived as was announced. -/
  complete : Bool
  deriving DecidableEq, Repr

/-- What came of a request. -/
inductive Outcome
  /-- Nobody listens at the address. -/
  | refused
  /-- The connection was closed before there was an answer. -/
  | closed
  | answered (r : Response)
  deriving DecidableEq, Repr

/-! ## Statuses -/

/-- The usual words for each status. -/
def reasons : List (Nat × String) := [
  (100, "Continue"), (101, "Switching Protocols"), (102, "Processing"),
  (200, "OK"), (201, "Created"), (202, "Accepted"), (203, "Non Authoritative Information"),
  (204, "No Content"), (205, "Reset Content"), (206, "Partial Content"), (207, "Multi-Status"),
  (208, "Already Reported"), (226, "IM Used"),
  (300, "Multiple Choices"), (301, "Moved Permanently"), (302, "Found"), (303, "See Other"),
  (304, "Not Modified"), (305, "Use Proxy"), (307, "Temporary Redirect"),
  (308, "Permanent Redirect"),
  (400, "Bad Request"), (401, "Unauthorized"), (402, "Payment Required"), (403, "Forbidden"),
  (404, "Not Found"), (405, "Method Not Allowed"), (406, "Not Acceptable"),
  (407, "Proxy Authentication Required"), (408, "Request Timeout"), (409, "Conflict"),
  (410, "Gone"), (411, "Length Required"), (412, "Precondition Failed"),
  (413, "Payload Too Large"), (414, "URI Too Long"), (415, "Unsupported Media Type"),
  (416, "Range Not Satisfiable"), (417, "Expectation Failed"), (418, "I'm a teapot"),
  (421, "Misdirected Request"), (422, "Unprocessable Entity"), (423, "Locked"),
  (424, "Failed Dependency"), (425, "Too Early"), (426, "Upgrade Required"),
  (428, "Precondition Required"), (429, "Too Many Requests"),
  (431, "Request Header Fields Too Large"), (451, "Unavailable For Legal Reasons"),
  (500, "Internal Server Error"), (501, "Not Implemented"), (502, "Bad Gateway"),
  (503, "Service Unavailable"), (504, "Gateway Timeout"), (505, "HTTP Version Not Supported"),
  (506, "Variant Also Negotiates"), (507, "Insufficient Storage"), (508, "Loop Detected"),
  (510, "Not Extended"), (511, "Network Authentication Required")]

/-- A status with its words. -/
def showStatus (status : Nat) : String :=
  let words := (reasons.lookup status).getD "<unknown status code>"
  s!"{status} {words}"

def isSuccess (status : Nat) : Bool := 200 ≤ status && status < 300

/-! ## Bodies -/

/-- Answers with such a status have no body, whatever is announced. -/
def isBare (status : Nat) : Bool := status = 101 || status = 204 || status = 304

namespace Response

/-- The answer with a status, when a body is sent with it, all or in part. -/
def arrive (status : Nat) (body : String) (complete : Bool) : Response :=
  if isBare status then ⟨status, "", true⟩ else ⟨status, body, complete⟩

def isSuccess (r : Response) : Bool := Http.isSuccess r.status

/-- The body as a text, without the mark of the encoding that may stand at its start. Nothing is
left of it if a part is missing. -/
def text (r : Response) : String :=
  if !r.complete then ""
  else
    match r.body.toList with
    | '\uFEFF' :: rest => String.ofList rest
    | _ => r.body

/-- What is said of a body that ends too early. -/
def breakOff : List String :=
  ["error reading a body from connection", "end of file before message length reached"]

/-- The value that the body spells. -/
def json (r : Response) : Except Report Json :=
  if r.complete then
    (Json.parse r.body).mapError fun reason => ⟨"error decoding response body", [reason]⟩
  else .error ⟨"error decoding response body", "request or response body error" :: breakOff⟩

end Response

/-! ## Failures -/

/-- Why a request was not answered. -/
inductive Fault
  | badUrl (fault : Url.Fault)
  | badScheme (url : String)
  | refused (url : String)
  | closed (url : String)
  deriving DecidableEq, Repr

def Fault.report : Fault → Report
  | badUrl f => ⟨"builder error", [f.message]⟩
  | badScheme url => ⟨s!"builder error for url ({url})", ["URL scheme is not allowed"]⟩
  | refused url => ⟨s!"error sending request for url ({url})",
      ["client error (Connect)", "tcp connect error", "Connection refused (os error 111)"]⟩
  | closed url => ⟨s!"error sending request for url ({url})",
      ["client error (SendRequest)", "connection closed before message completed"]⟩

/-- The answer to a request at a URL, if there is one. -/
def Outcome.response (url : Url) : Outcome → Except Fault Response
  | refused => .error (.refused url.print)
  | closed => .error (.closed url.print)
  | answered r => .ok r

/-- The URL that requests are sent to; a name and a password in it are sent apart from it. -/
def checkScheme (u : Url) : Except Fault Url :=
  let u := if u.credentials.canBeTold then { u with credentials := .none } else u
  if u.scheme = "http" ∨ u.scheme = "https" then .ok u else .error (.badScheme u.print)

/-- The URL of a path on a server. -/
def resolve (server path : String) : Except Fault Url :=
  match Url.parse (server ++ path) with
  | .ok u => checkScheme u
  | .error f => .error (.badUrl f)

end TokenBridge.Http
