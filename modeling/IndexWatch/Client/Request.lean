import IndexWatch.Url.Reader

namespace IndexWatch

inductive Method where
  | get
  | post
  deriving DecidableEq, Repr

def Method.name : Method → String
  | get => "GET"
  | post => "POST"

structure Request where
  method : Method
  url : Url
  -- The header for the credentials in the URL, and the one for a token, which goes behind it.
  basic : Option String
  bearer : Option String
  body : Option String
  deriving DecidableEq

def Request.authorization (r : Request) : Option String :=
  (r.basic.toList ++ r.bearer.toList).getLast?

def Request.target (r : Request) : String := String.ofList r.url.pathAndQuery

def Request.contentType (r : Request) : Option String := r.body.map fun _ => "application/json"

def userAgent : String := "jobwatch/0.4.0"

-- What the HTTP client hands back for a request, with redirects already followed.
inductive Reply where
  | answer (status : Nat) (body : List UInt8)
  | unanswered
  | brokenOff

inductive TransportError where
  | invalidRequest
  | unsuitableUrl (url : Url)
  | unanswered (url : Url)
  | brokenOff
  deriving DecidableEq

def TransportError.message : TransportError → String
  | invalidRequest => "builder error"
  | unsuitableUrl url => "builder error for url (" ++ String.ofList url.text ++ ")"
  | unanswered url => "error sending request for url (" ++ String.ofList url.text ++ ")"
  | brokenOff => "error decoding response body"

def isHeaderValue (s : String) : Bool :=
  s.toList.all fun c => c == '\t' || (0x20 ≤ c.toNat && c.toNat ≠ 0x7F)

def maxUrlSize : Nat := 65534

-- Whether a request can be made for a URL: the name of the host holds no quotes and braces.
def isRequestable (url : Url) : Bool :=
  !url.host.any (fun h => h.text.any ['"', '`', '\x7b', '\x7d'].contains) &&
    url.text.length ≤ maxUrlSize

def statusName? : Nat → Option String
  | 101 => "Switching Protocols"
  | 300 => "Multiple Choices"
  | 301 => "Moved Permanently"
  | 302 => "Found"
  | 303 => "See Other"
  | 304 => "Not Modified"
  | 305 => "Use Proxy"
  | 307 => "Temporary Redirect"
  | 308 => "Permanent Redirect"
  | 400 => "Bad Request"
  | 401 => "Unauthorized"
  | 402 => "Payment Required"
  | 403 => "Forbidden"
  | 404 => "Not Found"
  | 405 => "Method Not Allowed"
  | 406 => "Not Acceptable"
  | 407 => "Proxy Authentication Required"
  | 408 => "Request Timeout"
  | 409 => "Conflict"
  | 410 => "Gone"
  | 411 => "Length Required"
  | 412 => "Precondition Failed"
  | 413 => "Payload Too Large"
  | 414 => "URI Too Long"
  | 415 => "Unsupported Media Type"
  | 416 => "Range Not Satisfiable"
  | 417 => "Expectation Failed"
  | 418 => "I'm a teapot"
  | 421 => "Misdirected Request"
  | 422 => "Unprocessable Entity"
  | 423 => "Locked"
  | 424 => "Failed Dependency"
  | 425 => "Too Early"
  | 426 => "Upgrade Required"
  | 428 => "Precondition Required"
  | 429 => "Too Many Requests"
  | 431 => "Request Header Fields Too Large"
  | 451 => "Unavailable For Legal Reasons"
  | 500 => "Internal Server Error"
  | 501 => "Not Implemented"
  | 502 => "Bad Gateway"
  | 503 => "Service Unavailable"
  | 504 => "Gateway Timeout"
  | 505 => "HTTP Version Not Supported"
  | 506 => "Variant Also Negotiates"
  | 507 => "Insufficient Storage"
  | 508 => "Loop Detected"
  | 510 => "Not Extended"
  | 511 => "Network Authentication Required"
  | _ => none

-- Whether an answer with a status is the last one to its request. Other statuses of less than 200
-- announce one that does not come, and statuses have three digits.
def isFinal (status : Nat) : Bool := status = 101 || (200 ≤ status && status ≤ 999)

def isBodiless (status : Nat) : Bool := status = 101 || status = 204 || status = 304

end IndexWatch
