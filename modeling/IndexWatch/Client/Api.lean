import IndexWatch.Client.Error
import IndexWatch.Client.Request
import IndexWatch.Effect
import IndexWatch.Json.Reader
import IndexWatch.Text.Base64

namespace IndexWatch

structure AppError where
  id : Option String := none
  message : Option String := none
  deriving DecidableEq

namespace AppError

open Json (Reader)
open Json.Reader

structure Draft where
  id : Option (Option String) := none
  message : Option (Option String) := none

def Draft.step (d : Draft) (k : String) : Reader Draft := do
  match k with
  | "id" => return { d with id := ← once k d.id (optional string) }
  | "message" => return { d with message := ← once k d.message (optional string) }
  | _ => colon; skip; return d

def read : Reader AppError := do
  match ← peek with
  | some .openBrace =>
    advance
    let d ← members Draft.step {}
    return ⟨d.id.join, d.message.join⟩
  | some .openBracket =>
    advance
    let id ← nextItem true (optional string)
    let message ← nextItem false (optional string)
    endItems
    return ⟨id.join, message.join⟩
  | t => reject "an error" t

-- The error in a body. A body that holds none counts as an error without content.
def ofBody (body : List UInt8) : AppError :=
  match Json.decode read (.ofBytes body) with
  | .ok e => e
  | .error _ => {}

def shownId (e : AppError) : String :=
  match e.id with
  | some id => "Some(" ++ Text.quoted id ++ ")"
  | none => "None"

def mfaRequiredId : String := "api.context.mfa_required.app_error"

end AppError

structure ApiClient where
  -- The normal text of the server's URL, without slashes at its end.
  baseUrl : List Char
  token : Option String
  connected : Bool

structure Exchange (α : Type) where
  client : ApiClient
  -- The request, unless it could not even be written down.
  request : Option Request
  result : Except ClientError α
  effects : List Effect

namespace ApiClient

def trimSlashes (cs : List Char) : List Char := (cs.reverse.dropWhile (· == '/')).reverse

def new (url : String) (token : Option String) : Except ClientError ApiClient := do
  let parsed ← (Url.parse url).mapError fun e => .invalidUrl url e.message
  return ⟨trimSlashes parsed.text, token.filter (!·.isEmpty), true⟩

-- The path where users log in. A request that is refused there does not end a session.
def loginPath : String := "/api/v4/users/login"

def loginRedirect : String := "/login"

def logTarget : String := "jobwatch_client::transport"

def addQuery (pairs : List (String × String)) (url : Url) : Url :=
  let before := url.query.getD []
  let added := Percent.form pairs
  let all :=
    if before.isEmpty then added
    else if pairs.isEmpty then before
    else before ++ '&' :: added
  { url with query := if all.isEmpty then none else some all }

def decoded? (cs : List Char) : Option String := (WireText.ofBytes (Percent.decode cs)).toString?

-- The user name and the password in a URL, if there are any. A password that is no text counts as
-- none, and where the name is no text there are no credentials.
def credentials? (url : Url) : Option (String × Option String) := do
  let name ← decoded? url.username
  let password := if url.password.isEmpty then none else decoded? url.password
  if name.isEmpty && password.isNone then none else some (name, password)

def basicHeader (name : String) (password : Option String) : String :=
  "Basic " ++ String.ofList (Base64.encode (utf8Bytes (name ++ ":" ++ password.getD "")))

-- Blanks at the end of a header are not part of it.
def bearerHeader (token : String) : String :=
  String.ofList (("Bearer " ++ token).toList.reverse.dropWhile isSpace).reverse
where
  isSpace (c : Char) : Bool := c == ' ' || c == '\t'

-- Write down the request for a path. The path is put behind the text of the server's URL, and the
-- whole is read anew. Credentials in it move to a header.
def request (c : ApiClient) (method : Method) (path : String)
    (pairs : Option (List (String × String))) (body : Option String) :
    Except TransportError Request := do
  let .ok url := Url.read (c.baseUrl ++ path.toList) | throw .invalidRequest
  if !url.hasHost then throw (.unsuitableUrl url)
  let basic := (credentials? url).map fun c => basicHeader c.1 c.2
  let bearer := c.token.map bearerHeader
  let url := if (credentials? url).isSome then { url with username := [], password := [] } else url
  let url := match pairs with
    | some pairs => addQuery pairs url
    | none => url
  if !bearer.all isHeaderValue then throw .invalidRequest
  if !(url.isHttp && isRequestable url) then throw (.unsuitableUrl url)
  return ⟨method, url, basic, bearer, body⟩

-- No complete answer has come. The first time this happens the connection counts as lost.
def fail (c : ApiClient) (path : String) (e : TransportError) :
    ApiClient × ClientError × List Effect :=
  let record : Log.Record := ⟨.warn, logTarget, "request failed before the server answered",
    [("path", .text path), ("error", .text e.message)]⟩
  ({ c with connected := false }, .transport e.message, .log record ::
    if c.connected then [.connection false, .session .connectionLost] else [])

-- The server has answered a request with success. If the connection was lost it is back.
def succeed (c : ApiClient) : ApiClient × List Effect :=
  let record : Log.Record := ⟨.info, logTarget, "connection to server restored",
    [("server", .text (String.ofList c.baseUrl))]⟩
  ({ c with connected := true },
    if c.connected then [] else [.log record, .connection true, .session .reconnected])

def refuse (path : String) (status : Nat) (e : AppError) : ClientError × List Effect :=
  let record (message : String) : Log.Record := ⟨.warn, logTarget, message, [("path", .text path)]⟩
  if e.id = some AppError.mfaRequiredId then
    (.mfaRequired, [.log (record "server requires multi-factor authentication"),
      .session .reloadRequired])
  else if status = 401 ∧ path ≠ loginPath then
    (.unauthorized path, [.log (record "session rejected, logging out"),
      .session (.loggedOut loginRedirect)])
  else
    (.api status e.id (e.message.getD ((statusName? status).getD "request failed")),
      [.log ⟨.debug, logTarget, "request rejected",
        [("path", .text path), ("status", .number status), ("id", .text e.shownId)]⟩])

def isSuccess (status : Nat) : Bool := 200 ≤ status && status < 300

def receive (c : ApiClient) (path : String) (request : Except TransportError Request)
    (reply : Reply) : Exchange (List UInt8) :=
  let failed (request : Option Request) (e : TransportError) : Exchange (List UInt8) :=
    let (client, error, effects) := c.fail path e
    ⟨client, request, .error error, effects⟩
  match request, reply with
  | .error e, _ => failed none e
  | .ok r, .unanswered => failed r (.unanswered r.url)
  | .ok r, .brokenOff => failed r .brokenOff
  | .ok r, .answer status body =>
    let body := if isBodiless status then [] else body
    if !isFinal status then failed r (.unanswered r.url)
    else if isSuccess status then
      let (client, effects) := c.succeed
      ⟨client, r, .ok body, effects⟩
    else
      let (error, effects) := refuse path status (AppError.ofBody body)
      ⟨c, r, .error error, effects⟩

def decodeBody {α : Type} (read : Json.Reader α) (path : String) (body : List UInt8) :
    Except ClientError α :=
  (Json.decode read (.ofBytes body)).mapError fun e => .decode path e.message

def get {α : Type} (c : ApiClient) (read : Json.Reader α) (path : String)
    (pairs : List (String × String)) (reply : Reply) : Exchange α :=
  let e := c.receive path (c.request .get path (some pairs) none) reply
  { e with result := e.result.bind (decodeBody read path) }

def post {α : Type} (c : ApiClient) (read : Json.Reader α) (path : String) (body : String)
    (reply : Reply) : Exchange α :=
  let e := c.receive path (c.request .post path none (some body)) reply
  { e with result := e.result.bind (decodeBody read path) }

def postEmpty (c : ApiClient) (path : String) (reply : Reply) : Exchange Unit :=
  let e := c.receive path (c.request .post path none none) reply
  { e with result := e.result.map fun _ => () }

end ApiClient

end IndexWatch
