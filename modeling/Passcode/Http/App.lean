import Passcode.Http.MediaType
import Passcode.Http.Payload
import Passcode.Service.Request
import Passcode.Text.Percent

/-!
# The application

A request becomes a response by way of the service. Each variant of the service has its own routes,
and whatever matches none of them, by path or by method, is not found. A body is read only if it is
declared as JSON and within the limit, both by its own length and by the length that its sender
declared; one that cannot be read, or whose texts are too short or too long, never reaches the
service.

Issuing and checking answer with status 200 whatever their outcome; the outcome is in the body.

## Main definitions

* `App.handle` — a request answered by way of requests to the service
* `App.respond` — the same with the service at work
-/

namespace Passcode.Http

/-- A body: its bytes, with any coding of the content undone, and the length that its sender
declared, as written in the header, if one is there. -/
structure Body where
  bytes : List Nat
  lengthHeader? : Option String := none
deriving Repr

instance : Coe (List Nat) Body := ⟨fun bytes => { bytes }⟩

/-- The length that the sender of a body declared. A header that is no number declares none. -/
def Body.declaredLength? (b : Body) : Option Nat := b.lengthHeader?.bind (Text.readBelow (twoTo 64))

/-- Whether a body is within a limit, in fact and by the length that its sender declared. -/
def Body.fits (b : Body) (limit : Nat) : Bool :=
  b.declaredLength?.all (· ≤ limit) && b.bytes.length ≤ limit

/-- A request: its method, its path as sent, which may follow a host, and its body. -/
structure Request where
  method : String
  path : String
  contentType? : Option String
  body : Body
deriving Repr

/-- A response; its body is always JSON. -/
structure Response where
  status : Nat
  body : Json.Value
deriving Repr, Inhabited

/-- The media type of all responses. -/
def Response.contentType : String := "application/json"

/-- An application: its service, the variant whose routes it has, and the longest body it reads. -/
structure App where
  service : Service
  routes : Variant
  limit : Nat
deriving Repr

/-- The application over a service, with the routes of its variant. -/
def App.ofService (s : Service) (limit : Nat) : App := ⟨s, s.variant, limit⟩

/-- What a request can be for. -/
inductive Endpoint where
  | health
  | captcha
  | verifyCode
  | check
deriving Repr, DecidableEq

/-- The method and path of an endpoint. -/
def Endpoint.route : Endpoint → String × String
  | .health => ("GET", "/health")
  | .captcha => ("POST", "/api/v1/captcha")
  | .verifyCode => ("POST", "/api/v1/verify-code")
  | .check => ("POST", "/api/v1/verify-code/check")

/-- The endpoints of a variant. -/
def endpoints : Variant → List Endpoint
  | .generationOnly => [.health, .captcha]
  | .validating => [.health, .verifyCode, .check]

/-- Whether a character may stand in a scheme. -/
def isSchemeChar (c : Char) : Bool := c.isAlphanum || c = '+' || c = '-' || c = '.'

/-- The text after a scheme and the authority of a host. -/
def afterAuthority? (target : List Char) : Option (List Char) :=
  match target.dropWhile isSchemeChar with
  | ':' :: '/' :: '/' :: rest => some (rest.dropWhile fun c => c ≠ '/' && c ≠ '?' && c ≠ '#')
  | _ => none

/-- The path of a request without its query. A request may name the host before the path, and
without a path it is for the root. -/
def Request.rawPath (r : Request) : String :=
  let target := r.path.toList
  let path (s : List Char) : List Char := s.takeWhile fun c => c ≠ '?' && c ≠ '#'
  match target, afterAuthority? target with
  | '/' :: _, _ | _, none => String.ofList (path target)
  | _, some rest => String.ofList (if path rest = [] then ['/'] else path rest)

/-- Whether an encoded byte is decoded when paths are compared: not a slash, a plus sign or a
percent sign. -/
def isDecodedInPaths (byte : Nat) : Bool :=
  byte ≠ '/'.toNat && byte ≠ '+'.toNat && byte ≠ '%'.toNat

/-- The path of a request as paths are compared. -/
def Request.decodedPath (r : Request) : String :=
  String.ofList (Text.decodeWhere isDecodedInPaths r.rawPath.toList)

/-- The endpoint that a request is for. -/
def App.endpoint? (app : App) (r : Request) : Option Endpoint :=
  (endpoints app.routes).find? fun e => e.route == (r.method, r.decodedPath)

/-! ## Bodies -/

/-- The characters of a body, and the character that stands for bytes that are no text. -/
def bodyChars (body : List Nat) : List Char × Option Char :=
  let decoded := Text.decodeUtf8 body
  if decoded.all Option.isSome then (decoded.filterMap id, none)
  else
    let used := decoded.filterMap id
    let candidates := (List.range (used.length + 1)).map fun i => Char.ofNat (0xe000 + i)
    let standIn := (candidates.find? fun c => !used.contains c).getD '\ufffd'
    (decoded.map fun c => c.getD standIn, some standIn)

/-- Decode the bytes of a body. -/
def decodeBody {α : Type} (decode : Json.Decoder α) (bytes : List Nat) : Except Json.Fault α :=
  let (chars, standIn) := bodyChars bytes
  (Json.Document.ofChars standIn chars).decode decode

/-- What a body holds, if it is declared as JSON, within the limit and readable. -/
def App.payload? {α : Type} (app : App) (decode : Json.Decoder α) (r : Request) : Option α :=
  if r.contentType?.any isJsonType && r.body.fits app.limit then
    (decodeBody decode r.body.bytes).toOption
  else none

/-! ## Responses -/

/-- The response to a request for something that is not there. -/
def notFound : Response :=
  ⟨404, .object [("error", .string "not_found"),
    ("message", .string "The requested resource was not found")]⟩

/-- The response to a body that cannot be read. The address is unknown then. -/
def unreadable : Response :=
  ⟨400, .object [("email", .string ""), ("error", .int Outcome.invalidArgument.code)]⟩

/-- The version of the program. -/
def version : String := "0.1.0"

/-- The response to the question whether the program is well, at a time. -/
def healthy (v : Variant) (now : String) : Response :=
  ⟨200, .object [("service", .string "verimail"), ("status", .string "healthy"),
    ("timestamp", .string now), ("variant", .string v.name), ("version", .string version)]⟩

/-! ## Handling -/

/-- Read the body of a request, or reject it. -/
def App.withPayload {α : Type} (app : App) (decode : Json.Decoder α) (r : Request)
    (handle : α → Flow RequestInterface Response) : Flow RequestInterface Response :=
  match app.payload? decode r with
  | some a => handle a
  | none => .log (.bodyRejected r.rawPath) <| .done unreadable

/-- Handle a request for a code that the caller gets. -/
def handleCaptcha (code : Code) (r : CaptchaRequest) : Flow RequestInterface Response :=
  if r.invalidFields = [] then
    .ask (.issue r.email code) fun i => .done ⟨200, (CaptchaResponse.ofIssuance i).toJson⟩
  else
    .log (.captchaRejected (Mask.identity r.email)) <|
      .done ⟨400, CaptchaResponse.toJson ⟨r.email, .invalidArgument, none⟩⟩

/-- Handle a request for a code that is kept. -/
def handleVerifyCode (code : Code) (r : VerifyCodeRequest) : Flow RequestInterface Response :=
  if r.invalidFields = [] then
    .ask (.issue r.email code) fun i => .done ⟨200, (VerifyCodeResponse.ofIssuance i).toJson⟩
  else
    .log (.verifyCodeRejected (Mask.identity r.email)) <|
      .done ⟨400, VerifyCodeResponse.toJson ⟨r.email, .invalidArgument⟩⟩

/-- Handle a request to check a submitted code. -/
def handleCheck (r : CheckRequest) : Flow RequestInterface Response :=
  if r.invalidFields = [] then
    .ask (.check r.email r.code) fun
      | .ok c => .done ⟨200, (CheckResponse.ofCheck r.email c).toJson⟩
      | .error fault =>
        .log (.checkFailed (Mask.identity r.email)) <|
          .done ⟨200, (CheckResponse.failure r.email fault.outcome).toJson⟩
  else
    .log (.checkRejected (Mask.identity r.email)) <|
      .done ⟨400, (CheckResponse.failure r.email .invalidArgument).toJson⟩

/-- Handle a request by way of the service. The code is the one that is issued if the request issues
one. -/
def App.handle (app : App) (now : String) (code : Code) (r : Request) :
    Flow RequestInterface Response :=
  match app.endpoint? r with
  | none => .done notFound
  | some .health => .done (healthy app.service.variant now)
  | some .captcha => app.withPayload CaptchaRequest.decode r (handleCaptcha code)
  | some .verifyCode => app.withPayload VerifyCodeRequest.decode r (handleVerifyCode code)
  | some .check => app.withPayload CheckRequest.decode r handleCheck

/-- Answer a request. -/
def App.respond (app : App) (now : String) (code : Code) (r : Request) :
    Flow ServiceInterface Response :=
  (app.handle now code r).interpret app.service.serve

end Passcode.Http
