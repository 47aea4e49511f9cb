import Phrasebook.Config
import Phrasebook.Json.Parse
import Phrasebook.Text.Blank
import Phrasebook.Translation.Request
import Phrasebook.Translation.Url

/-!
# Translation service

A service that completes chats: what is sent to it and how its replies are read.

- `Service`: where the service is and how it is asked;
- `Service.message`: what is sent for a request;
- `Service.readReply`: the translation in a reply, or why there is none;
- `Service.translator`: both, given what carries messages.
-/

namespace Phrasebook

/-- What is sent to a service. -/
structure ServiceMessage where
  url : String
  authorization : String
  body : String
deriving Repr, DecidableEq, Inhabited

/-- What a service sends back. -/
structure ServiceReply where
  status : Nat
  body : String
deriving Repr, DecidableEq, Inhabited

/-- Why a message does not reach a service. -/
inductive SendFault where
  | badUrl (fault : Url.Fault)
  | badKey
  /-- No connection to the given address. -/
  | unreachable (url : String)
deriving Repr, DecidableEq

/-- The words for a fault. -/
def SendFault.message : SendFault → String
  | .badUrl fault => fault.message
  | .badKey => "builder error: failed to parse header value"
  | .unreachable url =>
    "error sending request for url (" ++ url ++
      "): client error (Connect): tcp connect error: Network is unreachable (os error 101)"

/-- Why a service gives no translation. -/
inductive ServiceFault where
  | notSent (url : String) (fault : SendFault)
  | notJson (url : String) (status : Nat) (fault : Json.Fault) (body : String)
  | badStatus (status : Nat)
  /-- The service says what is wrong. -/
  | reported (message : String)
  | emptyReply

/-- The registered words for the status of a reply. -/
def statusReasons : List (Nat × String) := [
  (100, "Continue"), (101, "Switching Protocols"), (102, "Processing"), (103, "Early Hints"),
  (200, "OK"), (201, "Created"), (202, "Accepted"), (203, "Non Authoritative Information"),
  (204, "No Content"), (205, "Reset Content"), (206, "Partial Content"), (207, "Multi-Status"),
  (208, "Already Reported"), (226, "IM Used"), (300, "Multiple Choices"),
  (301, "Moved Permanently"), (302, "Found"), (303, "See Other"), (304, "Not Modified"),
  (305, "Use Proxy"), (307, "Temporary Redirect"), (308, "Permanent Redirect"),
  (400, "Bad Request"), (401, "Unauthorized"), (402, "Payment Required"), (403, "Forbidden"),
  (404, "Not Found"), (405, "Method Not Allowed"), (406, "Not Acceptable"),
  (407, "Proxy Authentication Required"), (408, "Request Timeout"), (409, "Conflict"),
  (410, "Gone"), (411, "Length Required"), (412, "Precondition Failed"),
  (413, "Payload Too Large"), (414, "URI Too Long"), (415, "Unsupported Media Type"),
  (416, "Range Not Satisfiable"), (417, "Expectation Failed"), (418, "I'm a teapot"),
  (421, "Misdirected Request"), (422, "Unprocessable Entity"), (423, "Locked"),
  (424, "Failed Dependency"), (425, "Too Early"), (426, "Upgrade Required"),
  (428, "Precondition Required"), (429, "Too Many Requests"),
  (431, "Request Header Fields Too Large"), (451, "Unavailable For Legal Reasons"),
  (500, "Internal Server Error"), (501, "Not Implemented"), (502, "Bad Gateway"),
  (503, "Service Unavailable"), (504, "Gateway Timeout"), (505, "HTTP Version Not Supported"),
  (506, "Variant Also Negotiates"), (507, "Insufficient Storage"), (508, "Loop Detected"),
  (510, "Not Extended"), (511, "Network Authentication Required")]

/-- A status with its registered words. -/
def statusText (status : Nat) : String :=
  toString status ++ " " ++ (statusReasons.lookup status).getD "<unknown status code>"

/-- Whether a status stands for success. -/
def isSuccess (status : Nat) : Bool := 200 ≤ status && status < 300

/-- The words for a fault. -/
def ServiceFault.message : ServiceFault → String
  | .notSent url fault => "Request to " ++ url ++ " failed: " ++ fault.message
  | .notJson url status fault body =>
    "Invalid response from " ++ url ++ " (" ++ statusText status ++
      "): error decoding response body: " ++ fault.message body.toList
  | .badStatus status => "translation service responded with " ++ statusText status
  | .reported message => "translation service error: " ++ message
  | .emptyReply => "translation service returned an empty reply"

/-- A service: its address, the key that it asks for, and its settings. -/
structure Service where
  url : String
  key : String
  model : String
  temperature : Float32
  maxTokens : Nat

namespace Service

/-- The service of the given settings. -/
def ofConfig (config : TranslatorConfig) (key : String) : Service where
  url := String.ofList (config.endpoint.toList.reverse.dropWhile (· == '/')).reverse ++
    "/chat/completions"
  key := key
  model := config.model
  temperature := config.temperature
  maxTokens := config.maxTokens

/-! ### Messages -/

/-- What the service is told to do. -/
def systemPrompt (language : String) : String :=
  "You are a professional translator. Translate the given text to " ++ language ++ ".\n" ++
  "Consider ALL provided code contexts to ensure accurate translation.\n" ++
  "The text might appear in multiple places - use all contexts to understand its usage.\n" ++
  "Respond with ONLY the translation, no explanations or additional text."

/-- What the service is asked: the text and the numbered sources around its calls. -/
def userPrompt (request : TranslationRequest) : String :=
  let contexts := request.contexts.zipIdx.map fun (context, index) =>
    "Context " ++ toString (index + 1) ++ ":\n" ++ context
  "\n\n".intercalate contexts ++ "\n\nText to translate: \"" ++ request.text ++ "\""

/-- A chat message. -/
def chatMessage (role content : String) : Json.Value :=
  .object [("role", .string role), ("content", .string content)]

/-- The body that is sent for a request. -/
def payload (service : Service) (request : TranslationRequest) : Json.Value :=
  let temperature :=
    match doubleText? service.temperature.toFloat with
    | some text => Json.Value.number text
    | none => .null
  .object [
    ("model", .string service.model),
    ("messages", .array [
      chatMessage "system" (systemPrompt request.language),
      chatMessage "user" (userPrompt request)]),
    ("temperature", temperature),
    ("max_tokens", .number (toString service.maxTokens))]

/-- What is sent for a request. -/
def message (service : Service) (request : TranslationRequest) : ServiceMessage where
  url := service.url
  authorization := "Bearer " ++ service.key
  body := Json.compact (service.payload request)

/-- Whether a text may stand in the head of a message. -/
def isHeaderText (text : String) : Bool :=
  text.toList.all fun c => (0x20 ≤ c.toNat && c.toNat != 0x7F) || c == '\t'

/-- The normal form of the address that a message goes to, if the message can be sent. -/
def address (message : ServiceMessage) : Except SendFault String := do
  let url ← (Url.parse message.url).mapError .badUrl
  if !url.hasHost then throw (.badUrl (.badScheme url.text))
  if !isHeaderText message.authorization then throw .badKey
  url.sent.mapError .badUrl

/-! ### Replies -/

/-- The part of a value that the steps lead to: names of members, or numbers of items. -/
def follow? : List String → Json.Value → Option Json.Value
  | [], value => some value
  | step :: rest, value =>
    match value with
    | .object members => (members.lookup step).bind (follow? rest)
    | .array items => (step.toNat?.bind fun index => items[index]?).bind (follow? rest)
    | _ => none

/-- What a reply says to be wrong. -/
def errorMessage? (body : Json.Value) : Option Json.Value := follow? ["error", "message"] body

/-- The text of the first choice. -/
def content? (body : Json.Value) : Option String :=
  (follow? ["choices", "0", "message", "content"] body).bind Json.Value.text?

/-- The translation in the body of a reply: the text of the first choice without blanks around it,
unless it is empty or an error is reported. -/
def readBody (body : Json.Value) : Except ServiceFault String :=
  match (errorMessage? body).bind Json.Value.text? with
  | some message => .error (.reported message)
  | none =>
    let content := Text.trim ((content? body).getD "")
    if content.isEmpty then .error .emptyReply else .ok content

/-- The translation in a reply. A status other than success counts as an error unless the body names
one. -/
def readReply (service : Service) (reply : ServiceReply) : Except ServiceFault String :=
  match Json.parse reply.body with
  | .error fault => .error (.notJson service.url reply.status fault reply.body)
  | .ok body =>
    if !isSuccess reply.status && (errorMessage? body).isNone then
      .error (.badStatus reply.status)
    else readBody body

/-- Answers requests with the replies to their messages. -/
def translator (service : Service) (send : ServiceMessage → Except SendFault ServiceReply) :
    Translator := fun request =>
  let result : Except ServiceFault String :=
    match send (service.message request) with
    | .error fault => .error (.notSent service.url fault)
    | .ok reply => service.readReply reply
  result.mapError ServiceFault.message

end Service

end Phrasebook
