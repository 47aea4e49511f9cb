import Phrasebook.Translation.Url.Host
import Phrasebook.Translation.Url.Segments

/-!
# Addresses of services

- `Url`: the parts of an address in normal form;
- `Url.text`: the address;
- `Url.parse`: the parts of a text, or why it is no address;
- `Url.sent`: the address that a message is sent to, or why it cannot be sent.
-/

namespace Phrasebook

/-- The parts of an address in normal form. -/
structure Url where
  /-- The scheme, in small letters. -/
  scheme : List Char
  /-- The name and password of a user, the latter behind a colon. -/
  user : List Char
  /-- The host, which may be an empty domain; addresses without slashes in front of it have none. -/
  host : Option Url.Host
  port : Option Nat
  path : List Char
  query : Option (List Char)
  fragment : Option (List Char)
deriving Repr, DecidableEq, Inhabited

namespace Url

/-! ## Text -/

/-- A part behind the mark in front of it, if there is one. -/
def marked (mark : Char) (part : Option (List Char)) : List Char :=
  match part with
  | some text => mark :: text
  | none => []

/-- What stands between the slashes and the path. -/
def authority (url : Url) (host : Host) : List Char :=
  (if url.user.isEmpty then [] else url.user ++ ['@']) ++ host.text ++
    marked ':' (url.port.map fun port => (toString port).toList)

/-- The address. A path that starts with two slashes is told from a host by a dot. -/
def text (url : Url) : String :=
  let front :=
    match url.host with
    | some host => ['/', '/'] ++ url.authority host
    | none => if ['/', '/'].isPrefixOf url.path then ['/', '.'] else []
  String.ofList (url.scheme ++ ':' :: front ++ url.path ++ marked '?' url.query ++
    marked '#' url.fragment)

/-- Whether an address leads to a host. -/
def hasHost (url : Url) : Bool :=
  match url.host with
  | none | some (.domain []) => false
  | some _ => true

/-! ## Schemes -/

/-- Whether a character may follow the first one of a scheme. -/
def isSchemePart (c : Char) : Bool := c.isAlphanum || c == '+' || c == '-' || c == '.'

/-- The scheme of an address, in small letters, and what follows its colon. -/
def splitScheme? (text : List Char) : Option (List Char × List Char) :=
  match text with
  | first :: rest =>
    match rest.dropWhile isSchemePart with
    | ':' :: after =>
      if first.isAlpha then some ((first :: rest.takeWhile isSchemePart).map Char.toLower, after)
      else none
    | _ => none
  | [] => none

/-- The known schemes with their usual ports. -/
def usualPorts : List (String × Nat) :=
  [("http", 80), ("https", 443), ("ws", 80), ("wss", 443), ("ftp", 21)]

/-- The usual port of a scheme, if it is known. -/
def usualPort? (scheme : List Char) : Option Nat := usualPorts.lookup (String.ofList scheme)

/-! ## Parts -/

/-- What an address asks of a host and what is behind it. -/
def withQuery (known : Bool) (url : Url) (text : List Char) : Url :=
  let fragment (text : List Char) : List Char := text.flatMap (encode inFragment)
  match text with
  | '?' :: rest =>
    let query := (rest.takeWhile (· != '#')).flatMap (encode (inQuery known))
    match rest.dropWhile (· != '#') with
    | _ :: last => { url with query := some query, fragment := some (fragment last) }
    | [] => { url with query := some query }
  | '#' :: rest => { url with fragment := some (fragment rest) }
  | _ => url

/-- Whether `c` ends a path. -/
def endsPath (c : Char) : Bool := c == '?' || c == '#'

/-- Whether `c` ends what stands in front of a path. -/
def endsAuthority (known : Bool) (c : Char) : Bool := isSlash known c || endsPath c

/-- The address with the path at the start of a text behind `path`, and what follows it. -/
def withPath (known : Bool) (url : Url) (path text : List Char) : Url :=
  let part := text.takeWhile fun c => !endsPath c
  withQuery known { url with path := normalPath known path part } (text.drop part.length)

/-- The address with the path of a text behind a host. A known scheme always has one. -/
def withPathBehindHost (known : Bool) (url : Url) (text : List Char) : Url :=
  match text with
  | c :: rest =>
    if isSlash known c then withPath known url ['/'] rest
    else if known then withPath known url ['/'] text
    else if endsPath c then withQuery known url text
    else withPath known url ['/'] text
  | [] => if known then { url with path := ['/'] } else url

/-- The name and password in front of a host. No colon stands behind a name without password. -/
def userOf (text : List Char) : List Char :=
  let name := (text.takeWhile (· != ':')).flatMap (encode inUser)
  match text.dropWhile (· != ':') with
  | [] | [_] => name
  | _ :: password => name ++ ':' :: password.flatMap (encode inUser)

/-- The user in front of a host, and what follows. -/
def splitUser (known : Bool) (text : List Char) : Option (List Char) × List Char :=
  let front := text.takeWhile fun c => !endsAuthority known c
  if front.contains '@' then
    let host := (front.reverse.takeWhile (· != '@')).reverse
    let user := front.take (front.length - host.length - 1)
    (some user, text.drop (user.length + 1))
  else (none, text)

/-- The length of the host at the start of a text; a colon between brackets does not end it. -/
def hostLength (known : Bool) : Bool → List Char → Nat
  | inside, c :: rest =>
    if (c == ':' && !inside) || endsAuthority known c then 0
    else hostLength known (c == '[' || (inside && c != ']')) rest + 1
  | _, [] => 0

/-- The port at the start of a text, unless it is the `usual` one, and what follows. -/
def splitPort (usual : Option Nat) (text : List Char) :
    Except Fault (Option Nat × List Char) :=
  let digits := text.takeWhile Char.isDigit
  let rest := text.drop digits.length
  let number := (Host.ofDigits 10 digits).getD 0
  if 65535 < number || !(rest.head?.all (endsAuthority true)) then .error .badPort
  else if digits.isEmpty || some number == usual then .ok (none, rest)
  else .ok (some number, rest)

/-- The address behind its scheme and two slashes. -/
def parseAuthority (scheme text : List Char) : Except Fault Url := do
  let usual := usualPort? scheme
  let known := usual.isSome
  let (user, rest) := splitUser known text
  if user == some [] && rest.head?.any (endsAuthority known) then throw .noHost
  let name := rest.take (hostLength known false rest)
  if known && name.isEmpty then throw .noHost
  let host ← Host.parse known name
  let behind := rest.drop name.length
  let user := userOf (user.getD [])
  if host = .domain [] ∧ (!user.isEmpty || behind.head? == some ':') then throw .noHost
  let (port, behind) ←
    match behind with
    | ':' :: digits => splitPort usual digits
    | _ => pure (none, behind)
  return withPathBehindHost known ⟨scheme, user, some host, port, [], none, none⟩ behind

/-! ## Files -/

/-- The address of a file with the path of a text: slashes in front of the path count once. -/
def withFilePath (host : Host) (text : List Char) : Url :=
  let file : Url := ⟨"file".toList, [], some host, none, [], none, none⟩
  let url := withPath true file ['/'] text
  { url with path := '/' :: url.path.dropWhile (· == '/') }

/-- The host of a file. The host of this computer counts as none. -/
def parseFileHost (text : List Char) : Except Fault Host :=
  if text.isEmpty then .ok (.domain [])
  else do
    let host ← Host.parse true text
    return if host = .domain "localhost".toList then .domain [] else host

/-- The address of a file behind its scheme. -/
def parseFile (text : List Char) : Except Fault Url :=
  match text with
  | first :: second :: rest =>
    if isSlash true first && isSlash true second then do
      let name := rest.takeWhile fun c => !endsAuthority true c
      let host ← parseFileHost name
      let behind := rest.drop name.length
      return withFilePath host (if behind.head?.any (isSlash true) then behind.drop 1 else behind)
    else if isSlash true first then .ok (withFilePath (.domain []) (second :: rest))
    else .ok (withFilePath (.domain []) text)
  | _ => .ok (withFilePath (.domain []) (text.dropWhile (isSlash true)))

/-! ## Addresses -/

/-- The address behind an unknown scheme. -/
def parseUnknown (scheme text : List Char) : Except Fault Url :=
  let url : Url := ⟨scheme, [], none, none, [], none, none⟩
  match text with
  | '/' :: '/' :: rest => parseAuthority scheme rest
  | '/' :: rest => .ok (withPath false url ['/'] rest)
  | _ =>
    let path := text.takeWhile fun c => !endsPath c
    .ok (withQuery false { url with path := path.flatMap (encode isReserved) }
      (text.drop path.length))

/-- The text without blanks around it and without line breaks and tabs in it. -/
def cleaned (text : List Char) : List Char :=
  let blank (c : Char) : Bool := c.toNat ≤ 0x20
  let inner := ((text.dropWhile blank).reverse.dropWhile blank).reverse
  inner.filter fun c => c != '\t' && c != '\n' && c != '\r'

/-- The parts of an address. -/
def parse (text : String) : Except Fault Url :=
  match splitScheme? (cleaned text.toList) with
  | none => .error .noScheme
  | some (scheme, rest) =>
    if scheme == "file".toList then parseFile rest
    else if (usualPort? scheme).isSome then
      parseAuthority scheme (rest.dropWhile (isSlash true))
    else parseUnknown scheme rest

/-! ## Sending -/

/-- The address without its user, who is named elsewhere in a message. One whose name is no text
stays. -/
def withoutUser (url : Url) : Url :=
  let name := url.user.takeWhile (· != ':')
  let password := (url.user.dropWhile (· != ':')).drop 1
  let isText (part : List Char) : Bool := (textOf? (decode part)).isSome
  if isText name && (!name.isEmpty || isText password) then { url with user := [] } else url

/-- Whether a message can name a host that holds `c`. -/
def isSendable (c : Char) : Bool :=
  c.isAlphanum || "!$&'()*+,-.:;=[]_~".toList.contains c

/-- The address that a message is sent to. -/
def sent (url : Url) : Except Fault String :=
  let address := url.withoutUser.text
  if url.scheme != "http".toList && url.scheme != "https".toList then .error (.badScheme address)
  else if (url.host.map Host.text).any fun name => !name.all isSendable then
    .error (.notSendable address)
  else .ok address

end Url

end Phrasebook
