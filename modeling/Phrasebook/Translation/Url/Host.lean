import Phrasebook.Translation.Url.Domain

/-!
# Hosts

- `Fault`: why a text is no address;
- `Host`: a domain or a number of the internet protocol, with its normal form;
- `Host.parse`: the host in an address.
-/

namespace Phrasebook.Url

/-- Why a text is no address of a service. -/
inductive Fault where
  | noScheme
  | noHost
  | badPort
  | badDomain
  /-- A character that no host holds. -/
  | badCharacter
  /-- A number of the internet protocol, version four. -/
  | badNumber
  /-- A number of the internet protocol, version six. -/
  | badLongNumber
  /-- A scheme that leads to no host; the address is given. -/
  | badScheme (address : String)
  /-- An address that cannot be sent; it is given. -/
  | notSendable (address : String)
deriving Repr, DecidableEq

/-- The words for a fault. -/
def Fault.message : Fault → String
  | .noScheme => "builder error: relative URL without a base"
  | .noHost => "builder error: empty host"
  | .badPort => "builder error: invalid port number"
  | .badDomain => "builder error: invalid international domain name"
  | .badCharacter => "builder error: invalid domain character"
  | .badNumber => "builder error: invalid IPv4 address"
  | .badLongNumber => "builder error: invalid IPv6 address"
  | .badScheme address => "builder error for url (" ++ address ++ "): URL scheme is not allowed"
  | .notSendable address =>
    "builder error for url (" ++ address ++ "): Parsed Url is not a valid Uri"

/-- The host of an address. -/
inductive Host where
  /-- A domain in normal form. -/
  | domain (name : List Char)
  /-- Four bytes as one number. -/
  | short (number : Nat)
  /-- Eight pieces of two bytes each. -/
  | long (pieces : List Nat)
deriving Repr, DecidableEq, Inhabited

namespace Host

/-! ## Numbers of four bytes -/

/-- The number that digits stand for. -/
def ofDigits (base : Nat) (digits : List Char) : Option Nat :=
  digits.foldlM (fun number c => do
    let value ← hexValue? c
    guard (value < base)
    return number * base + value) 0

/-- A number in base ten, eight or sixteen, as its first digits say. -/
def number? (text : List Char) : Option Nat :=
  match text with
  | [] => none
  | ['0'] => some 0
  | '0' :: 'x' :: digits | '0' :: 'X' :: digits => ofDigits 16 digits
  | '0' :: digits => ofDigits 8 digits
  | digits => ofDigits 10 digits

/-- The parts of a domain between its dots, without an empty part at its end. -/
def domainParts (domain : List Char) : List (List Char) :=
  let parts := labels domain
  if parts.length > 1 && parts.getLast? == some [] then parts.dropLast else parts

/-- Whether the last part of a domain is a number, so that the domain has to be one. -/
def endsInNumber (domain : List Char) : Bool :=
  match (domainParts domain).getLast? with
  | some last => (!last.isEmpty && last.all Char.isDigit) || (number? last).isSome
  | none => false

/-- The number of a domain that ends in one. Each part is a byte, but the last one counts for all
bytes that are left. -/
def shortNumber? (domain : List Char) : Option Nat := do
  let parts := domainParts domain
  guard (parts.length ≤ 4)
  let numbers ← parts.mapM number?
  let last ← numbers.getLast?
  let bytes := numbers.dropLast
  guard (bytes.all (· ≤ 255) && last < Nat.pow 256 (4 - bytes.length))
  let high := bytes.zipIdx.foldl (fun sum (byte, index) => sum + byte * Nat.pow 256 (3 - index)) 0
  return high + last

/-- The four bytes of a number with dots between them. -/
def shortText (number : Nat) : List Char :=
  let byte (place : Nat) : List Char :=
    (toString (number / Nat.pow 256 place % 256)).toList
  ['.'].intercalate [byte 3, byte 2, byte 1, byte 0]

/-! ## Numbers of eight pieces -/

/-- A piece of up to four digits. -/
def piece? (text : List Char) : Option Nat := do
  guard (1 ≤ text.length && text.length ≤ 4)
  ofDigits 16 text

/-- A byte in base ten without zeros in front. -/
def byte? (text : List Char) : Option Nat := do
  guard (!text.isEmpty && text.all Char.isDigit && (text == ['0'] || text.head? != some '0'))
  let number ← ofDigits 10 text
  guard (number ≤ 255)
  return number

/-- The two pieces that four bytes with dots between them make. -/
def embedded? (text : List Char) : Option (List Nat) := do
  match ← (labels text).mapM byte? with
  | [a, b, c, d] => return [a * 256 + b, c * 256 + d]
  | _ => none

/-- The parts of a text between its colons. -/
def colonParts (text : List Char) : List (List Char) :=
  text.foldr (fun c parts =>
    match c, parts with
    | ':', parts => [] :: parts
    | c, part :: parts => (c :: part) :: parts
    | c, [] => [[c]]) [[]]

/-- Pieces with colons between them; the last one may be four bytes. -/
def pieces? (text : List Char) : Option (List Nat) := do
  if text.isEmpty then return []
  let parts := colonParts text
  let front ← parts.dropLast.mapM piece?
  let last ← parts.getLast?
  match piece? last with
  | some piece => return front ++ [piece]
  | none => return front ++ (← embedded? last)

/-- The texts before and behind the first two colons in a row. -/
def splitGap? : List Char → Option (List Char × List Char)
  | ':' :: ':' :: rest => some ([], rest)
  | c :: rest => (splitGap? rest).map fun (front, back) => (c :: front, back)
  | [] => none

/-- Eight pieces. Two colons in a row stand for all zeros that are missing. -/
def longNumber? (text : List Char) : Option (List Nat) := do
  match splitGap? text with
  | none =>
    let pieces ← pieces? text
    guard (pieces.length == 8)
    return pieces
  | some (front, back) =>
    guard (!front.contains '.')
    let front ← pieces? front
    let back ← pieces? back
    guard (front.length + back.length ≤ 7)
    return front ++ List.replicate (8 - front.length - back.length) 0 ++ back

/-- The digits of a piece. -/
def pieceText (piece : Nat) : List Char := Nat.toDigits 16 piece

/-- The length of the run of zeros at the start of pieces. -/
def zeros (pieces : List Nat) : Nat := (pieces.takeWhile (· == 0)).length

/-- The first place of the longest run of zeros, and its length. -/
def longestZeros (pieces : List Nat) : Nat × Nat :=
  (List.range 8).foldl (fun best start =>
    let length := zeros (pieces.drop start)
    if best.2 < length then (start, length) else best) (0, 0)

/-- Pieces with colons between them; the longest run of two or more zeros is left out. -/
def longText (pieces : List Nat) : List Char :=
  let joined (part : List Nat) : List Char := [':'].intercalate (part.map pieceText)
  let (start, length) := longestZeros pieces
  if length < 2 then joined pieces
  else joined (pieces.take start) ++ [':', ':'] ++ joined (pieces.drop (start + length))

/-! ## Hosts in addresses -/

/-- The text of a host. -/
def text : Host → List Char
  | .domain name => name
  | .short number => shortText number
  | .long pieces => '[' :: longText pieces ++ [']']

/-- The host between square brackets, the first of which has been read. -/
def parseBracketed (rest : List Char) : Except Fault Host :=
  if rest.getLast? == some ']' then
    match longNumber? rest.dropLast with
    | some pieces => .ok (.long pieces)
    | none => .error .badLongNumber
  else .error .badLongNumber

/-- The host that a domain stands for. -/
def parseDomain (domain : List Char) : Except Fault Host :=
  match ((textOf? (decode domain)).map String.toList).bind asciiDomain? with
  | none => .error .badDomain
  | some [] => .error .noHost
  | some name =>
    if endsInNumber name then
      match shortNumber? name with
      | some number => .ok (.short number)
      | none => .error .badNumber
    else .ok (.domain name)

/-- Whether no host of an address with an unknown scheme holds `c`. -/
def isUnfit (c : Char) : Bool :=
  ['\x00', ' ', '#', '/', ':', '<', '>', '?', '@', '[', '\\', ']', '^', '|'].contains c

/-- The host in an address. Only if the scheme is known, it has a meaning of its own. -/
def parse (known : Bool) (text : List Char) : Except Fault Host :=
  match text with
  | '[' :: rest => parseBracketed rest
  | _ =>
    if known then parseDomain text
    else if text.any isUnfit then .error .badCharacter
    else .ok (.domain (text.flatMap (encode isReserved)))

end Host

end Phrasebook.Url
