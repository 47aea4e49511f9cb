/-!
# Punycode

How a label of a domain is written in ASCII: its ASCII characters first, then the places of all
others as numbers. A number is written in base thirty-six with the least digit first, and ends with
a digit below a threshold; the thresholds adapt to the sizes of the numbers before.

- `encode`: a label in ASCII;
- `decode?`: the label that it stands for.
-/

namespace Phrasebook.Url.Punycode

/-! ## Numbers -/

/-- The character for a digit. -/
def digit (value : Nat) : Char :=
  if value < 26 then Char.ofNat ('a'.toNat + value) else Char.ofNat ('0'.toNat + (value - 26))

/-- The value of a digit. -/
def digitValue? (c : Char) : Option Nat :=
  if c.isLower then some (c.toNat - 'a'.toNat)
  else if c.isUpper then some (c.toNat - 'A'.toNat)
  else if c.isDigit then some (c.toNat - '0'.toNat + 26)
  else none

/-- The threshold for the digit at a place that is counted in steps of thirty-six. -/
def threshold (bias place : Nat) : Nat :=
  if place ≤ bias then 1 else min 26 (place - bias)

theorem threshold_bounds (bias place : Nat) :
    1 ≤ threshold bias place ∧ threshold bias place ≤ 26 := by
  unfold threshold
  split <;> omega

/-- The digits of a number from a place on. -/
def writeNumber (bias place number : Nat) : List Char :=
  let least := threshold bias place
  if number < least then [digit number]
  else
    digit (least + (number - least) % (36 - least)) ::
      writeNumber bias (place + 36) ((number - least) / (36 - least))
termination_by number
decreasing_by
  have bounds := threshold_bounds bias place
  exact Nat.lt_of_le_of_lt (Nat.div_le_self _ _) (by omega)

/-- Read the digits of a number from a place on, each of the given weight: the number added to
`sum`, and what follows. -/
def readNumber? (bias : Nat) : Nat → Nat → Nat → List Char → Option (Nat × List Char)
  | _, _, _, [] => none
  | place, weight, sum, c :: rest => do
    let value ← digitValue? c
    let least := threshold bias place
    let sum := sum + value * weight
    if value < least then return (sum, rest)
    else readNumber? bias (place + 36) (weight * (36 - least)) sum rest

theorem readNumber?_length {bias place weight sum : Nat} {cs rest : List Char} {number : Nat}
    (h : readNumber? bias place weight sum cs = some (number, rest)) : rest.length < cs.length := by
  induction cs generalizing place weight sum with
  | nil => simp [readNumber?] at h
  | cons c cs ih =>
    simp only [readNumber?, Option.bind_eq_bind] at h
    cases value : digitValue? c with
    | none => simp [value] at h
    | some v =>
      simp only [value, Option.bind_some] at h
      split at h
      · have : cs = rest := by simpa using congrArg (Option.map Prod.snd) h
        simp [this]
      · exact Nat.lt_succ_of_lt (ih h)

/-! ## Thresholds -/

/-- Divide a size until it is small; the bias that this makes. -/
def settle (size bias : Nat) : Nat :=
  if size ≤ 455 then bias + 36 * size / (size + 38) else settle (size / 35) (bias + 36)
termination_by size
decreasing_by omega

/-- The bias behind a number that was read or written as one of `count`. -/
def adapt (number count : Nat) (isFirst : Bool) : Nat :=
  let size := if isFirst then number / 700 else number / 2
  settle (size + size / count) 0

/-! ## Labels -/

/-- The state of writing: the digits so far, the next number, the bias and the count of characters
already written. -/
structure Writer where
  digits : List Char
  number : Nat
  bias : Nat
  count : Nat
deriving Inhabited

/-- Pass the character `c` of a label on the way to all characters with the code `code`. -/
def Writer.pass (basic code : Nat) (writer : Writer) (c : Char) : Writer :=
  if c.toNat < code then { writer with number := writer.number + 1 }
  else if c.toNat == code then
    { digits := writer.digits ++ writeNumber writer.bias 36 writer.number
      number := 0
      bias := adapt writer.number (writer.count + 1) (writer.count == basic)
      count := writer.count + 1 }
  else writer

/-- Write all characters above ASCII of a label, in the order of their codes; `least` is the code
behind the last one. -/
def Writer.run (basic : Nat) (label : List Char) (writer : Writer) (least : Nat) :
    List Nat → List Char
  | [] => writer.digits
  | code :: codes =>
    let start := { writer with
      number := writer.number + (code - least) * (writer.count + 1) }
    let passed := label.foldl (Writer.pass basic code) start
    Writer.run basic label { passed with number := passed.number + 1 } (code + 1) codes

/-- A label in ASCII, without the mark in front of it. -/
def encode (label : List Char) : List Char :=
  let basic := label.filter fun c => c.toNat < 0x80
  let codes := (label.filter fun c => 0x80 ≤ c.toNat).map Char.toNat
  let sorted := dedup (codes.mergeSort fun a b => a ≤ b)
  basic ++ (if basic.isEmpty then [] else ['-']) ++
    Writer.run basic.length label ⟨[], 0, 72, basic.length⟩ 0x80 sorted
where
  /-- A sorted list without repetitions. -/
  dedup : List Nat → List Nat
    | first :: second :: rest =>
      if first == second then dedup (second :: rest) else first :: dedup (second :: rest)
    | short => short

/-- Read the characters above ASCII of a label and put each at its place. -/
def insertAll (bias code place : Nat) (label : List Char) (digits : List Char) :
    Option (List Char) :=
  match digits with
  | [] => some label
  | c :: rest =>
    match read : readNumber? bias 36 1 place (c :: rest) with
    | none => none
    | some (number, after) =>
      let count := label.length + 1
      let code := code + number / count
      let index := number % count
      if code.isValidChar then
        insertAll (adapt (number - place) count (place == 0)) code (index + 1)
          (label.insertIdx index (Char.ofNat code)) after
      else none
termination_by digits.length
decreasing_by
  have := readNumber?_length read
  simpa using this

/-- The label that a text in ASCII stands for, if it is one: what precedes the last hyphen, with
other characters put between. -/
def decode? (text : List Char) : Option (List Char) :=
  let digits := (text.reverse.takeWhile (· != '-')).reverse
  let basic := text.take (text.length - digits.length - 1)
  insertAll 72 0x80 0 basic digits

end Phrasebook.Url.Punycode
