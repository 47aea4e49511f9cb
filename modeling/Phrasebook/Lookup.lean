import Phrasebook.Program.Callee

/-!
# Lookup calls

Calls that look a key up: the callee is marked as a lookup, and the key, with its namespace where
one is given, is a string literal.

- `LookupCall`: the identity that a call looks up, and where its key stands;
- `LookupCall.classify`: whether a call is a lookup, and of what.
-/

namespace Phrasebook

/-- A call that looks a key up. -/
structure LookupCall where
  identity : Identity
  /-- Where the key literal starts, with its quote. -/
  keyStart : Nat
  /-- Where the key literal ends, with its quote. -/
  keyStop : Nat
deriving Repr, DecidableEq, Inhabited

namespace LookupCall

open Source

/-- The text of a string literal and where it stands; `fault` for any other argument. -/
def literal (fault : CallFault) : Node → Except CallFault (String × Nat × Nat)
  | .spread _ => .error .spreadArgument
  | .text start stop content =>
    match content.text? with
    | some text => .ok (text, start, stop)
    | none => .error fault
  | _ => .error fault

/-- Whether a namespace can name a table file and be read back from an identity. -/
def isValidSpace (space : String) : Bool :=
  !space.isEmpty && !space.toList.any fun c => c == '.' || c == '/' || c == '\\'

/-- The lookup of a key in the default namespace. -/
def ofArguments : List Node → Except CallFault LookupCall
  | [] => .error (.missingArguments 1 0)
  | key :: _ => do
    let (key, start, stop) ← literal .keyNotLiteral key
    return ⟨⟨Identity.defaultSpace, key⟩, start, stop⟩

/-- The lookup of a key in the namespace before it. -/
def ofSpacedArguments : List Node → Except CallFault LookupCall
  | space :: key :: _ => do
    let (space, _, _) ← literal .namespaceNotLiteral space
    if isValidSpace space then
      let (key, start, stop) ← literal .keyNotLiteral key
      return ⟨⟨space, key⟩, start, stop⟩
    else throw (.invalidNamespace space)
  | arguments => .error (.missingArguments 2 arguments.length)

/-- What a call of a callee looks up; none if the callee is no lookup. -/
def classify (program : Program) (file : Nat) (callee : Node) (arguments : List Node) :
    Option (Except CallFault LookupCall) :=
  match program.calleeMarker? file callee with
  | some .lookup => some (ofArguments arguments)
  | some .namespacedLookup => some (ofSpacedArguments arguments)
  | some .constructor | none => none

end LookupCall

end Phrasebook
