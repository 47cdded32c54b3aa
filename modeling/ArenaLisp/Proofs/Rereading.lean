import ArenaLisp.Proofs.RoundTrip

/-!
# Nodes that come back unchanged

A node that was read comes back the same from its text, provided that its floats are positional.
For floats "the same" is a comparison of numbers, in which the two zeros agree.  But the text of a
zero has its sign, so that positional floats in fact come back bit by bit, and with them whole
nodes.

* `reread_of_positional` — a positional float comes back.
* **`parse_renderAll_of_positional`** — so do nodes whose floats are positional.
-/

namespace ArenaLisp

open Decimal

/-- A positional float comes back from its text, a zero with its sign. -/
lemma reread_of_positional {x : Float} (hx : x.isNaN = false) (h : Positional x) :
    Node.reread x = .literal (.float x) := by
  have hsame := (same_reread hx).mpr h
  unfold Node.reread at hsame ⊢
  split at hsame
  · rename_i y hy
    simp only [Node.same, Literal.same, sameNumber, Bool.and_eq_true, Bool.or_eq_true,
      decide_eq_true_eq] at hsame
    obtain rfl | ⟨-, hzero⟩ := hsame.2
    · rfl
    · -- the same number need not be the same zero, but the texts of the zeros differ
      have hpositive : plainFloat? (floatText 0.0).toList = some 0.0 := by decide +kernel
      have hnegative : plainFloat? (floatText (-0.0)).toList = some (-0.0) := by decide +kernel
      simp only [isZero, Bool.or_eq_true, decide_eq_true_eq] at hzero
      rcases hzero with rfl | rfl
      · rw [Option.some.inj (hy.symm.trans hpositive)]
      · rw [Option.some.inj (hy.symm.trans hnegative)]
  · simp [Node.same] at hsame

mutual

/-- A node whose floats are positional comes back as it was. -/
lemma Node.again_eq : ∀ node : Node, node.Readable → (∀ x ∈ node.floats, Positional x) →
    node.again = node
  | .list items, hr, hf => by
      rw [Node.again, Node.againAll_eq items hr hf]
  | .symbol _, _, _ => rfl
  | .literal (.string _), _, _ => rfl
  | .literal (.integer _), _, _ => rfl
  | .literal (.float x), hr, hf => reread_of_positional hr (hf x (by simp [Node.floats]))

lemma Node.againAll_eq : ∀ nodes : List Node, Node.ReadableAll nodes →
    (∀ x ∈ Node.floatsAll nodes, Positional x) → Node.againAll nodes = nodes
  | [], _, _ => rfl
  | node :: rest, hr, hf => by
      have hnode := Node.again_eq node hr.1 fun x hx => hf x (by simp [Node.floatsAll, hx])
      have hrest := Node.againAll_eq rest hr.2 fun x hx => hf x (by simp [Node.floatsAll, hx])
      rw [Node.againAll, hnode, hrest]

end

/-- **Nodes come back unchanged** from their text, if they can have been read and their floats are
positional. -/
theorem parse_renderAll_of_positional {nodes : List Node} (hr : Node.ReadableAll nodes)
    (hf : ∀ x ∈ Node.floatsAll nodes, Positional x) :
    parse (Node.renderAll nodes) = .ok nodes := by
  rw [parse_renderAll hr, Node.againAll_eq nodes hr hf]

/-- A negative zero keeps its sign. -/
example : parse (Node.renderAll [.literal (.float (-0.0))]) = .ok [.literal (.float (-0.0))] :=
  rfl

end ArenaLisp
