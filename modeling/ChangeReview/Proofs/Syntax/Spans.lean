import ChangeReview.Proofs.Results
import ChangeReview.Proofs.Text.Encoding
import ChangeReview.Syntax.Place

/-!
# Trees and the texts below them

The nodes of a tree that is a tree of its source start and end between characters, so that each has a text,
and the text of each node is a part of the source.
-/

namespace ChangeReview

namespace Place

mutual

theorem map_node_within (above : List Step) (n : SyntaxNode) :
    (within above n).map node = n :: n.children.flatMap fun c => (within [] c).map node := by
  match n with
  | ⟨kind, start, stop, field, isNamed, hasError, hasText, children⟩ =>
    rw [within, List.map_cons, map_node_among]

theorem map_node_among (above : List Step) (parent : SyntaxNode) (index : Nat) (children : List SyntaxNode) :
    (among above parent index children).map node
      = children.flatMap fun c => (within [] c).map node := by
  match children with
  | [] => rw [among, List.map_nil, List.flatMap_nil]
  | child :: rest =>
    rw [among, List.map_append, map_node_within, map_node_among, List.flatMap_cons, map_node_within [] child]

end

/-- What holds at every node of a tree holds at its root and at every node below each child. -/
theorem forall_mem_all_iff (P : SyntaxNode → Prop) (n : SyntaxNode) :
    (∀ p ∈ all n, P p.node) ↔ P n ∧ ∀ c ∈ n.children, ∀ p ∈ all c, P p.node :=
  calc (∀ p ∈ all n, P p.node)
    _ ↔ ∀ m ∈ (all n).map node, P m := List.forall_mem_map.symm
    _ ↔ P n ∧ ∀ m ∈ n.children.flatMap fun c => (all c).map node, P m := by
      rw [all, map_node_within, List.forall_mem_cons]
      rfl
    _ ↔ P n ∧ ∀ c ∈ n.children, ∀ m ∈ (all c).map node, P m := by rw [List.forall_mem_flatMap]
    _ ↔ P n ∧ ∀ c ∈ n.children, ∀ p ∈ all c, P p.node :=
      and_congr_right fun _ => forall₂_congr fun _ _ => List.forall_mem_map

end Place

namespace SyntaxNode

/-- Every node of the tree spans whole characters of the source. -/
def Spans (source : Bytes) (root : SyntaxNode) : Prop :=
  ∀ p ∈ Place.all root, (Bytes.decode (p.node.slice source)).isOk = true

instance (source : Bytes) (root : SyntaxNode) : Decidable (root.Spans source) :=
  inferInstanceAs (Decidable (∀ p ∈ _, _))

variable {source : Bytes} {n c : SyntaxNode}

theorem spans_iff : n.Spans source ↔
    (Bytes.decode (n.slice source)).isOk = true ∧ ∀ c ∈ n.children, c.Spans source :=
  Place.forall_mem_all_iff (fun m => (Bytes.decode (m.slice source)).isOk = true) n

theorem Spans.child (h : n.Spans source) (hc : c ∈ n.children) : c.Spans source := (spans_iff.1 h).2 c hc

theorem Spans.isOk_text (h : n.Spans source) : (n.text source).isOk = true := by
  unfold text
  split
  · exact (spans_iff.1 h).1
  · rfl

/-- What a node spans stands in the source. -/
theorem slice_isInfix (source : Bytes) (n : SyntaxNode) : n.slice source <:+: source :=
  ((List.drop_suffix _ _).isInfix).trans (List.take_prefix _ _).isInfix

end SyntaxNode

end ChangeReview
