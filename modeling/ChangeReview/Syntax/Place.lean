import ChangeReview.Syntax.Node

/-!
# Places in a syntax tree

A place is a node together with the steps that lead down to it. What a node means depends on the nodes
above it, so every rule of context is a recursion over these steps, the last one first.
-/

namespace ChangeReview

/-- A step from a node down to one of its children. -/
structure Step where
  parent : SyntaxNode
  index : Nat
  child : SyntaxNode

/-- The role of the child in its parent. -/
def Step.field (s : Step) : Option Text := s.child.field

/-- A node in its tree. -/
structure Place where
  node : SyntaxNode
  /-- The steps above the node, the last one first. -/
  above : List Step := []

namespace Place

/-- The role of the node in its parent. -/
def field (p : Place) : Option Text := p.above.head?.bind Step.field

/-- The child of a given index. -/
def down? (p : Place) (index : Nat) : Option Place :=
  (p.node.children[index]?).map fun child =>
    { node := child, above := { parent := p.node, index, child } :: p.above }

/-- The place reached from another by the indexes of children. -/
def follow? (p : Place) : List Nat → Option Place
  | [] => some p
  | i :: rest => (p.down? i).bind (·.follow? rest)

mutual

/-- A node and all nodes below it, each before its children. -/
def within (above : List Step) (n : SyntaxNode) : List Place :=
  match n with
  | ⟨kind, start, stop, field, isNamed, hasError, hasText, children⟩ =>
    let n : SyntaxNode := ⟨kind, start, stop, field, isNamed, hasError, hasText, children⟩
    { node := n, above } :: among above n 0 children

/-- The places within children of `parent`, of which `index` came before. -/
def among (above : List Step) (parent : SyntaxNode) (index : Nat) : List SyntaxNode → List Place
  | [] => []
  | child :: rest =>
    within ({ parent, index, child } :: above) child ++ among above parent (index + 1) rest

end

/-- All places of a tree, in the order of the source. -/
def all (root : SyntaxNode) : List Place := within [] root

end Place

/-- Whether one of the steps starts at a node of a kind. -/
def Step.passes (kinds : List Text) (above : List Step) : Bool :=
  above.any fun s => kinds.contains s.parent.kind

end ChangeReview
