import ChangeReview.Text.Encoding

/-!
# Syntax trees

A node spans bytes of its source and may hold a field of its parent.
-/

namespace ChangeReview

/-- A node of a syntax tree. -/
structure SyntaxNode where
  kind : Text
  start : Nat
  stop : Nat
  /-- The role of the node in its parent. -/
  field : Option Text := none
  /-- Whether the grammar gives the node a name of its own. -/
  isNamed : Bool := true
  /-- Whether the source below the node has a parse gap. -/
  hasError : Bool := false
  /-- Whether the text of the node can be had. -/
  hasText : Bool := true
  children : List SyntaxNode := []

namespace SyntaxNode

/-- Whether the node is of a kind. -/
def isA (n : SyntaxNode) (kind : Text) : Bool := n.kind == kind

/-- The first child in a field. -/
def child? (n : SyntaxNode) (field : Text) : Option SyntaxNode :=
  n.children.find? (·.field == some field)

/-- The place of the first child in a field. -/
def childIndex? (n : SyntaxNode) (field : Text) : Option Nat :=
  n.children.findIdx? (·.field == some field)

/-- Whether the node has a child of a kind. -/
def hasChild (n : SyntaxNode) (kind : Text) : Bool := n.children.any (·.isA kind)

/-- The bytes of the node. -/
def slice (source : Bytes) (n : SyntaxNode) : Bytes := (source.take n.stop).drop n.start

/-- The text of the node. -/
def text (source : Bytes) (n : SyntaxNode) : Except Failure Text :=
  if n.hasText then Bytes.decode (n.slice source) else .ok []

/-- The text of a node that may be missing. -/
def textOf (source : Bytes) (n : Option SyntaxNode) (otherwise : Text := []) : Except Failure Text :=
  match n with
  | some n => n.text source
  | none => .ok otherwise

/-- The line of a position, counted from one. -/
def lineAt (source : Bytes) (position : Nat) : Nat := (source.take position).count 0x0A + 1

/-- The line on which the node starts. -/
def startLine (source : Bytes) (n : SyntaxNode) : Nat := lineAt source n.start

/-- The line on which the node ends. -/
def endLine (source : Bytes) (n : SyntaxNode) : Nat := lineAt source n.stop

theorem sizeOf_children (n : SyntaxNode) : sizeOf n.children < sizeOf n := by
  cases n
  simp

theorem sizeOf_child {n c : SyntaxNode} (h : c ∈ n.children) : sizeOf c < sizeOf n :=
  Nat.lt_trans (List.sizeOf_lt_of_mem h) n.sizeOf_children

theorem sizeOf_child? {n c : SyntaxNode} {field : Text} (h : n.child? field = some c) :
    sizeOf c < sizeOf n :=
  sizeOf_child (List.mem_of_find?_eq_some h)

end SyntaxNode

end ChangeReview
