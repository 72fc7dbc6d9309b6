import ChangeReview.Proofs.Syntax.Spans
import ChangeReview.Proofs.Text.Visible
import ChangeReview.Symbol.Extraction

/-!
# Every tree of a source has symbols

The symbols of a source are made of the texts of nodes. If the nodes span whole characters, each of them has
a text, and none of these texts holds a surrogate: reading the symbols gives a result, whether or not
the tree has a parse gap.
-/

namespace ChangeReview

/-! ## Texts that can be encoded -/

namespace Text

variable {t : Text}

theorem Proper.isOk_encode (h : Proper t) : t.encode.isOk = true :=
  Except.isOk_iff.2 ⟨_, encode_eq_ok_iff.2 ⟨h, rfl⟩⟩

theorem Proper.trim (h : Proper t) : Proper t.trim := h.of_subset (trim_subset t)

theorem Proper.collapseBlanks (h : Proper t) : Proper t.collapseBlanks := by
  induction t with
  | nil => exact h
  | cons c r ih =>
    obtain ⟨hc, hr⟩ := List.forall_mem_cons.1 h
    have hblank : (CodePoint.ofChar ' ').isSurrogate = false := by decide
    have hrest := ih hr
    unfold Proper at hrest ⊢
    rw [Text.collapseBlanks]
    split
    · split
      · simpa using hblank
      · rename_i d s heq
        rw [heq] at hrest
        split
        · exact hrest
        · exact List.forall_mem_cons.2 ⟨hblank, hrest⟩
    · exact List.forall_mem_cons.2 ⟨hc, hrest⟩

end Text

namespace SyntaxNode

variable {source : Bytes} {n : SyntaxNode}

theorem proper_of_text {t : Text} (h : n.text source = .ok t) : t.Proper := by
  unfold text at h
  split at h
  · exact (Text.decodeFrom_eq_ok h).2
  · cases h
    exact fun _ hc => nomatch hc

theorem Spans.child? {field : Text} {c : SyntaxNode} (h : n.Spans source) (hc : n.child? field = some c) :
    c.Spans source := h.child (List.mem_of_find?_eq_some hc)

theorem Spans.below_child? {field : Text} {c : SyntaxNode} (h : n.Spans source)
    (hc : c ∈ ((n.child? field).map SyntaxNode.children).getD []) : c.Spans source := by
  cases hm : n.child? field with
  | none =>
    rw [hm] at hc
    cases hc
  | some m =>
    rw [hm] at hc
    exact (h.child? hm).child hc

theorem isOk_textOf {m : Option SyntaxNode} {otherwise : Text} (h : ∀ c ∈ m, c.Spans source) :
    (textOf source m otherwise).isOk = true := by
  cases m with
  | none => rfl
  | some c => exact (h c rfl).isOk_text

theorem Spans.isOk_textOf_child? (h : n.Spans source) (field : Text) (otherwise : Text) :
    (textOf source (n.child? field) otherwise).isOk = true :=
  isOk_textOf fun _ hc => h.child? hc

end SyntaxNode

namespace Symbol

open SyntaxNode (Spans)

variable {source : Bytes} {n : SyntaxNode}

theorem isOk_ofNode (kind : SymbolKind) (parent : Option Text) (name signature : Text) (whole : SyntaxNode)
    {body : Option SyntaxNode} (h : ∀ c ∈ body, c.Spans source) :
    (ofNode source kind parent name signature whole body).isOk = true := by
  refine Except.isOk_bind (SyntaxNode.isOk_textOf h) fun t ht => ?_
  have hproper : t.Proper := by
    cases body with
    | none =>
      cases ht
      exact fun _ hc => nomatch hc
    | some c => exact SyntaxNode.proper_of_text ht
  have hdigest : (Digest.ofBody t).isOk = true :=
    Except.isOk_bind hproper.trim.collapseBlanks.isOk_encode fun _ _ => rfl
  exact Except.isOk_bind hdigest fun _ _ => rfl

theorem isOk_textsOf (h : n.Spans source) (kinds : List Text) : (textsOf source kinds n).isOk = true :=
  Except.isOk_mapM_iff.2 fun _ hc => (h.child (List.mem_filter.1 hc).1).isOk_text

/-! ## Go -/

namespace Go

mutual

theorem spans_of_typeName? {n m : SyntaxNode} (h : n.Spans source) (hm : typeName? n = some m) :
    m.Spans source := by
  match n with
  | ⟨kind, start, stop, field, isNamed, hasError, hasText, children⟩ =>
    rw [typeName?] at hm
    split at hm
    · cases hm
      exact h
    · exact spans_of_typeNameAmong? (fun c hc => h.child hc) hm

theorem spans_of_typeNameAmong? {nodes : List SyntaxNode} {m : SyntaxNode}
    (h : ∀ c ∈ nodes, c.Spans source) (hm : typeNameAmong? nodes = some m) : m.Spans source := by
  match nodes with
  | [] => cases hm
  | n :: rest =>
    obtain ⟨hn, hrest⟩ := List.forall_mem_cons.1 h
    rw [typeNameAmong?, Option.or_eq_some_iff] at hm
    rcases hm with hm | ⟨-, hm⟩
    · exact spans_of_typeName? hn hm
    · exact spans_of_typeNameAmong? hrest hm

end

theorem isOk_receiverType (h : n.Spans source) : (receiverType source n).isOk = true := by
  unfold receiverType
  split
  · rename_i m hm
    obtain ⟨c, hc, hm⟩ := Option.bind_eq_some_iff.1 hm
    have hspans := spans_of_typeName? (h.child (List.mem_of_find?_eq_some hc)) hm
    exact Except.isOk_bind hspans.isOk_text fun _ _ => rfl
  · rfl

theorem isOk_shape (h : n.Spans source) (name : Text) : (shape source n name).isOk = true := by
  unfold shape
  refine Except.isOk_bind (h.isOk_textOf_child? _ _) fun _ _ => ?_
  refine Except.isOk_bind (h.isOk_textOf_child? _ _) fun _ _ => ?_
  cases hresult : n.child? "result" with
  | none => rfl
  | some r => exact Except.isOk_bind (h.child? hresult).isOk_text fun _ _ => rfl

theorem isOk_declared (h : n.Spans source) : (declared source n).isOk = true := by
  have hbody : ∀ c ∈ n.child? "body", c.Spans source := fun _ hc => h.child? hc
  unfold declared
  cases hname : n.child? "name" with
  | none => rfl
  | some nameNode =>
    have htext := (h.child? hname).isOk_text
    dsimp only
    split
    · refine Except.isOk_bind htext fun name _ => Except.isOk_bind (isOk_shape h name) fun _ _ => ?_
      exact Except.isOk_bind (isOk_ofNode _ _ _ _ _ hbody) fun _ _ => rfl
    split
    · refine Except.isOk_bind htext fun name _ => ?_
      refine Except.isOk_bind (h.isOk_textOf_child? _ _) fun _ _ => ?_
      refine Except.isOk_bind (isOk_shape h name) fun _ _ => ?_
      cases hreceiver : n.child? "receiver" with
      | none =>
        refine Except.isOk_bind rfl fun _ _ => ?_
        exact Except.isOk_bind (isOk_ofNode _ _ _ _ _ hbody) fun _ _ => rfl
      | some r =>
        refine Except.isOk_bind (isOk_receiverType (h.child? hreceiver)) fun _ _ => ?_
        exact Except.isOk_bind (isOk_ofNode _ _ _ _ _ hbody) fun _ _ => rfl
    · rfl

theorem isOk_symbols (h : n.Spans source) : (symbols source n).isOk = true :=
  Except.isOk_bind (Except.isOk_mapM_iff.2 fun _ hc => isOk_declared (h.child hc)) fun _ _ => rfl

/-- The tree of a function with a name of one letter, and no parameters or body. -/
def functionAt (start : Nat) : SyntaxNode :=
  { kind := "function_declaration", start, stop := start + 8
    children := [{ kind := "identifier", start := start + 5, stop := start + 6, field := some "name" }] }

end Go

/-! ## JavaScript and TypeScript -/

namespace Script

theorem isOk_modifiers (h : n.Spans source) : (modifiers source n).isOk = true :=
  Except.isOk_bind (isOk_textsOf h _) fun _ _ => rfl

theorem isOk_shape (h : n.Spans source) : (shape source n).isOk = true := by
  unfold shape
  refine Except.isOk_bind (h.isOk_textOf_child? _ _) fun _ _ => ?_
  refine Except.isOk_bind (h.isOk_textOf_child? _ _) fun _ _ => ?_
  exact Except.isOk_bind (h.isOk_textOf_child? _ _) fun _ _ => rfl

theorem isOk_function (h : n.Spans source) (exported : Text) :
    (function source exported n).isOk = true := by
  unfold function
  cases hname : n.child? "name" with
  | none => rfl
  | some nameNode =>
    refine Except.isOk_bind (h.child? hname).isOk_text fun _ _ => ?_
    refine Except.isOk_bind (isOk_modifiers h) fun _ _ => Except.isOk_bind (isOk_shape h) fun _ _ => ?_
    exact Except.isOk_bind (isOk_ofNode _ _ _ _ _ fun _ hc => h.child? hc) fun _ _ => rfl

theorem isOk_method (h : n.Spans source) (owner : Text) : (method source owner n).isOk = true := by
  unfold method
  cases hname : n.child? "name" with
  | none => rfl
  | some nameNode =>
    refine Except.isOk_bind (h.child? hname).isOk_text fun _ _ => ?_
    refine Except.isOk_bind (isOk_modifiers h) fun _ _ => Except.isOk_bind (isOk_shape h) fun _ _ => ?_
    exact Except.isOk_bind (isOk_ofNode _ _ _ _ _ fun _ hc => h.child? hc) fun _ _ => rfl

theorem isOk_classOf (h : n.Spans source) (exported : Text) :
    (classOf source exported n).isOk = true := by
  unfold classOf
  cases hname : n.child? "name" with
  | none => rfl
  | some nameNode =>
    refine Except.isOk_bind (h.child? hname).isOk_text fun name _ => ?_
    refine Except.isOk_bind (h.isOk_textOf_child? _ _) fun _ _ => ?_
    extract_lets keyword body members finish
    have hfinish : ∀ heritage, (finish heritage).isOk = true := by
      intro heritage
      refine Except.isOk_bind (isOk_ofNode _ _ _ _ _ fun _ hc => h.child? hc) fun _ _ => ?_
      refine Except.isOk_bind (Except.isOk_mapM_iff.2 fun c hc => ?_) fun _ _ => rfl
      exact isOk_method (h.below_child? (List.mem_filter.1 hc).1) name
    cases hheritage : n.children.find? (·.isA "class_heritage") with
    | none => exact hfinish _
    | some heritage =>
      have hspans := h.child (List.mem_of_find?_eq_some hheritage)
      exact Except.isOk_bind hspans.isOk_text fun _ _ => hfinish _

/-- The word that declares variables is found whatever the nodes before it are. -/
theorem isOk_variableWord {nodes : List SyntaxNode} (h : ∀ c ∈ nodes, c.Spans source) :
    (variableWord source nodes).isOk = true := by
  induction nodes with
  | nil => rfl
  | cons n rest ih =>
    obtain ⟨hn, hrest⟩ := List.forall_mem_cons.1 h
    unfold variableWord
    split
    · exact ih hrest
    · refine Except.isOk_bind hn.isOk_text fun _ _ => ?_
      split
      · rfl
      · exact ih hrest

theorem isOk_arrowFunction (h : n.Spans source) (exported word : Text) (whole : SyntaxNode) :
    (arrowFunction source exported word whole n).isOk = true := by
  unfold arrowFunction
  split
  · rename_i nameNode value hname hvalue
    have hspans := h.child? hvalue
    split
    · rfl
    · refine Except.isOk_bind (h.child? hname).isOk_text fun name _ => ?_
      extract_lets finish
      have hfinish : ∀ parameters, (finish parameters).isOk = true := by
        intro parameters
        refine Except.isOk_bind (hspans.isOk_textOf_child? _ _) fun _ _ => ?_
        refine Except.isOk_bind (hspans.isOk_textOf_child? _ _) fun _ _ => ?_
        refine Except.isOk_bind (isOk_modifiers hspans) fun _ _ => ?_
        exact Except.isOk_bind (isOk_ofNode _ _ _ _ _ fun _ hc => hspans.child? hc) fun _ _ => rfl
      cases hlist : value.child? "parameters" with
      | some list => exact Except.isOk_bind (hspans.child? hlist).isOk_text fun _ _ => hfinish _
      | none =>
        cases hsingle : value.child? "parameter" with
        | some single => exact Except.isOk_bind (hspans.child? hsingle).isOk_text fun _ _ => hfinish _
        | none => exact hfinish _
  · rfl

theorem isOk_arrowFunctions (h : n.Spans source) (exported : Text) :
    (arrowFunctions source exported n).isOk = true := by
  unfold arrowFunctions
  refine Except.isOk_bind (isOk_variableWord fun _ hc => h.child hc) fun word _ => ?_
  refine Except.isOk_bind (Except.isOk_mapM_iff.2 fun c hc => ?_) fun _ _ => rfl
  exact isOk_arrowFunction (h.child (List.mem_filter.1 hc).1) exported word n

theorem isOk_declared (h : n.Spans source) (exported : Text) :
    (declared source exported n).isOk = true := by
  unfold declared
  split
  · exact isOk_function h exported
  split
  · exact isOk_classOf h exported
  split
  · exact isOk_arrowFunctions h exported
  · rfl

theorem isOk_among {nodes : List SyntaxNode} (h : ∀ c ∈ nodes, c.Spans source) (exported : Text) :
    (among source exported nodes).isOk = true := by
  fun_induction among source exported nodes with
  | case1 => rfl
  | case2 exported n rest finish hexport later inner =>
    obtain ⟨hn, hrest⟩ := List.forall_mem_cons.1 h
    have hfinish : ∀ here, (finish here).isOk = true := fun _ =>
      Except.isOk_bind (later hrest) fun _ _ => rfl
    refine Except.isOk_bind (Except.isOk_bind (isOk_textsOf hn _) fun _ _ => rfl) fun words _ => ?_
    exact Except.isOk_bind (inner words fun _ hc => hn.child hc) fun _ _ => hfinish _
  | case3 exported n rest finish hexport later =>
    obtain ⟨hn, hrest⟩ := List.forall_mem_cons.1 h
    have hfinish : ∀ here, (finish here).isOk = true := fun _ =>
      Except.isOk_bind (later hrest) fun _ _ => rfl
    exact Except.isOk_bind (isOk_declared hn exported) fun _ _ => hfinish _

theorem isOk_symbols (h : n.Spans source) : (symbols source n).isOk = true :=
  isOk_among (fun _ hc => h.child hc) []

end Script

/-! ## Python -/

namespace Python

theorem spans_core {d : Definition} (h : n.Spans source) (hd : Definition.ofNode? n = some d) :
    d.core.Spans source ∧ ∀ c ∈ d.decorators, c.Spans source := by
  unfold Definition.ofNode? at hd
  split at hd
  · cases hd
    exact ⟨h, fun _ hc => nomatch hc⟩
  · split at hd
    · obtain ⟨core, hcore, rfl⟩ := Option.map_eq_some_iff.1 hd
      refine ⟨h.child (List.mem_reverse.1 (List.mem_of_find?_eq_some hcore)), fun c hc => ?_⟩
      exact h.child (List.mem_filter.1 hc).1
    · cases hd

theorem isOk_functionSignature (h : n.Spans source) (name : Text) :
    (functionSignature source n name).isOk = true := by
  unfold functionSignature
  cases hparameters : n.child? "parameters" with
  | none => exact Except.isOk_bind h.isOk_text fun _ _ => rfl
  | some parameters =>
    refine Except.isOk_bind (h.isOk_textOf_child? _ _) fun _ _ => ?_
    refine Except.isOk_bind (h.child? hparameters).isOk_text fun _ _ => ?_
    cases hreturns : n.child? "return_type" with
    | none => rfl
    | some returns => exact Except.isOk_bind (h.child? hreturns).isOk_text fun _ _ => rfl

theorem isOk_classSignature (h : n.Spans source) (name : Text) :
    (classSignature source n name).isOk = true := by
  refine Except.isOk_bind (h.isOk_textOf_child? _ _) fun _ _ => ?_
  exact Except.isOk_bind (h.isOk_textOf_child? _ _) fun _ _ => rfl

theorem isOk_toSymbol {d : Definition} (hcore : d.core.Spans source)
    (hdecorators : ∀ c ∈ d.decorators, c.Spans source) (owner : Option Text) (name : Text) :
    (d.toSymbol source owner name).isOk = true := by
  have hbody : ∀ c ∈ d.body?, c.Spans source := fun _ hc => hcore.child? hc
  unfold Definition.toSymbol
  refine Except.isOk_bind (Except.isOk_mapM_iff.2 fun c hc => (hdecorators c hc).isOk_text) fun _ _ => ?_
  dsimp only
  split
  · exact Except.isOk_bind (isOk_classSignature hcore name) fun _ _ => isOk_ofNode _ _ _ _ _ hbody
  · exact Except.isOk_bind (isOk_functionSignature hcore name) fun _ _ => isOk_ofNode _ _ _ _ _ hbody

theorem isOk_among {nodes : List SyntaxNode} (h : ∀ c ∈ nodes, c.Spans source) (owner : Option Text) :
    (among source owner nodes).isOk = true := by
  fun_induction among source owner nodes with
  | case1 => rfl
  | case2 owner n rest _ ih => exact ih (List.forall_mem_cons.1 h).2
  | case3 owner n rest d _ _ ih => exact ih (List.forall_mem_cons.1 h).2
  | case4 owner n rest d hd nameNode hname inner later =>
    obtain ⟨hn, hrest⟩ := List.forall_mem_cons.1 h
    obtain ⟨hcore, hdecorators⟩ := spans_core hn hd
    refine Except.isOk_bind (hcore.child? hname).isOk_text fun name _ => ?_
    refine Except.isOk_bind (isOk_toSymbol hcore hdecorators owner name) fun _ _ => ?_
    refine Except.isOk_bind (inner name fun _ hc => hcore.below_child? hc) fun _ _ => ?_
    exact Except.isOk_bind (later hrest) fun _ _ => rfl

theorem isOk_symbols (h : n.Spans source) : (symbols source n).isOk = true :=
  isOk_among (fun _ hc => h.child hc) none

end Python

/-- Every tree of a source has symbols, in each language with a grammar. -/
theorem isOk_extract {language : Language} (h : n.Spans source)
    (hlanguage : ∀ name, language ≠ .other name) : (extract language source n).isOk = true := by
  cases language with
  | python => exact Python.isOk_symbols h
  | javascript => exact Script.isOk_symbols h
  | typescript => exact Script.isOk_symbols h
  | go => exact Go.isOk_symbols h
  | other name => exact absurd rfl (hlanguage name)

end Symbol

end ChangeReview
