import ChangeReview.Proofs.Symbol.Extraction
import ChangeReview.Proofs.Symbol.Pairing

/-!
# Symbols come in the order of the source

In a tree whose siblings follow one another inside their parent, every walk from a declaration to its
members and on to the next sibling moves forward in the source. So the lines of the symbols do not
decrease, and duplicates that are paired by position are paired in the order of both sources.
-/

namespace ChangeReview

/-! ## Trees in order -/

namespace SyntaxNode

/-- The node does not end before it starts, its children lie inside it, and each child ends before the
next ones start. Of siblings that overlap, the first could hold a declaration that starts after the second. -/
def HoldsInOrder (n : SyntaxNode) : Prop :=
  n.start ≤ n.stop ∧ (∀ c ∈ n.children, n.start ≤ c.start ∧ c.stop ≤ n.stop) ∧
    n.children.Pairwise fun c d => c.stop ≤ d.start

instance (n : SyntaxNode) : Decidable n.HoldsInOrder := inferInstanceAs (Decidable (_ ∧ _ ∧ _))

/-- Every node of the tree holds its children in order. -/
def LaidOut (root : SyntaxNode) : Prop := ∀ p ∈ Place.all root, p.node.HoldsInOrder

instance (root : SyntaxNode) : Decidable root.LaidOut := inferInstanceAs (Decidable (∀ p ∈ _, _))

/-- Nodes that follow one another from one position to another, each laid out. -/
inductive Row : ℕ → ℕ → List SyntaxNode → Prop where
  | nil {a b : ℕ} (h : a ≤ b) : Row a b []
  | cons {a b : ℕ} {n : SyntaxNode} {rest : List SyntaxNode} (hstart : a ≤ n.start) (hn : n.LaidOut)
      (hrest : Row n.stop b rest) : Row a b (n :: rest)

variable {n c : SyntaxNode} {nodes : List SyntaxNode} {a b a' b' : ℕ}

theorem laidOut_iff : n.LaidOut ↔ n.HoldsInOrder ∧ ∀ c ∈ n.children, c.LaidOut :=
  Place.forall_mem_all_iff HoldsInOrder n

theorem LaidOut.start_le_stop (h : n.LaidOut) : n.start ≤ n.stop := (laidOut_iff.1 h).1.1

theorem LaidOut.child (h : n.LaidOut) (hc : c ∈ n.children) : c.LaidOut := (laidOut_iff.1 h).2 c hc

theorem Row.le (h : Row a b nodes) : a ≤ b := by
  induction h with
  | nil h => exact h
  | cons hstart hn _ ih => exact hstart.trans (hn.start_le_stop.trans ih)

theorem Row.widen (h : Row a b nodes) (ha : a' ≤ a) (hb : b ≤ b') : Row a' b' nodes := by
  induction h generalizing a' with
  | nil h => exact .nil (ha.trans (h.trans hb))
  | cons hstart hn _ ih => exact .cons (ha.trans hstart) hn (ih le_rfl hb)

theorem Row.filter (h : Row a b nodes) (p : SyntaxNode → Bool) : Row a b (nodes.filter p) := by
  induction h with
  | nil h => exact .nil h
  | cons hstart hn _ ih =>
    rw [List.filter_cons]
    split
    · exact .cons hstart hn ih
    · exact ih.widen (hstart.trans hn.start_le_stop) le_rfl

theorem row_of_pairwise (hab : a ≤ b) (hinside : ∀ c ∈ nodes, a ≤ c.start ∧ c.stop ≤ b)
    (hapart : nodes.Pairwise fun c d => c.stop ≤ d.start) (hnodes : ∀ c ∈ nodes, c.LaidOut) :
    Row a b nodes := by
  induction nodes generalizing a with
  | nil => exact .nil hab
  | cons n rest ih =>
    obtain ⟨⟨hstart, hstop⟩, hinside⟩ := List.forall_mem_cons.1 hinside
    obtain ⟨hnext, hapart⟩ := List.pairwise_cons.1 hapart
    obtain ⟨hn, hnodes⟩ := List.forall_mem_cons.1 hnodes
    refine .cons hstart hn (ih hstop ?_ hapart hnodes)
    exact fun c hc => ⟨hnext c hc, (hinside c hc).2⟩

/-- The children of a node fill it in a row. -/
theorem LaidOut.row (h : n.LaidOut) : Row n.start n.stop n.children := by
  obtain ⟨⟨hle, hinside, hapart⟩, hchildren⟩ := laidOut_iff.1 h
  exact row_of_pairwise hle hinside hapart hchildren

theorem LaidOut.row_of_mem (h : n.LaidOut) (hc : c ∈ n.children) (hrow : Row c.start c.stop nodes) :
    Row n.start n.stop nodes := by
  obtain ⟨hstart, hstop⟩ := (laidOut_iff.1 h).1.2.1 c hc
  exact hrow.widen hstart hstop

/-- The nodes of a body stand in a row inside the node that has the body. -/
theorem LaidOut.row_child? (h : n.LaidOut) (field : Text) :
    Row n.start n.stop (((n.child? field).map SyntaxNode.children).getD []) := by
  cases hc : n.child? field with
  | none => exact .nil h.start_le_stop
  | some c =>
    have hmem : c ∈ n.children := List.mem_of_find?_eq_some hc
    exact h.row_of_mem hmem (h.child hmem).row

theorem lineAt_mono (source : Bytes) (h : a ≤ b) : lineAt source a ≤ lineAt source b :=
  Nat.succ_le_succ ((List.take_sublist_take_left h).count_le _)

end SyntaxNode

/-! ## Symbols in order -/

namespace Symbol

open SyntaxNode (Row LaidOut lineAt lineAt_mono)

variable {source : Bytes} {n : SyntaxNode} {nodes : List SyntaxNode} {s : Symbol}
  {here more : List Symbol} {a b c : ℕ}

/-- The symbol has the lines of the node. -/
def StandsOn (source : Bytes) (n : SyntaxNode) (s : Symbol) : Prop :=
  s.startLine = n.startLine source ∧ s.endLine = n.endLine source

/-- Symbols whose lines lie between two positions, in the order of their first lines. -/
structure Arranged (source : Bytes) (a b : ℕ) (symbols : List Symbol) : Prop where
  sorted : symbols.Pairwise fun s t => s.startLine ≤ t.startLine
  after : ∀ s ∈ symbols, (lineAt source a : ℤ) ≤ s.startLine
  proper : ∀ s ∈ symbols, s.startLine ≤ s.endLine
  before : ∀ s ∈ symbols, s.endLine ≤ (lineAt source b : ℤ)

theorem arranged_nil : Arranged source a b [] :=
  ⟨List.Pairwise.nil, List.forall_mem_nil _, List.forall_mem_nil _, List.forall_mem_nil _⟩

/-- A declaration may come before the symbols inside it. -/
theorem Arranged.cons (h : Arranged source n.start n.stop here) (hs : StandsOn source n s)
    (hn : n.start ≤ n.stop) : Arranged source n.start n.stop (s :: here) where
  sorted := List.pairwise_cons.2 ⟨fun t ht => hs.1.trans_le (h.after t ht), h.sorted⟩
  after := List.forall_mem_cons.2 ⟨hs.1.ge, h.after⟩
  proper := by
    have hlines : (n.startLine source : ℤ) ≤ n.endLine source := Int.ofNat_le.2 (lineAt_mono source hn)
    exact List.forall_mem_cons.2 ⟨hs.1.trans_le (hlines.trans hs.2.ge), h.proper⟩
  before := List.forall_mem_cons.2 ⟨hs.2.le, h.before⟩

/-- Symbols may follow those that end before them. -/
theorem Arranged.append (h : Arranged source a b here) (hmore : Arranged source b c more)
    (hab : a ≤ b) (hbc : b ≤ c) : Arranged source a c (here ++ more) where
  sorted := by
    refine List.pairwise_append.2 ⟨h.sorted, hmore.sorted, fun s hs t ht => ?_⟩
    calc s.startLine
      _ ≤ s.endLine := h.proper s hs
      _ ≤ lineAt source b := h.before s hs
      _ ≤ t.startLine := hmore.after t ht
  after := by
    have hlines : (lineAt source a : ℤ) ≤ lineAt source b := Int.ofNat_le.2 (lineAt_mono source hab)
    exact List.forall_mem_append.2 ⟨h.after, fun t ht => hlines.trans (hmore.after t ht)⟩
  proper := List.forall_mem_append.2 ⟨h.proper, hmore.proper⟩
  before := by
    have hlines : (lineAt source b : ℤ) ≤ lineAt source c := Int.ofNat_le.2 (lineAt_mono source hbc)
    exact List.forall_mem_append.2 ⟨fun s hs => (h.before s hs).trans hlines, hmore.before⟩

/-- Several symbols of one node share its lines. -/
theorem arranged_of_standsOn (hn : n.start ≤ n.stop) (h : ∀ s ∈ here, StandsOn source n s) :
    Arranged source n.start n.stop here := by
  induction here with
  | nil => exact arranged_nil
  | cons s here ih =>
    obtain ⟨hs, hhere⟩ := List.forall_mem_cons.1 h
    exact (ih hhere).cons hs hn

/-- The symbols of the first node of a row come before those of the others. -/
theorem Arranged.append_row {rest : List SyntaxNode} (h : Arranged source n.start n.stop here)
    (hstart : a ≤ n.start) (hn : n.LaidOut) (hrest : Row n.stop b rest)
    (hmore : Arranged source n.stop b more) : Arranged source a b (here ++ more) :=
  (arranged_nil.append h hstart hn.start_le_stop).append hmore (hstart.trans hn.start_le_stop) hrest.le

theorem gives_ofNode (kind : SymbolKind) (parent : Option Text) (name signature : Text)
    (body : Option SyntaxNode) :
    Except.Gives (StandsOn source n) (ofNode source kind parent name signature n body) :=
  Except.gives_bind fun _ _ => Except.gives_bind fun _ _ => Except.gives_ok ⟨rfl, rfl⟩

theorem gives_single (h : n.LaidOut) (kind : SymbolKind) (parent : Option Text) (name signature : Text)
    (body : Option SyntaxNode) :
    Except.Gives (Arranged source n.start n.stop)
      (ofNode source kind parent name signature n body >>= fun s => pure [s]) :=
  Except.gives_bind fun s hs => Except.gives_ok
    (arranged_nil.cons (gives_ofNode kind parent name signature body s hs) h.start_le_stop)

/-- A row of nodes gives its symbols in order if each node does. -/
theorem gives_row {f : SyntaxNode → Except Failure (List Symbol)} (h : Row a b nodes)
    (hf : ∀ n : SyntaxNode, n.LaidOut → Except.Gives (Arranged source n.start n.stop) (f n)) :
    Except.Gives (fun found => Arranged source a b found.flatten) (nodes.mapM f) := by
  induction h with
  | nil _ => exact Except.gives_ok arranged_nil
  | cons hstart hn hrest ih =>
    rw [List.mapM_cons]
    refine Except.gives_bind fun first hfirst => Except.gives_bind fun rest hrest' => ?_
    refine Except.gives_ok ?_
    rw [List.flatten_cons]
    exact (hf _ hn first hfirst).append_row hstart hn hrest (ih rest hrest')

/-! ## Go -/

namespace Go

theorem gives_declared (h : n.LaidOut) :
    Except.Gives (Arranged source n.start n.stop) (declared source n) := by
  unfold declared
  cases n.child? "name" with
  | none => exact Except.gives_ok arranged_nil
  | some nameNode =>
    dsimp only
    split
    · exact Except.gives_bind fun _ _ => Except.gives_bind fun _ _ => gives_single h _ _ _ _ _
    split
    · refine Except.gives_bind fun _ _ => Except.gives_bind fun _ _ => Except.gives_bind fun _ _ => ?_
      cases n.child? "receiver" with
      | none => exact Except.gives_bind fun _ _ => gives_single h _ _ _ _ _
      | some r => exact Except.gives_bind fun _ _ => gives_single h _ _ _ _ _
    · exact Except.gives_ok arranged_nil

theorem gives_symbols (h : n.LaidOut) :
    Except.Gives (Arranged source n.start n.stop) (symbols source n) :=
  Except.gives_bind fun found hfound =>
    Except.gives_ok (gives_row h.row (fun _ hn => gives_declared hn) found hfound)

end Go

/-! ## JavaScript and TypeScript -/

namespace Script

theorem gives_function (h : n.LaidOut) (exported : Text) :
    Except.Gives (Arranged source n.start n.stop) (function source exported n) := by
  unfold function
  cases n.child? "name" with
  | none => exact Except.gives_ok arranged_nil
  | some nameNode =>
    refine Except.gives_bind fun _ _ => Except.gives_bind fun _ _ => Except.gives_bind fun _ _ => ?_
    exact gives_single h _ _ _ _ _

theorem gives_method (h : n.LaidOut) (owner : Text) :
    Except.Gives (Arranged source n.start n.stop) (method source owner n) := by
  unfold method
  cases n.child? "name" with
  | none => exact Except.gives_ok arranged_nil
  | some nameNode =>
    refine Except.gives_bind fun _ _ => Except.gives_bind fun _ _ => Except.gives_bind fun _ _ => ?_
    exact gives_single h _ _ _ _ _

theorem gives_classOf (h : n.LaidOut) (exported : Text) :
    Except.Gives (Arranged source n.start n.stop) (classOf source exported n) := by
  unfold classOf
  cases n.child? "name" with
  | none => exact Except.gives_ok arranged_nil
  | some nameNode =>
    refine Except.gives_bind fun name _ => Except.gives_bind fun _ _ => ?_
    extract_lets keyword body members finish
    have hmembers : Row n.start n.stop members := (h.row_child? "body").filter _
    have hfinish : ∀ heritage, Except.Gives (Arranged source n.start n.stop) (finish heritage) := by
      intro heritage
      refine Except.gives_bind fun s hs => Except.gives_bind fun found hfound => Except.gives_ok ?_
      have hmethods := gives_row hmembers (fun _ hm => gives_method hm name) found hfound
      exact hmethods.cons (gives_ofNode _ _ _ _ _ s hs) h.start_le_stop
    cases n.children.find? (·.isA "class_heritage") with
    | none => exact hfinish _
    | some heritage => exact Except.gives_bind fun _ _ => hfinish _

/-- An arrow function has the lines of the whole declaration, which it may share with others. -/
theorem gives_arrowFunction (exported word : Text) (declarator : SyntaxNode) :
    Except.Gives (fun found => ∀ s ∈ found, StandsOn source n s)
      (arrowFunction source exported word n declarator) := by
  unfold arrowFunction
  split
  · rename_i nameNode value _ _
    split
    · exact Except.gives_ok (List.forall_mem_nil _)
    · refine Except.gives_bind fun name _ => ?_
      extract_lets finish
      have hfinish : ∀ parameters, Except.Gives (fun found => ∀ s ∈ found, StandsOn source n s)
          (finish parameters) := by
        intro parameters
        refine Except.gives_bind fun _ _ => Except.gives_bind fun _ _ => Except.gives_bind fun _ _ => ?_
        refine Except.gives_bind fun s hs => Except.gives_ok ?_
        exact List.forall_mem_singleton.2 (gives_ofNode _ _ _ _ _ s hs)
      cases value.child? "parameters" with
      | some list => exact Except.gives_bind fun _ _ => hfinish _
      | none =>
        cases value.child? "parameter" with
        | some single => exact Except.gives_bind fun _ _ => hfinish _
        | none => exact hfinish _
  · exact Except.gives_ok (List.forall_mem_nil _)

theorem gives_arrowFunctions (h : n.LaidOut) (exported : Text) :
    Except.Gives (Arranged source n.start n.stop) (arrowFunctions source exported n) := by
  refine Except.gives_bind fun word _ => Except.gives_bind fun found hfound => Except.gives_ok ?_
  refine arranged_of_standsOn h.start_le_stop fun s hs => ?_
  obtain ⟨group, hgroup, hs⟩ := List.mem_flatten.1 hs
  exact Except.gives_mapM (fun c _ => gives_arrowFunction exported word c) found hfound group hgroup s hs

theorem gives_declared (h : n.LaidOut) (exported : Text) :
    Except.Gives (Arranged source n.start n.stop) (declared source exported n) := by
  unfold declared
  split
  · exact gives_function h exported
  split
  · exact gives_classOf h exported
  split
  · exact gives_arrowFunctions h exported
  · exact Except.gives_ok arranged_nil

/-- Under an export the walk stays inside the statement. -/
theorem gives_among (exported : Text) (nodes : List SyntaxNode) :
    ∀ {a b : ℕ}, Row a b nodes → Except.Gives (Arranged source a b) (among source exported nodes) := by
  fun_induction among source exported nodes with
  | case1 => exact fun _ => Except.gives_ok arranged_nil
  | case2 exported n rest finish hexport later =>
    rename_i inner
    rintro a b (_ | ⟨hstart, hn, hrest⟩)
    refine Except.gives_bind fun words _ => Except.gives_bind fun here hhere => ?_
    refine Except.gives_bind fun more hmore => Except.gives_ok ?_
    exact (inner words hn.row here hhere).append_row hstart hn hrest (later hrest more hmore)
  | case3 exported n rest finish hexport =>
    rename_i later
    rintro a b (_ | ⟨hstart, hn, hrest⟩)
    refine Except.gives_bind fun here hhere => Except.gives_bind fun more hmore => Except.gives_ok ?_
    exact (gives_declared hn exported here hhere).append_row hstart hn hrest (later hrest more hmore)

theorem gives_symbols (h : n.LaidOut) :
    Except.Gives (Arranged source n.start n.stop) (symbols source n) := gives_among [] _ h.row

end Script

/-! ## Python -/

namespace Python

theorem whole_of_ofNode? {d : Definition} (hd : Definition.ofNode? n = some d) : d.whole = n := by
  unfold Definition.ofNode? at hd
  split at hd
  · cases hd
    rfl
  · split at hd
    · obtain ⟨core, -, rfl⟩ := Option.map_eq_some_iff.1 hd
      rfl
    · cases hd

/-- The members of a definition lie inside it, also where decorators wrap it. -/
theorem row_inside {d : Definition} (h : n.LaidOut) (hd : Definition.ofNode? n = some d) :
    Row n.start n.stop d.inside := by
  unfold Definition.ofNode? at hd
  split at hd
  · cases hd
    exact h.row_child? "body"
  · split at hd
    · obtain ⟨core, hcore, rfl⟩ := Option.map_eq_some_iff.1 hd
      have hmem := List.mem_reverse.1 (List.mem_of_find?_eq_some hcore)
      exact h.row_of_mem hmem ((h.child hmem).row_child? "body")
    · cases hd

theorem gives_toSymbol (owner : Option Text) (d : Definition) (name : Text) :
    Except.Gives (StandsOn source d.whole) (d.toSymbol source owner name) := by
  refine Except.gives_bind fun decorators _ => ?_
  dsimp only
  split
  · exact Except.gives_bind fun _ _ => gives_ofNode _ _ _ _ _
  · exact Except.gives_bind fun _ _ => gives_ofNode _ _ _ _ _

theorem gives_among (owner : Option Text) (nodes : List SyntaxNode) :
    ∀ {a b : ℕ}, Row a b nodes → Except.Gives (Arranged source a b) (among source owner nodes) := by
  fun_induction among source owner nodes with
  | case1 => exact fun _ => Except.gives_ok arranged_nil
  | case2 owner n rest _ later =>
    rintro a b (_ | ⟨hstart, hn, hrest⟩)
    exact later (hrest.widen (hstart.trans hn.start_le_stop) le_rfl)
  | case3 owner n rest d _ _ later =>
    rintro a b (_ | ⟨hstart, hn, hrest⟩)
    exact later (hrest.widen (hstart.trans hn.start_le_stop) le_rfl)
  | case4 owner n rest d hd nameNode hname inner later =>
    rintro a b (_ | ⟨hstart, hn, hrest⟩)
    refine Except.gives_bind fun name _ => Except.gives_bind fun s hs => ?_
    refine Except.gives_bind fun members hmembers => Except.gives_bind fun more hmore => ?_
    refine Except.gives_ok ?_
    have hlines : StandsOn source n s := whole_of_ofNode? hd ▸ gives_toSymbol owner d name s hs
    have hdefinition : Arranged source n.start n.stop (s :: members) :=
      (inner name (row_inside hn hd) members hmembers).cons hlines hn.start_le_stop
    exact hdefinition.append_row hstart hn hrest (later hrest more hmore)

theorem gives_symbols (h : n.LaidOut) :
    Except.Gives (Arranged source n.start n.stop) (symbols source n) := gives_among none _ h.row

end Python

theorem gives_extract (language : Language) (h : n.LaidOut) :
    Except.Gives (Arranged source n.start n.stop) (extract language source n) := by
  cases language with
  | python => exact Python.gives_symbols h
  | javascript => exact Script.gives_symbols h
  | typescript => exact Script.gives_symbols h
  | go => exact Go.gives_symbols h
  | other name => exact fun _ hsymbols => by cases hsymbols

/-! ## Pairs by position -/

variable {old new olds news : List Symbol} {key : Key} {m : Match}

/-- A match under the key that is not made for a common signature: a pair by position, or a symbol alone. -/
def Match.isPositional (key : Key) (m : Match) : Bool :=
  (m.old.or m.new).any (·.key == key) && !m.keepsSignature key

/-- One match comes before another: on each side its symbol starts no later, and a side that is used up
stays so. -/
structure Match.Precedes (m m' : Match) : Prop where
  lines : ∀ (side : Side) (s s' : Symbol), side.of? m = some s → side.of? m' = some s' →
    s.startLine ≤ s'.startLine
  used : ∀ side : Side, side.of? m = none → side.of? m' = none

theorem Match.Under.any_key {k : Key} (h : m.Under k) :
    (m.old.or m.new).any (·.key == key) = (k == key) := by
  cases hold : m.old with
  | some o => simp [h.old o hold]
  | none =>
    cases hnew : m.new with
    | some n => simp [h.new n hnew]
    | none => simpa [hold, hnew] using h.side

/-- The matches by position are the pairing of what equal signatures leave. -/
theorem filter_isPositional (key : Key) (old new : List Symbol) :
    (matchAll old new).filter (Match.isPositional key) =
      let left := (pairSignatures (old.filter (·.key == key)) (new.filter (·.key == key))).2
      pairPositions left.1 left.2 := by
  rw [filter_matchAll]
  swap
  · intro m hm k hunder
    rw [Match.isPositional, hunder.any_key, Bool.and_eq_true, beq_iff_eq] at hm
    exact hm.1
  unfold matchGroup
  dsimp only
  have hkey : ∀ o ∈ old.filter (·.key == key), o.key = key := fun o ho =>
    beq_iff_eq.1 (List.mem_filter.1 ho).2
  rw [List.filter_append, List.filter_eq_nil_iff.2, List.nil_append, List.filter_eq_self.2]
  · intro m hm
    have hunder : m.Under key := under_of_mem_matchGroup (List.mem_append_right _ hm)
    rw [Match.isPositional, hunder.any_key, keepsSignature_of_mem_pairPositions key hm]
    simp
  · intro m hm
    obtain ⟨p, hp, rfl⟩ := List.mem_map.1 hm
    rw [Match.isPositional, keepsSignature_of_mem_pairSignatures hkey hp]
    simp

/-- What equal signatures leave keeps its order. -/
theorem pairSignatures_left_sublist (olds news : List Symbol) :
    (pairSignatures olds news).2.1.Sublist olds ∧ (pairSignatures olds news).2.2.Sublist news := by
  induction olds generalizing news with
  | nil => exact ⟨List.Sublist.refl _, List.Sublist.refl _⟩
  | cons o olds ih =>
    rw [pairSignatures]
    cases hn : takeFirst? (fun n => o.signature == n.signature) news with
    | none => exact ⟨(ih news).1.cons_cons o, (ih news).2⟩
    | some found =>
      obtain ⟨n, rest⟩ := found
      obtain ⟨before, after, rfl, rfl, -, -⟩ := takeFirst?_eq_some hn
      obtain ⟨hold, hnew⟩ := ih (before ++ after)
      exact ⟨hold.cons o, hnew.trans ((List.sublist_cons_self n after).append_left before)⟩

theorem pairwise_pairPositions (hold : olds.Pairwise fun s t => s.startLine ≤ t.startLine)
    (hnew : news.Pairwise fun s t => s.startLine ≤ t.startLine) :
    (pairPositions olds news).Pairwise Match.Precedes := by
  fun_induction pairPositions olds news with
  | case1 o olds n news ih =>
    obtain ⟨ho, hold⟩ := List.pairwise_cons.1 hold
    obtain ⟨hn, hnew⟩ := List.pairwise_cons.1 hnew
    refine List.pairwise_cons.2 ⟨fun m hm => ?_, ih hold hnew⟩
    refine ⟨fun side s s' hs hs' => ?_, fun side hs => ?_⟩
    · have hmem : s' ∈ side.pick olds news :=
        filterMap_pairPositions side olds news ▸ List.mem_filterMap.2 ⟨m, hm, hs'⟩
      cases side with
      | old =>
        cases hs
        exact ho s' hmem
      | new =>
        cases hs
        exact hn s' hmem
    · cases side <;> cases hs
  | case2 olds news hboth =>
    -- One side is used up: what is left of the other stands alone in its order.
    cases olds with
    | nil =>
      rw [List.map_nil, List.nil_append, List.pairwise_map]
      refine hnew.imp fun hle => ⟨fun side s s' hs hs' => ?_, fun side hs => ?_⟩
      · cases side <;> cases hs
        cases hs'
        exact hle
      · cases side with
        | old => rfl
        | new => cases hs
    | cons o olds =>
      cases news with
      | cons n news => exact (hboth o olds n news rfl rfl).elim
      | nil =>
        rw [List.map_nil, List.append_nil, List.pairwise_map]
        refine hold.imp fun hle => ⟨fun side s s' hs hs' => ?_, fun side hs => ?_⟩
        · cases side <;> cases hs
          cases hs'
          exact hle
        · cases side with
          | old => cases hs
          | new => rfl

/-- The matching by position of symbols in order goes through both sides in order. -/
theorem pairwise_isPositional (hold : old.Pairwise fun s t => s.startLine ≤ t.startLine)
    (hnew : new.Pairwise fun s t => s.startLine ≤ t.startLine) (key : Key) :
    ((matchAll old new).filter (Match.isPositional key)).Pairwise Match.Precedes := by
  rw [filter_isPositional]
  obtain ⟨hleft, hright⟩ :=
    pairSignatures_left_sublist (old.filter (·.key == key)) (new.filter (·.key == key))
  exact pairwise_pairPositions (hold.sublist (hleft.trans List.filter_sublist))
    (hnew.sublist (hright.trans List.filter_sublist))

/-! ## The order of the source -/

/-- **Source order.** Take a tree in which children lie inside their parent, one after another. In each
language with a grammar its symbols can be read if its nodes span whole characters. Whatever symbols are
read, their first lines do not decrease and none ends before its first line. Matched with the symbols of
any other such tree, those under one key that no common signature pairs are paired in the order of both
sources, from the first on until one side is used up. -/
theorem extract_follows_source {language : Language} {source : Bytes} {root : SyntaxNode}
    (hroot : root.LaidOut) :
    ((∀ name, language ≠ .other name) → root.Spans source →
      ∃ symbols, extract language source root = .ok symbols) ∧
    ∀ symbols, extract language source root = .ok symbols →
      (symbols.Pairwise fun s t => s.startLine ≤ t.startLine) ∧
      (∀ s ∈ symbols, s.startLine ≤ s.endLine) ∧
      ∀ (language' : Language) (source' : Bytes) (root' : SyntaxNode) (symbols' : List Symbol),
        root'.LaidOut → extract language' source' root' = .ok symbols' →
          ∀ key, ((matchAll symbols symbols').filter (Match.isPositional key)).Pairwise
            Match.Precedes := by
  refine ⟨fun hlanguage hspans => Except.isOk_iff.1 (isOk_extract hspans hlanguage), ?_⟩
  intro symbols hsymbols
  have harranged := gives_extract language hroot symbols hsymbols
  refine ⟨harranged.sorted, harranged.proper, ?_⟩
  intro language' source' root' symbols' hroot' hsymbols' key
  have harranged' := gives_extract language' hroot' symbols' hsymbols'
  exact pairwise_isPositional harranged.sorted harranged'.sorted key

/-- The tree of a decorated class with two methods of one name. -/
def overloadedClass : SyntaxNode :=
  let leaf (kind : Text) (start stop : Nat) (field : Text) : SyntaxNode :=
    { kind, start, stop, field := some field }
  let method (start : Nat) : SyntaxNode :=
    { kind := "function_definition", start, stop := start + 10
      children := [leaf "identifier" (start + 4) (start + 5) "name",
        leaf "parameters" (start + 5) (start + 8) "parameters"] }
  { kind := "module", start := 0, stop := 36
    children :=
      [{ kind := "decorated_definition", start := 0, stop := 35
         children :=
          [{ kind := "decorator", start := 0, stop := 2 },
            { kind := "class_definition", start := 3, stop := 35
              children := [leaf "identifier" 9 10 "name",
                { kind := "block", start := 13, stop := 35, field := some "body"
                  children := [method 13, method 25] }] }] }] }

/-- The source of the class, the methods having a parameter each. -/
def overloadedSource (first second : Text) : Bytes :=
  ("@d\nclass A:\n def f(" ++ first ++ "):0\n def f(" ++ second ++ "):0\n").flatMap CodePoint.utf8

/-- The class has the line of its decorator, and two methods that change their parameters are paired in
order. -/
theorem extract_follows_source_overloads :
    overloadedClass.LaidOut ∧ ∃ old new,
      extract .python (overloadedSource "a" "b") overloadedClass = .ok old ∧
      extract .python (overloadedSource "c" "d") overloadedClass = .ok new ∧
      old.map (fun s => (s.startLine, s.endLine)) = [(1, 4), (3, 3), (4, 4)] ∧
      (old.Pairwise fun s t => s.startLine ≤ t.startLine) ∧ (∀ s ∈ old, s.startLine ≤ s.endLine) ∧
      let positional := (matchAll old new).filter (Match.isPositional ⟨"f", .method, some "A"⟩)
      positional.map (fun m => (m.old.map startLine, m.new.map startLine))
        = [(some 3, some 3), (some 4, some 4)] ∧ positional.Pairwise Match.Precedes := by
  have htree : overloadedClass.LaidOut := by decide +kernel
  have hreads : ∀ source, overloadedClass.Spans source →
      ∃ symbols, extract .python source overloadedClass = .ok symbols := fun source =>
    (extract_follows_source htree).1 fun _ h => by cases h
  obtain ⟨old, hold⟩ := hreads (overloadedSource "a" "b") (by decide +kernel)
  obtain ⟨new, hnew⟩ := hreads (overloadedSource "c" "d") (by decide +kernel)
  obtain ⟨hsorted, hproper, hpaired⟩ := (extract_follows_source htree).2 old hold
  have hlines : (extract .python (overloadedSource "a" "b") overloadedClass).map
      (·.map fun s => (s.startLine, s.endLine)) = .ok [(1, 4), (3, 3), (4, 4)] := by decide +kernel
  have hmatches : (do
      let old ← extract .python (overloadedSource "a" "b") overloadedClass
      let new ← extract .python (overloadedSource "c" "d") overloadedClass
      return ((matchAll old new).filter (Match.isPositional ⟨"f", .method, some "A"⟩)).map
        fun m => (m.old.map startLine, m.new.map startLine))
        = (.ok [(some 3, some 3), (some 4, some 4)] : Except Failure _) := by decide +kernel
  rw [hold] at hlines hmatches
  rw [hnew] at hmatches
  exact ⟨htree, old, new, hold, hnew, Except.ok.inj hlines, hsorted, hproper, Except.ok.inj hmatches,
    hpaired _ _ _ _ htree hnew _⟩

end Symbol

end ChangeReview
