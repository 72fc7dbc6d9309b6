import ChangeReview.Proofs.Reference.Search
import Mathlib.Logic.Relation

/-!
# What a call calls

Whether a name is called is found by climbing from the name through members and wrappers to a call. Each
step of the climb goes back over the only step that leads down from there: a wrapper passes a call on to
one operand, and a node that selects a member to that member. So the way down from a call is forced, it
ends at the first name, and a call has at most one name for its target.
-/

namespace ChangeReview

/-! ## The places of a tree -/

/-- The step is one of the tree. -/
def Step.Fits (s : Step) : Prop := s.parent.children[s.index]? = some s.child

namespace Place

variable {root n : SyntaxNode} {above : List Step} {p q : Place}

theorem within_eq (above : List Step) (n : SyntaxNode) :
    within above n = { node := n, above } :: among above n 0 n.children := by
  cases n
  rw [within]

theorem mem_among {parent : SyntaxNode} {index : Nat} {children : List SyntaxNode} :
    p ∈ among above parent index children ↔
      ∃ i c, children[i]? = some c ∧ p ∈ within (⟨parent, index + i, c⟩ :: above) c := by
  induction children generalizing index with
  | nil => simp [among]
  | cons child rest ih =>
    rw [among, List.mem_append, ih]
    constructor
    · rintro (h | ⟨i, c, hc, h⟩)
      · exact ⟨0, child, rfl, h⟩
      · exact ⟨i + 1, c, hc, by rwa [Nat.add_right_comm] at h⟩
    · rintro ⟨i, c, hc, h⟩
      cases i with
      | zero =>
        cases hc
        exact Or.inl h
      | succ i => exact Or.inr ⟨i, c, hc, by rwa [Nat.add_right_comm]⟩

theorem mem_within : p ∈ within above n ↔
    p = ⟨n, above⟩ ∨ ∃ i c, n.children[i]? = some c ∧ p ∈ within (⟨n, i, c⟩ :: above) c := by
  rw [within_eq, List.mem_cons, mem_among]
  simp only [Nat.zero_add]

/-- `q` is a child of `p`. -/
def Child (p q : Place) : Prop :=
  ∃ index, p.node.children[index]? = some q.node ∧ q.above = ⟨p.node, index, q.node⟩ :: p.above

/-- The places of a tree are those below its root. -/
theorem reaches_of_mem_within (h : p ∈ within above n) : Relation.ReflTransGen Child ⟨n, above⟩ p := by
  induction hsize : sizeOf n using Nat.strong_induction_on generalizing n above with
  | _ size ih =>
    rcases mem_within.1 h with rfl | ⟨i, c, hc, h⟩
    · exact .refl
    · have hlt : sizeOf c < size := hsize ▸ SyntaxNode.sizeOf_child (List.mem_of_getElem? hc)
      exact .head ⟨i, hc, rfl⟩ (ih _ hlt h rfl)

theorem mem_within_of_reaches (h : Relation.ReflTransGen Child q p) : p ∈ within q.above q.node := by
  induction h using Relation.ReflTransGen.head_induction_on with
  | refl => exact mem_within.2 (Or.inl rfl)
  | head hchild _ ih =>
    obtain ⟨i, hc, habove⟩ := hchild
    exact mem_within.2 (Or.inr ⟨i, _, hc, habove ▸ ih⟩)

theorem mem_all_iff : p ∈ all root ↔ Relation.ReflTransGen Child ⟨root, []⟩ p :=
  ⟨reaches_of_mem_within, mem_within_of_reaches⟩

/-- The steps above a place are those of the tree. -/
theorem exists_parent {step : Step} {outer : List Step} (hp : p ∈ all root)
    (habove : p.above = step :: outer) :
    ⟨step.parent, outer⟩ ∈ all root ∧ step.Fits ∧ step.child = p.node := by
  rcases (mem_all_iff.1 hp).cases_tail with rfl | ⟨parent, hparent, i, hc, hstep⟩
  · cases habove
  · rw [hstep] at habove
    cases habove
    exact ⟨mem_all_iff.2 hparent, hc, rfl⟩

theorem node_of_above_eq_nil (hp : p ∈ all root) (habove : p.above = []) : p.node = root := by
  rcases (mem_all_iff.1 hp).cases_tail with rfl | ⟨_, _, _, _, hstep⟩
  · rfl
  · rw [hstep] at habove
    cases habove

/-- The steps above a place lead to it alone. -/
theorem eq_of_above_eq (hp : p ∈ all root) (hq : q ∈ all root) (h : p.above = q.above) : p = q := by
  have hnode : p.node = q.node := by
    cases habove : p.above with
    | nil => rw [node_of_above_eq_nil hp habove, node_of_above_eq_nil hq (h ▸ habove)]
    | cons step outer =>
      rw [← (exists_parent hp habove).2.2, (exists_parent hq (h ▸ habove)).2.2]
  cases p
  cases q
  rw [Place.mk.injEq]
  exact ⟨hnode, h⟩

theorem mem_all_of_above {inner outer : List Step} {step : Step} (hp : p ∈ all root)
    (habove : p.above = inner ++ step :: outer) :
    ⟨step.parent, outer⟩ ∈ all root ∧ step.Fits ∧ ⟨step.child, step :: outer⟩ ∈ all root := by
  induction inner generalizing p with
  | nil =>
    obtain ⟨hparent, hfits, hchild⟩ := exists_parent hp habove
    refine ⟨hparent, hfits, ?_⟩
    rwa [hchild, ← List.nil_append (step :: outer), ← habove]
  | cons s inner ih => exact ih (exists_parent hp habove).1 rfl

theorem above_isSuffix (h : p ∈ within above n) : above <:+ p.above := by
  have hreach := reaches_of_mem_within h
  clear h
  induction hreach with
  | refl => exact List.suffix_refl _
  | tail _ hchild ih =>
    obtain ⟨i, -, habove⟩ := hchild
    rw [habove]
    exact List.IsSuffix.trans ih (List.suffix_cons _ _)

mutual

theorem nodup_within (above : List Step) (n : SyntaxNode) : (within above n).Nodup := by
  match n with
  | ⟨kind, start, stop, field, isNamed, hasError, hasText, children⟩ =>
    rw [within, List.nodup_cons]
    refine ⟨fun hmem => ?_, nodup_among above _ 0 children⟩
    obtain ⟨i, c, -, h⟩ := mem_among.1 hmem
    have hlength := (above_isSuffix h).length_le
    exact absurd hlength (by simp)

theorem nodup_among (above : List Step) (parent : SyntaxNode) (index : Nat) (children : List SyntaxNode) :
    (among above parent index children).Nodup := by
  match children with
  | [] =>
    rw [among]
    exact List.nodup_nil
  | child :: rest =>
    rw [among, List.nodup_append']
    refine ⟨nodup_within _ child, nodup_among above parent (index + 1) rest, fun p hp hrest => ?_⟩
    -- The last step above tells the children apart.
    obtain ⟨i, c, -, hrest⟩ := mem_among.1 hrest
    have hsteps := List.suffix_or_suffix_of_suffix (above_isSuffix hp) (above_isSuffix hrest)
    have heq : (⟨parent, index, child⟩ : Step) :: above = ⟨parent, index + 1 + i, c⟩ :: above := by
      rcases hsteps with h | h
      · exact h.eq_of_length rfl
      · exact (h.eq_of_length rfl).symm
    have hindex := congrArg Step.index (List.cons.inj heq).1
    exact absurd hindex (by simp only; omega)

end

theorem nodup_all (root : SyntaxNode) : (all root).Nodup := nodup_within [] root

end Place

/-! ## The way down from a call -/

/-- The step goes to what is called when its parent is: the operand that a wrapper passes on, or the member
that is selected. -/
def Step.PassesCall (s : Step) : Prop :=
  operandIndex? s.parent = some s.index ∨
    ∃ member, memberField? s.parent.kind = some member ∧ s.field = some member

/-- No node has two children in one field. -/
def SyntaxNode.FieldsUnique (root : SyntaxNode) : Prop :=
  ∀ p ∈ Place.all root, (p.node.children.filterMap (·.field)).Nodup

instance (root : SyntaxNode) : Decidable root.FieldsUnique := inferInstanceAs (Decidable (∀ p ∈ _, _))

/-- A kind of node that neither wraps an operand nor selects a member. -/
def isPlainKind (kind : Text) : Bool := (Wrapping.ofKind? kind).isNone && (memberField? kind).isNone

theorem isPlainKind_of_call {kind : Text} (h : kind ∈ callKinds) : isPlainKind kind = true := by
  have hall : ∀ kind ∈ callKinds, isPlainKind kind = true := by decide +kernel
  exact hall kind h

theorem isPlainKind_of_name {language : Language} {kind : Text} (h : kind ∈ nameKinds language) :
    isPlainKind kind = true := by
  have hall : ∀ kind ∈ nameKinds .typescript ++ nameKinds .go, isPlainKind kind = true := by decide +kernel
  have hsub : nameKinds language ⊆ nameKinds .typescript ++ nameKinds .go := by
    cases language with
    | other name => exact (by decide +kernel : nameKinds .python ⊆ nameKinds .typescript ++ nameKinds .go)
    | _ => decide +kernel
  exact hall kind (hsub h)

/-- A node that selects a member is no wrapper. -/
theorem operandIndex?_of_member {n : SyntaxNode} {member : Text} (h : memberField? n.kind = some member) :
    operandIndex? n = none := by
  have hkind : n.kind ∈ Text.list ["attribute", "member_expression", "selector_expression"] := by
    unfold memberField? at h
    simp only [Text.list, List.map_cons, List.map_nil, List.mem_cons]
    grind
  have hall : ∀ kind ∈ Text.list ["attribute", "member_expression", "selector_expression"],
      (Wrapping.ofKind? kind).isNone = true := by decide +kernel
  rw [operandIndex?, Option.isNone_iff_eq_none.1 (hall _ hkind), Option.bind_none]

theorem Step.PassesCall.not_isPlainKind {s : Step} (h : s.PassesCall) : isPlainKind s.parent.kind = false := by
  unfold isPlainKind
  rcases h with h | ⟨member, h, -⟩
  · cases hwrapping : Wrapping.ofKind? s.parent.kind with
    | none =>
      rw [operandIndex?, hwrapping] at h
      cases h
    | some wrapping => rfl
  · rw [h, Option.isNone_some, Bool.and_false]

/-- A field holds one child. -/
theorem index_eq_of_field_eq {children : List SyntaxNode} (h : (children.filterMap (·.field)).Nodup) {i j : Nat}
    {a b : SyntaxNode} {field : Text} (ha : children[i]? = some a) (hb : children[j]? = some b)
    (hafield : a.field = some field) (hbfield : b.field = some field) : i = j := by
  obtain ⟨hi, rfl⟩ := List.getElem?_eq_some_iff.1 ha
  obtain ⟨hj, rfl⟩ := List.getElem?_eq_some_iff.1 hb
  have hapart := List.pairwise_iff_getElem.1 (List.pairwise_filterMap.1 h)
  rcases Nat.lt_trichotomy i j with hlt | heq | hlt
  · exact absurd rfl (hapart _ _ hi hj hlt field hafield field hbfield)
  · exact heq
  · exact absurd rfl (hapart _ _ hj hi hlt field hbfield field hafield)

theorem Step.Fits.eq {s t : Step} (hs : s.Fits) (ht : t.Fits) (hparent : s.parent = t.parent)
    (hindex : s.index = t.index) : s = t := by
  obtain ⟨parent, index, child⟩ := s
  obtain ⟨parent', index', child'⟩ := t
  obtain rfl : parent = parent' := hparent
  obtain rfl : index = index' := hindex
  rw [Step.mk.injEq]
  exact ⟨rfl, rfl, Option.some.inj (hs.symm.trans ht)⟩

/-- From a node with unique fields a call is passed on to one child. -/
theorem Step.PassesCall.index_eq {s t : Step} (hs : s.PassesCall) (ht : t.PassesCall) (hsfits : s.Fits)
    (htfits : t.Fits) (hparent : s.parent = t.parent)
    (hfields : (s.parent.children.filterMap (·.field)).Nodup) : s.index = t.index := by
  rcases hs with hs | ⟨member, hs, hsfield⟩ <;> rcases ht with ht | ⟨member', ht, htfield⟩
  · rw [hparent, ht] at hs
    exact (Option.some.inj hs).symm
  · rw [hparent, operandIndex?_of_member ht] at hs
    cases hs
  · rw [← hparent, operandIndex?_of_member hs] at ht
    cases ht
  · obtain rfl : member = member' := by
      rw [hparent, ht] at hs
      exact (Option.some.inj hs).symm
    exact index_eq_of_field_eq hfields hsfits (hparent ▸ htfits) hsfield htfield

/-- A step from a call to its function, and behind it steps that pass the call on, the last one first. -/
structure CallWay (inner : List Step) (step : Step) : Prop where
  isCall : step.parent.kind ∈ callKinds
  isFunction : step.parent.childIndex? "function" = some step.index
  passes : ∀ s ∈ inner, s.PassesCall

theorem CallWay.cons {inner : List Step} {s step : Step} (h : CallWay inner step) (hs : s.PassesCall) :
    CallWay (s :: inner) step := ⟨h.isCall, h.isFunction, List.forall_mem_cons.2 ⟨hs, h.passes⟩⟩

/-- A climb that ends at a call has gone back over a way down from it. -/
theorem exists_callWay {above : List Step} (h : isCalled above = true) :
    ∃ inner step outer, above = inner ++ step :: outer ∧ CallWay inner step := by
  induction above with
  | nil => cases h
  | cons s above ih =>
    rw [isCalled] at h
    split at h
    · rename_i hcall
      exact ⟨[], s, above, rfl, List.contains_iff_mem.1 hcall, by simpa using h, List.forall_mem_nil _⟩
    · have hstep : s.PassesCall ∧ isCalled above = true := by
        split at h
        · rename_i index hoperand
          obtain ⟨hindex, habove⟩ := Bool.and_eq_true_iff.1 h
          exact ⟨Or.inl (by rw [hoperand, beq_iff_eq.1 hindex]), habove⟩
        · split at h
          · rename_i member hmember
            obtain ⟨hfield, habove⟩ := Bool.and_eq_true_iff.1 h
            exact ⟨Or.inr ⟨member, hmember, beq_iff_eq.1 hfield⟩, habove⟩
          · cases h
      obtain ⟨inner, step, outer, rfl, hway⟩ := ih hstep.2
      exact ⟨s :: inner, step, outer, rfl, hway.cons hstep.1⟩

theorem CallWay.isCalled {inner : List Step} {step : Step} (h : CallWay inner step) (outer : List Step) :
    isCalled (inner ++ step :: outer) = true := by
  induction inner with
  | nil =>
    rw [List.nil_append, ChangeReview.isCalled, if_pos (List.contains_iff_mem.2 h.isCall), h.isFunction,
      beq_self_eq_true]
  | cons s inner ih =>
    obtain ⟨hs, hinner⟩ := List.forall_mem_cons.1 h.passes
    have hrest := ih ⟨h.isCall, h.isFunction, hinner⟩
    have hother : ¬ callKinds.contains s.parent.kind = true := fun hcall => by
      have hplain := isPlainKind_of_call (List.contains_iff_mem.1 hcall)
      exact Bool.false_ne_true (hs.not_isPlainKind.symm.trans hplain)
    rw [List.cons_append, ChangeReview.isCalled, if_neg hother]
    rcases hs with hs | ⟨member, hmember, hfield⟩
    · simp [hs, hrest]
    · simp [operandIndex?_of_member hmember, hmember, hfield, hrest]

namespace Place

variable {root : SyntaxNode} {p q c call : Place}

/-- `p` is what the call calls: it lies inside the child in the function field, and each step from there
down to `p` passes the call on. -/
def CalledBy (p call : Place) : Prop :=
  ∃ inner step, p.above = inner ++ step :: call.above ∧ step.parent = call.node ∧ CallWay inner step

/-- `p` passes a call on to `q`, and to no other child. -/
def PassesTo (p q : Place) : Prop :=
  (p.node.children.filterMap (·.field)).Nodup ∧ ∃ step : Step, step.PassesCall ∧ step.Fits ∧
    step.parent = p.node ∧ q = ⟨step.child, step :: p.above⟩

theorem passesTo_rightUnique : Relator.RightUnique PassesTo := by
  rintro p _ _ ⟨hfields, s, hs, hsfits, hparent, rfl⟩ ⟨-, t, ht, htfits, hparent', rfl⟩
  have hsame : s.parent = t.parent := hparent.trans hparent'.symm
  rw [hsfits.eq htfits hsame (hs.index_eq ht hsfits htfits hsame (hparent ▸ hfields))]

theorem reaches_of_passes {inner : List Step} (hroot : root.FieldsUnique) (hp : p ∈ all root)
    (hc : c ∈ all root) (habove : p.above = inner ++ c.above) (hinner : ∀ s ∈ inner, s.PassesCall) :
    Relation.ReflTransGen PassesTo c p := by
  induction inner generalizing p with
  | nil =>
    obtain rfl : p = c := eq_of_above_eq hp hc habove
    exact .refl
  | cons s inner ih =>
    obtain ⟨hs, hinner⟩ := List.forall_mem_cons.1 hinner
    obtain ⟨hparent, hfits, hnode⟩ := exists_parent hp habove
    refine .tail (ih hparent rfl hinner) ⟨hroot _ hparent, s, hs, hfits, rfl, ?_⟩
    show p = ⟨s.child, s :: (inner ++ c.above)⟩
    rw [hnode, ← List.cons_append, ← habove]

/-- A name passes no call on. -/
theorem not_passesTo {language : Language} (h : p.node.kind ∈ nameKinds language) : ¬ PassesTo p q := by
  rintro ⟨-, s, hs, -, hparent, -⟩
  have hplain := isPlainKind_of_name h
  rw [← hparent] at hplain
  exact Bool.false_ne_true (hs.not_isPlainKind.symm.trans hplain)

/-- A call calls one name at most. -/
theorem CalledBy.eq_of_names {language : Language} (hroot : root.FieldsUnique) (hp : p ∈ all root)
    (hq : q ∈ all root) (hpname : p.node.kind ∈ nameKinds language) (hqname : q.node.kind ∈ nameKinds language)
    (hpcall : p.CalledBy call) (hqcall : q.CalledBy call) : p = q := by
  obtain ⟨inner, step, habove, hparent, hway⟩ := hpcall
  obtain ⟨inner', step', habove', hparent', hway'⟩ := hqcall
  obtain ⟨-, hfits, hcallee⟩ := mem_all_of_above hp habove
  obtain ⟨-, hfits', -⟩ := mem_all_of_above hq habove'
  -- Both ways start with the step to the first child in the function field.
  obtain rfl : step = step' := hfits.eq hfits' (hparent.trans hparent'.symm)
    (Option.some.inj (hway.isFunction.symm.trans
      (hparent.trans hparent'.symm ▸ hway'.isFunction)))
  have hpreach := reaches_of_passes hroot hp hcallee habove hway.passes
  have hqreach := reaches_of_passes hroot hq hcallee habove' hway'.passes
  rcases Relation.ReflTransGen.total_of_right_unique passesTo_rightUnique hpreach hqreach with h | h
  · rcases h.cases_head with heq | ⟨_, hpass, -⟩
    · exact heq
    · exact absurd hpass (not_passesTo hpname)
  · rcases h.cases_head with heq | ⟨_, hpass, -⟩
    · exact heq.symm
    · exact absurd hpass (not_passesTo hqname)

/-- A place is called exactly if some call of its tree calls it. -/
theorem isCallTarget_iff (hp : p ∈ all root) : p.isCallTarget = true ↔ ∃ call ∈ all root, p.CalledBy call := by
  constructor
  · intro h
    obtain ⟨inner, step, outer, habove, hway⟩ := exists_callWay h
    exact ⟨⟨step.parent, outer⟩, (mem_all_of_above hp habove).1, inner, step, habove, rfl, hway⟩
  · rintro ⟨call, -, inner, step, habove, -, hway⟩
    unfold isCallTarget
    rw [habove]
    exact hway.isCalled _

theorem context_eq_call_iff (hp : p ∈ all root) :
    p.context = .call ↔ p.isImported = false ∧ ∃ call ∈ all root, p.CalledBy call := by
  rw [← isCallTarget_iff hp]
  unfold context
  cases p.isImported <;> cases p.isCallTarget <;> decide

end Place

/-! ## The hits of a scan -/

theorem exists_mem_of_forall₂ {α β : Type} {R : α → β → Prop} {xs : List α} {ys : List β} {x : α}
    (h : List.Forall₂ R xs ys) (hx : x ∈ xs) : ∃ y ∈ ys, R x y := by
  induction h with
  | nil => cases hx
  | cons hfirst _ ih =>
    rcases List.mem_cons.1 hx with rfl | hx
    · exact ⟨_, List.mem_cons_self, hfirst⟩
    · obtain ⟨y, hy, hxy⟩ := ih hx
      exact ⟨y, List.mem_cons_of_mem _ hy, hxy⟩

namespace Hit

variable {language : Language} {names lines : List Text} {text : Text} {source : Bytes} {root : SyntaxNode}
  {p : Place} {h : Hit}

theorem kind_and_context_of_ofPlace? (hp : ofPlace? language names source lines p = .ok (some h)) :
    p.node.kind ∈ nameKinds language ∧ h.context = p.context := by
  unfold ofPlace? at hp
  split at hp
  · cases hp
  · rename_i hkind
    obtain ⟨name, -, hp⟩ := Except.eq_ok_of_bind hp
    dsimp only at hp
    split at hp
    · cases hp
    · cases hp
      exact ⟨List.contains_iff_mem.1 (by simpa using hkind), rfl⟩

/-- The hits of some class are those of some places, in the order of the tree. -/
theorem exists_places {places : List Place} {found : List (Option Hit)}
    (hfound : places.map (ofPlace? language names source lines) = found.map Except.ok) (keep : Hit → Bool) :
    ∃ kept : List Place, kept.Sublist places ∧
      List.Forall₂ (fun p h => ofPlace? language names source lines p = .ok (some h)) kept
        ((found.filterMap id).filter keep) := by
  induction places generalizing found with
  | nil =>
    obtain rfl : found = [] := by simpa using hfound.symm
    exact ⟨[], .slnil, .nil⟩
  | cons p places ih =>
    cases found with
    | nil => cases hfound
    | cons first found =>
      rw [List.map_cons, List.map_cons, List.cons.injEq] at hfound
      obtain ⟨kept, hsub, hkept⟩ := ih hfound.2
      cases first with
      | none => exact ⟨kept, hsub.cons p, hkept⟩
      | some h =>
        rw [List.filterMap_cons_some (rfl : id (some h) = some h), List.filter_cons]
        split
        · exact ⟨p :: kept, hsub.cons_cons p, .cons hfound.1 hkept⟩
        · exact ⟨kept, hsub.cons p, hkept⟩

theorem exists_places_of_scan {hits : List Hit} (hscan : scan language names text source root = .ok hits)
    (keep : Hit → Bool) :
    ∃ kept : List Place, kept.Sublist (Place.all root) ∧
      List.Forall₂ (fun p h => ofPlace? language names source text.lines p = .ok (some h)) kept
        (hits.filter keep) := by
  obtain ⟨found, hfound, hscan⟩ := Except.eq_ok_of_bind hscan
  cases hscan
  exact exists_places (Except.mapM_eq_ok_iff.1 hfound) keep

end Hit

theorem ReferenceSearch.scan_of_scanSource {language : Language} {names : List Text} {path : Option Text}
    {dialect : Dialect} {text : Text} {bytes : Bytes} {hits : List Hit} {hasGap : Bool} {s t : Session}
    (hdialect : Dialect.select language path = .ok dialect) (hbytes : text.encode = .ok bytes)
    (h : (scanSource language names path text).on s = (.ok (hits, hasGap), t)) :
    Hit.scan language names text bytes (s.trees.tree dialect text bytes) = .ok hits := by
  rw [Catalogue.on_scanSource hdialect hbytes] at h
  cases hscan : Hit.scan language names text bytes (s.trees.tree dialect text bytes) with
  | error e =>
    rw [hscan] at h
    cases h
  | ok found =>
    rw [hscan] at h
    cases h
    rfl

/-- **A call promotes at most one name.** In a tree in which no node has two children in one field, the hits
that are reported as calls stand at different places, and each place has a call of its own: the place lies
inside the child in the call's function field, and from there each step down to it goes to the operand that a
wrapper passes on or to the member that is selected, never to a receiver or a type. No call calls two of
them. A hit is reported so exactly if it is in no import and some call of the tree calls it. -/
theorem ReferenceSearch.called_names_have_own_calls {language : Language} {names : List Text}
    {path : Option Text} {dialect : Dialect} {text : Text} {bytes : Bytes} {hits : List Hit} {hasGap : Bool}
    {s t : Session} (hdialect : Dialect.select language path = .ok dialect)
    (hbytes : text.encode = .ok bytes) (hfields : (s.trees.tree dialect text bytes).FieldsUnique)
    (hscan : (scanSource language names path text).on s = (.ok (hits, hasGap), t)) :
    (∃ (places : List Place) (call : Place → Place),
      places.Sublist (Place.all (s.trees.tree dialect text bytes)) ∧
      List.Forall₂ (fun p h => Hit.ofPlace? language names bytes text.lines p = .ok (some h)) places
        (hits.filter (·.context = .call)) ∧
      (places.map call).Nodup ∧
      (∀ p ∈ places, call p ∈ Place.all (s.trees.tree dialect text bytes) ∧ p.CalledBy (call p)) ∧
      ∀ c, ∀ p ∈ places, ∀ q ∈ places, p.CalledBy c → q.CalledBy c → p = q) ∧
    ∀ p ∈ Place.all (s.trees.tree dialect text bytes), ∀ h,
      Hit.ofPlace? language names bytes text.lines p = .ok (some h) →
        (h.context = .call ↔
          p.isImported = false ∧ ∃ c ∈ Place.all (s.trees.tree dialect text bytes), p.CalledBy c) := by
  obtain ⟨places, hsub, hplaces⟩ :=
    Hit.exists_places_of_scan (scan_of_scanSource hdialect hbytes hscan) (·.context = .call)
  have hcalled : ∀ p ∈ places, p.node.kind ∈ nameKinds language ∧ p.context = .call := by
    intro p hp
    obtain ⟨h, hmem, hhit⟩ := exists_mem_of_forall₂ hplaces hp
    obtain ⟨hkind, hsame⟩ := Hit.kind_and_context_of_ofPlace? hhit
    exact ⟨hkind, hsame.symm.trans (of_decide_eq_true (List.mem_filter.1 hmem).2)⟩
  have hunique : ∀ c, ∀ p ∈ places, ∀ q ∈ places, p.CalledBy c → q.CalledBy c → p = q := by
    intro c p hp q hq hpc hqc
    exact hpc.eq_of_names hfields (hsub.subset hp) (hsub.subset hq) (hcalled p hp).1
      (hcalled q hq).1 hqc
  have hcall : ∀ p ∈ places, ∃ c ∈ Place.all (s.trees.tree dialect text bytes), p.CalledBy c := fun p hp =>
    ((Place.context_eq_call_iff (hsub.subset hp)).1 (hcalled p hp).2).2
  choose! call hcall using hcall
  refine ⟨⟨places, call, hsub, hplaces, ?_, hcall, hunique⟩, ?_⟩
  swap
  · intro p hp h hhit
    rw [(Hit.kind_and_context_of_ofPlace? hhit).2, Place.context_eq_call_iff hp]
  refine List.Nodup.map_on (fun p hp q hq heq => ?_) ((Place.nodup_all _).sublist hsub)
  exact hunique _ p hp q hq (hcall p hp).2 (heq ▸ (hcall q hq).2)

/-- The tree of a call whose function is a member, wrapped twice. The receiver, the type and the argument
have the name of the member. -/
def wrappedCall : SyntaxNode :=
  let leaf (kind : Text) (start : Nat) (field : Option Text) : SyntaxNode :=
    { kind, start, stop := start + 1, field }
  { kind := "call_expression", start := 0, stop := 13
    children :=
      [{ kind := "parenthesized_expression", start := 0, stop := 10, field := some "function"
         children :=
          [{ kind := "as_expression", start := 1, stop := 9
             children :=
              [{ kind := "member_expression", start := 1, stop := 4
                 children := [leaf "identifier" 1 (some "object"),
                   leaf "property_identifier" 3 (some "property")] },
                leaf "type_identifier" 8 none] }] },
        { kind := "arguments", start := 10, stop := 13, field := some "arguments"
          children := [leaf "identifier" 11 none] }] }

/-- A session that parses the text of the call. -/
def wrappedSession : Session := { trees := .ofList [("(f.f as f)(f)", wrappedCall)] }

/-- Of the four names only the member is reported as called. -/
theorem ReferenceSearch.called_names_have_own_calls_wrapped :
    wrappedCall.FieldsUnique ∧ ∃ hits t,
      (scanSource .typescript ["f"] none "(f.f as f)(f)").on wrappedSession = (.ok (hits, false), t) ∧
      hits.map (·.context) = [.reference, .call, .reference, .reference] ∧
      ∃ (places : List Place) (call : Place → Place), places.length = 1 ∧
        ∀ p ∈ places, call p ∈ Place.all wrappedCall ∧ p.CalledBy (call p) := by
  have hscan : ((scanSource .typescript ["f"] none "(f.f as f)(f)").on wrappedSession).1
      = .ok ([.reference, .call, .reference, .reference].map fun context =>
        { name := "f", line := 1, context, sourceLine := "(f.f as f)(f)" }, false) := by decide +kernel
  have hdialect : Dialect.select .typescript none = .ok .typescript := rfl
  have hbytes : Text.encode "(f.f as f)(f)" = .ok (("(f.f as f)(f)" : Text).flatMap CodePoint.utf8) := by
    decide +kernel
  have htree : wrappedSession.trees.tree .typescript "(f.f as f)(f)"
      (("(f.f as f)(f)" : Text).flatMap CodePoint.utf8) = wrappedCall := by
    rw [wrappedSession, Forest.tree, Forest.tree?_ofList, List.lookup_cons_self, Option.getD_some]
  have hfields : wrappedCall.FieldsUnique := by decide +kernel
  obtain ⟨⟨places, call, -, hplaces, -, hcall, -⟩, -⟩ :=
    called_names_have_own_calls hdialect hbytes (htree.symm ▸ hfields) (Action.on_eq hscan)
  rw [htree] at hcall
  exact ⟨hfields, _, _, Action.on_eq hscan, rfl, places, call, hplaces.length_eq, hcall⟩

end ChangeReview
