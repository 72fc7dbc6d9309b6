import ChangeReview.Proofs.Syntax.Spans
import ChangeReview.Proofs.Text.Basic
import ChangeReview.Reference.Scan

/-!
# What a scan finds stands in the text

A name is found where the bytes of a node are those of the name. No character starts inside another, so
the name is a part of the text too: a text in which no name occurs has no hits.
-/

namespace ChangeReview.Hit

variable {language : Language} {names : List Text} {text : Text} {source : Bytes} {root : SyntaxNode}

theorem ofPlace?_eq_some {lines : List Text} {p : Place} {h : Hit}
    (hp : ofPlace? language names source lines p = .ok (some h)) :
    h.name ∈ names ∧ Bytes.decode (p.node.slice source) = .ok h.name := by
  unfold ofPlace? at hp
  split at hp
  · cases hp
  · obtain ⟨name, hname, hp⟩ := Except.eq_ok_of_bind hp
    dsimp only at hp
    split at hp
    · cases hp
    · rename_i hnot
      cases hp
      rw [Bool.or_eq_true, not_or, Bool.not_eq_true', Bool.not_eq_false] at hnot
      exact ⟨List.contains_iff_mem.1 hnot.1, hname⟩

theorem isOk_ofPlace? {lines : List Text} {p : Place}
    (hp : (Bytes.decode (p.node.slice source)).isOk = true) :
    (ofPlace? language names source lines p).isOk = true := by
  unfold ofPlace?
  split
  · rfl
  · refine Except.isOk_bind hp fun name _ => ?_
    dsimp only
    split <;> rfl

/-- A tree of the source can be scanned. -/
theorem isOk_scan (h : root.Spans source) : (scan language names text source root).isOk = true :=
  Except.isOk_bind (Except.isOk_mapM_iff.2 fun p hp => isOk_ofPlace? (h p hp)) fun _ _ => rfl

/-- The names that are found occur in the text. -/
theorem includes_of_mem_scan {hits : List Hit} {h : Hit} (hsource : text.encode = .ok source)
    (hscan : scan language names text source root = .ok hits) (hmem : h ∈ hits) :
    h.name ∈ names ∧ Text.includes text h.name = true := by
  obtain ⟨found, hfound, hscan⟩ := Except.eq_ok_of_bind hscan
  cases hscan
  obtain ⟨found?, hmem, rfl⟩ := List.mem_filterMap.1 hmem
  have hok : Except.ok (some h) ∈ (Place.all root).map (ofPlace? language names source text.lines) := by
    rw [Except.mapM_eq_ok_iff.1 hfound]
    exact List.mem_map_of_mem hmem
  obtain ⟨p, -, hp⟩ := List.mem_map.1 hok
  obtain ⟨hname, hdecode⟩ := ofPlace?_eq_some hp
  refine ⟨hname, Text.includes_iff.2 ?_⟩
  obtain ⟨htext, rfl⟩ := Text.encode_eq_ok_iff.1 hsource
  obtain ⟨hbytes, hproper⟩ := Text.decodeFrom_eq_ok hdecode
  obtain ⟨before, after, hslice⟩ := p.node.slice_isInfix (text.flatMap CodePoint.utf8)
  rw [hbytes, List.append_assoc] at hslice
  exact Text.isInfix_of_utf8 htext hproper hslice.symm

end ChangeReview.Hit
