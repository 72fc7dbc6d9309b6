import ChangeReview.Analysis.OfPatch
import ChangeReview.Proofs.Results
import ChangeReview.Proofs.Session.Basic
import ChangeReview.Proofs.Text.Encoding

/-!
# An analysis by what it sees

An analysis reads the sides of each file, parses them, and draws its conclusions from the texts and
trees. Here the two are taken apart: `inspect` reads and parses, and `judge` and `report` conclude without
asking anything of the session. Once the inspections are there, the outcome of the analysis is a function
of them.
-/

namespace ChangeReview

/-! ## Conclusions from what is read -/

namespace Action

variable {α β γ : Type} {x : Action β} {y : Action α} {g : α → Except Failure β}

/-- What an action gives follows from what another one reads, and it asks no more of the session. -/
def Concludes (x : Action β) (y : Action α) (g : α → Except Failure β) : Prop :=
  ∀ s, (∀ a t, y.on s = (.ok a, t) → (x.on s).1 = g a) ∧
    ∀ b t, x.on s = (.ok b, t) → ∃ a, y.on s = (.ok a, t)

/-- If the conclusion is a result, the session is left as the reading leaves it. -/
theorem Concludes.on_eq (h : Concludes x y g) {s t : Session} {a : α} {b : β} (hy : y.on s = (.ok a, t))
    (hg : g a = .ok b) : x.on s = (.ok b, t) := by
  have hx := Action.on_eq (((h s).1 a t hy).trans hg)
  obtain ⟨a', hy'⟩ := (h s).2 b _ hx
  rw [hx, (Prod.mk.inj (hy.symm.trans hy')).2]

theorem Concludes.lift (a : α) : Concludes (liftM (g a)) (pure a) g := by
  refine fun s => ⟨fun a' t h => ?_, fun b t h => ?_⟩
  · cases h
    rw [on_lift]
  · rw [on_lift] at h
    cases (Prod.mk.inj h).2
    exact ⟨a, rfl⟩

theorem Concludes.pure {a : α} {b : β} (h : g a = .ok b) : Concludes (pure b) (pure a) g := by
  have hlift := Concludes.lift (g := g) a
  rw [h] at hlift
  exact hlift

theorem Concludes.bind (z : Action γ) {x : γ → Action β} {y : γ → Action α}
    (h : ∀ c, Concludes (x c) (y c) g) : Concludes (z >>= x) (z >>= y) g := by
  intro s
  rcases hz : z.on s with ⟨e | c, r⟩
  · rw [on_bind_error hz, on_bind_error hz]
    constructor <;> (intro _ _ h; cases h)
  · rw [on_bind hz, on_bind hz]
    exact h c r

/-- The results of a pass over a list follow from what is read for each item. -/
theorem Concludes.mapM {x : γ → Action β} {y : γ → Action α} {g : γ → α → Except Failure β}
    (h : ∀ c, Concludes (x c) (y c) (g c)) (cs : List γ) :
    Concludes (cs.mapM x) (cs.mapM y) fun as => (List.zipWith g cs as).mapM id := by
  induction cs with
  | nil => exact Concludes.pure rfl
  | cons c cs ih =>
    intro s
    rw [List.mapM_cons, List.mapM_cons]
    constructor
    · intro all t hall
      obtain ⟨a, r, ha, hall⟩ := exists_of_on_bind hall
      obtain ⟨as, q, has, hall⟩ := exists_of_on_bind hall
      cases hall
      dsimp only
      rw [List.zipWith_cons_cons, List.mapM_cons, id]
      cases hg : g c a with
      | error e =>
        have hx : (x c).on s = (.error e, ((x c).on s).2) := Prod.ext (((h c s).1 a r ha).trans hg) rfl
        rw [on_bind_error hx]
        rfl
      | ok b =>
        rw [on_bind ((h c).on_eq ha hg), on_bind_pure, (ih r).1 as t has]
        dsimp only
        cases (List.zipWith g cs as).mapM id <;> rfl
    · intro bs t hbs
      obtain ⟨b, r, hb, hbs⟩ := exists_of_on_bind hbs
      obtain ⟨bs', q, hbs', hbs⟩ := exists_of_on_bind hbs
      cases hbs
      obtain ⟨a, ha⟩ := (h c s).2 b r hb
      obtain ⟨as, has⟩ := (ih r).2 bs' t hbs'
      exact ⟨a :: as, by rw [on_bind ha, on_bind has, on_pure]⟩

end Action

namespace Analysis

/-! ## What the analysis sees of a file -/

/-- The text of one side of a file and the tree of the text. -/
structure View where
  text : Option Text := none
  tree : Option SyntaxNode := none

/-- Both sides of a file, as far as the analysis looks at them. -/
structure Inspection where
  old : View := {}
  new : View := {}

/-- The tree of a side, if the side has a text. -/
def treeOf (language : Language) (path text : Option Text) : Action (Option SyntaxNode) :=
  match text with
  | none => return none
  | some text => do
    let dialect ← Dialect.select language path
    return some (← Action.parse dialect text).1

/-- Whether a side that the patch says exists has no text. -/
def Inspection.lacks (i : Inspection) (f : Patch.FileRecord) : Bool :=
  (f.oldPath.isSome && i.old.text.isNone) || (f.newPath.isSome && i.new.text.isNone)

/-- Reads both sides of a file, and parses them unless one lacks. -/
def inspect (range : Text) (contents : Contents) (f : Patch.FileRecord) : Action Inspection :=
  if f.isGenerated || f.isBinary then return {}
  else match Path.language? f.path with
    | none => return {}
    | some language => do
      let old ← side contents (RefRange.ofText range).old f.oldPath
      let new ← side contents (RefRange.ofText range).new f.newPath
      let texts : Inspection := { old := { text := old }, new := { text := new } }
      if texts.lacks f then return texts
      else
        let oldTree ← treeOf language f.oldPath old
        let newTree ← treeOf language f.newPath new
        return { old := ⟨old, oldTree⟩, new := ⟨new, newTree⟩ }

/-- Whether the tree of a side has an error. -/
def View.hasError (v : View) : Bool := v.tree.any SyntaxNode.hasError

/-- The symbols of a side and whether it has a gap; a missing side has none. -/
def View.parsed (language : Language) (v : View) : Except Failure ParsedFile :=
  match v.text, v.tree with
  | some text, some tree => do
    return { symbols := ← Symbol.extract language (text.flatMap CodePoint.utf8) tree, hasGap := v.hasError }
  | _, _ => .ok { symbols := [], hasGap := v.hasError }

/-- What both sides of a file imply once they are parsed. -/
def concludeParsed (f : Patch.FileRecord) (language : Language) (old new : ParsedFile) :
    Except Failure FileResult :=
  let file : FileChange :=
    { path := f.path, changeType := f.changeType, language := some language.toText }
  if old.hasGap || new.hasGap then
    .ok { change := { file with hasParseError := true }, warnings := [gapWarning f.path] }
  else compareSides file language old.symbols new.symbols

/-- What both sides of a file imply. -/
def Inspection.conclude (i : Inspection) (f : Patch.FileRecord) (language : Language) :
    Except Failure FileResult :=
  if i.lacks f then
    .ok {
      change := { path := f.path, changeType := f.changeType, language := some language.toText }
      warnings := [unavailableWarning f.path] }
  else do concludeParsed f language (← i.old.parsed language) (← i.new.parsed language)

/-- The result for a file by what the analysis sees of it. -/
def judge (f : Patch.FileRecord) (i : Inspection) : Except Failure FileResult :=
  let file : FileChange := { path := f.path, changeType := f.changeType }
  if f.isGenerated then .ok { change := { file with isGenerated := true } }
  else if f.isBinary then .ok { change := { file with isBinary := true } }
  else match Path.language? f.path with
    | none => .ok { change := { file with isUnsupported := true } }
    | some language => i.conclude f language

/-! ## From an inspection to a result -/

/-- The parse of a side gives what its view implies. -/
theorem on_parseSide {language : Language} (hlanguage : ∀ name, language ≠ .other name)
    (path text : Option Text) (s : Session) :
    (∃ tree t, (treeOf language path text).on s = (.ok tree, t) ∧
      (parseSide language path text).on s = (View.parsed language ⟨text, tree⟩, t)) ∨
    ∃ e t, (treeOf language path text).on s = (.error e, t) ∧
      (parseSide language path text).on s = (.error e, t) := by
  cases text with
  | none => exact Or.inl ⟨none, s, rfl, rfl⟩
  | some text =>
    obtain ⟨dialect, hdialect⟩ := Dialect.exists_select hlanguage path
    rw [treeOf, Action.on_bind (Action.on_lift_of_eq hdialect s), parseSide, ParsedFile.read, hdialect]
    cases hbytes : text.encode with
    | error e =>
      have hparse : (Action.parse dialect text).on s = (.error e, s) :=
        Action.on_bind_error (Action.on_lift_of_eq hbytes s)
      exact Or.inr ⟨e, s, Action.on_bind_error hparse, Action.on_bind_error hparse⟩
    | ok bytes =>
      have hparse := Action.on_parse hbytes dialect s
      obtain ⟨-, rfl⟩ := Text.encode_eq_ok_iff.1 hbytes
      dsimp only
      rw [Action.on_bind hparse, Action.on_bind hparse]
      refine Or.inl ⟨_, _, rfl, ?_⟩
      unfold View.parsed
      dsimp only
      cases Symbol.extract language (text.flatMap CodePoint.utf8)
          (s.trees.tree dialect text (text.flatMap CodePoint.utf8)) with
      | error e => exact Action.on_bind_error (by rw [Action.on_lift])
      | ok symbols => exact Action.on_bind (by rw [Action.on_lift])

theorem concludes_parseSide {language : Language} (hlanguage : ∀ name, language ≠ .other name)
    {path text : Option Text} {α β : Type} {x : ParsedFile → Action β} {y : Option SyntaxNode → Action α}
    {g : α → Except Failure β}
    (hok : ∀ tree p, View.parsed language ⟨text, tree⟩ = .ok p → Action.Concludes (x p) (y tree) g)
    (herror : ∀ tree e, View.parsed language ⟨text, tree⟩ = .error e →
      ∀ s a t, (y tree).on s = (.ok a, t) → g a = .error e) :
    Action.Concludes (parseSide language path text >>= x) (treeOf language path text >>= y) g := by
  intro s
  rcases on_parseSide hlanguage path text s with ⟨tree, r, htree, hside⟩ | ⟨e, r, htree, hside⟩
  · rw [Action.on_bind htree]
    cases hparsed : View.parsed language ⟨text, tree⟩ with
    | error e =>
      rw [hparsed] at hside
      rw [Action.on_bind_error hside]
      exact ⟨fun a t h => (herror tree e hparsed r a t h).symm, by rintro _ _ h; cases h⟩
    | ok p =>
      rw [hparsed] at hside
      rw [Action.on_bind hside]
      exact hok tree p hparsed r
  · rw [Action.on_bind_error htree, Action.on_bind_error hside]
    constructor <;> (intro _ _ h; cases h)

/-- Once the texts are there, what is concluded follows from their trees. -/
theorem concludes_compared {language : Language} (hlanguage : ∀ name, language ≠ .other name)
    {f : Patch.FileRecord} {old new : Option Text}
    (hpresent : ¬ ((f.oldPath.isSome && old.isNone) || (f.newPath.isSome && new.isNone)) = true) :
    Action.Concludes
      (parseSide language f.oldPath old >>= fun p => parseSide language f.newPath new >>= fun q =>
        liftM (concludeParsed f language p q))
      (treeOf language f.oldPath old >>= fun oldTree => treeOf language f.newPath new >>= fun newTree =>
        pure (Inspection.mk ⟨old, oldTree⟩ ⟨new, newTree⟩))
      fun i => i.conclude f language := by
  have hconclude : ∀ oldTree newTree,
      Inspection.conclude { old := ⟨old, oldTree⟩, new := ⟨new, newTree⟩ } f language
        = (View.parsed language ⟨old, oldTree⟩ >>= fun p =>
          View.parsed language ⟨new, newTree⟩ >>= fun q => concludeParsed f language p q) :=
    fun _ _ => if_neg hpresent
  -- The symbols of the old side are read before the new side is parsed. If that fails, so does the
  -- conclusion, whatever tree the new side has.
  refine concludes_parseSide hlanguage (fun oldTree p hp => ?_) fun oldTree e he s i t h => ?_
  · refine concludes_parseSide hlanguage (fun newTree q hq => ?_) fun newTree e he s i t h => ?_
    · have hparsed : Inspection.conclude { old := ⟨old, oldTree⟩, new := ⟨new, newTree⟩ } f language
          = concludeParsed f language p q := by
        rw [hconclude, hp, hq]
        rfl
      rw [← hparsed]
      exact .lift (g := fun i => Inspection.conclude i f language) _
    · cases h
      rw [hconclude, hp, he]
      rfl
  · obtain ⟨newTree, r, -, h⟩ := Action.exists_of_on_bind h
    cases h
    rw [hconclude, he]
    rfl

/-- The result for a file follows from its inspection. -/
theorem concludes_ofRecord (range : Text) (contents : Contents) (f : Patch.FileRecord) :
    Action.Concludes (ofRecord range (some contents) f) (inspect range contents f) (judge f) := by
  unfold inspect ofRecord judge
  dsimp only
  by_cases hgenerated : f.isGenerated = true
  · simp only [hgenerated, if_true, Bool.true_or]
    exact .pure rfl
  by_cases hbinary : f.isBinary = true
  · simp only [hgenerated, hbinary, if_true, Bool.or_true, Bool.false_eq_true, if_false]
    exact .pure rfl
  simp only [hgenerated, hbinary, if_false, Bool.or_self, Bool.false_eq_true]
  cases hlanguage : Path.language? f.path with
  | none => exact .pure rfl
  | some language =>
    dsimp only
    refine .bind _ fun old => .bind _ fun new => ?_
    let texts : Inspection := { old := { text := old }, new := { text := new } }
    split
    · rename_i hmissing
      rw [if_pos (show texts.lacks f = true from hmissing)]
      exact .pure (if_pos hmissing)
    · rename_i hpresent
      rw [if_neg (show ¬ texts.lacks f = true from hpresent)]
      convert concludes_compared (Path.language?_ne_other hlanguage) hpresent using 5 with p q
      unfold concludeParsed
      split <;> rfl

/-! ## The whole analysis -/

/-- The files of a patch, as an analysis reads them. -/
def records (diff : Text) (options : Options) : List Patch.FileRecord :=
  Patch.read options.skipGenerated Path.generatedPatterns diff

/-- Reads and parses all files of a patch. -/
def inspectAll (diff range : Text) (contents : Contents) (options : Options) : Action (List Inspection) :=
  (records diff options).mapM (inspect range contents)

/-- The results for the files of a patch by what the analysis sees of them. -/
def judgeAll (diff : Text) (options : Options) (inspections : List Inspection) :
    Except Failure (List FileResult) :=
  (List.zipWith judge (records diff options) inspections).mapM id

/-- The analysis of a patch by the results for its files. -/
def report (diff range : Text) (options : Options) (results : List FileResult) : Except Failure Analysis := do
  let files ← withMoves results
  let summary := Summary.ofFiles files
  return {
    refRange := range
    stats := {
      files := (records diff options).length
      additions := total ((records diff options).map (·.additions))
      deletions := total ((records diff options).map (·.deletions)) }
    warnings := (if Patch.hasUnread diff then [incompleteWarning] else [])
      ++ results.flatMap FileResult.warnings
    timing := some .zero
    files
    summary
    tiers := Tiers.ofFiles files summary options.summary }

/-- What an analysis gives is the report of its results. -/
theorem on_ofPatch (diff range : Text) (contents : Option Contents) (options : Options) (s : Session) :
    (ofPatch diff range contents options).on s
      = ((((records diff options).mapM (ofRecord range contents)).on s).1 >>= report diff range options,
        (((records diff options).mapM (ofRecord range contents)).on s).2) := by
  rcases hresults : ((records diff options).mapM (ofRecord range contents)).on s with ⟨e | results, t⟩
  · exact Action.on_bind_error hresults
  · unfold ofPatch
    refine (Action.on_bind hresults).trans ?_
    change _ = (report diff range options results, t)
    have hlift := Action.on_lift (withMoves results) t
    unfold report
    cases hfiles : withMoves results with
    | error e =>
      rw [hfiles] at hlift
      exact Action.on_bind_error hlift
    | ok files =>
      rw [hfiles] at hlift
      exact Action.on_bind hlift

/-- The outcome of an analysis follows from the inspections of the files. -/
theorem concludes_ofPatch (diff range : Text) (contents : Contents) (options : Options) :
    Action.Concludes (ofPatch diff range (some contents) options) (inspectAll diff range contents options)
      fun inspections => judgeAll diff options inspections >>= report diff range options := by
  intro s
  have hresults := Action.Concludes.mapM (concludes_ofRecord range contents) (records diff options) s
  rw [on_ofPatch]
  refine ⟨fun inspections t h => ?_, fun a t h => ?_⟩
  · exact congrArg (· >>= report diff range options) (hresults.1 inspections t h)
  · obtain ⟨ha, rfl⟩ := Prod.mk.inj h
    obtain ⟨results, hok, -⟩ := Except.eq_ok_of_bind ha
    exact hresults.2 results _ (Action.on_eq hok)

end Analysis

end ChangeReview
