import ChangeReview.Proofs.Repository.Reading
import ChangeReview.Repository.Diff

/-!
# Revealing hidden source records

A record of a source file that is hidden as binary is replaced by a record of the diff as text. The records of
a header wait in a queue, and every record with that header takes one from it, whether it is replaced or not;
so what a record finds is told by how often its header came before (`revealed_eq_ok_or_error`).
-/

namespace ChangeReview

namespace OrderedMap

variable {κ α β : Type} [BEq κ]

theorem get?_cons (k key : κ) (value : α) (m : OrderedMap κ α) :
    get? ((k, value) :: m) key = if key == k then some value else get? m key := by
  rw [get?, List.lookup_cons]
  cases key == k <;> rfl

variable [LawfulBEq κ]

theorem get?_put (m : OrderedMap κ α) (k key : κ) (value : α) :
    (m.put k value).get? key = if key == k then some value else m.get? key := by
  induction m with
  | nil => rw [put, get?_cons]
  | cons entry m ih =>
    obtain ⟨k', value'⟩ := entry
    rw [put]
    by_cases hk : k' = k
    · subst hk
      rw [if_pos (beq_self_eq_true k'), get?_cons, get?_cons]
      cases key == k' <;> rfl
    · rw [if_neg (by simpa using hk), get?_cons, get?_cons, ih]
      by_cases hkey : key = k'
      · subst hkey
        simp [hk]
      · simp [hkey]

/-- The group of a key holds the items of that key in their order. -/
theorem getD_get?_groupBy (key : β → κ) (items : List β) (k : κ) :
    ((groupBy key items).get? k).getD [] = items.filter (key · == k) := by
  have hall : ∀ m : OrderedMap κ (List β),
      ((items.foldl (fun m item => m.update (key item) [] (· ++ [item])) m).get? k).getD []
        = (m.get? k).getD [] ++ items.filter (key · == k) := by
    induction items with
    | nil => simp
    | cons item items ih =>
      intro m
      rw [List.foldl_cons, ih, update, get?_put, List.filter_cons]
      by_cases hk : k = key item
      · subst hk
        simp
      · rw [if_neg (by simpa using hk), if_neg (by simpa using Ne.symm hk)]
  exact hall []

end OrderedMap

namespace Patch

open Text (startsWith)

/-- The records are the lines of the diff in runs. A run starts at the first line, and at each line that
opens a record. -/
def DividedAtMarks (diff : Text) (records : List Text) : Prop :=
  ∃ runs : List (List Text), records = runs.map List.flatten ∧ runs.flatten = diff.linesWithBreaks ∧
    (∀ run ∈ runs, run ≠ [] ∧ ∀ line ∈ run.tail, startsWith line recordMark = false) ∧
    ∀ run ∈ runs.tail, ∀ line ∈ run.head?, startsWith line recordMark = true

theorem flatten_recordGroups (lines : List Text) : (recordGroups lines).flatten = lines := by
  fun_induction recordGroups lines with
  | case1 => rfl
  | case2 line rest hrest ih => simpa [hrest] using ih
  | case3 line rest group groups hrest _ ih => simpa [hrest] using ih
  | case4 line rest group groups hrest _ ih => simpa [hrest] using ih

theorem recordGroups_runs (lines : List Text) :
    (∀ run ∈ recordGroups lines, run ≠ [] ∧ ∀ line ∈ run.tail, startsWith line recordMark = false) ∧
      ∀ run ∈ (recordGroups lines).tail, ∀ line ∈ run.head?, startsWith line recordMark = true := by
  fun_induction recordGroups lines with
  | case1 => simp
  | case2 line rest hrest ih => simp
  | case3 line rest group groups hrest hopen ih =>
    rw [hrest] at ih
    obtain ⟨hruns, htail⟩ := ih
    refine ⟨List.forall_mem_cons.2 ⟨⟨List.cons_ne_nil _ _, List.forall_mem_nil _⟩, hruns⟩, ?_⟩
    refine List.forall_mem_cons.2 ⟨fun first hfirst => ?_, htail⟩
    simpa [Option.mem_def.1 hfirst] using hopen
  | case4 line rest group groups hrest hopen ih =>
    rw [hrest] at ih
    obtain ⟨hruns, htail⟩ := ih
    obtain ⟨⟨hne, hgroup⟩, hruns⟩ := List.forall_mem_cons.1 hruns
    refine ⟨List.forall_mem_cons.2 ⟨⟨List.cons_ne_nil _ _, ?_⟩, hruns⟩, htail⟩
    -- the line that opened the run stands behind another one now
    obtain ⟨first, group, rfl⟩ := List.exists_cons_of_ne_nil hne
    refine List.forall_mem_cons.2 ⟨?_, hgroup⟩
    simpa using hopen

theorem rawRecords_dividedAtMarks (diff : Text) : DividedAtMarks diff (rawRecords diff) :=
  ⟨recordGroups diff.linesWithBreaks, rfl, flatten_recordGroups _, (recordGroups_runs _).1,
    (recordGroups_runs _).2⟩

end Patch

namespace Repository

open Patch (headerLine isBinarySource rawRecords DividedAtMarks)

/-! ## Queues -/

/-- The records that wait under a header. -/
def waiting (queues : OrderedMap Text (List Text)) (header : Text) : List Text :=
  (queues.get? header).getD []

/-- The queues after a record with the given header. -/
def popped (queues : OrderedMap Text (List Text)) (header : Text) : OrderedMap Text (List Text) :=
  if (waiting queues header).isEmpty then queues else queues.put header (waiting queues header).tail

theorem waiting_popped (queues : OrderedMap Text (List Text)) (popHeader header : Text) :
    waiting (popped queues popHeader) header
      = if popHeader == header then (waiting queues header).tail else waiting queues header := by
  unfold popped
  by_cases heq : popHeader = header
  · subst heq
    rw [if_pos (beq_self_eq_true popHeader)]
    split
    · rename_i hempty
      rw [List.isEmpty_iff.1 hempty]
      rfl
    · rw [waiting, OrderedMap.get?_put, if_pos (beq_self_eq_true popHeader)]
      rfl
  · rw [beq_eq_false_iff_ne.2 heq, if_neg Bool.false_ne_true]
    split
    · rfl
    · rw [waiting, OrderedMap.get?_put, if_neg (by simpa using Ne.symm heq)]
      rfl

/-! ## What stands in the place of each record -/

/-- How many records have a header. -/
def countHeader (header : Text) (records : List Text) : Nat := records.countP (headerLine · == header)

/-- What is put for a record that `earlier` ones came before: a hidden source record takes the one that has
as many before it in the queue of its header. -/
def replacement? (queues : OrderedMap Text (List Text)) (earlier : List Text) (record : Text) : Option Text :=
  if isBinarySource record then (waiting queues (headerLine record))[countHeader (headerLine record) earlier]?
  else some record

theorem replacement?_cons (queues : OrderedMap Text (List Text)) (first : Text) (earlier : List Text)
    (record : Text) :
    replacement? queues (first :: earlier) record
      = replacement? (popped queues (headerLine first)) earlier record := by
  unfold replacement?
  rw [waiting_popped, countHeader, List.countP_cons, ← countHeader]
  by_cases heq : headerLine first = headerLine record
  · rw [heq, if_pos (beq_self_eq_true _), if_pos (beq_self_eq_true _), List.getElem?_tail]
  · rw [beq_eq_false_iff_ne.2 heq, if_neg Bool.false_ne_true, if_neg Bool.false_ne_true, Nat.add_zero]

theorem revealed_cons_of_some {queues : OrderedMap Text (List Text)} {record shown : Text}
    (rest : List Text) (h : replacement? queues [] record = some shown) :
    revealed queues (record :: rest)
      = (revealed (popped queues (headerLine record)) rest).map (shown :: ·) := by
  unfold replacement? at h
  rw [revealed, popped, waiting]
  split at h
  · rename_i hhidden
    rw [waiting] at h
    rw [hhidden]
    cases hqueue : (queues.get? (headerLine record)).getD [] with
    | nil =>
      rw [hqueue] at h
      cases h
    | cons first later =>
      rw [hqueue] at h
      cases h
      rfl
  · rename_i hhidden
    rw [Bool.not_eq_true] at hhidden
    cases h
    rw [hhidden]
    rfl

theorem revealed_cons_of_none {queues : OrderedMap Text (List Text)} {record : Text} (rest : List Text)
    (h : replacement? queues [] record = none) :
    revealed queues (record :: rest) = .error (.missingTextRecord (headerLine record)) := by
  unfold replacement? at h
  split at h
  · rename_i hhidden
    have hqueue : (queues.get? (headerLine record)).getD [] = [] := by
      simpa [waiting, countHeader] using h
    rw [revealed, hhidden, hqueue]
    rfl
  · cases h

/-- Each record is replaced by what is put for it, or the first for which there is nothing fails the rest. -/
theorem revealed_eq_ok_or_error (queues : OrderedMap Text (List Text)) (records : List Text) :
    (∃ shown, revealed queues records = .ok shown ∧ shown.length = records.length ∧
      ∀ i r, records[i]? = some r → shown[i]? = replacement? queues (records.take i) r) ∨
    ∃ i r, records[i]? = some r ∧ replacement? queues (records.take i) r = none ∧
      revealed queues records = .error (.missingTextRecord (headerLine r)) := by
  induction records generalizing queues with
  | nil => exact Or.inl ⟨[], rfl, rfl, by simp⟩
  | cons record rest ih =>
    cases hfirst : replacement? queues [] record with
    | none => exact Or.inr ⟨0, record, rfl, hfirst, revealed_cons_of_none rest hfirst⟩
    | some first =>
      rw [revealed_cons_of_some rest hfirst]
      rcases ih (popped queues (headerLine record)) with ⟨shown, hok, hlength, hplaces⟩ |
        ⟨i, r, hr, hnone, herror⟩
      · rw [hok]
        refine Or.inl ⟨first :: shown, rfl, by rw [List.length_cons, hlength, List.length_cons], ?_⟩
        intro i r hr
        cases i with
        | zero =>
          cases hr
          exact hfirst.symm
        | succ i => rw [List.take_succ_cons, replacement?_cons, List.getElem?_cons_succ, hplaces i r hr]
      · rw [herror]
        refine Or.inr ⟨i + 1, r, hr, ?_, rfl⟩
        rw [List.take_succ_cons, replacement?_cons, hnone]

/-! ## A diff and the same diff as text -/

/-- The hidden source records are replaced: the one that is the `k`-th of its header among the records, by the
`k`-th of that header among the texts. The others stay. -/
def Replaced (records texts shown : List Text) : Prop :=
  shown.length = records.length ∧ ∀ i r, records[i]? = some r → shown[i]? =
    if isBinarySource r then
      (texts.filter (headerLine · == headerLine r))[countHeader (headerLine r) (records.take (i + 1)) - 1]?
    else some r

/-- Some hidden source record is the `k`-th of its header, and fewer than `k` texts have that header. -/
def Lacks (records texts : List Text) : Prop :=
  ∃ i r, records[i]? = some r ∧ isBinarySource r = true ∧
    countHeader (headerLine r) texts < countHeader (headerLine r) (records.take (i + 1))

theorem countHeader_take_succ {records : List Text} {i : Nat} {r : Text} (h : records[i]? = some r) :
    countHeader (headerLine r) (records.take (i + 1)) = countHeader (headerLine r) (records.take i) + 1 := by
  rw [List.take_add_one, h, Option.toList_some, countHeader, List.countP_append, List.countP_singleton,
    if_pos (beq_self_eq_true _)]
  rfl

theorem replacement?_groupBy (texts : List Text) {records : List Text} {i : Nat} {r : Text}
    (h : records[i]? = some r) :
    replacement? (OrderedMap.groupBy headerLine texts) (records.take i) r =
      if isBinarySource r then
        (texts.filter (headerLine · == headerLine r))[countHeader (headerLine r) (records.take (i + 1)) - 1]?
      else some r := by
  rw [replacement?, waiting, OrderedMap.getD_get?_groupBy, countHeader_take_succ h, Nat.add_sub_cancel]

theorem replacement?_groupBy_eq_none_iff (texts : List Text) {records : List Text} {i : Nat} {r : Text}
    (h : records[i]? = some r) :
    replacement? (OrderedMap.groupBy headerLine texts) (records.take i) r = none ↔
      isBinarySource r = true ∧
        countHeader (headerLine r) texts < countHeader (headerLine r) (records.take (i + 1)) := by
  rw [replacement?_groupBy texts h, countHeader_take_succ h, Nat.add_sub_cancel]
  split
  · rename_i hhidden
    rw [List.getElem?_eq_none_iff, ← List.countP_eq_length_filter, ← countHeader, Nat.lt_succ_iff]
    exact (and_iff_right hhidden).symm
  · rename_i hhidden
    exact iff_of_false (Option.some_ne_none r) fun hand => hhidden hand.1

theorem reveal_replaces (diff textDiff : Text) :
    (Lacks (rawRecords diff) (rawRecords textDiff) ↔
      ∃ header, reveal diff textDiff = .error (.missingTextRecord header)) ∧
    (¬ Lacks (rawRecords diff) (rawRecords textDiff) →
      ∃ shown, Replaced (rawRecords diff) (rawRecords textDiff) shown ∧
        reveal diff textDiff = .ok shown.flatten) := by
  have hreveal : reveal diff textDiff = (revealed (OrderedMap.groupBy headerLine (rawRecords textDiff))
      (rawRecords diff)).map List.flatten := by
    rw [reveal]
    cases revealed (OrderedMap.groupBy headerLine (rawRecords textDiff)) (rawRecords diff) <;> rfl
  rcases revealed_eq_ok_or_error (OrderedMap.groupBy headerLine (rawRecords textDiff)) (rawRecords diff) with
    ⟨shown, hok, hlength, hplaces⟩ | ⟨i, r, hr, hnone, herror⟩
  · have hnot : ¬ Lacks (rawRecords diff) (rawRecords textDiff) := by
      rintro ⟨i, r, hr, hlacks⟩
      have hnone := (hplaces i r hr).trans ((replacement?_groupBy_eq_none_iff _ hr).2 hlacks)
      have hlt : i < (rawRecords diff).length := (List.getElem?_eq_some_iff.1 hr).1
      exact absurd (List.getElem?_eq_none_iff.1 hnone) (by omega)
    rw [hreveal, hok]
    refine ⟨iff_of_false hnot ?_, fun _ => ⟨shown, ⟨hlength, fun i r hr => ?_⟩, rfl⟩⟩
    · rintro ⟨header, heq⟩
      cases heq
    · rw [hplaces i r hr, replacement?_groupBy _ hr]
  · have hlacks : Lacks (rawRecords diff) (rawRecords textDiff) :=
      ⟨i, r, hr, (replacement?_groupBy_eq_none_iff _ hr).1 hnone⟩
    rw [hreveal, herror]
    exact ⟨iff_of_true hlacks ⟨headerLine r, rfl⟩, fun hnot => absurd hlacks hnot⟩

theorem on_withSourceText_of_none {repository diff : Text} {d : DiffCommand} {status : Int} (s : Session)
    (h : ∀ r ∈ rawRecords diff, isBinarySource r = false) :
    (withSourceText repository d status diff).on s = (.ok diff, s) := by
  have hany : (rawRecords diff).any isBinarySource = false := by
    rw [List.any_eq_false]
    exact fun r hr => Bool.not_eq_true _ ▸ h r hr
  rw [withSourceText, hany]
  rfl

theorem on_withSourceText_of_exists {repository diff : Text} {d : DiffCommand} {s after : Session}
    {outcome : Outcome} (h : ∃ r ∈ rawRecords diff, isBinarySource r = true)
    (hrun : (Action.run d.textLine).on s = (.ok outcome, after)) :
    (withSourceText repository d outcome.status diff).on s = (reveal diff outcome.outputText, after) := by
  have hany : (rawRecords diff).any isBinarySource = true := List.any_eq_true.2 h
  have hstatus : (outcome.status != outcome.status) = false := bne_self_eq_false outcome.status
  rw [withSourceText, hany, if_neg (by decide), Action.on_bind hrun, hstatus, if_neg Bool.false_ne_true]
  exact Action.on_lift _ after

/-- A diff without hidden source records is left as it is, and nothing is run again. Otherwise the hidden
records are replaced by those of the diff as text, header by header and in turn; it fails exactly if the text
has too few records of a header. -/
theorem withSourceText_replaces_hidden_records (repository : Text) (d : DiffCommand) (status : Int)
    (diff : Text) (s : Session) :
    DividedAtMarks diff (rawRecords diff) ∧
    ((∀ r ∈ rawRecords diff, isBinarySource r = false) →
      (withSourceText repository d status diff).on s = (.ok diff, s)) ∧
    ((∃ r ∈ rawRecords diff, isBinarySource r = true) → ∀ outcome after,
      (Action.run d.textLine).on s = (.ok outcome, after) → outcome.status = status →
      DividedAtMarks outcome.outputText (rawRecords outcome.outputText) ∧
      (Lacks (rawRecords diff) (rawRecords outcome.outputText) ↔ ∃ header,
        (withSourceText repository d status diff).on s = (.error (.missingTextRecord header), after)) ∧
      (¬ Lacks (rawRecords diff) (rawRecords outcome.outputText) → ∃ shown,
        Replaced (rawRecords diff) (rawRecords outcome.outputText) shown ∧
        (withSourceText repository d status diff).on s = (.ok shown.flatten, after))) := by
  refine ⟨Patch.rawRecords_dividedAtMarks diff, on_withSourceText_of_none s, ?_⟩
  rintro hhidden outcome after hrun rfl
  obtain ⟨hlacks, hreplaced⟩ := reveal_replaces diff outcome.outputText
  rw [on_withSourceText_of_exists hhidden hrun]
  simp only [Prod.mk.injEq, and_true]
  exact ⟨Patch.rawRecords_dividedAtMarks _, hlacks, hreplaced⟩

/-- A link that is removed. -/
def removedLink : Text := "diff --git c.py c.py\n-t\n"

/-- A source file in the place of the link, hidden as binary. -/
def hiddenSource : Text := "diff --git c.py c.py\nBinary files differ\n"

/-- The same source file as text. -/
def shownSource : Text := "diff --git c.py c.py\n+x\n"

/-- The second record of a header is replaced by the second one, though the first is not hidden. -/
theorem withSourceText_replaces_hidden_records_second :
    let outcome : Outcome := { output := (removedLink ++ shownSource).flatMap CodePoint.utf8 }
    let s : Session := { prepared := [⟨none, .finished outcome⟩] }
    (∃ r ∈ rawRecords (removedLink ++ hiddenSource), isBinarySource r = true) ∧
      ¬ Lacks (rawRecords (removedLink ++ hiddenSource)) (rawRecords outcome.outputText) ∧
      ∃ (shown : List Text) (after : Session), shown[0]? = some removedLink ∧ shown[1]? = some shownSource ∧
        (withSourceText "." .staged 0 (removedLink ++ hiddenSource)).on s = (.ok shown.flatten, after) := by
  intro outcome s
  have hrecords : rawRecords (removedLink ++ hiddenSource) = [removedLink, hiddenSource] := by decide +kernel
  have htexts : rawRecords outcome.outputText = [removedLink, shownSource] := by decide +kernel
  have hlink : isBinarySource removedLink = false := by decide +kernel
  have hsource : isBinarySource hiddenSource = true := by decide +kernel
  have hheaders : headerLine removedLink = headerLine hiddenSource ∧
      headerLine shownSource = headerLine hiddenSource := by decide +kernel
  have hhidden : ∃ r ∈ rawRecords (removedLink ++ hiddenSource), isBinarySource r = true :=
    ⟨hiddenSource, by simp [hrecords], hsource⟩
  have hlacks : ¬ Lacks (rawRecords (removedLink ++ hiddenSource)) (rawRecords outcome.outputText) := by
    rw [hrecords, htexts]
    rintro ⟨i, r, hr, hidden, hlt⟩
    rcases i with _ | _ | i
    · cases hr
      exact absurd (hlink.symm.trans hidden) Bool.false_ne_true
    · cases hr
      exact absurd hlt (by simp [countHeader, hheaders])
    · cases hr
  have hrun : (Action.run DiffCommand.staged.textLine).on s
      = (.ok outcome, { s with prepared := [], commands := [DiffCommand.staged.textLine] }) := rfl
  obtain ⟨-, -, hrest⟩ :=
    withSourceText_replaces_hidden_records "." .staged 0 (removedLink ++ hiddenSource) s
  obtain ⟨-, -, hreplaced⟩ := hrest hhidden outcome _ hrun rfl
  obtain ⟨shown, ⟨-, hplaces⟩, hresult⟩ := hreplaced hlacks
  rw [hrecords, htexts] at hplaces
  refine ⟨hhidden, hlacks, shown, _, ?_, ?_, hresult⟩
  · rw [hplaces 0 removedLink rfl, hlink, if_neg Bool.false_ne_true]
  · rw [hplaces 1 hiddenSource rfl, hsource, if_pos rfl]
    simp [countHeader, hheaders]

end Repository

end ChangeReview
