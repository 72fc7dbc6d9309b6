import ChangeReview.Proofs.Session.Basic
import ChangeReview.Proofs.Text.Basic
import ChangeReview.Proofs.Text.Encoding
import ChangeReview.Repository.Worktree

/-!
# Reading inside the working tree

A path that comes with a patch may name anything. `Worktree.content_eq_some_iff` says what is read for it: the
regular file that its parts lead to through real directories of the repository, and nothing else. A link on the way
or at the end, to wherever it leads, gives no text.
-/

namespace ChangeReview

namespace FileTree

variable {t entry : FileTree} {name : Text} {rest : List Text} {data : Bytes}

theorem at?_of_entry_eq (h : t.entry? name = some entry) (later : List Text) :
    t.at? (name :: later) = entry.at? later := by
  rw [at?, h]
  rfl

theorem exists_directory_of_entry_eq (h : t.entry? name = some entry) : ∃ entries, t = .directory entries := by
  cases t with
  | directory entries => exact ⟨entries, rfl⟩
  | _ => cases h

/-- The parts lead to a regular file with these bytes, and whatever stands on the way is a directory. No link is
followed. -/
structure Reaches (root : FileTree) (parts : List Text) (data : Bytes) : Prop where
  directories : ∀ lead, lead <+: parts → lead ≠ parts → ∃ entries, root.at? lead = some (.directory entries)
  file : ∃ isExecutable, root.at? parts = some (.file data isExecutable)

theorem reaches_nil : t.Reaches [] data ↔ ∃ isExecutable, t = .file data isExecutable := by
  constructor
  · rintro ⟨-, isExecutable, h⟩
    exact ⟨isExecutable, Option.some.inj h⟩
  · rintro ⟨isExecutable, rfl⟩
    exact ⟨fun lead hlead hne => absurd (List.prefix_nil.1 hlead) hne, isExecutable, rfl⟩

theorem reaches_cons : t.Reaches (name :: rest) data ↔ ∃ entry, t.entry? name = some entry ∧ entry.Reaches rest data := by
  constructor
  · intro h
    obtain ⟨isExecutable, hfile⟩ := h.file
    obtain ⟨entry, hentry, -⟩ := Option.bind_eq_some_iff.1 hfile
    refine ⟨entry, hentry, ?_, isExecutable, at?_of_entry_eq hentry rest ▸ hfile⟩
    intro lead hlead hne
    rw [← at?_of_entry_eq hentry]
    exact h.directories (name :: lead) ((List.prefix_cons_inj name).2 hlead) fun heq => hne (List.cons.inj heq).2
  · rintro ⟨entry, hentry, h⟩
    refine ⟨?_, at?_of_entry_eq hentry rest ▸ h.file⟩
    intro lead hlead hne
    rcases List.prefix_cons_iff.1 hlead with rfl | ⟨later, rfl, hlater⟩
    · obtain ⟨around, rfl⟩ := exists_directory_of_entry_eq hentry
      exact ⟨around, rfl⟩
    · rw [at?_of_entry_eq hentry]
      exact h.directories later hlater fun heq => hne (congrArg (name :: ·) heq)

end FileTree

namespace Worktree

theorem isPlain_iff {path : Text} : isPlain path = true ↔ path ≠ [] ∧ CodePoint.ofNat 0 ∉ path ∧
    ¬("/" : Text) <+: path ∧ ∀ part ∈ path.splitOn '/', part ≠ [] ∧ part ≠ "." ∧ part ≠ ".." := by
  simp only [isPlain, Path.isAbsolute, Bool.and_eq_true, Bool.not_eq_true', ← Bool.not_eq_true, List.isEmpty_iff,
    List.contains_iff_mem, Text.startsWith_iff, List.all_eq_true, bne_iff_ne, and_assoc, ne_eq]

/-- The search gives the bytes of the file that names reach, and it fails for no names that files can have. -/
theorem exists_bytes? {parts : List Text} (hne : parts ≠ [])
    (hnames : ∀ part ∈ parts, ∃ raw, part.encodeCarrying = .ok raw) (root : FileTree) :
    ∃ result, bytes? root parts = .ok result ∧ ∀ data, result = some data ↔ root.Reaches parts data := by
  induction parts generalizing root with
  | nil => exact absurd rfl hne
  | cons name rest ih =>
    obtain ⟨⟨raw, hraw⟩, hrest⟩ := List.forall_mem_cons.1 hnames
    simp only [FileTree.reaches_cons]
    unfold bytes?
    rw [hraw]
    cases hentry : root.entry? name with
    | none => exact ⟨none, rfl, by simp⟩
    | some entry =>
      cases rest with
      | nil =>
        cases entry with
        | file data isExecutable => exact ⟨some data, rfl, by simp [FileTree.reaches_nil, -Bool.exists_bool]⟩
        | link target => exact ⟨none, rfl, by simp [FileTree.reaches_nil]⟩
        | directory entries => exact ⟨none, rfl, by simp [FileTree.reaches_nil]⟩
      | cons next rest =>
        -- Only a directory has entries, so no file and no link is passed on the way.
        cases entry with
        | file data isExecutable => exact ⟨none, rfl, by simp [FileTree.reaches_cons, FileTree.entry?]⟩
        | link target => exact ⟨none, rfl, by simp [FileTree.reaches_cons, FileTree.entry?]⟩
        | directory entries =>
          obtain ⟨result, hresult, hiff⟩ := ih (List.cons_ne_nil _ _) hrest (.directory entries)
          exact ⟨result, hresult, by simpa using hiff⟩

/-- For every path that bytes can spell: the text of a file is given exactly if the path is relative, none of its
parts is empty or made of points, and the parts lead through directories alone to a regular file of UTF-8. It is the
text of that file with its line breaks unified. -/
theorem content_eq_some_iff {session : Session} {repository : Text} {place : List Text} {root : FileTree}
    (hroot : session.find repository = .found place root) (raw : Bytes) :
    let path := Bytes.decodeCarrying raw
    ∃ result, (content repository path).on session = (.ok result, session) ∧ ∀ text, result = some text ↔
      path ≠ [] ∧ CodePoint.ofNat 0 ∉ path ∧ ¬("/" : Text) <+: path ∧
        (∀ part ∈ path.splitOn '/', part ≠ [] ∧ part ≠ "." ∧ part ≠ "..") ∧
        ∃ data stored, root.Reaches (path.splitOn '/') data ∧ Text.encode stored = .ok data ∧
          text = stored.unifyBreaks := by
  intro path
  have hnames : ∀ part ∈ path.splitOn '/', ∃ raw, part.encodeCarrying = .ok raw := fun part hpart =>
    ⟨_, Text.encodeCarrying_eq_ok fun c hc =>
      Text.proper_of_mem_decodeCarrying (Text.mem_of_mem_splitOn hpart hc)⟩
  obtain ⟨found, hfound, hreach⟩ := exists_bytes? (Text.splitOn_ne_nil _ path) hnames root
  by_cases hplain : isPlain path = true
  · refine ⟨(found.bind Bytes.decode?).map Text.unifyBreaks, ?_, fun text => ?_⟩
    · have hread : read? root path = .ok ((found.bind Bytes.decode?).map Text.unifyBreaks) := by
        unfold read?
        rw [if_neg (by simp [hplain]), hfound]
        rfl
      have hget : (get : Action Session).on session = (.ok session, session) := rfl
      unfold content
      rw [if_neg (by simp [hplain])]
      simp only [Action.on_bind hget, hroot]
      exact (Action.on_lift _ _).trans (congrArg (·, session) hread)
    · obtain ⟨hne, hzero, habsolute, hparts⟩ := isPlain_iff.1 hplain
      simp only [Option.map_eq_some_iff, Option.bind_eq_some_iff, hreach, Text.decode?_eq_some_iff]
      constructor
      · rintro ⟨stored, ⟨data, hdata, hstored⟩, rfl⟩
        exact ⟨hne, hzero, habsolute, hparts, data, stored, hdata, hstored, rfl⟩
      · rintro ⟨-, -, -, -, data, stored, hdata, hstored, rfl⟩
        exact ⟨stored, ⟨data, hdata, hstored⟩, rfl⟩
  · refine ⟨none, ?_, fun text => iff_of_false (Option.some_ne_none text).symm ?_⟩
    · unfold content
      rw [if_pos (by simpa using hplain)]
      rfl
    · rintro ⟨hne, hzero, habsolute, hparts, -⟩
      exact hplain (isPlain_iff.2 ⟨hne, hzero, habsolute, hparts⟩)

/-- A directory and a link to it: a file is read through the one and not through the other. -/
theorem content_eq_some_iff_linked :
    let session : Session :=
      { files := .directory [("d", .directory [("f", .file [0xC3, 0xA9, 0x0D, 0x0A] false)]), ("l", .link "d")] }
    session.find "." = .found [] session.files ∧
      (content "." (Bytes.decodeCarrying [0x64, 0x2F, 0x66])).on session = (.ok (some ("é\n" : Text)), session) ∧
      (content "." (Bytes.decodeCarrying [0x6C, 0x2F, 0x66])).on session = (.ok none, session) := by
  intro session
  have hroot : session.find "." = .found [] session.files := by
    have hinside : session.inside? "." = some [] := by decide
    rw [Session.find, hinside]
    show session.files.find [] = _
    rw [FileTree.find, FileTree.follow]
    rfl
  have hdirect : Text.splitOn '/' (Bytes.decodeCarrying [0x64, 0x2F, 0x66]) = Text.list ["d", "f"] := by decide +kernel
  have hlinked : Text.splitOn '/' (Bytes.decodeCarrying [0x6C, 0x2F, 0x66]) = Text.list ["l", "f"] := by decide +kernel
  obtain ⟨direct, hon, hiff⟩ := content_eq_some_iff hroot [0x64, 0x2F, 0x66]
  obtain ⟨linked, hon', hiff'⟩ := content_eq_some_iff hroot [0x6C, 0x2F, 0x66]
  have hreached : session.files.Reaches (Text.list ["d", "f"]) [0xC3, 0xA9, 0x0D, 0x0A] :=
    FileTree.reaches_cons.2 ⟨_, rfl, FileTree.reaches_cons.2 ⟨_, rfl, FileTree.reaches_nil.2 ⟨false, rfl⟩⟩⟩
  refine ⟨hroot, ?_, ?_⟩
  · have hsome : direct = some ("é\n" : Text) := by
      refine (hiff _).2 ⟨by decide +kernel, by decide +kernel, by decide +kernel, ?_, _, "é\r\n", ?_, rfl, by decide⟩
      · rw [hdirect]
        decide
      · rw [hdirect]
        exact hreached
    rw [hon, hsome]
  · cases linked with
    | none => exact hon'
    | some text =>
      obtain ⟨-, -, -, -, data, -, hreaches, -⟩ := (hiff' text).1 rfl
      rw [hlinked] at hreaches
      obtain ⟨entry, hentry, hreaches⟩ := FileTree.reaches_cons.1 hreaches
      obtain rfl : FileTree.link "d" = entry := Option.some.inj hentry
      obtain ⟨below, hbelow, -⟩ := FileTree.reaches_cons.1 hreaches
      cases hbelow

end Worktree

end ChangeReview
