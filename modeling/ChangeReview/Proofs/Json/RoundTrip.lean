import ChangeReview.Proofs.Json.Scalars

/-!
# Documents read back

A document is plain ASCII on its lines, and reading it gives the value that was written: every string in it
comes back code point for code point, every integer with its sign, and items and members in their order.
-/

namespace ChangeReview

namespace OrderedMap

variable {κ α : Type} [BEq κ] [LawfulBEq κ]

theorem put_of_not_mem {m : OrderedMap κ α} {key : κ} (h : key ∉ m.map Prod.fst) (value : α) :
    m.put key value = m ++ [(key, value)] := by
  induction m with
  | nil => rfl
  | cons e m ih =>
    obtain ⟨k, v⟩ := e
    rw [List.map_cons, List.mem_cons, not_or] at h
    have hne : ¬ (k == key) = true := by simpa using Ne.symm h.1
    rw [put, if_neg hne, ih h.2, List.cons_append]

/-- Pairs with new keys go to the end of a map in their order. -/
theorem foldl_put {done pairs : List (κ × α)} (h : ((done ++ pairs).map Prod.fst).Nodup) :
    pairs.foldl (fun m (key, value) => put m key value) done = done ++ pairs := by
  induction pairs generalizing done with
  | nil => simp
  | cons e pairs ih =>
    obtain ⟨key, value⟩ := e
    have hnew : key ∉ done.map Prod.fst := by
      rw [List.map_append, List.map_cons, List.nodup_append] at h
      intro hmem
      exact h.2.2 key hmem key List.mem_cons_self rfl
    rw [List.foldl_cons]
    simp only
    rw [put_of_not_mem hnew, ih (by simpa using h), List.append_assoc]
    rfl

theorem ofList_eq_self {pairs : List (κ × α)} (h : (pairs.map Prod.fst).Nodup) : ofList pairs = pairs :=
  foldl_put h

end OrderedMap

namespace Json

/-! ## Values -/

/-- A value that a document can hold as it is: no binary fractions, strings that satisfy `p`, and members
with different keys that can be written. -/
inductive Tidy (p : Text → Prop) : Json → Prop where
  | null : Tidy p .null
  | bool (b : Bool) : Tidy p (.bool b)
  | int (n : Int) : Tidy p (.int n)
  | str {t : Text} (h : p t) : Tidy p (.str t)
  | arr {items : List Json} (h : ∀ v ∈ items, Tidy p v) : Tidy p (.arr items)
  | obj {members : List (Text × Json)} (hkeys : (members.map Prod.fst).Nodup)
      (hproper : ∀ m ∈ members, m.1.Proper) (h : ∀ m ∈ members, Tidy p m.2) : Tidy p (.obj members)

theorem skipBlanks_newLine (depth : Nat) (t : Text) : skipBlanks (newLine depth ++ t) = skipBlanks t := by
  unfold skipBlanks newLine
  rw [List.dropWhile_append_of_pos]
  intro c hc
  rcases List.mem_cons.1 hc with rfl | hc
  · rfl
  · rw [(List.mem_replicate.1 hc).2]
    rfl

theorem closes_newLine (depth : Nat) (t : Text) : Closes (newLine depth ++ t) := by
  intro c hc
  cases hc
  exact Or.inr rfl

theorem closes_comma (t : Text) : Closes ((',' : CodePoint) :: t) := by
  intro c hc
  cases hc
  exact Or.inl rfl

theorem indented_arr {items : List Json} (h : items ≠ []) (depth : Nat) :
    indented depth (.arr items) = ('[' : CodePoint) ::
      (indentedItems (depth + 1) items ++ (newLine depth ++ [(']' : CodePoint)])) := by
  cases items with
  | nil => exact absurd rfl h
  | cons v items =>
    rw [indented]
    · simp [Text.ofString]
    · simp

theorem indented_obj {members : List (Text × Json)} (h : members ≠ []) (depth : Nat) :
    indented depth (.obj members) = ('\x7b' : CodePoint) ::
      (indentedMembers (depth + 1) members ++ (newLine depth ++ [('\x7d' : CodePoint)])) := by
  cases members with
  | nil => exact absurd rfl h
  | cons m members =>
    rw [indented]
    · simp [Text.ofString]
    · simp

theorem indentedItems_cons {v : Json} {items : List Json} (h : items ≠ []) (depth : Nat) :
    indentedItems depth (v :: items)
      = newLine depth ++ (indented depth v ++ (',' : CodePoint) :: indentedItems depth items) := by
  rw [indentedItems]
  · simp [Text.ofString]
  · exact h

/-- The first item stands on a line of its own. -/
theorem exists_indentedItems_eq (v : Json) (items : List Json) (depth : Nat) :
    ∃ tail, indentedItems depth (v :: items) = newLine depth ++ (indented depth v ++ tail) := by
  by_cases h : items = []
  · subst h
    exact ⟨[], by rw [indentedItems, List.append_nil]⟩
  · exact ⟨_, indentedItems_cons h depth⟩

theorem indentedMembers_cons {key : Text} {v : Json} {members : List (Text × Json)} (h : members ≠ [])
    (depth : Nat) : indentedMembers depth ((key, v) :: members)
      = newLine depth ++ (quote key ++ (':' : CodePoint) :: (' ' : CodePoint) ::
        (indented depth v ++ (',' : CodePoint) :: indentedMembers depth members)) := by
  rw [indentedMembers]
  · simp [Text.ofString]
  · exact h

/-- The first member stands on a line of its own. -/
theorem exists_indentedMembers_eq (key : Text) (v : Json) (members : List (Text × Json)) (depth : Nat) :
    ∃ tail, indentedMembers depth ((key, v) :: members) = newLine depth ++ (quote key ++ tail) := by
  by_cases h : members = []
  · subst h
    refine ⟨(": " : Text) ++ indented depth v, ?_⟩
    rw [indentedMembers]
    simp
  · exact ⟨_, indentedMembers_cons h depth⟩

/-! ## Reading a value back -/

theorem skipBlanks_cons {c : CodePoint} (h : 0x20 < c.val) (t : Text) : skipBlanks (c :: t) = c :: t := by
  have hblank : ¬ (c == ' ' || c == '\t' || c == '\n' || c == '\r') = true := by
    intro hc
    simp only [Bool.or_eq_true, beq_iff_eq] at hc
    rcases hc with ((rfl | rfl) | rfl) | rfl <;> revert h <;> decide
  rw [skipBlanks, List.dropWhile_cons, if_neg hblank]

/-- A value whose document is read back whatever follows it. It begins with a code point that cannot be
taken for layout. -/
structure Reads (v : Json) : Prop where
  head (depth : Nat) : ∃ c t, indented depth v = c :: t ∧ 0x20 < c.val ∧ (c == ']') = false
  value {depth fuel : Nat} {rest : Text} (hrest : Closes rest) (hfuel : (indented depth v).length ≤ fuel) :
    readValue fuel (indented depth v ++ rest) = some (v, rest)

theorem Reads.skipBlanks {v : Json} (h : Reads v) (depth : Nat) (rest : Text) :
    skipBlanks (indented depth v ++ rest) = indented depth v ++ rest := by
  obtain ⟨c, t, heq, hc, -⟩ := h.head depth
  rw [heq]
  exact skipBlanks_cons hc _

theorem readValue_word {c : CodePoint} {t : Text} (hquote : (c == '"') = false) (hbracket : (c == '[') = false)
    (hbrace : (c == '\x7b') = false) (fuel : Nat) : readValue (fuel + 1) (c :: t) = readWord (c :: t) := by
  rw [readValue.eq_def]
  simp only [hquote, hbracket, hbrace, Bool.false_eq_true, if_false]

/-- A value that is read has a document, so that its reader takes a step. -/
theorem Reads.of_step {v : Json}
    (hhead : ∀ depth, ∃ c t, indented depth v = c :: t ∧ 0x20 < c.val ∧ (c == ']') = false)
    (hvalue : ∀ depth fuel rest, Closes rest → (indented depth v).length ≤ fuel + 1 →
      readValue (fuel + 1) (indented depth v ++ rest) = some (v, rest)) : Reads v := by
  refine ⟨hhead, fun {depth fuel rest} hrest hfuel => ?_⟩
  obtain ⟨c, t, heq, -, -⟩ := hhead depth
  have hpos : 0 < (indented depth v).length := by simp [heq]
  obtain ⟨fuel, rfl⟩ : ∃ n, fuel = n + 1 := ⟨fuel - 1, by omega⟩
  exact hvalue depth fuel rest hrest hfuel

theorem reads_null : Reads .null :=
  .of_step (fun _ => ⟨'n', _, rfl, by decide, by decide⟩) fun _ _ _ _ _ => rfl

theorem reads_bool (b : Bool) : Reads (.bool b) := by
  cases b with
  | true => exact .of_step (fun _ => ⟨'t', _, rfl, by decide, by decide⟩) fun _ _ _ _ _ => rfl
  | false => exact .of_step (fun _ => ⟨'f', _, rfl, by decide, by decide⟩) fun _ _ _ _ _ => rfl

theorem indented_int (depth : Nat) (n : Int) : indented depth (.int n) = Text.ofInt n := by
  simp [indented, scalar]

theorem indented_str (depth : Nat) (t : Text) : indented depth (.str t) = quote t := by
  simp [indented, scalar]

theorem reads_int (n : Int) : Reads (.int n) := by
  obtain ⟨c, t, heq, hc⟩ : ∃ c t, Text.ofInt n = c :: t ∧ (c = '-' ∨ c.isAsciiDigit = true) := by
    cases n with
    | ofNat n =>
      obtain ⟨c, t, heq, hc⟩ := exists_digit_ofNat n
      exact ⟨c, t, heq, Or.inr hc⟩
    | negSucc n => exact ⟨'-', _, rfl, Or.inl rfl⟩
  have hother : ∀ d : CodePoint, d ≠ '-' → d.isAsciiDigit = false → (c == d) = false := by
    intro d hsign hdigit
    rw [beq_eq_false_iff_ne]
    rcases hc with rfl | hc
    · exact hsign.symm
    · exact (ne_of_digit hc hdigit).symm
  have hvisible : 0x20 < c.val := by
    rcases hc with rfl | hc
    · decide
    · simp only [CodePoint.isAsciiDigit, Bool.and_eq_true, decide_eq_true_eq] at hc
      omega
  refine .of_step (fun depth => ⟨c, t, ?_, hvisible, hother ']' (by decide) (by decide)⟩)
    fun depth fuel rest hrest _ => ?_
  · rw [indented_int, heq]
  · have hword := readWord_ofInt n hrest
    rw [indented_int]
    rw [heq, List.cons_append] at hword ⊢
    rw [readValue_word (hother _ (by decide) (by decide)) (hother _ (by decide) (by decide))
      (hother _ (by decide) (by decide)), hword]

theorem reads_str {t : Text} (h : t.Proper) : Reads (.str t) := by
  refine .of_step (fun depth => ⟨'"', t.flatMap escape ++ [('"' : CodePoint)], ?_, by decide, by decide⟩)
    fun depth fuel rest _ _ => ?_
  · rw [indented_str, quote_eq]
  · rw [indented_str, quote_append, readValue.eq_def]
    simp only
    rw [if_pos (by decide), readString_quote h]
    rfl

/-! ## Arrays and objects -/

/-- The reader is given at least as many steps as the text is long. A step goes to each new line, which leaves
the item behind it as many steps as it is long. -/
theorem readItems_indented {items : List Json} (hne : items ≠ []) (h : ∀ v ∈ items, Reads v) {depth fuel : Nat}
    (hfuel : (indentedItems depth items).length ≤ fuel) (outer : Nat) (rest : Text) :
    readItems fuel (skipBlanks (indentedItems depth items ++ (newLine outer ++ (']' : CodePoint) :: rest)))
      = some (items, rest) := by
  induction items generalizing fuel with
  | nil => exact absurd rfl hne
  | cons v items ih =>
    obtain ⟨hv, hitems⟩ := List.forall_mem_cons.1 h
    have hline : 0 < (newLine depth).length := by simp [newLine]
    by_cases hlast : items = []
    · subst hlast
      have htext : indentedItems depth [v] = newLine depth ++ indented depth v := by rw [indentedItems]
      rw [htext, List.length_append] at hfuel
      obtain ⟨fuel, rfl⟩ : ∃ n, fuel = n + 1 := ⟨fuel - 1, by omega⟩
      rw [htext, List.append_assoc, skipBlanks_newLine, hv.skipBlanks, readItems,
        hv.value (closes_newLine _ _) (by omega)]
      simp only [Option.bind_eq_bind, Option.bind_some]
      rw [skipBlanks_newLine, skipBlanks_cons (by decide)]
      rfl
    · rw [indentedItems_cons hlast, List.length_append, List.length_append, List.length_cons] at hfuel
      obtain ⟨fuel, rfl⟩ : ∃ n, fuel = n + 1 := ⟨fuel - 1, by omega⟩
      rw [indentedItems_cons hlast, List.append_assoc, skipBlanks_newLine, List.append_assoc, hv.skipBlanks,
        List.cons_append, readItems, hv.value (closes_comma _) (by omega)]
      simp only [Option.bind_eq_bind, Option.bind_some]
      rw [skipBlanks_cons (by decide)]
      simp only
      rw [if_neg (by decide), if_pos (by decide), ih hlast hitems (by omega)]
      rfl

theorem skipBlanks_quote (t rest : Text) : skipBlanks (quote t ++ rest) = quote t ++ rest := by
  rw [quote_append]
  exact skipBlanks_cons (by decide) _

/-- The key of a member is read, and the reader goes on with its value. -/
theorem readMembers_key {key : Text} (hkey : key.Proper) {v : Json} (hv : Reads v) {depth fuel : Nat}
    {tail : Text} (htail : Closes tail) (hfuel : (indented depth v).length ≤ fuel) {d : CodePoint}
    {after : Text} (hafter : skipBlanks tail = d :: after) :
    readMembers (fuel + 1) (quote key ++ (':' : CodePoint) :: (' ' : CodePoint) :: (indented depth v ++ tail))
      = if d == '\x7d' then some ([(key, v)], after)
        else if d == ',' then
          (readMembers fuel (skipBlanks after)).map fun (members, tail) => ((key, v) :: members, tail)
        else none := by
  have hcolon : Text.after? ":" ((':' : CodePoint) :: (' ' : CodePoint) :: (indented depth v ++ tail))
      = some ((' ' : CodePoint) :: (indented depth v ++ tail)) := rfl
  have hblank : skipBlanks ((' ' : CodePoint) :: (indented depth v ++ tail)) = indented depth v ++ tail := by
    show skipBlanks (indented depth v ++ tail) = indented depth v ++ tail
    exact hv.skipBlanks depth tail
  rw [quote_append, readMembers.eq_def]
  simp only
  rw [if_neg (by decide), readString_quote hkey]
  simp only [Option.bind_eq_bind, Option.bind_some]
  rw [skipBlanks_cons (by decide), hcolon]
  simp only [Option.bind_some]
  rw [hblank, hv.value htail hfuel]
  simp only [Option.bind_some]
  rw [hafter]
  simp only
  cases readMembers fuel (skipBlanks after) <;> rfl

theorem readMembers_indented {members : List (Text × Json)} (hne : members ≠ [])
    (hproper : ∀ m ∈ members, m.1.Proper) (h : ∀ m ∈ members, Reads m.2) {depth fuel : Nat}
    (hfuel : (indentedMembers depth members).length ≤ fuel) (outer : Nat) (rest : Text) :
    readMembers fuel (skipBlanks (indentedMembers depth members
      ++ (newLine outer ++ ('\x7d' : CodePoint) :: rest))) = some (members, rest) := by
  induction members generalizing fuel with
  | nil => exact absurd rfl hne
  | cons m members ih =>
    obtain ⟨key, v⟩ := m
    obtain ⟨hv, hmembers⟩ : Reads v ∧ ∀ m ∈ members, Reads m.2 := List.forall_mem_cons.1 h
    obtain ⟨hkey, hkeys⟩ : key.Proper ∧ ∀ m ∈ members, m.1.Proper := List.forall_mem_cons.1 hproper
    have hline : 0 < (newLine depth).length := by simp [newLine]
    by_cases hlast : members = []
    · subst hlast
      have htext : indentedMembers depth [(key, v)]
          = newLine depth ++ (quote key ++ (':' : CodePoint) :: (' ' : CodePoint) :: indented depth v) := by
        rw [indentedMembers]
        simp [Text.ofString]
      rw [htext, List.length_append, List.length_append, List.length_cons, List.length_cons] at hfuel
      obtain ⟨fuel, rfl⟩ : ∃ n, fuel = n + 1 := ⟨fuel - 1, by omega⟩
      have hclose : skipBlanks (newLine outer ++ ('\x7d' : CodePoint) :: rest)
          = ('\x7d' : CodePoint) :: rest := by
        rw [skipBlanks_newLine, skipBlanks_cons (by decide)]
      rw [htext, List.append_assoc, skipBlanks_newLine, List.append_assoc, skipBlanks_quote, List.cons_append,
        List.cons_append, readMembers_key hkey hv (closes_newLine _ _) (by omega) hclose]
      rfl
    · rw [indentedMembers_cons hlast, List.length_append, List.length_append, List.length_cons,
        List.length_cons, List.length_append, List.length_cons] at hfuel
      obtain ⟨fuel, rfl⟩ : ∃ n, fuel = n + 1 := ⟨fuel - 1, by omega⟩
      rw [indentedMembers_cons hlast, List.append_assoc, skipBlanks_newLine, List.append_assoc,
        skipBlanks_quote, List.cons_append, List.cons_append, List.append_assoc, List.cons_append,
        readMembers_key hkey hv (closes_comma _) (by omega) (skipBlanks_cons (by decide) _), if_neg (by decide),
        if_pos (by decide), ih hlast hkeys hmembers (by omega)]
      rfl

theorem reads_arr {items : List Json} (h : ∀ v ∈ items, Reads v) : Reads (.arr items) := by
  by_cases hne : items = []
  · subst hne
    exact .of_step (fun _ => ⟨'[', [(']' : CodePoint)], rfl, by decide, by decide⟩) fun _ _ _ _ _ => rfl
  · refine .of_step (fun depth => ⟨'[', _, indented_arr hne depth, by decide, by decide⟩)
      fun depth fuel rest _ hfuel => ?_
    rw [indented_arr hne, List.length_cons, List.length_append] at hfuel
    have hitems := readItems_indented hne h
      (show (indentedItems (depth + 1) items).length ≤ fuel by omega) depth rest
    -- the reader looks for the closing bracket first, and meets the first item
    obtain ⟨c, t, hstart, hc⟩ : ∃ c t, skipBlanks (indentedItems (depth + 1) items
        ++ (newLine depth ++ (']' : CodePoint) :: rest)) = c :: t ∧ (c == ']') = false := by
      obtain ⟨v, others, rfl⟩ := List.exists_cons_of_ne_nil hne
      have hv := h v List.mem_cons_self
      obtain ⟨tail, htail⟩ := exists_indentedItems_eq v others (depth + 1)
      obtain ⟨c, t, hhead, -, hc⟩ := hv.head (depth + 1)
      refine ⟨c, t ++ (tail ++ (newLine depth ++ (']' : CodePoint) :: rest)), ?_, hc⟩
      rw [htail, List.append_assoc, skipBlanks_newLine, List.append_assoc, hv.skipBlanks, hhead,
        List.cons_append]
    rw [hstart] at hitems
    rw [indented_arr hne, List.cons_append, List.append_assoc, List.append_assoc, List.singleton_append,
      readValue.eq_def]
    simp only
    rw [if_neg (by decide), if_pos (by decide), hstart]
    simp only
    rw [hc, if_neg Bool.false_ne_true, hitems]
    rfl

theorem reads_obj {members : List (Text × Json)} (hkeys : (members.map Prod.fst).Nodup)
    (hproper : ∀ m ∈ members, m.1.Proper) (h : ∀ m ∈ members, Reads m.2) : Reads (.obj members) := by
  by_cases hne : members = []
  · subst hne
    exact .of_step (fun _ => ⟨'\x7b', [('\x7d' : CodePoint)], rfl, by decide, by decide⟩) fun _ _ _ _ _ => rfl
  · refine .of_step (fun depth => ⟨'\x7b', _, indented_obj hne depth, by decide, by decide⟩)
      fun depth fuel rest _ hfuel => ?_
    rw [indented_obj hne, List.length_cons, List.length_append] at hfuel
    have hmembers := readMembers_indented hne hproper h
      (show (indentedMembers (depth + 1) members).length ≤ fuel by omega) depth rest
    obtain ⟨t, hstart⟩ : ∃ t, skipBlanks (indentedMembers (depth + 1) members
        ++ (newLine depth ++ ('\x7d' : CodePoint) :: rest)) = ('"' : CodePoint) :: t := by
      obtain ⟨⟨key, v⟩, others, rfl⟩ := List.exists_cons_of_ne_nil hne
      obtain ⟨tail, htail⟩ := exists_indentedMembers_eq key v others (depth + 1)
      rw [htail, List.append_assoc, skipBlanks_newLine, List.append_assoc, skipBlanks_quote, quote_append]
      exact ⟨_, rfl⟩
    rw [hstart] at hmembers
    rw [indented_obj hne, List.cons_append, List.append_assoc, List.append_assoc, List.singleton_append,
      readValue.eq_def]
    simp only
    rw [if_neg (by decide), if_neg (by decide), if_pos (by decide), hstart]
    simp only
    rw [if_neg (by decide), hmembers]
    simp only [Option.map_some, OrderedMap.ofList_eq_self hkeys]

theorem Tidy.reads {v : Json} (h : Tidy Text.Proper v) : Reads v := by
  induction h with
  | null => exact reads_null
  | bool b => exact reads_bool b
  | int n => exact reads_int n
  | str h => exact reads_str h
  | arr _ ih => exact reads_arr ih
  | obj hkeys hproper _ ih => exact reads_obj hkeys hproper ih

/-- A document is read back as the value that it was written for. -/
theorem read?_document {v : Json} (h : Tidy Text.Proper v) : read? (document v) = some v := by
  have hreads := h.reads
  have hvalue : readValue ((indented 0 v).length + 1) (indented 0 v ++ []) = some (v, []) :=
    hreads.value (fun c hc => nomatch hc) (Nat.le_succ _)
  have hblanks := hreads.skipBlanks 0 []
  rw [List.append_nil] at hvalue hblanks
  unfold read? document
  rw [hblanks, hvalue]
  rfl

/-! ## Plain documents -/

theorem plainLines_newLine (depth : Nat) : (newLine depth).PlainLines := by
  intro c hc
  rcases List.mem_cons.1 hc with rfl | hc
  · exact Or.inl rfl
  · rw [(List.mem_replicate.1 hc).2]
    exact Or.inr (by decide)

theorem plainLines_items {items : List Json} {depth : Nat} (h : ∀ v ∈ items, (indented depth v).PlainLines) :
    (indentedItems depth items).PlainLines := by
  induction items with
  | nil => simp [indentedItems, Text.PlainLines]
  | cons v items ih =>
    obtain ⟨hv, hitems⟩ := List.forall_mem_cons.1 h
    by_cases hlast : items = []
    · subst hlast
      rw [indentedItems, Text.plainLines_append]
      exact ⟨plainLines_newLine depth, hv⟩
    · rw [indentedItems]
      · simp only [Text.plainLines_append]
        exact ⟨⟨⟨plainLines_newLine depth, hv⟩, (Text.plain_literal _ (by decide)).lines⟩, ih hitems⟩
      · exact hlast

theorem plainLines_members {members : List (Text × Json)} {depth : Nat}
    (h : ∀ m ∈ members, (indented depth m.2).PlainLines) : (indentedMembers depth members).PlainLines := by
  induction members with
  | nil => simp [indentedMembers, Text.PlainLines]
  | cons m members ih =>
    obtain ⟨hm, hmembers⟩ := List.forall_mem_cons.1 h
    have hkey := (plain_quote m.1).lines
    have hcolon : Text.PlainLines ": " := (Text.plain_literal _ (by decide)).lines
    by_cases hlast : members = []
    · subst hlast
      rw [indentedMembers]
      simp only [Text.plainLines_append]
      exact ⟨⟨⟨plainLines_newLine depth, hkey⟩, hcolon⟩, hm⟩
    · rw [indentedMembers]
      · simp only [Text.plainLines_append]
        exact ⟨⟨⟨⟨⟨plainLines_newLine depth, hkey⟩, hcolon⟩, hm⟩, (Text.plain_literal _ (by decide)).lines⟩,
          ih hmembers⟩
      · exact hlast

theorem Tidy.plainLines {p : Text → Prop} {v : Json} (h : Tidy p v) (depth : Nat) :
    (indented depth v).PlainLines := by
  have hsign : ∀ c : CodePoint, 0x20 ≤ c.val ∧ c.val ≤ 0x7E → Text.PlainLines [c] := by
    intro c hc
    simpa [Text.PlainLines] using Or.inr hc
  induction h generalizing depth with
  | null => exact (Text.plain_literal _ (by decide)).lines
  | bool b => cases b <;> exact (Text.plain_literal _ (by decide)).lines
  | int n =>
    rw [indented_int]
    exact (Text.plain_ofInt n).lines
  | str h =>
    rw [indented_str]
    exact (plain_quote _).lines
  | @arr items _ ih =>
    by_cases hne : items = []
    · subst hne
      exact (Text.plain_literal _ (by decide)).lines
    · rw [indented_arr hne, ← List.singleton_append]
      simp only [Text.plainLines_append]
      exact ⟨hsign _ (by decide), plainLines_items fun v hv => ih v hv _, plainLines_newLine _,
        hsign _ (by decide)⟩
  | @obj members hkeys hproper _ ih =>
    by_cases hne : members = []
    · subst hne
      exact (Text.plain_literal _ (by decide)).lines
    · rw [indented_obj hne, ← List.singleton_append]
      simp only [Text.plainLines_append]
      exact ⟨hsign _ (by decide), plainLines_members fun m hm => ih m hm _, plainLines_newLine _,
        hsign _ (by decide)⟩

end Json

end ChangeReview
