import ChangeReview.Language

/-!
# Leaf scanners

Each scanner here reads one kind of lexeme and returns what is left after it, never more than it was
given.
-/

namespace ChangeReview

namespace CodePoint

/-- One of the three quotation marks of the scripting languages. -/
def isQuote (c : CodePoint) : Bool := c == '"' || c == '\'' || c == '`'

/-- A code point that ends a line of a script. -/
def isScriptBreak (c : CodePoint) : Bool :=
  c == '\n' || c == '\r' || c.val == 0x2028 || c.val == 0x2029

/-- A code point that can start an identifier of a supported language. -/
def startsIdentifier (c : CodePoint) : Bool := c == '$' || c == '_' || c.isLetter || c.isNameStart

/-- A code point that can continue an identifier of a supported language. -/
def continuesIdentifier (c : CodePoint) : Bool := c == '$' || c.isNameContinue

end CodePoint

namespace Lexeme

theorem length_dropWhile_le (p : CodePoint → Bool) (t : Text) :
    (t.dropWhile p).length ≤ t.length := by
  induction t with
  | nil => exact Nat.le_refl _
  | cons c r ih =>
    rw [List.dropWhile_cons]
    split
    · exact Nat.le_succ_of_le ih
    · exact Nat.le_refl _

/-- What follows the rest of an identifier. -/
def afterIdentifier (t : Text) : Text := t.dropWhile CodePoint.continuesIdentifier

/-- What follows the rest of a number, given its last code point so far. A sign belongs to a number
directly after an exponent mark. -/
def afterNumber (last : CodePoint) : Text → Text
  | [] => []
  | c :: r =>
    if c.isLetterOrNumber || c == '_' || c == '.' then afterNumber c r
    else if (c == '+' || c == '-') && (last == 'E' || last == 'P' || last == 'e' || last == 'p') then
      afterNumber c r
    else c :: r

theorem length_afterNumber_le (last : CodePoint) (t : Text) :
    (afterNumber last t).length ≤ t.length := by
  induction t generalizing last with
  | nil => exact Nat.le_refl _
  | cons c r ih =>
    unfold afterNumber
    split
    · exact Nat.le_succ_of_le (ih c)
    · split
      · exact Nat.le_succ_of_le (ih c)
      · exact Nat.le_refl _

/-- What follows a comment up to the end of its line, the line break included. -/
def afterLineComment (language : Language) (t : Text) : Text :=
  t.dropWhile fun c => !(if language.isScript then c.isScriptBreak else c == '\n')

/-- What follows the mark that closes a comment. -/
def afterBlockComment : Text → Text
  | [] => []
  | [_] => []
  | c :: d :: r => if c == '*' && d == '/' then r else afterBlockComment (d :: r)

theorem length_afterBlockComment_le (t : Text) : (afterBlockComment t).length ≤ t.length := by
  fun_induction afterBlockComment t with
  | case1 => exact Nat.le_refl _
  | case2 => exact Nat.zero_le _
  | case3 c d r _ => simp only [List.length_cons]; omega
  | case4 c d r _ ih => simp only [List.length_cons] at ih ⊢; omega

/-- What follows the closing quote of a string. In a raw string a backslash is a plain character. -/
def afterQuote (quote : CodePoint) (raw : Bool) : (escaped : Bool) → Text → Text
  | _, [] => []
  | escaped, c :: r =>
    if c == quote && !(escaped && !raw) then r
    else afterQuote quote raw (!raw && c == '\\' && !escaped) r

theorem length_afterQuote_le (quote : CodePoint) (raw escaped : Bool) (t : Text) :
    (afterQuote quote raw escaped t).length ≤ t.length := by
  induction t generalizing escaped with
  | nil => exact Nat.le_refl _
  | cons c r ih =>
    unfold afterQuote
    split
    · exact Nat.le_succ _
    · exact Nat.le_succ_of_le (ih _)

/-- What follows a regular expression and its flags. There is none before a line break or the end. -/
def afterRegex? : (escaped inClass : Bool) → Text → Option Text
  | _, _, [] => none
  | escaped, inClass, c :: r =>
    if c.isScriptBreak && !escaped then none
    else if escaped then afterRegex? false inClass r
    else if c == '\\' then afterRegex? true inClass r
    else if c == '[' then afterRegex? false true r
    else if c == ']' && inClass then afterRegex? false false r
    else if c != '/' || inClass then afterRegex? false inClass r
    else some (afterIdentifier r)

theorem length_afterRegex?_le {escaped inClass : Bool} {t rest : Text}
    (h : afterRegex? escaped inClass t = some rest) : rest.length ≤ t.length := by
  induction t generalizing escaped inClass with
  | nil => simp [afterRegex?] at h
  | cons c r ih =>
    unfold afterRegex? at h
    simp only [List.length_cons]
    split at h
    · cases h
    split at h
    · exact Nat.le_succ_of_le (ih h)
    split at h
    · exact Nat.le_succ_of_le (ih h)
    split at h
    · exact Nat.le_succ_of_le (ih h)
    split at h
    · exact Nat.le_succ_of_le (ih h)
    split at h
    · exact Nat.le_succ_of_le (ih h)
    · cases h
      exact Nat.le_succ_of_le (length_dropWhile_le _ r)

/-- Operators of more than one character, longer ones first. -/
def operators : List Text :=
  Text.list ["!==", "&&=", "**=", "...", "===", "??=", "||=", "&^=", "!=", "%=", "&&", "&^", "&=", "**", "*=",
    "++", "+=", "--", "-=", "->", "/=", "::", ":=", "<=", "<-", "==", "=>", ">=", "?.", "??", "^=",
    "|=", "||"]

/-- The longest operator of several characters at the start of the text. -/
def operator? (t : Text) : Option Text := operators.find? fun operator => t.startsWith operator

/-- The position of the angle bracket that closes the one at the start of the text. Strings are passed
over, and the head of an arrow closes nothing. -/
def angleClose? (t : Text) : Option Nat := go 0 none false none 0 t
where
  /-- Reads on at `index`, inside a string when `quote` is given. -/
  go (index : Nat) (quote : Option CodePoint) (escaped : Bool) (previous : Option CodePoint)
      (depth : Nat) : Text → Option Nat
    | [] => none
    | c :: r =>
      match quote with
      | some q =>
        go (index + 1) (if c == q && !escaped then none else some q) (c == '\\' && !escaped) (some c)
          depth r
      | none =>
        if c.isQuote then go (index + 1) (some c) false (some c) depth r
        else if c == '<' then go (index + 1) none escaped (some c) (depth + 1) r
        else if c == '>' && previous != some (CodePoint.ofChar '=') then
          if depth ≤ 1 then some index else go (index + 1) none escaped (some c) (depth - 1) r
        else go (index + 1) none escaped (some c) depth r

/-- What follows one division and its simple operand: a name or a number. -/
def afterDivision? (t : Text) : Option { rest : Text // rest.length < t.length } :=
  match h : t.dropWhile CodePoint.isBlank with
  | [] => none
  | slash :: r =>
    if slash != '/' || Text.startsWith r "/" || Text.startsWith r "*" then none
    else match h' : r.dropWhile CodePoint.isBlank with
      | [] => none
      | c :: r' =>
        have hr : r.length < t.length := by
          have := length_dropWhile_le CodePoint.isBlank t
          rw [h, List.length_cons] at this
          omega
        have hr' : r'.length < r.length := by
          have := length_dropWhile_le CodePoint.isBlank r
          rw [h', List.length_cons] at this
          omega
        let digitNext := match r' with
          | d :: _ => d.isDigit
          | [] => false
        if c.startsIdentifier then
          some ⟨(afterIdentifier r').dropWhile CodePoint.isBlank, by
            have h₁ := length_dropWhile_le CodePoint.continuesIdentifier r'
            have h₂ := length_dropWhile_le CodePoint.isBlank (afterIdentifier r')
            unfold afterIdentifier at *
            omega⟩
        else if c.isDigit || (c == '.' && digitNext) then
          some ⟨(afterNumber c r').dropWhile CodePoint.isBlank, by
            have h₁ := length_afterNumber_le c r'
            have h₂ := length_dropWhile_le CodePoint.isBlank (afterNumber c r')
            omega⟩
        else none

/-- Two divisions or more by simple operands, up to the end of an expression. -/
def isDivisionChain (count : Nat) (t : Text) : Bool :=
  match afterDivision? t with
  | none => false
  | some ⟨rest, _⟩ =>
    match rest with
    | [] => 1 ≤ count
    | c :: r =>
      if c == '/' then isDivisionChain (count + 1) (c :: r)
      else 1 ≤ count && (Text.ofString ",)]\x7d:;?").contains c
termination_by t.length

/-- Whether the angle bracket at the start of `t` opens type arguments before a division chain. `seen`
is what stands before it, last code point first. -/
def opensTypeArguments (seen t : Text) : Bool :=
  match seen.dropWhile CodePoint.isBlank with
  | [] => false
  | last :: _ =>
    (last.continuesIdentifier || last == ')' || last == ']' || last == '>')
      && match angleClose? t with
        | none => false
        | some close => isDivisionChain 0 (t.drop (close + 1))

end Lexeme

end ChangeReview
