import ChangeReview.Lexeme.Leaf
import ChangeReview.Lexeme.State

/-!
# Lexemes of a signature

A signature in a scripting language or in Go is read as lexemes with their positions. Strings,
templates, regular expressions and comments are sealed: nothing inside them is looked at. A template
may hold expressions, which hold lexemes again, so the scanners of this module call each other; each
returns a rest that is shorter than what it was given.
-/

namespace ChangeReview

/-- One lexeme with its place in the text and what a line break beside it would mean. -/
structure Lexeme where
  text : Text
  start : Nat
  /-- A string, a template, a regular expression or a comment. -/
  isSealed : Bool := false
  /-- A comment, which comparisons pass over. -/
  isComment : Bool := false
  /-- A line break right after it ends the statement. -/
  breakAfter : Bool := false
  /-- A line break right before it ends the statement. -/
  breakBefore : Bool := false
  /-- The word `async` where it may announce a function. -/
  asyncCandidate : Bool := false
  /-- The word `async` where it may announce a method. -/
  asyncMethod : Bool := false
deriving DecidableEq

namespace Lexeme

/-- The position after a lexeme. -/
def stop (lexeme : Lexeme) : Nat := lexeme.start + lexeme.text.length

/-- A lexeme found at the start of `t`: the shorter rest, the state after it and its marks. -/
structure Found (t : Text) where
  rest : Text
  shorter : rest.length < t.length
  state : State
  isSealed : Bool := false
  isComment : Bool := false
  breakAfter : Bool := false
  breakBefore : Bool := false
  asyncCandidate : Bool := false
  asyncMethod : Bool := false

/-- The part of `t` that was read when `rest` is left. -/
def consumed (t rest : Text) : Text := t.take (t.length - rest.length)

/-- An operator or a punctuator of `size + 1` code points. -/
def Found.operator (c : CodePoint) (r : Text) (size : Nat) (state : State)
    (breakBefore : Bool := false) : Found (c :: r) where
  rest := r.drop size
  shorter := by simp only [List.length_drop, List.length_cons]; omega
  state := state
  breakBefore := breakBefore

/-- A string or a number, which ends an operand. -/
def Found.literal (c : CodePoint) (r rest : Text) (h : rest.length ≤ r.length) (s : State)
    (isSealed : Bool) : Found (c :: r) where
  rest := rest
  shorter := Nat.lt_succ_of_le h
  state := s.observeLiteral (consumed (c :: r) rest)
  isSealed := isSealed

/-- A comment. One with a line break in it counts as the break, in the scripting languages. -/
def Found.comment (c : CodePoint) (r rest : Text) (h : rest.length ≤ r.length) (s : State) :
    Found (c :: r) where
  rest := rest
  shorter := Nat.lt_succ_of_le h
  state := s
  isSealed := true
  isComment := true

/-- A slash that opens no comment: a regular expression where an operand may stand, else a division. -/
def scanSlash (language : Language) (c : CodePoint) (r : Text) (s : State) : Found (c :: r) :=
  let divide : Found (c :: r) :=
    if Text.startsWith r "=" then .operator c r 1 (s.observeToken "/=")
    else .operator c r 0 (s.observeToken "/")
  if language.isScript && !s.canEndExpression then
    match h : afterRegex? false false r with
    | some rest => .literal c r rest (length_afterRegex?_le h) s true
    | none => divide
  else divide

/-- An identifier or a keyword. -/
def scanWord (c : CodePoint) (r : Text) (s : State) : Found (c :: r) :=
  let rest := afterIdentifier r
  let word := consumed (c :: r) rest
  let asyncCandidate := word == "async" && !s.afterDot
  let state := s.observeWord word
  { rest
    shorter := Nat.lt_succ_of_le (length_dropWhile_le _ r)
    state
    breakAfter := state.restrictedBreakPending
    asyncCandidate
    asyncMethod := asyncCandidate && s.atObjectMember }

/-- Angle brackets, operators and punctuators. Repeated angle brackets stay single, since two of them
may close nested type arguments. -/
def scanOperator (language : Language) (seen : Text) (c : CodePoint) (r : Text) (s : State) :
    Found (c :: r) :=
  if language == .typescript && c == '<'
      && (s.genericAngleDepth != 0 || opensTypeArguments seen (c :: r)) then
    .operator c r 0 s.observeAngle
  else if (c == '<' || c == '>') && (seen.head? == some c || r.head? == some c) then
    .operator c r 0 (s.observeToken [c])
  else match operator? (c :: r) with
    | some operator =>
      let breakBefore :=
        operator == "=>" || ((operator == "++" || operator == "--") && s.canEndExpression)
      .operator c r (operator.length - 1) (s.observeToken operator) breakBefore
    | none => .operator c r 0 (s.observeToken [c])

/-- Any lexeme but a template. -/
def scanPlain (language : Language) (seen : Text) (c : CodePoint) (r : Text) (s : State) :
    Found (c :: r) :=
  if c == '/' && Text.startsWith r "/" then
    .comment c r (afterLineComment language r) (length_dropWhile_le _ r) s
  else if c == '/' && Text.startsWith r "*" then
    let rest := afterBlockComment (r.drop 1)
    have h : rest.length ≤ r.length :=
      Nat.le_trans (length_afterBlockComment_le _) (by simp only [List.length_drop]; omega)
    let breaks := language.isScript && (consumed (c :: r) rest).any CodePoint.isScriptBreak
    .comment c r rest h (if breaks then s.observeBreak else s)
  else if c.isQuote then
    .literal c r (afterQuote c (c == '`') false r) (length_afterQuote_le _ _ _ r) s true
  else if c == '/' then scanSlash language c r s
  else if c.startsIdentifier then scanWord c r s
  else if c.isDigit || (c == '.' && (r.head?.map CodePoint.isDigit).getD false) then
    .literal c r (afterNumber c r) (length_afterNumber_le c r) s false
  else scanOperator language seen c r s

mutual

/-- The lexeme at the start of `c :: r`. `seen` is what stands before it, last code point first. -/
def scanOne (language : Language) (seen : Text) (c : CodePoint) (r : Text) (s : State) :
    Found (c :: r) :=
  if c == '`' && language != .go then
    match afterTemplate (c :: seen) r with
    | ⟨rest, h⟩ => .literal c r rest h s true
  else scanPlain language seen c r s
termination_by 2 * (r.length + 1)
decreasing_by omega

/-- What follows a template, from inside it. -/
def afterTemplate (seen t : Text) : { rest : Text // rest.length ≤ t.length } :=
  match t with
  | [] => ⟨[], Nat.le_refl _⟩
  | [c] => ⟨[], Nat.zero_le _⟩
  | c :: d :: r =>
    if c == '`' then ⟨d :: r, Nat.le_succ _⟩
    else if c == '\\' then
      match afterTemplate (d :: c :: seen) r with
      | ⟨rest, h⟩ => ⟨rest, Nat.le_succ_of_le (Nat.le_succ_of_le h)⟩
    else if c == '$' && d == '\x7b' then
      match afterInterpolation (d :: c :: seen) 1 r { goal := .operand } with
      | ⟨inner, h⟩ =>
        match afterTemplate ((consumed r inner).reverse ++ d :: c :: seen) inner with
        | ⟨rest, h'⟩ => ⟨rest, Nat.le_succ_of_le (Nat.le_succ_of_le (Nat.le_trans h' h))⟩
    else
      match afterTemplate (c :: seen) (d :: r) with
      | ⟨rest, h⟩ => ⟨rest, Nat.le_succ_of_le h⟩
termination_by 2 * t.length
decreasing_by
  all_goals
    simp only [List.length_cons]
    omega

/-- What follows the brace that closes an expression in a template. -/
def afterInterpolation (seen : Text) (depth : Nat) (t : Text) (s : State) :
    { rest : Text // rest.length ≤ t.length } :=
  match t with
  | [] => ⟨[], Nat.le_refl _⟩
  | c :: r =>
    if c.isBlank then
      match afterInterpolation (c :: seen) depth r
          (if c.isScriptBreak then s.observeBreak else s) with
      | ⟨rest, h⟩ => ⟨rest, Nat.le_succ_of_le h⟩
    else if c == '\x7d' && depth == 1 then ⟨r, Nat.le_succ _⟩
    else
      match scanOne .typescript seen c r s with
      | ⟨after, shorter, state, isSealed, _, _, _, _, _⟩ =>
        let text := consumed (c :: r) after
        let depth' :=
          if isSealed then depth
          else if text == "\x7b" then depth + 1
          else if text == "\x7d" then depth - 1
          else depth
        match afterInterpolation (text.reverse ++ seen) depth' after state with
        | ⟨rest, h⟩ => ⟨rest, Nat.le_of_lt (Nat.lt_of_le_of_lt h shorter)⟩
termination_by 2 * t.length + 1
decreasing_by
  · simp only [List.length_cons]
    omega
  · simp only [List.length_cons]
    omega
  · omega

end

/-- The lexemes of `t`, which stands at `position` after `seen`. -/
def scanFrom (language : Language) (seen : Text) (position : Nat) (t : Text) (s : State) :
    List Lexeme :=
  match t with
  | [] => []
  | c :: r =>
    if c.isBlank then
      scanFrom language (c :: seen) (position + 1) r
        (if language.isScript && c.isScriptBreak then s.observeBreak else s)
    else
      match scanOne language seen c r s with
      | ⟨rest, _, state, isSealed, isComment, breakAfter, breakBefore, asyncCandidate, asyncMethod⟩ =>
        let text := consumed (c :: r) rest
        ⟨text, position, isSealed, isComment, breakAfter, breakBefore, asyncCandidate, asyncMethod⟩
          :: scanFrom language (text.reverse ++ seen) (position + text.length) rest state
termination_by t.length
decreasing_by
  · exact Nat.lt_succ_self r.length
  · assumption

/-- The lexemes of a signature. -/
def scan (language : Language) (signature : Text) : List Lexeme :=
  scanFrom language [] 0 signature {}

end Lexeme

end ChangeReview
