import ChangeReview.Declaration.LooseToken
import ChangeReview.Text.Compatibility

/-!
# Tokens of a declaration

The tokens that the grammar reads. Reading is strict: a stray character, an unmatched bracket, an
inconsistent indentation or a malformed number refuses the whole text.
-/

namespace ChangeReview.Declaration

/-- The kind of a token. -/
inductive TokenKind where
  | name
  | keyword
  | number
  | string
  | operator
  | newline
  | indent
  | dedent
deriving DecidableEq

/-- A token: its kind and its text, a name by the name it stands for. -/
structure Token where
  kind : TokenKind
  text : Text
deriving DecidableEq

namespace Token

/-- The reserved words. -/
def keywords : List Text :=
  Text.list ["False", "None", "True", "and", "as", "assert", "async", "await", "break", "class",
    "continue", "def", "del", "elif", "else", "except", "finally", "for", "from", "global", "if",
    "import", "in", "is", "lambda", "nonlocal", "not", "or", "pass", "raise", "return", "try", "while",
    "with", "yield"]

/-- A character that a word is read on with; whether it may stand there is decided afterwards. -/
def isWordPart (c : CodePoint) : Bool :=
  c.isAsciiLetter || c.isAsciiDigit || c == '_' || !c.isAscii

/-- A word whose characters are all allowed in a name. -/
def isName : Text → Bool
  | c :: r => c.isNameStart && r.all CodePoint.isNameContinue
  | [] => false

/-- The word `tail` stands at the start of `t`, and no word goes on after it. -/
def endsWithWord (t tail : Text) : Bool :=
  match Text.after? tail t with
  | some (c :: _) => !isWordPart c
  | some [] => true
  | none => false

/-- Whether a number may end before `t`: no word follows, or one of a few keywords. -/
def mayFollowNumber : Text → Bool
  | [] => true
  | c :: r =>
    match c.toChar with
    | 'a' => endsWithWord r "nd"
    | 'e' => endsWithWord r "lse"
    | 'f' => endsWithWord r "or"
    | 'o' => endsWithWord r "r"
    | 'n' => endsWithWord r "ot"
    | 'i' =>
      match r with
      | d :: _ => d == 'f' || d == 'n' || d == 's'
      | [] => false
    | _ => !isWordPart c

/-- What follows digits, each underscore between two of them. -/
def afterDecimals? (t : Text) : Option Text :=
  let rest := t.drop (Numeral.decimalLength t)
  if Text.startsWith rest "_" then none else some rest

/-- What follows the imaginary mark or the end of a decimal. -/
def afterImaginary? (t : Text) : Option Text :=
  let rest := if Numeral.startsImaginary t then t.drop 1 else t
  if mayFollowNumber rest then some rest else none

/-- What follows an exponent and all that may come after it. -/
def afterExponent? (t : Text) : Option Text :=
  match t with
  | e :: r =>
    if e == 'e' || e == 'E' then
      match r with
      | s :: r' =>
        if s == '+' || s == '-' then
          match r' with
          | d :: _ => if d.isAsciiDigit then (afterDecimals? r').bind afterImaginary? else none
          | [] => none
        else if s.isAsciiDigit then (afterDecimals? r).bind afterImaginary?
        else if mayFollowNumber t then some t else none
      | [] => none
    else afterImaginary? t
  | [] => some []

/-- What follows the fraction of a decimal, its point read. -/
def afterFraction? (t : Text) : Option Text :=
  match t with
  | d :: _ => if d.isAsciiDigit then (afterDecimals? t).bind afterExponent? else afterExponent? t
  | [] => afterExponent? t

/-- What follows a decimal from its point or exponent on. -/
def afterWhole? (t : Text) : Option Text :=
  match Text.after? "." t with
  | some rest => afterFraction? rest
  | none => afterExponent? t

/-- What follows digits in another base. -/
def afterBased? (isDigit : CodePoint → Bool) (t : Text) : Option Text :=
  let length := Numeral.basedLength isDigit t
  let rest := t.drop length
  if length == 0 || Text.startsWith rest "_" || !mayFollowNumber rest then none else some rest

/-- What follows a number. A decimal integer has no leading zero unless it is zero. -/
def afterNumber? (t : Text) : Option Text :=
  match t with
  | [] => none
  | c :: r =>
    if c == '.' then afterFraction? r
    else if c != '0' then (afterDecimals? t).bind afterWhole?
    else
      let base := (r.head?.map CodePoint.toChar).getD ' '
      if base == 'x' || base == 'X' then afterBased? (fun c => c.hexValue?.isSome) (r.drop 1)
      else if base == 'o' || base == 'O' then
        afterBased? (fun c => 0x30 ≤ c.val && c.val ≤ 0x37) (r.drop 1)
      else if base == 'b' || base == 'B' then afterBased? (fun c => c == '0' || c == '1') (r.drop 1)
      else do
        let rest ← afterDecimals? t
        let digits := t.take (t.length - rest.length)
        let zeros := digits.all fun d => d == '0' || d == '_'
        let continues := match rest with
          | d :: _ => (Text.ofString ".eEjJ").contains d
          | [] => false
        if !zeros && !continues then none else afterWhole? rest

/-- What follows the closing quotes of a string, its opening quotes read. `run` counts the quotes just
seen. -/
def afterString? (quote : CodePoint) (size : Nat) : (run : Nat) → Text → Option Text
  | run, [] => if run == size then some [] else none
  | run, c :: r =>
    if run == size then some (c :: r)
    else if size == 1 && c == '\n' then none
    else if c == quote then afterString? quote size (run + 1) r
    else if c == '\\' then
      match r with
      | [] => none
      | _ :: r' => afterString? quote size 0 r'
    else afterString? quote size 0 r

/-- What follows a string from its opening quote on. -/
def afterQuoted? (t : Text) : Option Text :=
  match t with
  | q :: r =>
    if Text.startsWith r [q, q] then afterString? q 3 0 (r.drop 2)
    else if Text.startsWith r [q] then some (r.drop 1)
    else afterString? q 1 0 r
  | [] => none

/-- The state between two tokens: the open brackets and the open indentations, innermost first. An
indentation is counted with tabs of eight and with tabs of one. -/
structure ScanState where
  brackets : List CodePoint := []
  indents : List (Nat × Nat) := []

/-- The columns of an indentation by both counts, and the column of the first continuation in it. -/
structure Indent where
  column : Nat := 0
  narrow : Nat := 0
  continuation : Nat := 0

/-- The indentation at the start of a line, and what follows it. A backslash joins the next line. -/
def readIndent (i : Indent) : Text → Option (Indent × Text)
  | [] => some (i, [])
  | c :: r =>
    if c == ' ' then readIndent { i with column := i.column + 1, narrow := i.narrow + 1 } r
    else if c == '\t' then
      readIndent { i with column := (i.column / 8 + 1) * 8, narrow := i.narrow + 1 } r
    else if c.val == 0x0C then readIndent { i with column := 0, narrow := 0 } r
    else if c == '\\' then
      match r with
      | d :: e :: r' =>
        if d == '\n' then
          readIndent { i with continuation := if i.continuation == 0 then i.column else i.continuation }
            (e :: r')
        else none
      | _ => none
    else some (i, c :: r)

/-- The tokens of a change of indentation. -/
def changeIndent? (i : Indent) (indents : List (Nat × Nat)) :
    Option (List Token × List (Nat × Nat)) :=
  let column := if i.continuation == 0 then i.column else i.continuation
  let narrow := if i.continuation == 0 then i.narrow else i.continuation
  let top := indents.head?.getD (0, 0)
  if column == top.1 then if narrow == top.2 then some ([], indents) else none
  else if top.1 < column then
    if narrow ≤ top.2 || 99 ≤ indents.length then none
    else some ([⟨.indent, []⟩], (column, narrow) :: indents)
  else
    let kept := indents.dropWhile fun level => column < level.1
    let top := kept.head?.getD (0, 0)
    if column == top.1 && narrow == top.2 then
      some (List.replicate (indents.length - kept.length) ⟨.dedent, []⟩, kept)
    else none

/-- The brackets after one more. -/
def changeBrackets? (c : CodePoint) (brackets : List CodePoint) : Option (List CodePoint) :=
  match c.toChar with
  | '(' | '[' | '\x7b' => if 200 ≤ brackets.length then none else some (c :: brackets)
  | ')' => close '('
  | ']' => close '['
  | '\x7d' => close '\x7b'
  | _ => some brackets
where
  /-- The brackets without the innermost, which must be the one that matches. -/
  close (opening : Char) : Option (List CodePoint) :=
    match brackets with
    | b :: rest => if b == opening then some rest else none
    | [] => none

/-- The operators of more than one character. -/
def longOperators : List Text :=
  Text.list ["**=", "...", "//=", "<<=", ">>=", "!=", "%=", "&=", "**", "*=", "+=", "-=", "->", "//",
    "/=", ":=", "<<", "<=", "<>", "==", ">=", ">>", "@=", "^=", "|="]

/-- One token within a line, and what follows it. -/
def readToken? (t : Text) : Option (Token × Text) :=
  match t with
  | [] => none
  | c :: r =>
    match LooseToken.leadLength? t with
    | some n => do
      let rest ← afterQuoted? (t.drop n)
      return (⟨.string, t.take (t.length - rest.length)⟩, rest)
    | none =>
      if c.isAsciiLetter || c == '_' || !c.isAscii then
        let word := t.takeWhile isWordPart
        let rest := t.dropWhile isWordPart
        if keywords.contains word then some (⟨.keyword, word⟩, rest)
        else if isName word then some (⟨.name, Text.compatible word⟩, rest)
        else none
      else if c.isAsciiDigit || (c == '.' && (r.head?.map CodePoint.isAsciiDigit).getD false) then do
        let rest ← afterNumber? t
        return (⟨.number, t.take (t.length - rest.length)⟩, rest)
      else match longOperators.find? fun operator => Text.startsWith t operator with
        | some operator => some (⟨.operator, operator⟩, t.drop operator.length)
        | none => some (⟨.operator, [c]⟩, r)

mutual

/-- The tokens from the start of a line on; `steps` bounds the lines and tokens. -/
def scanLine? : (steps : Nat) → ScanState → Text → Option (List Token)
  | 0, _, _ => none
  | steps + 1, s, t => do
    let (i, rest) ← readIndent {} t
    match rest with
    | [] => if s.brackets.isEmpty then return (← changeIndent? i s.indents).1 else none
    | c :: r =>
      if c == '#' || c == '\n' then
        scanLine? steps s ((c :: r).dropWhile fun (d : CodePoint) => d != '\n').tail
      else if s.brackets.isEmpty then
        let (tokens, indents) ← changeIndent? i s.indents
        return tokens ++ (← scanTokens? steps { s with indents } (c :: r))
      else scanTokens? steps s (c :: r)

/-- The tokens from within a line on. -/
def scanTokens? : (steps : Nat) → ScanState → Text → Option (List Token)
  | 0, _, _ => none
  | steps + 1, s, t =>
    let skipped := t.dropWhile LooseToken.isIndent
    let t :=
      if Text.startsWith skipped "#" then skipped.dropWhile fun (d : CodePoint) => d != '\n' else skipped
    match t with
    | [] => none
    | c :: r =>
      if c == '\n' then
        if s.brackets.isEmpty then (scanLine? steps s r).map (⟨.newline, []⟩ :: ·)
        else scanLine? steps s r
      else if c == '\\' then
        match r with
        | d :: e :: r' => if d == '\n' then scanTokens? steps s (e :: r') else none
        | _ => none
      else do
        let (token, rest) ← readToken? (c :: r)
        let brackets ←
          if token.kind == .operator then changeBrackets? c s.brackets else some s.brackets
        return token :: (← scanTokens? steps { s with brackets } rest)

end

/-- The tokens of a source text, which ends with a line break. An open bracket at the end refuses it. -/
def scan? (source : Text) : Option (List Token) :=
  let t := source.unifyBreaks
  scanLine? (2 * t.length + 2) {} t

end Token

end ChangeReview.Declaration
