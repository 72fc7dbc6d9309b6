import ChangeReview.Declaration.Numeral

/-!
# Loose tokens

A reading of a declaration into tokens that knows no grammar: it accepts syntax newer than the grammar,
and sets aside what it cannot read as an error token. Positions are rows, divided by line feeds, and
columns. It gives up on an unfinished bracket or string, and on a dedent to a column never used.
-/

namespace ChangeReview.Declaration

/-- The kind of a loose token. -/
inductive LooseKind where
  | name
  | number
  | string
  | operator
  | error
  /-- A comment, a line break, or a change of indentation. -/
  | layout
deriving DecidableEq

/-- A loose token. `lead` is what stands before it on its line. -/
structure LooseToken where
  kind : LooseKind
  text : Text
  row : Nat
  column : Nat
  endRow : Nat
  endColumn : Nat
  lead : Text := []

namespace LooseToken

/-- The letters that may stand before a quote, in either case. -/
def stringLeads : List Text := Text.list ["b", "r", "u", "f", "br", "rb", "fr", "rf"]

/-- A string lead in ASCII lower case. -/
def isStringLead (t : Text) : Bool := t.isEmpty || stringLeads.contains (Text.lower t)

/-- The length of the letters before a quote, if a string starts here. -/
def leadLength? (t : Text) : Option Nat :=
  (List.range 3).find? fun n =>
    (t.take n).length == n && isStringLead (t.take n) && (t.take n).all CodePoint.isAscii
      && match t.drop n with
        | q :: _ => q == '\'' || q == '"'
        | [] => false

/-- The length of a string on one line, its opening quote read, or of its part up to a backslash
before the line break. -/
def lineStringLength? (quote : CodePoint) : Text → Option Nat
  | [] => none
  | c :: r =>
    if c == quote then some 1
    else if c == '\n' then none
    else if c == '\\' then
      match r with
      | [] => none
      | d :: r' =>
        if d == '\n' then some 2
        else if d == '\r' && Text.startsWith r' "\n" then some 3
        else (lineStringLength? quote r').map (· + 2)
    else (lineStringLength? quote r).map (· + 1)

/-- The length up to and with the closing quote of a string continued on this line. -/
def closeSingle? (quote : CodePoint) : Text → Option Nat
  | [] => none
  | c :: r =>
    if c == quote then some 1
    else if c == '\\' then
      match r with
      | [] => none
      | d :: r' => if d == '\n' then none else (closeSingle? quote r').map (· + 2)
    else (closeSingle? quote r).map (· + 1)

/-- The length up to and with three closing quotes on this line. -/
def closeTriple? (quote : CodePoint) : Text → Option Nat
  | [] => none
  | c :: r =>
    if c == quote && Text.startsWith r [quote, quote] then some 3
    else if c == '\\' then
      match r with
      | [] => none
      | d :: r' => if d == '\n' then none else (closeTriple? quote r').map (· + 2)
    else (closeTriple? quote r).map (· + 1)

/-- The operators and punctuators. -/
def operators : List Text :=
  Text.list ["**=", "...", "//=", "<<=", ">>=", "!=", "%=", "&=", "**", "*=", "+=", "-=", "->", "//",
    "/=", ":=", "<<", "<=", "==", ">=", ">>", "@=", "^=", "|=", "%", "&", "(", ")", "*", "+", ",", "-",
    ".", "/", ":", ";", "<", "=", ">", "@", "[", "]", "^", "\x7b", "|", "\x7d", "~"]

/-- A letter, a number or an underscore. -/
def isWord (c : CodePoint) : Bool := c.isLetterOrNumber || c == '_'

/-- A blank, a tab or a form feed. -/
def isIndent (c : CodePoint) : Bool := c == ' ' || c == '\t' || c.val == 0x0C

/-- What a reader finds after blanks. -/
inductive Piece where
  | finish
  | continuation (length : Nat)
  | comment (length : Nat)
  | tripleQuote (quote : CodePoint) (length : Nat)
  | numeral (length : Nat)
  | lineBreak (length : Nat)
  | operator (length : Nat)
  | lineString (quote : CodePoint) (length : Nat)
  | word (length : Nat)
  | nothing

/-- The piece at the start of a line's rest, blanks gone. -/
def piece (t : Text) : Piece :=
  match t with
  | [] => .finish
  | c :: r =>
    if c == '\\' && Text.startsWith r "\n" then .continuation 2
    else if c == '\\' && Text.startsWith r "\r\n" then .continuation 3
    else if c == '#' then .comment (t.takeWhile fun (d : CodePoint) => d != '\r' && d != '\n').length
    else
      let lead := leadLength? t
      let quote := (lead.bind fun n => t[n]?).getD c
      let triple := match lead with
        | some n => Text.startsWith (t.drop n) [quote, quote, quote]
        | none => false
      if triple then .tripleQuote quote (lead.getD 0 + 3)
      else match Numeral.length t with
        | n + 1 => .numeral (n + 1)
        | 0 =>
          if c == '\n' then .lineBreak 1
          else if c == '\r' && Text.startsWith r "\n" then .lineBreak 2
          else match operators.find? fun operator => Text.startsWith t operator with
            | some operator => .operator operator.length
            | none =>
              let lineString := lead.bind fun n =>
                (lineStringLength? quote (t.drop (n + 1))).map (n + 1 + ·)
              match lineString with
              | some n => .lineString quote n
              | none =>
                match (t.takeWhile isWord).length with
                | 0 => .nothing
                | n + 1 => .word (n + 1)

/-- A string that goes on in the next line. -/
structure OpenString where
  quote : CodePoint
  triple : Bool
  text : Text
  row : Nat
  column : Nat

/-- The state between two lines. -/
structure LineState where
  row : Nat := 1
  parens : Int := 0
  continued : Bool := false
  indents : List Nat := [0]
  openString : Option OpenString := none

/-- The tokens of a line from `column` on, and the state after it. `steps` bounds the code points. -/
def scanLine (line : Text) : (steps : Nat) → (column : Nat) → LineState → List LooseToken × LineState
  | 0, _, s => ([], s)
  | steps + 1, column, s =>
    let rest := line.drop column
    if rest.isEmpty then ([], s)
    else
      let blanks := (rest.takeWhile isIndent).length
      let start := column + blanks
      let body := rest.drop blanks
      let token (kind : LooseKind) (length : Nat) : LooseToken :=
        { kind, text := body.take length, row := s.row, column := start, endRow := s.row
          endColumn := start + length, lead := line.take start }
      let read (kind : LooseKind) (length : Nat) : List LooseToken × LineState :=
        let (tokens, s') := scanLine line steps (start + length) s
        (token kind length :: tokens, s')
      match piece body with
      | .finish => ([], s)
      | .continuation length => scanLine line steps (start + length) { s with continued := true }
      | .comment length => read .layout length
      | .numeral length => read .number length
      | .lineBreak length => read .layout length
      | .tripleQuote quote length =>
        match closeTriple? quote (body.drop length) with
        | some n => read .string (length + n)
        | none => ([], { s with openString := some ⟨quote, true, body, s.row, start⟩ })
      | .lineString quote length =>
        if (body.take length).getLast? == some (CodePoint.ofChar '\n') then
          ([], { s with openString := some ⟨quote, false, body, s.row, start⟩ })
        else read .string length
      | .word length =>
        match body with
        | c :: _ => read (if c.isNameStart then .name else .operator) length
        | [] => ([], s)
      | .operator length =>
        let opens := (Text.list ["(", "[", "\x7b"]).contains (body.take length)
        let closes := (Text.list [")", "]", "\x7d"]).contains (body.take length)
        let parens := if opens then s.parens + 1 else if closes then s.parens - 1 else s.parens
        let (tokens, s') := scanLine line steps (start + length) { s with parens }
        (token .operator length :: tokens, s')
      | .nothing =>
        let (tokens, s') := scanLine line steps (column + 1) s
        ({ kind := .error, text := rest.take 1, row := s.row, column, endRow := s.row
           endColumn := column + 1, lead := line.take column } :: tokens, s')

/-- The columns of a line's indentation: a tab goes to the next multiple of eight, a form feed back to
the start. -/
def indentColumn (indent : Text) : Nat :=
  indent.foldl (fun column (c : CodePoint) =>
    if c == ' ' then column + 1 else if c == '\t' then (column / 8 + 1) * 8 else 0) 0

/-- The indentation levels after a line that starts at `column`; none if it matches no open level. -/
def closeIndents? (column : Nat) : List Nat → Option (List Nat)
  | [] => none
  | level :: levels =>
    if level < column then some (column :: level :: levels)
    else if level == column then some (level :: levels)
    else if (level :: levels).contains column then closeIndents? column levels
    else none

/-- The tokens of a line that goes on with a string, a bracket or a backslash; `none` for the end of
the text. -/
def scanContinued (line : Text) (s : LineState) : List LooseToken × LineState :=
  match s.openString with
  | none => scanLine line (line.length + 1) 0 { s with continued := false }
  | some opened =>
    let close := if opened.triple then closeTriple? opened.quote line else closeSingle? opened.quote line
    match close with
    | some n =>
      let (tokens, s') := scanLine line (line.length + 1) n { s with openString := none }
      ({ kind := .string, text := opened.text ++ line.take n, row := opened.row, column := opened.column
         endRow := s.row, endColumn := n } :: tokens, s')
    | none =>
      if !opened.triple && !Text.endsWith line "\\\n" && !Text.endsWith line "\\\r\n" then
        ([{ kind := .error, text := opened.text ++ line, row := opened.row, column := opened.column
            endRow := s.row, endColumn := line.length }], { s with openString := none })
      else ([], { s with openString := some { opened with text := opened.text ++ line } })

/-- The tokens of the lines, or none when the text ends too early or dedents wrongly. -/
def scanLines? (s : LineState) : List Text → Option (List LooseToken)
  | [] =>
    if s.openString.isSome || s.parens != 0 || s.continued then none else some []
  | line :: lines =>
    if s.openString.isSome || s.parens != 0 || s.continued then
      let (tokens, s') := scanContinued line s
      (scanLines? { s' with row := s'.row + 1 } lines).map (tokens ++ ·)
    else
      let indent := line.takeWhile isIndent
      match line.drop indent.length with
      | [] => some []
      | c :: _ =>
        if c == '#' || c == '\r' || c == '\n' then
          let token : LooseToken :=
            { kind := .layout, text := line.drop indent.length, row := s.row
              column := indent.length, endRow := s.row, endColumn := line.length }
          (scanLines? { s with row := s.row + 1 } lines).map (token :: ·)
        else do
          let indents ← closeIndents? (indentColumn indent) s.indents
          let (tokens, s') := scanLine line (line.length + 1) indent.length { s with indents }
          return tokens ++ (← scanLines? { s' with row := s'.row + 1 } lines)

/-- The lines of a text, each with the line feed that ends it. -/
def feedLines : Text → List Text
  | [] => []
  | c :: r =>
    if c == '\n' then [c] :: feedLines r
    else match feedLines r with
      | [] => [[c]]
      | line :: lines => (c :: line) :: lines

/-- The loose tokens of a text. -/
def scan? (t : Text) : Option (List LooseToken) := scanLines? {} (feedLines t)

end LooseToken

end ChangeReview.Declaration
