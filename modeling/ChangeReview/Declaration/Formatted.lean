import ChangeReview.Declaration.Literal

/-!
# Formatted strings

The value of adjacent string tokens. A formatted string is a row of texts and expressions in braces; an
expression may carry a conversion and a format, and a format may hold expressions once more.
-/

namespace ChangeReview.Declaration.Formatted

/-- What the strings of a row have in common. -/
structure Setting where
  /-- Reads an expression from its text. -/
  expression? : Text → Option Term
  /-- Looks up a character by its name. -/
  named? : Text → Option CodePoint
  /-- Whether texts carry the mark of the first token. -/
  isMarked : Bool

/-- A row of texts and expressions, with the text after the last expression apart. -/
structure Row where
  done : List Term := []
  pending : Text := []

/-- A text as a term. -/
def textTerm (isMarked : Bool) (t : Text) : Term :=
  .node (if isMarked then .markedString else .string) [.atom t]

/-- The row with its pending text closed. -/
def Row.closed (row : Row) (isMarked : Bool) : List Term :=
  if row.pending.isEmpty then row.done else row.done ++ [textTerm isMarked row.pending]

/-- What ends a literal part. -/
inductive Stop where
  /-- A doubled brace, of which one belongs to the literal. -/
  | doubled
  /-- A brace left in place, or the end. -/
  | brace

/-- Drops everything up to and with the next closing brace. -/
def splitName (t : Text) : Text × Text :=
  let (name, rest) := t.span fun (c : CodePoint) => c != '\x7d'
  (name ++ rest.take 1, rest.drop 1)

/-- The decision at a brace after `lead`: outside a format two braces stand for one, and a closing brace
on its own is refused. -/
def atBrace? (nested : Bool) (lead : Text) (c : CodePoint) (r : Text) : Option (Text × Text × Stop) :=
  if nested then some (lead, c :: r, .brace)
  else match r with
    | d :: rest =>
      if d == c then some (lead ++ [c], rest, .doubled)
      else if c == '\x7d' then none else some (lead, c :: r, .brace)
    | [] => if c == '\x7d' then none else some (lead, c :: r, .brace)

/-- The literal part at the front of a text, what follows it, and what ended it. -/
def literal? (isRaw nested : Bool) : (steps : Nat) → Text → Option (Text × Text × Stop)
  | 0, t => some ([], t, .brace)
  | _ + 1, [] => some ([], [], .brace)
  | steps + 1, c :: r =>
    if c == '\x7b' || c == '\x7d' then atBrace? nested [] c r
    else if c == '\\' && !isRaw then
      match r with
      | [] => some ([c], [], .brace)
      | d :: rest =>
        if d == 'N' then
          match rest with
          | [] => some ([c, d], [], .brace)
          | e :: rest =>
            let (name, rest) := if e == '\x7b' then splitName rest else ([], rest)
            (literal? isRaw nested steps rest).map fun (l, after) => (c :: d :: e :: name ++ l, after)
        else if d == '\x7b' || d == '\x7d' then atBrace? nested [c] d rest
        else (literal? isRaw nested steps rest).map fun (l, after) => (c :: d :: l, after)
    else (literal? isRaw nested steps r).map fun (l, after) => (c :: l, after)

/-- The quote that an expression's scan stands in. -/
structure OpenQuote where
  quote : CodePoint
  isLong : Bool

/-- Whether the text goes on with two more of the same code point. -/
def isTripled (c : CodePoint) (r : Text) : Bool :=
  match r with
  | a :: b :: _ => a == c && b == c
  | _ => false

/-- The bracket that closes another. -/
def closes (closing opening : CodePoint) : Bool :=
  (opening == '(' && closing == ')') || (opening == '[' && closing == ']')
    || (opening == '\x7b' && closing == '\x7d')

/-- The text of an expression up to the sign that ends it, and what follows from that sign on. No
backslash stands in it, and outside strings no number sign. -/
def expressionText? : (steps : Nat) → Option OpenQuote → List CodePoint → Text → Option (Text × Text)
  | 0, _, _, _ => none
  | _ + 1, _, _, [] => none
  | steps + 1, quote, brackets, c :: r =>
    let take (count : Nat) (quote : Option OpenQuote) (brackets : List CodePoint) :=
      (expressionText? steps quote brackets (r.drop count)).map fun (t, rest) =>
        (c :: r.take count ++ t, rest)
    if c == '\\' then none
    else match quote with
      | some q =>
        if c == q.quote && !q.isLong then take 0 none brackets
        else if c == q.quote && isTripled c r then take 2 none brackets
        else take 0 quote brackets
      | none =>
        if c.val == 0x27 || c.val == 0x22 then
          if isTripled c r then take 2 (some ⟨c, true⟩) brackets else take 0 (some ⟨c, false⟩) brackets
        else if c == '(' || c == '[' || c == '\x7b' then
          if 200 ≤ brackets.length then none else take 0 none (c :: brackets)
        else if c == '#' then none
        else if brackets.isEmpty && (Text.ofString "!:\x7d=><").contains c then
          let beforeEqual := match r with
            | d :: _ => d == '=' && c != ':' && c != '\x7d'
            | [] => false
          if beforeEqual then take 1 none brackets
          else if c == '>' || c == '<' then take 0 none brackets
          else some ([], c :: r)
        else if c == ')' || c == ']' || c == '\x7d' then
          match brackets with
          | opening :: outer => if closes c opening then take 0 none outer else none
          | [] => none
        else take 0 none brackets

/-- A blank between an equals sign and what follows it. -/
def isGap (c : CodePoint) : Bool := c == ' ' || (0x09 ≤ c.val && c.val ≤ 0x0D)

/-- A blank that the grammar passes over. -/
def isLayout (c : CodePoint) : Bool := c == ' ' || c == '\t' || c == '\n' || c == '\x0c'

/-- The conversion at the front of a text, and what follows it. -/
def conversion? (t : Text) : Option (Option CodePoint × Text) :=
  match t with
  | e :: c :: rest =>
    if e == '!' then
      if c == 's' || c == 'r' || c == 'a' then some (some c, rest) else none
    else some (none, t)
  | _ => if Text.startsWith t "!" then none else some (none, t)

/-- Appends the parts of a formatted string to a row, up to its end, or inside a format up to the closing
brace. Expressions nest one level deep. -/
def append? (s : Setting) (isRaw : Bool) :
    (steps : Nat) → (level : Nat) → Row → Text → Option (Row × Text)
  | 0, _, _, _ => none
  | steps + 1, level, row, t => do
    let (literal, rest, stop) ← literal? isRaw (level != 0) (t.length + 1) t
    let literal ← Literal.value? s.named? false isRaw literal
    let row := { row with pending := row.pending ++ literal }
    match stop, rest with
    | .doubled, _ => append? s isRaw steps level row rest
    | .brace, [] => if level == 0 then return (row, []) else none
    | .brace, c :: inner =>
      if c == '\x7d' then return (row, rest)
      else if 2 ≤ level then none
      else
        let (text, rest) ← expressionText? (inner.length + 1) none [] inner
        if text.all isLayout then none
        else
          let value ← s.expression? text
          let shown := Text.after? "=" rest
          let (echo, rest) := match shown with
            | some r => (text ++ CodePoint.ofChar '=' :: r.takeWhile isGap, r.dropWhile isGap)
            | none => ([], rest)
          let (conversion, rest) ← conversion? rest
          let (format, rest) ← match Text.after? ":" rest with
            | some r => do
              let (inside, r) ← append? s isRaw steps (level + 1) {} r
              pure (some (Term.node .joined (inside.closed false)), r)
            | none => pure (none, rest)
          let rest ← Text.after? "\x7d" rest
          let conversion :=
            if shown.isSome && format.isNone && conversion.isNone then some (CodePoint.ofChar 'r')
            else conversion
          let part := Term.node .formatted [value, .option (conversion.map fun c => .atom [c]), .option format]
          let row := { row with pending := row.pending ++ echo }
          append? s isRaw steps level ⟨row.closed s.isMarked ++ [part], []⟩ rest

/-- Appends one string to a row. -/
def appendString? (s : Setting) (row : Row) (q : Literal.Quoted) : Option Row :=
  if q.isFormatted then (append? s q.isRaw (q.body.length + 2) 0 row q.body).map (·.1)
  else (Literal.value? s.named? false q.isRaw q.body).map fun t => { row with pending := row.pending ++ t }

/-- The value of adjacent string tokens. Bytes are not mixed with text. -/
def value? (expression? : Text → Option Term) (named? : Text → Option CodePoint) (tokens : List Text) :
    Option Term := do
  let parts := tokens.map Literal.quoted
  if parts.all (·.isBytes) then
    let bodies ← parts.mapM fun q => Literal.value? named? true q.isRaw q.body
    return .node .bytes [.atom bodies.flatten]
  else if parts.any (·.isBytes) then none
  else
    let s : Setting := ⟨expression?, named?, (parts.head?.map (·.isMarked)).getD false⟩
    let row ← parts.foldlM (appendString? s) {}
    if parts.any (·.isFormatted) then return .node .joined (row.closed s.isMarked)
    else return textTerm s.isMarked row.pending

end ChangeReview.Declaration.Formatted
