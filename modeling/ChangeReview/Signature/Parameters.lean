import ChangeReview.Failure
import ChangeReview.Lexeme.Comparable

/-!
# Parameters of a signature

Where the parameter list of a signature starts and ends, the parameters between, and the default and
name of one parameter. Scripting languages and Go are read lexeme by lexeme; any other signature is
read character by character, with brackets and strings respected.
-/

namespace ChangeReview.Signature

/-- Whether a character reader is inside a string, and whether a backslash came just before. -/
structure QuoteState where
  quote : Option CodePoint := none
  escaped : Bool := false
deriving DecidableEq

namespace QuoteState

/-- Inside a string. -/
def isInside (q : QuoteState) : Bool := q.quote.isSome

/-- The state after one more character, which may close or open a string. -/
def next (q : QuoteState) (c : CodePoint) : QuoteState :=
  match q.quote with
  | some quote =>
    { quote := if c == quote && !q.escaped then none else some quote
      escaped := c == '\\' && !q.escaped }
  | none => if c.isQuote then { quote := some c } else q

end QuoteState

/-- The position of the parenthesis that closes the one at the start, strings passed over. -/
def parenClose? (t : Text) : Option Nat := go 0 {} 0 t
where
  /-- Reads on at `index`, with `depth` parentheses open. -/
  go (index : Nat) (q : QuoteState) (depth : Nat) : Text → Option Nat
    | [] => none
    | c :: r =>
      if q.isInside || c.isQuote then go (index + 1) (q.next c) depth r
      else if c == '(' then go (index + 1) q (depth + 1) r
      else if c == ')' then
        if depth ≤ 1 then some index else go (index + 1) q (depth - 1) r
      else go (index + 1) q depth r

/-- How many angle, square and curly brackets are open. -/
structure Brackets where
  angles : Nat := 0
  squares : Nat := 0
  braces : Nat := 0

/-- The brackets open after the first character of `t`, given the one before it. An angle bracket
counts if another one closes it, and the head of an arrow closes none. -/
def Brackets.next (b : Brackets) (previous : Option CodePoint) (c : CodePoint) (r : Text) : Brackets :=
  if c == '<' && (Lexeme.angleClose? (c :: r)).isSome then { b with angles := b.angles + 1 }
  else if c == '>' && previous != some (CodePoint.ofChar '=') then { b with angles := b.angles - 1 }
  else if c == '[' then { b with squares := b.squares + 1 }
  else if c == ']' then { b with squares := b.squares - 1 }
  else if c == '\x7b' then { b with braces := b.braces + 1 }
  else if c == '\x7d' then { b with braces := b.braces - 1 }
  else b

/-- No bracket is open. -/
def Brackets.isZero (b : Brackets) : Bool := b.angles == 0 && b.squares == 0 && b.braces == 0

/-- The position of the first parenthesis outside angle, square and curly brackets. -/
def topLevelParen? (t : Text) : Option Nat := go 0 {} none {} t
where
  /-- Reads on at `index`, with the given brackets open. -/
  go (index : Nat) (q : QuoteState) (previous : Option CodePoint) (b : Brackets) :
      Text → Option Nat
    | [] => none
    | c :: r =>
      if q.isInside || c.isQuote then go (index + 1) (q.next c) (some c) b r
      else if c == '(' && b.isZero then some index
      else go (index + 1) q (some c) (b.next previous c r) r

/-- `topLevelParen?` from a position on. -/
def topLevelParenFrom? (t : Text) (start : Nat) : Option Nat :=
  (topLevelParen? (t.drop start)).map (start + ·)

/-- Where the parameter list starts: after the last `def`, after the receiver of a Go method, or at
the first parenthesis outside other brackets. -/
def parameterListStart? (signature : Text) : Option Nat :=
  match Text.cutLast? "def " signature with
  | some (before, _) => topLevelParenFrom? signature (before.length + 4)
  | none =>
    let indent := signature.length - signature.trimLeft.length
    if Text.startsWith (signature.drop indent) "func " then do
      let declaration := indent + 5
      let first ← topLevelParenFrom? signature declaration
      if Text.isBlank ((signature.drop declaration).take (first - declaration)) then
        let close ← parenClose? (signature.drop first)
        topLevelParenFrom? signature (first + close + 1)
      else return first
    else topLevelParen? signature

/-- The position of the lexeme that closes the parameter list opened at or after `start`. -/
def lexemeClose? (start : Nat) : (depth : Int) → List Lexeme → Option Nat
  | _, [] => none
  | depth, lexeme :: rest =>
    if lexeme.start < start then lexemeClose? start depth rest
    else if lexeme.text == "(" then lexemeClose? start (depth + 1) rest
    else if lexeme.text == ")" then
      if depth == 1 then some lexeme.start else lexemeClose? start (depth - 1) rest
    else lexemeClose? start depth rest

/-- The position of the bracket that closes the one at the start, strings passed over. -/
def bracketClose? (t : Text) : Option Nat := go 0 {} 0 t
where
  /-- Reads on at `index`, with `depth` round or square brackets open. -/
  go (index : Nat) (q : QuoteState) (depth : Nat) : Text → Option Nat
    | [] => none
    | c :: r =>
      if q.isInside || c.isQuote then go (index + 1) (q.next c) depth r
      else if c == '(' || c == '[' then go (index + 1) q (depth + 1) r
      else if c == ')' || c == ']' then
        if depth ≤ 1 then some index else go (index + 1) q (depth - 1) r
      else go (index + 1) q depth r

/-- Where the parameter list that starts at `start` ends. -/
def parameterListClose? (language : Option Language) (signature : Text) (start : Nat) : Option Nat :=
  match language.filter Language.comparesTokens with
  | some language => lexemeClose? start 0 (Lexeme.scan language signature)
  | none => (bracketClose? (signature.drop start)).map (start + ·)

/-- The text between the parentheses of the parameter list. -/
def parameterText? (language : Option Language) (signature : Text) : Option Text := do
  let start ← parameterListStart? signature
  let close ← parameterListClose? language signature start
  return (signature.drop (start + 1)).take (close - (start + 1))

/-- What follows the parameter list. -/
def tail (language : Option Language) (signature : Text) : Text :=
  match parameterListStart? signature with
  | none => []
  | some start =>
    match parameterListClose? language signature start with
    | none => []
    | some close => Text.trim (signature.drop (close + 1))

/-- Whether the angle bracket at `index` opens type arguments rather than compares. A name before it
must touch it; without one, it must start the type or the value of a callback. -/
def opensGeneric (t : Text) (index : Nat) (inDefault : Bool) : Bool :=
  let before := if index == 0 then none else t[index - 1]?
  match t[index + 1]? with
  | none => false
  | some after =>
    if (Text.ofString "=<>!+-*/%&|^?:,)\x7d").contains after then false
    else match Lexeme.angleClose? (t.drop index) with
      | none => false
      | some close =>
        let lead := Text.trimRight (t.take index)
        let rest := Text.trimLeft (t.drop (index + close + 1))
        let named := match before with
          | some c => !c.isBlank && !(Text.ofString "=<>!+-*/%&|^?:,(\x7b").contains c
          | none => false
        if named then
          !inDefault || rest.isEmpty
            || (Text.list [",", "(", ".", "?.", "["]).any fun next => Text.startsWith rest next
        else
          ((Text.endsWith lead ":" && !inDefault) || (Text.endsWith lead "=" && inDefault))
            && Text.startsWith rest "("

/-- How far a list of parameters has been split. -/
structure SplitState where
  segmentStart : Nat := 0
  depth : Int := 0
  angleDepth : Nat := 0
  inDefault : Bool := false

/-- The parameters that end before one of the lexemes, and where the last one starts. -/
def splitLexemes (language : Language) (t : Text) (s : SplitState) : List Lexeme → List Text × Nat
  | [] => ([], s.segmentStart)
  | lexeme :: rest =>
    if lexeme.isSealed then splitLexemes language t s rest
    else
      let token := lexeme.text
      let s :=
        if token == "(" || token == "[" || token == "\x7b" then { s with depth := s.depth + 1 }
        else if language == .typescript && token == "<" && opensGeneric t lexeme.start s.inDefault then
          { s with depth := s.depth + 1, angleDepth := s.angleDepth + 1 }
        else if token == ")" || token == "]" || token == "\x7d" then { s with depth := s.depth - 1 }
        else if token == ">" && s.angleDepth != 0 then
          { s with depth := s.depth - 1, angleDepth := s.angleDepth - 1 }
        else s
      let s := if s.depth == 0 && token == "=" then { s with inDefault := true } else s
      if s.depth == 0 && token == "," then
        let parameter := Text.trim ((t.drop s.segmentStart).take (lexeme.start - s.segmentStart))
        let (parameters, last) :=
          splitLexemes language t { s with segmentStart := lexeme.stop, inDefault := false } rest
        (parameter :: parameters, last)
      else splitLexemes language t s rest

/-- The parameters of a list read lexeme by lexeme. -/
def splitByLexemes (language : Language) (t : Text) : List Text :=
  let (parameters, last) := splitLexemes language t {} (Lexeme.scan language t)
  parameters ++ [Text.trim (t.drop last)]

/-- How far a list of parameters has been read character by character. `current` is the parameter so
far, last character first. -/
structure ReadState where
  current : Text := []
  quote : QuoteState := {}
  depth : Int := 0
  inLambda : Bool := false
  previous : Option CodePoint := none

/-- Whether the word `lambda` stands alone at the start of `t`. -/
def startsLambda (previous : Option CodePoint) (t : Text) : Bool :=
  let isWord (c : Option CodePoint) : Bool :=
    (c.map fun (c : CodePoint) => c.isLetterOrNumber || c == '_').getD false
  match Text.after? "lambda" t with
  | some rest => !isWord previous && !isWord rest.head?
  | none => false

/-- The parameters of a list read character by character. A comma divides them outside brackets,
strings and the head of a `lambda`. -/
def splitCharacters (s : ReadState) : Text → List Text
  | [] => [Text.trim s.current.reverse]
  | c :: r =>
    if s.quote.isInside || c.isQuote then
      splitCharacters
        { s with current := c :: s.current, quote := s.quote.next c, previous := some c } r
    else
      let inLambda := s.inLambda || startsLambda s.previous (c :: r)
      let depth :=
        if c == '(' || c == '[' || c == '\x7b' then s.depth + 1
        else if c == ')' || c == ']' || c == '\x7d' then s.depth - 1
        else s.depth
      let inLambda := inLambda && !(c == ':' && depth == 0)
      if c == ',' && depth == 0 && !inLambda then
        Text.trim s.current.reverse
          :: splitCharacters { s with current := [], depth, inLambda, previous := some c } r
      else
        splitCharacters { s with current := c :: s.current, depth, inLambda, previous := some c } r

/-- The parameters of a signature, without an implicit receiver. -/
def parameters (language : Option Language) (signature : Text) : List Text :=
  match parameterText? language signature with
  | none => []
  | some t =>
    let all := match language.filter Language.comparesTokens with
      | some language => splitByLexemes language t
      | none => splitCharacters {} t
    all.filter fun p => !p.isEmpty && p != "self" && p != "cls"

/-- Whether `->` and a return annotation up to the end follow, and the annotation. A line break may
stand before the annotation, and one at the very end. -/
def arrowTarget? (t : Text) : Option Text := do
  let rest ← Text.after? "->" (Text.trimLeft t)
  let core := (Text.before? "\n" rest).getD rest
  match Text.cutLast? "\n" core with
  | none => if core.isEmpty then none else some (Text.trim core)
  | some (before, line) => if Text.isBlank before && !line.isEmpty then some (Text.trim line) else none

/-- The return annotation after a closing parenthesis. -/
def returnAnnotation? : Text → Option Text
  | [] => none
  | c :: r =>
    if c == ')' then
      match arrowTarget? r with
      | some target => some target
      | none => returnAnnotation? r
    else returnAnnotation? r

/-- The position of the equals sign before a default: outside brackets and strings, and no part of a
comparison. -/
def defaultSeparator? (parameter : Text) : Option Nat := go 0 {} none 0 parameter
where
  /-- Reads on at `index`, with `depth` brackets open. -/
  go (index : Nat) (q : QuoteState) (previous : Option CodePoint) (depth : Int) : Text → Option Nat
    | [] => none
    | c :: r =>
      if q.isInside || c.isQuote then go (index + 1) (q.next c) (some c) depth r
      else if c == '(' || c == '[' || c == '\x7b' then go (index + 1) q (some c) (depth + 1) r
      else if c == ')' || c == ']' || c == '\x7d' then go (index + 1) q (some c) (depth - 1) r
      else if c != '=' || depth != 0 then go (index + 1) q (some c) depth r
      else
        let compares := match previous with
          | none => true
          | some p => (Text.ofString "<>=!:").contains p
        if compares || Text.startsWith r "=" then go (index + 1) q (some c) depth r
        else some index

/-- Whether a parameter has a default. -/
def hasDefault (parameter : Text) : Bool := (defaultSeparator? parameter).isSome

/-- A parameter without its default. -/
def withoutDefault (parameter : Text) : Text :=
  match defaultSeparator? parameter with
  | some separator => Text.trim (parameter.take separator)
  | none => parameter.trim

/-- The default of a parameter. -/
def defaultValue? (parameter : Text) : Option Text :=
  (defaultSeparator? parameter).map fun separator => Text.trim (parameter.drop (separator + 1))

/-- The declared name of a parameter, without stars, type and question marks. -/
def parameterName (parameter : Text) : Except Failure Text :=
  let value := Text.trim (Text.upTo ":" ((withoutDefault parameter).dropWhile (· == '*')))
  if value.isEmpty then .ok value
  else match Text.words (Text.dropRightWhile (· == '?') value) with
    | word :: _ => .ok word
    | [] => .error .namelessParameter

/-- Whether only defaults of existing parameters differ. -/
def onlyDefaultsDiffer (old new : Text) : Bool :=
  let oldParameters := parameters none old
  let newParameters := parameters none new
  oldParameters.length == newParameters.length && go (oldParameters.zip newParameters)
where
  /-- Up to the first pair with two different defaults, all pairs agree but for the default. -/
  go : List (Text × Text) → Bool
    | [] => false
    | (old, new) :: rest =>
      withoutDefault old == withoutDefault new
        && match defaultValue? old, defaultValue? new with
          | some before, some after => before != after || go rest
          | _, _ => go rest

end ChangeReview.Signature
