import ChangeReview.Lexeme.Scan

/-!
# Lexemes for comparison

Two signatures with the same lexemes differ in layout only, except where a line break between two
lexemes ends a statement. There the break is made a token of its own.
-/

namespace ChangeReview.Lexeme

/-- What follows the delimiter that closes the one at the start. -/
def afterDelimiter? (opening closing : Text) : (depth : Nat) → List Lexeme → Option (List Lexeme)
  | _, [] => none
  | depth, lexeme :: rest =>
    if lexeme.text == opening then afterDelimiter? opening closing (depth + 1) rest
    else if lexeme.text == closing then
      if depth == 1 then some rest else afterDelimiter? opening closing (depth - 1) rest
    else afterDelimiter? opening closing depth rest

/-- A whole identifier. -/
def isIdentifier (lexeme : Lexeme) : Bool :=
  match lexeme.text with
  | c :: r => c.startsIdentifier && r.all CodePoint.continuesIdentifier
  | [] => false

/-- How many delimiters of each kind are open. -/
structure Depths where
  parens : Nat := 0
  squares : Nat := 0
  braces : Nat := 0
  angles : Nat := 0

/-- No delimiter is open. -/
def Depths.isZero (d : Depths) : Bool :=
  d.parens == 0 && d.squares == 0 && d.braces == 0 && d.angles == 0

/-- Whether an arrow comes after a return type. -/
def arrowAfterType (d : Depths) : List Lexeme → Bool
  | [] => false
  | lexeme :: rest =>
    let token := lexeme.text
    if token == "(" then arrowAfterType { d with parens := d.parens + 1 } rest
    else if token == "[" then arrowAfterType { d with squares := d.squares + 1 } rest
    else if token == "\x7b" then arrowAfterType { d with braces := d.braces + 1 } rest
    else if token == "<" then arrowAfterType { d with angles := d.angles + 1 } rest
    else if token == ")" then
      if d.parens == 0 then false else arrowAfterType { d with parens := d.parens - 1 } rest
    else if token == "]" then
      if d.squares == 0 then false else arrowAfterType { d with squares := d.squares - 1 } rest
    else if token == "\x7d" then
      if d.braces == 0 then false else arrowAfterType { d with braces := d.braces - 1 } rest
    else if token == ">" then
      if d.angles == 0 then false else arrowAfterType { d with angles := d.angles - 1 } rest
    else if token == "=>" && d.isZero then true
    else if (token == "," || token == ";") && d.isZero then false
    else arrowAfterType d rest

/-- Whether an arrow follows a parameter list, a return type between them or not. -/
def arrowFollows : List Lexeme → Bool
  | [] => false
  | lexeme :: rest => lexeme.text == "=>" || (lexeme.text == ":" && arrowAfterType {} rest)

/-- Whether a parameter list and an arrow stand here. -/
def startsArrowParameters (lexemes : List Lexeme) : Bool :=
  match afterDelimiter? "(" ")" 0 lexemes with
  | some rest => arrowFollows rest
  | none => false

/-- The text of the first lexeme. -/
def firstText (lexemes : List Lexeme) : Option Text := lexemes.head?.map (·.text)

/-- Whether the parameters of an arrow function start here. -/
def startsAsyncArrow (language : Language) : List Lexeme → Bool
  | [] => false
  | lexeme :: rest =>
    if lexeme.isIdentifier then firstText rest == some "=>"
    else if lexeme.text == "(" then startsArrowParameters (lexeme :: rest)
    else if language != .typescript || lexeme.text != "<" then false
    else match afterDelimiter? "<" ">" 0 (lexeme :: rest) with
      | some rest' => firstText rest' == some "(" && startsArrowParameters rest'
      | none => false

/-- What follows a computed or plain member name. -/
def afterMemberName? : List Lexeme → Option (List Lexeme)
  | [] => none
  | lexeme :: rest =>
    if lexeme.text == "[" then afterDelimiter? "[" "]" 0 (lexeme :: rest)
    else if (Text.list ["(", ")", "\x7b", "\x7d", ",", ";", ":", "=>"]).contains lexeme.text then none
    else some rest

/-- Whether the head of a method starts here. -/
def startsAsyncMethod (lexemes : List Lexeme) : Bool :=
  let named := if firstText lexemes == some "*" then lexemes.tail else lexemes
  match afterMemberName? named with
  | none => false
  | some rest =>
    let rest := if firstText rest == some "?" then rest.tail else rest
    if firstText rest == some "<" then
      match afterDelimiter? "<" ">" 0 rest with
      | some rest' => firstText rest' == some "("
      | none => false
    else firstText rest == some "("

/-- Whether a line break between `previous` and the lexemes after it ends a statement. -/
def breakMatters (language : Language) (previous : Lexeme) : List Lexeme → Bool
  | [] => false
  | lexeme :: rest =>
    if previous.breakAfter then
      if previous.text == "break" || previous.text == "continue" then lexeme.isIdentifier
      else lexeme.text != ";" && lexeme.text != "\x7d"
    else if lexeme.breakBefore then true
    else if !previous.asyncCandidate then false
    else if lexeme.text == "function" || startsAsyncArrow language (lexeme :: rest) then true
    else previous.asyncMethod && startsAsyncMethod (lexeme :: rest)

/-- The token that stands for a line break. -/
def breakToken : Text := "<LINE_TERMINATOR>"

/-- The tokens after `previous`, line breaks that matter among them. -/
def comparableAfter (language : Language) (signature : Text) (previous : Lexeme) :
    List Lexeme → List Text
  | [] => []
  | lexeme :: rest =>
    let gap := (signature.drop previous.stop).take (lexeme.start - previous.stop)
    let tokens := lexeme.text :: comparableAfter language signature lexeme rest
    if language.isScript && gap.any CodePoint.isScriptBreak
        && breakMatters language previous (lexeme :: rest) then
      breakToken :: tokens
    else tokens

/-- The tokens by which a signature is compared: no comments, no layout. -/
def comparable (language : Language) (signature : Text) : List Text :=
  match (scan language signature).filter (!·.isComment) with
  | [] => []
  | lexeme :: rest => lexeme.text :: comparableAfter language signature lexeme rest

end ChangeReview.Lexeme
