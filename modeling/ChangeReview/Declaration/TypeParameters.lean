import ChangeReview.Declaration.LooseToken

/-!
# Type parameters of a declaration

The bracketed clause between the name of a function or class and its parameters is newer than the
grammar that reads the rest. It is cut out of the text and kept as tokens.
-/

namespace ChangeReview.Declaration

/-- The offset of a row and a column. Rows are counted in line feeds, but summed over lines that end
at any line break. -/
def sourceOffset (t : Text) (row column : Nat) : Nat :=
  total ((t.linesWithBreaks.take (row - 1)).map List.length) + column

/-- Whether a token is the keyword of a declaration, first on its line or after `async`. -/
def LooseToken.declares (token : LooseToken) : Bool :=
  token.kind == .name && (token.text == "class" || token.text == "def")
    && (Text.isBlank token.lead || Text.trim token.lead == "async")

/-- The tokens up to and with the bracket that closes the first one. -/
def throughBracket? (depth : Int) : List LooseToken → Option (List LooseToken)
  | [] => none
  | token :: rest =>
    if token.kind == .operator && token.text == "[" then
      (throughBracket? (depth + 1) rest).map (token :: ·)
    else if token.kind == .operator && token.text == "]" then
      if depth == 1 then some [token] else (throughBracket? (depth - 1) rest).map (token :: ·)
    else (throughBracket? depth rest).map (token :: ·)

/-- The tokens of the clause after the name of the first declaration. -/
def typeParameterClause? (tokens : List LooseToken) : Option (List LooseToken) :=
  let significant (tokens : List LooseToken) : List LooseToken :=
    tokens.dropWhile fun token => token.kind == .layout
  match tokens.dropWhile (!·.declares) with
  | [] => none
  | _ :: rest =>
    match significant rest with
    | [] => none
    | name :: rest =>
      match significant rest with
      | [] => none
      | opening :: rest =>
        if name.kind == .name && opening.text == "[" then throughBracket? 0 (opening :: rest) else none

/-- A signature without its type parameters, and the tokens of their clause. -/
def withoutTypeParameters (signature : Text) : Text × List Text :=
  match (LooseToken.scan? signature).bind typeParameterClause? with
  | some clause =>
    match clause.head?, clause.getLast? with
    | some opening, some closing =>
      let start := sourceOffset signature opening.row opening.column
      let stop := sourceOffset signature closing.endRow closing.endColumn
      (signature.take start ++ signature.drop stop,
        (clause.filter (·.kind != .layout)).map (·.text))
    | _, _ => (signature, [])
  | none => (signature, [])

end ChangeReview.Declaration
