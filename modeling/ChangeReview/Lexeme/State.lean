import ChangeReview.Text.Basic

/-!
# Lexical goals

Whether a slash divides or opens a regular expression depends on what came before it. The state here
follows a token sequence just far enough to tell: it knows the current goal, the role of each open
parenthesis and brace, and which function, method or arrow body is about to begin.
-/

namespace ChangeReview.Lexeme

/-- What may come next: a new statement, an operand, or an operator. -/
inductive Goal where
  | statement
  | operand
  | operator
deriving DecidableEq

/-- Whether a function is asynchronous, and whether it generates. -/
structure FunctionFlags where
  isAsync : Bool := false
  isGenerator : Bool := false
deriving DecidableEq

/-- A function whose head has been seen. -/
structure FunctionHead where
  flags : FunctionFlags
  isExpression : Bool
deriving DecidableEq

/-- Why a parenthesis was opened. -/
inductive ParenRole where
  | control
  | expression
  | forControl
  | functionParameters
deriving DecidableEq

/-- How far the head of a `for` has been read. -/
inductive ForPhase where
  | start
  | lhs
  | rhs
  | cStyle
deriving DecidableEq

/-- An open parenthesis. -/
structure ParenFrame where
  role : ParenRole
  flags : FunctionFlags := {}
  isExpression : Bool := true
  forPhase : Option ForPhase := none
deriving DecidableEq

/-- Why a brace was opened. -/
inductive BraceRole where
  | block
  | functionDeclaration
  | functionExpression
  | object
deriving DecidableEq

/-- An open brace, with the depths at which it was opened. -/
structure BraceFrame where
  role : BraceRole
  flags : FunctionFlags := {}
  parenDepth : Nat := 0
  squareDepth : Nat := 0
deriving DecidableEq

/-- The state between two tokens. The innermost open parenthesis and brace come first. -/
structure State where
  goal : Goal := .statement
  lastToken : Option Text := none
  pendingControl : Option Text := none
  pendingBlock : Bool := false
  pendingFunction : Option FunctionHead := none
  pendingFunctionBody : Option FunctionHead := none
  arrowFlags : Option FunctionFlags := none
  asyncArrowCandidate : Bool := false
  asyncStartedStatement : Bool := false
  asyncArrowParameterSeen : Bool := false
  restrictedBreakPending : Bool := false
  pendingMethod : Option FunctionFlags := none
  methodNameSeen : Bool := false
  possibleLabel : Bool := false
  genericAngleDepth : Nat := 0
  pendingArrowBody : Bool := false
  conciseFlags : Option FunctionFlags := none
  conciseBoundaryDepth : Option Nat := none
  squareDepth : Nat := 0
  parens : List ParenFrame := []
  braces : List BraceFrame := []
deriving DecidableEq

/-- Keywords after which an operand follows. -/
def operandKeywords : List Text :=
  Text.list ["case", "class", "const", "delete", "extends", "function", "in", "instanceof", "new", "return",
    "throw", "typeof", "var", "void"]

/-- Keywords with a head in parentheses. -/
def controlKeywords : List Text := ["catch", "for", "if", "switch", "while", "with"]

/-- Keywords directly before a block. -/
def blockKeywords : List Text := ["do", "else", "finally", "try"]

/-- Keywords whose statement a line break ends. -/
def restrictedKeywords : List Text := ["break", "continue", "return", "throw"]

namespace State

/-- A slash must divide here. -/
def canEndExpression (s : State) : Bool := s.goal == .operator

/-- The last token is one of `tokens`. -/
def lastIn (s : State) (tokens : List Text) : Bool :=
  match s.lastToken with
  | some token => tokens.contains token
  | none => false

/-- The last token selects a member. -/
def afterDot (s : State) : Bool := s.lastIn [".", "?."]

/-- The flags of the function whose body is being read. -/
def activeFlags (s : State) : FunctionFlags :=
  match s.conciseFlags, s.pendingFunctionBody with
  | some flags, _ => flags
  | none, some head => head.flags
  | none, none =>
    match s.braces.find? fun b => b.role == .functionDeclaration || b.role == .functionExpression with
    | some frame => frame.flags
    | none => {}

/-- Directly inside an object literal, at none of its inner delimiters. -/
def atObjectLevel (s : State) : Bool :=
  match s.braces with
  | frame :: _ =>
    frame.role == .object && s.parens.length == frame.parenDepth
      && s.squareDepth == frame.squareDepth
  | [] => false

/-- At the start of a member of an object literal. -/
def atObjectMember (s : State) : Bool := s.atObjectLevel && s.lastIn ["\x7b", ","]

/-- A line break after this word would change how the program parses. -/
def breakRestrictedAfter (s : State) (word : Text) : Bool :=
  if s.afterDot || s.atObjectLevel then false
  else if word == "yield" then s.activeFlags.isGenerator
  else
    let inBlock := match s.braces with
      | frame :: _ => frame.role == .block
      | [] => false
    restrictedKeywords.contains word
      && (s.goal == .statement || (s.lastIn [":"] && inBlock))

/-- The number of open delimiters. -/
def delimiterDepth (s : State) : Nat := s.parens.length + s.braces.length + s.squareDepth

/-- Enters the body of an arrow function that has no braces. -/
def startConciseBody (s : State) (token : Text) : State :=
  if s.pendingArrowBody && token != "\x7b" then
    let s := match s.pendingFunctionBody with
      | some head =>
        { s with conciseFlags := some head.flags, conciseBoundaryDepth := some s.delimiterDepth }
      | none => s
    { s with pendingFunctionBody := none, pendingArrowBody := false }
  else s

/-- The state after a line break. -/
def observeBreak (s : State) : State :=
  let s := if s.restrictedBreakPending then { s with goal := .statement } else s
  let s :=
    if s.lastIn ["async"] && s.asyncArrowCandidate then
      let s := if s.asyncStartedStatement then { s with goal := .statement } else s
      if s.pendingMethod.isSome && !s.methodNameSeen then
        { s with pendingMethod := none, methodNameSeen := false }
      else s
    else s
  { s with
    restrictedBreakPending := false
    arrowFlags := none
    asyncArrowCandidate := false
    asyncStartedStatement := false
    asyncArrowParameterSeen := false }

/-- The innermost parenthesis is the head of a `for`. -/
def inForHead (s : State) : Bool :=
  match s.parens with
  | frame :: _ => frame.role == .forControl
  | [] => false

/-- How far the innermost `for` head has been read. -/
def forPhase? (s : State) : Option ForPhase :=
  match s.parens with
  | frame :: _ => if frame.role == .forControl then frame.forPhase else none
  | [] => none

/-- The state with the innermost parenthesis at another phase of a `for` head. -/
def setForPhase (s : State) (phase : ForPhase) : State :=
  match s.parens with
  | frame :: rest => { s with parens := { frame with forPhase := some phase } :: rest }
  | [] => s

/-- The goal and what is pending after a word. -/
def wordGoal (s : State) (word : Text) : State :=
  if s.afterDot then { s with goal := .operator }
  else if word == "of" && s.forPhase? == some .lhs && s.canEndExpression then
    { s.setForPhase .rhs with goal := .operand }
  else if controlKeywords.contains word then
    { s with
      pendingControl := some word
      pendingBlock := s.pendingBlock || word == "catch"
      goal := .operand }
  else if blockKeywords.contains word then { s with pendingBlock := true, goal := .statement }
  else if word == "function" then
    let isAsync := s.lastIn ["async"] && s.asyncArrowCandidate
    let declared := if isAsync then s.asyncStartedStatement else s.goal == .statement
    { s with
      pendingFunction := some ⟨⟨isAsync, false⟩, !declared⟩
      asyncArrowCandidate := false
      goal := .operand }
  else if word == "await" && s.activeFlags.isAsync then { s with goal := .operand }
  else if word == "yield" && s.activeFlags.isGenerator then { s with goal := .operand }
  else if word == "const" && s.lastIn ["as"] then { s with goal := .operator }
  else if operandKeywords.contains word then { s with goal := .operand }
  else { s with goal := .operator, possibleLabel := s.goal == .statement }

/-- The state after an identifier or a keyword. -/
def observeWord (s₀ : State) (word : Text) : State :=
  let restricted := s₀.breakRestrictedAfter word
  let s₁ := s₀.startConciseBody word
  let startsMethod := s₁.atObjectMember && !s₁.afterDot
  let continuesMethod := s₁.pendingMethod.isSome && !s₁.methodNameSeen
  let inForHead := s₁.inForHead
  let s :=
    { s₁ with pendingControl := none, pendingBlock := false, possibleLabel := false }.wordGoal word
  let s :=
    if inForHead && s.forPhase? == some .start
        && !(["const", "let", "var"] : List Text).contains word then s.setForPhase .lhs
    else s
  let s :=
    if startsMethod then
      { s with
        pendingMethod := some ⟨word == "async", false⟩
        methodNameSeen := !(["async", "get", "set"] : List Text).contains word }
    else if continuesMethod then { s with methodNameSeen := true }
    else if s.pendingMethod.isSome && word != "function" then
      { s with pendingMethod := none, methodNameSeen := false }
    else s
  let s :=
    if word == "async" && !s₁.afterDot then
      { s with
        asyncArrowCandidate := true
        asyncStartedStatement := s₁.goal == .statement
        asyncArrowParameterSeen := false }
    else if s.asyncArrowCandidate && s.lastIn ["async"] then
      { s with asyncArrowParameterSeen := true }
    else if word != "function" then
      { s with asyncArrowCandidate := false, asyncArrowParameterSeen := false }
    else s
  { s with arrowFlags := none, restrictedBreakPending := restricted, lastToken := some word }

/-- The state after a string, a template, a regular expression or a number. -/
def observeLiteral (s : State) (token : Text) : State :=
  { s.startConciseBody token with
    goal := .operator
    pendingControl := none
    pendingBlock := false
    arrowFlags := none
    asyncArrowCandidate := false
    asyncArrowParameterSeen := false
    restrictedBreakPending := false
    pendingMethod := none
    methodNameSeen := false
    possibleLabel := false
    lastToken := some token }

/-- The frame of a parenthesis opened here. -/
def openingFrame (s : State) : ParenFrame :=
  match s.pendingControl with
  | some word =>
    if word == "for" then { role := .forControl, forPhase := some .start } else { role := .control }
  | none =>
    match s.pendingFunction, s.pendingMethod with
    | some head, _ => ⟨.functionParameters, head.flags, head.isExpression, none⟩
    | none, some flags =>
      if s.methodNameSeen then ⟨.functionParameters, flags, true, none⟩
      else ⟨.expression, ⟨s.asyncArrowCandidate && s.lastIn ["async"], false⟩, true, none⟩
    | none, none =>
      ⟨.expression, ⟨s.asyncArrowCandidate && s.lastIn ["async"], false⟩, true, none⟩

/-- Opens a parenthesis, and uses up what announced it. -/
def openParen (s : State) : State :=
  let opened :=
    match s.pendingControl, s.pendingFunction with
    | some _, _ => { s with pendingControl := none }
    | none, some _ => { s with pendingFunction := none }
    | none, none =>
      if s.pendingMethod.isSome && s.methodNameSeen then
        { s with pendingMethod := none, methodNameSeen := false }
      else s
  { opened with
    parens := s.openingFrame :: s.parens
    goal := .operand
    pendingBlock := false
    arrowFlags := none
    asyncArrowCandidate := false
    asyncArrowParameterSeen := false
    possibleLabel := false }

/-- Closes a parenthesis; an unmatched one counts as the end of an expression. -/
def closeParen (s : State) : State :=
  let frame := s.parens.head?.getD { role := .expression }
  let s := { s with parens := s.parens.tail }
  match frame.role with
  | .functionParameters =>
    { s with pendingFunctionBody := some ⟨frame.flags, frame.isExpression⟩, goal := .operand }
  | .control | .forControl => { s with pendingBlock := true, goal := .statement }
  | .expression => { s with goal := .operator, arrowFlags := some ⟨frame.flags.isAsync, false⟩ }

/-- Opens a brace: a function body, a block or an object. -/
def openBrace (s : State) : State :=
  let s :=
    match s.pendingFunctionBody with
    | some head =>
      let role : BraceRole :=
        if head.isExpression then .functionExpression else .functionDeclaration
      { s with
        braces := { role, flags := head.flags } :: s.braces
        pendingFunctionBody := none
        pendingArrowBody := false
        goal := .statement }
    | none =>
      let block := s.pendingBlock || s.goal == Goal.statement
      let role : BraceRole := if block then .block else .object
      { s with
        braces := { role, parenDepth := s.parens.length, squareDepth := s.squareDepth } :: s.braces
        goal := if block then .statement else .operand }
  { s with pendingBlock := false, pendingMethod := none, methodNameSeen := false }

/-- Closes a brace; an unmatched one counts as the end of an object. -/
def closeBrace (s : State) : State :=
  let frame := s.braces.head?.getD { role := .object }
  { s with
    braces := s.braces.tail
    goal :=
      if frame.role == .functionExpression || frame.role == .object then .operator else .statement
    pendingBlock := false }

/-- A star that does not mark a generator multiplies. -/
def star (s : State) : State :=
  match s.pendingFunction with
  | some head =>
    { s with
      pendingFunction := some { head with flags := { head.flags with isGenerator := true } }
      goal := .operand
      pendingBlock := false }
  | none =>
    if s.atObjectMember || (s.pendingMethod.isSome && !s.methodNameSeen) then
      let isAsync := (s.pendingMethod.map (·.isAsync)).getD false
      { s with pendingMethod := some ⟨isAsync, true⟩, methodNameSeen := false, goal := .operand }
    else { s with goal := .operand, pendingBlock := false }

/-- An arrow announces the body of a function. -/
def arrow (s : State) : State :=
  let flags := s.arrowFlags.getD ⟨s.asyncArrowCandidate && s.asyncArrowParameterSeen, false⟩
  { s with
    pendingFunctionBody := some ⟨flags, true⟩
    pendingArrowBody := true
    goal := .operand
    asyncArrowCandidate := false
    asyncArrowParameterSeen := false }

/-- The delimiters and the goal after a punctuator. -/
def punctuate (s : State) (token : Text) : State :=
  if token == "(" then s.openParen
  else if token == ")" then s.closeParen
  else if token == "\x7b" then s.openBrace
  else if token == "\x7d" then s.closeBrace
  else if token == "*" then s.star
  else if token == "=>" then s.arrow
  else if token == "++" || token == "--" then { s with pendingBlock := false }
  else if token == "[" then
    { s with squareDepth := s.squareDepth + 1, goal := .operand, pendingBlock := false }
  else if token == "]" then
    { s with squareDepth := s.squareDepth - 1, goal := .operator, pendingBlock := false }
  else if token == "!" && s.goal == .operator then { s with pendingBlock := false }
  else if token == ">" && s.genericAngleDepth != 0 then
    { s with
      genericAngleDepth := s.genericAngleDepth - 1
      goal := if s.genericAngleDepth == 1 then .operator else .operand }
  else if token == ":" && s.possibleLabel then
    { s with goal := .statement, pendingBlock := true, possibleLabel := false }
  else if token == ";" then
    { s with goal := if s.inForHead then .operand else .statement, pendingBlock := false }
  else { s with goal := .operand, pendingBlock := false }

/-- A semicolon, or an operator before `of`, makes a `for` head one of three clauses. -/
def punctuateFor (s : State) (token : Text) : State :=
  if s.inForHead then
    if token == ";" then s.setForPhase .cStyle
    else if (["=", ",", "+", "-", "*", "/", "/=", "%"] : List Text).contains token
        && (s.forPhase? == some .start || s.forPhase? == some .lhs) then s.setForPhase .cStyle
    else s
  else s

/-- The state after a punctuator or an operator. -/
def observeToken (s : State) (token : Text) : State :=
  let s := { s with restrictedBreakPending := false }
  let s := if token == "=>" then s else s.startConciseBody token
  let depth := s.delimiterDepth
  let s := if token == "(" then s else { s with pendingControl := none }
  let s := (s.punctuate token).punctuateFor token
  let s := if token == ")" || token == "=>" then s else { s with arrowFlags := none }
  let s :=
    if token == "*" || token == "(" then s
    else { s with pendingMethod := none, methodNameSeen := false }
  let s :=
    if token == ")" || token == "=>" then s
    else { s with asyncArrowCandidate := false, asyncArrowParameterSeen := false }
  let s := if token == ":" then s else { s with possibleLabel := false }
  let s :=
    if (token == "," || token == ";") && s.conciseBoundaryDepth == some depth then
      { s with conciseFlags := none, conciseBoundaryDepth := none }
    else s
  { s with lastToken := some token }

/-- The state after an angle bracket that opens type arguments. -/
def observeAngle (s : State) : State :=
  { s with
    genericAngleDepth := s.genericAngleDepth + 1
    goal := .operand
    lastToken := some "<" }

end State

end ChangeReview.Lexeme
