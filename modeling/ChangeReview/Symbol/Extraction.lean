import ChangeReview.Digest.Md5
import ChangeReview.Session.Basic
import ChangeReview.Symbol.Basic

/-!
# Symbols of a source file

A source is parsed by the grammar of its language and file. Its symbols are the declarations that the tree
holds in the places where the language has them.
-/

namespace ChangeReview

namespace Symbol

/-- The symbol whose declaration spans `whole` and whose body is `body`. -/
def ofNode (source : Bytes) (kind : SymbolKind) (parent : Option Text) (name signature : Text)
    (whole : SyntaxNode) (body : Option SyntaxNode) : Except Failure Symbol := do
  return {
    name, kind, signature, parent
    startLine := whole.startLine source
    endLine := whole.endLine source
    bodyHash := ← Digest.ofBody (← SyntaxNode.textOf source body) }

/-- The texts of the children of certain kinds, in order. -/
def textsOf (source : Bytes) (kinds : List Text) (n : SyntaxNode) : Except Failure (List Text) :=
  (n.children.filter fun c => kinds.contains c.kind).mapM (SyntaxNode.text source)

/-! ## Go

Functions and methods at the top of the source. A method belongs to the type of its receiver. -/

namespace Go

mutual

/-- The first type name at or below a node. -/
def typeName? : SyntaxNode → Option SyntaxNode
  | ⟨kind, start, stop, field, isNamed, hasError, hasText, children⟩ =>
    if kind == "type_identifier" then
      some ⟨kind, start, stop, field, isNamed, hasError, hasText, children⟩
    else typeNameAmong? children

/-- The first type name at or below sibling nodes. -/
def typeNameAmong? : List SyntaxNode → Option SyntaxNode
  | [] => none
  | n :: rest => (typeName? n).or (typeNameAmong? rest)

end

/-- The type of a receiver. -/
def receiverType (source : Bytes) (receiver : SyntaxNode) : Except Failure (Option Text) :=
  match (receiver.children.find? (·.isA "parameter_declaration")).bind typeName? with
  | some n => do return some (← n.text source)
  | none => .ok none

/-- The part of a signature from the name on. -/
def shape (source : Bytes) (n : SyntaxNode) (name : Text) : Except Failure Text := do
  let generic ← SyntaxNode.textOf source (n.child? "type_parameters")
  let parameters ← SyntaxNode.textOf source (n.child? "parameters") "()"
  let result ← match n.child? "result" with
    | some r => do pure (" " ++ (← r.text source))
    | none => pure []
  return name ++ generic ++ parameters ++ result

/-- The symbols that a node declares. -/
def declared (source : Bytes) (n : SyntaxNode) : Except Failure (List Symbol) := do
  match n.child? "name" with
  | none => return []
  | some nameNode =>
    if n.isA "function_declaration" then
      let name ← nameNode.text source
      return [← Symbol.ofNode source .function none name ("func " ++ (← shape source n name)) n
        (n.child? "body")]
    else if n.isA "method_declaration" then
      let name ← nameNode.text source
      let receiver := n.child? "receiver"
      let signature := "func " ++ (← SyntaxNode.textOf source receiver) ++ " " ++ (← shape source n name)
      let owner ← match receiver with
        | some r => receiverType source r
        | none => pure none
      return [← Symbol.ofNode source .method owner name signature n (n.child? "body")]
    else return []

/-- The symbols of a source. -/
def symbols (source : Bytes) (root : SyntaxNode) : Except Failure (List Symbol) := do
  return (← root.children.mapM (declared source)).flatten

end Go

/-! ## JavaScript and TypeScript

Functions, classes with their methods, and arrow functions bound to variables, at the top of the source or
under an export. -/

namespace Script

/-- The kinds of nodes that modify a callable. -/
def modifierKinds : List Text :=
  Text.list ["abstract", "accessibility_modifier", "async", "get", "override_modifier", "set", "static"]

/-- The modifiers of a callable in the order of the source. -/
def modifiers (source : Bytes) (n : SyntaxNode) : Except Failure Text := do
  return Text.join " " (← textsOf source modifierKinds n)

/-- The words of an export. -/
def exportWords (source : Bytes) (n : SyntaxNode) : Except Failure Text := do
  return Text.join " " (← textsOf source (Text.list ["default", "export"]) n)

/-- Groups of words, the empty ones left out, each followed by a space. -/
def lead (groups : List Text) : Text :=
  (groups.filter (!·.isEmpty)).flatMap (· ++ (" " : Text))

/-- What is called: type parameters, parameters and result. -/
def shape (source : Bytes) (n : SyntaxNode) : Except Failure Text := do
  return (← SyntaxNode.textOf source (n.child? "type_parameters"))
    ++ (← SyntaxNode.textOf source (n.child? "parameters") "()")
    ++ (← SyntaxNode.textOf source (n.child? "return_type"))

/-- The function that a node declares. -/
def function (source : Bytes) (exported : Text) (n : SyntaxNode) : Except Failure (List Symbol) := do
  match n.child? "name" with
  | none => return []
  | some nameNode =>
    let name ← nameNode.text source
    let keyword : Text := if n.hasChild "*" then "function* " else "function "
    let signature := lead [exported, ← modifiers source n] ++ keyword ++ name ++ (← shape source n)
    return [← Symbol.ofNode source .function none name signature n (n.child? "body")]

/-- The method that a node declares in the class `owner`. -/
def method (source : Bytes) (owner : Text) (n : SyntaxNode) : Except Failure (List Symbol) := do
  match n.child? "name" with
  | none => return []
  | some nameNode =>
    let name ← nameNode.text source
    let generator : Text := if n.hasChild "*" then "*" else []
    let optional : Text := if n.hasChild "?" then "?" else []
    let signature := lead [← modifiers source n] ++ generator ++ name ++ optional ++ (← shape source n)
    return [← Symbol.ofNode source .method (some owner) name signature n (n.child? "body")]

/-- The kinds of nodes that declare a method. -/
def methodKinds : List Text := Text.list ["abstract_method_signature", "method_definition"]

/-- The class that a node declares, and its methods. -/
def classOf (source : Bytes) (exported : Text) (n : SyntaxNode) : Except Failure (List Symbol) := do
  match n.child? "name" with
  | none => return []
  | some nameNode =>
    let name ← nameNode.text source
    let generic ← SyntaxNode.textOf source (n.child? "type_parameters")
    let heritage ← match n.children.find? (·.isA "class_heritage") with
      | some h => do pure (" " ++ (← h.text source))
      | none => pure []
    let keyword : Text := if n.isA "abstract_class_declaration" then "abstract class " else "class "
    let signature := lead [exported] ++ keyword ++ name ++ generic ++ heritage
    let body := n.child? "body"
    let symbol ← Symbol.ofNode source .classOf none name signature n body
    let members := ((body.map SyntaxNode.children).getD []).filter fun c => methodKinds.contains c.kind
    return symbol :: (← members.mapM (method source name)).flatten

/-- The word that declares variables. -/
def variableWord (source : Bytes) : List SyntaxNode → Except Failure Text
  | [] => .ok "const"
  | n :: rest => do
    if n.isNamed then variableWord source rest
    else
      let word ← n.text source
      if (Text.list ["const", "let", "var"]).contains word then return word
      else variableWord source rest

/-- The arrow function that a declarator in `whole` binds to a name. -/
def arrowFunction (source : Bytes) (exported word : Text) (whole declarator : SyntaxNode) :
    Except Failure (List Symbol) := do
  match declarator.child? "name", declarator.child? "value" with
  | some nameNode, some value =>
    if !value.isA "arrow_function" then return []
    let name ← nameNode.text source
    let parameters ← match value.child? "parameters", value.child? "parameter" with
      | some list, _ => list.text source
      | none, some single => do pure ("(" ++ (← single.text source) ++ ")")
      | none, none => pure "()"
    let returns ← SyntaxNode.textOf source (value.child? "return_type")
    let generic ← SyntaxNode.textOf source (value.child? "type_parameters")
    let signature := lead [exported] ++ word ++ " " ++ name ++ " = " ++ lead [← modifiers source value]
      ++ generic ++ parameters ++ returns ++ " =>"
    return [← Symbol.ofNode source .function none name signature whole (value.child? "body")]
  | _, _ => return []

/-- The arrow functions of a declaration of variables. -/
def arrowFunctions (source : Bytes) (exported : Text) (n : SyntaxNode) : Except Failure (List Symbol) := do
  let word ← variableWord source n.children
  let declarators := n.children.filter (·.isA "variable_declarator")
  return (← declarators.mapM (arrowFunction source exported word n)).flatten

/-- The symbols that a node itself declares. -/
def declared (source : Bytes) (exported : Text) (n : SyntaxNode) : Except Failure (List Symbol) :=
  if (Text.list ["function_declaration", "generator_function_declaration"]).contains n.kind then
    function source exported n
  else if (Text.list ["abstract_class_declaration", "class_declaration"]).contains n.kind then
    classOf source exported n
  else if (Text.list ["lexical_declaration", "variable_declaration"]).contains n.kind then
    arrowFunctions source exported n
  else .ok []

/-- The symbols of sibling nodes under an export of the given words. -/
def among (source : Bytes) (exported : Text) : List SyntaxNode → Except Failure (List Symbol)
  | [] => .ok []
  | n :: rest => do
    let here ←
      if n.isA "export_statement" then
        among source (← exportWords source n) n.children
      else declared source exported n
    return here ++ (← among source exported rest)
termination_by nodes => sizeOf nodes
decreasing_by
  all_goals
    simp only [List.cons.sizeOf_spec]
    have := n.sizeOf_children
    omega

/-- The symbols of a source. -/
def symbols (source : Bytes) (root : SyntaxNode) : Except Failure (List Symbol) :=
  among source [] root.children

end Script

/-! ## Python

Functions and classes at the top and inside each other's bodies. Those inside other statements are left out.
A definition inside a class belongs to that class, however deep in functions it stands. -/

namespace Python

/-- A definition with its decorators. -/
structure Definition where
  /-- The node that spans the decorators too. -/
  whole : SyntaxNode
  core : SyntaxNode
  decorators : List SyntaxNode

namespace Definition

/-- The kinds of nodes that define something. -/
def coreKinds : List Text := Text.list ["function_definition", "class_definition"]

/-- The definition that a node stands for. Of several under one set of decorators the last counts. -/
def ofNode? (n : SyntaxNode) : Option Definition :=
  if coreKinds.contains n.kind then some { whole := n, core := n, decorators := [] }
  else if n.isA "decorated_definition" then
    (n.children.reverse.find? fun c => coreKinds.contains c.kind).map fun core =>
      { whole := n, core, decorators := n.children.filter (·.isA "decorator") }
  else none

/-- Whether a class is defined. -/
def isClass (d : Definition) : Bool := d.core.isA "class_definition"

/-- The body of a definition. -/
def body? (d : Definition) : Option SyntaxNode := d.core.child? "body"

/-- The nodes in the body of a definition. -/
def inside (d : Definition) : List SyntaxNode := (d.body?.map SyntaxNode.children).getD []

theorem sizeOf_core {n : SyntaxNode} {d : Definition} (h : ofNode? n = some d) :
    sizeOf d.core ≤ sizeOf n := by
  unfold ofNode? at h
  split at h
  · simp only [Option.some.injEq] at h
    simp [← h]
  · split at h
    · obtain ⟨core, found, rfl⟩ := Option.map_eq_some_iff.1 h
      have member := List.mem_reverse.1 (List.mem_of_find?_eq_some found)
      exact Nat.le_of_lt (SyntaxNode.sizeOf_child member)
    · simp at h

theorem sizeOf_inside {n : SyntaxNode} {d : Definition} (h : ofNode? n = some d) :
    sizeOf d.inside ≤ sizeOf n := by
  have core := sizeOf_core h
  unfold inside
  cases found : d.body? with
  | none =>
    have : sizeOf ([] : List SyntaxNode) = 1 := rfl
    have positive : 0 < sizeOf n := by
      cases n
      rw [SyntaxNode.mk.sizeOf_spec]
      omega
    simp only [Option.map_none, Option.getD_none, this]
    omega
  | some body =>
    have less : sizeOf body < sizeOf d.core := SyntaxNode.sizeOf_child? found
    have inner := body.sizeOf_children
    simp only [Option.map_some, Option.getD_some]
    omega

end Definition

/-- The signature of a function without its decorators. A function without a parameter list has the
start of its text. -/
def functionSignature (source : Bytes) (n : SyntaxNode) (name : Text) : Except Failure Text := do
  match n.child? "parameters" with
  | none =>
    let t ← n.text source
    return if t.includes ":" then Text.upTo ":" t else Text.upTo "\n" t
  | some parameters =>
    let keyword : Text := if n.hasChild "async" then "async def " else "def "
    let generic ← SyntaxNode.textOf source (n.child? "type_parameters")
    let shape := keyword ++ name ++ generic ++ (← parameters.text source)
    match n.child? "return_type" with
    | none => return shape
    | some returns => return shape ++ " -> " ++ (← returns.text source)

/-- The signature of a class without its decorators. -/
def classSignature (source : Bytes) (n : SyntaxNode) (name : Text) : Except Failure Text := do
  return "class " ++ name ++ (← SyntaxNode.textOf source (n.child? "type_parameters"))
    ++ (← SyntaxNode.textOf source (n.child? "superclasses"))

/-- The symbol of a definition inside the class `owner`. -/
def Definition.toSymbol (source : Bytes) (owner : Option Text) (d : Definition) (name : Text) :
    Except Failure Symbol := do
  let decorators ← d.decorators.mapM (SyntaxNode.text source)
  let lead := decorators.flatMap (· ++ ("\n" : Text))
  if d.isClass then
    Symbol.ofNode source .classOf none name (lead ++ (← classSignature source d.core name)) d.whole d.body?
  else
    let kind := if owner.any (!·.isEmpty) then SymbolKind.method else .function
    Symbol.ofNode source kind owner name (lead ++ (← functionSignature source d.core name)) d.whole d.body?

/-- The symbols that the nodes of one body define, `owner` being the class around it. A definition
without a name is left out with all that it holds. -/
def among (source : Bytes) (owner : Option Text) : List SyntaxNode → Except Failure (List Symbol)
  | [] => .ok []
  | n :: rest =>
    match _found : Definition.ofNode? n with
    | none => among source owner rest
    | some d =>
      match d.core.child? "name" with
      | none => among source owner rest
      | some nameNode => do
        let name ← nameNode.text source
        let symbol ← d.toSymbol source owner name
        let inner ← among source (if d.isClass then some name else owner) d.inside
        let later ← among source owner rest
        return symbol :: (inner ++ later)
termination_by nodes => sizeOf nodes
decreasing_by
  all_goals
    simp only [List.cons.sizeOf_spec]
    try have := Definition.sizeOf_inside ‹_›
    omega

/-- The symbols of a source. -/
def symbols (source : Bytes) (root : SyntaxNode) : Except Failure (List Symbol) :=
  among source none root.children

end Python

/-- The symbols of a parsed source, in the order of their declarations. -/
def extract (language : Language) (source : Bytes) (root : SyntaxNode) : Except Failure (List Symbol) :=
  match language with
  | .python => Python.symbols source root
  | .javascript | .typescript => Script.symbols source root
  | .go => Go.symbols source root
  | .other name => .error (.unsupportedLanguage name)

end Symbol

/-- The symbols of a source file, and whether its parse has a gap. -/
structure ParsedFile where
  symbols : List Symbol
  hasGap : Bool

/-- Parses a source file. A language without a grammar is one gap. -/
def ParsedFile.read (language : Language) (path : Option Text) (source : Text) : Action ParsedFile := do
  match Dialect.select language path with
  | .error _ => return { symbols := [], hasGap := true }
  | .ok dialect =>
    let (root, bytes) ← Action.parse dialect source
    return { symbols := ← Symbol.extract language bytes root, hasGap := root.hasError }

end ChangeReview
