import ChangeReview.Language
import ChangeReview.Syntax.Place

/-!
# Binding places

A name that declares, binds or labels something refers to no other symbol. Default values and type
annotations beside a bound name do refer.
-/

namespace ChangeReview

/-- The kinds of nodes that declare the name in their name field. -/
def declarationKinds : List Text :=
  Text.list ["abstract_class_declaration", "abstract_method_signature", "class_declaration",
    "class_definition", "const_spec", "enum_assignment", "enum_body", "enum_declaration",
    "field_declaration", "field_definition", "function_declaration", "function_definition",
    "function_signature", "generator_function_declaration", "interface_declaration", "internal_module",
    "method_elem", "method_declaration", "method_definition", "method_signature", "property_signature",
    "public_field_definition", "type_alias_declaration", "type_parameter", "type_parameter_declaration",
    "type_spec", "var_spec"]

/-- The pairs of a kind of node and the field in which it binds a name. -/
def bindingFields : List (Text × Text) :=
  [("aliased_import", "alias"), ("catch_clause", "parameter"), ("as_pattern", "alias"),
    ("assignment", "left"), ("assignment_expression", "left"), ("assignment_statement", "left"),
    ("for_in_clause", "left"), ("for_in_statement", "left"), ("for_statement", "left"),
    ("field_definition", "property"), ("import_specifier", "alias"), ("keyword_argument", "name"),
    ("named_expression", "name"), ("parameter_declaration", "name"), ("range_clause", "left"),
    ("required_parameter", "pattern"), ("optional_parameter", "pattern"),
    ("short_var_declaration", "left"), ("variable_declarator", "name"),
    ("variadic_parameter_declaration", "name")].map fun (kind, field) =>
      (Text.ofString kind, Text.ofString field)

/-- The kinds of nodes that list parameters. -/
def parameterListKinds : List Text :=
  Text.list ["formal_parameters", "lambda_parameters", "parameter_list", "parameters"]

/-- The kinds of nodes through which a binding reaches the names inside it. -/
def bindingPatternKinds : List Text :=
  Text.list ["array_pattern", "as_pattern_target", "assignment_pattern", "default_parameter",
    "dictionary_splat_pattern", "expression_list", "list_pattern", "list_splat_pattern",
    "literal_element", "object_assignment_pattern", "object_pattern", "pair_pattern", "pattern_list",
    "rest_pattern", "tuple_pattern", "typed_default_parameter", "typed_parameter"]

/-- Whether the name below the steps is captured by a case of a match: a single name, an alias, a rest or
the label of an attribute. A name with a point in it, or the name of a class pattern, is referred to. -/
def isCapture : List Step → Bool
  | [] => false
  | s :: above =>
    if (Text.list ["as_pattern", "splat_pattern", "keyword_pattern"]).contains s.parent.kind then
      Step.passes ["case_pattern"] above
    else inner (s :: above)
where
  /-- The same for a node that is not directly inside an alias, a rest or a label. -/
  inner : List Step → Bool
    | [] => false
    | s :: above =>
      if s.parent.isA "dotted_name" then
        Step.passes ["case_pattern"] above && !s.parent.hasChild "."
          && !(above.head?.any fun up => up.parent.isA "class_pattern")
      else if s.parent.isA "case_clause" then false
      else inner above

/-- The types whose literals have keys that are evaluated. -/
def evaluatedKeyKinds : List Text :=
  Text.list ["array_type", "implicit_length_array_type", "map_type", "slice_type"]

/-- Whether a key in a Go literal, the steps being those above its element, names a field. A literal
whose type is not written at hand is taken to have fields. -/
def isFieldKey : List Step → Bool
  | [] => false
  | s :: above =>
    s.parent.isA "literal_value" && match above with
      | [] => true
      | up :: _ =>
        !up.parent.isA "composite_literal" || match up.parent.child? "type" with
          | none => true
          | some type => !evaluatedKeyKinds.contains type.kind

/-- Whether a step goes to a key that is only a label. -/
def isLabel (language : Language) (s : Step) (above : List Step) : Bool :=
  s.field == some "key" &&
    if language.isScript && s.parent.isA "pair" then true
    else language == .go && s.parent.isA "keyed_element" && isFieldKey above

/-- Whether a step goes to a value or type that is evaluated inside a pattern. -/
def isEvaluated (s : Step) : Bool :=
  ((Text.list ["assignment_pattern", "object_assignment_pattern"]).contains s.parent.kind
      && s.field == some "right")
    || ((Text.list ["default_parameter", "typed_default_parameter", "typed_parameter"]).contains
        s.parent.kind && (s.field == some "type" || s.field == some "value"))

/-- Whether the node below the steps is bound, declared or a label. -/
def isBound (language : Language) : List Step → Bool
  | [] => false
  | s :: above =>
    if declarationKinds.contains s.parent.kind && s.field == some "name" then true
    else if isLabel language s above then true
    else if s.field.any fun field => bindingFields.contains (s.parent.kind, field) then true
    else if parameterListKinds.contains s.parent.kind then
      s.child.isA "identifier" || bindingPatternKinds.contains s.child.kind
    else if !bindingPatternKinds.contains s.parent.kind || isEvaluated s then false
    else isBound language above

/-- Whether a name at the place declares, binds or labels. -/
def Place.isBinding (language : Language) (p : Place) : Bool :=
  isCapture p.above || isBound language p.above

end ChangeReview
