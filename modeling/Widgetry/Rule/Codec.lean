import Widgetry.Rule.Basic

/-!
# Rules as JSON

A rule is an object with its kind under `type` and its data beside it; parts that are absent are
not written. A rule that is an array gives its kind first and its data in order. Inside another
rule, the kind may also be given by its number. The default of a key is such an object or array
too, with `kind` and `value`.
-/

namespace Widgetry

namespace KeyDefault

def toJson : KeyDefault → Json
  | .absent => .ofFields [("kind", some (.str "none"))]
  | .value v => .ofFields [("kind", some (.str "value")), ("value", some v)]
  | .generated => .ofFields [("kind", some (.str "generated_key"))]

/-- The default of a kind with the value that goes with it. Only one of the kinds has a value. -/
def build? (kind : String) (v : Option Json) : Option KeyDefault :=
  match kind, v with
  | "value", some v => some (.value v)
  | "none", v => if v.all Json.isNull then some .absent else none
  | "generated_key", v => if v.all Json.isNull then some .generated else none
  | _, _ => none

/-- The name of a kind that is a field of an object. An empty object beside it is no data either. -/
def kind? : Json → Option String
  | .obj [(name, .obj [])] => some name
  | v => v.case?

/-- The name of a kind that is the first item of an array: it is given there by its name or by its
number. -/
def kindAt? : Json → Option String
  | .str name => some name
  | v => v.nat?.bind fun i => ["none", "value", "generated_key"][i]?

def ofJson? : Json → Option KeyDefault
  | .obj fields =>
    ((Table.get? fields "kind").bind kind?).bind fun kind =>
      build? kind (Table.get? fields "value")
  | .arr [kind, v] => (kindAt? kind).bind fun kind => build? kind (some v)
  | _ => none

end KeyDefault

/-- The kind that a value names; inside another rule also by its number. -/
def RuleKind.ofJson? (nested : Bool) : Json → Option RuleKind
  | .str name => ofName? name
  | v => if nested then v.nat?.bind fun i => all[i]? else none

namespace Rule

def float (x : Finite64) : Json :=
  .num (.float x)

mutual

def toJson : Rule → Json
  | .number min max default =>
    .ofFields
      [("type", some (.str RuleKind.number.name)), ("min", min.map float),
        ("max", max.map float), ("default", default.map float)]
  | .safeUrl default =>
    .ofFields [("type", some (.str RuleKind.safeUrl.name)), ("default", default.map .str)]
  | .array none => .ofFields [("type", some (.str RuleKind.array.name))]
  | .array (some item) =>
    .ofFields [("type", some (.str RuleKind.array.name)), ("children", some (toJson item))]
  | .object keys =>
    .ofFields
      [("type", some (.str RuleKind.object.name)), ("allowed_keys", some (.arr (keysToJson keys)))]
  | rule => .ofFields [("type", some (.str rule.kind.name))]

def keysToJson : List (KeyOf Rule) → List Json
  | [] => []
  | ⟨name, rule, default⟩ :: rest =>
    .ofFields
      [("name", some (.str name)), ("rule", some (toJson rule)),
        ("default", some default.toJson)] :: keysToJson rest

end

/-- Reads the data of a rule without parts. -/
def ofKind? (kind : RuleKind) (data : Json) : Option Rule :=
  match kind with
  | .text => (data.record? []).map fun _ => .text
  | .boolean => (data.record? []).map fun _ => .boolean
  | .regex => (data.record? []).map fun _ => .regex
  | .tabName => (data.record? []).map fun _ => .tabName
  | .number => do
    let fields ← data.record? ["min", "max", "default"]
    let min ← Json.optional? fields "min" Json.finite?
    let max ← Json.optional? fields "max" Json.finite?
    let default ← Json.optional? fields "default" Json.finite?
    some (.number min max default)
  | .safeUrl => do
    let fields ← data.record? ["default"]
    let default ← Json.optional? fields "default" Json.string?
    some (.safeUrl default)
  | .array => none
  | .object => none

mutual

/-- Reads a rule. -/
def ofJson? (nested : Bool) : Json → Option Rule
  | .obj fields =>
    match (Table.get? fields "type").bind (RuleKind.ofJson? nested) with
    | some .array => (itemIn? fields).map .array
    | some .object => (keysIn? fields).map .object
    | some kind => ofKind? kind (.obj fields)
    | none => none
  | .arr (kind :: data) =>
    match RuleKind.ofJson? nested kind with
    | some .array => (itemAt? data).map .array
    | some .object => (keysAt? data).map .object
    | some kind => ofKind? kind (.arr data)
    | none => none
  | _ => none

/-- Reads the rule for items among the fields of an array rule. -/
def itemIn? : List (String × Json) → Option (Option Rule)
  | [] => some none
  | (name, v) :: rest =>
    if name = "children" then if v.isNull then some none else (ofJson? true v).map some
    else itemIn? rest

/-- Reads the rule for items that is the only datum of an array rule. -/
def itemAt? : List Json → Option (Option Rule)
  | [] => some none
  | [v] => if v.isNull then some none else (ofJson? true v).map some
  | _ => none

/-- Reads the keys among the fields of an object rule. -/
def keysIn? : List (String × Json) → Option (List (KeyOf Rule))
  | [] => none
  | (name, .arr items) :: rest =>
    if name = "allowed_keys" then keys? items else keysIn? rest
  | (name, _) :: rest => if name = "allowed_keys" then none else keysIn? rest

/-- Reads the keys that are the only datum of an object rule. -/
def keysAt? : List Json → Option (List (KeyOf Rule))
  | [.arr items] => keys? items
  | _ => none

/-- Reads the keys of an object rule, each with its name, its rule and its default. -/
def keys? : List Json → Option (List (KeyOf Rule))
  | [] => some []
  | .obj fields :: rest => do
    let name ← Json.required? fields "name" Json.string?
    let rule ← keyRule? fields
    let default ← Json.defaulted? fields "default" .absent KeyDefault.ofJson?
    let more ← keys? rest
    some (⟨name, rule, default⟩ :: more)
  | .arr [name, rule] :: rest => do
    let name ← name.string?
    let rule ← ofJson? true rule
    let more ← keys? rest
    some (⟨name, rule, .absent⟩ :: more)
  | .arr [name, rule, default] :: rest => do
    let name ← name.string?
    let rule ← ofJson? true rule
    let default ← KeyDefault.ofJson? default
    let more ← keys? rest
    some (⟨name, rule, default⟩ :: more)
  | _ => none

/-- Reads the rule among the fields of a key. -/
def keyRule? : List (String × Json) → Option Rule
  | [] => none
  | (name, v) :: rest => if name = "rule" then ofJson? true v else keyRule? rest

end

end Rule

end Widgetry
