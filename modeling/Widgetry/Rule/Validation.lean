import Widgetry.Rule.Outcome
import Widgetry.Json.Reader
import Widgetry.KeySupply
import Widgetry.Pattern

/-!
# Validation

A rule takes every value to an outcome. The value to work with has the type that the rule asks for,
whether the given value is valid or not. An array or an object may also be given as JSON text.
Validating may draw keys for objects that lack them.
-/

namespace Widgetry

/-- The labels of the tabs that a widget has, in either of its two forms. -/
def tabLabels (properties : Fields) : List String :=
  let keyed := ((properties.get? "tabsObj").bind Json.fields?).elim [] Table.values
  let listed := ((properties.get? "tabs").bind Json.items?).getD []
  (keyed ++ listed).filterMap fun tab => (tab.get? "label").bind Json.string?

/-- Whether a text begins with `http://` or `https://` in any case. -/
def isWebUrl (s : String) : Bool :=
  let lower := s.toList.map Char.toLower
  "http://".toList.isPrefixOf lower || "https://".toList.isPrefixOf lower

/-- The value for an absent key, if it gets one. -/
def KeyDefault.produce : KeyDefault → Drawing (Option Json)
  | .absent => pure none
  | .value v => pure (some v)
  | .generated => do return some (.str (← KeySupply.draw))

namespace Rule

/-- Values that are no containers are valid as their text. -/
def validateText : Json → Outcome
  | .str s => .valid (.str s)
  | .null => .valid (.str "")
  | .bool b => .valid (.str (if b then "true" else "false"))
  | .num n => .valid (.str (Json.num n).write)
  | v => .invalid (.str v.write) .notText

/-- Truth values, their names, and `null` for false. -/
def validateBoolean : Json → Outcome
  | .bool b => .valid (.bool b)
  | .null => .valid (.bool false)
  | .str "true" => .valid (.bool true)
  | .str "false" => .valid (.bool false)
  | _ => .invalid (.bool false) .notBoolean

/-- What a value says about a number: that it is one, that there is none, or nothing. -/
inductive NumberReading where
  | number (x : Finite64)
  | absent
  | malformed

/-- Numbers and their texts are numbers; `null` and blank texts are none. -/
def readNumber : Json → NumberReading
  | .num n =>
    match n.toBinary64 with
    | .finite x => .number x
    | _ => .malformed
  | .null => .absent
  | .str s =>
    let text := Text.trim s.toList
    if text = [] then .absent
    else match Decimal.readBinary64? text with
    | some (.finite x) => .number x
    | _ => .malformed
  | _ => .malformed

/-- Numbers between the bounds. The default stands in for a number out of bounds, for no number,
and for what is no number; that there is no number is a problem only without a default. -/
def validateNumber (min max default : Option Finite64) (v : Json) : Outcome :=
  let fallback := default.elim .null Json.ofFinite
  match readNumber v with
  | .malformed => .invalid fallback .notNumber
  | .absent => if default.isSome then .valid fallback else .invalid fallback .notNumber
  | .number x =>
    let outOfBounds := default.elim (Json.ofFinite x) Json.ofFinite
    match min.filter fun least => Binary64.less (.finite x) (.finite least) with
    | some least => .invalid outOfBounds (.belowMin least)
    | none =>
      match max.filter fun most => Binary64.less (.finite most) (.finite x) with
      | some most => .invalid outOfBounds (.aboveMax most)
      | none => .valid (.ofFinite x)

/-- Sources of patterns. One that is no expression is kept, but is a problem. -/
def validateRegex : Json → Outcome
  | .null => .valid (.str "")
  | .str s =>
    if (Pattern.read? s).any Pattern.isLiteral then .invalid (.str s) .literalRegex
    else .valid (.str s)
  | _ => .invalid (.str "") .notRegex

/-- Addresses of the web, without the blanks around them. -/
def validateUrl (default : Option String) : Json → Outcome
  | .null => .valid (.str (default.getD ""))
  | .str s =>
    let url := Text.trimString s
    if isWebUrl url then .valid (.str url) else .invalid (.str (default.getD "")) .notUrl
  | _ => .invalid (.str (default.getD "")) .notUrl

/-- The empty text, or the label of a tab. -/
def validateTabName (properties : Fields) : Json → Outcome
  | .null => .valid (.str "")
  | .str name =>
    if name = "" ∨ name ∈ tabLabels properties then .valid (.str name)
    else .invalid (.str "") (.noSuchTab name)
  | _ => .invalid (.str "") .notTabName

/-- The items of an array that a value is or writes. -/
def itemsOf? : Json → Option (List Json)
  | .arr items => some items
  | .str s => (Json.read? s).bind Json.items?
  | _ => none

/-- The fields of an object that a value is or writes. -/
def fieldsOf? : Json → Option Fields
  | .obj fields => some fields
  | .str s => (Json.read? s).bind Json.fields?
  | _ => none

/-- The outcome for an array from those for its items. -/
def arrayOutcome (outcomes : List Outcome) : Outcome :=
  ⟨.arr (outcomes.map Outcome.parsed), Outcome.firstProblem? 0 outcomes⟩

mutual

/-- Validates a value of a widget with the given properties. -/
def validate (properties : Fields) : Rule → Json → Drawing Outcome
  | .text, v => pure (validateText v)
  | .boolean, v => pure (validateBoolean v)
  | .number min max default, v => pure (validateNumber min max default v)
  | .regex, v => pure (validateRegex v)
  | .safeUrl default, v => pure (validateUrl default v)
  | .tabName, v => pure (validateTabName properties v)
  | .array none, v =>
    match itemsOf? v with
    | some items => pure (.valid (.arr items))
    | none => pure (.invalid (.arr []) .notArray)
  | .array (some item), v =>
    match itemsOf? v with
    | some items => do
      let outcomes ← items.mapM fun x => validate properties item x
      return arrayOutcome outcomes
    | none => pure (.invalid (.arr []) .notArray)
  | .object keys, v =>
    match fieldsOf? v with
    | some fields => do
      let (fields, problem) ← validateKeys properties keys fields none
      return ⟨.obj fields, problem⟩
    | none => pure (.invalid (.obj []) .notObject)

/-- Validates the fields of an object key by key, or fills them in. The first problem is kept. -/
def validateKeys (properties : Fields) :
    List (KeyOf Rule) → Fields → Option Problem → Drawing (Fields × Option Problem)
  | [], fields, problem => pure (fields, problem)
  | ⟨name, rule, default⟩ :: rest, fields, problem =>
    match fields.get? name with
    | some v => do
      let o ← validate properties rule v
      validateKeys properties rest (fields.insert name o.parsed)
        (problem.or (o.problem.map (.key name)))
    | none => do
      let filled ← default.produce
      validateKeys properties rest (filled.elim fields (fields.insert name)) problem

end

end Rule

end Widgetry
