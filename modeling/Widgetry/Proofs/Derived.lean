import Mathlib
import Widgetry.Derived
import Widgetry.Proofs.Table

/-!
# Values of derived properties

The templates of derived properties are fixed, so their values have a closed form. It depends on
what `this` stands for and on nothing else: derived properties never look at other widgets. Of the
properties of a widget a derived key takes the few that its template names.
-/

namespace Widgetry

/-- The value of a derived key, from the members of what `this` stands for. -/
def derivedValue (kind : WidgetKind) (key : String) (this : Json) : Json :=
  match kind, key with
  | .input, "isValid" =>
    .bool (InputText.isValid (this.member "inputType").display (this.member "text").display
      (this.member "regex").display (this.member "isRequired").truthy)
  | .input, "value" => this.member "text"
  | .iframe, "value" => this.member "message"
  | .tabs, "selectedTab" =>
    Tabs.labelOf (this.member "tabsObj") (this.member "selectedTabWidgetId")
  | _, _ => .null

/-- The properties from which a key is derived. -/
def derivedFrom (kind : WidgetKind) (key : String) : List String :=
  match kind, key with
  | .input, "isValid" => ["inputType", "regex", "isRequired"]
  | .tabs, "selectedTab" => ["tabsObj"]
  | _, _ => []

/-- A template that is one binding has the value of its expression. -/
theorem evalTemplate_of_binding (scope : Scope) {template : String} {source : List Char}
    {expression : Expr} (h : Template.ofString template = .ok ⟨[.binding source expression]⟩) :
    evalTemplate scope template = expression.eval scope := by
  rw [evalTemplate, h]
  rfl

theorem Scope.value_of_binding (scope : Scope) {template : String} {source : List Char}
    {expression : Expr} (h : Template.ofString template = .ok ⟨[.binding source expression]⟩) :
    scope.value template = (expression.eval scope).toOption.getD .null := by
  rw [value, evalTemplate_of_binding scope h]

/-! ## The templates -/

theorem ofString_isValid :
    Template.ofString
        "\x7b\x7b inputIsValid(this.inputType, this.text, this.regex, this.isRequired) \x7d\x7d" =
      .ok ⟨[.binding " inputIsValid(this.inputType, this.text, this.regex, this.isRequired) ".toList
        (.call "inputIsValid"
          [.member (.ident "this") "inputType", .member (.ident "this") "text",
            .member (.ident "this") "regex", .member (.ident "this") "isRequired"])]⟩ := by
  cbv

theorem ofString_text :
    Template.ofString "\x7b\x7b this.text \x7d\x7d" =
      .ok ⟨[.binding " this.text ".toList (.member (.ident "this") "text")]⟩ := by
  cbv

theorem ofString_message :
    Template.ofString "\x7b\x7b this.message \x7d\x7d" =
      .ok ⟨[.binding " this.message ".toList (.member (.ident "this") "message")]⟩ := by
  cbv

theorem ofString_selectedTab :
    Template.ofString "\x7b\x7b tabLabel(this.tabsObj, this.selectedTabWidgetId) \x7d\x7d" =
      .ok ⟨[.binding " tabLabel(this.tabsObj, this.selectedTabWidgetId) ".toList
        (.call "tabLabel"
          [.member (.ident "this") "tabsObj", .member (.ident "this") "selectedTabWidgetId"])]⟩ := by
  cbv

/-! ## The closed form -/

section

variable (kind : WidgetKind) (properties state : Fields) (widgets : Table String Json)

/-- The template of a derived key has a value, the one that the closed form says. -/
theorem evalTemplate_of_mem_derivedProperties {key template : String}
    (h : (key, template) ∈ kind.behavior.derivedProperties) :
    evalTemplate (.ofWidget properties state widgets) template =
      .ok (derivedValue kind key (bindingThis properties state)) := by
  let scope := Scope.ofWidget properties state widgets
  cases kind with
  | input =>
      rcases List.mem_cons.1 h with heq | hrest
      · obtain ⟨rfl, rfl⟩ := Prod.mk.inj heq
        exact (evalTemplate_of_binding scope ofString_isValid).trans rfl
      · obtain ⟨rfl, rfl⟩ := Prod.mk.inj (List.mem_singleton.1 hrest)
        exact (evalTemplate_of_binding scope ofString_text).trans rfl
  | iframe =>
      obtain ⟨rfl, rfl⟩ := Prod.mk.inj (List.mem_singleton.1 h)
      exact (evalTemplate_of_binding scope ofString_message).trans rfl
  | tabs =>
      obtain ⟨rfl, rfl⟩ := Prod.mk.inj (List.mem_singleton.1 h)
      exact (evalTemplate_of_binding scope ofString_selectedTab).trans rfl
  | legacyTabs => cases h

theorem sorted_derivedKeys : kind.derivedKeys.Pairwise (· < ·) := by
  cases kind <;> decide

theorem derive_eq :
    derive kind properties state widgets =
      kind.derivedKeys.map fun key =>
        (key, derivedValue kind key (bindingThis properties state)) := by
  have hsorted : Table.Sorted (kind.derivedKeys.map fun key =>
      (key, derivedValue kind key (bindingThis properties state))) :=
    List.pairwise_map.2 (sorted_derivedKeys kind)
  rw [derive, ← hsorted.ofList_eq, WidgetKind.derivedKeys, List.map_map]
  refine congrArg Table.ofList (List.map_congr_left ?_)
  rintro ⟨key, template⟩ h
  dsimp only [Function.comp_apply]
  rw [Scope.value, evalTemplate_of_mem_derivedProperties kind properties state widgets h]
  rfl

theorem get?_derive {key : String} (h : key ∈ kind.derivedKeys) :
    (derive kind properties state widgets).get? key =
      some (derivedValue kind key (bindingThis properties state)) := by
  have hsorted : (derive kind properties state widgets).Sorted := Table.sorted_ofList _
  rw [hsorted.get?_eq_some_iff, derive_eq]
  exact List.mem_map_of_mem h

end

/-- Derived properties are what the plain functions give for the properties with the meta-state laid
over them. What other widgets there are makes no difference. No key is `null` because its template
has no value: each template has one, which its key gets. -/
theorem derive_eq_plain (properties state : Fields) (widgets : Table String Json) :
    let this (key : String) : Json := .ofOption ((properties.overlay state).get? key)
    let derived (kind : WidgetKind) := derive kind properties state widgets
    derived .input =
        [("isValid",
            .bool (InputText.isValid (this "inputType").display (this "text").display
              (this "regex").display (this "isRequired").truthy)),
          ("value", this "text")] ∧
      derived .iframe = [("value", this "message")] ∧
      derived .tabs =
        [("selectedTab", Tabs.labelOf (this "tabsObj") (this "selectedTabWidgetId"))] ∧
      derived .legacyTabs = [] ∧
      ∀ kind : WidgetKind, ∀ entry ∈ kind.behavior.derivedProperties, ∃ v,
        evalTemplate (.ofWidget properties state widgets) entry.2 = .ok v ∧
          (derived kind).get? entry.1 = some v := by
  intro this derived
  refine ⟨derive_eq .input .., derive_eq .iframe .., derive_eq .tabs .., derive_eq .legacyTabs ..,
    ?_⟩
  rintro kind ⟨key, template⟩ h
  have hvalue := evalTemplate_of_mem_derivedProperties kind properties state widgets h
  exact ⟨_, hvalue, get?_derive kind properties state widgets (List.mem_map_of_mem h)⟩

/-- What is not named by the template of a key has no part in its value. -/
theorem derivedValue_congr {kind : WidgetKind} {key : String} {this this' : Json}
    (hproperties : ∀ name ∈ derivedFrom kind key, this.member name = this'.member name)
    (hstate : ∀ name ∈ kind.metaKeys, this.member name = this'.member name) :
    derivedValue kind key this = derivedValue kind key this' := by
  unfold derivedValue
  split
  next =>
    have htext := hstate "text" (by decide)
    simp only [derivedFrom, List.mem_cons, forall_eq_or_imp] at hproperties
    obtain ⟨htype, hregex, hrequired, -⟩ := hproperties
    rw [htype, htext, hregex, hrequired]
  next => exact hstate "text" (by decide)
  next => exact hstate "message" (by decide)
  next =>
    have hselected := hstate "selectedTabWidgetId" (by decide)
    have htabs := hproperties "tabsObj" (by decide)
    rw [htabs, hselected]
  next => rfl

end Widgetry
