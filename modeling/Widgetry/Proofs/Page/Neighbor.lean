import Widgetry.Proofs.Derived
import Widgetry.Proofs.Expr.Access
import Widgetry.Proofs.Page.Consistency
import Widgetry.Proofs.Page.Resolved
import Widgetry.Proofs.Page.Sorted

/-!
# What other widgets see

A widget whose name no other has is seen by all bindings under its name. What they see of its
derived keys is derived from its properties as they are saved, while the widget itself derives them
from its resolved properties. Both are the same if no property from which the key is derived is
bound; otherwise they are the same only if the closed form gives the same for both.
-/

namespace Widgetry.Page

/-- Whether no mounted widget but the one with an id has a name. -/
def IsNameOf (page : Page) (name : String) (id : WidgetId) : Prop :=
  ∀ entry ∈ page.widgets, entry.2.name = name → entry.1 = id

instance (page : Page) (name : String) (id : WidgetId) : Decidable (page.IsNameOf name id) :=
  inferInstanceAs (Decidable (∀ entry ∈ page.widgets, entry.2.name = name → entry.1 = id))

theorem get?_statesOf {page : Page} (h : page.contents.Sorted) {id : WidgetId} {w : Instance}
    (hw : page.widget? id = some w) (hname : page.IsNameOf w.name id) :
    (page.statesOf page.widgets).get? w.name = some (page.stateOf w) := by
  have hentry := (h.widgets.get?_eq_some_iff id w).1 hw
  -- of the entries with this name, which is on the page, there is only the one of the widget
  refine Table.get?_overlay_of_unique [] ?_ (Or.inl ?_)
  · intro entry hmem heq
    obtain ⟨⟨id', w'⟩, hmem', rfl⟩ := List.mem_map.1 hmem
    have hw' : page.widget? id' = some w' := (h.widgets.get?_eq_some_iff id' w').2 hmem'
    obtain rfl := hname (id', w') hmem' heq
    rw [Option.some.inj (hw'.symm.trans hw)]
  · rw [Table.keys, List.map_map]
    exact List.mem_map.2 ⟨(id, w), hentry, rfl⟩

theorem member_stateOf (page : Page) (w : Instance) {key : String} (h : key ∈ w.kind.derivedKeys) :
    (page.stateOf w).member key =
      derivedValue w.kind key (bindingThis w.properties (page.snapshot w.id)) := by
  have hsorted : (Widgetry.derive w.kind w.properties (page.snapshot w.id) []).Sorted :=
    Table.sorted_ofList _
  rw [stateOf, Json.member, Table.get?_overlay _ hsorted, get?_derive _ _ _ _ h]
  rfl

/-- Bindings see what is derived from the properties as they are saved. -/
theorem eval_access {page : Page} (h : page.contents.Sorted) {id : WidgetId} {w : Instance}
    (hw : page.widget? id = some w) (hname : page.IsNameOf w.name id)
    (hreserved : w.name ∉ Expr.reservedNames) {key : String} (hkey : key ∈ w.kind.derivedKeys)
    (other : Instance) :
    (Expr.member (.ident w.name) key).eval (page.scopeOf other) =
      .ok (derivedValue w.kind key (bindingThis w.properties (page.snapshot w.id))) := by
  have hthis : w.name ≠ "this" := by
    intro heq
    exact hreserved (by simp [heq, Expr.reservedNames])
  have hstate : (page.scopeOf other).resolve? w.name = some (page.stateOf w) := by
    rw [Scope.resolve?, if_neg hthis]
    exact get?_statesOf h hw hname
  rw [Expr.eval, Expr.eval, hstate, ← page.member_stateOf w hkey]
  rfl

/-- A widget derives its own keys from its resolved properties. -/
theorem get?_derivedOf (page : Page) (w : Instance) {key : String} (h : key ∈ w.kind.derivedKeys) :
    (page.derivedOf w).1.get? key =
      some (derivedValue w.kind key (bindingThis (page.resolvedOf w).1 (page.snapshot w.id))) :=
  get?_derive w.kind (page.resolvedOf w).1 (page.snapshot w.id) _ h

theorem mem_keys_snapshot {page : Page} (h : page.contents.Consistent) {id : WidgetId}
    {w : Instance} (hw : page.widget? id = some w) {key : String} (hkey : key ∈ w.kind.metaKeys) :
    key ∈ (page.snapshot id).keys := by
  obtain ⟨s, hs, -, -, hfits⟩ := h.exists_state hw
  have hstates : page.states.get? id = some s := hs
  rw [snapshot, MetaStore.snapshot?, hstates]
  exact (Table.mem_keys_overlay _ _ key).2 (Or.inr (hfits.declared key hkey))

/-- Where no property from which a key is derived is bound, it does not matter whether the
properties have been resolved. -/
theorem derivedValue_resolvedOf {page : Page} (h : page.contents.Consistent) {id : WidgetId}
    {w : Instance} (hw : page.widget? id = some w) {key : String}
    (hliteral : ∀ property ∈ derivedFrom w.kind key, w.isBound property = false) :
    derivedValue w.kind key (bindingThis (page.resolvedOf w).1 (page.snapshot id)) =
      derivedValue w.kind key (bindingThis w.properties (page.snapshot id)) := by
  refine derivedValue_congr ?_ ?_
  · intro property hproperty
    have hsame := page.get?_resolvedOf_of_not_isBound w (hliteral property hproperty)
    exact congrArg Json.ofOption (Table.get?_overlay_congr _ (Or.inl hsame))
  · -- the meta-state has a value for the key and hides whatever the properties have
    intro name hname
    have hheld := mem_keys_snapshot h hw hname
    exact congrArg Json.ofOption (Table.get?_overlay_congr _ (Or.inr hheld))

theorem isName_of_mem_derivedKeys {kind : WidgetKind} {key : String}
    (h : key ∈ kind.derivedKeys) : Lexeme.isName key.toList = true := by
  have hall : ∀ key ∈ kind.derivedKeys, Lexeme.isName key.toList = true := by
    cases kind <;> decide
  exact hall key h

/-- What the bindings of any widget see of a derived key of a widget, on a page that is reached from
an empty one. If the name of the widget is its own and not reserved, they see the value that is
derived from the properties as they are saved. What the page reports for the widget is derived from
its resolved properties. The closed form says what both are, and they are the same if no property
from which the key is derived is bound. -/
theorem eval_access_after_empty (config : Config) (canRun : Bool) (keys : KeySupply)
    (ops : List Operation) {id : WidgetId} {w : Instance}
    (hw : ((empty config canRun keys).after ops).widget? id = some w)
    (hown : ((empty config canRun keys).after ops).IsNameOf w.name id)
    (hname : Lexeme.isName w.name.toList = true) (hreserved : w.name ∉ Expr.reservedNames)
    {key : String} (hkey : key ∈ w.kind.derivedKeys) (other : Instance) :
    let page := (empty config canRun keys).after ops
    let access := Expr.member (.ident w.name) key
    let seen := derivedValue w.kind key (bindingThis w.properties (page.snapshot id))
    Expr.ofChars (w.name.toList ++ '.' :: key.toList) = .ok access ∧
    access.eval (page.scopeOf other) = .ok seen ∧
    ∃ properties page' derivedProperties page'' reported,
      runOn (resolved id) page = (.ok properties, page') ∧
      runOn (derived id) page = (.ok derivedProperties, page'') ∧
      derivedProperties.get? key = some reported ∧
      reported = derivedValue w.kind key (bindingThis properties (page.snapshot id)) ∧
      ((∀ property ∈ derivedFrom w.kind key, w.isBound property = false) → seen = reported) := by
  intro page access seen
  have hconsistent : page.contents.Consistent :=
    consistent_after (consistent_empty config canRun keys) ops
  have hsorted : page.contents.Sorted := sorted_after (sorted_empty config canRun keys) ops
  obtain ⟨-, -, hid, -, -⟩ := hconsistent.exists_state hw
  have hresolved := runOn_resolved page id
  have hderived := runOn_derived page id
  have hreported := page.get?_derivedOf w hkey
  rw [hw] at hresolved hderived
  have hseen := eval_access hsorted hw hown hreserved hkey other
  rw [hid] at hreported hseen
  refine ⟨Expr.ofChars_access hname (isName_of_mem_derivedKeys hkey) hreserved, hseen, _, _, _,
    _, _, hresolved, hderived, hreported, rfl, ?_⟩
  intro hliteral
  exact (derivedValue_resolvedOf hconsistent hw hliteral).symm

/-- What an input sees of the text of another one, which is bound in another property. -/
theorem eval_access_after_empty_value :
    let w : Instance :=
      ⟨⟨1⟩, "Input1", .input, none, [("isRequired", .str "\x7b\x7b false \x7d\x7d")]⟩
    let other : Instance := ⟨⟨2⟩, "Input2", .input, none, []⟩
    let page := (empty {} true (.counting [])).after [.mount w, .mount other]
    let access := Expr.member (.ident "Input1") "value"
    let seen := derivedValue .input "value" (bindingThis w.properties (page.snapshot w.id))
    (page.widget? w.id = some w ∧ page.IsNameOf "Input1" w.id ∧
      Lexeme.isName "Input1".toList = true ∧ "Input1" ∉ Expr.reservedNames ∧
      "value" ∈ WidgetKind.input.derivedKeys) ∧
    Expr.ofChars ("Input1".toList ++ '.' :: "value".toList) = .ok access ∧
    access.eval (page.scopeOf other) = .ok seen ∧
    ∃ properties page' derivedProperties page'' reported,
      runOn (resolved w.id) page = (.ok properties, page') ∧
      runOn (derived w.id) page = (.ok derivedProperties, page'') ∧
      derivedProperties.get? "value" = some reported ∧
      reported = derivedValue .input "value" (bindingThis properties (page.snapshot w.id)) ∧
      ((∀ property ∈ derivedFrom .input "value", w.isBound property = false) →
        seen = reported) := by
  intro w other page access seen
  have hw : page.widget? w.id = some w := rfl
  have hown : page.IsNameOf "Input1" w.id := by decide
  exact ⟨⟨hw, hown, by decide, by decide, by decide⟩,
    eval_access_after_empty {} true (.counting []) _ hw hown (by decide) (by decide) (by decide)
      other⟩

theorem ofString_false :
    Template.ofString "\x7b\x7b false \x7d\x7d" =
      .ok ⟨[.binding " false ".toList (.literal (.bool false))]⟩ := by
  cbv

/-- An input that is not required, which only its binding says. It has no text, which is valid, and
another input sees that it is not. -/
theorem eval_access_ne_derived :
    let required : Json := .str "\x7b\x7b false \x7d\x7d"
    let w : Instance := ⟨⟨1⟩, "Input1", .input, none, [("isRequired", required)]⟩
    let other : Instance := ⟨⟨2⟩, "Input2", .input, none, []⟩
    let page := (empty {} true (.counting [])).after [.mount w, .mount other]
    (Expr.member (.ident "Input1") "isValid").eval (page.scopeOf other) = .ok (.bool false) ∧
      (runOn (derived w.id) page).1 = .ok [("isValid", .bool true), ("value", .null)] := by
  intro required w other page
  have hrequired : resolveValue (page.scopeOf w) w "isRequired" required = pure (.bool false) := by
    have hvalue := (page.scopeOf w).value_of_binding ofString_false
    show (do return (← Rule.validate w.properties .boolean ((page.scopeOf w).value _)).parsed) = _
    rw [hvalue]
    rfl
  have hresolved : (page.resolvedOf w).1 = [("isRequired", .bool false)] := by
    show [("isRequired",
      ((resolveValue (page.scopeOf w) w "isRequired" required).run page.keys).1)] = _
    rw [hrequired]
    rfl
  have hsnapshot : page.snapshot w.id = Input.metaDefaults := rfl
  have hderived : (page.derivedOf w).1 = [("isValid", .bool true), ("value", .null)] := by
    refine (derive_eq .input (page.resolvedOf w).1 (page.snapshot w.id) _).trans ?_
    rw [hresolved, hsnapshot]
    rfl
  have hsorted : page.contents.Sorted := sorted_after (sorted_empty {} true (.counting [])) _
  have hw : page.widget? w.id = some w := rfl
  have hname : page.IsNameOf w.name w.id := by decide
  have hseen := eval_access hsorted hw hname (by decide)
    (show "isValid" ∈ w.kind.derivedKeys by decide) other
  rw [hsnapshot] at hseen
  refine ⟨hseen, ?_⟩
  rw [runOn_derived, hw]
  exact congrArg Except.ok hderived

end Widgetry.Page
