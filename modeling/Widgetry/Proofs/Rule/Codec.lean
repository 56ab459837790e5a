import Widgetry.Proofs.Json.Record
import Widgetry.Proofs.Rule.Part
import Widgetry.Rule.Codec

/-!
# Rules that come back

What is read of an array rule or an object rule are fields like those of any record. So a rule comes
back if the rules for its items and for its keys do, whether it stands alone or inside another rule,
and whichever of its parts are absent.
-/

namespace Widgetry

theorem Json.ofFields_ne_null (fields : List (String × Option Json)) : ofFields fields ≠ .null :=
  nofun

/-! ## Defaults and single values -/

theorem KeyDefault.restores : Json.Restores toJson ofJson? := by
  intro default
  cases default with
  | absent | generated =>
      refine Json.read_ofFields ["kind"] rfl (by decide) ?_
      intro fields hget
      have hkind : fields.get? "kind" = _ := hget "kind"
      have hvalue : fields.get? "value" = none := hget "value"
      rw [ofJson?, hkind, hvalue]
      rfl
  | value v =>
      refine Json.read_ofFields ["kind", "value"] rfl (by decide) ?_
      intro fields hget
      have hkind : fields.get? "kind" = some (.str "value") := hget "kind"
      have hvalue : fields.get? "value" = some v := hget "value"
      rw [ofJson?, hkind, hvalue]
      rfl

theorem RuleKind.ofJson?_name (nested : Bool) (kind : RuleKind) :
    ofJson? nested (.str kind.name) = some kind := by
  cases kind <;> rfl

namespace Rule

theorem restores_float : Json.Restores float Json.finite? :=
  fun _ => rfl

/-! ## Reading the parts of a rule -/

theorem itemIn?_eq (fields : List (String × Json)) :
    itemIn? fields = Json.optional? fields "children" (ofJson? true) := by
  induction fields with
  | nil => rfl
  | cons entry rest ih =>
      obtain ⟨name, v⟩ := entry
      rw [itemIn?, Json.optional?, Table.get?_cons]
      split
      next =>
        cases v with
        | null => rfl
        | bool _ | num _ | str _ | arr _ | obj _ => rfl
      next => exact ih

theorem keysIn?_eq (fields : List (String × Json)) :
    keysIn? fields = Json.required? fields "allowed_keys" fun v => v.items?.bind keys? := by
  induction fields with
  | nil => rfl
  | cons entry rest ih =>
      obtain ⟨name, v⟩ := entry
      rw [Json.required?, Table.get?_cons]
      cases v with
      | arr items =>
          rw [keysIn?]
          split
          next => rfl
          next => exact ih
      | null | bool _ | num _ | str _ | obj _ =>
          rw [keysIn?]
          · split
            next => rfl
            next => exact ih
          · intro items hitems
            cases hitems

theorem keyRule?_eq (fields : List (String × Json)) :
    keyRule? fields = Json.required? fields "rule" (ofJson? true) := by
  induction fields with
  | nil => rfl
  | cons entry rest ih =>
      obtain ⟨name, v⟩ := entry
      rw [keyRule?, Json.required?, Table.get?_cons]
      split
      next => rfl
      next => exact ih

/-- An object that has the name of a kind under `type` gives a rule of this kind. -/
theorem ofJson?_obj (nested : Bool) {fields : Fields} (kind : RuleKind) :
    fields.get? "type" = some (.str kind.name) → ofJson? nested (.obj fields) =
      match kind with
      | .array => (itemIn? fields).map .array
      | .object => (keysIn? fields).map .object
      | kind => ofKind? kind (.obj fields) := by
  intro hkind
  rw [ofJson?, hkind, Option.bind_some, RuleKind.ofJson?_name]
  cases kind <;> rfl

/-! ## Rules -/

theorem keys?_keysToJson {keys : List (KeyOf Rule)}
    (h : ∀ key ∈ keys, ofJson? true key.rule.toJson = some key.rule) :
    keys? (keysToJson keys) = some keys := by
  induction keys with
  | nil => rfl
  | cons key rest ih =>
      obtain ⟨name, rule, default⟩ := key
      have hrest := ih fun other hother => h other (List.mem_cons_of_mem _ hother)
      rw [keysToJson]
      refine Json.ofFields_cases (motive := fun v => keys? (v :: keysToJson rest) = some _)
        ["name", "rule", "default"] rfl (by decide) ?_
      intro fields hget
      have hname : Json.required? fields "name" Json.string? = some name :=
        Json.required?_of_get? (hget "name") rfl
      have hrule : Json.required? fields "rule" (ofJson? true) = some rule :=
        Json.required?_of_get? (hget "rule") (h _ List.mem_cons_self)
      have hdefault : Json.defaulted? fields "default" .absent KeyDefault.ofJson? = some default :=
        Json.defaulted?_of_get? _ (hget "default") (KeyDefault.restores default)
      rw [keys?, keyRule?_eq, hname, hrule, hdefault, hrest]
      rfl

theorem toJson_ne_null (rule : Rule) : rule.toJson ≠ .null := by
  unfold toJson
  split <;> exact Json.ofFields_ne_null _

theorem restores (nested : Bool) : Json.Restores toJson (ofJson? nested) := by
  intro rule
  induction rule using byParts generalizing nested with
  | text | boolean | regex | tabName =>
      refine Json.read_ofFields ["type"] rfl (by decide) ?_
      intro fields hget
      exact ofJson?_obj nested _ (hget "type")
  | number min max default =>
      rw [toJson]
      refine Json.read_ofFields ["type", "min", "max", "default"] rfl (by decide) ?_
      intro fields hget
      have hmin : Json.optional? fields "min" Json.finite? = some min :=
        Json.optional?_of_restores restores_float nofun ((hget "min").trans (Option.join_some ..))
      have hmax : Json.optional? fields "max" Json.finite? = some max :=
        Json.optional?_of_restores restores_float nofun (hget "max")
      have hdefault : Json.optional? fields "default" Json.finite? = some default :=
        Json.optional?_of_restores restores_float nofun (hget "default")
      rw [ofJson?_obj nested .number (hget "type")]
      simp only [ofKind?, Json.record?, Option.bind_eq_bind, Option.bind_some, hmin, hmax, hdefault]
  | safeUrl default =>
      rw [toJson]
      refine Json.read_ofFields ["type", "default"] rfl (by decide) ?_
      intro fields hget
      have hdefault : Json.optional? fields "default" Json.string? = some default :=
        Json.optional?_of_restores Json.restores_str nofun (hget "default")
      rw [ofJson?_obj nested .safeUrl (hget "type")]
      simp only [ofKind?, Json.record?, Option.bind_eq_bind, Option.bind_some, hdefault]
  | anyArray =>
      rw [toJson]
      refine Json.read_ofFields ["type"] rfl (by decide) ?_
      intro fields hget
      have hitem : itemIn? fields = some none := by
        rw [itemIn?_eq, Json.optional?, hget "children"]
        rfl
      rw [ofJson?_obj nested .array (hget "type"), hitem]
      rfl
  | array item ih =>
      rw [toJson]
      refine Json.read_ofFields ["type", "children"] rfl (by decide) ?_
      intro fields hget
      have hitem : itemIn? fields = some (some item) := by
        rw [itemIn?_eq, Json.optional?_of_ne_null (hget "children") (toJson_ne_null item), ih true]
        rfl
      rw [ofJson?_obj nested .array (hget "type"), hitem]
      rfl
  | object keys ih =>
      rw [toJson]
      refine Json.read_ofFields ["type", "allowed_keys"] rfl (by decide) ?_
      intro fields hget
      have hkeys : keysIn? fields = some keys := by
        rw [keysIn?_eq]
        exact Json.required?_of_get? (hget "allowed_keys")
          (keys?_keysToJson fun key hkey => ih key hkey true)
      rw [ofJson?_obj nested .object (hget "type"), hkeys]
      rfl

end Rule

end Widgetry
