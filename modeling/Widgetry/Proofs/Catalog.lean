import Widgetry.Catalog
import Widgetry.Proofs.Tabs.Migration

/-!
# What every kind of widget keeps to

Whatever its properties are, a widget is seeded with values for exactly the keys that its kind
declares. None of these keys is a property or a derived key. A widget that has been loaded needs no
migration.
-/

namespace Widgetry

/-! ## Keys -/

theorem KeyCategory.isWritable_of_iff (kind : WidgetKind) (key : String) :
    (KeyCategory.of kind key).isWritable = true ↔
      key ∉ kind.properties ∧ key ∉ kind.derivedKeys := by
  unfold KeyCategory.of
  split
  next hproperty => simp [KeyCategory.isWritable, hproperty]
  next hproperty =>
    split
    next hderived => simp [KeyCategory.isWritable, hderived]
    next hderived =>
      split
      next => simp [KeyCategory.isWritable, hproperty, hderived]
      next => simp [KeyCategory.isWritable, hproperty, hderived]

theorem WidgetKind.isWritable_of_mem_metaKeys (kind : WidgetKind) {key : String}
    (h : key ∈ kind.metaKeys) : (KeyCategory.of kind key).isWritable = true := by
  have hall : ∀ key ∈ kind.metaKeys, (KeyCategory.of kind key).isWritable = true := by
    cases kind <;> decide +kernel
  exact hall key h

/-! ## Seeds -/

/-- A seed has the keys of the first values, if only such keys are seeded from properties. -/
theorem Behavior.mem_keys_seedFrom (metaDefaults : Fields)
    (defaultProperties : List (String × String)) (w : Instance)
    (h : ∀ entry ∈ defaultProperties, entry.1 ∈ metaDefaults.keys) (key : String) :
    key ∈ (seedFrom metaDefaults defaultProperties w).keys ↔ key ∈ metaDefaults.keys := by
  unfold seedFrom
  induction defaultProperties generalizing metaDefaults with
  | nil => rfl
  | cons entry rest ih =>
      have hrest : ∀ entry ∈ rest, entry.1 ∈ metaDefaults.keys := by
        intro other hother
        exact h other (List.mem_cons_of_mem entry hother)
      rw [List.foldl_cons]
      split
      next v _ =>
        split
        next => exact ih metaDefaults hrest
        next =>
          have hkeys (k : String) :
              k ∈ (metaDefaults.insert entry.1 v).keys ↔ k ∈ metaDefaults.keys := by
            rw [Table.mem_keys_insert, or_iff_right_of_imp]
            rintro rfl
            exact h entry List.mem_cons_self
          rw [ih _ (fun other hother => (hkeys other.1).2 (hrest other hother)), hkeys]
      next => exact ih metaDefaults hrest

/-- A key that is seeded from no property has its first value. -/
theorem Behavior.get?_seedFrom_of_not_mem (metaDefaults : Fields)
    (defaultProperties : List (String × String)) (w : Instance) {key : String}
    (h : key ∉ defaultProperties.map Prod.fst) :
    (seedFrom metaDefaults defaultProperties w).get? key = metaDefaults.get? key := by
  unfold seedFrom
  induction defaultProperties generalizing metaDefaults with
  | nil => rfl
  | cons entry rest ih =>
      simp only [List.map_cons, List.mem_cons, not_or] at h
      obtain ⟨hne, hrest⟩ := h
      rw [List.foldl_cons, ih _ hrest]
      split
      next =>
        split
        next => rfl
        next => exact Table.get?_insert_of_ne _ hne _
      next => rfl

theorem Tabs.mem_keys_seedMeta (w : Instance) (key : String) :
    key ∈ (Tabs.seedMeta w).keys ↔ key ∈ Tabs.metaDefaults.keys := by
  unfold Tabs.seedMeta
  split
  next id _ =>
    rw [Table.mem_keys_insert, or_iff_right_of_imp]
    rintro rfl
    decide
  next => rfl

/-- A widget is seeded with values for the keys that its kind declares, and for no others. -/
theorem Instance.mem_keys_seed (w : Instance) (key : String) :
    key ∈ w.seed.keys ↔ key ∈ w.kind.metaKeys := by
  obtain ⟨id, name, kind, version, properties⟩ := w
  cases kind with
  | input => exact Behavior.mem_keys_seedFrom _ _ _ (by decide) key
  | iframe => exact Behavior.mem_keys_seedFrom _ _ _ (by decide) key
  | tabs => exact Tabs.mem_keys_seedMeta _ key
  | legacyTabs => exact Behavior.mem_keys_seedFrom _ _ _ (by decide) key

theorem Behavior.sorted_seedFrom {metaDefaults : Fields} (h : metaDefaults.Sorted)
    (defaultProperties : List (String × String)) (w : Instance) :
    (seedFrom metaDefaults defaultProperties w).Sorted := by
  unfold seedFrom
  induction defaultProperties generalizing metaDefaults with
  | nil => exact h
  | cons entry rest ih =>
      rw [List.foldl_cons]
      split
      next v _ =>
        split
        next => exact ih h
        next => exact ih (h.insert entry.1 v)
      next => exact ih h

theorem Tabs.sorted_seedMeta (w : Instance) : (Tabs.seedMeta w).Sorted := by
  have hdefaults : Tabs.metaDefaults.Sorted := Table.sorted_ofList _
  unfold Tabs.seedMeta
  split
  next id _ => exact hdefaults.insert "selectedTabWidgetId" (.str id)
  next => exact hdefaults

/-- The values that a widget is seeded with stand in the order of their keys. -/
theorem Instance.sorted_seed (w : Instance) : w.seed.Sorted := by
  obtain ⟨id, name, kind, version, properties⟩ := w
  cases kind with
  | input => exact Behavior.sorted_seedFrom (Table.sorted_ofList _) _ _
  | iframe => exact Behavior.sorted_seedFrom (Table.sorted_ofList _) _ _
  | tabs => exact Tabs.sorted_seedMeta _
  | legacyTabs => exact Behavior.sorted_seedFrom List.Pairwise.nil _ _

/-! ## Loading -/

/-- A widget that has been loaded needs no migration. -/
theorem Instance.isNeeded_load (w : Instance) (keys : KeySupply) :
    Migration.isNeeded (w.load.run keys).1 = false := by
  obtain ⟨id, name, kind, version, properties⟩ := w
  cases kind with
  | input => rfl
  | iframe => rfl
  | tabs => exact Migration.isNeeded_migrate _ keys
  | legacyTabs => exact Migration.isNeeded_migrate _ keys

/-- A widget keeps its id when it is loaded. -/
theorem Instance.id_load (w : Instance) (keys : KeySupply) : (w.load.run keys).1.id = w.id := by
  obtain ⟨id, name, kind, version, properties⟩ := w
  cases kind with
  | input => rfl
  | iframe => rfl
  | tabs => exact Migration.id_migrate _ keys
  | legacyTabs => exact Migration.id_migrate _ keys

end Widgetry
