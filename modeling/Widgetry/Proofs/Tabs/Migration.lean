import Widgetry.Proofs.Table
import Widgetry.Tabs.Migration

/-!
# What a migration changes

An instance that needs a migration becomes a tab container of the current version: its tabs are an
object, the old list is gone, and so are the value of its binding and the paths that lead to it. All
other properties stay as they are. An instance that needs no migration stays as it is, and one that
has been migrated needs none, so that a second migration changes nothing.
-/

namespace Widgetry.Migration

/-- Whether a path leads to the old list of tabs. -/
def LeadsToTabs (path : Json) : Prop :=
  path.get? "key" = some (.str "tabs")

instance : DecidablePred LeadsToTabs := fun path =>
  decidable_of_iff _ (Json.bind_string?_eq_some_iff (path.get? "key") "tabs")

/-- The instance `y` is the instance `w` in the current form. -/
structure IsCurrentFormOf (w y : Instance) : Prop where
  id : y.id = w.id
  name : y.name = w.name
  kind : y.kind = .tabs
  version : y.version = some currentVersion
  noList : y.get? "tabs" = none
  noValue : y.get? "__evaluation__" = none
  byId : ∃ tabs, y.get? "tabsObj" = some (.obj tabs)
  paths : ∀ property ∈ pathLists, ∀ paths, w.get? property = some (.arr paths) →
    y.get? property = some (.arr (paths.filter fun path => ¬LeadsToTabs path))
  frame : ∀ property, property ∉ ["tabs", "__evaluation__", "tabsObj"] →
    (∀ paths, property ∈ pathLists → w.get? property ≠ some (.arr paths)) →
      y.get? property = w.get? property

/-! ## The properties after a change -/

theorem get?_apply {m : Migration} (h : m.modify.Sorted) (w : Instance) (property : String) :
    (m.apply w).get? property =
      (m.modify.get? property).or (if property ∈ m.remove then none else w.get? property) := by
  rw [Instance.get?, apply, Table.get?_overlay _ h, Table.get?_foldl_erase]
  rfl

/-- The change of an instance, given what is set for the tabs by their ids. -/
def change (w : Instance) (tabs : List (String × Json)) : Migration where
  modify := .ofList (tabs ++ keptPaths w)
  remove := ["tabs", "__evaluation__"]
  kind := .tabs
  version := currentVersion

theorem mem_keptPaths_iff (w : Instance) (property : String) (v : Json) :
    (property, v) ∈ keptPaths w ↔
      property ∈ pathLists ∧ ∃ paths, w.get? property = some (.arr paths) ∧
        v = .arr (paths.filter fun path => ¬LeadsToTabs path) := by
  have hwithout (paths : List Json) :
      withoutTabs paths = paths.filter fun path => ¬LeadsToTabs path := by
    refine List.filter_congr ?_
    intro path _
    exact decide_eq_decide.2 (not_congr (Json.bind_string?_eq_some_iff (path.get? "key") "tabs"))
  simp only [keptPaths, List.mem_filterMap, Option.map_eq_some_iff, Prod.mk.injEq,
    Json.bind_items?_eq_some_iff, hwithout]
  constructor
  · rintro ⟨_, hmem, paths, hpaths, rfl, rfl⟩
    exact ⟨hmem, paths, hpaths, rfl⟩
  · rintro ⟨hmem, paths, hpaths, rfl⟩
    exact ⟨property, hmem, paths, hpaths, rfl, rfl⟩

theorem keys_keptPaths_sublist (w : Instance) : (Table.keys (keptPaths w)).Sublist pathLists := by
  unfold keptPaths
  induction pathLists with
  | nil => exact .refl _
  | cons name rest ih =>
      rw [List.filterMap_cons]
      split
      next => exact ih.cons name
      next entry hentry =>
        obtain ⟨paths, -, rfl⟩ := Option.map_eq_some_iff.1 hentry
        exact ih.cons_cons name

/-- What is set for the tabs by their ids is either an object, or nothing if there is one. -/
theorem tabsById_cases (w : Instance) (keys : KeySupply) :
    (∃ tabs, ((tabsById w).run keys).1 = [("tabsObj", .obj tabs)]) ∨
      ((tabsById w).run keys).1 = [] ∧ ∃ tabs, w.get? "tabsObj" = some (.obj tabs) := by
  unfold tabsById
  cases oldItems? w with
  | some items => exact Or.inl ⟨_, rfl⟩
  | none =>
      cases h : (w.get? "tabsObj").any Json.isObject with
      | false => exact Or.inl ⟨[], rfl⟩
      | true =>
          refine Or.inr ⟨rfl, ?_⟩
          rcases hv : w.get? "tabsObj" with _ | _ | _ | _ | _ | _ | tabs
          all_goals rw [hv] at h
          case some.obj => exact ⟨tabs, rfl⟩
          all_goals cases h

section Change

variable (w : Instance) {tabs : List (String × Json)} (h : (Table.keys tabs).Sublist ["tabsObj"])

include h

theorem get?_modify_eq_some_iff (property : String) (v : Json) :
    (change w tabs).modify.get? property = some v ↔
      (property, v) ∈ tabs ∨ (property, v) ∈ keptPaths w := by
  have hkeys : (Table.keys (tabs ++ keptPaths w)).Sublist ("tabsObj" :: pathLists) := by
    rw [Table.keys, List.map_append]
    exact h.append (keys_keptPaths_sublist w)
  have hnodup : (Table.keys (tabs ++ keptPaths w)).Nodup := hkeys.nodup (by decide)
  exact (Table.get?_ofList_eq_some_iff hnodup property v).trans List.mem_append

theorem get?_change_apply_of_mem {property : String} {v : Json}
    (hv : (property, v) ∈ tabs ∨ (property, v) ∈ keptPaths w) :
    ((change w tabs).apply w).get? property = some v := by
  rw [get?_apply (Table.sorted_ofList _), (get?_modify_eq_some_iff w h property v).2 hv]
  rfl

theorem get?_change_apply_of_not_mem {property : String}
    (hv : ∀ v, (property, v) ∉ tabs ∧ (property, v) ∉ keptPaths w) :
    ((change w tabs).apply w).get? property =
      if property ∈ ["tabs", "__evaluation__"] then none else w.get? property := by
  have hnone : (change w tabs).modify.get? property = none := by
    rw [Option.eq_none_iff_forall_not_mem]
    intro v hmem
    rcases (get?_modify_eq_some_iff w h property v).1 hmem with htabs | hpaths
    · exact (hv v).1 htabs
    · exact (hv v).2 hpaths
  rw [get?_apply (Table.sorted_ofList _), hnone]
  rfl

/-- The change that is planned leads to the current form. -/
theorem isCurrentFormOf_change
    (hobject : (∃ fields, ("tabsObj", .obj fields) ∈ tabs) ∨
      tabs = [] ∧ ∃ fields, w.get? "tabsObj" = some (.obj fields)) :
    IsCurrentFormOf w ((change w tabs).apply w) := by
  have htabs {property : String} (hne : property ≠ "tabsObj") (v : Json) :
      (property, v) ∉ tabs := by
    intro hmem
    have hkey : property ∈ Table.keys tabs := List.mem_map_of_mem hmem
    exact hne (List.mem_singleton.1 (h.subset hkey))
  have hpaths {property : String} (hnot : property ∉ pathLists) (v : Json) :
      (property, v) ∉ keptPaths w := fun hmem => hnot ((mem_keptPaths_iff w property v).1 hmem).1
  refine ⟨rfl, rfl, rfl, rfl, ?_, ?_, ?_, ?_, ?_⟩
  · rw [get?_change_apply_of_not_mem w h fun v => ⟨htabs (by decide) v, hpaths (by decide) v⟩]
    rfl
  · rw [get?_change_apply_of_not_mem w h fun v => ⟨htabs (by decide) v, hpaths (by decide) v⟩]
    rfl
  · rcases hobject with ⟨fields, hmem⟩ | ⟨rfl, fields, hfields⟩
    · exact ⟨fields, get?_change_apply_of_mem w h (Or.inl hmem)⟩
    · refine ⟨fields, ?_⟩
      rw [get?_change_apply_of_not_mem w h fun v => ⟨List.not_mem_nil, hpaths (by decide) v⟩]
      exact hfields
  · intro property hproperty paths hlist
    exact get?_change_apply_of_mem w h
      (Or.inr ((mem_keptPaths_iff w property _).2 ⟨hproperty, paths, hlist, rfl⟩))
  · intro property hproperty hlist
    have hne : property ≠ "tabsObj" := fun heq => hproperty (by simp [heq])
    have hremove : property ∉ ["tabs", "__evaluation__"] := by
      intro hmem
      rcases List.mem_pair.1 hmem with rfl | rfl
      · exact hproperty (by decide)
      · exact hproperty (by decide)
    have hkept (v : Json) : (property, v) ∉ keptPaths w := by
      intro hmem
      obtain ⟨hproperty, paths, hpaths, -⟩ := (mem_keptPaths_iff w property v).1 hmem
      exact hlist paths hproperty hpaths
    rw [get?_change_apply_of_not_mem w h fun v => ⟨htabs hne v, hkept v⟩, if_neg hremove]

end Change

/-! ## Migrating -/

theorem upgrade_of_not_isNeeded {w : Instance} (h : isNeeded w = false) :
    upgrade w = pure (w, false) := by
  simp [upgrade, plan, h]

theorem run_upgrade_of_isNeeded {w : Instance} (h : isNeeded w = true) (keys : KeySupply) :
    (upgrade w).run keys =
      (((change w ((tabsById w).run keys).1).apply w, true), ((tabsById w).run keys).2) := by
  unfold upgrade plan
  rw [if_pos h]
  rfl

theorem run_migrate (w : Instance) (keys : KeySupply) :
    (migrate w).run keys = (((upgrade w).run keys).1.1, ((upgrade w).run keys).2) := rfl

theorem isNeeded_apply (m : Migration) (w : Instance) (h : currentVersion ≤ m.version) :
    isNeeded (m.apply w) = false := by
  simp [isNeeded, apply, h]

/-- What has been migrated needs no migration. -/
theorem isNeeded_migrate (w : Instance) (keys : KeySupply) :
    isNeeded ((migrate w).run keys).1 = false := by
  rw [run_migrate]
  cases h : isNeeded w with
  | true =>
      rw [run_upgrade_of_isNeeded h]
      exact isNeeded_apply _ w (UInt32.le_refl _)
  | false =>
      rw [upgrade_of_not_isNeeded h]
      exact h

theorem id_migrate (w : Instance) (keys : KeySupply) : ((migrate w).run keys).1.id = w.id := by
  rw [run_migrate]
  cases h : isNeeded w with
  | true =>
      rw [run_upgrade_of_isNeeded h]
      rfl
  | false =>
      rw [upgrade_of_not_isNeeded h]
      rfl

theorem isCurrentFormOf_migrate {w : Instance} (h : isNeeded w = true) (keys : KeySupply) :
    IsCurrentFormOf w ((migrate w).run keys).1 := by
  rw [run_migrate, run_upgrade_of_isNeeded h]
  rcases tabsById_cases w keys with ⟨tabs, htabs⟩ | ⟨htabs, hobject⟩
  · rw [htabs]
    exact isCurrentFormOf_change w (.refl _) (Or.inl ⟨tabs, List.mem_singleton_self _⟩)
  · rw [htabs]
    exact isCurrentFormOf_change w (List.nil_sublist _) (Or.inr ⟨rfl, hobject⟩)

/-- What migrating comes to, whatever keys are drawn. An instance that needs it is brought to the
current form, and any other stays as it is. The result needs no migration: there is no plan for it,
and migrating it again leaves it as it is. Upgrading gives the same instance and says truly whether
a migration was needed. -/
theorem migrate_isCurrentForm (w : Instance) (keys : KeySupply) :
    let y := ((migrate w).run keys).1
    (if isNeeded w then IsCurrentFormOf w y else y = w) ∧
    isNeeded y = false ∧ plan y = pure none ∧ migrate y = pure y ∧
    ((upgrade w).run keys).1 = (y, isNeeded w) := by
  intro y
  have hcurrent : isNeeded y = false := isNeeded_migrate w keys
  refine ⟨?_, hcurrent, ?_, ?_, ?_⟩
  · cases h : isNeeded w with
    | true => exact isCurrentFormOf_migrate h keys
    | false =>
        show ((migrate w).run keys).1 = w
        rw [run_migrate, upgrade_of_not_isNeeded h]
        rfl
  · simp [plan, hcurrent]
  · simp [migrate, upgrade_of_not_isNeeded hcurrent]
  · refine Prod.ext rfl ?_
    cases h : isNeeded w with
    | true => rw [run_upgrade_of_isNeeded h]
    | false => rw [upgrade_of_not_isNeeded h]; rfl

end Widgetry.Migration
