import Widgetry.Proofs.Tabs.Keyed

/-!
# Old lists that cannot be read

An instance may need a migration and have no old list of tabs that can be read. Either the list is
missing: the property is absent, or its binding left no value. Or there is a value that is no list.
The tabs by their ids are left alone in the first case. In the second one the value counts as a list
without items, so that whatever tabs there are by their ids are replaced by none.
-/

namespace Widgetry.Migration

/-- Whether there is no value for the old list of tabs of an instance: the property is absent, or is
a binding that left no value. -/
inductive LacksList (w : Instance) : Prop where
  | absent (property : w.get? "tabs" = none)
  | valueless {v : Json} (property : w.get? "tabs" = some v) (isBinding : v.isBinding = true)
      (evaluated : w.pointer? evaluatedTabs = none)

/-- Whether the value for the old list of tabs of an instance is neither an array nor JSON text of
one. The value is found in the property or, if the property is a binding, in what it left. -/
inductive HasUnreadable (w : Instance) : Prop where
  | literal {v : Json} (property : w.get? "tabs" = some v) (isBinding : v.isBinding = false)
      (unreadable : ∀ items, ¬Gives items v)
  | bound {v value : Json} (property : w.get? "tabs" = some v) (isBinding : v.isBinding = true)
      (evaluated : w.pointer? evaluatedTabs = some value) (unreadable : ∀ items, ¬Gives items value)

/-- What gives no list has no items. -/
theorem listItems_of_not_gives {v : Json} (h : ∀ items, ¬Gives items v) : listItems v = [] := by
  cases v with
  | arr items => exact absurd .array (h items)
  | str s =>
      have hnone : (Json.read? s).bind Json.items? = none := by
        rw [Option.eq_none_iff_forall_not_mem]
        intro items hitems
        exact h items (.text ((Json.bind_items?_eq_some_iff (Json.read? s) items).1 hitems))
      rw [listItems, hnone]
      rfl
  | null | bool _ | num _ | obj _ => rfl

theorem LacksList.oldItems?_eq {w : Instance} (h : LacksList w) : oldItems? w = none := by
  cases h with
  | absent property => simp [oldItems?, property]
  | valueless property isBinding evaluated => simp [oldItems?, property, isBinding, evaluated]

theorem HasUnreadable.oldItems?_eq {w : Instance} (h : HasUnreadable w) :
    oldItems? w = some [] := by
  cases h with
  | literal property isBinding unreadable =>
      simp [oldItems?, property, isBinding, listItems_of_not_gives unreadable]
  | bound property isBinding evaluated unreadable =>
      simp [oldItems?, property, isBinding, evaluated, listItems_of_not_gives unreadable]

theorem HasUnreadable.not_hasOldList {w : Instance} (h : HasUnreadable w) (items : List Json) :
    ¬HasOldList w items := by
  intro hlist
  cases h with
  | literal property isBinding unreadable =>
      cases hlist with
      | literal property' _ gives =>
          obtain rfl := Option.some.inj (property.symm.trans property')
          exact unreadable items gives
      | bound property' isBinding' =>
          obtain rfl := Option.some.inj (property.symm.trans property')
          cases isBinding.symm.trans isBinding'
  | bound property isBinding evaluated unreadable =>
      cases hlist with
      | literal property' isBinding' =>
          obtain rfl := Option.some.inj (property.symm.trans property')
          cases isBinding.symm.trans isBinding'
      | bound _ _ evaluated' gives =>
          obtain rfl := Option.some.inj (evaluated.symm.trans evaluated')
          exact unreadable items gives

/-- There is no list exactly if there is no value for it, or one that is no list. -/
theorem forall_not_hasOldList_iff (w : Instance) :
    (∀ items, ¬HasOldList w items) ↔ LacksList w ∨ HasUnreadable w := by
  constructor
  · intro h
    cases hv : w.get? "tabs" with
    | none => exact Or.inl (.absent hv)
    | some v =>
        cases hbound : v.isBinding with
        | false =>
            exact Or.inr (.literal hv hbound fun items gives => h items (.literal hv hbound gives))
        | true =>
            cases hvalue : w.pointer? evaluatedTabs with
            | none => exact Or.inl (.valueless hv hbound hvalue)
            | some value =>
                refine Or.inr (.bound hv hbound hvalue ?_)
                exact fun items gives => h items (.bound hv hbound hvalue gives)
  · rintro (hlacks | hunreadable) items hlist
    · cases hlacks.oldItems?_eq.symm.trans hlist.oldItems?_eq
    · exact hunreadable.not_hasOldList items hlist

/-! ## What becomes of the tabs by their ids -/

section Migrate

variable {w : Instance} (hneeded : isNeeded w = true) (keys : KeySupply)

include hneeded

/-- Without a value for the list, an object that holds the tabs by their ids stays. -/
theorem get?_migrate_of_lacksList (h : LacksList w) {tabs : Fields}
    (htabs : w.get? "tabsObj" = some (.obj tabs)) :
    ((migrate w).run keys).1.get? "tabsObj" = some (.obj tabs) := by
  have hnothing : (tabsById w).run keys = ([], keys) := by
    rw [tabsById, h.oldItems?_eq, htabs]
    rfl
  have hpaths (v : Json) : ("tabsObj", v) ∉ keptPaths w := by
    rw [mem_keptPaths_iff]
    exact fun hmem => absurd hmem.1 (by decide)
  rw [run_migrate, run_upgrade_of_isNeeded hneeded, hnothing]
  have hkeys : (Table.keys ([] : List (String × Json))).Sublist ["tabsObj"] := List.nil_sublist _
  exact (get?_change_apply_of_not_mem w hkeys fun v => ⟨List.not_mem_nil, hpaths v⟩).trans htabs

/-- With a value that is no list there are no tabs afterwards, whatever there was before. -/
theorem get?_migrate_of_hasUnreadable (h : HasUnreadable w) :
    ((migrate w).run keys).1.get? "tabsObj" = some (.obj []) := by
  have hempty : (tabsById w).run keys = ([("tabsObj", .obj [])], keys) := by
    rw [tabsById, h.oldItems?_eq]
    rfl
  rw [run_migrate, run_upgrade_of_isNeeded hneeded, hempty]
  exact get?_change_apply_of_mem w (.refl _) (Or.inl (List.mem_singleton_self _))

end Migrate

/-- What becomes of the tabs by their ids where an instance that needs a migration has no old list
of tabs that can be read. Either there is no value for the list, and the tabs stay as they are; or
the value is no list, and there are no tabs afterwards. So the tabs stay as they are exactly if there
is no value for the list, or there were no tabs to begin with. -/
theorem migrate_keeps_tabsObj_iff {w : Instance} (hneeded : isNeeded w = true) {tabs : Fields}
    (htabs : w.get? "tabsObj" = some (.obj tabs)) (hlist : ∀ items, ¬HasOldList w items)
    (keys : KeySupply) :
    let y := ((migrate w).run keys).1
    (LacksList w ∧ y.get? "tabsObj" = some (.obj tabs) ∨
      HasUnreadable w ∧ y.get? "tabsObj" = some (.obj [])) ∧
    (y.get? "tabsObj" = w.get? "tabsObj" ↔ LacksList w ∨ tabs = []) := by
  intro y
  rcases (forall_not_hasOldList_iff w).1 hlist with hlacks | hunreadable
  · have hkept := get?_migrate_of_lacksList hneeded keys hlacks htabs
    exact ⟨Or.inl ⟨hlacks, hkept⟩, iff_of_true (hkept.trans htabs.symm) (Or.inl hlacks)⟩
  · have hempty : y.get? "tabsObj" = some (.obj []) :=
      get?_migrate_of_hasUnreadable hneeded keys hunreadable
    have hvalue : ¬LacksList w := by
      intro hlacks
      have hboth := hlacks.oldItems?_eq.symm.trans hunreadable.oldItems?_eq
      cases hboth
    refine ⟨Or.inr ⟨hunreadable, hempty⟩, ?_⟩
    rw [hempty, htabs, or_iff_right hvalue, Option.some.injEq, Json.obj.injEq]
    exact eq_comm

/-- A tab container whose old list was bound to a request that has never been answered. -/
theorem migrate_keeps_tabsObj_iff_unanswered :
    let tabs : Fields := [("t", .obj [("id", "t"), ("label", "T")])]
    let w : Instance :=
      ⟨⟨1⟩, "Tabs1", .tabs, some 1,
        [("__evaluation__", .obj [("evaluatedValues", .obj [])]),
          ("tabs", .str "\x7b\x7b Api.tabs \x7d\x7d"), ("tabsObj", .obj tabs)]⟩
    let keys := KeySupply.counting []
    let y := ((migrate w).run keys).1
    (isNeeded w = true ∧ w.get? "tabsObj" = some (.obj tabs) ∧ ∀ items, ¬HasOldList w items) ∧
    (LacksList w ∧ y.get? "tabsObj" = some (.obj tabs) ∨
      HasUnreadable w ∧ y.get? "tabsObj" = some (.obj [])) ∧
    (y.get? "tabsObj" = w.get? "tabsObj" ↔ LacksList w ∨ tabs = []) := by
  intro tabs w keys y
  have hneeded : isNeeded w = true := by decide
  have hlist : ∀ items, ¬HasOldList w items :=
    (forall_not_hasOldList_iff w).2 (Or.inl (.valueless rfl rfl rfl))
  exact ⟨⟨hneeded, rfl, hlist⟩, migrate_keeps_tabsObj_iff hneeded rfl hlist keys⟩

/-- A text that is no list stands where the old list should be, and the tab that there is by its id
is gone after the migration. -/
theorem migrate_drops_tabsObj :
    let w : Instance :=
      ⟨⟨1⟩, "Tabs1", .tabs, none,
        [("tabs", .str "not json"), ("tabsObj", .obj [("t", .obj [("id", "t"), ("label", "T")])])]⟩
    isNeeded w = true ∧ (w.get? "tabsObj").any Json.isObject = true ∧
      (∀ items, ¬HasOldList w items) ∧
      ∀ keys, ((migrate w).run keys).1.get? "tabsObj" ≠ w.get? "tabsObj" := by
  intro w
  have hread : Json.read? "not json" = none := by decide +kernel
  have hunreadable : HasUnreadable w := by
    refine .literal rfl rfl fun items hgives => ?_
    cases hgives with
    | text h => cases hread.symm.trans h
  refine ⟨by decide, rfl, hunreadable.not_hasOldList, ?_⟩
  intro keys h
  rw [get?_migrate_of_hasUnreadable (by decide) keys hunreadable] at h
  cases h

end Widgetry.Migration
