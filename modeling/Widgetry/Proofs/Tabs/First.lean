import Widgetry.Proofs.Tabs.Keyed

/-!
# The first tab

A tab container that has no default tab starts on the tab with the least index. The tabs themselves
stand in the order of their ids, which in general is another one. After a migration the index of a
tab is its place in the old list, so that the container starts on the first tab of that list.
-/

namespace Widgetry

namespace Tabs

theorem mem_of_first?_eq_some {tabs : List Json} {tab : Json} (h : first? tabs = some tab) :
    tab ∈ tabs := by
  induction tabs generalizing tab with
  | nil => cases h
  | cons head rest ih =>
      rw [first?] at h
      cases hrest : first? rest with
      | none =>
          rw [hrest] at h
          obtain rfl := Option.some.inj h
          exact List.mem_cons_self
      | some other =>
          rw [hrest] at h
          obtain rfl := Option.some.inj h
          split
          next => exact List.mem_cons_self
          next => exact List.mem_cons_of_mem head (ih hrest)

/-- A tab whose index is less than that of every other one is the first. -/
theorem first?_eq_some_of_lt {tabs : List Json} {tab : Json} (hmem : tab ∈ tabs)
    (hlt : ∀ other ∈ tabs, other = tab ∨ index tab < index other) : first? tabs = some tab := by
  induction tabs with
  | nil => cases hmem
  | cons head rest ih =>
      obtain ⟨hhead, hrest⟩ := List.forall_mem_cons.1 hlt
      rw [first?]
      by_cases hlater : tab ∈ rest
      · rw [ih hlater hrest]
        dsimp only
        rcases hhead with rfl | hless
        · rw [if_pos (Nat.le_refl _)]
        · rw [if_neg (Nat.not_le_of_lt hless)]
      · obtain rfl : tab = head := (List.mem_cons.1 hmem).resolve_right hlater
        cases hother : first? rest with
        | none => rfl
        | some other =>
            have hin := mem_of_first?_eq_some hother
            have hless : index tab < index other :=
              (hrest other hin).resolve_left fun heq => hlater (heq ▸ hin)
            exact congrArg some (if_pos (Nat.le_of_lt hless))

end Tabs

namespace Migration

section AllKept

variable {drawn : List String} {olds : List Fields} {entries : List (String × Fields)}
  {tabs : Fields} (h : AllKept drawn olds entries tabs)

include h

/-- The tabs are those of the list. -/
theorem AllKept.mem_values_iff (tab : Json) :
    tab ∈ tabs.values ↔ ∃ (i : Nat) (entry : String × Fields),
      entries[i]? = some entry ∧ tab = .obj entry.2 := by
  have hvalues := (h.perm.map Prod.snd).mem_iff (a := tab)
  rw [List.map_map] at hvalues
  refine hvalues.trans ?_
  constructor
  · intro hmem
    obtain ⟨entry, hentry, rfl⟩ := List.mem_map.1 hmem
    obtain ⟨i, hi⟩ := List.getElem?_of_mem hentry
    exact ⟨i, entry, hi, rfl⟩
  · rintro ⟨i, entry, hi, rfl⟩
    exact List.mem_map.2 ⟨entry, List.mem_of_getElem? hi, rfl⟩

theorem AllKept.exists_keeps {i : Nat} {entry : String × Fields}
    (hentry : entries[i]? = some entry) :
    ∃ old ∈ olds, Keeps drawn ((entries.take i).map Prod.fst) i old entry.1 entry.2 := by
  have hlt : i < olds.length := by
    rw [← h.length_eq]
    exact (List.getElem?_eq_some_iff.1 hentry).1
  exact ⟨olds[i], List.getElem_mem hlt, h.keeps i _ entry (List.getElem?_eq_getElem hlt) hentry⟩

/-- Every tab but the first has an index that is not 0, also where its place is beyond all
indices. -/
theorem AllKept.index_pos {i : Nat} {entry : String × Fields} (hentry : entries[i]? = some entry)
    (hi : i ≠ 0) : 0 < Tabs.index (.obj entry.2) := by
  by_cases hlt : i < 0x10000000000000000
  · rw [h.index_eq hentry hlt]
    exact Nat.pos_of_ne_zero hi
  · obtain ⟨old, -, hkeeps⟩ := h.exists_keeps hentry
    rw [Tabs.index, Json.get?, hkeeps.index, Option.bind_some,
      Json.nat?_int_of_le (Nat.le_of_not_lt hlt), Option.getD_none]
    decide

/-- The tab with the least index is the first one of the list. -/
theorem AllKept.first?_eq {entry : String × Fields} (hentry : entries[0]? = some entry) :
    Tabs.first? (Tabs.items (.obj tabs)) = some (.obj entry.2) := by
  refine Tabs.first?_eq_some_of_lt ((h.mem_values_iff _).2 ⟨0, entry, hentry, rfl⟩) ?_
  intro other hother
  obtain ⟨i, entry', hentry', rfl⟩ := (h.mem_values_iff other).1 hother
  by_cases hi : i = 0
  · subst hi
    obtain rfl := Option.some.inj (hentry.symm.trans hentry')
    exact Or.inl rfl
  · rw [h.index_eq hentry (by decide)]
    exact Or.inr (h.index_pos hentry' hi)

/-- What is no label in the list is none of the tabs. -/
theorem AllKept.named?_eq_none {label : String}
    (hlabel : ∀ old ∈ olds, old.get? "label" ≠ some (.str label)) :
    Tabs.named? (.obj tabs) label = none := by
  have hnone : (Tabs.items (.obj tabs)).find? (fun tab => Tabs.label? tab = some label) = none := by
    rw [List.find?_eq_none]
    intro tab htab
    obtain ⟨i, entry, hentry, rfl⟩ := (h.mem_values_iff tab).1 htab
    obtain ⟨old, hold, hkeeps⟩ := h.exists_keeps hentry
    have hsame : entry.2.get? "label" = old.get? "label" := hkeeps.frame "label" (by decide)
    rw [decide_eq_true_iff, Tabs.label?, Json.bind_string?_eq_some_iff]
    exact fun heq => hlabel old hold (hsame.symm.trans heq)
  rw [Tabs.named?, hnone]
  rfl

/-- Without a default tab among those of the list, the first one of them is selected. -/
theorem AllKept.initial?_eq {entry : String × Fields} (hentry : entries[0]? = some entry)
    {default : Option String} (hdefault : ∀ label, default = some label → label ≠ "" →
      ∀ old ∈ olds, old.get? "label" ≠ some (.str label)) :
    Tabs.initial? (.obj tabs) default = Tabs.widgetId? (.obj entry.2) := by
  have hnone : (default.filter (· ≠ "")).bind (Tabs.named? (.obj tabs)) = none := by
    rw [Option.bind_eq_none_iff]
    intro label hlabel
    obtain ⟨hsome, hne⟩ := Option.filter_eq_some_iff.1 hlabel
    exact h.named?_eq_none (hdefault label hsome (by simpa using hne))
  rw [Tabs.initial?, hnone, Option.none_or, h.first?_eq hentry, Option.bind_some]

end AllKept

/-- The tabs of an old list are all kept, as long as the keys that are drawn for them are new. -/
theorem exists_allKept_keyed (items : List Json) {keys : KeySupply}
    (hnodup : (keys.drawnBy (keyed items)).Nodup)
    (hnew : ∀ id ∈ listedIds items, id ∉ keys.drawnBy (keyed items)) :
    ∃ entries, AllKept (keys.drawnBy (keyed items)) (listedTabs items) entries
      ((keyed items).run keys).1 :=
  AllKept.foldlM items allKept_nil keys hnodup fun tab htab id hid =>
    hnew id (List.mem_filterMap.2 ⟨tab, htab, hid⟩)

/-- What is selected where an old list has been migrated whose default tab, if there is one, is none
of the list. It is the widget id that the first tab of the list has or gets. -/
theorem exists_initial?_migrate {w : Instance} (hneeded : isNeeded w = true) {items : List Json}
    (hlist : HasOldList w items) {keys : KeySupply} (hnodup : (keys.drawnBy (migrate w)).Nodup)
    (hnew : ∀ id ∈ listedIds items, id ∉ keys.drawnBy (migrate w)) {default : Option String}
    (hdefault : ∀ label, default = some label → label ≠ "" →
      ∀ tab ∈ listedTabs items, tab.get? "label" ≠ some (.str label))
    {first : Fields} {rest : List Fields} (hfirst : listedTabs items = first :: rest) :
    ∃ (tabs : Fields) (id : String) (tab : Fields) (selected : String),
      ((migrate w).run keys).1.get? "tabsObj" = some (.obj tabs) ∧
      tabs.get? id = some (.obj tab) ∧ Keeps (keys.drawnBy (migrate w)) [] 0 first id tab ∧
      tab.get? "widgetId" = some (.str selected) ∧
      Tabs.initial? (.obj tabs) default = some selected := by
  have hrun := run_migrate_of_hasOldList hneeded hlist keys
  have hdrawn : keys.drawnBy (migrate w) = keys.drawnBy (keyed items) := by
    rw [KeySupply.drawnBy, hrun]
    rfl
  rw [hdrawn] at hnodup hnew ⊢
  obtain ⟨entries, hkept⟩ := exists_allKept_keyed items hnodup hnew
  obtain ⟨entry, others, rfl⟩ : ∃ entry others, entries = entry :: others := by
    refine List.exists_cons_of_length_pos ?_
    rw [hkept.length_eq, hfirst]
    exact Nat.succ_pos _
  have hkeeps : Keeps (keys.drawnBy (keyed items)) [] 0 first entry.1 entry.2 :=
    hkept.keeps 0 first entry (by rw [hfirst]; rfl) rfl
  obtain ⟨selected, hselected⟩ : ∃ s, entry.2.get? "widgetId" = some (.str s) := by
    cases hown : text? first "widgetId" with
    | some s => exact ⟨s, hkeeps.ownWidgetId s hown⟩
    | none =>
        obtain ⟨s, -, hs⟩ := hkeeps.drawnWidgetId hown
        exact ⟨s, hs⟩
  refine ⟨((keyed items).run keys).1, entry.1, entry.2, selected, ?_,
    hkept.get?_of_mem List.mem_cons_self, hkeeps, hselected, ?_⟩
  · rw [hrun]
    exact get?_change_apply_of_mem w (.refl _) (Or.inl (List.mem_singleton_self _))
  · rw [hkept.initial?_eq rfl hdefault]
    exact (Json.bind_string?_eq_some_iff _ _).2 hselected

end Migration

end Widgetry
