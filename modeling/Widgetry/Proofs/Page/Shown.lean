import Widgetry.Proofs.Page.Failure
import Widgetry.Proofs.Page.Selection
import Widgetry.Proofs.Page.Submission
import Widgetry.Proofs.Tabs.First

/-!
# What is shown of the selected tab

A tab container shows the label of its selected tab, which is looked for among the resolved tabs by
its widget id. To select a tab is one update of the meta-state. A container that has just been
migrated has selected the first tab of its old list, although the tabs do not stand in the order of
the list any more.
-/

namespace Widgetry

/-- Whether a value is what is shown of the tab with a widget id: the label of the tab if it is the
only one with this id, and `null` if there is none. -/
structure Tabs.Shows (tabs : Json) (widgetId : String) (shown : Json) : Prop where
  label : ∀ tab, (items tabs).filter (fun tab => widgetId? tab = some widgetId) = [tab] →
    shown = .ofOption (tab.get? "label")
  nothing : (∀ tab ∈ items tabs, widgetId? tab ≠ some widgetId) → shown = .null

theorem Tabs.shows_labelOf (tabs : Json) (widgetId : String) :
    Shows tabs widgetId (labelOf tabs (.str widgetId)) where
  label := by
    intro tab honly
    rw [labelOf, ← List.head?_filter, honly]
    rfl
  nothing := by
    intro hnone
    have hfind : (items tabs).find? (fun tab => widgetId? tab = some widgetId) = none := by
      rw [List.find?_eq_none]
      intro tab htab
      rw [decide_eq_true_iff]
      exact hnone tab htab
    rw [labelOf, hfind]
    rfl

/-- A tab container that needs a migration is migrated when it is loaded. -/
theorem Instance.load_of_isNeeded {w : Instance} (h : Migration.isNeeded w = true) :
    w.load = Migration.migrate w := by
  have hcontainer : w.kind.isTabContainer = true := (Bool.and_eq_true_iff.1 h).1
  unfold load
  cases hkind : w.kind with
  | tabs | legacyTabs => rfl
  | input | iframe =>
      rw [hkind] at hcontainer
      cases hcontainer

namespace Page

/-! ## The label of the selected tab -/

section Container

variable {page : Page} {id : WidgetId} {w : Instance} (hw : page.widget? id = some w)
  (hkind : w.kind = .tabs)

include hw hkind

/-- The label is looked for among the resolved tabs, by the widget id that is read. -/
theorem get?_derivedOf_selectedTab (hconsistent : page.contents.Consistent)
    (hsorted : page.contents.Sorted) :
    (page.derivedOf w).1.get? "selectedTab" =
      some (Tabs.labelOf (.ofOption ((page.resolvedOf w).1.get? "tabsObj"))
        (page.states.read id "selectedTabWidgetId")) := by
  obtain ⟨-, -, rfl, -, -⟩ := hconsistent.exists_state hw
  have htabs := member_bindingThis_of_mem_properties hw hconsistent (page.resolvedOf w).1
    (show "tabsObj" ∈ w.kind.properties by rw [hkind]; decide)
  have hselected := member_bindingThis_of_mem_metaKeys hw hconsistent (page.resolvedOf w).1 hsorted
    (show "selectedTabWidgetId" ∈ w.kind.metaKeys by rw [hkind]; decide)
  rw [get?_derivedOf page w (by rw [hkind]; decide), hkind, derivedValue, htabs, hselected]

/-- To select a tab is an update. -/
theorem runOn_selectTab_eq_update (widgetId : String) :
    runOn (selectTab id widgetId) page =
      runOn (update id "selectedTabWidgetId" (.str widgetId)
        (some (.on "onTabSelected" .tabChange))) page := by
  rw [selectTab, runOn_widgetOfKind_bind, (ofKind_eq_ok_iff page .tabs id w).2 ⟨hw, hkind⟩]

/-- To select a tab changes one value of the meta-state, and what is shown then is the label of this
tab. -/
theorem exists_shown_of_selectTab (hconsistent : page.contents.Consistent)
    (hsorted : page.contents.Sorted) (widgetId : String) :
    ∃ updated page' properties values shown,
      runOn (selectTab id widgetId) page = (.ok updated, page') ∧
      page.UpdatesTo id "selectedTabWidgetId" (.str widgetId)
        (some (.on "onTabSelected" .tabChange)) updated page' ∧
      runOn (resolved id) page' = (.ok properties, page') ∧
      runOn (derived id) page' = (.ok values, page') ∧
      values.get? "selectedTab" = some shown ∧
      Tabs.Shows (.ofOption (properties.get? "tabsObj")) widgetId shown := by
  have hofKind : page.ofKind .tabs id = .ok w := (ofKind_eq_ok_iff page _ id w).2 ⟨hw, hkind⟩
  obtain ⟨updated, page', hselect, hupdates⟩ := exists_runOn_update hconsistent hofKind
    (show (KeyCategory.of .tabs "selectedTabWidgetId").isWritable = true by decide)
    (.str widgetId) (some (.on "onTabSelected" .tabChange))
  rw [← runOn_selectTab_eq_update hw hkind] at hselect
  have hafter : (Operation.selectTab id widgetId).after page = page' := by
    rw [Operation.after, hselect]
  have hconsistent' : page'.contents.Consistent :=
    hafter ▸ (Operation.selectTab id widgetId).consistent_after hconsistent
  have hsorted' : page'.contents.Sorted :=
    hafter ▸ (Operation.selectTab id widgetId).sorted_after hsorted
  have hw' : page'.widget? id = some w := (hupdates.widget?_eq id).trans hw
  have hselected : page'.states.read id "selectedTabWidgetId" = .str widgetId := by
    have hread := hupdates.reads id "selectedTabWidgetId"
    rw [if_pos ⟨rfl, rfl⟩, runOn_read, hw'] at hread
    exact Except.ok.inj (Prod.mk.inj hread).1
  have hshown := get?_derivedOf_selectedTab hw' hkind hconsistent' hsorted'
  rw [hselected] at hshown
  have hidle : ¬w.MayDraw := not_mayDraw (by simp [hkind])
  exact ⟨updated, page', _, _, _, hselect, hupdates, runOn_resolved_of_not_mayDraw hw' hidle,
    runOn_derived_of_not_mayDraw hw' hidle, hshown, Tabs.shows_labelOf _ widgetId⟩

end Container

/-! ## Where a migrated container starts -/

/-- A container that is mounted and has an old list of tabs is migrated. Unless it has a default tab
that is on the list, it has selected the first tab of the list then. -/
theorem exists_read_mount (page : Page) {saved : Instance}
    (hneeded : Migration.isNeeded saved = true) {items : List Json}
    (hlist : Migration.HasOldList saved items) (hliteral : saved.isBound "defaultTab" = false)
    (hnodup : (page.keys.drawnBy (Migration.migrate saved)).Nodup)
    (hnew : ∀ id ∈ Migration.listedIds items, id ∉ page.keys.drawnBy (Migration.migrate saved))
    (hdefault : ∀ label, saved.string? "defaultTab" = some label → label ≠ "" →
      ∀ tab ∈ Migration.listedTabs items, tab.get? "label" ≠ some (.str label))
    {first : Fields} {rest : List Fields} (hfirst : Migration.listedTabs items = first :: rest) :
    let page' := (Operation.mount saved).after page
    ∃ (w : Instance) (tabs : Fields) (id : String) (tab : Fields) (selected : String),
      page'.widget? saved.id = some w ∧ w.kind = .tabs ∧
      w.get? "tabsObj" = some (.obj tabs) ∧ tabs.get? id = some (.obj tab) ∧
      Migration.Keeps (page.keys.drawnBy (Migration.migrate saved)) [] 0 first id tab ∧
      tab.get? "widgetId" = some (.str selected) ∧
      runOn (read saved.id "selectedTabWidgetId") page' = (.ok (.str selected), page') := by
  intro page'
  obtain ⟨tabs, id, tab, selected, htabs, hid, hkeeps, hwidget, hinitial⟩ :=
    Migration.exists_initial?_migrate hneeded hlist hnodup hnew hdefault hfirst
  let w := ((Migration.migrate saved).run page.keys).1
  have hcurrent : Migration.IsCurrentFormOf saved w :=
    Migration.isCurrentFormOf_migrate hneeded page.keys
  have hloaded : (page.loadedOf saved).1 = w := by
    rw [loadedOf, Instance.load_of_isNeeded hneeded]
  have hpage : page' = (page.loadedOf saved).2.seeded w := by
    rw [← hloaded]
    exact congrArg Prod.snd (run_mount page saved)
  have hmounted : page'.widget? saved.id = some w := by
    have hwidgets : (page.loadedOf saved).2.widgets =
        page.widgets.insert (page.loadedOf saved).1.id (page.loadedOf saved).1 := rfl
    rw [hloaded] at hwidgets
    rw [hpage, ← hcurrent.id]
    show (page.loadedOf saved).2.widgets.get? w.id = some w
    rw [hwidgets, Table.get?_insert_self]
  have hdefaultTab : w.get? "defaultTab" = saved.get? "defaultTab" :=
    hcurrent.frame "defaultTab" (by decide) fun _ hmem => absurd hmem (by decide)
  have hselected : page'.states.read saved.id "selectedTabWidgetId" = .str selected := by
    have hfree : w.isBound "defaultTab" = false := by
      rwa [Instance.isBound, hdefaultTab]
    have hobject : w.isBound "tabsObj" = false := by
      rw [Instance.isBound, htabs]
      rfl
    rw [hpage, ← hcurrent.id, read_seeded_of_tabs _ hcurrent.kind, Tabs.startOf_eq_iff]
    show Tabs.initial? (.ofOption (Table.get? (resolvedOf _ w).1 "tabsObj"))
      ((Table.get? (resolvedOf _ w).1 "defaultTab").bind Json.string?) = some selected
    rw [get?_resolvedOf_of_not_isBound _ _ hobject, get?_resolvedOf_of_not_isBound _ _ hfree, htabs,
      hdefaultTab]
    exact hinitial
  have hread := runOn_read page' saved.id "selectedTabWidgetId"
  rw [hmounted, hselected] at hread
  exact ⟨w, tabs, id, tab, selected, hmounted, hcurrent.kind, htabs, hid, hkeeps, hwidget, hread⟩

/-- What a tab container shows on a page that is reached from an empty one. To select a tab never
fails, and changes the selected widget id of this container alone. Afterwards the label of the
selected tab is shown if this is the only one of the resolved tabs with the widget id, and `null` is
shown if there is none. A container that is mounted with an old list of tabs has selected the first
tab of the list, under its own widget id or the one that it has got, unless a default tab that is
written in the properties is on the list. The keys that are drawn for the list must be different
from each other and from its ids, so that no tab is lost. -/
theorem shown_after_empty (config : Config) (canRun : Bool) (keys : KeySupply)
    (ops : List Operation) :
    let page := (empty config canRun keys).after ops
    (∀ id w, page.widget? id = some w → w.kind = .tabs → ∀ widgetId,
      ∃ updated page' properties values shown,
        runOn (selectTab id widgetId) page = (.ok updated, page') ∧
        page.UpdatesTo id "selectedTabWidgetId" (.str widgetId)
          (some (.on "onTabSelected" .tabChange)) updated page' ∧
        runOn (resolved id) page' = (.ok properties, page') ∧
        runOn (derived id) page' = (.ok values, page') ∧
        values.get? "selectedTab" = some shown ∧
        Tabs.Shows (.ofOption (properties.get? "tabsObj")) widgetId shown) ∧
    ∀ saved items, Migration.isNeeded saved = true → Migration.HasOldList saved items →
      saved.isBound "defaultTab" = false →
      (page.keys.drawnBy (Migration.migrate saved)).Nodup →
      (∀ id ∈ Migration.listedIds items, id ∉ page.keys.drawnBy (Migration.migrate saved)) →
      (∀ label, saved.string? "defaultTab" = some label → label ≠ "" →
        ∀ tab ∈ Migration.listedTabs items, tab.get? "label" ≠ some (.str label)) →
      ∀ first rest, Migration.listedTabs items = first :: rest →
        let page' := (Operation.mount saved).after page
        ∃ (w : Instance) (tabs : Fields) (id : String) (tab : Fields) (selected : String),
          page'.widget? saved.id = some w ∧ w.kind = .tabs ∧
          w.get? "tabsObj" = some (.obj tabs) ∧ tabs.get? id = some (.obj tab) ∧
          Migration.Keeps (page.keys.drawnBy (Migration.migrate saved)) [] 0 first id tab ∧
          tab.get? "widgetId" = some (.str selected) ∧
          (∀ s, Migration.text? first "widgetId" = some s → selected = s) ∧
          runOn (read saved.id "selectedTabWidgetId") page' = (.ok (.str selected), page') := by
  intro page
  have hconsistent : page.contents.Consistent :=
    consistent_after (consistent_empty config canRun keys) ops
  have hsorted : page.contents.Sorted := sorted_after (sorted_empty config canRun keys) ops
  constructor
  · intro id w hw hkind widgetId
    exact exists_shown_of_selectTab hw hkind hconsistent hsorted widgetId
  · intro saved items hneeded hlist hliteral hnodup hnew hdefault first rest hfirst
    obtain ⟨w, tabs, id, tab, selected, hw, hkind, htabs, htab, hkeeps, hwidget, hread⟩ :=
      page.exists_read_mount hneeded hlist hliteral hnodup hnew hdefault hfirst
    refine ⟨w, tabs, id, tab, selected, hw, hkind, htabs, htab, hkeeps, hwidget, ?_, hread⟩
    intro s hs
    have hown := hwidget.symm.trans (hkeeps.ownWidgetId s hs)
    exact Json.str.inj (Option.some.inj hown)

/-- A list of two tabs whose ids are in the other order. The first tab of the list is selected when
the container is mounted, and then the other one is. -/
theorem shown_after_empty_listed :
    let items : List Json :=
      [.obj [("id", "b"), ("label", "B")], .obj [("id", "a"), ("label", "A"), ("widgetId", "wa")]]
    let saved : Instance :=
      ⟨⟨1⟩, "Tabs1", .legacyTabs, none, [("defaultTab", "C"), ("tabs", .arr items)]⟩
    let first : Json := .obj [("id", "b"), ("index", .int 0), ("isVisible", true), ("label", "B"),
      ("widgetId", "4f2a91c07d")]
    let second : Json := .obj [("id", "a"), ("index", .int 1), ("isVisible", true), ("label", "A"),
      ("widgetId", "wa")]
    let w : Instance := ⟨⟨1⟩, "Tabs1", .tabs, some 2,
      [("defaultTab", "C"), ("tabsObj", .obj [("a", second), ("b", first)])]⟩
    let page := empty {} true ⟨fun _ => "4f2a91c07d", 0⟩
    let mounted := page.after [.mount saved]
    (Migration.isNeeded saved = true ∧ Migration.HasOldList saved items ∧
        saved.isBound "defaultTab" = false ∧
        (page.keys.drawnBy (Migration.migrate saved)).Nodup ∧
        (∀ id ∈ Migration.listedIds items, id ∉ page.keys.drawnBy (Migration.migrate saved)) ∧
        ∀ label, saved.string? "defaultTab" = some label → label ≠ "" →
          ∀ tab ∈ Migration.listedTabs items, tab.get? "label" ≠ some (.str label)) ∧
      runOn (read saved.id "selectedTabWidgetId") mounted = (.ok (.str "4f2a91c07d"), mounted) ∧
      (mounted.widget? saved.id = some w ∧ w.kind = .tabs) ∧
      ∃ updated page' values, runOn (selectTab saved.id "wa") mounted = (.ok updated, page') ∧
        runOn (read saved.id "selectedTabWidgetId") page' = (.ok (.str "wa"), page') ∧
        runOn (derived saved.id) page' = (.ok values, page') ∧
        values.get? "selectedTab" = some (.str "A") := by
  intro items saved first second w page mounted
  have hlist : Migration.HasOldList saved items := .literal rfl rfl .array
  have hnodup : (page.keys.drawnBy (Migration.migrate saved)).Nodup := List.nodup_singleton _
  have hnew : ∀ id ∈ Migration.listedIds items,
      id ∉ page.keys.drawnBy (Migration.migrate saved) := by decide
  have hdefault : ∀ label, saved.string? "defaultTab" = some label → label ≠ "" →
      ∀ tab ∈ Migration.listedTabs items, tab.get? "label" ≠ some (.str label) := by
    intro label hlabel _ tab htab heq
    obtain rfl : "C" = label := Option.some.inj hlabel
    have hmem : "C" ∈ (Migration.listedTabs items).filterMap
        fun tab => (tab.get? "label").bind Json.string? :=
      List.mem_filterMap.2 ⟨tab, htab, (Json.bind_string?_eq_some_iff _ _).2 heq⟩
    exact absurd hmem (by decide)
  have hw : mounted.widget? saved.id = some w := by
    subst mounted w page saved
    rfl
  obtain ⟨_, _, _, _, selected, -, -, -, -, hkeeps, hwidget, -, hread⟩ :=
    (shown_after_empty {} true page.keys []).2 saved items rfl hlist rfl hnodup hnew hdefault _ _
      rfl
  obtain rfl : selected = "4f2a91c07d" := by
    obtain ⟨s, hs, hdrawn⟩ := hkeeps.drawnWidgetId rfl
    obtain rfl := List.mem_singleton.1 hs
    exact Json.str.inj (Option.some.inj (hwidget.symm.trans hdrawn))
  obtain ⟨updated, page', properties, values, shown, hselect, hupdates, hresolved, hderived, hvalue,
    hshown⟩ := (shown_after_empty {} true page.keys [.mount saved]).1 saved.id w hw rfl "wa"
  have hselected := hupdates.reads saved.id "selectedTabWidgetId"
  rw [if_pos ⟨rfl, rfl⟩] at hselected
  have hw' : page'.widget? saved.id = some w := (hupdates.widget?_eq saved.id).trans hw
  have hproperties := (runOn_resolved_of_not_mayDraw hw' (not_mayDraw (by decide))).symm.trans
    hresolved
  obtain rfl := Except.ok.inj (Prod.mk.inj hproperties).1
  rw [get?_resolvedOf_of_not_isBound page' w rfl] at hshown
  obtain rfl : shown = .str "A" := hshown.label second rfl
  exact ⟨⟨rfl, hlist, rfl, hnodup, hnew, hdefault⟩, hread, ⟨hw, rfl⟩, updated, page', values,
    hselect, hselected, hderived, hvalue⟩

end Page

end Widgetry
