import Widgetry.Proofs.Page.Literal
import Widgetry.Proofs.Page.Reset

/-!
# Where a tab container starts

A tab container starts on the tab that is given by the label of its default tab. The label may be
bound, and so may the tabs. Then the widget is seeded with its resolved properties, which see the
meta-state for the properties as they are saved. A bound label goes through its rule, and the rule
looks for the label among the tabs as they are saved. So it is not found there if the tabs are bound
too, and the container starts on the tab with the least index.
-/

namespace Widgetry

namespace Tabs

/-- Whether a value is an object in which exactly one tab has a label, the one with a widget id. -/
def HasOnly (tabs : Json) (label widgetId : String) : Prop :=
  ∃ fields tab, tabs = .obj fields ∧
    (Table.values fields).filter (fun tab => label? tab = some label) = [tab] ∧
    widgetId? tab = some widgetId

theorem HasOnly.named?_eq {tabs : Json} {label widgetId : String}
    (h : HasOnly tabs label widgetId) : named? tabs label = some widgetId := by
  obtain ⟨fields, tab, rfl, honly, hid⟩ := h
  have hitems : items (.obj fields) = Table.values fields := rfl
  rw [named?, hitems, ← List.head?_filter, honly]
  exact hid

/-- The label is among those of the tabs as they are saved, if these are the tabs. -/
theorem HasOnly.mem_tabLabels {tabs : Json} {label widgetId : String}
    (h : HasOnly tabs label widgetId) {properties : Fields}
    (htabs : properties.get? "tabsObj" = some tabs) : label ∈ tabLabels properties := by
  obtain ⟨fields, tab, rfl, honly, -⟩ := h
  obtain ⟨htab, hlabel⟩ := List.mem_filter.1 (honly ▸ List.mem_singleton_self tab)
  unfold tabLabels
  rw [htabs]
  exact List.mem_filterMap.2 ⟨tab, List.mem_append_left _ htab, of_decide_eq_true hlabel⟩

theorem initial?_of_named? {tabs : Json} {label widgetId : String} (hlabel : label ≠ "")
    (h : named? tabs label = some widgetId) : initial? tabs (some label) = some widgetId := by
  rw [initial?, Option.filter_some_pos (by simpa using hlabel), Option.bind_some, h]
  rfl

theorem initial?_empty (tabs : Json) :
    initial? tabs (some "") = (first? (items tabs)).bind widgetId? := by
  rw [initial?, Option.filter_some_neg (by simp)]
  rfl

/-- What is selected at first in a container, `null` if there is nothing to select. -/
def startOf (w : Instance) : Json :=
  .ofOption ((initial? (.ofOption (w.get? "tabsObj")) (w.string? "defaultTab")).map .str)

theorem startOf_eq_iff (w : Instance) (widgetId : String) :
    startOf w = .str widgetId ↔
      initial? (.ofOption (w.get? "tabsObj")) (w.string? "defaultTab") = some widgetId := by
  rw [startOf]
  cases initial? (.ofOption (w.get? "tabsObj")) (w.string? "defaultTab") with
  | none => simp [Json.ofOption]
  | some other => simp [Json.ofOption]

end Tabs

theorem MetaState.read_seeded_of_tabs {w : Instance} (h : w.kind = .tabs) :
    (seeded w).read "selectedTabWidgetId" = Tabs.startOf w := by
  have hseed : w.seed = Tabs.seedMeta w := by
    rw [Instance.seed, h]
    rfl
  rw [seeded, hseed, h, Tabs.seedMeta, Tabs.startOf]
  cases Tabs.initial? (.ofOption (w.get? "tabsObj")) (w.string? "defaultTab") <;> rfl

namespace Page

/-- The page where a widget has the meta-state for its properties as they are saved. There its
bindings are resolved when it is seeded. -/
def freshOf (page : Page) (w : Instance) : Page :=
  { page with states := page.states.seed w }

/-- Whether the binding of a property, if it has one, has the same value with the meta-state of the
widget as where the widget is seeded. -/
def IsSettled (page : Page) (w : Instance) (property : String) : Prop :=
  ∀ source, w.get? property = some (.str source) → isBinding source = true →
    ((page.freshOf w).scopeOf w).value source = (page.scopeOf w).value source

/-- Whether the label of the default tab of a container is that of exactly one of its tabs, the one
with a widget id. The label is taken as it is written or as its binding comes out on the page. -/
structure HasDefaultTab (page : Page) (w : Instance) (label widgetId : String) : Prop where
  label_eq : ∃ v, w.get? "defaultTab" = some v ∧ page.given w v = .str label
  label_ne : label ≠ ""
  only : ∃ tabs, (page.resolvedOf w).1.get? "tabsObj" = some tabs ∧ Tabs.HasOnly tabs label widgetId

/-- Whether an operation gives the widget with an id its first meta-state. -/
def Operation.Starts (id : WidgetId) : Operation → Prop
  | mount saved => saved.id = id
  | reset id' => id' = id
  | _ => False

/-- What has been mounted or reset has just been seeded. -/
theorem exists_seeded {page : Page} {id : WidgetId} {op : Operation} (hop : op.Starts id)
    {w : Instance} (hw : (op.after page).widget? id = some w) :
    ∃ before : Page, op.after page = before.seeded w := by
  cases op with
  | mount saved =>
      rw [Operation.after, run_mount] at hw ⊢
      have hid : (page.loadedOf saved).1.id = id := (saved.id_load page.keys).trans hop
      have hfound : Table.get? (page.widgets.insert (page.loadedOf saved).1.id
          (page.loadedOf saved).1) id = some w := hw
      rw [hid, Table.get?_insert_self] at hfound
      obtain rfl := Option.some.inj hfound
      exact ⟨_, rfl⟩
  | reset id' =>
      obtain rfl := hop
      rw [Operation.after, runOn_reset] at hw ⊢
      cases hfound : page.widget? id' with
      | none =>
          rw [hfound] at hw
          exact absurd (hfound.symm.trans hw) (by simp)
      | some w' =>
          rw [hfound] at hw
          have hkept : page.widget? id' = some w := hw
          obtain rfl := Option.some.inj (hfound.symm.trans hkept)
          exact ⟨page, rfl⟩
  | _ => exact hop.elim

/-! ## What is selected -/

section Seeded

variable (page : Page) (w : Instance)

theorem freshOf_seeded :
    (page.seeded w).freshOf w = { page.freshOf w with keys := (page.seedingOf w).2 } := by
  have hstates : (page.seeded w).states.seed w = page.states.seed w :=
    Table.insert_insert_self page.states w.id _ _
  unfold freshOf
  rw [hstates]
  rfl

theorem resolvedOf_freshOf_seeded {w : Instance} (h : ¬w.MayDraw) :
    (((page.seeded w).freshOf w).resolvedOf w).1 = ((page.freshOf w).resolvedOf w).1 := by
  rw [freshOf_seeded]
  exact ((page.freshOf w).isIdle_resolve h).run_fst (page.seedingOf w).2 page.keys

theorem mem_keys_snapshot_seeded (key : String) :
    key ∈ ((page.seeded w).snapshot w.id).keys ↔ key ∈ w.kind.metaKeys := by
  have hstate : (page.seeded w).states.get? w.id =
      some ⟨w.kind.behavior.metaDefaults, (page.seedingOf w).1⟩ := Table.get?_insert_self ..
  rw [snapshot, MetaStore.snapshot?, hstate]
  refine (Table.mem_keys_overlay _ _ key).trans ?_
  rw [mem_keys_seedingOf]
  exact or_self_iff

/-- A container that has been seeded has selected the tab that its resolved properties give. -/
theorem read_seeded_of_tabs {w : Instance} (h : w.kind = .tabs) :
    (page.seeded w).states.read w.id "selectedTabWidgetId" =
      Tabs.startOf { w with properties := (((page.seeded w).freshOf w).resolvedOf w).1 } := by
  have hidle : ¬w.MayDraw := not_mayDraw (by simp [h])
  rw [resolvedOf_freshOf_seeded page hidle, seeded, MetaStore.read_insert, if_pos rfl, seedingOf_eq]
  exact MetaState.read_seeded_of_tabs (w := { w with properties := _ }) h

end Seeded

/-! ## The default tab and the tabs -/

section Properties

variable (page : Page) {w : Instance}

/-- The label of a default tab stays as it is, unless it is bound and none of the saved tabs has
it. -/
theorem get?_resolvedOf_defaultTab (hkind : w.kind = .tabs) {v : Json}
    (hv : w.get? "defaultTab" = some v) {label : String} (hlabel : page.given w v = .str label) :
    (page.resolvedOf w).1.get? "defaultTab" =
      some (.str (if v.isBinding = true ∧ label ∉ tabLabels w.properties then "" else label)) := by
  obtain ⟨entry, hentry, hrule, hdata⟩ : ∃ entry, w.kind.pane.entry? "defaultTab" = some entry ∧
      entry.rule = some .tabName ∧ entry.isTrigger = false := by
    rw [hkind]
    exact ⟨_, rfl, rfl, rfl⟩
  rw [get?_resolvedOf_of_keys, hv, Option.map_some]
  cases hbound : v.isBinding with
  | true =>
      have hrun (o : Outcome) (keys : KeySupply) :
          ((pure o : Drawing Outcome).run keys).1 = o := rfl
      rw [resolveValue_of_isBinding page hentry hrule hdata hbound, hlabel, Rule.validate, hrun,
        Rule.validateTabName]
      by_cases hempty : label = ""
      · simp [hempty, Outcome.valid]
      · by_cases hmem : label ∈ tabLabels w.properties
        · simp [hmem, Outcome.valid]
        · simp [hempty, hmem, Outcome.invalid]
  | false =>
      rw [page.given_of_not_isBinding w hbound] at hlabel
      rw [resolveValue_of_not_isBinding _ _ _ hbound, hlabel,
        if_neg fun h => Bool.false_ne_true h.1]
      rfl

/-- A settled property is resolved now as it was when the widget was seeded. -/
theorem get?_resolvedOf_freshOf {property : String} (hsettled : page.IsSettled w property) :
    ((page.freshOf w).resolvedOf w).1.get? property = (page.resolvedOf w).1.get? property := by
  rw [get?_resolvedOf_of_keys, get?_resolvedOf_of_keys]
  cases hv : w.get? property with
  | none => rw [Option.map_none, Option.map_none]
  | some v =>
      have hsame : resolveValue ((page.freshOf w).scopeOf w) w property v =
          resolveValue (page.scopeOf w) w property v := by
        refine resolveValue_congr w property ?_
        rintro source rfl hsource
        exact hsettled source hv hsource
      have hkeys : (page.freshOf w).keys = page.keys := rfl
      rw [Option.map_some, Option.map_some, hsame, hkeys]

theorem given_freshOf {property : String} (hsettled : page.IsSettled w property) {v : Json}
    (hv : w.get? property = some v) : (page.freshOf w).given w v = page.given w v := by
  cases hbound : v.isBinding with
  | true =>
      cases v with
      | str source =>
          have hsource : isBinding source = true := hbound
          rw [given_of_isBinding _ w hsource, given_of_isBinding _ w hsource]
          exact hsettled source hv hsource
      | null | bool _ | num _ | arr _ | obj _ => cases hbound
  | false => rw [given_of_not_isBinding _ w hbound, given_of_not_isBinding _ w hbound]

/-- It makes no difference to settled properties whether the default tab is looked for now or where
the widget has been seeded. -/
theorem hasDefaultTab_freshOf_iff
    (hsettled : ∀ property ∈ ["defaultTab", "tabsObj"], page.IsSettled w property)
    (label widgetId : String) :
    (page.freshOf w).HasDefaultTab w label widgetId ↔ page.HasDefaultTab w label widgetId := by
  have hlabel := hsettled "defaultTab" (by decide)
  have htabs := page.get?_resolvedOf_freshOf (hsettled "tabsObj" (by decide))
  constructor
  · rintro ⟨⟨v, hv, heq⟩, hne, honly⟩
    rw [page.given_freshOf hlabel hv] at heq
    rw [htabs] at honly
    exact ⟨⟨v, hv, heq⟩, hne, honly⟩
  · rintro ⟨⟨v, hv, heq⟩, hne, honly⟩
    rw [← page.given_freshOf hlabel hv] at heq
    rw [← htabs] at honly
    exact ⟨⟨v, hv, heq⟩, hne, honly⟩

/-- The default tab is found by its label if the label comes through its rule. Otherwise it is
found by chance only. -/
theorem startOf_eq_iff (hkind : w.kind = .tabs) {label widgetId : String}
    (h : page.HasDefaultTab w label widgetId) :
    Tabs.startOf { w with properties := (page.resolvedOf w).1 } = .str widgetId ↔
      w.isBound "defaultTab" = false ∨ label ∈ tabLabels w.properties ∨
        (Tabs.first? (Tabs.items (.ofOption ((page.resolvedOf w).1.get? "tabsObj")))).bind
          Tabs.widgetId? = some widgetId := by
  obtain ⟨⟨v, hv, hlabel⟩, hne, tabs, htabs, honly⟩ := h
  have hdefault := page.get?_resolvedOf_defaultTab hkind hv hlabel
  have hbound : w.isBound "defaultTab" = v.isBinding := by
    rw [Instance.isBound, hv]
    rfl
  rw [Tabs.startOf_eq_iff, hbound]
  show Tabs.initial? (.ofOption ((page.resolvedOf w).1.get? "tabsObj"))
    (((page.resolvedOf w).1.get? "defaultTab").bind Json.string?) = some widgetId ↔ _
  rw [hdefault, htabs]
  by_cases hlost : v.isBinding = true ∧ label ∉ tabLabels w.properties
  · rw [if_pos hlost]
    refine (Eq.congr (Tabs.initial?_empty tabs) rfl).trans ?_
    simp [hlost.1, hlost.2, Json.ofOption]
  · rw [if_neg hlost]
    refine iff_of_true (Tabs.initial?_of_named? hne honly.named?_eq) ?_
    rw [not_and_not_right] at hlost
    cases hbinding : v.isBinding with
    | true => exact Or.inr (Or.inl (hlost hbinding))
    | false => exact Or.inl rfl

end Properties

/-- Where a tab container starts that has been mounted or reset, on a page that is reached from an
empty one. It is what its resolved properties give, where the bindings see the meta-state for the
properties as they are saved. Let the default tab be one tab with a label of its own and a widget
id. If the label is bound and none of the tabs as they are saved has it, the container starts on the
tab with the least index, and otherwise on the default tab; so it does start on the default tab if
the label or the tabs are not bound. If the two bindings do not depend on what has been selected,
the default tab is the same before the container starts and after. -/
theorem selected_after_empty (config : Config) (canRun : Bool) (keys : KeySupply)
    (ops : List Operation) {id : WidgetId} {op : Operation} (hop : op.Starts id) {w : Instance}
    (hw : (op.after ((empty config canRun keys).after ops)).widget? id = some w)
    (hkind : w.kind = .tabs) :
    let page := op.after ((empty config canRun keys).after ops)
    let fresh := page.freshOf w
    let tabs : Json := .ofOption ((fresh.resolvedOf w).1.get? "tabsObj")
    ∃ selected,
      runOn (resolved id) page = (.ok (page.resolvedOf w).1, page) ∧
      runOn (read id "selectedTabWidgetId") page = (.ok selected, page) ∧
      selected = Tabs.startOf { w with properties := (fresh.resolvedOf w).1 } ∧
      (∀ label widgetId, fresh.HasDefaultTab w label widgetId →
        (selected = .str widgetId ↔
          w.isBound "defaultTab" = false ∨ label ∈ tabLabels w.properties ∨
            (Tabs.first? (Tabs.items tabs)).bind Tabs.widgetId? = some widgetId) ∧
        (w.isBound "defaultTab" = false ∨ w.isBound "tabsObj" = false →
          selected = .str widgetId)) ∧
      ((∀ property ∈ ["defaultTab", "tabsObj"], page.IsSettled w property) → ∀ label widgetId,
        fresh.HasDefaultTab w label widgetId ↔ page.HasDefaultTab w label widgetId) := by
  intro page fresh tabs
  have hconsistent : page.contents.Consistent :=
    op.consistent_after (consistent_after (consistent_empty config canRun keys) ops)
  obtain ⟨-, -, rfl, -, -⟩ := hconsistent.exists_state hw
  have hmounted : page.widget? w.id = some w := hw
  have hresolved := runOn_resolved_of_not_mayDraw hmounted (not_mayDraw (by simp [hkind]))
  have hread := runOn_read page w.id "selectedTabWidgetId"
  rw [hmounted] at hread
  obtain ⟨before, hbefore⟩ := exists_seeded hop hw
  have hstart : page.states.read w.id "selectedTabWidgetId" =
      Tabs.startOf { w with properties := (fresh.resolvedOf w).1 } := by
    have hseeded : page = before.seeded w := hbefore
    show page.states.read w.id "selectedTabWidgetId" =
      Tabs.startOf { w with properties := ((page.freshOf w).resolvedOf w).1 }
    rw [hseeded]
    exact before.read_seeded_of_tabs hkind
  refine ⟨_, hresolved, hread, hstart, ?_, page.hasDefaultTab_freshOf_iff⟩
  intro label widgetId h
  have hiff := fresh.startOf_eq_iff hkind h
  rw [← hstart] at hiff
  refine ⟨hiff, ?_⟩
  rintro (hfree | hfree)
  · exact hiff.2 (Or.inl hfree)
  · obtain ⟨-, -, tabs, htabs, honly⟩ := h
    rw [get?_resolvedOf_of_not_isBound _ _ hfree] at htabs
    exact hiff.2 (Or.inr (Or.inl (honly.mem_tabLabels htabs)))

theorem ofString_town :
    Template.ofString "\x7b\x7b Town.value \x7d\x7d" =
      .ok ⟨[.binding " Town.value ".toList (.member (.ident "Town") "value")]⟩ := by
  cbv

/-- A container whose default tab is bound to the text of an input. -/
theorem selected_after_empty_bound :
    let first : Json := .obj [("index", .int 0), ("label", .str "A"), ("widgetId", .str "wa")]
    let second : Json := .obj [("index", .int 1), ("label", .str "B"), ("widgetId", .str "wb")]
    let town : Instance := ⟨⟨2⟩, "Town", .input, none, [("defaultText", .str "B")]⟩
    let w : Instance := ⟨⟨1⟩, "Tabs", .tabs, some 2,
      [("defaultTab", .str "\x7b\x7b Town.value \x7d\x7d"),
        ("tabsObj", .obj [("a", first), ("b", second)])]⟩
    let page := (Operation.mount w).after ((empty {} true (.counting [])).after [.mount town])
    ((Operation.mount w).Starts w.id ∧ page.widget? w.id = some w ∧ w.kind = .tabs) ∧
      page.HasDefaultTab w "B" "wb" ∧ (page.freshOf w).HasDefaultTab w "B" "wb" ∧
      runOn (read w.id "selectedTabWidgetId") page = (.ok (.str "wb"), page) := by
  intro first second town w page
  have hw : page.widget? w.id = some w := rfl
  have hdefault (p : Page) (hsorted : p.contents.Sorted) (htown : p.widget? town.id = some town)
      (hname : p.IsNameOf town.name town.id)
      (htext : (bindingThis town.properties (p.snapshot town.id)).member "text" = .str "B") :
      p.HasDefaultTab w "B" "wb" := by
    have hseen := eval_access hsorted htown hname (by decide)
      (show "value" ∈ town.kind.derivedKeys by decide) w
    have hvalue : (p.scopeOf w).value "\x7b\x7b Town.value \x7d\x7d" = .str "B" := by
      rw [Scope.value_of_binding _ ofString_town, hseen]
      exact htext
    refine ⟨⟨_, rfl, hvalue⟩, by decide, .obj [("a", first), ("b", second)], ?_, ?_⟩
    · exact get?_resolvedOf_of_not_isBound _ _ rfl
    · exact ⟨_, second, rfl, rfl, rfl⟩
  have hsorted : page.contents.Sorted :=
    (Operation.mount w).sorted_after (sorted_after (sorted_empty {} true (.counting [])) _)
  have hsorted' : (page.freshOf w).contents.Sorted :=
    hsorted.apply (e := .seeded w w.seed) w.sorted_seed
  have hfresh : (page.freshOf w).HasDefaultTab w "B" "wb" :=
    hdefault _ hsorted' rfl (by decide) rfl
  obtain ⟨selected, -, hread, -, hselected, -⟩ :=
    selected_after_empty {} true (.counting []) [.mount town]
      (show (Operation.mount w).Starts w.id from rfl) hw rfl
  obtain rfl := (hselected "B" "wb" hfresh).2 (Or.inr rfl)
  exact ⟨⟨rfl, hw, rfl⟩, hdefault page hsorted rfl (by decide) rfl, hfresh, hread⟩

theorem ofString_letter :
    Template.ofString "\x7b\x7b 'B' \x7d\x7d" =
      .ok ⟨[.binding " 'B' ".toList (.literal (.str "B"))]⟩ := by
  cbv

theorem ofString_saved :
    Template.ofString "\x7b\x7b this.saved \x7d\x7d" =
      .ok ⟨[.binding " this.saved ".toList (.member (.ident "this") "saved")]⟩ := by
  cbv

/-- A container whose default tab and tabs are both bound. The label is that of the second tab, and
the container starts on the first one. -/
theorem selected_ne_default :
    let first : Json := .obj [("index", .int 0), ("label", .str "A"), ("widgetId", .str "wa")]
    let second : Json := .obj [("index", .int 1), ("label", .str "B"), ("widgetId", .str "wb")]
    let w : Instance := ⟨⟨1⟩, "Tabs", .tabs, some 2,
      [("defaultTab", .str "\x7b\x7b 'B' \x7d\x7d"), ("saved", .obj [("a", first), ("b", second)]),
        ("tabsObj", .str "\x7b\x7b this.saved \x7d\x7d")]⟩
    let page := (Operation.mount w).after (empty {} true (.counting []))
    (Operation.mount w).Starts w.id ∧ page.widget? w.id = some w ∧ w.kind = .tabs ∧
      page.HasDefaultTab w "B" "wb" ∧
      (runOn (read w.id "selectedTabWidgetId") page).1 = .ok (.str "wa") := by
  intro first second w page
  have hpage : page = ((empty {} true (.counting [])).loadedOf w).2.seeded w := rfl
  have hlabel (scope : Scope) : scope.value "\x7b\x7b 'B' \x7d\x7d" = .str "B" := by
    rw [scope.value_of_binding ofString_letter]
    rfl
  have hsaved (p : Page) (h : "saved" ∉ (p.snapshot w.id).keys) :
      (p.resolvedOf w).1.get? "tabsObj" = some (.obj [("a", first), ("b", second)]) := by
    have hmember : (p.scopeOf w).this.member "saved" = .obj [("a", first), ("b", second)] :=
      congrArg Json.ofOption (Table.get?_overlay_of_not_mem w.properties (p.snapshot w.id) h)
    have hvalue : (p.scopeOf w).value "\x7b\x7b this.saved \x7d\x7d" =
        .obj [("a", first), ("b", second)] := by
      rw [Scope.value_of_binding _ ofString_saved, Expr.eval, Expr.eval]
      exact hmember
    have hvalidated := (isResolution_resolvedOf p w).ruled "tabsObj" _ _ _ rfl rfl rfl rfl rfl
    rw [hvalue] at hvalidated
    exact hvalidated
  have hdefault (p : Page) : (p.resolvedOf w).1.get? "defaultTab" = some (.str "") := by
    have hlost : (Json.str "\x7b\x7b 'B' \x7d\x7d").isBinding = true ∧
        "B" ∉ tabLabels w.properties := ⟨rfl, by decide⟩
    rw [p.get?_resolvedOf_defaultTab (w := w) rfl rfl (hlabel (p.scopeOf w)), if_pos hlost]
  have hread : page.states.read w.id "selectedTabWidgetId" = .str "wa" := by
    rw [hpage, read_seeded_of_tabs _ rfl, Tabs.startOf_eq_iff]
    show Tabs.initial? (.ofOption (Table.get? (resolvedOf _ w).1 "tabsObj"))
      ((Table.get? (resolvedOf _ w).1 "defaultTab").bind Json.string?) = some "wa"
    rw [hsaved _ (by decide), hdefault]
    rfl
  refine ⟨rfl, rfl, rfl, ⟨⟨_, rfl, hlabel _⟩, by decide, _, hsaved page ?_, ?_⟩, ?_⟩
  · rw [hpage, mem_keys_snapshot_seeded]
    decide
  · exact ⟨_, second, rfl, rfl, rfl⟩
  · rw [runOn_read]
    exact congrArg Except.ok hread

end Page

end Widgetry
