import Widgetry.Proofs.Expr.Coincidence
import Widgetry.Proofs.Page.Pointwise

/-!
# Independence of widgets

A widget sees another one only where one of its bindings looks up the name of the other. An
operation on a widget changes what a page holds under its id, and nothing else. So whatever is done
with a widget, those that do not mention its name keep their resolved properties, their derived
properties and their meta-state.
-/

namespace Widgetry

/-- Whether a binding of a widget looks up a name. -/
def Instance.Mentions (w : Instance) (name : String) : Prop :=
  ∃ property source, (property, .str source) ∈ w.properties ∧ isBinding source = true ∧
    name ∈ namesIn source

/-- Whether resolving the properties of a widget may draw keys: it has an old list of tabs that is
bound. -/
def Instance.MayDraw (w : Instance) : Prop :=
  w.kind = .legacyTabs ∧ ∃ v, ("tabs", v) ∈ w.properties ∧ v.isBinding = true

namespace Page

/-! ## What an operation leaves alone -/

/-- The widget that an operation is on. Mounting brings a widget, and is on none. -/
def Operation.target? : Operation → Option WidgetId
  | mount _ | surround _ => none
  | unmount id | reset id | resolve id | derive id | update id _ _ _ | execute id _
  | changeText id _ | changeFocus id _ | canSubmit id | submit id | finishSubmit id _
  | receiveMessage id _ _ | changeUrl id _ | selectTab id _ => some id

/-- Whether an effect is on the widget with an id. Mounting is on none. -/
def Effect.IsOn (id : WidgetId) : Effect → Prop
  | mounted _ _ => False
  | seeded w _ => w.id = id
  | unmounted id' => id' = id
  | wrote id' _ _ => id' = id

/-- The contents agree in everything but the widget with an id, which may be gone. -/
structure Contents.AgreeBut (id : WidgetId) (c c' : Contents) : Prop where
  widgets : c'.widgets.erase id = c.widgets.erase id
  widget : ∀ w, c'.widgets.get? id = some w → c.widgets.get? id = some w
  states : ∀ id', id' ≠ id → c'.states.get? id' = c.states.get? id'

namespace Contents.AgreeBut

variable {id : WidgetId} {c c' c'' : Contents}

theorem refl (id : WidgetId) (c : Contents) : AgreeBut id c c :=
  ⟨rfl, fun _ hw => hw, fun _ _ => rfl⟩

theorem trans (h : AgreeBut id c c') (h' : AgreeBut id c' c'') : AgreeBut id c c'' where
  widgets := h'.widgets.trans h.widgets
  widget := fun w hw => h.widget w (h'.widget w hw)
  states := fun id' hne => (h'.states id' hne).trans (h.states id' hne)

theorem apply {e : Effect} (he : e.IsOn id) (c : Contents) : AgreeBut id c (e.apply c) := by
  cases e with
  | mounted w values => exact he.elim
  | seeded w values =>
      obtain rfl := he
      exact ⟨rfl, fun _ hw => hw, fun _ hne => Table.get?_insert_of_ne _ hne _⟩
  | unmounted id' =>
      obtain rfl := he
      refine ⟨by simp [Effect.apply, Table.erase], ?_, fun _ hne => Table.get?_erase_of_ne _ hne⟩
      intro w hw
      rw [Effect.apply, Table.get?_erase_self] at hw
      cases hw
  | wrote id' key v =>
      obtain rfl := he
      refine ⟨rfl, fun _ hw => hw, ?_⟩
      intro other hne
      rw [Effect.apply, MetaStore.get?_write, if_neg hne]

theorem foldl {es : List Effect} (h : ∀ e ∈ es, e.IsOn id) (c : Contents) :
    AgreeBut id c (es.foldl Effect.apply c) := by
  induction es generalizing c with
  | nil => exact refl id c
  | cons e rest ih =>
      have hfirst := apply (h e List.mem_cons_self) c
      exact hfirst.trans (ih (fun e' he' => h e' (List.mem_cons_of_mem e he')) (e.apply c))

theorem widget_of_ne (h : AgreeBut id c c') {id' : WidgetId} (hne : id' ≠ id) :
    c'.widgets.get? id' = c.widgets.get? id' := by
  rw [← Table.get?_erase_of_ne c'.widgets hne, h.widgets, Table.get?_erase_of_ne _ hne]

end Contents.AgreeBut

theorem Operation.isOn_effects {op : Operation} {id : WidgetId} (h : op.target? = some id)
    {page : Page} (hconsistent : page.contents.Consistent) : ∀ e ∈ op.effects page, e.IsOn id := by
  cases op with
  | mount _ | surround _ => cases h
  | unmount id' =>
      obtain rfl := Option.some.inj h
      intro e he
      rw [List.mem_singleton.1 he]
      rfl
  | reset id' =>
      obtain rfl := Option.some.inj h
      rw [effects]
      cases hw : page.widget? id' with
      | none => simp
      | some w =>
          obtain ⟨-, -, hid, -, -⟩ := hconsistent.exists_state hw
          intro e he
          rw [List.mem_singleton.1 he]
          exact hid
  | changeText id' text =>
      obtain rfl := Option.some.inj h
      rw [effects]
      split
      next => split <;> simp [Effect.IsOn]
      next => simp
  | update id' _ _ _ | changeFocus id' _ | finishSubmit id' _ | receiveMessage id' _ _
  | selectTab id' _ =>
      obtain rfl := Option.some.inj h
      rw [effects]
      split <;> simp [Effect.IsOn]
  | resolve _ | derive _ | execute _ _ | canSubmit _ | submit _ | changeUrl _ _ => simp [effects]

theorem Operation.agreeBut_after {op : Operation} {id : WidgetId} (h : op.target? = some id)
    {page : Page} (hconsistent : page.contents.Consistent) :
    page.contents.AgreeBut id (op.after page).contents := by
  rw [op.contents_after page]
  exact .foldl (op.isOn_effects h hconsistent) _

/-! ## What bindings see -/

/-- The snapshot of a widget comes from what is found under its id. -/
theorem snapshot_congr {page page' : Page} {id : WidgetId}
    (h : page'.states.get? id = page.states.get? id) : page'.snapshot id = page.snapshot id := by
  rw [snapshot, snapshot, MetaStore.snapshot?, MetaStore.snapshot?, h]

theorem snapshot_eq_of_agreeBut {page page' : Page} {id id' : WidgetId}
    (h : page.contents.AgreeBut id page'.contents) (hne : id' ≠ id) :
    page'.snapshot id' = page.snapshot id' :=
  snapshot_congr (h.states id' hne)

/-- A widget is not seen under a name that it does not have. -/
theorem get?_statesOf_erase {page : Page} (h : page.contents.Sorted) {id : WidgetId}
    {name : String} (hname : ∀ w, page.widget? id = some w → w.name ≠ name) :
    (page.statesOf (page.widgets.erase id)).get? name =
      (page.statesOf page.widgets).get? name := by
  refine Table.get?_overlay_map_filter [] _ ?_
  rintro ⟨id', w⟩ hmem heq
  have hw : page.widget? id' = some w := (h.widgets.get?_eq_some_iff id' w).2 hmem
  have hne : id' ≠ id := by
    rintro rfl
    exact hname w hw heq
  exact decide_eq_true hne

section Seen

variable {page page' : Page} {id : WidgetId}

theorem statesOf_erase_eq_of_agreeBut (h : page.contents.AgreeBut id page'.contents)
    (hconsistent : page.contents.Consistent) (hsorted : page.contents.Sorted) :
    page'.statesOf (page'.widgets.erase id) = page.statesOf (page.widgets.erase id) := by
  have hwidgets : page'.widgets.erase id = page.widgets.erase id := h.widgets
  have hstates : ∀ entry ∈ page.widgets.erase id, page'.stateOf entry.2 = page.stateOf entry.2 := by
    rintro ⟨id', w⟩ hmem
    obtain ⟨hmem, hne⟩ := List.mem_filter.1 hmem
    have hw : page.widget? id' = some w := (hsorted.widgets.get?_eq_some_iff id' w).2 hmem
    obtain ⟨-, -, rfl, -, -⟩ := hconsistent.exists_state hw
    rw [stateOf, stateOf, snapshot_eq_of_agreeBut h (of_decide_eq_true hne)]
  rw [statesOf, statesOf, hwidgets]
  refine congrArg Table.ofList (List.map_congr_left ?_)
  intro entry hmem
  rw [hstates entry hmem]

/-- Bindings that do not look up the name of a widget see the same, whatever becomes of it. -/
theorem agreeOn_scopeOf (h : page.contents.AgreeBut id page'.contents)
    (hconsistent : page.contents.Consistent) (hsorted : page.contents.Sorted)
    (hsorted' : page'.contents.Sorted) {other : Instance} (hother : page.widget? id = some other)
    {w : Instance} (hne : w.id ≠ id) {names : List String} (hnames : other.name ∉ names) :
    Scope.AgreeOn names (page'.scopeOf w) (page.scopeOf w) where
  functions := rfl
  resolve := by
    intro name hname
    -- neither before nor after is the widget seen under the name
    have hnot (found : Instance) (hfound : page.widget? id = some found) : found.name ≠ name := by
      rintro rfl
      rw [Option.some.inj (hother.symm.trans hfound)] at hnames
      exact hnames hname
    have hnot' (found : Instance) (hfound : page'.widget? id = some found) : found.name ≠ name :=
      hnot found (h.widget found hfound)
    have hstate : (page'.statesOf page'.widgets).get? name =
        (page.statesOf page.widgets).get? name := by
      rw [← get?_statesOf_erase hsorted hnot, ← get?_statesOf_erase hsorted' hnot',
        statesOf_erase_eq_of_agreeBut h hconsistent hsorted]
    rw [scopeOf, scopeOf, snapshot_eq_of_agreeBut h hne]
    unfold Scope.resolve?
    split
    next => rfl
    next => exact hstate

end Seen

/-! ## What a widget works with -/

theorem resolveValue_congr {scope scope' : Scope} (w : Instance) (property : String) {v : Json}
    (h : ∀ source, v = .str source → isBinding source = true →
      scope.value source = scope'.value source) :
    resolveValue scope w property v = resolveValue scope' w property v := by
  cases hbound : v.isBinding with
  | false =>
      rw [resolveValue_of_not_isBinding scope w property hbound,
        resolveValue_of_not_isBinding scope' w property hbound]
  | true =>
      cases v with
      | str source =>
          simp only [resolveValue, h source rfl hbound]
      | null | bool _ | num _ | arr _ | obj _ => rfl

/-- Only an old list of tabs may draw. -/
theorem not_mayDraw {w : Instance} (h : w.kind ≠ .legacyTabs) : ¬w.MayDraw :=
  fun hdraw => h hdraw.1

theorem isIdle_resolve (page : Page) {w : Instance} (h : ¬w.MayDraw) :
    Drawing.IsIdle (page.resolve w) := by
  refine Drawing.IsIdle.mapM ?_
  rintro ⟨property, v⟩ hmem
  refine Drawing.IsIdle.bind ?_ fun value => Drawing.isIdle_pure _
  cases hbound : v.isBinding with
  | false =>
      rw [resolveValue_of_not_isBinding _ w property hbound]
      exact Drawing.isIdle_pure _
  | true =>
      refine isIdle_resolveValue _ w ?_ v
      rintro hkind rfl
      exact h ⟨hkind, v, hmem, hbound⟩

/-- Whatever keys are drawn, they have no part in what is derived. -/
theorem run_derive_fst (page : Page) (w : Instance) (keys keys' : KeySupply) :
    ((page.derive w).run keys).1 = ((page.derive w).run keys').1 := by
  by_cases h : w.MayDraw
  · -- nothing is derived for a list of tabs
    have hnone (keys : KeySupply) : ((page.derive w).run keys).1 = [] := by
      refine (derive_eq w.kind _ _ _).trans ?_
      rw [h.1]
      rfl
    rw [hnone, hnone]
  · exact ((page.isIdle_resolve h).bind fun properties => Drawing.isIdle_pure _).run_fst keys keys'

theorem resolvedOf_snd (page : Page) {w : Instance} (h : ¬w.MayDraw) :
    (page.resolvedOf w).2 = page :=
  congrArg (fun keys => { page with keys }) ((page.isIdle_resolve h).run_snd page.keys)

theorem derivedOf_snd (page : Page) {w : Instance} (h : ¬w.MayDraw) :
    (page.derivedOf w).2 = page := by
  have hidle : Drawing.IsIdle (page.derive w) :=
    (page.isIdle_resolve h).bind fun properties => Drawing.isIdle_pure _
  exact congrArg (fun keys => { page with keys }) (hidle.run_snd page.keys)

/-- Looking at the resolved properties leaves the page as it is if nothing may be drawn for them. -/
theorem runOn_resolved_of_not_mayDraw {page : Page} {id : WidgetId} {w : Instance}
    (hw : page.widget? id = some w) (h : ¬w.MayDraw) :
    runOn (resolved id) page = (.ok (page.resolvedOf w).1, page) := by
  have hresolved := runOn_resolved page id
  rw [hw] at hresolved
  dsimp only at hresolved
  rw [page.resolvedOf_snd h] at hresolved
  exact hresolved

/-- Looking at the derived properties likewise leaves the page as it is. -/
theorem runOn_derived_of_not_mayDraw {page : Page} {id : WidgetId} {w : Instance}
    (hw : page.widget? id = some w) (h : ¬w.MayDraw) :
    runOn (derived id) page = (.ok (page.derivedOf w).1, page) := by
  have hderived := runOn_derived page id
  rw [hw] at hderived
  dsimp only at hderived
  rw [page.derivedOf_snd h] at hderived
  exact hderived

theorem runOn_resolved_fst {page : Page} {id : WidgetId} {w : Instance}
    (h : page.widget? id = some w) :
    (runOn (resolved id) page).1 = .ok ((page.resolve w).run page.keys).1 := by
  rw [runOn_resolved, h]
  rfl

theorem runOn_derived_fst {page : Page} {id : WidgetId} {w : Instance}
    (h : page.widget? id = some w) :
    (runOn (derived id) page).1 = .ok ((page.derive w).run page.keys).1 := by
  rw [runOn_derived, h]
  rfl

section Works

variable {page page' : Page} {id : WidgetId} (h : page.contents.AgreeBut id page'.contents)
  (hconsistent : page.contents.Consistent) (hsorted : page.contents.Sorted)
  (hsorted' : page'.contents.Sorted) {other : Instance} (hother : page.widget? id = some other)
  {w : Instance} (hne : w.id ≠ id) (hnames : ¬w.Mentions other.name)

include h hconsistent hsorted hsorted' hother hne hnames

theorem resolve_eq_of_agreeBut : page'.resolve w = page.resolve w := by
  refine Table.drawEach_congr ?_
  rintro ⟨property, v⟩ hmem
  refine resolveValue_congr w property ?_
  rintro source rfl hsource
  refine Scope.value_congr (agreeOn_scopeOf h hconsistent hsorted hsorted' hother hne ?_)
  intro hname
  exact hnames ⟨property, source, hmem, hsource, hname⟩

theorem derive_eq_of_agreeBut : page'.derive w = page.derive w := by
  have hresolve := resolve_eq_of_agreeBut h hconsistent hsorted hsorted' hother hne hnames
  have hsnapshot := snapshot_eq_of_agreeBut h hne
  unfold derive
  simp only [derive_eq, hresolve, hsnapshot]

end Works

/-- What becomes of a widget while something is done with another one, on a page that is reached
from an empty one. If the first does not mention the name of the second, it keeps its resolved
properties and what is derived from them, and every key of its meta-state reads as before. Keys that
are drawn for an old list of tabs are new each time that it is resolved; so in general the resolved
properties are the same for the same keys. -/
theorem independent_after_empty (config : Config) (canRun : Bool) (keys : KeySupply)
    (ops : List Operation) {a b : WidgetId} (hne : a ≠ b) {w other : Instance}
    (ha : ((empty config canRun keys).after ops).widget? a = some w)
    (hb : ((empty config canRun keys).after ops).widget? b = some other)
    (hnames : ¬w.Mentions other.name) {op : Operation} (hop : op.target? = some b) :
    let page := (empty config canRun keys).after ops
    let page' := op.after page
    (∀ supply, (runOn (resolved a) { page' with keys := supply }).1 =
      (runOn (resolved a) { page with keys := supply }).1) ∧
    (¬w.MayDraw → (runOn (resolved a) page').1 = (runOn (resolved a) page).1) ∧
    (runOn (derived a) page').1 = (runOn (derived a) page).1 ∧
    ∀ key, (runOn (read a key) page').1 = (runOn (read a key) page).1 := by
  intro page page'
  have hconsistent : page.contents.Consistent :=
    consistent_after (consistent_empty config canRun keys) ops
  have hsorted : page.contents.Sorted := sorted_after (sorted_empty config canRun keys) ops
  have hsorted' : page'.contents.Sorted := op.sorted_after hsorted
  have hagree : page.contents.AgreeBut b page'.contents := op.agreeBut_after hop hconsistent
  have ha' : page'.widget? a = some w := (hagree.widget_of_ne hne).trans ha
  have hstate : page'.states.get? a = page.states.get? a := hagree.states a hne
  obtain ⟨-, -, rfl, -, -⟩ := hconsistent.exists_state ha
  have hresolve := resolve_eq_of_agreeBut hagree hconsistent hsorted hsorted' hb hne hnames
  have hderive := derive_eq_of_agreeBut hagree hconsistent hsorted hsorted' hb hne hnames
  refine ⟨?_, ?_, ?_, ?_⟩
  · intro supply
    have hbefore : ({ page with keys := supply } : Page).widget? w.id = some w := ha
    have hafter : ({ page' with keys := supply } : Page).widget? w.id = some w := ha'
    have hsame : ({ page' with keys := supply } : Page).resolve w =
        ({ page with keys := supply } : Page).resolve w := hresolve
    rw [runOn_resolved_fst hafter, runOn_resolved_fst hbefore, hsame]
  · intro hidle
    rw [runOn_resolved_fst ha', runOn_resolved_fst ha, hresolve,
      (page.isIdle_resolve hidle).run_fst page'.keys page.keys]
  · rw [runOn_derived_fst ha', runOn_derived_fst ha, hderive,
      page.run_derive_fst w page'.keys page.keys]
  · intro key
    rw [runOn_read, runOn_read, ha, ha', MetaStore.read, MetaStore.read, hstate]

theorem ofString_isDirty :
    Template.ofString "\x7b\x7b Town.isDirty \x7d\x7d" =
      .ok ⟨[.binding " Town.isDirty ".toList (.member (.ident "Town") "isDirty")]⟩ := by
  cbv

/-- An input that looks at one of two others, while the other of them is edited. -/
theorem independent_after_empty_edit :
    let dirty : Json := .str "\x7b\x7b Town.isDirty \x7d\x7d"
    let w : Instance := ⟨⟨1⟩, "Name", .input, none, [("isDisabled", dirty)]⟩
    let town : Instance := ⟨⟨2⟩, "Town", .input, none, []⟩
    let street : Instance := ⟨⟨3⟩, "Street", .input, none, []⟩
    let page := (empty {} true (.counting [])).after [.mount w, .mount town, .mount street]
    let page' := Operation.after page (.changeText street.id "Long Lane")
    (w.id ≠ street.id ∧ page.widget? w.id = some w ∧ page.widget? street.id = some street ∧
      ¬w.Mentions street.name ∧ ¬w.MayDraw) ∧
    (∀ supply, (runOn (resolved w.id) { page' with keys := supply }).1 =
      (runOn (resolved w.id) { page with keys := supply }).1) ∧
    (runOn (resolved w.id) page').1 = (runOn (resolved w.id) page).1 ∧
    (runOn (derived w.id) page').1 = (runOn (derived w.id) page).1 ∧
    ∀ key, (runOn (read w.id key) page').1 = (runOn (read w.id key) page).1 := by
  intro dirty w town street page page'
  have hne : w.id ≠ street.id := by decide
  have hw : page.widget? w.id = some w := rfl
  have hstreet : page.widget? street.id = some street := rfl
  have hnames : ¬w.Mentions street.name := by
    rintro ⟨property, source, hmem, -, hname⟩
    obtain ⟨-, hsource⟩ := Prod.mk.inj (List.mem_singleton.1 hmem)
    rw [Json.str.inj hsource, namesIn, ofString_isDirty] at hname
    revert hname
    decide
  have hidle : ¬w.MayDraw := by
    rintro ⟨hkind, -⟩
    cases hkind
  obtain ⟨hsupply, hresolved, hrest⟩ :=
    independent_after_empty {} true (.counting []) [.mount w, .mount town, .mount street] hne hw
      hstreet hnames (show (Operation.changeText street.id "Long Lane").target? = some _ from rfl)
  exact ⟨⟨hne, hw, hstreet, hnames, hidle⟩, hsupply, hresolved hidle, hrest⟩

end Page

end Widgetry
