import Widgetry.Proofs.Page.Independence

/-!
# Resetting and mounting again

A mounted widget is in its current form, so loading it changes nothing, and mounting it again puts
it where it is. What is left of mounting is what resetting does: the widget is seeded. Its bindings
are resolved after a first seeding, which has replaced the old meta-state. So the new meta-state
comes from the mounted widgets and the meta-states of the others alone, and it is the same each time.
-/

namespace Widgetry

/-! ## Mounting again -/

theorem Instance.load_of_not_isNeeded {w : Instance} (h : Migration.isNeeded w = false) :
    w.load = pure w := by
  have hmigrate : Migration.migrate w = pure w := by
    rw [Migration.migrate, Migration.upgrade_of_not_isNeeded h]
    rfl
  unfold load
  cases w.kind with
  | input | iframe => rfl
  | tabs | legacyTabs => exact hmigrate

/-- Old lists of tabs have no meta-state to begin with. -/
theorem Instance.seed_of_legacyTabs {w : Instance} (h : w.kind = .legacyTabs) : w.seed = [] := by
  rw [seed, h]
  rfl

namespace Page

/-- Mounting a widget that needs no migration puts it in place and seeds it. -/
theorem run_mount_of_not_isNeeded (page : Page) {w : Instance} (h : Migration.isNeeded w = false) :
    (mount w).run page =
      (w.id, ({ page with widgets := page.widgets.insert w.id w } : Page).seeded w) := by
  rw [run_mount, loadedOf, Instance.load_of_not_isNeeded h]
  rfl

theorem run_mount_of_mounted {page : Page} (hconsistent : page.contents.Consistent)
    (hsorted : page.contents.Sorted) {id : WidgetId} {w : Instance}
    (hw : page.widget? id = some w) : (mount w).run page = (id, page.seeded w) := by
  obtain ⟨-, -, rfl, hcurrent, -⟩ := hconsistent.exists_state hw
  have hwidgets : page.widgets.insert w.id w = page.widgets := hsorted.widgets.insert_of_get? hw
  rw [run_mount_of_not_isNeeded page hcurrent, hwidgets]

/-! ## What a widget is seeded with -/

/-- What is resolved comes from the widgets and from the meta-states. -/
theorem resolve_congr (page page' : Page) (hwidgets : page'.widgets = page.widgets)
    (hstates : ∀ id, page'.states.get? id = page.states.get? id) (w : Instance) :
    page'.resolve w = page.resolve w := by
  have hsnapshot (id : WidgetId) : page'.snapshot id = page.snapshot id :=
    snapshot_congr (hstates id)
  have hstate (other : Instance) : page'.stateOf other = page.stateOf other := by
    rw [stateOf, stateOf, hsnapshot]
  have hscope : page'.scopeOf w = page.scopeOf w := by
    simp only [scopeOf, statesOf, hsnapshot, hstate, hwidgets]
  rw [resolve, resolve, hscope]

theorem seedingOf_snd_of_not_mayDraw (page : Page) {w : Instance} (h : ¬w.MayDraw) :
    (page.seedingOf w).2 = page.keys := by
  unfold seedingOf
  split
  next => exact (isIdle_resolve _ h).run_snd page.keys
  next => rfl

section Seeding

variable {page page' : Page} {w : Instance} (hwidgets : page'.widgets = page.widgets)
  (hstates : ∀ id, id ≠ w.id → page'.states.get? id = page.states.get? id)

include hwidgets hstates

/-- The first seeding makes it unimportant what the widget has come to. -/
theorem resolve_seed_congr :
    ({ page' with states := page'.states.seed w } : Page).resolve w =
      ({ page with states := page.states.seed w } : Page).resolve w := by
  have hseeded (id : WidgetId) :
      (page'.states.seed w).get? id = (page.states.seed w).get? id := by
    rw [MetaStore.seed, MetaStore.seed, Table.get?_insert, Table.get?_insert]
    split
    next => rfl
    next hne => exact hstates id hne
  exact resolve_congr { page with states := page.states.seed w }
    { page' with states := page'.states.seed w } hwidgets hseeded w

theorem seedingOf_eq_of_keys (hkeys : page'.keys = page.keys) :
    page'.seedingOf w = page.seedingOf w := by
  have hresolve := resolve_seed_congr hwidgets hstates
  unfold seedingOf resolvedOf
  dsimp only
  rw [hresolve, hkeys]

/-- The keys that may be drawn have no part in the values. -/
theorem seedingOf_fst_eq : (page'.seedingOf w).1 = (page.seedingOf w).1 := by
  by_cases hdraw : w.MayDraw
  · have hnone (page : Page) : (page.seedingOf w).1 = [] := by
      unfold seedingOf
      split <;> exact Instance.seed_of_legacyTabs hdraw.1
    rw [hnone, hnone]
  · have hresolve := resolve_seed_congr hwidgets hstates
    have hsame := (isIdle_resolve { page with states := page.states.seed w } hdraw).run_fst
      page'.keys page.keys
    unfold seedingOf resolvedOf
    dsimp only
    rw [hresolve, hsame]
    split <;> rfl

theorem states_seeded_eq (hsorted : page.states.Sorted) (hsorted' : page'.states.Sorted) :
    (page'.seeded w).states = (page.seeded w).states := by
  have hvalues := seedingOf_fst_eq hwidgets hstates
  unfold seeded
  refine (hsorted'.insert w.id _).ext (hsorted.insert w.id _) ?_
  intro id
  rw [hvalues, Table.get?_insert, Table.get?_insert]
  split
  next => rfl
  next hne => exact hstates id hne

/-- Pages that differ in the meta-state of the widget alone become equal. -/
theorem seeded_eq (hsorted : page.states.Sorted) (hsorted' : page'.states.Sorted)
    (hpage : page' = { page with states := page'.states }) : page'.seeded w = page.seeded w := by
  have hkeys : page'.keys = page.keys := by rw [hpage]
  have hseeding := seedingOf_eq_of_keys hwidgets hstates hkeys
  have hsame := states_seeded_eq hwidgets hstates hsorted hsorted'
  have hrest (page : Page) : page.seeded w =
      { page with states := (page.seeded w).states, keys := (page.seedingOf w).2 } := rfl
  rw [hrest page', hrest page, hseeding, hsame, hpage]

end Seeding

/-! ## The order of the meta-states -/

theorem sorted_states_apply {c : Contents} (h : c.states.Sorted) (e : Effect) :
    (e.apply c).states.Sorted := by
  cases e with
  | mounted w values => exact h.insert w.id _
  | seeded w values => exact h.insert w.id _
  | unmounted id => exact h.erase id
  | wrote id key v =>
      rw [Effect.apply, MetaStore.write]
      cases c.states.get? id with
      | none => exact h
      | some s => exact h.insert id _

theorem sorted_states_after_empty (config : Config) (canRun : Bool) (keys : KeySupply)
    (ops : List Operation) : ((empty config canRun keys).after ops).states.Sorted := by
  have hempty : (empty config canRun keys).contents.states.Sorted := List.Pairwise.nil
  show ((empty config canRun keys).after ops).contents.states.Sorted
  rw [contents_after]
  generalize (empty config canRun keys).contents = c at hempty
  generalize (empty config canRun keys).effects ops = es
  induction es generalizing c with
  | nil => exact hempty
  | cons e rest ih => exact ih (e.apply c) (sorted_states_apply hempty e)

/-! ## Resetting -/

/-- Where a widget is mounted, resetting it comes to the same meta-states on all pages with the same
widgets, if the meta-states of the other widgets are the same. -/
theorem runOn_reset_of_states_eq {page page' : Page} (hsorted : page.states.Sorted)
    (hsorted' : page'.states.Sorted) {w : Instance} (hw : page.widget? w.id = some w)
    (hwidgets : page'.widgets = page.widgets)
    (hstates : ∀ id, id ≠ w.id → page'.states.get? id = page.states.get? id) :
    runOn (reset w.id) page' =
      (.ok (),
        { page' with states := (page.seeded w).states, keys := (page'.seedingOf w).2 }) := by
  have hw' : page'.widget? w.id = some w := (congrArg (Table.get? · w.id) hwidgets).trans hw
  rw [runOn_reset, hw', ← states_seeded_eq hwidgets hstates hsorted hsorted']
  rfl

/-- Resetting a mounted widget, on a page that is reached from an empty one. It does what mounting
the widget again would do: it changes nothing but the meta-state of this widget, and may draw keys.
On any page that is reached with the same widgets, where at most the meta-state of this widget is
another, resetting comes to the same meta-states; so pages that differ in nothing else become equal.
Resetting twice is the same as resetting once, except that an old list of tabs that is bound draws
keys each time, which are found nowhere in its meta-state. -/
theorem reset_after_empty (config : Config) (canRun : Bool) (keys : KeySupply)
    (ops : List Operation) {id : WidgetId} {w : Instance}
    (hw : ((empty config canRun keys).after ops).widget? id = some w) :
    let page := (empty config canRun keys).after ops
    ∃ once, runOn (reset id) page = (.ok (), once) ∧ (mount w).run page = (id, once) ∧
      once = { page with states := once.states, keys := once.keys } ∧
      (∀ id', id' ≠ id → once.states.get? id' = page.states.get? id') ∧
      (∀ config' canRun' keys' ops', let page' := (empty config' canRun' keys').after ops'
        page'.widgets = page.widgets →
        (∀ id', id' ≠ id → page'.states.get? id' = page.states.get? id') →
          (∃ supply, runOn (reset id) page' =
            (.ok (), { page' with states := once.states, keys := supply })) ∧
          (page' = { page with states := page'.states } →
            runOn (reset id) page' = (.ok (), once))) ∧
      (∃ supply, runOn (reset id) once = (.ok (), { once with keys := supply })) ∧
      (¬w.MayDraw → runOn (reset id) once = (.ok (), once)) := by
  intro page
  have hconsistent : page.contents.Consistent :=
    consistent_after (consistent_empty config canRun keys) ops
  have hsorted : page.contents.Sorted := sorted_after (sorted_empty config canRun keys) ops
  have hstates : page.states.Sorted := sorted_states_after_empty config canRun keys ops
  have hmount := run_mount_of_mounted hconsistent hsorted hw
  obtain ⟨-, -, rfl, -, -⟩ := hconsistent.exists_state hw
  have honce := runOn_reset_of_states_eq hstates hstates hw rfl fun _ _ => rfl
  have hothers (id : WidgetId) (hne : id ≠ w.id) :
      (page.seeded w).states.get? id = page.states.get? id := Table.get?_insert_of_ne _ hne _
  have hsorted' : (page.seeded w).states.Sorted := hstates.insert w.id _
  have htwice := runOn_reset_of_states_eq hstates hsorted' hw rfl hothers
  refine ⟨page.seeded w, honce, hmount, rfl, hothers, ?_, ⟨_, htwice⟩, ?_⟩
  · intro config' canRun' keys' ops' page' hwidgets hagree
    have hstates' : page'.states.Sorted := sorted_states_after_empty config' canRun' keys' ops'
    refine ⟨⟨_, runOn_reset_of_states_eq hstates hstates' hw hwidgets hagree⟩, ?_⟩
    intro hpage
    have hw' : page'.widget? w.id = some w := (congrArg (Table.get? · w.id) hwidgets).trans hw
    rw [runOn_reset, hw', ← seeded_eq hwidgets hagree hstates hstates' hpage]
  · intro hidle
    rw [htwice, seedingOf_snd_of_not_mayDraw _ hidle]

/-- An input whose default text is bound to another one, mounted before it and after it. -/
theorem reset_after_empty_order :
    let dirty : Json := .str "\x7b\x7b Town.isDirty \x7d\x7d"
    let w : Instance := ⟨⟨1⟩, "Name", .input, none, [("defaultText", dirty)]⟩
    let town : Instance := ⟨⟨2⟩, "Town", .input, none, []⟩
    let page := (empty {} true (.counting [])).after [.mount w, .mount town]
    let page' := (empty {} true (.counting [])).after [.mount town, .mount w]
    page.widget? w.id = some w ∧
      ∃ once, runOn (reset w.id) page = (.ok (), once) ∧ (mount w).run page = (w.id, once) ∧
        runOn (reset w.id) page' = (.ok (), once) ∧ runOn (reset w.id) once = (.ok (), once) := by
  intro dirty w town page page'
  have hw : page.widget? w.id = some w := rfl
  have hpage : page' = { page with states := page'.states } := by rfl
  have hagree (id : WidgetId) (hne : id ≠ w.id) : page'.states.get? id = page.states.get? id := by
    show ((Table.insert [] town.id _).insert w.id _).get? id =
      ((Table.insert [] w.id _).insert town.id _).get? id
    rw [Table.get?_insert_of_ne _ hne, Table.get?_insert, Table.get?_insert]
    split
    next => rfl
    next => exact (Table.get?_insert_of_ne _ hne _).symm
  obtain ⟨once, honce, hmount, -, -, hsame, -, htwice⟩ :=
    reset_after_empty {} true (.counting []) _ hw
  have hreset := (hsame {} true (.counting []) [.mount town, .mount w] rfl hagree).2 hpage
  exact ⟨hw, once, honce, hmount, hreset, htwice fun hdraw => by cases hdraw.1⟩

end Page

end Widgetry
