import Widgetry.Proofs.Page.Consistency

/-!
# Failures

An operation that fails leaves the page as it was. What can go wrong is found out by looking at the
widget, before anything is done: on a consistent page a mounted widget has meta-state, so that what
follows a look at the widget or a write cannot fail any more. An update that succeeds changes the
value of its key alone, and says truly what reading the key gave before.
-/

namespace Widgetry.Page

/-- The failure of an attempt, if it fails. -/
def failureOf? {α : Type} (x : Attempt α) (page : Page) : Option PageError :=
  match (runOn x page).1 with
  | .ok _ => none
  | .error e => some e

/-- The failure of an operation, if it can fail and does. -/
def Operation.failure? (page : Page) : Operation → Option PageError
  | mount _ | unmount _ | surround _ => none
  | reset id => failureOf? (Page.reset id) page
  | resolve id => failureOf? (resolved id) page
  | derive id => failureOf? (derived id) page
  | update id key v trigger => failureOf? (Page.update id key v trigger) page
  | execute id trigger => failureOf? (Page.execute id trigger) page
  | changeText id text => failureOf? (Page.changeText id text) page
  | changeFocus id focused => failureOf? (Page.changeFocus id focused) page
  | canSubmit id => failureOf? (Page.canSubmit id) page
  | submit id => failureOf? (Page.submit id) page
  | finishSubmit id success => failureOf? (Page.finishSubmit id success) page
  | receiveMessage id origin data => failureOf? (Page.receiveMessage id origin data) page
  | changeUrl id url => failureOf? (Page.changeUrl id url) page
  | selectTab id widgetId => failureOf? (Page.selectTab id widgetId) page

/-! ## Operations that fail -/

/-- Whether an attempt leaves the page as it is if it fails. -/
def IsAtomic {α : Type} (x : Attempt α) (page : Page) : Prop :=
  match runOn x page with
  | (.ok _, _) => True
  | (.error _, page') => page' = page

theorem IsAtomic.after_of_failureOf? {α : Type} {x : Attempt α} {page : Page}
    (h : IsAtomic x page) {e : PageError} (he : failureOf? x page = some e) :
    (runOn x page).2 = page := by
  rw [failureOf?] at he
  rw [IsAtomic] at h
  rcases hrun : runOn x page with ⟨e' | a, page'⟩
  · rw [hrun] at h
    exact h
  · rw [hrun] at he
    cases he

section Look

variable {α : Type} {x : Attempt α} {page : Page}

/-- What succeeds wherever the widget is mounted. -/
theorem isAtomic_of_widget? {id : WidgetId} {a : Instance → α} {next : Instance → Page}
    (h : runOn x page = match page.widget? id with
      | some w => (.ok (a w), next w)
      | none => (.error (.notMounted id), page)) : IsAtomic x page := by
  rw [IsAtomic, h]
  cases page.widget? id with
  | none => rfl
  | some w => trivial

/-- What succeeds wherever there is a place for its value. -/
theorem isAtomic_of_place {place : Except PageError (Instance × MetaState)}
    {a : Instance → MetaState → α} {next : Instance → MetaState → Page}
    (h : runOn x page = match place with
      | .ok (w, s) => (.ok (a w s), next w s)
      | .error e => (.error e, page)) : IsAtomic x page := by
  rw [IsAtomic, h]
  cases place with
  | error e => rfl
  | ok found => trivial

end Look

theorem isAtomic_canSubmit (page : Page) (id : WidgetId) : IsAtomic (canSubmit id) page := by
  rw [IsAtomic, runOn_canSubmit]
  cases page.ofKind .input id with
  | error e => rfl
  | ok w =>
      by_cases h : (actionOf? w "onSubmit").isNone = true
      · simp only [h, if_true]
      · simp only [h, Bool.false_eq_true, if_false]

theorem isAtomic_submit (page : Page) (id : WidgetId) : IsAtomic (submit id) page := by
  have hcan := isAtomic_canSubmit page id
  have hcontents := contents_canSubmit page id
  have hcases := runOn_canSubmit page id
  rw [IsAtomic] at hcan
  rw [IsAtomic, runOn_submit]
  rcases hrun : runOn (canSubmit id) page with ⟨e | _ | _, page'⟩
  · rw [hrun] at hcan
    exact hcan
  · trivial
  · rw [hrun] at hcontents hcases
    cases hw : page.ofKind .input id with
    | error e =>
        rw [hw] at hcases
        cases hcases
    | ok w =>
        have hwidgets : page'.widgets = page.widgets := congrArg Contents.widgets hcontents
        have hmounted : page'.widget? id = some w := by
          rw [widget?, hwidgets]
          exact ((ofKind_eq_ok_iff page .input id w).1 hw).1
        -- the input is still there when its action is looked up
        dsimp only
        rw [runOn_execute, hmounted]
        trivial

theorem isAtomic_changeUrl (page : Page) (id : WidgetId) (url : String) :
    IsAtomic (changeUrl id url) page := by
  rw [IsAtomic, runOn_changeUrl]
  cases page.ofKind .iframe id with
  | error e => rfl
  | ok w =>
      by_cases h : url = ""
      · simp only [h, if_true]
      · simp only [h, if_false]
        exact isAtomic_of_widget? (runOn_execute page id _)

/-- A key that the kind of a mounted widget allows to be written has a place. -/
theorem exists_place {page : Page} (h : page.contents.Consistent) {kind : WidgetKind}
    {id : WidgetId} {w : Instance} (hw : page.ofKind kind id = .ok w) {key : String}
    (hkey : (KeyCategory.of kind key).isWritable = true) :
    ∃ s, page.place id key = .ok (w, s) := by
  obtain ⟨hmounted, hkind⟩ := (ofKind_eq_ok_iff page kind id w).1 hw
  obtain ⟨s, hs, -⟩ := h.exists_state hmounted
  exact ⟨s, (place_eq_ok_iff page id key w s).2 ⟨hmounted, hkind ▸ hkey, hs⟩⟩

theorem isAtomic_updateWhen {page : Page} (h : page.contents.Consistent) (kind : WidgetKind)
    (id : WidgetId) (accept : Fields → Bool) {key : String}
    (hkey : (KeyCategory.of kind key).isWritable = true) (v : Json) (trigger : Trigger) :
    IsAtomic (updateWhen kind id accept key v trigger) page := by
  rw [IsAtomic, runOn_updateWhen]
  cases hw : page.ofKind kind id with
  | error e => rfl
  | ok w =>
      -- keys have been drawn by now, so that the update must not fail any more
      obtain ⟨s, hplace⟩ := exists_place h hw hkey
      rw [hplace]
      by_cases haccept : accept (page.resolvedOf w).1 = true
      · simp only [haccept, if_true]
      · simp only [haccept, Bool.false_eq_true, if_false]

/-- An operation that fails on a consistent page leaves the page as it is. -/
theorem Operation.after_of_failure? {op : Operation} {page : Page} (h : page.contents.Consistent)
    {e : PageError} (he : op.failure? page = some e) : op.after page = page := by
  cases op with
  | mount _ | unmount _ | surround _ => cases he
  | reset id => exact (isAtomic_of_widget? (runOn_reset page id)).after_of_failureOf? he
  | resolve id => exact (isAtomic_of_widget? (runOn_resolved page id)).after_of_failureOf? he
  | derive id => exact (isAtomic_of_widget? (runOn_derived page id)).after_of_failureOf? he
  | execute id trigger =>
      exact (isAtomic_of_widget? (runOn_execute page id trigger)).after_of_failureOf? he
  | update id key v trigger =>
      exact (isAtomic_of_place (runOn_update page id key v trigger)).after_of_failureOf? he
  | changeText id text =>
      exact (isAtomic_of_place (runOn_changeText page id text)).after_of_failureOf? he
  | changeFocus id focused =>
      exact (isAtomic_of_place (runOn_changeFocus page id focused)).after_of_failureOf? he
  | selectTab id widgetId =>
      exact (isAtomic_of_place (runOn_selectTab page id widgetId)).after_of_failureOf? he
  | canSubmit id => exact (isAtomic_canSubmit page id).after_of_failureOf? he
  | submit id => exact (isAtomic_submit page id).after_of_failureOf? he
  | changeUrl id url => exact (isAtomic_changeUrl page id url).after_of_failureOf? he
  | finishSubmit id success =>
      rw [failure?, finishSubmit_eq] at he
      exact (isAtomic_updateWhen h .input id _ (by decide) _ _).after_of_failureOf? he
  | receiveMessage id origin data =>
      rw [failure?, receiveMessage_eq] at he
      rw [after, receiveMessage_eq]
      exact (isAtomic_updateWhen h .iframe id _ (by decide) _ _).after_of_failureOf? he

/-! ## Updates that succeed -/

/-- What an update that succeeds comes to: the value that reading the key gave before, and a page on
which the key of the widget has the new value and there may be one more request. -/
structure UpdatesTo (page : Page) (id : WidgetId) (key : String) (v : Json)
    (trigger : Option Trigger) (outcome : Updated) (page' : Page) : Prop where
  previous : runOn (read id key) page = (.ok outcome.previous, page)
  reads : ∀ id' key', runOn (read id' key') page' =
    (if id' = id ∧ key' = key then .ok v else (runOn (read id' key') page).1, page')
  changes : ∃ request : Option ActionRequest,
    page' =
      { page with
        states := page.states.write id key v
        requests := page.requests ++ request.toList } ∧
    outcome.dispatched = request.isSome ∧ (trigger = none → request = none)

/-- An update leaves the mounted widgets as they are. -/
theorem UpdatesTo.widget?_eq {page page' : Page} {id : WidgetId} {key : String} {v : Json}
    {trigger : Option Trigger} {outcome : Updated}
    (h : UpdatesTo page id key v trigger outcome page') (id' : WidgetId) :
    page'.widget? id' = page.widget? id' := by
  obtain ⟨request, hpage, -, -⟩ := h.changes
  rw [hpage]
  rfl

theorem updatesTo_of_runOn {page : Page} (h : page.contents.Consistent) {id : WidgetId}
    {key : String} {v : Json} {trigger : Option Trigger} {outcome : Updated} {page' : Page}
    (hrun : runOn (update id key v trigger) page = (.ok outcome, page')) :
    UpdatesTo page id key v trigger outcome page' := by
  rw [runOn_update] at hrun
  cases hplace : page.place id key with
  | error e =>
      rw [hplace] at hrun
      cases hrun
  | ok found =>
      obtain ⟨w, s⟩ := found
      obtain ⟨hw, -, hs⟩ := (place_eq_ok_iff page id key w s).1 hplace
      obtain ⟨s', hs', -, -, hfits⟩ := h.exists_state hw
      obtain rfl : s' = s := Option.some.inj (hs'.symm.trans hs)
      rw [hplace] at hrun
      cases hrun
      refine ⟨?_, ?_, page.updateRequest? id w key v trigger, rfl, rfl, ?_⟩
      · -- a widget holds a value for every key that its kind declares
        rw [runOn_read, hw, MetaStore.read, hs, Option.elim_some, hfits.read_eq_held]
      · intro id' key'
        have hread := MetaStore.read_write page.states hs key v id' key'
        have hmounted : (page.updated id w key v trigger).widget? id' = page.widget? id' := rfl
        have hstates : (page.updated id w key v trigger).states = page.states.write id key v := rfl
        rw [runOn_read, runOn_read, hmounted, hstates, hread]
        by_cases heq : id' = id ∧ key' = key
        · obtain ⟨rfl, rfl⟩ := heq
          rw [hw]
          simp
        · simp only [if_neg heq]
      · rintro rfl
        rfl

/-- An update of a key that the kind of a mounted widget allows to be written succeeds. -/
theorem exists_runOn_update {page : Page} (h : page.contents.Consistent) {kind : WidgetKind}
    {id : WidgetId} {w : Instance} (hw : page.ofKind kind id = .ok w) {key : String}
    (hkey : (KeyCategory.of kind key).isWritable = true) (v : Json) (trigger : Option Trigger) :
    ∃ updated page', runOn (update id key v trigger) page = (.ok updated, page') ∧
      UpdatesTo page id key v trigger updated page' := by
  obtain ⟨s, hplace⟩ := exists_place h hw hkey
  have hupdate := runOn_update page id key v trigger
  rw [hplace] at hupdate
  exact ⟨_, _, hupdate, updatesTo_of_runOn h hupdate⟩

/-- Operations on a page that is reached from an empty one do what they say or nothing at all. One
that fails leaves the whole page as it is. An update that succeeds says what reading its key gave
before, also where that is a declared first value, and changes this one value; besides, it may have
dispatched a request if it has a trigger. -/
theorem atomic_after_empty (config : Config) (canRun : Bool) (keys : KeySupply)
    (ops : List Operation) :
    let page := (empty config canRun keys).after ops
    (∀ op e, Operation.failure? page op = some e → op.after page = page) ∧
    ∀ id key v trigger outcome page',
      runOn (update id key v trigger) page = (.ok outcome, page') →
        UpdatesTo page id key v trigger outcome page' := by
  intro page
  have hconsistent : page.contents.Consistent :=
    consistent_after (consistent_empty config canRun keys) ops
  refine ⟨?_, ?_⟩
  · intro op e he
    exact Operation.after_of_failure? hconsistent he
  · intro id key v trigger outcome page' hrun
    exact updatesTo_of_runOn hconsistent hrun

/-- An input without properties: a message for it fails, and its first edit says that the text had
the declared first value. -/
theorem atomic_after_empty_input :
    let w : Instance := ⟨⟨1⟩, "Name", .input, none, []⟩
    let page := (empty {} true (.counting [])).after [.mount w]
    let message := Operation.receiveMessage w.id "origin" .null
    let edited := page.written w.id "text" (.str "a")
    (Operation.failure? page message = some (.wrongKind .iframe .input) ∧
      message.after page = page) ∧
    (runOn (update w.id "text" (.str "a") none) page = (.ok ⟨.null, false⟩, edited) ∧
      UpdatesTo page w.id "text" (.str "a") none ⟨.null, false⟩ edited) := by
  intro w page message edited
  obtain ⟨hfailure, hupdate⟩ := atomic_after_empty {} true (.counting []) [.mount w]
  exact ⟨⟨rfl, hfailure message _ rfl⟩, ⟨rfl, hupdate _ _ _ _ _ _ rfl⟩⟩

end Widgetry.Page
