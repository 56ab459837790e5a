import Widgetry.Proofs.Page.Interaction

/-!
# Runs

An operation is one call with all its arguments. What a page is about, its widgets and their
meta-states, changes by effects: a widget is mounted, seeded or unmounted, or a value is written.
The effects of an operation are read off its outcome. An operation that fails has none, an
interaction has only writes under keys of its own, and what only looks or executes has none. Nothing
beyond these effects happens to the contents of a page, in one operation and so in a whole run.
-/

namespace Widgetry.Page

/-- What can be done with a page. -/
inductive Operation where
  | mount (saved : Instance)
  | unmount (id : WidgetId)
  | reset (id : WidgetId)
  | resolve (id : WidgetId)
  | derive (id : WidgetId)
  | update (id : WidgetId) (key : String) (v : Json) (trigger : Option Trigger)
  | execute (id : WidgetId) (trigger : Trigger)
  | changeText (id : WidgetId) (text : String)
  | changeFocus (id : WidgetId) (focused : Bool)
  | canSubmit (id : WidgetId)
  | submit (id : WidgetId)
  | finishSubmit (id : WidgetId) (success : Bool)
  | receiveMessage (id : WidgetId) (origin : String) (data : Json)
  | changeUrl (id : WidgetId) (url : String)
  | selectTab (id : WidgetId) (widgetId : String)
  /-- What could run actions comes or goes. -/
  | surround (canRun : Bool)

/-- The page after an operation, whether it succeeds or fails. -/
def Operation.after (page : Page) : Operation → Page
  | mount saved => ((Page.mount saved).run page).2
  | unmount id => ((Page.unmount id).run page).2
  | reset id => (runOn (Page.reset id) page).2
  | resolve id => (runOn (resolved id) page).2
  | derive id => (runOn (derived id) page).2
  | update id key v trigger => (runOn (Page.update id key v trigger) page).2
  | execute id trigger => (runOn (Page.execute id trigger) page).2
  | changeText id text => (runOn (Page.changeText id text) page).2
  | changeFocus id focused => (runOn (Page.changeFocus id focused) page).2
  | canSubmit id => (runOn (Page.canSubmit id) page).2
  | submit id => (runOn (Page.submit id) page).2
  | finishSubmit id success => (runOn (Page.finishSubmit id success) page).2
  | receiveMessage id origin data => (runOn (Page.receiveMessage id origin data) page).2
  | changeUrl id url => (runOn (Page.changeUrl id url) page).2
  | selectTab id widgetId => (runOn (Page.selectTab id widgetId) page).2
  | surround canRun => { page with canRun }

/-- The page after operations, one after the other. -/
def after (page : Page) (ops : List Operation) : Page :=
  ops.foldl Operation.after page

/-! ## Effects -/

/-- The mounted widgets and their meta-states. -/
structure Contents where
  widgets : Table WidgetId Instance
  states : MetaStore

/-- What a page is about. -/
def contents (page : Page) : Contents :=
  ⟨page.widgets, page.states⟩

/-- A change of the contents of a page. -/
inductive Effect where
  /-- A widget has been mounted, and seeded with values. -/
  | mounted (w : Instance) (values : Fields)
  /-- A mounted widget has been seeded again. -/
  | seeded (w : Instance) (values : Fields)
  | unmounted (id : WidgetId)
  /-- A value has been written under a key of a widget. -/
  | wrote (id : WidgetId) (key : String) (v : Json)

/-- The contents after an effect. -/
def Effect.apply (c : Contents) : Effect → Contents
  | mounted w values =>
    ⟨c.widgets.insert w.id w, c.states.insert w.id ⟨w.kind.behavior.metaDefaults, values⟩⟩
  | seeded w values =>
    { c with states := c.states.insert w.id ⟨w.kind.behavior.metaDefaults, values⟩ }
  | unmounted id => ⟨c.widgets.erase id, c.states.erase id⟩
  | wrote id key v => { c with states := c.states.write id key v }

/-- Whether an attempt succeeds. -/
def succeeds {α : Type} (x : Attempt α) (page : Page) : Bool :=
  (runOn x page).1.isOk

/-- Whether an attempt succeeds and makes the update that it may make. -/
def updates (x : Attempt (Option Updated)) (page : Page) : Bool :=
  match (runOn x page).1 with
  | .ok updated => updated.isSome
  | .error _ => false

/-- The effects of an operation, first to last. -/
def Operation.effects (page : Page) : Operation → List Effect
  | mount saved =>
    let (w, page') := page.loadedOf saved
    [.mounted w (page'.seedingOf w).1]
  | unmount id => [.unmounted id]
  | reset id =>
    match page.widget? id with
    | some w => [.seeded w (page.seedingOf w).1]
    | none => []
  | update id key v trigger =>
    if succeeds (Page.update id key v trigger) page then [.wrote id key v] else []
  | changeText id text =>
    if succeeds (Page.changeText id text) page then
      .wrote id "text" text ::
        if (page.states.read id "isDirty").truthy then [] else [.wrote id "isDirty" true]
    else []
  | changeFocus id focused =>
    if succeeds (Page.changeFocus id focused) page then [.wrote id "isFocused" focused] else []
  | finishSubmit id success =>
    if updates (Page.finishSubmit id success) page then [.wrote id "text" ""] else []
  | receiveMessage id origin data =>
    if updates (Page.receiveMessage id origin data) page then [.wrote id "message" data] else []
  | selectTab id widgetId =>
    if succeeds (Page.selectTab id widgetId) page then [.wrote id "selectedTabWidgetId" widgetId]
    else []
  | resolve _ | derive _ | execute _ _ | canSubmit _ | submit _ | changeUrl _ _ | surround _ => []

/-- The effects of operations, first to last. -/
def effects (page : Page) : List Operation → List Effect
  | [] => []
  | op :: ops => op.effects page ++ effects (op.after page) ops

/-! ## Operations by their effects -/

theorem contents_execute (page : Page) (id : WidgetId) (trigger : Trigger) :
    (runOn (execute id trigger) page).2.contents = page.contents := by
  rw [runOn_execute]
  cases page.widget? id <;> rfl

theorem contents_canSubmit (page : Page) (id : WidgetId) :
    (runOn (canSubmit id) page).2.contents = page.contents := by
  rw [runOn_canSubmit]
  cases page.ofKind .input id with
  | error e => rfl
  | ok w =>
      dsimp only
      split <;> rfl

theorem contents_submit (page : Page) (id : WidgetId) :
    (runOn (submit id) page).2.contents = page.contents := by
  have hcan := contents_canSubmit page id
  rw [runOn_submit]
  rcases h : runOn (canSubmit id) page with ⟨_ | _ | _, page'⟩
  all_goals rw [h] at hcan
  · exact hcan
  · exact hcan
  · rw [← hcan]
    exact contents_execute page' id _

theorem contents_changeUrl (page : Page) (id : WidgetId) (url : String) :
    (runOn (changeUrl id url) page).2.contents = page.contents := by
  rw [runOn_changeUrl]
  cases page.ofKind .iframe id with
  | error e => rfl
  | ok w =>
      dsimp only
      split
      next => rfl
      next => exact contents_execute page id _

/-- An update that may be made either is, or leaves the contents as they are. -/
theorem contents_updateWhen (page : Page) (kind : WidgetKind) (id : WidgetId)
    (accept : Fields → Bool) (key : String) (v : Json) (trigger : Trigger) :
    let x := updateWhen kind id accept key v trigger
    (runOn x page).2.contents =
      (if updates x page then [Effect.wrote id key v] else []).foldl Effect.apply
        page.contents := by
  dsimp only
  rw [updates, runOn_updateWhen]
  cases page.ofKind kind id with
  | error e => rfl
  | ok w =>
      dsimp only
      split
      next => cases page.place id key <;> rfl
      next => rfl

/-- An operation changes the contents by its effects and by nothing else. -/
theorem Operation.contents_after (op : Operation) (page : Page) :
    (op.after page).contents = (op.effects page).foldl Effect.apply page.contents := by
  cases op with
  | mount saved =>
      rw [after, run_mount]
      rfl
  | unmount id =>
      rw [after, run_unmount]
      rfl
  | reset id =>
      rw [after, runOn_reset, effects]
      cases page.widget? id <;> rfl
  | resolve id =>
      rw [after, runOn_resolved]
      cases page.widget? id <;> rfl
  | derive id =>
      rw [after, runOn_derived]
      cases page.widget? id <;> rfl
  | update id key v trigger =>
      rw [after, effects, succeeds, runOn_update]
      cases page.place id key <;> rfl
  | execute id trigger => exact contents_execute page id trigger
  | changeText id text =>
      rw [after, effects, succeeds, runOn_changeText]
      cases page.placeOfKind .input id "text" with
      | error e => rfl
      | ok found =>
          dsimp only
          rw [edited]
          cases (page.states.read id "isDirty").truthy <;> rfl
  | changeFocus id focused =>
      rw [after, effects, succeeds, runOn_changeFocus]
      cases page.placeOfKind .input id "isFocused" <;> rfl
  | canSubmit id => exact contents_canSubmit page id
  | submit id => exact contents_submit page id
  | finishSubmit id success =>
      rw [after, effects, finishSubmit_eq]
      exact contents_updateWhen page _ id _ _ _ _
  | receiveMessage id origin data =>
      rw [after, effects, receiveMessage_eq]
      exact contents_updateWhen page _ id _ _ _ _
  | changeUrl id url => exact contents_changeUrl page id url
  | selectTab id widgetId =>
      rw [after, effects, succeeds, runOn_selectTab]
      cases page.placeOfKind .tabs id "selectedTabWidgetId" <;> rfl
  | surround canRun => rfl

/-- A run changes the contents by its effects and by nothing else. -/
theorem contents_after (page : Page) (ops : List Operation) :
    (page.after ops).contents = (page.effects ops).foldl Effect.apply page.contents := by
  induction ops generalizing page with
  | nil => rfl
  | cons op ops ih =>
      have hstep := op.contents_after page
      have hrun := ih (op.after page)
      rw [after, List.foldl_cons, ← after, hrun, effects, List.foldl_append, hstep]

end Widgetry.Page
