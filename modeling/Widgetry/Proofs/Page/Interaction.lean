import Widgetry.Page.Interaction
import Widgetry.Proofs.Page.Update

/-!
# What interactions come to

Every interaction looks for a widget of its kind first. Those that write come to one update under a
key of their own, and the first edit of an input to one more write. Those that only look or execute
leave the widgets and their meta-state as they are.
-/

namespace Widgetry.Page

/-- The place for a key of a mounted widget of a kind. -/
def placeOfKind (page : Page) (kind : WidgetKind) (id : WidgetId) (key : String) :
    Except PageError (Instance × MetaState) :=
  match page.ofKind kind id with
  | .ok _ => page.place id key
  | .error e => .error e

theorem placeOfKind_eq_ok_iff (page : Page) (kind : WidgetKind) (id : WidgetId) (key : String)
    (w : Instance) (s : MetaState) :
    page.placeOfKind kind id key = .ok (w, s) ↔
      page.widget? id = some w ∧ w.kind = kind ∧ (KeyCategory.of kind key).isWritable = true ∧
        page.states.get? id = some s := by
  unfold placeOfKind
  cases h : page.ofKind kind id with
  | error e =>
      have hne : ¬page.ofKind kind id = .ok w := by simp [h]
      rw [ofKind_eq_ok_iff] at hne
      simp only [reduceCtorEq, false_iff]
      exact fun hall => hne ⟨hall.1, hall.2.1⟩
  | ok w' =>
      obtain ⟨hw', hkind'⟩ := (ofKind_eq_ok_iff page kind id w').1 h
      rw [place_eq_ok_iff, hw', Option.some.injEq]
      constructor
      · rintro ⟨rfl, hkey, hs⟩
        exact ⟨rfl, hkind', hkind' ▸ hkey, hs⟩
      · rintro ⟨rfl, rfl, hkey, hs⟩
        exact ⟨rfl, hkey, hs⟩

theorem runOn_updateOfKind (page : Page) (kind : WidgetKind) (id : WidgetId) (key : String)
    (v : Json) (trigger : Option Trigger) :
    runOn (do let _ ← widgetOfKind kind id; update id key v trigger) page =
      match page.placeOfKind kind id key with
      | .ok (w, s) =>
        (.ok ⟨s.held key, (page.updateRequest? id w key v trigger).isSome⟩,
          page.updated id w key v trigger)
      | .error e => (.error e, page) := by
  rw [runOn_widgetOfKind_bind, placeOfKind]
  cases page.ofKind kind id with
  | error e => rfl
  | ok w => exact runOn_update page id key v trigger

/-! ## Inputs -/

/-- The page after the text of an input has been edited. -/
def edited (page : Page) (id : WidgetId) (w : Instance) (text : String) : Page :=
  if (page.states.read id "isDirty").truthy then page.updated id w "text" text textChange
  else (page.updated id w "text" text textChange).written id "isDirty" true

/-- What follows an edit: the input is marked as dirty if it is not yet. -/
theorem runOn_markDirty (page : Page) {id : WidgetId} {w : Instance} {s : MetaState}
    (h : page.place id "isDirty" = .ok (w, s)) (outcome : Updated) :
    runOn
        (do
          if !(← read id "isDirty").truthy then
            let _ ← update id "isDirty" (.bool true) none
          return outcome)
        page =
      (.ok outcome,
        if (page.states.read id "isDirty").truthy then page
        else page.written id "isDirty" true) := by
  obtain ⟨hw, -⟩ := (place_eq_ok_iff page id "isDirty" w s).1 h
  have hread := runOn_read page id "isDirty"
  rw [hw] at hread
  refine (runOn_bind_of_ok page _ hread).trans ?_
  dsimp only
  cases (page.states.read id "isDirty").truthy with
  | true => rfl
  | false =>
      have hupdate := runOn_update page id "isDirty" (.bool true) none
      rw [h] at hupdate
      refine (runOn_bind_of_ok page _ hupdate).trans ?_
      rw [updated_none]
      rfl

theorem runOn_changeText (page : Page) (id : WidgetId) (text : String) :
    runOn (changeText id text) page = match page.placeOfKind .input id "text" with
      | .ok (w, s) =>
        (.ok ⟨s.held "text", (page.updateRequest? id w "text" text textChange).isSome⟩,
          page.edited id w text)
      | .error e => (.error e, page) := by
  have hchange : changeText id text =
      (do let _ ← widgetOfKind .input id; update id "text" (.str text) (some textChange)) >>=
        fun updated => do
          if !(← read id "isDirty").truthy then
            let _ ← update id "isDirty" (.bool true) none
          return updated := by
    simp [changeText]
  have hupdate := runOn_updateOfKind page .input id "text" (.str text) textChange
  rw [hchange]
  cases h : page.placeOfKind .input id "text" with
  | error e =>
      rw [h] at hupdate
      exact runOn_bind_of_error page _ hupdate
  | ok found =>
      obtain ⟨w, s⟩ := found
      obtain ⟨hw, hkind, -, hs⟩ := (placeOfKind_eq_ok_iff page .input id "text" w s).1 h
      rw [h] at hupdate
      refine (runOn_bind_of_ok page _ hupdate).trans ?_
      have hread : (page.updated id w "text" text textChange).states.read id "isDirty" =
          page.states.read id "isDirty" := read_updated_of_ne hs w (by decide) _ _
      have hplace := place_updated
        ((place_eq_ok_iff page id "isDirty" w s).2 ⟨hw, by rw [hkind]; decide, hs⟩) w "text" text
        textChange
      refine (runOn_markDirty _ hplace _).trans ?_
      rw [hread]
      rfl

theorem runOn_changeFocus (page : Page) (id : WidgetId) (focused : Bool) :
    runOn (changeFocus id focused) page = match page.placeOfKind .input id "isFocused" with
      | .ok (w, _) => (.ok (), page.updated id w "isFocused" focused none)
      | .error e => (.error e, page) := by
  have hchange : changeFocus id focused =
      (do let _ ← widgetOfKind .input id; update id "isFocused" (.bool focused) none) >>=
        fun _ => pure () := by
    simp [changeFocus]
  rw [hchange, runOn_bind, runOn_updateOfKind]
  cases page.placeOfKind .input id "isFocused" <;> rfl

theorem runOn_canSubmit (page : Page) (id : WidgetId) :
    runOn (canSubmit id) page = match page.ofKind .input id with
      | .ok w =>
        if (actionOf? w "onSubmit").isNone then (.ok false, page)
        else
          (.ok (((page.derivedOf w).1.get? "isValid").any fun v => v.same (.bool true)),
            (page.derivedOf w).2)
      | .error e => (.error e, page) := by
  rw [canSubmit, runOn_widgetOfKind_bind]
  cases h : page.ofKind .input id with
  | error e => rfl
  | ok w =>
      obtain ⟨hw, -⟩ := (ofKind_eq_ok_iff page .input id w).1 h
      have hderived := runOn_derived page id
      rw [hw] at hderived
      dsimp only
      split
      next => rfl
      next => exact runOn_bind_of_ok page _ hderived

theorem runOn_submit (page : Page) (id : WidgetId) :
    runOn (submit id) page = match runOn (canSubmit id) page with
      | (.ok true, page') => runOn (execute id (.on "onSubmit" .submit)) page'
      | (.ok false, page') => (.ok false, page')
      | (.error e, page') => (.error e, page') := by
  rw [submit, runOn_bind]
  rcases runOn (canSubmit id) page with ⟨_ | _ | _, _⟩ <;> rfl

/-! ## Updates that depend on resolved properties -/

/-- An update that is made only if the resolved properties of the widget say so. -/
def updateWhen (kind : WidgetKind) (id : WidgetId) (accept : Fields → Bool) (key : String)
    (v : Json) (trigger : Trigger) : Attempt (Option Updated) := do
  let _ ← widgetOfKind kind id
  if accept (← resolved id) then return some (← update id key v (some trigger)) else return none

theorem finishSubmit_eq (id : WidgetId) (success : Bool) :
    finishSubmit id success =
      updateWhen .input id
        (fun properties => success && (properties.get? "resetOnSubmit").any Json.truthy)
        "text" (.str "") textChange := rfl

theorem receiveMessage_eq (id : WidgetId) (origin : String) (data : Json) :
    receiveMessage id origin data =
      updateWhen .iframe id
        (fun properties =>
          Text.occursIn origin.toList
            (((properties.get? "source").bind Json.string?).getD "").toList)
        "message" data (.on "onMessageReceived" .iframeMessageReceived) := by
  simp [receiveMessage, updateWhen, source]

theorem runOn_updateWhen (page : Page) (kind : WidgetKind) (id : WidgetId)
    (accept : Fields → Bool) (key : String) (v : Json) (trigger : Trigger) :
    runOn (updateWhen kind id accept key v trigger) page = match page.ofKind kind id with
      | .ok w =>
        let page' := (page.resolvedOf w).2
        if accept (page.resolvedOf w).1 then
          match page.place id key with
          | .ok (w, s) =>
            (.ok (some ⟨s.held key, (page'.updateRequest? id w key v trigger).isSome⟩),
              page'.updated id w key v trigger)
          | .error e => (.error e, page')
        else (.ok none, page')
      | .error e => (.error e, page) := by
  rw [updateWhen, runOn_widgetOfKind_bind]
  cases h : page.ofKind kind id with
  | error e => rfl
  | ok w =>
      obtain ⟨hw, -⟩ := (ofKind_eq_ok_iff page kind id w).1 h
      have hresolved := runOn_resolved page id
      rw [hw] at hresolved
      refine (runOn_bind_of_ok page _ hresolved).trans ?_
      dsimp only
      split
      next =>
        -- drawing keys for the properties has not moved the place
        have hplace : (page.resolvedOf w).2.place id key = page.place id key := rfl
        rw [runOn_bind, runOn_update, hplace]
        cases page.place id key <;> rfl
      next => rfl

/-! ## Embedded pages and tab containers -/

theorem runOn_changeUrl (page : Page) (id : WidgetId) (url : String) :
    runOn (changeUrl id url) page = match page.ofKind .iframe id with
      | .ok _ =>
        if url = "" then (.ok false, page)
        else
          let event : TriggerEvent := ⟨.iframeUrlChanged, some (.str url)⟩
          runOn (execute id ⟨"onURLChanged", event⟩) page
      | .error e => (.error e, page) := by
  rw [changeUrl, runOn_widgetOfKind_bind]
  cases page.ofKind .iframe id with
  | error e => rfl
  | ok w =>
      dsimp only
      split <;> rfl

theorem runOn_selectTab (page : Page) (id : WidgetId) (widgetId : String) :
    runOn (selectTab id widgetId) page =
      match page.placeOfKind .tabs id "selectedTabWidgetId" with
      | .ok (w, s) =>
        let trigger := Trigger.on "onTabSelected" .tabChange
        (.ok ⟨s.held "selectedTabWidgetId",
            (page.updateRequest? id w "selectedTabWidgetId" widgetId trigger).isSome⟩,
          page.updated id w "selectedTabWidgetId" widgetId trigger)
      | .error e => (.error e, page) :=
  runOn_updateOfKind page .tabs id _ _ _

end Widgetry.Page
