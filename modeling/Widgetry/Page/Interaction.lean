import Widgetry.Page.Update

/-!
# Interactions

What a user does to a widget, or an embedded page sends to it. Every interaction is for one kind of
widget, and changes the page by updates.
-/

namespace Widgetry.Page

/-! ## Inputs -/

/-- The trigger for a change of the text. -/
def textChange : Trigger :=
  .on "onTextChanged" .textChange

/-- The text has been edited. The first edit makes the input dirty. -/
def changeText (id : WidgetId) (text : String) : Attempt Updated := do
  let _ ← widgetOfKind .input id
  let updated ← update id "text" (.str text) (some textChange)
  if !(← read id "isDirty").truthy then
    let _ ← update id "isDirty" (.bool true) none
  return updated

/-- The input has got or lost the focus. -/
def changeFocus (id : WidgetId) (focused : Bool) : Attempt Unit := do
  let _ ← widgetOfKind .input id
  let _ ← update id "isFocused" (.bool focused) none

/-- Whether the text can be submitted: there is an action for it, and the text is valid. -/
def canSubmit (id : WidgetId) : Attempt Bool := do
  let w ← widgetOfKind .input id
  if (actionOf? w "onSubmit").isNone then return false
  return ((← derived id).get? "isValid").any fun v => v.same (.bool true)

/-- Submits the text if it can be submitted. -/
def submit (id : WidgetId) : Attempt Bool := do
  if ← canSubmit id then execute id (.on "onSubmit" .submit) else return false

/-- The action for submitting has come to an end. If it succeeded, and the input is to be reset, the
text is cleared. -/
def finishSubmit (id : WidgetId) (success : Bool) : Attempt (Option Updated) := do
  let _ ← widgetOfKind .input id
  let reset := ((← resolved id).get? "resetOnSubmit").any Json.truthy
  if success && reset then return some (← update id "text" (.str "") (some textChange))
  else return none

/-! ## Embedded pages -/

/-- The address of the page that a widget embeds. -/
def source (id : WidgetId) : Attempt String := do
  return (((← resolved id).get? "source").bind Json.string?).getD ""

/-- A message has arrived. It is kept if the address of the embedded page contains its origin. -/
def receiveMessage (id : WidgetId) (origin : String) (data : Json) :
    Attempt (Option Updated) := do
  let _ ← widgetOfKind .iframe id
  if Text.occursIn origin.toList (← source id).toList then
    let trigger := Trigger.on "onMessageReceived" .iframeMessageReceived
    return some (← update id "message" data (some trigger))
  else return none

/-- The embedded page has moved to another address. -/
def changeUrl (id : WidgetId) (url : String) : Attempt Bool := do
  let _ ← widgetOfKind .iframe id
  if url = "" then return false
  let event : TriggerEvent := ⟨.iframeUrlChanged, some (.str url)⟩
  execute id ⟨"onURLChanged", event⟩

/-! ## Tab containers -/

/-- A tab has been selected. -/
def selectTab (id : WidgetId) (widgetId : String) : Attempt Updated := do
  let _ ← widgetOfKind .tabs id
  update id "selectedTabWidgetId" (.str widgetId) (some (.on "onTabSelected" .tabChange))

end Widgetry.Page
