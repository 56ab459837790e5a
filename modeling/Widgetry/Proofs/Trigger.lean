import Widgetry.ActionRequest
import Widgetry.Proofs.Instance

/-!
# Triggers and requests that come back

An event is written with its data, whatever the data are, and without the field if there are none.
Where the field is `null`, the event is read as one without data. So events that are written in the
same way are the same, but one whose data are `null` does not come back: it loses them. Triggers
and requests hold one event each, and everything else in them comes back.
-/

namespace Widgetry

open Json

/-! ## Events -/

namespace TriggerEvent

/-- The event without its data if these are `null`. -/
def dropNull (event : TriggerEvent) : TriggerEvent :=
  { event with payload := event.payload.filter fun v => !v.isNull }

theorem dropNull_eq_self_iff (event : TriggerEvent) :
    event.dropNull = event ↔ event.payload ≠ some .null := by
  obtain ⟨kind, payload⟩ := event
  rcases payload with _ | _ | _ | _ | _ | _ | _ <;> simp [dropNull, isNull]

theorem ofJson?_toJson (event : TriggerEvent) : ofJson? event.toJson = some event.dropNull := by
  refine read_ofFields ["event_type", "payload"] rfl (by decide) ?_
  intro fields hget
  have hkind : required? fields "event_type" (fun v => v.case?.bind EventKind.ofName?) =
      some event.kind :=
    required?_of_get? (hget "event_type") (EventKind.ofName?_name event.kind)
  have hwritten : fields.get? "payload" = event.payload := by
    rw [hget]
    exact Option.join_some
  have hpayload : optional? fields "payload" some = some event.dropNull.payload := by
    rw [optional?_some, hwritten]
    rfl
  simp only [ofJson?, record?, Option.bind_eq_bind, Option.bind_some, hkind, hpayload]
  rfl

theorem get?_payload (event : TriggerEvent) : event.toJson.get? "payload" = event.payload := by
  refine ofFields_cases (motive := fun v => v.get? "payload" = event.payload)
    ["event_type", "payload"] rfl (by decide) ?_
  intro fields hget
  exact (hget "payload").trans Option.join_some

theorem toJson_injective : Function.Injective toJson := by
  rintro ⟨kind, payload⟩ ⟨kind', payload'⟩ h
  have hread := congrArg ofJson? h
  rw [ofJson?_toJson, ofJson?_toJson] at hread
  obtain rfl : kind = kind' := congrArg TriggerEvent.kind (Option.some.inj hread)
  have hpayload := congrArg (Json.get? · "payload") h
  simp only [get?_payload] at hpayload
  rw [hpayload]

end TriggerEvent

/-! ## Triggers -/

namespace Trigger

/-- The trigger without the data of its event if these are `null`. -/
def dropNull (trigger : Trigger) : Trigger :=
  { trigger with event := trigger.event.dropNull }

theorem dropNull_eq_self_iff (trigger : Trigger) :
    trigger.dropNull = trigger ↔ trigger.event.payload ≠ some .null := by
  rw [← TriggerEvent.dropNull_eq_self_iff]
  constructor
  · intro h
    exact congrArg event h
  · intro h
    rw [dropNull, h]

theorem ofJson?_toJson (trigger : Trigger) :
    ofJson? trigger.toJson = some trigger.dropNull := by
  refine read_ofFields ["property", "event"] rfl (by decide) ?_
  intro fields hget
  have hproperty : required? fields "property" string? = some trigger.property :=
    required?_of_get? (hget "property") rfl
  have hevent : required? fields "event" TriggerEvent.ofJson? = some trigger.event.dropNull :=
    required?_of_get? (hget "event") trigger.event.ofJson?_toJson
  simp only [ofJson?, record?, Option.bind_eq_bind, Option.bind_some, hproperty, hevent]
  rfl

theorem get?_event (trigger : Trigger) :
    trigger.toJson.get? "event" = some trigger.event.toJson := by
  refine ofFields_cases (motive := fun v => v.get? "event" = some trigger.event.toJson)
    ["property", "event"] rfl (by decide) ?_
  intro fields hget
  exact hget "event"

theorem toJson_injective : Function.Injective toJson := by
  rintro ⟨property, event⟩ ⟨property', event'⟩ h
  have hread := congrArg ofJson? h
  rw [ofJson?_toJson, ofJson?_toJson] at hread
  obtain rfl : property = property' := congrArg Trigger.property (Option.some.inj hread)
  have hevent := congrArg (Json.get? · "event") h
  simp only [get?_event, Option.some_inj] at hevent
  rw [TriggerEvent.toJson_injective hevent]

end Trigger

/-! ## Requests -/

namespace ActionRequest

/-- The request without the data of its event if these are `null`. -/
def dropNull (r : ActionRequest) : ActionRequest :=
  { r with event := r.event.dropNull }

theorem dropNull_eq_self_iff (r : ActionRequest) :
    r.dropNull = r ↔ r.event.payload ≠ some .null := by
  rw [← TriggerEvent.dropNull_eq_self_iff]
  constructor
  · intro h
    exact congrArg event h
  · intro h
    rw [dropNull, h]

theorem ofJson?_toJson (r : ActionRequest) : ofJson? r.toJson = some r.dropNull := by
  refine read_ofFields
    ["widgetId", "widgetName", "triggerProperty", "action", "event", "meta"] rfl (by decide) ?_
  intro fields hget
  have hwidget : required? fields "widgetId" Instance.idOfJson? = some r.widget :=
    required?_of_get? (hget "widgetId") (Instance.idOfJson?_toText r.widget)
  have hname : required? fields "widgetName" string? = some r.name :=
    required?_of_get? (hget "widgetName") rfl
  have hproperty : required? fields "triggerProperty" string? = some r.property :=
    required?_of_get? (hget "triggerProperty") rfl
  have haction : required? fields "action" string? = some r.action :=
    required?_of_get? (hget "action") rfl
  have hevent : required? fields "event" TriggerEvent.ofJson? = some r.event.dropNull :=
    required?_of_get? (hget "event") r.event.ofJson?_toJson
  have hstate : required? fields "meta" fields? = some r.state :=
    required?_of_get? (hget "meta") rfl
  simp only [ofJson?, record?, Option.bind_eq_bind, Option.bind_some, hwidget, hname, hproperty,
    haction, hevent, hstate]
  rfl

theorem get?_event (r : ActionRequest) : r.toJson.get? "event" = some r.event.toJson := by
  refine ofFields_cases (motive := fun v => v.get? "event" = some r.event.toJson)
    ["widgetId", "widgetName", "triggerProperty", "action", "event", "meta"] rfl (by decide) ?_
  intro fields hget
  exact hget "event"

theorem toJson_injective : Function.Injective toJson := by
  rintro ⟨widget, name, property, action, event, state⟩
    ⟨widget', name', property', action', event', state'⟩ h
  have hread := congrArg ofJson? h
  rw [ofJson?_toJson, ofJson?_toJson, Option.some_inj, dropNull, dropNull, mk.injEq] at hread
  obtain ⟨rfl, rfl, rfl, rfl, -, rfl⟩ := hread
  have hevent := congrArg (Json.get? · "event") h
  simp only [get?_event, Option.some_inj] at hevent
  rw [TriggerEvent.toJson_injective hevent]

end ActionRequest

/-! ## What comes back -/

/-- A trigger and a request for an action come back if and only if the data of their event are not
`null`. If they are, the same trigger or request without data comes back. It is only reading that
loses something: whatever is written in the same way is the same. -/
theorem trigger_and_request_restored_iff (trigger : Trigger) (r : ActionRequest) :
    (Trigger.ofJson? trigger.toJson = some trigger.dropNull ∧
      (Trigger.ofJson? trigger.toJson = some trigger ↔ trigger.event.payload ≠ some .null) ∧
      ∀ trigger' : Trigger, trigger.toJson = trigger'.toJson ↔ trigger = trigger') ∧
    ActionRequest.ofJson? r.toJson = some r.dropNull ∧
      (ActionRequest.ofJson? r.toJson = some r ↔ r.event.payload ≠ some .null) ∧
      ∀ r' : ActionRequest, r.toJson = r'.toJson ↔ r = r' := by
  refine ⟨⟨trigger.ofJson?_toJson, ?_, ?_⟩, r.ofJson?_toJson, ?_, ?_⟩
  · rw [trigger.ofJson?_toJson, Option.some_inj, trigger.dropNull_eq_self_iff]
  · intro trigger'
    exact Trigger.toJson_injective.eq_iff
  · rw [r.ofJson?_toJson, Option.some_inj, r.dropNull_eq_self_iff]
  · intro r'
    exact ActionRequest.toJson_injective.eq_iff

/-- A message that is `null` is lost on the way. -/
theorem trigger_not_restored :
    let message := TriggerEvent.withPayload ⟨.iframeMessageReceived, none⟩ .null
    let trigger := (Trigger.on "onMessageReceived" .iframeMessageReceived).withEvent message
    Trigger.ofJson? trigger.toJson ≠ some trigger := by
  intro message trigger h
  rw [Trigger.ofJson?_toJson, Option.some_inj, Trigger.dropNull_eq_self_iff] at h
  exact h rfl

end Widgetry
