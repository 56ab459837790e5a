import Widgetry.Proofs.Page.Dispatch
import Widgetry.Proofs.Page.Independence

/-!
# Submitting

An input can be submitted if a property holds an action for it and its text is valid. The validity
is derived from the resolved properties with the meta-state laid over them, but the meta-state lies
over none of the properties that it takes. So the text is valid exactly if the plain function says
so for the resolved properties and the text that is read. Submitting comes to a request under the
guard that `canSubmit` tells, if actions can be dispatched, and to nothing else.
-/

namespace Widgetry

/-- Whether a property holds an action: a text that is not blank. -/
def Instance.HoldsAction (w : Instance) (property : String) : Prop :=
  ∃ action, w.get? property = some (.str action) ∧ Text.trim action.toList ≠ []

theorem WidgetKind.sorted_metaDefaults (kind : WidgetKind) :
    kind.behavior.metaDefaults.Sorted := by
  cases kind with
  | input | iframe | tabs => exact Table.sorted_ofList _
  | legacyTabs => exact List.Pairwise.nil

namespace Page

/-- Whether a text is valid by some properties. An absent property counts as `null`. -/
def acceptsText (properties : Fields) (text : Json) : Bool :=
  let value (property : String) : Json := .ofOption (properties.get? property)
  InputText.isValid (value "inputType").display text.display (value "regex").display
    (value "isRequired").truthy

/-- The request that submitting an input comes to, if its text is valid. -/
def submission? (page : Page) (id : WidgetId) (w : Instance) : Option ActionRequest :=
  if acceptsText (page.resolvedOf w).1 (page.states.read id "text") then
    page.request? id w (.on "onSubmit" .submit)
  else none

theorem isSome_actionOf?_iff (w : Instance) (property : String) :
    (actionOf? w property).isSome = true ↔ w.HoldsAction property := by
  constructor
  · intro h
    obtain ⟨action, haction⟩ := Option.isSome_iff_exists.1 h
    refine ⟨action, get?_of_actionOf? haction, ?_⟩
    obtain ⟨-, hblank⟩ := Option.filter_eq_some_iff.1 haction
    rw [Text.isBlankText_eq] at hblank
    simpa using hblank
  · rintro ⟨action, haction, hblank⟩
    rw [isSome_actionOf?, Instance.string?, haction]
    simpa [Json.string?] using hblank

/-! ## What the validity is derived from -/

section This

variable {page : Page} {id : WidgetId} {w : Instance} (hw : page.widget? id = some w)
  (hconsistent : page.contents.Consistent) (properties : Fields)

include hw hconsistent

/-- The meta-state lies over none of the declared properties. -/
theorem member_bindingThis_of_mem_properties {property : String}
    (h : property ∈ w.kind.properties) :
    (bindingThis properties (page.snapshot id)).member property =
      .ofOption (properties.get? property) := by
  obtain ⟨s, hs, -, -, hfits⟩ := hconsistent.exists_state hw
  have hstates : page.states.get? id = some s := hs
  rw [snapshot, MetaStore.snapshot?, hstates]
  exact congrArg Json.ofOption
    (Table.get?_overlay_of_not_mem properties s.snapshot (hfits.not_mem_keys_snapshot h))

/-- The meta-state has a value for every declared key, the one that is read. -/
theorem member_bindingThis_of_mem_metaKeys (hsorted : page.contents.Sorted) {key : String}
    (h : key ∈ w.kind.metaKeys) :
    (bindingThis properties (page.snapshot id)).member key = page.states.read id key := by
  obtain ⟨s, hs, -, -, hfits⟩ := hconsistent.exists_state hw
  have hstates : page.states.get? id = some s := hs
  have hsnapshot : page.snapshot id = s.snapshot := by
    rw [snapshot, MetaStore.snapshot?, hstates]
    rfl
  have hread : page.states.read id key = s.read key := by
    rw [MetaStore.read, hstates]
    rfl
  have horder : s.snapshot.Sorted := by
    have hdefaults : s.defaults.Sorted := hfits.defaults ▸ w.kind.sorted_metaDefaults
    exact hdefaults.overlay s.values
  obtain ⟨v, hv⟩ := (Table.mem_keys_iff _ key).1 (mem_keys_snapshot hconsistent hw h)
  rw [hsnapshot] at hv ⊢
  rw [hread, ← MetaState.ofOption_get?_snapshot (hsorted.values id s hs), bindingThis, Json.member,
    Table.get?_overlay properties horder, hv]
  rfl

end This

/-! ## Submitting -/

section Input

variable {page : Page} {id : WidgetId} {w : Instance} (hw : page.widget? id = some w)
  (hkind : w.kind = .input) (hconsistent : page.contents.Consistent)
  (hsorted : page.contents.Sorted)

include hw hkind hconsistent hsorted

/-- The text is valid by what the resolved properties say about it. -/
theorem get?_derivedOf_isValid :
    (page.derivedOf w).1.get? "isValid" =
      some (.bool (acceptsText (page.resolvedOf w).1 (page.states.read id "text"))) := by
  obtain ⟨-, -, rfl, -, -⟩ := hconsistent.exists_state hw
  have hproperty (property : String) (h : property ∈ WidgetKind.input.properties) :=
    member_bindingThis_of_mem_properties hw hconsistent (page.resolvedOf w).1 (hkind ▸ h)
  have htext := member_bindingThis_of_mem_metaKeys hw hconsistent (page.resolvedOf w).1 hsorted
    (show "text" ∈ w.kind.metaKeys by rw [hkind]; decide)
  rw [get?_derivedOf page w (by rw [hkind]; decide), hkind, derivedValue,
    hproperty "inputType" (by decide), hproperty "regex" (by decide),
    hproperty "isRequired" (by decide), htext]
  rfl

theorem runOn_canSubmit_of_input :
    runOn (canSubmit id) page =
      (.ok ((actionOf? w "onSubmit").isSome &&
        acceptsText (page.resolvedOf w).1 (page.states.read id "text")), page) := by
  have hvalid := get?_derivedOf_isValid hw hkind hconsistent hsorted
  rw [runOn_canSubmit, (ofKind_eq_ok_iff page .input id w).2 ⟨hw, hkind⟩]
  dsimp only
  rw [hvalid, page.derivedOf_snd (not_mayDraw (by simp [hkind]))]
  cases actionOf? w "onSubmit" with
  | none => rfl
  | some action =>
      cases acceptsText (page.resolvedOf w).1 (page.states.read id "text") <;> rfl

/-- Submitting executes the action if the text is valid, and otherwise does nothing. -/
theorem runOn_submit_of_input :
    runOn (submit id) page =
      (.ok (page.submission? id w).isSome, page.requesting (page.submission? id w)) := by
  have hcan := runOn_canSubmit_of_input hw hkind hconsistent hsorted
  have hnothing : page = page.requesting none := by simp [requesting]
  rw [runOn_submit, hcan, submission?]
  cases acceptsText (page.resolvedOf w).1 (page.states.read id "text") with
  | false =>
      rw [Bool.and_false, if_neg Bool.false_ne_true]
      exact congrArg (Prod.mk (Except.ok false)) hnothing
  | true =>
      rw [Bool.and_true, if_pos rfl]
      cases haction : actionOf? w "onSubmit" with
      | none =>
          have hrequest : page.request? id w (.on "onSubmit" .submit) = none := by
            rw [request?, Trigger.on, haction]
          rw [hrequest]
          exact congrArg (Prod.mk (Except.ok false)) hnothing
      | some action =>
          have hexecute := runOn_execute page id (.on "onSubmit" .submit)
          rw [hw] at hexecute
          exact hexecute

end Input

theorem isSome_request?_iff (page : Page) (id : WidgetId) (w : Instance) (trigger : Trigger) :
    (page.request? id w trigger).isSome = true ↔
      w.HoldsAction trigger.property ∧ page.config.dispatchActions = true ∧ page.canRun = true := by
  rw [← isSome_actionOf?_iff, request?]
  cases actionOf? w trigger.property with
  | none => simp
  | some action =>
      dsimp only
      split
      next hrun => simpa using hrun
      next hrun => simpa using hrun

theorem isSome_submission?_iff (page : Page) (id : WidgetId) (w : Instance) :
    (page.submission? id w).isSome = true ↔
      (w.HoldsAction "onSubmit" ∧
        acceptsText (page.resolvedOf w).1 (page.states.read id "text") = true) ∧
      page.config.dispatchActions = true ∧ page.canRun = true := by
  rw [submission?]
  split
  next hvalid =>
    rw [isSome_request?_iff]
    simp [hvalid, Trigger.on]
  next hvalid => simp [hvalid]

/-- What submitting an input comes to, on a page that is reached from an empty one. It never fails.
The text can be submitted exactly if `onSubmit` holds an action and the text that is read is valid
by the resolved properties. There is one request for the action exactly if the text can be submitted
and actions are dispatched and can run; otherwise there is none. Nothing else changes on the
page. -/
theorem submit_after_empty (config : Config) (canRun : Bool) (keys : KeySupply)
    (ops : List Operation) {id : WidgetId} {w : Instance}
    (hw : ((empty config canRun keys).after ops).widget? id = some w) (hkind : w.kind = .input) :
    let page := (empty config canRun keys).after ops
    ∃ properties text can request,
      runOn (resolved id) page = (.ok properties, page) ∧
      runOn (read id "text") page = (.ok text, page) ∧
      runOn (canSubmit id) page = (.ok can, page) ∧
      runOn (submit id) page =
        (.ok (Option.isSome request), { page with requests := page.requests ++ request.toList }) ∧
      (can = true ↔ w.HoldsAction "onSubmit" ∧ acceptsText properties text = true) ∧
      (request.isSome = true ↔
        (w.HoldsAction "onSubmit" ∧ acceptsText properties text = true) ∧
          page.config.dispatchActions = true ∧ page.canRun = true) ∧
      ∀ r, request = some r → Call.Asks ⟨page, id, .on "onSubmit" .submit⟩ r := by
  intro page
  have hconsistent : page.contents.Consistent :=
    consistent_after (consistent_empty config canRun keys) ops
  have hsorted : page.contents.Sorted := sorted_after (sorted_empty config canRun keys) ops
  have hread := runOn_read page id "text"
  rw [hw] at hread
  refine ⟨_, _, _, _,
    runOn_resolved_of_not_mayDraw hw (not_mayDraw (by simp [hkind])), hread,
    runOn_canSubmit_of_input hw hkind hconsistent hsorted,
    runOn_submit_of_input hw hkind hconsistent hsorted, ?_, ?_, ?_⟩
  · rw [Bool.and_eq_true, isSome_actionOf?_iff]
  · exact isSome_submission?_iff page id w
  · intro r hr
    obtain ⟨-, hrequest⟩ := Option.ite_none_right_eq_some.1 hr
    exact Call.asks_of_request? hsorted ((congrArg (Option.bind · _) hw).trans hrequest)

/-- A required input into which something has been typed. -/
theorem submit_after_empty_required :
    let w : Instance :=
      ⟨⟨1⟩, "Name", .input, none, [("isRequired", .bool true), ("onSubmit", .str "save()")]⟩
    let page := (empty {} true (.counting [])).after [.mount w, .changeText w.id "Ann"]
    (page.widget? w.id = some w ∧ w.kind = .input ∧ page.requests = []) ∧
      runOn (canSubmit w.id) page = (.ok true, page) ∧
      ∃ r, runOn (submit w.id) page = (.ok true, { page with requests := [r] }) ∧
        Call.Asks ⟨page, w.id, .on "onSubmit" .submit⟩ r := by
  intro w page
  have hw : page.widget? w.id = some w := rfl
  obtain ⟨properties, text, can, request, hresolved, hread, hcan, hsubmit, hcanIff, hrequestIff,
    hasks⟩ := submit_after_empty {} true (.counting []) _ hw rfl
  obtain rfl : w.properties = properties := Except.ok.inj (Prod.mk.inj hresolved).1
  obtain rfl : Json.str "Ann" = text := Except.ok.inj (Prod.mk.inj hread).1
  have hboth : w.HoldsAction "onSubmit" ∧ acceptsText w.properties (.str "Ann") = true :=
    ⟨⟨"save()", rfl, by decide⟩, rfl⟩
  obtain ⟨r, rfl⟩ := Option.isSome_iff_exists.1 (hrequestIff.2 ⟨hboth, rfl, rfl⟩)
  rw [hcanIff.2 hboth] at hcan
  exact ⟨⟨hw, rfl, rfl⟩, hcan, r, hsubmit, hasks r rfl⟩

end Page

end Widgetry
