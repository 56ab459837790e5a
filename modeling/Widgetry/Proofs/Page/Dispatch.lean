import Mathlib.Data.List.Forall2
import Widgetry.Proofs.Page.Call
import Widgetry.Proofs.Page.Sorted

/-!
# The requests of a run

A call is due a request if actions are not disabled and can run, and the property that its trigger
names holds a text that is not blank. The requests of a page are those that its calls are due, one
for each and in their order, and nothing else adds to them. A request is never taken back or
changed, so it tells for ever what the meta-state of its widget was when it was made.
-/

namespace Widgetry.Page

namespace Call

/-- Whether there has to be a request for a call. -/
def isDue (call : Call) : Bool :=
  call.page.config.dispatchActions && call.page.canRun &&
    ((call.page.widget? call.id).bind fun w => w.string? call.trigger.property).any fun action =>
      Text.trim action.toList ≠ []

/-- What a request has to say about the call that it is made for. -/
structure Asks (call : Call) (r : ActionRequest) : Prop where
  widget : r.widget = call.id
  action : ∃ w, call.page.widget? call.id = some w ∧ r.name = w.name ∧
    w.get? call.trigger.property = some (.str r.action)
  property : r.property = call.trigger.property
  event : r.event = call.trigger.event
  /-- The request holds for every key what reading the key gives where the call is made. -/
  state : ∀ key, runOn (read call.id key) call.page =
    (.ok (.ofOption (r.state.get? key)), call.page)

/-- The request that is dispatched for a call, if there is one. -/
def request? (call : Call) : Option ActionRequest :=
  (call.page.widget? call.id).bind fun w => call.page.request? call.id w call.trigger

end Call

/-! ## One call -/

theorem isSome_actionOf? (w : Instance) (property : String) :
    (actionOf? w property).isSome =
      (w.string? property).any fun action => Text.trim action.toList ≠ [] := by
  rw [actionOf?, Option.isSome_filter]
  simp only [Text.isBlankText_eq, ne_eq, decide_not]

/-- An action is the text of the property that holds it. -/
theorem get?_of_actionOf? {w : Instance} {property action : String}
    (h : actionOf? w property = some action) : w.get? property = some (.str action) := by
  obtain ⟨hstring, -⟩ := Option.filter_eq_some_iff.1 h
  obtain ⟨v, hv, hs⟩ := Option.bind_eq_some_iff.1 hstring
  cases v with
  | str s => rw [hv, Option.some.inj hs]
  | null | bool _ | num _ | arr _ | obj _ => cases hs

namespace Call

theorem isSome_request? (call : Call) : call.request?.isSome = call.isDue := by
  rw [request?, isDue]
  cases call.page.widget? call.id with
  | none => simp
  | some w =>
      rw [Option.bind_some, Option.bind_some, ← isSome_actionOf?, Page.request?]
      cases actionOf? w call.trigger.property with
      | none => simp
      | some action =>
          dsimp only
          split
          next hrun => simp [hrun]
          next hrun => simpa using hrun

theorem asks_of_request? {call : Call} (h : call.page.contents.Sorted) {r : ActionRequest}
    (hr : call.request? = some r) : call.Asks r := by
  obtain ⟨w, hw, hrequest⟩ := Option.bind_eq_some_iff.1 hr
  rw [Page.request?] at hrequest
  split at hrequest
  next action haction =>
    split at hrequest
    next =>
      cases hrequest
      exact
        { widget := rfl
          action := ⟨w, hw, rfl, get?_of_actionOf? haction⟩
          property := rfl
          event := rfl
          state := runOn_read_eq_snapshot h hw }
    next => cases hrequest
  next => cases hrequest

end Call

/-! ## A run -/

theorem requests_canSubmit (page : Page) (id : WidgetId) :
    (runOn (canSubmit id) page).2.requests = page.requests := by
  rw [runOn_canSubmit]
  cases page.ofKind .input id with
  | error e => rfl
  | ok w =>
      dsimp only
      split <;> rfl

theorem requests_update (page : Page) (id : WidgetId) (key : String) (v : Json)
    (trigger : Option Trigger) :
    (runOn (update id key v trigger) page).2.requests =
      page.requests ++
        (((Operation.update id key v trigger).call? page).bind Call.request?).toList := by
  cases hplace : page.place id key with
  | error e =>
      cases trigger <;>
        simp [runOn_update, hplace, Operation.call?, succeeds, Except.isOk, Except.toBool]
  | ok found =>
      obtain ⟨w, s⟩ := found
      obtain ⟨hw, -, -⟩ := (place_eq_ok_iff page id key w s).1 hplace
      have hmounted : (page.written id key v).widget? id = some w := hw
      cases trigger with
      | none => simp [runOn_update, hplace, Operation.call?, updated_none, written]
      | some trigger =>
          rw [runOn_update, hplace, Operation.call?_update hplace, Option.bind_some, Call.request?,
            hmounted]
          rfl

theorem requests_execute (page : Page) (id : WidgetId) (trigger : Trigger) :
    (runOn (execute id trigger) page).2.requests =
      page.requests ++
        (((Operation.execute id trigger).call? page).bind Call.request?).toList := by
  rw [runOn_execute, Operation.call?, succeeds, runOn_execute]
  cases hw : page.widget? id with
  | none => simp [Except.isOk, Except.toBool]
  | some w =>
      simp only [Except.isOk, Except.toBool, if_true, Option.bind_some, Call.request?, hw]
      rfl

/-- A basic operation adds the request for the call that it is, and nothing else. -/
theorem Operation.requests_after {op : Operation} (h : op.IsBasic) (page : Page) :
    (op.after page).requests =
      page.requests ++ ((op.call? page).bind Call.request?).toList := by
  have hnone (hcall : op.call? page = none) (hrequests : (op.after page).requests = page.requests) :
      (op.after page).requests =
        page.requests ++ ((op.call? page).bind Call.request?).toList := by
    rw [hcall, hrequests]
    simp
  cases op with
  | mount saved =>
      refine hnone rfl ?_
      rw [after, run_mount]
      rfl
  | reset id =>
      refine hnone rfl ?_
      rw [after, runOn_reset]
      cases page.widget? id <;> rfl
  | resolve id =>
      refine hnone rfl ?_
      rw [after, runOn_resolved]
      cases page.widget? id <;> rfl
  | derive id =>
      refine hnone rfl ?_
      rw [after, runOn_derived]
      cases page.widget? id <;> rfl
  | update id key v trigger => exact requests_update page id key v trigger
  | execute id trigger => exact requests_execute page id trigger
  | canSubmit id => exact hnone rfl (requests_canSubmit page id)
  | unmount _ | surround _ => exact hnone rfl rfl
  | changeText _ _ | changeFocus _ _ | submit _ | finishSubmit _ _ | receiveMessage _ _ _
  | changeUrl _ _ | selectTab _ _ => exact h.elim

theorem requests_after_of_isBasic (page : Page) {ops : List Operation}
    (h : ∀ op ∈ ops, op.IsBasic) :
    (page.after ops).requests = page.requests ++ (page.callsOf ops).filterMap Call.request? := by
  induction ops generalizing page with
  | nil => simp [after, callsOf]
  | cons op ops ih =>
      have hstep := op.requests_after (h op List.mem_cons_self) page
      have hrest := ih (op.after page) fun other hother => h other (List.mem_cons_of_mem op hother)
      have hcall : ((op.call? page).bind Call.request?).toList =
          (op.call? page).toList.filterMap Call.request? := by
        cases op.call? page with
        | none => rfl
        | some call =>
            rw [Option.bind_some, Option.toList_some, List.filterMap_cons]
            cases call.request? <;> rfl
      rw [after, List.foldl_cons, ← after, hrest, hstep, hcall, callsOf, List.filterMap_append,
        List.append_assoc]

theorem requests_after (page : Page) (ops : List Operation) :
    (page.after ops).requests = page.requests ++ (page.calls ops).filterMap Call.request? := by
  rw [← after_basics, calls]
  exact requests_after_of_isBasic page isBasic_of_mem_basics

theorem Operation.sorted_call? {op : Operation} {page : Page} (h : page.contents.Sorted)
    {call : Call} (hcall : op.call? page = some call) : call.page.contents.Sorted := by
  cases op with
  | update id key v trigger =>
      cases trigger with
      | none => cases hcall
      | some trigger =>
          obtain ⟨-, hsome⟩ := Option.ite_none_right_eq_some.1 hcall
          obtain rfl := Option.some.inj hsome
          dsimp only
          rw [runOn_write]
          cases page.states.get? id with
          | none => exact h
          | some s => exact h.apply (e := .wrote id key v) trivial
  | execute id trigger =>
      obtain ⟨-, hsome⟩ := Option.ite_none_right_eq_some.1 hcall
      obtain rfl := Option.some.inj hsome
      exact h
  | mount _ | unmount _ | reset _ | resolve _ | derive _ | changeText _ _ | changeFocus _ _
  | canSubmit _ | submit _ | finishSubmit _ _ | receiveMessage _ _ _ | changeUrl _ _
  | selectTab _ _ | surround _ => cases hcall

theorem sorted_callsOf {page : Page} (h : page.contents.Sorted) (ops : List Operation) :
    ∀ call ∈ page.callsOf ops, call.page.contents.Sorted := by
  induction ops generalizing page with
  | nil => simp [callsOf]
  | cons op ops ih =>
      intro call hcall
      rcases List.mem_append.1 hcall with hfirst | hrest
      · exact op.sorted_call? h (Option.mem_toList.1 hfirst)
      · exact ih (op.sorted_after h) call hrest

theorem forall₂_asks {calls : List Call} (h : ∀ call ∈ calls, call.page.contents.Sorted) :
    List.Forall₂ Call.Asks (calls.filter Call.isDue) (calls.filterMap Call.request?) := by
  induction calls with
  | nil => exact .nil
  | cons call calls ih =>
      have hrest := ih fun other hother => h other (List.mem_cons_of_mem call hother)
      rw [List.filter_cons, List.filterMap_cons, ← call.isSome_request?]
      cases hrequest : call.request? with
      | none => exact hrest
      | some r => exact .cons (Call.asks_of_request? (h call List.mem_cons_self) hrequest) hrest

/-- What has been requested after whatever has been done with an empty page. A run comes to the
basic operations that it is made of. Those among their calls that are due a request, in the order in
which they are made, have one each, which says what it has to about its call, and there is no other
request. Whatever is done later leaves the requests as they are and only adds more. -/
theorem requests_after_empty (config : Config) (canRun : Bool) (keys : KeySupply)
    (ops : List Operation) :
    let page := empty config canRun keys
    page.after (page.basics ops) = page.after ops ∧
    (∀ op ∈ page.basics ops, op.IsBasic) ∧
    List.Forall₂ Call.Asks ((page.calls ops).filter Call.isDue) (page.after ops).requests ∧
    ∀ more, (page.after ops).requests <+: (page.after (ops ++ more)).requests := by
  intro page
  refine ⟨page.after_basics ops, isBasic_of_mem_basics, ?_, ?_⟩
  · have hrequests : (page.after ops).requests = (page.calls ops).filterMap Call.request? :=
      page.requests_after ops
    rw [hrequests]
    exact forall₂_asks (sorted_callsOf (sorted_empty config canRun keys) _)
  · intro more
    rw [after_append, requests_after (page.after ops) more]
    exact List.prefix_append _ _

/-- Each request tells the text of its own edit, also when the input is gone. -/
example :
    let w : Instance := ⟨⟨1⟩, "Name", .input, none, [("onTextChanged", .str "save()")]⟩
    let page := (empty {} true (.counting [])).after
      [.mount w, .changeText w.id "a", .changeText w.id "b", .unmount w.id]
    page.requests.map (fun r => (r.state.get? "text", r.state.get? "isDirty")) =
      [(some (.str "a"), some (.bool false)), (some (.str "b"), some (.bool true))] := rfl

end Widgetry.Page
