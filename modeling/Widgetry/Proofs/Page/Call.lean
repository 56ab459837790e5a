import Widgetry.Proofs.Page.Operation

/-!
# Calls

An interaction is made of basic operations: it looks at its widget, makes updates and executes
actions, and does nothing else. `Operation.basics` lists these operations as they follow from what
is found on the page, and the page after them is the page after the interaction. A basic operation
that succeeds and comes with a trigger is a call, which is kept with the page that it leaves to the
action: the page right after the write of an update, and the page as it is if nothing is written.
-/

namespace Widgetry.Page

/-- What an update that depends on resolved properties is made of. -/
def basicsWhen (page : Page) (kind : WidgetKind) (id : WidgetId) (accept : Fields → Bool)
    (key : String) (v : Json) (trigger : Trigger) : List Operation :=
  match page.ofKind kind id with
  | .ok w =>
    .resolve id ::
      if accept (page.resolvedOf w).1 then [.update id key v (some trigger)] else []
  | .error _ => []

/-- The basic operations that an operation is made of, first to last. -/
def Operation.basics (page : Page) : Operation → List Operation
  | changeText id text =>
    match page.ofKind .input id with
    | .ok _ =>
      let edit := update id "text" text (some textChange)
      edit ::
        if ((edit.after page).states.read id "isDirty").truthy then []
        else [update id "isDirty" true none]
    | .error _ => []
  | changeFocus id focused =>
    match page.ofKind .input id with
    | .ok _ => [update id "isFocused" focused none]
    | .error _ => []
  | submit id =>
    canSubmit id ::
      match (runOn (Page.canSubmit id) page).1 with
      | .ok true => [execute id (.on "onSubmit" .submit)]
      | _ => []
  | finishSubmit id success =>
    page.basicsWhen .input id
      (fun properties => success && (properties.get? "resetOnSubmit").any Json.truthy)
      "text" "" textChange
  | receiveMessage id origin data =>
    page.basicsWhen .iframe id
      (fun properties =>
        Text.occursIn origin.toList
          (((properties.get? "source").bind Json.string?).getD "").toList)
      "message" data (.on "onMessageReceived" .iframeMessageReceived)
  | changeUrl id url =>
    match page.ofKind .iframe id with
    | .ok _ =>
      if url = "" then [] else [execute id ⟨"onURLChanged", ⟨.iframeUrlChanged, some (.str url)⟩⟩]
    | .error _ => []
  | selectTab id widgetId =>
    match page.ofKind .tabs id with
    | .ok _ => [update id "selectedTabWidgetId" widgetId (some (.on "onTabSelected" .tabChange))]
    | .error _ => []
  | op => [op]

/-- The basic operations that operations are made of, first to last. -/
def basics (page : Page) : List Operation → List Operation
  | [] => []
  | op :: ops => op.basics page ++ basics (op.after page) ops

/-! ## Interactions by their basic operations -/

theorem after_append (page : Page) (ops more : List Operation) :
    page.after (ops ++ more) = (page.after ops).after more :=
  List.foldl_append

theorem after_update_of_error {page : Page} {id : WidgetId} {key : String} {e : PageError}
    (h : page.place id key = .error e) (v : Json) (trigger : Option Trigger) :
    (Operation.update id key v trigger).after page = page := by
  rw [Operation.after, runOn_update, h]

theorem after_update_of_ok {page : Page} {id : WidgetId} {key : String} {w : Instance}
    {s : MetaState} (h : page.place id key = .ok (w, s)) (v : Json) (trigger : Option Trigger) :
    (Operation.update id key v trigger).after page = page.updated id w key v trigger := by
  rw [Operation.after, runOn_update, h]

/-- Where a key of a widget of a kind can be written, any other such key can be. -/
theorem place_eq_place {page : Page} {kind : WidgetKind} {id : WidgetId} {w : Instance}
    (h : page.ofKind kind id = .ok w) {key key' : String}
    (hkey : (KeyCategory.of kind key).isWritable = true)
    (hkey' : (KeyCategory.of kind key').isWritable = true) :
    page.place id key = page.place id key' := by
  obtain ⟨hw, rfl⟩ := (ofKind_eq_ok_iff page kind id w).1 h
  simp only [place, hw, hkey, hkey', if_true]

theorem after_basicsWhen (page : Page) (kind : WidgetKind) (id : WidgetId)
    (accept : Fields → Bool) (key : String) (v : Json) (trigger : Trigger) :
    page.after (page.basicsWhen kind id accept key v trigger) =
      (runOn (updateWhen kind id accept key v trigger) page).2 := by
  rw [runOn_updateWhen, basicsWhen]
  cases h : page.ofKind kind id with
  | error e => rfl
  | ok w =>
      obtain ⟨hw, -⟩ := (ofKind_eq_ok_iff page kind id w).1 h
      have hresolve : (Operation.resolve id).after page = (page.resolvedOf w).2 := by
        rw [Operation.after, runOn_resolved, hw]
      dsimp only
      rw [after, List.foldl_cons, hresolve]
      split
      next =>
        have hupdate := runOn_update (page.resolvedOf w).2 id key v (some trigger)
        have hplace : (page.resolvedOf w).2.place id key = page.place id key := rfl
        rw [hplace] at hupdate
        rw [List.foldl_cons, List.foldl_nil, Operation.after, hupdate]
        cases page.place id key <;> rfl
      next => rfl

theorem after_basics_changeText (page : Page) (id : WidgetId) (text : String) :
    page.after ((Operation.changeText id text).basics page) =
      (Operation.changeText id text).after page := by
  rw [Operation.after, runOn_changeText, placeOfKind, Operation.basics]
  cases h : page.ofKind .input id with
  | error e => rfl
  | ok w =>
      have hsame : page.place id "isDirty" = page.place id "text" :=
        place_eq_place h (by decide) (by decide)
      dsimp only
      rw [after, List.foldl_cons]
      cases hplace : page.place id "text" with
      | error e =>
          -- neither key can be written, so that it does not matter whether the input is dirty
          rw [hplace] at hsame
          rw [after_update_of_error hplace]
          split
          next => rfl
          next => exact after_update_of_error hsame _ _
      | ok found =>
          obtain ⟨w', s⟩ := found
          rw [hplace] at hsame
          obtain ⟨-, -, hs⟩ := (place_eq_ok_iff page id "text" w' s).1 hplace
          have hread : (page.updated id w' "text" text textChange).states.read id "isDirty" =
              page.states.read id "isDirty" := read_updated_of_ne hs w' (by decide) _ _
          have hmark := place_updated hsame w' "text" text textChange
          rw [after_update_of_ok hplace, hread]
          dsimp only
          rw [edited]
          split
          next => rfl
          next =>
            rw [List.foldl_cons, List.foldl_nil, after_update_of_ok hmark, updated_none]

theorem Operation.after_basics (op : Operation) (page : Page) :
    page.after (op.basics page) = op.after page := by
  cases op with
  | changeText id text => exact after_basics_changeText page id text
  | changeFocus id focused =>
      rw [Operation.after, runOn_changeFocus, placeOfKind, Operation.basics]
      cases page.ofKind .input id with
      | error e => rfl
      | ok w =>
          have hupdate := congrArg Prod.snd (runOn_update page id "isFocused" focused none)
          refine hupdate.trans ?_
          cases page.place id "isFocused" <;> rfl
  | submit id =>
      rw [Operation.after, runOn_submit, Operation.basics, Page.after, List.foldl_cons,
        Operation.after]
      rcases runOn (Page.canSubmit id) page with ⟨_ | _ | _, page'⟩ <;> rfl
  | finishSubmit id success =>
      rw [Operation.after, finishSubmit_eq, Operation.basics, after_basicsWhen]
  | receiveMessage id origin data =>
      rw [Operation.after, receiveMessage_eq, Operation.basics, after_basicsWhen]
  | changeUrl id url =>
      rw [Operation.after, runOn_changeUrl, Operation.basics]
      cases page.ofKind .iframe id with
      | error e => rfl
      | ok w =>
          dsimp only
          split <;> rfl
  | selectTab id widgetId =>
      rw [Operation.after, runOn_selectTab, placeOfKind, Operation.basics]
      cases page.ofKind .tabs id with
      | error e => rfl
      | ok w =>
          have hupdate := congrArg Prod.snd (runOn_update page id "selectedTabWidgetId" widgetId
            (some (.on "onTabSelected" .tabChange)))
          refine hupdate.trans ?_
          cases page.place id "selectedTabWidgetId" <;> rfl
  | mount _ | unmount _ | reset _ | resolve _ | derive _ | update _ _ _ _ | execute _ _
  | canSubmit _ | surround _ => rfl

/-- A run leaves the page that the basic operations of its operations leave. -/
theorem after_basics (page : Page) (ops : List Operation) :
    page.after (page.basics ops) = page.after ops := by
  induction ops generalizing page with
  | nil => rfl
  | cons op ops ih =>
      rw [basics, after_append, op.after_basics, ih]
      rfl

/-- Whether an operation is none of the interactions that are made of others. -/
def Operation.IsBasic : Operation → Prop
  | changeText _ _ | changeFocus _ _ | submit _ | finishSubmit _ _ | receiveMessage _ _ _
  | changeUrl _ _ | selectTab _ _ => False
  | mount _ | unmount _ | reset _ | resolve _ | derive _ | update _ _ _ _ | execute _ _
  | canSubmit _ | surround _ => True

theorem isBasic_of_mem_basicsWhen {page : Page} {kind : WidgetKind} {id : WidgetId}
    {accept : Fields → Bool} {key : String} {v : Json} {trigger : Trigger} {op : Operation}
    (h : op ∈ page.basicsWhen kind id accept key v trigger) : op.IsBasic := by
  unfold basicsWhen at h
  split at h
  next w _ =>
    split at h
    next =>
      rcases List.mem_cons.1 h with rfl | h
      · trivial
      · rw [List.mem_singleton.1 h]
        trivial
    next =>
      rw [List.mem_singleton.1 h]
      trivial
  next => cases h

theorem Operation.isBasic_of_mem_basics {op : Operation} {page : Page} {basic : Operation}
    (h : basic ∈ op.basics page) : basic.IsBasic := by
  cases op with
  | changeText id text =>
      rw [basics] at h
      split at h
      next =>
        rcases List.mem_cons.1 h with rfl | h
        · trivial
        · split at h
          next => cases h
          next =>
            rw [List.mem_singleton.1 h]
            trivial
      next => cases h
  | submit id =>
      rw [basics] at h
      rcases List.mem_cons.1 h with rfl | h
      · trivial
      · split at h
        next =>
          rw [List.mem_singleton.1 h]
          trivial
        next => cases h
  | changeFocus _ _ | selectTab _ _ =>
      rw [basics] at h
      split at h
      next =>
        rw [List.mem_singleton.1 h]
        trivial
      next => cases h
  | changeUrl id url =>
      rw [basics] at h
      split at h
      next =>
        split at h
        next => cases h
        next =>
          rw [List.mem_singleton.1 h]
          trivial
      next => cases h
  | finishSubmit _ _ | receiveMessage _ _ _ =>
      rw [basics] at h
      exact isBasic_of_mem_basicsWhen h
  | mount _ | unmount _ | reset _ | resolve _ | derive _ | update _ _ _ _ | execute _ _
  | canSubmit _ | surround _ =>
      rw [List.mem_singleton.1 h]
      trivial

theorem isBasic_of_mem_basics {page : Page} {ops : List Operation} :
    ∀ basic ∈ page.basics ops, basic.IsBasic := by
  induction ops generalizing page with
  | nil => simp [basics]
  | cons op ops ih =>
      intro basic hbasic
      rcases List.mem_append.1 hbasic with h | h
      · exact Operation.isBasic_of_mem_basics h
      · exact ih basic h

/-! ## Calls -/

/-- A call that may dispatch a request: an update with a trigger, or the execution of an action. The
page is the one right after the write of the update. -/
structure Call where
  page : Page
  id : WidgetId
  trigger : Trigger

/-- The call that a basic operation is, if it comes with a trigger and succeeds. -/
def Operation.call? (page : Page) : Operation → Option Call
  | update id key v (some trigger) =>
    if succeeds (Page.update id key v (some trigger)) page then
      some ⟨(runOn (write id key v) page).2, id, trigger⟩
    else none
  | execute id trigger =>
    if succeeds (Page.execute id trigger) page then some ⟨page, id, trigger⟩ else none
  | _ => none

/-- The calls among basic operations, first to last. -/
def callsOf (page : Page) : List Operation → List Call
  | [] => []
  | op :: ops => (op.call? page).toList ++ callsOf (op.after page) ops

/-- The calls of a run, those that are made directly and those that interactions make. -/
def calls (page : Page) (ops : List Operation) : List Call :=
  page.callsOf (page.basics ops)

theorem callsOf_append (page : Page) (ops more : List Operation) :
    page.callsOf (ops ++ more) = page.callsOf ops ++ (page.after ops).callsOf more := by
  induction ops generalizing page with
  | nil => rfl
  | cons op ops ih =>
      rw [List.cons_append, callsOf, callsOf, ih, List.append_assoc]
      rfl

theorem basics_append (page : Page) (ops more : List Operation) :
    page.basics (ops ++ more) = page.basics ops ++ (page.after ops).basics more := by
  induction ops generalizing page with
  | nil => rfl
  | cons op ops ih =>
      rw [List.cons_append, basics, basics, ih, List.append_assoc]
      rfl

theorem calls_append (page : Page) (ops more : List Operation) :
    page.calls (ops ++ more) = page.calls ops ++ (page.after ops).calls more := by
  rw [calls, basics_append, callsOf_append, after_basics]
  rfl

theorem Operation.call?_update {page : Page} {id : WidgetId} {key : String} {w : Instance}
    {s : MetaState} (h : page.place id key = .ok (w, s)) (v : Json) (trigger : Trigger) :
    (Operation.update id key v trigger).call? page =
      some ⟨page.written id key v, id, trigger⟩ := by
  obtain ⟨-, -, hs⟩ := (place_eq_ok_iff page id key w s).1 h
  rw [call?, succeeds, runOn_update, h, runOn_write, hs]
  rfl

end Widgetry.Page
