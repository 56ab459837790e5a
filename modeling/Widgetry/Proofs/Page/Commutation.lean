import Widgetry.Proofs.Page.Call
import Widgetry.Proofs.Page.Reset

/-!
# Operations on different widgets

An update looks at the widget that it is on and at its meta-state, and changes nothing else; only a
request that it dispatches is added to those of the page. So of what is done with one widget nothing
can be seen by an update of another: whichever comes first, both come to the same, request the same,
and leave the same page but for the order of the requests.
-/

namespace Widgetry.Page

/-! ## Pages that are alike for a widget -/

/-- What there is about a widget is the same on two pages. -/
structure AlikeAt (id : WidgetId) (page page' : Page) : Prop where
  config : page'.config = page.config
  canRun : page'.canRun = page.canRun
  widget : page'.widget? id = page.widget? id
  state : page'.states.get? id = page.states.get? id

namespace AlikeAt

variable {id : WidgetId} {page page' page'' : Page}

theorem refl (id : WidgetId) (page : Page) : AlikeAt id page page :=
  ⟨rfl, rfl, rfl, rfl⟩

theorem symm (h : AlikeAt id page page') : AlikeAt id page' page :=
  ⟨h.config.symm, h.canRun.symm, h.widget.symm, h.state.symm⟩

theorem trans (h : AlikeAt id page page') (h' : AlikeAt id page' page'') :
    AlikeAt id page page'' where
  config := h'.config.trans h.config
  canRun := h'.canRun.trans h.canRun
  widget := h'.widget.trans h.widget
  state := h'.state.trans h.state

theorem read_eq (h : AlikeAt id page page') (key : String) :
    page'.states.read id key = page.states.read id key := by
  rw [MetaStore.read, h.state, MetaStore.read]

theorem request?_eq (h : AlikeAt id page page') (w : Instance) (trigger : Trigger) :
    page'.request? id w trigger = page.request? id w trigger := by
  rw [request?, request?, h.config, h.canRun, snapshot_congr h.state]

theorem requesting (h : AlikeAt id page page') (request request' : Option ActionRequest) :
    AlikeAt id (page.requesting request) (page'.requesting request') :=
  ⟨h.config, h.canRun, h.widget, h.state⟩

theorem written (h : AlikeAt id page page') (id' : WidgetId) (key : String) (v : Json)
    (hid : page'.states.get? id' = page.states.get? id') :
    AlikeAt id (page.written id' key v) (page'.written id' key v) := by
  refine ⟨h.config, h.canRun, h.widget, ?_⟩
  show (page'.states.write id' key v).get? id = (page.states.write id' key v).get? id
  rw [MetaStore.get?_write, MetaStore.get?_write, hid, h.state]

end AlikeAt

/-- Pages that are alike for every widget differ at most in the keys to draw and in the requests. -/
theorem eq_of_alikeAt {page page' : Page} (h : ∀ id, AlikeAt id page page')
    (hwidgets : page.widgets.Sorted) (hwidgets' : page'.widgets.Sorted)
    (hstates : page.states.Sorted) (hstates' : page'.states.Sorted) :
    page' = { page with keys := page'.keys, requests := page'.requests } := by
  have hsame : page'.widgets = page.widgets := hwidgets'.ext hwidgets fun id => (h id).widget
  have hsame' : page'.states = page.states := hstates'.ext hstates fun id => (h id).state
  -- what does not depend on the id can be taken from any
  have hconfig := (h ⟨0⟩).config
  have hcanRun := (h ⟨0⟩).canRun
  cases page
  cases page'
  simp_all

/-! ## What stays within a widget -/

/-- An attempt stays within the widget with an id: what it comes to and what it requests depend on
nothing else, and it changes nothing else. -/
structure StaysWithin {α : Type} (id : WidgetId) (x : Attempt α) : Prop where
  agrees : ∀ {page page'}, AlikeAt id page page' → ∃ requests,
    (runOn x page').1 = (runOn x page).1 ∧
    AlikeAt id (runOn x page).2 (runOn x page').2 ∧
    (runOn x page).2.requests = page.requests ++ requests ∧
    (runOn x page').2.requests = page'.requests ++ requests
  frame : ∀ page id', id' ≠ id → AlikeAt id' page (runOn x page).2
  keys : ∀ page, (runOn x page).2.keys = page.keys

namespace StaysWithin

variable {α β : Type} {id : WidgetId}

/-- What leaves the page as it is stays within a widget if its outcome depends on nothing else. -/
theorem of_snd_eq {x : Attempt α} (hsame : ∀ page, (runOn x page).2 = page)
    (h : ∀ {page page'}, AlikeAt id page page' → (runOn x page').1 = (runOn x page).1) :
    StaysWithin id x where
  agrees := by
    intro page page' halike
    refine ⟨[], h halike, ?_⟩
    rw [hsame, hsame, List.append_nil, List.append_nil]
    exact ⟨halike, rfl, rfl⟩
  frame := by
    intro page id' _
    rw [hsame]
    exact .refl id' page
  keys := by
    intro page
    rw [hsame]

theorem pure (a : α) : StaysWithin id (pure a) :=
  of_snd_eq (fun _ => rfl) fun _ => rfl

/-- What follows a failure is not reached. -/
theorem throw_bind (e : PageError) (f : α → Attempt β) : StaysWithin id (throw e >>= f) :=
  of_snd_eq (fun _ => rfl) fun _ => rfl

theorem throw (e : PageError) : StaysWithin id (throw e : Attempt α) :=
  of_snd_eq (fun _ => rfl) fun _ => rfl

theorem bind {x : Attempt α} {f : α → Attempt β} (hx : StaysWithin id x)
    (hf : ∀ a, StaysWithin id (f a)) : StaysWithin id (x >>= f) where
  agrees := by
    intro page page' halike
    obtain ⟨requests, houtcome, hthen, hrequests, hrequests'⟩ := hx.agrees halike
    rcases hrun : runOn x page with ⟨outcome, next⟩
    rcases hrun' : runOn x page' with ⟨outcome', next'⟩
    rw [hrun] at houtcome hthen hrequests
    rw [hrun'] at houtcome hthen hrequests'
    obtain rfl : outcome' = outcome := houtcome
    cases outcome' with
    | error e =>
        rw [runOn_bind_of_error _ f hrun, runOn_bind_of_error _ f hrun']
        exact ⟨requests, rfl, hthen, hrequests, hrequests'⟩
    | ok a =>
        rw [runOn_bind_of_ok _ f hrun, runOn_bind_of_ok _ f hrun']
        obtain ⟨more, hagain, hlast, hmore, hmore'⟩ := (hf a).agrees hthen
        refine ⟨requests ++ more, hagain, hlast, ?_, ?_⟩
        · rw [hmore, hrequests, List.append_assoc]
        · rw [hmore', hrequests', List.append_assoc]
  frame := by
    intro page id' hne
    have hfirst := hx.frame page id' hne
    rcases hrun : runOn x page with ⟨_ | a, next⟩
    all_goals rw [hrun] at hfirst
    · rw [runOn_bind_of_error _ f hrun]
      exact hfirst
    · rw [runOn_bind_of_ok _ f hrun]
      exact hfirst.trans ((hf a).frame next id' hne)
  keys := by
    intro page
    have hfirst := hx.keys page
    rcases hrun : runOn x page with ⟨_ | a, next⟩
    all_goals rw [hrun] at hfirst
    · rw [runOn_bind_of_error _ f hrun]
      exact hfirst
    · rw [runOn_bind_of_ok _ f hrun]
      exact ((hf a).keys next).trans hfirst

/-- Of two attempts that stay within different widgets, each comes to the same and requests the same
whether it comes first or last, and the pages in the end are alike for every widget. -/
theorem commute {a b : WidgetId} (hne : a ≠ b) {x : Attempt α} {y : Attempt β}
    (hx : StaysWithin a x) (hy : StaysWithin b y) (page : Page) :
    let xFirst := (runOn y (runOn x page).2).2
    let yFirst := (runOn x (runOn y page).2).2
    (runOn x (runOn y page).2).1 = (runOn x page).1 ∧
    (runOn y (runOn x page).2).1 = (runOn y page).1 ∧
    (∀ id, AlikeAt id xFirst yFirst) ∧
    ∃ forX forY,
      (runOn x page).2.requests = page.requests ++ forX ∧
      (runOn y page).2.requests = page.requests ++ forY ∧
      xFirst.requests = page.requests ++ forX ++ forY ∧
      yFirst.requests = page.requests ++ forY ++ forX := by
  intro xFirst yFirst
  obtain ⟨forX, hxOutcome, hxAlike, hxRequests, hxRequests'⟩ := hx.agrees (hy.frame page a hne)
  obtain ⟨forY, hyOutcome, hyAlike, hyRequests, hyRequests'⟩ :=
    hy.agrees (hx.frame page b hne.symm)
  refine ⟨hxOutcome, hyOutcome, ?_, forX, forY, hxRequests, hyRequests, ?_, ?_⟩
  · intro id
    -- under its own id each is decided by what it finds there, which the other one leaves alone
    by_cases ha : id = a
    · subst ha
      exact (hy.frame _ id hne).symm.trans hxAlike
    · by_cases hb : id = b
      · subst hb
        exact hyAlike.symm.trans (hx.frame _ id hne.symm)
      · have hxFirst := (hx.frame page id ha).trans (hy.frame _ id hb)
        have hyFirst := (hy.frame page id hb).trans (hx.frame _ id ha)
        exact hxFirst.symm.trans hyFirst
  · rw [← hxRequests]
    exact hyRequests'
  · rw [← hyRequests]
    exact hxRequests'

end StaysWithin

/-! ## Steps -/

theorem staysWithin_widget (id : WidgetId) : StaysWithin id (widget id) := by
  refine .of_snd_eq ?_ ?_
  · intro page
    rw [runOn_widget]
    cases page.widget? id <;> rfl
  · intro page page' h
    rw [runOn_widget, runOn_widget, h.widget]
    cases page.widget? id <;> rfl

theorem staysWithin_widgetOfKind (kind : WidgetKind) (id : WidgetId) :
    StaysWithin id (widgetOfKind kind id) := by
  refine (staysWithin_widget id).bind ?_
  intro w
  split
  next => exact .pure w
  next => exact .throw _

theorem staysWithin_read (id : WidgetId) (key : String) : StaysWithin id (read id key) := by
  refine .of_snd_eq ?_ ?_
  · intro page
    rw [runOn_read]
  · intro page page' h
    rw [runOn_read, runOn_read, h.widget, h.read_eq]

theorem staysWithin_write (id : WidgetId) (key : String) (v : Json) :
    StaysWithin id (write id key v) where
  agrees := by
    intro page page' h
    refine ⟨[], ?_⟩
    rw [runOn_write, runOn_write, h.state, List.append_nil, List.append_nil]
    cases page.states.get? id with
    | none => exact ⟨rfl, h, rfl, rfl⟩
    | some s => exact ⟨rfl, h.written id key v h.state, rfl, rfl⟩
  frame := by
    intro page id' hne
    rw [runOn_write]
    cases page.states.get? id with
    | none => exact .refl id' page
    | some s =>
        refine ⟨rfl, rfl, rfl, ?_⟩
        exact (MetaStore.get?_write page.states id id' key v).trans (if_neg hne)
  keys := by
    intro page
    rw [runOn_write]
    cases page.states.get? id <;> rfl

theorem staysWithin_execute (id : WidgetId) (trigger : Trigger) :
    StaysWithin id (execute id trigger) where
  agrees := by
    intro page page' h
    rw [runOn_execute, runOn_execute, h.widget]
    cases page.widget? id with
    | none => exact ⟨[], rfl, h, (List.append_nil _).symm, (List.append_nil _).symm⟩
    | some w =>
        dsimp only
        rw [h.request?_eq]
        exact ⟨_, rfl, h.requesting _ _, rfl, rfl⟩
  frame := by
    intro page id' _
    rw [runOn_execute]
    cases page.widget? id <;> exact ⟨rfl, rfl, rfl, rfl⟩
  keys := by
    intro page
    rw [runOn_execute]
    cases page.widget? id <;> rfl

/-! ## Operations -/

theorem staysWithin_update (id : WidgetId) (key : String) (v : Json) (trigger : Option Trigger) :
    StaysWithin id (update id key v trigger) := by
  refine (staysWithin_widget id).bind ?_
  intro w
  dsimp only
  split
  next => exact .throw_bind _ _
  next =>
    refine (staysWithin_write id key v).bind ?_
    intro previous
    cases trigger with
    | some trigger => exact (staysWithin_execute id trigger).bind fun _ => .pure _
    | none => exact .pure _

theorem staysWithin_changeText (id : WidgetId) (text : String) :
    StaysWithin id (changeText id text) := by
  refine (staysWithin_widgetOfKind .input id).bind ?_
  intro w
  refine (staysWithin_update id _ _ _).bind ?_
  intro updated
  refine (staysWithin_read id _).bind ?_
  intro isDirty
  dsimp only
  split
  next => exact (staysWithin_update id _ _ _).bind fun _ => .pure updated
  next => exact .pure updated

theorem staysWithin_changeFocus (id : WidgetId) (focused : Bool) :
    StaysWithin id (changeFocus id focused) := by
  refine (staysWithin_widgetOfKind .input id).bind ?_
  intro w
  exact (staysWithin_update id _ _ _).bind fun _ => .pure ()

theorem staysWithin_changeUrl (id : WidgetId) (url : String) :
    StaysWithin id (changeUrl id url) := by
  refine (staysWithin_widgetOfKind .iframe id).bind ?_
  intro w
  dsimp only
  split
  next => exact .pure false
  next => exact staysWithin_execute id _

theorem staysWithin_selectTab (id : WidgetId) (widgetId : String) :
    StaysWithin id (selectTab id widgetId) := by
  refine (staysWithin_widgetOfKind .tabs id).bind ?_
  intro w
  exact staysWithin_update id _ _ _

theorem staysWithin_unmount (id : WidgetId) : StaysWithin id (ExceptT.lift (unmount id)) where
  agrees := by
    intro page page' h
    have herase {β : Type} (t t' : Table WidgetId β) :
        (t'.erase id).get? id = (t.erase id).get? id := by
      rw [Table.get?_erase_self, Table.get?_erase_self]
    refine ⟨[], ?_, ⟨h.config, h.canRun, herase _ _, herase _ _⟩, ?_, ?_⟩
    · rw [runOn_lift, runOn_lift, run_unmount, run_unmount, h.widget]
    · exact (List.append_nil _).symm
    · exact (List.append_nil _).symm
  frame := by
    intro page id' hne
    exact ⟨rfl, rfl, Table.get?_erase_of_ne _ hne, Table.get?_erase_of_ne _ hne⟩
  keys := fun _ => rfl

/-- The operations on the widget with an id that look at no other widget. -/
inductive IsEdit (id : WidgetId) : {α : Type} → Attempt α → Prop where
  | update (key : String) (v : Json) (trigger : Option Trigger) :
      IsEdit id (Page.update id key v trigger)
  | execute (trigger : Trigger) : IsEdit id (Page.execute id trigger)
  | changeText (text : String) : IsEdit id (Page.changeText id text)
  | changeFocus (focused : Bool) : IsEdit id (Page.changeFocus id focused)
  | changeUrl (url : String) : IsEdit id (Page.changeUrl id url)
  | selectTab (widgetId : String) : IsEdit id (Page.selectTab id widgetId)
  | unmount : IsEdit id (ExceptT.lift (Page.unmount id))

namespace IsEdit

variable {α : Type} {id : WidgetId} {x : Attempt α}

theorem staysWithin (h : IsEdit id x) : StaysWithin id x := by
  cases h with
  | update key v trigger => exact staysWithin_update id key v trigger
  | execute trigger => exact staysWithin_execute id trigger
  | changeText text => exact staysWithin_changeText id text
  | changeFocus focused => exact staysWithin_changeFocus id focused
  | changeUrl url => exact staysWithin_changeUrl id url
  | selectTab widgetId => exact staysWithin_selectTab id widgetId
  | unmount => exact staysWithin_unmount id

theorem exists_operation (h : IsEdit id x) :
    ∃ op : Operation, ∀ page, (runOn x page).2 = op.after page := by
  cases h with
  | update key v trigger => exact ⟨.update id key v trigger, fun _ => rfl⟩
  | execute trigger => exact ⟨.execute id trigger, fun _ => rfl⟩
  | changeText text => exact ⟨.changeText id text, fun _ => rfl⟩
  | changeFocus focused => exact ⟨.changeFocus id focused, fun _ => rfl⟩
  | changeUrl url => exact ⟨.changeUrl id url, fun _ => rfl⟩
  | selectTab widgetId => exact ⟨.selectTab id widgetId, fun _ => rfl⟩
  | unmount => exact ⟨.unmount id, fun _ => rfl⟩

end IsEdit

/-- Two operations on different widgets that look at no other widget, on a page that is reached from
an empty one. In either order, each has the same outcome and dispatches the same requests, and the
page in the end is the same, except that the requests stand in the order of the operations. -/
theorem commute_after_empty (config : Config) (canRun : Bool) (keys : KeySupply)
    (ops : List Operation) {a b : WidgetId} (hne : a ≠ b) {α β : Type} {x : Attempt α}
    {y : Attempt β} (hx : IsEdit a x) (hy : IsEdit b y) :
    let page := (empty config canRun keys).after ops
    let xFirst := (runOn y (runOn x page).2).2
    let yFirst := (runOn x (runOn y page).2).2
    (runOn x (runOn y page).2).1 = (runOn x page).1 ∧
    (runOn y (runOn x page).2).1 = (runOn y page).1 ∧
    ∃ forX forY,
      (runOn x page).2.requests = page.requests ++ forX ∧
      (runOn y page).2.requests = page.requests ++ forY ∧
      xFirst.requests = page.requests ++ forX ++ forY ∧
      yFirst = { xFirst with requests := page.requests ++ forY ++ forX } := by
  intro page xFirst yFirst
  have hsorted (more : List Operation) : (page.after more).widgets.Sorted ∧
      (page.after more).states.Sorted := by
    rw [← after_append]
    exact ⟨(sorted_after (sorted_empty config canRun keys) _).widgets,
      sorted_states_after_empty config canRun keys _⟩
  obtain ⟨opX, hopX⟩ := hx.exists_operation
  obtain ⟨opY, hopY⟩ := hy.exists_operation
  have hxFirst : xFirst.widgets.Sorted ∧ xFirst.states.Sorted := by
    dsimp only [xFirst]
    rw [hopX, hopY]
    exact hsorted [opX, opY]
  have hyFirst : yFirst.widgets.Sorted ∧ yFirst.states.Sorted := by
    dsimp only [yFirst]
    rw [hopY, hopX]
    exact hsorted [opY, opX]
  obtain ⟨houtcomeX, houtcomeY, halike, forX, forY, hforX, hforY, hxRequests, hyRequests⟩ :=
    StaysWithin.commute hne hx.staysWithin hy.staysWithin page
  refine ⟨houtcomeX, houtcomeY, forX, forY, hforX, hforY, hxRequests, ?_⟩
  have hkeys : yFirst.keys = xFirst.keys := by
    dsimp only [xFirst, yFirst]
    rw [hx.staysWithin.keys, hy.staysWithin.keys, hy.staysWithin.keys, hx.staysWithin.keys]
  rw [← hyRequests, ← hkeys]
  exact eq_of_alikeAt halike hxFirst.1 hyFirst.1 hxFirst.2 hyFirst.2

/-- A text is edited and a tab is selected, and both are asked for an action. -/
theorem commute_after_empty_edits :
    let name : Instance := ⟨⟨1⟩, "Name", .input, none, [("onTextChanged", .str "save()")]⟩
    let tabs : Instance := ⟨⟨2⟩, "Tabs", .tabs, some 2, [("onTabSelected", .str "open()")]⟩
    let page := (empty {} true (.counting [])).after [.mount name, .mount tabs]
    let edit := changeText name.id "a"
    let selection := selectTab tabs.id "first"
    let editFirst := (runOn selection (runOn edit page).2).2
    let selectionFirst := (runOn edit (runOn selection page).2).2
    name.id ≠ tabs.id ∧ IsEdit name.id edit ∧ IsEdit tabs.id selection ∧
      (runOn edit (runOn selection page).2).1 = (runOn edit page).1 ∧
      (runOn selection (runOn edit page).2).1 = (runOn selection page).1 ∧
      ∃ forEdit forSelection,
        (runOn edit page).2.requests = page.requests ++ forEdit ∧
        (runOn selection page).2.requests = page.requests ++ forSelection ∧
        editFirst.requests = page.requests ++ forEdit ++ forSelection ∧
        selectionFirst = { editFirst with
          requests := page.requests ++ forSelection ++ forEdit } :=
  ⟨by decide, .changeText "a", .selectTab "first",
    commute_after_empty {} true (.counting []) _ (by decide) (.changeText "a")
      (.selectTab "first")⟩

end Widgetry.Page
