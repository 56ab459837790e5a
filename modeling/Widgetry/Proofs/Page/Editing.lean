import Widgetry.Proofs.Page.Call
import Widgetry.Proofs.Page.Independence

/-!
# An input that is used

While an input is used it is a small machine: its text, whether it is dirty, and whether it has the
focus. It takes a step when the text is edited, when the focus comes or goes, and when the action
for submitting has come to an end; whether the text is cleared then, its resolved properties say at
that moment. Nothing that is done with other widgets moves it. So an input is dirty if and only if
its text has been edited since it was seeded.
-/

namespace Widgetry

/-! ## The machine -/

/-- What an input shows while it is used. -/
structure InputState where
  text : Json
  isDirty : Bool
  isFocused : Bool

/-- What happens to an input. -/
inductive InputEvent where
  | typed (text : String)
  | focused (isFocused : Bool)
  | submitted
  /-- The action for submitting has come to an end. -/
  | finished (success resets : Bool)

namespace InputState

/-- The state after an event. -/
def step (s : InputState) : InputEvent → InputState
  | .typed text => { s with text := .str text, isDirty := true }
  | .focused isFocused => { s with isFocused }
  | .submitted => s
  | .finished success resets => if success && resets then { s with text := .str "" } else s

/-- The state after events, one after the other. -/
def run (s : InputState) (events : List InputEvent) : InputState :=
  events.foldl step s

theorem isDirty_step_iff (s : InputState) (e : InputEvent) :
    (s.step e).isDirty = true ↔ s.isDirty = true ∨ ∃ text, e = .typed text := by
  cases e with
  | typed text => simp [step]
  | focused isFocused => simp [step]
  | submitted => simp [step]
  | finished success resets =>
      rw [step]
      split <;> simp

theorem isDirty_run_iff (s : InputState) (events : List InputEvent) :
    (s.run events).isDirty = true ↔ s.isDirty = true ∨ ∃ text, .typed text ∈ events := by
  induction events generalizing s with
  | nil => simp [run]
  | cons e rest ih =>
      have hrest := ih (s.step e)
      rw [isDirty_step_iff] at hrest
      rw [run, List.foldl_cons, ← run, hrest, or_assoc]
      refine or_congr_right ?_
      simp only [List.mem_cons, exists_or, eq_comm]

end InputState

namespace Page

/-! ## What happens to an input on a page -/

/-- Whether the resolved properties of an input say that its text is cleared after submitting. -/
def resetsOnSubmit (page : Page) (id : WidgetId) : Bool :=
  match (runOn (resolved id) page).1 with
  | .ok properties => (properties.get? "resetOnSubmit").any Json.truthy
  | .error _ => false

/-- What an operation on a page is for the input with an id. -/
def Operation.inputEvent? (page : Page) (id : WidgetId) (op : Operation) : Option InputEvent :=
  if op.target? = some id then
    match op with
    | changeText _ text => some (.typed text)
    | changeFocus _ focused => some (.focused focused)
    | submit _ => some .submitted
    | finishSubmit _ success => some (.finished success (page.resetsOnSubmit id))
    | _ => none
  else none

/-- What operations are for the input with an id, each on the page that it finds. -/
def inputEvents (page : Page) (id : WidgetId) : List Operation → List InputEvent
  | [] => []
  | op :: ops => (op.inputEvent? page id).toList ++ inputEvents (op.after page) id ops

/-- Reading the keys of an input gives a state. -/
structure Shows (page : Page) (id : WidgetId) (s : InputState) : Prop where
  text : runOn (read id "text") page = (.ok s.text, page)
  isDirty : runOn (read id "isDirty") page = (.ok (.bool s.isDirty), page)
  isFocused : runOn (read id "isFocused") page = (.ok (.bool s.isFocused), page)

/-- Whether an operation seeds the widget with an id. -/
def Operation.IsSeedingOf (id : WidgetId) : Operation → Prop
  | mount saved => saved.id = id
  | reset id' => id' = id
  | _ => False

/-- Whether an operation leaves it to interactions what becomes of the widget with an id: it does
not bring it, take it away, reset it, or write to its meta-state directly. -/
def Operation.IsUse (id : WidgetId) : Operation → Prop
  | mount saved => saved.id ≠ id
  | unmount id' | reset id' | update id' _ _ _ => id' ≠ id
  | _ => True

theorem Operation.inputEvent?_eq_typed_iff (page : Page) (id : WidgetId) (op : Operation)
    (text : String) : op.inputEvent? page id = some (.typed text) ↔ op = .changeText id text := by
  cases op <;> simp [inputEvent?, target?]

theorem typed_mem_inputEvents_iff (page : Page) (id : WidgetId) (ops : List Operation)
    (text : String) : .typed text ∈ page.inputEvents id ops ↔ .changeText id text ∈ ops := by
  induction ops generalizing page with
  | nil => simp [inputEvents]
  | cons op ops ih =>
      rw [inputEvents, List.mem_append, Option.mem_toList,
        op.inputEvent?_eq_typed_iff, ih, List.mem_cons, eq_comm]

/-! ## One step -/

section Step

variable {page : Page} {id : WidgetId} {w : Instance} {s : InputState}

theorem shows_iff (hw : page.widget? id = some w) :
    page.Shows id s ↔ page.states.read id "text" = s.text ∧
      page.states.read id "isDirty" = .bool s.isDirty ∧
      page.states.read id "isFocused" = .bool s.isFocused := by
  have hread (key : String) (v : Json) :
      runOn (read id key) page = (.ok v, page) ↔ page.states.read id key = v := by
    rw [runOn_read, hw]
    simp
  rw [← hread, ← hread, ← hread]
  exact ⟨fun h => ⟨h.text, h.isDirty, h.isFocused⟩, fun h => ⟨h.1, h.2.1, h.2.2⟩⟩

theorem Shows.congr (h : page.Shows id s) {page' : Page}
    (hw : page.widget? id = some w) (hwidget : page'.widget? id = page.widget? id)
    (hstate : page'.states.get? id = page.states.get? id) : page'.Shows id s := by
  have hread (key : String) : page'.states.read id key = page.states.read id key := by
    rw [MetaStore.read, hstate, MetaStore.read]
  rw [shows_iff (hwidget.trans hw), hread, hread, hread]
  exact (shows_iff hw).1 h

/-- What is done with other widgets leaves an input and its meta-state alone. -/
theorem Operation.same_after {op : Operation} (huse : op.IsUse id) (htarget : op.target? ≠ some id)
    (hconsistent : page.contents.Consistent) :
    (op.after page).widget? id = page.widget? id ∧
      (op.after page).states.get? id = page.states.get? id := by
  cases hop : op.target? with
  | some id' =>
      have hagree := op.agreeBut_after hop hconsistent
      have hne : id ≠ id' := fun heq => htarget (heq ▸ hop)
      exact ⟨hagree.widget_of_ne hne, hagree.states id hne⟩
  | none =>
      cases op with
      | mount saved =>
          have hne : id ≠ (page.loadedOf saved).1.id := by
            rw [loadedOf, saved.id_load]
            exact Ne.symm huse
          rw [after, run_mount]
          exact ⟨Table.get?_insert_of_ne _ hne _, Table.get?_insert_of_ne _ hne _⟩
      | surround canRun => exact ⟨rfl, rfl⟩
      | _ => cases hop

/-- A write to the text, to the mark of being dirty or to that of the focus is one to the state. -/
theorem Shows.written (h : page.Shows id s) (hw : page.widget? id = some w) {state : MetaState}
    (hstate : page.states.get? id = some state) :
    (∀ text, (page.written id "text" text).Shows id { s with text }) ∧
    (∀ isDirty, (page.written id "isDirty" (.bool isDirty)).Shows id { s with isDirty }) ∧
    ∀ isFocused, (page.written id "isFocused" (.bool isFocused)).Shows id { s with isFocused } := by
  obtain ⟨htext, hdirty, hfocused⟩ := (shows_iff hw).1 h
  have hread (key : String) (v : Json) (key' : String) :
      (page.written id key v).states.read id key' =
        if key' = key then v else page.states.read id key' := by
    refine (MetaStore.read_write page.states hstate key v id key').trans ?_
    simp
  refine ⟨?_, ?_, ?_⟩
  all_goals
    intro v
    refine (shows_iff (show (page.written id _ _).widget? id = some w from hw)).2 ?_
    rw [hread, hread, hread]
  · exact ⟨rfl, hdirty, hfocused⟩
  · exact ⟨htext, rfl, hfocused⟩
  · exact ⟨htext, hdirty, rfl⟩

theorem exists_placeOfKind_input (hconsistent : page.contents.Consistent)
    (hw : page.widget? id = some w) (hkind : w.kind = .input) (key : String)
    (hkey : key ∈ WidgetKind.input.metaKeys) :
    ∃ state, page.states.get? id = some state ∧ page.place id key = .ok (w, state) ∧
      page.placeOfKind .input id key = .ok (w, state) := by
  obtain ⟨state, hstate, -⟩ := hconsistent.exists_state hw
  have hwritable := WidgetKind.input.isWritable_of_mem_metaKeys hkey
  exact ⟨state, hstate, (place_eq_ok_iff page id key w state).2 ⟨hw, hkind ▸ hwritable, hstate⟩,
    (placeOfKind_eq_ok_iff page .input id key w state).2 ⟨hw, hkind, hwritable, hstate⟩⟩

theorem ofKind_of_input (hw : page.widget? id = some w) (hkind : w.kind = .input)
    (kind : WidgetKind) (hne : kind ≠ .input) :
    page.ofKind kind id = .error (.wrongKind kind .input) := by
  rw [ofKind, hw]
  dsimp only
  rw [hkind, if_neg hne.symm]

theorem widget?_edited (page : Page) (id : WidgetId) (w : Instance) (text : String) :
    (page.edited id w text).widget? id = page.widget? id := by
  unfold edited
  split <;> rfl

/-- An edit is a step, whether the input is dirty already or becomes so. -/
theorem Shows.edited (h : page.Shows id s) (hw : page.widget? id = some w) {state : MetaState}
    (hstate : page.states.get? id = some state) (w' : Instance) (text : String) :
    (page.edited id w' text).Shows id (s.step (.typed text)) := by
  have htext : (page.updated id w' "text" text textChange).Shows id { s with text := .str text } :=
    ((h.written hw hstate).1 text).congr hw rfl rfl
  have hstate' : (page.updated id w' "text" text textChange).states.get? id =
      some (state.write "text" text) := by
    refine (MetaStore.get?_write page.states id id "text" text).trans ?_
    rw [if_pos rfl, hstate, Option.map_some]
  rw [Page.edited, ((shows_iff hw).1 h).2.1]
  cases hdirty : s.isDirty with
  | true =>
      have hsame : s.step (.typed text) = { s with text := .str text } := by
        rw [InputState.step, ← hdirty]
      rw [hsame]
      exact htext
  | false => exact (htext.written hw hstate').2.1 true

/-- The end of submitting is a step, with what the resolved properties say where it comes. -/
theorem Shows.finishSubmit (h : page.Shows id s) (hconsistent : page.contents.Consistent)
    (hw : page.widget? id = some w) (hkind : w.kind = .input) (success : Bool) :
    let page' := (runOn (finishSubmit id success) page).2
    page'.widget? id = some w ∧
      page'.Shows id (s.step (.finished success (page.resetsOnSubmit id))) := by
  obtain ⟨state, hstate, hplace, -⟩ :=
    exists_placeOfKind_input hconsistent hw hkind "text" (by decide)
  have hresets : page.resetsOnSubmit id =
      ((page.resolvedOf w).1.get? "resetOnSubmit").any Json.truthy := by
    rw [resetsOnSubmit, runOn_resolved, hw]
  dsimp only
  rw [finishSubmit_eq, runOn_updateWhen, (ofKind_eq_ok_iff page _ _ w).2 ⟨hw, hkind⟩]
  dsimp only
  rw [← hresets, hplace, InputState.step]
  split
  next => exact ⟨hw, ((h.written hw hstate).1 "").congr hw rfl rfl⟩
  next => exact ⟨hw, h.congr hw rfl rfl⟩

/-- An operation is a step of the input for what it is for the input, and otherwise none. -/
theorem Operation.shows_after (hconsistent : page.contents.Consistent)
    (hw : page.widget? id = some w) (hkind : w.kind = .input) (h : page.Shows id s)
    {op : Operation} (huse : op.IsUse id) :
    (op.after page).widget? id = some w ∧
      (op.after page).Shows id (s.run (op.inputEvent? page id).toList) := by
  have hsame (hcontents : (op.after page).contents = page.contents) :
      (op.after page).widget? id = some w ∧ (op.after page).Shows id s := by
    have hwidget : (op.after page).widget? id = page.widget? id :=
      congrArg (fun c => c.widgets.get? id) hcontents
    have hstate : (op.after page).states.get? id = page.states.get? id :=
      congrArg (fun c => c.states.get? id) hcontents
    exact ⟨hwidget.trans hw, h.congr hw hwidget hstate⟩
  by_cases htarget : op.target? = some id
  · unfold inputEvent?
    rw [if_pos htarget]
    cases op with
    | mount _ | surround _ => cases htarget
    | unmount _ | reset _ | update _ _ _ _ => exact absurd (Option.some.inj htarget) huse
    | resolve _ | derive _ | execute _ _ | canSubmit _ | submit _ | changeUrl _ _ =>
        exact hsame (contents_after _ page)
    | changeText id' text =>
        obtain rfl := Option.some.inj htarget
        obtain ⟨state, hstate, -, hplace⟩ :=
          exists_placeOfKind_input hconsistent hw hkind "text" (by decide)
        rw [after, runOn_changeText, hplace]
        exact ⟨(page.widget?_edited id' w text).trans hw, h.edited hw hstate w text⟩
    | changeFocus id' focused =>
        obtain rfl := Option.some.inj htarget
        obtain ⟨state, hstate, -, hplace⟩ :=
          exists_placeOfKind_input hconsistent hw hkind "isFocused" (by decide)
        rw [after, runOn_changeFocus, hplace]
        exact ⟨hw, ((h.written hw hstate).2.2 focused).congr hw rfl rfl⟩
    | finishSubmit id' success =>
        obtain rfl := Option.some.inj htarget
        exact h.finishSubmit hconsistent hw hkind success
    -- what is for widgets of other kinds fails before it does anything
    | receiveMessage id' origin data =>
        obtain rfl := Option.some.inj htarget
        rw [after, receiveMessage_eq, runOn_updateWhen,
          ofKind_of_input hw hkind .iframe (by decide)]
        exact ⟨hw, h⟩
    | selectTab id' widgetId =>
        obtain rfl := Option.some.inj htarget
        rw [after, runOn_selectTab, placeOfKind, ofKind_of_input hw hkind .tabs (by decide)]
        exact ⟨hw, h⟩
  · obtain ⟨hwidget, hstate⟩ := op.same_after huse htarget hconsistent
    unfold inputEvent?
    rw [if_neg htarget]
    exact ⟨hwidget.trans hw, h.congr hw hwidget hstate⟩

end Step

/-! ## A whole run -/

theorem shows_after {page : Page} (hconsistent : page.contents.Consistent) {id : WidgetId}
    {w : Instance} (hw : page.widget? id = some w) (hkind : w.kind = .input) {s : InputState}
    (h : page.Shows id s) {ops : List Operation} (huse : ∀ op ∈ ops, op.IsUse id) :
    (page.after ops).Shows id (s.run (page.inputEvents id ops)) := by
  induction ops generalizing page s with
  | nil => exact h
  | cons op ops ih =>
      obtain ⟨hw', hstep⟩ := op.shows_after hconsistent hw hkind h (huse op List.mem_cons_self)
      have hrest := ih (op.consistent_after hconsistent) hw' hstep
        fun other hother => huse other (List.mem_cons_of_mem op hother)
      rw [inputEvents, InputState.run, List.foldl_append]
      exact hrest

/-! ## The first state -/

theorem get?_seedingOf_of_input (page : Page) {w : Instance} (hkind : w.kind = .input)
    {key : String} (hne : key ≠ "text") :
    (page.seedingOf w).1.get? key = Input.metaDefaults.get? key := by
  have hseed (w : Instance) (hkind : w.kind = .input) :
      w.seed.get? key = Input.metaDefaults.get? key := by
    rw [Instance.seed, hkind]
    exact Behavior.get?_seedFrom_of_not_mem _ _ w fun hmem => hne (List.mem_singleton.1 hmem)
  unfold seedingOf
  split
  next => exact hseed _ hkind
  next => exact hseed w hkind

theorem shows_seeded (page : Page) {w : Instance} (hw : page.widget? w.id = some w)
    (hkind : w.kind = .input) :
    ∃ text, (page.seeded w).Shows w.id ⟨text, false, false⟩ := by
  have hread (key : String) : (page.seeded w).states.read w.id key =
      .ofOption (((page.seedingOf w).1.get? key).or (Input.metaDefaults.get? key)) := by
    refine (MetaStore.read_insert page.states w.id w.id _ key).trans ?_
    rw [if_pos rfl, hkind]
    rfl
  refine ⟨_, (shows_iff (show (page.seeded w).widget? w.id = some w from hw)).2 ⟨rfl, ?_, ?_⟩⟩
  · rw [hread, page.get?_seedingOf_of_input hkind (by decide)]
    rfl
  · rw [hread, page.get?_seedingOf_of_input hkind (by decide)]
    rfl

/-- An input that has just been seeded is neither dirty nor focused. -/
theorem Operation.shows_after_seeding {page : Page} (hconsistent : page.contents.Consistent)
    {op : Operation} {id : WidgetId} (hop : op.IsSeedingOf id) {w : Instance}
    (hw : (op.after page).widget? id = some w) (hkind : w.kind = .input) :
    ∃ text, (op.after page).Shows id ⟨text, false, false⟩ := by
  cases op with
  | mount saved =>
      rw [after, run_mount] at hw ⊢
      have hid : (page.loadedOf saved).1.id = id := (saved.id_load page.keys).trans hop
      have hmounted : (page.loadedOf saved).2.widget? id = some (page.loadedOf saved).1 :=
        hid ▸ Table.get?_insert_self page.widgets _ _
      obtain rfl : (page.loadedOf saved).1 = w := Option.some.inj (hmounted.symm.trans hw)
      rw [← hid] at hmounted ⊢
      exact shows_seeded _ hmounted hkind
  | reset id' =>
      obtain rfl : id' = id := hop
      rw [after, runOn_reset] at hw ⊢
      cases hmounted : page.widget? id' with
      | none =>
          rw [hmounted] at hw
          cases hw.symm.trans hmounted
      | some w' =>
          rw [hmounted] at hw
          obtain rfl : w' = w := Option.some.inj (hmounted.symm.trans hw)
          obtain ⟨-, -, rfl, -, -⟩ := hconsistent.exists_state hmounted
          exact shows_seeded page hmounted hkind
  | _ => exact hop.elim

/-- An input that has just been seeded, by mounting or by resetting it, on any page that is reached
from an empty one. Whatever follows, as long as the input stays and its meta-state is not reset or
written to directly, it shows the state to which the machine comes from what it was seeded with by
what happens to it. So it is dirty if and only if its text has been edited since then, and once
dirty it stays so. -/
theorem input_after_empty (config : Config) (canRun : Bool) (keys : KeySupply)
    (earlier : List Operation) {id : WidgetId} {seeding : Operation}
    (hseeding : seeding.IsSeedingOf id) {w : Instance}
    (hw : ((empty config canRun keys).after (earlier ++ [seeding])).widget? id = some w)
    (hkind : w.kind = .input) :
    let start := (empty config canRun keys).after (earlier ++ [seeding])
    ∃ s, start.Shows id s ∧ s.isDirty = false ∧ s.isFocused = false ∧
      ∀ ops, (∀ op ∈ ops, op.IsUse id) →
        let now := s.run (start.inputEvents id ops)
        (start.after ops).Shows id now ∧
        (now.isDirty = true ↔ ∃ text, .changeText id text ∈ ops) ∧
        ∀ more, now.isDirty = true →
          (s.run (start.inputEvents id (ops ++ more))).isDirty = true := by
  intro start
  have hconsistent := consistent_after (consistent_empty config canRun keys)
  have hstart : start = seeding.after ((empty config canRun keys).after earlier) :=
    after_append _ earlier [seeding]
  obtain ⟨text, hshows⟩ : ∃ text, start.Shows id ⟨text, false, false⟩ := by
    rw [hstart]
    exact seeding.shows_after_seeding (hconsistent earlier) hseeding (hstart ▸ hw) hkind
  have hdirty (ops : List Operation) :
      (InputState.run ⟨text, false, false⟩ (start.inputEvents id ops)).isDirty = true ↔
        ∃ text, .changeText id text ∈ ops := by
    rw [InputState.isDirty_run_iff]
    simp only [typed_mem_inputEvents_iff, Bool.false_eq_true, false_or]
  refine ⟨⟨text, false, false⟩, hshows, rfl, rfl, ?_⟩
  intro ops huse now
  refine ⟨shows_after (hconsistent _) hw hkind hshows huse, hdirty ops, ?_⟩
  intro more hnow
  obtain ⟨edit, hmem⟩ := (hdirty ops).1 hnow
  exact (hdirty _).2 ⟨edit, List.mem_append_left more hmem⟩

/-- An input whose text is cleared after submitting as soon as another input is dirty. -/
theorem input_after_empty_bound :
    let dirty : Json := .str "\x7b\x7b Town.isDirty \x7d\x7d"
    let name : Instance :=
      ⟨⟨1⟩, "Name", .input, none, [("defaultText", .str "nobody"), ("resetOnSubmit", dirty)]⟩
    let town : Instance := ⟨⟨2⟩, "Town", .input, none, []⟩
    let start := (empty {} true (.counting [])).after ([.mount town] ++ [.mount name])
    (Operation.mount name).IsSeedingOf name.id ∧ start.widget? name.id = some name ∧
      name.kind = .input ∧
      ∃ s, start.Shows name.id s ∧ s.isDirty = false ∧ s.isFocused = false ∧
        ∀ ops, (∀ op ∈ ops, op.IsUse name.id) →
          let now := s.run (start.inputEvents name.id ops)
          (start.after ops).Shows name.id now ∧
          (now.isDirty = true ↔ ∃ text, .changeText name.id text ∈ ops) ∧
          ∀ more, now.isDirty = true →
            (s.run (start.inputEvents name.id (ops ++ more))).isDirty = true :=
  ⟨rfl, rfl, rfl, input_after_empty {} true (.counting []) _ rfl rfl rfl⟩

end Page

end Widgetry
