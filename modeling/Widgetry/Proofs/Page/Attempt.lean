import Widgetry.Page.Resolution
import Widgetry.Proofs.Table

/-!
# What attempts come to

An attempt on a page has an outcome and leaves a page behind. What an operation comes to is stated
by one equation for both, in terms of what can be seen of the page before it. Here are the
equations for the steps from which operations are made: looking at a widget never changes the page,
and resolving one draws keys and changes nothing else.
-/

namespace Widgetry.Page

/-- The outcome of an attempt on a page, and the page after it. -/
def runOn {α : Type} (x : Attempt α) (page : Page) : Except PageError α × Page :=
  x page

section Steps

variable {α β : Type} (page : Page)

theorem run_bind (c : Change α) (f : α → Change β) :
    (c >>= f).run page = (f (c.run page).1).run (c.run page).2 := rfl

theorem run_get : (get : Change Page).run page = (page, page) := rfl

theorem run_modify (f : Page → Page) : (modify f : Change PUnit).run page = (⟨⟩, f page) := rfl

theorem run_drawing (d : Drawing α) :
    (drawing d).run page = ((d.run page.keys).1, { page with keys := (d.run page.keys).2 }) := rfl

@[simp] theorem runOn_pure (a : α) : runOn (pure a) page = (.ok a, page) := rfl

@[simp] theorem runOn_throw (e : PageError) :
    runOn (throw e : Attempt α) page = (.error e, page) := rfl

@[simp] theorem runOn_get : runOn (get : Attempt Page) page = (.ok page, page) := rfl

@[simp] theorem runOn_set (page' : Page) :
    runOn (set page' : Attempt PUnit) page = (.ok ⟨⟩, page') := rfl

@[simp] theorem runOn_modify (f : Page → Page) :
    runOn (modify f : Attempt PUnit) page = (.ok ⟨⟩, f page) := rfl

@[simp] theorem runOn_lift (c : Change α) :
    runOn (ExceptT.lift c) page = (.ok (c.run page).1, (c.run page).2) := rfl

theorem runOn_bind (x : Attempt α) (f : α → Attempt β) :
    runOn (x >>= f) page = match runOn x page with
      | (.ok a, page') => runOn (f a) page'
      | (.error e, page') => (.error e, page') := by
  show ExceptT.bindCont f (x page).1 (x page).2 = _
  unfold runOn
  rcases x page with ⟨_ | _, _⟩ <;> rfl

theorem runOn_bind_of_ok {x : Attempt α} {a : α} {page' : Page} (f : α → Attempt β)
    (h : runOn x page = (.ok a, page')) : runOn (x >>= f) page = runOn (f a) page' := by
  rw [runOn_bind, h]

theorem runOn_bind_of_error {x : Attempt α} {e : PageError} {page' : Page} (f : α → Attempt β)
    (h : runOn x page = (.error e, page')) : runOn (x >>= f) page = (.error e, page') := by
  rw [runOn_bind, h]

theorem runOn_widget (id : WidgetId) :
    runOn (widget id) page = match page.widget? id with
      | some w => (.ok w, page)
      | none => (.error (.notMounted id), page) := by
  rw [widget, runOn_bind_of_ok page _ (runOn_get page)]
  cases page.widget? id <;> rfl

/-- What begins with a look at a widget comes to what follows, or fails at once. -/
theorem runOn_widget_bind (id : WidgetId) (f : Instance → Attempt β) :
    runOn (widget id >>= f) page = match page.widget? id with
      | some w => runOn (f w) page
      | none => (.error (.notMounted id), page) := by
  rw [runOn_bind, runOn_widget]
  cases page.widget? id <;> rfl

end Steps

/-- A mounted widget of a kind, or the failure that there is none. -/
def ofKind (page : Page) (kind : WidgetKind) (id : WidgetId) : Except PageError Instance :=
  match page.widget? id with
  | some w => if w.kind = kind then .ok w else .error (.wrongKind kind w.kind)
  | none => .error (.notMounted id)

theorem ofKind_eq_ok_iff (page : Page) (kind : WidgetKind) (id : WidgetId) (w : Instance) :
    page.ofKind kind id = .ok w ↔ page.widget? id = some w ∧ w.kind = kind := by
  unfold ofKind
  cases page.widget? id with
  | none => simp
  | some w' =>
      dsimp only
      split
      next h => simpa using fun heq => heq ▸ h
      next h => simpa using fun heq => heq ▸ h

theorem runOn_widgetOfKind_bind {β : Type} (page : Page) (kind : WidgetKind) (id : WidgetId)
    (f : Instance → Attempt β) :
    runOn (widgetOfKind kind id >>= f) page = match page.ofKind kind id with
      | .ok w => runOn (f w) page
      | .error e => (.error e, page) := by
  have hwidget : runOn (widgetOfKind kind id) page = (page.ofKind kind id, page) := by
    rw [widgetOfKind, runOn_widget_bind, ofKind]
    cases page.widget? id with
    | none => rfl
    | some w =>
        dsimp only
        split <;> rfl
  rw [runOn_bind, hwidget]
  cases page.ofKind kind id <;> rfl

/-! ## Resolved properties -/

/-- The resolved properties of a widget, and the page after keys have been drawn for them. -/
def resolvedOf (page : Page) (w : Instance) : Fields × Page :=
  (((page.resolve w).run page.keys).1, { page with keys := ((page.resolve w).run page.keys).2 })

/-- The derived properties of a widget, and the page after keys have been drawn for them. -/
def derivedOf (page : Page) (w : Instance) : Fields × Page :=
  (((page.derive w).run page.keys).1, { page with keys := ((page.derive w).run page.keys).2 })

theorem runOn_resolved (page : Page) (id : WidgetId) :
    runOn (resolved id) page = match page.widget? id with
      | some w => (.ok (page.resolvedOf w).1, (page.resolvedOf w).2)
      | none => (.error (.notMounted id), page) := by
  rw [resolved, runOn_widget_bind]
  cases page.widget? id <;> rfl

theorem runOn_derived (page : Page) (id : WidgetId) :
    runOn (derived id) page = match page.widget? id with
      | some w => (.ok (page.derivedOf w).1, (page.derivedOf w).2)
      | none => (.error (.notMounted id), page) := by
  rw [derived, runOn_widget_bind]
  cases page.widget? id <;> rfl

end Widgetry.Page
