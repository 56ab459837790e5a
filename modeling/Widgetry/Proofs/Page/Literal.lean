import Widgetry.Proofs.Page.Resolved
import Widgetry.Proofs.Template.Literal

/-!
# Literals are not evaluated

Where properties are resolved, where widgets are seeded, and where the pane validates, texts
without a binding are passed over: they are not read as templates. Nothing is lost by that, since
such a text has itself as its value in every scope. A widget without bindings is seeded once, and
evaluating its properties and seeding it again would come to the same.
-/

namespace Widgetry

/-- A value where every text is evaluated, whether it holds a binding or not. -/
def Scope.evaluated (scope : Scope) : Json → Json
  | .str source => scope.value source
  | v => v

theorem Scope.evaluated_of_not_isBinding (scope : Scope) {v : Json} (h : v.isBinding = false) :
    scope.evaluated v = v := by
  cases v with
  | str s =>
      rw [evaluated, value, evalTemplate, Template.ofString_of_not_isBinding h]
      exact congrArg (fun result => Json.ofOption result.toOption)
        (Template.eval_textSegment scope s)
  | null | bool _ | num _ | arr _ | obj _ => rfl

theorem Table.drawEach_pure {κ α : Type} (t : Table κ α) :
    drawEach (fun _ v => (pure v : Drawing α)) t = pure t := by
  have hmap : t.mapM (fun entry => (pure entry : Drawing (κ × α))) =
      pure (t.map fun entry => entry) := List.mapM_pure
  rw [List.map_id'] at hmap
  exact hmap

/-- The outcomes of all literal properties that have a rule, which is given what they come to when
they are evaluated. -/
def Behavior.validateEvaluated (scope : Scope) (b : Behavior) (w : Instance) :
    Drawing (List (String × Outcome)) := do
  let outcomes ← b.pane.entries.mapM fun entry =>
    match entry.rule, w.get? entry.property with
    | some rule, some v =>
      if v.isBinding then pure none
      else do
        let o ← rule.validate w.properties (scope.evaluated v)
        return some (entry.property, o)
    | _, _ => pure none
  return outcomes.filterMap id

theorem Behavior.validate_eq_validateEvaluated (scope : Scope) (b : Behavior) (w : Instance) :
    b.validate w = b.validateEvaluated scope w := by
  rw [validate, validateEvaluated]
  refine congrArg (fun f => b.pane.entries.mapM f >>= fun outcomes => pure (outcomes.filterMap id))
    (funext fun entry => ?_)
  rw [validateEntry]
  cases entry.rule with
  | none => rfl
  | some rule =>
      cases w.get? entry.property with
      | none => rfl
      | some v =>
          dsimp only
          split
          next => rfl
          next h =>
            rw [Bool.not_eq_true] at h
            rw [scope.evaluated_of_not_isBinding h]

namespace Page

/-- The properties of a widget where every literal is evaluated, and every binding resolved. -/
def evaluateAll (page : Page) (w : Instance) : Drawing Fields :=
  Table.drawEach
    (fun property v =>
      if v.isBinding then resolveValue (page.scopeOf w) w property v
      else pure ((page.scopeOf w).evaluated v))
    w.properties

/-- Seeds a widget as it is saved and then with its properties evaluated, without regard to whether
there is a binding. -/
def seedTwice (w : Instance) : Change Unit := do
  modify fun page => { page with states := page.states.seed w }
  let properties ← drawing ((← get).evaluateAll w)
  modify fun page => { page with states := page.states.seed { w with properties } }

theorem resolve_eq_evaluateAll (page : Page) (w : Instance) :
    page.resolve w = page.evaluateAll w := by
  refine Table.drawEach_congr fun entry _ => ?_
  split
  next => rfl
  next h =>
    rw [Bool.not_eq_true] at h
    rw [resolveValue_of_not_isBinding _ _ _ h, Scope.evaluated_of_not_isBinding _ h]

/-- Without a binding there is nothing to resolve. -/
theorem resolve_of_not_isBinding (page : Page) {w : Instance}
    (h : ∀ entry ∈ w.properties, entry.2.isBinding = false) :
    page.resolve w = pure w.properties := by
  refine Eq.trans ?_ (Table.drawEach_pure w.properties)
  exact Table.drawEach_congr fun entry hentry =>
    resolveValue_of_not_isBinding _ _ _ (h entry hentry)

/-- What a widget is seeded with is always what its resolved properties come to. -/
theorem seedingOf_eq (page : Page) (w : Instance) :
    page.seedingOf w =
      let found := { page with states := page.states.seed w }.resolvedOf w
      ({ w with properties := found.1 }.seed, found.2.keys) := by
  unfold seedingOf
  split
  next => rfl
  next h =>
    have hliteral : ∀ entry ∈ w.properties, entry.2.isBinding = false := by simpa using h
    rw [resolvedOf, resolve_of_not_isBinding _ hliteral]
    rfl

theorem seed_eq_seedTwice (w : Instance) : seed w = seedTwice w := by
  funext page
  have hslow : (seedTwice w).run page = ((), page.seeded w) := by
    rw [seeded, seedingOf_eq]
    dsimp only
    rw [← MetaStore.seed_seed, resolvedOf, resolve_eq_evaluateAll]
    rfl
  exact (run_seed page w).trans hslow.symm

/-- The two ways to find bindings agree. A text in which the search finds no binding is a template
that is not dynamic and has the text as its value in every scope; one in which it finds a binding is
a dynamic template, or no template at all. So passing over texts without a binding comes to the same
as evaluating them, where properties are resolved, where a widget is seeded, and where the pane
validates. -/
theorem isBinding_agrees_with_template :
    (∀ s, isBinding s = false →
      ∃ t, Template.ofString s = .ok t ∧ t.isDynamic = false ∧
        ∀ scope, t.eval scope = .ok (.str s)) ∧
      (∀ s t, isBinding s = true → Template.ofString s = .ok t → t.isDynamic = true) ∧
      (∀ (page : Page) w, page.resolve w = page.evaluateAll w) ∧
      (∀ w, seed w = seedTwice w) ∧
      ∀ scope (b : Behavior) w, b.validate w = b.validateEvaluated scope w := by
  refine ⟨fun s h => ?_, fun s t h => Template.isDynamic_of_isBinding h, resolve_eq_evaluateAll,
    seed_eq_seedTwice, Behavior.validate_eq_validateEvaluated⟩
  exact ⟨_, Template.ofString_of_not_isBinding h, Template.isDynamic_textSegment s.toList,
    fun scope => Template.eval_textSegment scope s⟩

end Page

end Widgetry
