import Widgetry.Derived

/-!
# What the value of a binding depends on

An expression looks up the names that stand in it and makes the calls that stand in it; it sees
nothing else of its scope. So in two scopes that agree on these names and calls it has the same
value, or fails in the same way, and so has a template. Whatever a scope holds under other names has
no part in the value.
-/

namespace Widgetry

namespace Expr

mutual

/-- The names that an expression looks up. -/
def names : Expr → List String
  | .literal _ => []
  | .ident name => [name]
  | .member object _ => object.names
  | .index object position => object.names ++ position.names
  | .call _ args => namesOfAll args
  | .unary _ operand => operand.names
  | .binary _ left right => left.names ++ right.names
  | .conditional condition yes no => condition.names ++ (yes.names ++ no.names)

/-- The names that some expressions look up. -/
def namesOfAll : List Expr → List String
  | [] => []
  | e :: rest => e.names ++ namesOfAll rest

end

mutual

/-- The functions that an expression calls, each with the number of its arguments. -/
def calls : Expr → List (String × Nat)
  | .literal _ => []
  | .ident _ => []
  | .member object _ => object.calls
  | .index object position => object.calls ++ position.calls
  | .call function args => (function, args.length) :: callsOfAll args
  | .unary _ operand => operand.calls
  | .binary _ left right => left.calls ++ right.calls
  | .conditional condition yes no => condition.calls ++ (yes.calls ++ no.calls)

/-- The functions that some expressions call. -/
def callsOfAll : List Expr → List (String × Nat)
  | [] => []
  | e :: rest => e.calls ++ callsOfAll rest

end

end Expr

/-- Whether two scopes have the same values for some names, and the same results for some calls with
whatever arguments. -/
structure Scope.AgreeFor (names : List String) (calls : List (String × Nat))
    (scope scope' : Scope) : Prop where
  resolve : ∀ name ∈ names, scope.resolve? name = scope'.resolve? name
  call : ∀ call ∈ calls, ∀ args,
    scope.functions.call call.1 args = scope'.functions.call call.1 args

/-- Whether two scopes have the same functions, and the same values for some names. -/
structure Scope.AgreeOn (names : List String) (scope scope' : Scope) : Prop where
  functions : scope.functions = scope'.functions
  resolve : ∀ name ∈ names, scope.resolve? name = scope'.resolve? name

namespace Scope.AgreeOn

variable {names more : List String} {scope scope' : Scope}

theorem left (h : AgreeOn (names ++ more) scope scope') : AgreeOn names scope scope' where
  functions := h.functions
  resolve := fun name hname => h.resolve name (List.mem_append_left more hname)

theorem right (h : AgreeOn (names ++ more) scope scope') : AgreeOn more scope scope' where
  functions := h.functions
  resolve := fun name hname => h.resolve name (List.mem_append_right names hname)

/-- Scopes with the same functions agree on all calls. -/
theorem agreeFor (h : AgreeOn names scope scope') (calls : List (String × Nat)) :
    AgreeFor names calls scope scope' where
  resolve := h.resolve
  call := fun _ _ _ => by rw [h.functions]

end Scope.AgreeOn

namespace Expr

variable {scope scope' : Scope}

section

variable {ns : List String} {cs : List (String × Nat)}

mutual

/-- Scopes that agree on the names and the calls of an expression give it the same value. -/
theorem eval_eq_of_agreeFor (h : Scope.AgreeFor ns cs scope scope') (e : Expr)
    (hn : e.names ⊆ ns) (hc : e.calls ⊆ cs) : e.eval scope = e.eval scope' := by
  cases e with
  | literal v => rw [eval, eval]
  | ident name => rw [eval, eval, h.resolve name (hn (List.mem_singleton_self name))]
  | member object name => rw [eval, eval, eval_eq_of_agreeFor h object hn hc]
  | index object position =>
      rw [names, List.append_subset] at hn
      rw [calls, List.append_subset] at hc
      rw [eval, eval, eval_eq_of_agreeFor h object hn.1 hc.1,
        eval_eq_of_agreeFor h position hn.2 hc.2]
  | call function args =>
      rw [calls, List.cons_subset] at hc
      rw [eval, eval, evalAll_eq_of_agreeFor h args hn hc.2]
      exact congrArg (evalAll scope' args >>= ·) (funext (h.call _ hc.1))
  | unary op operand => rw [eval, eval, eval_eq_of_agreeFor h operand hn hc]
  | binary op left right =>
      rw [names, List.append_subset] at hn
      rw [calls, List.append_subset] at hc
      rw [eval, eval, eval_eq_of_agreeFor h left hn.1 hc.1, eval_eq_of_agreeFor h right hn.2 hc.2]
  | conditional condition yes no =>
      rw [names, List.append_subset, List.append_subset] at hn
      rw [calls, List.append_subset, List.append_subset] at hc
      rw [eval, eval, eval_eq_of_agreeFor h condition hn.1 hc.1,
        eval_eq_of_agreeFor h yes hn.2.1 hc.2.1, eval_eq_of_agreeFor h no hn.2.2 hc.2.2]

theorem evalAll_eq_of_agreeFor (h : Scope.AgreeFor ns cs scope scope') (es : List Expr)
    (hn : namesOfAll es ⊆ ns) (hc : callsOfAll es ⊆ cs) :
    evalAll scope es = evalAll scope' es := by
  cases es with
  | nil => rw [evalAll, evalAll]
  | cons e rest =>
      rw [namesOfAll, List.append_subset] at hn
      rw [callsOfAll, List.append_subset] at hc
      rw [evalAll, evalAll, eval_eq_of_agreeFor h e hn.1 hc.1,
        evalAll_eq_of_agreeFor h rest hn.2 hc.2]

end

end

/-- Scopes that agree on the names of an expression give it the same value. -/
theorem eval_congr (e : Expr) (h : Scope.AgreeOn e.names scope scope') :
    e.eval scope = e.eval scope' :=
  eval_eq_of_agreeFor (h.agreeFor e.calls) e (List.Subset.refl _) (List.Subset.refl _)

end Expr

/-! ## Templates -/

namespace Template

/-- The names that the bindings of segments look up. -/
def namesOfSegments : List Segment → List String
  | [] => []
  | .text _ :: rest => namesOfSegments rest
  | .binding _ expression :: rest => expression.names ++ namesOfSegments rest

variable {scope scope' : Scope}

theorem displayAll_congr (segments : List Segment)
    (h : Scope.AgreeOn (namesOfSegments segments) scope scope') :
    displayAll scope segments = displayAll scope' segments := by
  induction segments with
  | nil => rfl
  | cons segment rest ih =>
      cases segment with
      | text s => rw [displayAll, displayAll, ih h, Segment.display, Segment.display]
      | binding source expression =>
          rw [namesOfSegments] at h
          rw [displayAll, displayAll, ih h.right, Segment.display, Segment.display,
            expression.eval_congr h.left]

theorem eval_congr (t : Template) (h : Scope.AgreeOn (namesOfSegments t.segments) scope scope') :
    t.eval scope = t.eval scope' := by
  obtain ⟨segments⟩ := t
  have hall := displayAll_congr segments h
  unfold eval
  split
  next source expression heq =>
    simp only at heq
    subst heq
    exact expression.eval_congr h.left
  next => rw [hall]

end Template

/-- The names that the bindings of a text look up. A text that is no template has none. -/
def namesIn (source : String) : List String :=
  match Template.ofString source with
  | .ok t => Template.namesOfSegments t.segments
  | .error _ => []

/-- Scopes that agree on the names of a binding give it the same value. -/
theorem Scope.value_congr {scope scope' : Scope} {source : String}
    (h : AgreeOn (namesIn source) scope scope') : scope.value source = scope'.value source := by
  rw [namesIn] at h
  rw [value, value, evalTemplate, evalTemplate]
  cases ht : Template.ofString source with
  | error e => rfl
  | ok t =>
      rw [ht] at h
      exact congrArg (fun result => Json.ofOption result.toOption) (t.eval_congr h)

end Widgetry
