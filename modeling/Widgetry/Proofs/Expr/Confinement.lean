import Mathlib
import Widgetry.Proofs.Expr.Coincidence
import Widgetry.Proofs.Expr.Soundness
import Widgetry.Proofs.Table

/-!
# What an evaluation can reach

An expression reaches what its scope has under the names and the functions that stand in it, and
nothing else. So two scopes that agree on these cannot be told apart, and where the evaluation
reports that something is unknown, or is called with the wrong number of arguments, it stands in the
expression. A function that is called may report anything by itself; those of this library leave
names and numbers of arguments to the evaluation.
-/

namespace Widgetry

namespace Expr

/-- Why an evaluation fails, for an expression with some names and calls in it. -/
inductive Failure (scope : Scope) (names : List String) (calls : List (String × Nat)) :
    ExprError → Prop where
  /-- A name in it has no value. -/
  | unknownIdentifier {name : String} (h : name ∈ names) (hresolve : scope.resolve? name = none) :
      Failure scope names calls (.unknownIdentifier name)
  /-- It calls a function that there is not. -/
  | unknownFunction {name : String} {count : Nat} (h : (name, count) ∈ calls)
      (hfunction : scope.functions.get? name = none) :
      Failure scope names calls (.unknownFunction name)
  /-- It calls a function with a wrong number of arguments. -/
  | arity {name : String} {f : Function} {count : Nat} (h : (name, count) ∈ calls)
      (hfunction : scope.functions.get? name = some f) (hcount : count ≠ f.arity) :
      Failure scope names calls (.arity name f.arity count)
  /-- A function that it calls as it should reports an error. -/
  | reported {name : String} {f : Function} {error : ExprError} (h : (name, f.arity) ∈ calls)
      (hfunction : scope.functions.get? name = some f) (args : Fin f.arity → Json)
      (hreport : f.run args = .error error) : Failure scope names calls error

theorem length_of_evalAll {scope : Scope} {es : List Expr} {vs : List Json}
    (h : evalAll scope es = .ok vs) : vs.length = es.length := by
  induction es generalizing vs with
  | nil =>
      rw [evalAll] at h
      rw [← Except.ok.inj h, List.length_nil, List.length_nil]
  | cons e rest ih =>
      rw [evalAll] at h
      obtain ⟨v, -, htail⟩ := bind_eq_ok_iff.1 h
      obtain ⟨more, hmore, hcons⟩ := bind_eq_ok_iff.1 htail
      rw [← Except.ok.inj hcons, List.length_cons, List.length_cons, ih hmore]

variable {scope : Scope} {ns : List String} {cs : List (String × Nat)} {error : ExprError}

theorem failure_of_call {name : String} {vs : List Json} (hmem : (name, vs.length) ∈ cs)
    (h : scope.functions.call name vs = .error error) : Failure scope ns cs error := by
  unfold Functions.call at h
  split at h
  next hnone =>
    obtain rfl := Except.error.inj h
    exact .unknownFunction hmem hnone
  next f hsome =>
    split at h
    next hcount =>
      rw [hcount] at hmem
      exact .reported hmem hsome _ h
    next hcount =>
      obtain rfl := Except.error.inj h
      exact .arity hmem hsome hcount

mutual

/-- An evaluation fails for a reason that lies in the expression, or in a function that it calls. -/
theorem failure_of_eval (e : Expr) (hn : e.names ⊆ ns) (hc : e.calls ⊆ cs)
    (h : e.eval scope = .error error) : Failure scope ns cs error := by
  cases e with
  | literal v =>
      rw [eval] at h
      cases h
  | ident name =>
      rw [eval] at h
      split at h
      next => cases h
      next hnone =>
        obtain rfl := Except.error.inj h
        exact .unknownIdentifier (hn (List.mem_singleton_self name)) hnone
  | member object name =>
      rw [eval] at h
      rcases bind_eq_error_iff.1 h with hobject | ⟨v, -, hmember⟩
      · exact failure_of_eval object hn hc hobject
      · cases hmember
  | index object position =>
      rw [names, List.append_subset] at hn
      rw [calls, List.append_subset] at hc
      rw [eval] at h
      rcases bind_eq_error_iff.1 h with hobject | ⟨v, -, hrest⟩
      · exact failure_of_eval object hn.1 hc.1 hobject
      · rcases bind_eq_error_iff.1 hrest with hposition | ⟨i, -, hat⟩
        · exact failure_of_eval position hn.2 hc.2 hposition
        · cases hat
  | call function args =>
      rw [calls, List.cons_subset] at hc
      rw [eval] at h
      rcases bind_eq_error_iff.1 h with hargs | ⟨vs, hvs, hcall⟩
      · exact failure_of_evalAll args hn hc.2 hargs
      · rw [← length_of_evalAll hvs] at hc
        exact failure_of_call hc.1 hcall
  | unary op operand =>
      rw [eval] at h
      rcases bind_eq_error_iff.1 h with hoperand | ⟨v, -, hop⟩
      · exact failure_of_eval operand hn hc hoperand
      · cases hop
  | binary op left right =>
      rw [names, List.append_subset] at hn
      rw [calls, List.append_subset] at hc
      rw [eval] at h
      rcases bind_eq_error_iff.1 h with hleft | ⟨l, -, hrest⟩
      · exact failure_of_eval left hn.1 hc.1 hleft
      · -- the right operand is evaluated only if the left one does not decide
        split at hrest
        next => cases hrest
        next =>
          rcases bind_eq_error_iff.1 hrest with hright | ⟨r, -, hop⟩
          · exact failure_of_eval right hn.2 hc.2 hright
          · cases hop
  | conditional condition yes no =>
      rw [names, List.append_subset, List.append_subset] at hn
      rw [calls, List.append_subset, List.append_subset] at hc
      rw [eval] at h
      rcases bind_eq_error_iff.1 h with hcondition | ⟨c, -, hrest⟩
      · exact failure_of_eval condition hn.1 hc.1 hcondition
      · split at hrest
        next => exact failure_of_eval yes hn.2.1 hc.2.1 hrest
        next => exact failure_of_eval no hn.2.2 hc.2.2 hrest

theorem failure_of_evalAll (es : List Expr) (hn : namesOfAll es ⊆ ns) (hc : callsOfAll es ⊆ cs)
    (h : evalAll scope es = .error error) : Failure scope ns cs error := by
  cases es with
  | nil =>
      rw [evalAll] at h
      cases h
  | cons e rest =>
      rw [namesOfAll, List.append_subset] at hn
      rw [callsOfAll, List.append_subset] at hc
      rw [evalAll] at h
      rcases bind_eq_error_iff.1 h with he | ⟨v, -, hrest⟩
      · exact failure_of_eval e hn.1 hc.1 he
      · rcases bind_eq_error_iff.1 hrest with hmore | ⟨vs, -, hcons⟩
        · exact failure_of_evalAll rest hn.2 hc.2 hmore
        · cases hcons

end

end Expr

/-! ## Tables of functions -/

/-- Whether an error says that something is unknown, or is called with a wrong number of
arguments. -/
def ExprError.IsOfLookup : ExprError → Prop
  | .unknownIdentifier _ => True
  | .unknownFunction _ => True
  | .arity _ _ _ => True
  | _ => False

/-- Whether a function leaves it to the evaluation to report what is unknown. -/
def Function.LeavesLookup (f : Function) : Prop :=
  ∀ args error, f.run args = .error error → ¬error.IsOfLookup

/-- Whether the functions of a table leave it to the evaluation to report what is unknown. -/
def Functions.LeaveLookup (functions : Functions) : Prop :=
  ∀ name f, functions.get? name = some f → f.LeavesLookup

namespace Function

theorem leavesLookup_total (f : Json → Json) : (total f).LeavesLookup :=
  fun _ _ h => by cases h

theorem leavesLookup_total₂ (f : Json → Json → Json) : (total₂ f).LeavesLookup :=
  fun _ _ h => by cases h

theorem leavesLookup_inputIsValid : inputIsValid.LeavesLookup :=
  fun _ _ h => by cases h

/-- A value without a length is reported, which is about the value. -/
theorem leavesLookup_len : len.LeavesLookup := by
  intro args error h
  have hlength : (length? (args (0 : Fin 1))).map (fun n => Json.int n) = .error error := h
  unfold length? at hlength
  split at hlength
  all_goals cases hlength
  exact id

end Function

namespace Functions

theorem leaveLookup_nil : LeaveLookup [] :=
  fun _ _ h => by cases h

theorem leaveLookup_ofList {entries : List (String × Function)}
    (h : ∀ entry ∈ entries, entry.2.LeavesLookup) : LeaveLookup (.ofList entries) :=
  fun name f hf => h (name, f) (Table.mem_of_get?_ofList hf)

theorem LeaveLookup.overlay {functions more : Functions} (h : functions.LeaveLookup)
    (hmore : more.LeaveLookup) (hsorted : more.Sorted) :
    LeaveLookup (functions.overlay more) := by
  intro name f hf
  rw [Table.get?_overlay functions hsorted, Option.or_eq_some_iff] at hf
  rcases hf with hf | ⟨-, hf⟩
  · exact hmore name f hf
  · exact h name f hf

theorem leaveLookup_standard : standard.LeaveLookup := by
  refine leaveLookup_ofList ?_
  simp only [List.forall_mem_cons, List.not_mem_nil, false_implies, implies_true, and_true]
  exact ⟨Function.leavesLookup_len, Function.leavesLookup_total _, Function.leavesLookup_total _,
    Function.leavesLookup_total _, Function.leavesLookup_total _, Function.leavesLookup_total₂ _⟩

theorem leaveLookup_ofWidgets : ofWidgets.LeaveLookup := by
  refine leaveLookup_standard.overlay (leaveLookup_ofList ?_) (Table.sorted_ofList _)
  simp only [List.forall_mem_cons, List.not_mem_nil, false_implies, implies_true, and_true]
  exact ⟨Function.leavesLookup_inputIsValid, Function.leavesLookup_total₂ _⟩

end Functions

theorem Scope.resolve?_eq_none_iff {scope : Scope} {name : String} :
    scope.resolve? name = none ↔ name ≠ "this" ∧ name ∉ scope.widgets.keys := by
  rw [resolve?, ← Table.get?_eq_none_iff]
  split
  next hthis => simp [hthis]
  next hthis => simp [hthis]

namespace Expr

/-- **An expression reaches what stands in it and nothing else.** Scopes that agree on its names and
its calls cannot be told apart. Whatever an evaluation fails with lies in the expression, or in a
function that it calls as it should. So where the functions leave it to the evaluation, as those of
this library do, an unknown name stands in the expression and has no value, an unknown function is
called by it and is not in the table, and a wrong number of arguments is the one of a call in it. -/
theorem eval_confined (e : Expr) :
    (∀ scope scope', Scope.AgreeFor e.names e.calls scope scope' → e.eval scope = e.eval scope') ∧
      (∀ scope error, e.eval scope = .error error → Failure scope e.names e.calls error) ∧
      (∀ scope, scope.functions.LeaveLookup →
        (∀ name, e.eval scope = .error (.unknownIdentifier name) →
          name ∈ e.names ∧ name ≠ "this" ∧ name ∉ scope.widgets.keys) ∧
        (∀ name, e.eval scope = .error (.unknownFunction name) →
          (∃ count, (name, count) ∈ e.calls) ∧ name ∉ scope.functions.keys) ∧
        (∀ name expected got, e.eval scope = .error (.arity name expected got) →
          (name, got) ∈ e.calls ∧ got ≠ expected ∧
            ∃ f, scope.functions.get? name = some f ∧ f.arity = expected)) ∧
      Functions.LeaveLookup [] ∧ Functions.standard.LeaveLookup ∧
        Functions.ofWidgets.LeaveLookup := by
  have hsame (scope scope' : Scope) (h : Scope.AgreeFor e.names e.calls scope scope') :
      e.eval scope = e.eval scope' :=
    eval_eq_of_agreeFor h e (List.Subset.refl _) (List.Subset.refl _)
  have hfailure (scope : Scope) (error : ExprError) (h : e.eval scope = .error error) :
      Failure scope e.names e.calls error :=
    failure_of_eval e (List.Subset.refl _) (List.Subset.refl _) h
  refine ⟨hsame, hfailure, fun scope hleave => ⟨?_, ?_, ?_⟩,
    Functions.leaveLookup_nil, Functions.leaveLookup_standard, Functions.leaveLookup_ofWidgets⟩
  · intro name h
    cases hfailure scope _ h with
    | unknownIdentifier hmem hresolve => exact ⟨hmem, Scope.resolve?_eq_none_iff.1 hresolve⟩
    | reported _ hfunction args hreport => exact (hleave _ _ hfunction args _ hreport trivial).elim
  · intro name h
    cases hfailure scope _ h with
    | unknownFunction hmem hfunction =>
        exact ⟨⟨_, hmem⟩, (Table.get?_eq_none_iff _ _).1 hfunction⟩
    | reported _ hfunction args hreport => exact (hleave _ _ hfunction args _ hreport trivial).elim
  · intro name expected got h
    cases hfailure scope _ h with
    | arity hmem hfunction hcount => exact ⟨hmem, hcount, _, hfunction, rfl⟩
    | reported _ hfunction args hreport => exact (hleave _ _ hfunction args _ hreport trivial).elim

/-- A name without a value is reported in the same way, whatever else a scope has. -/
theorem eval_confined_missing :
    Scope.AgreeFor ["Input1", "Missing"] [("trim", 1)]
        ⟨.null, [("Input1", .str "a")], .standard⟩
        ⟨.bool true, [("Input1", .str "a"), ("Other", .str "b")], .ofWidgets⟩ ∧
      (binary .add (.ident "Input1") (.call "trim" [.ident "Missing"])).eval
          ⟨.null, [("Input1", .str "a")], .standard⟩ =
        (binary .add (.ident "Input1") (.call "trim" [.ident "Missing"])).eval
          ⟨.bool true, [("Input1", .str "a"), ("Other", .str "b")], .ofWidgets⟩ ∧
      (binary .add (.ident "Input1") (.call "trim" [.ident "Missing"])).eval
          ⟨.null, [("Input1", .str "a")], .standard⟩ = .error (.unknownIdentifier "Missing") ∧
      "Missing" ∈ ["Input1", "Missing"] ∧ "Missing" ≠ "this" ∧ "Missing" ∉ ["Input1"] := by
  have hagree : Scope.AgreeFor ["Input1", "Missing"] [("trim", 1)]
      ⟨.null, [("Input1", .str "a")], .standard⟩
      ⟨.bool true, [("Input1", .str "a"), ("Other", .str "b")], .ofWidgets⟩ := by
    have hget : Functions.standard.get? "trim" = Functions.ofWidgets.get? "trim" := rfl
    refine ⟨by simp [Scope.resolve?, Table.get?], fun call hcall args => ?_⟩
    obtain rfl := List.mem_singleton.1 hcall
    rw [Functions.call, Functions.call, hget]
  have herror : (binary .add (.ident "Input1") (.call "trim" [.ident "Missing"])).eval
      ⟨.null, [("Input1", .str "a")], .standard⟩ = .error (.unknownIdentifier "Missing") := by
    cbv
  obtain ⟨hsame, -, hconfined, -⟩ :=
    eval_confined (binary .add (.ident "Input1") (.call "trim" [.ident "Missing"]))
  obtain ⟨hunknown, -⟩ :=
    hconfined ⟨.null, [("Input1", .str "a")], .standard⟩ Functions.leaveLookup_standard
  exact ⟨hagree, hsame _ _ hagree, herror, hunknown _ herror⟩

end Expr

end Widgetry
