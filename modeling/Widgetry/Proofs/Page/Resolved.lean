import Widgetry.Proofs.Page.Operation
import Widgetry.Proofs.Rule.Single

/-!
# Resolved values

A property is resolved at the keys that the properties before it have left. Only the value of a
binding goes through the rule of its property; a literal stays as it is written. So a widget works
with the value that the rule asks for exactly if the property is bound, or the rule has nothing to
change about the literal.
-/

namespace Widgetry

/-! ## Values that are drawn one after the other -/

section DrawEach

variable {κ α β : Type}

/-- A dictionary with a value drawn for each of its entries, from the first to the last. -/
def Table.drawEach (f : κ → α → Drawing β) (t : Table κ α) : Drawing (Table κ β) :=
  t.mapM fun (k, v) => do return (k, ← f k v)

theorem Table.run_drawEach_cons (f : κ → α → Drawing β) (entry : κ × α) (t : Table κ α)
    (keys : KeySupply) :
    (drawEach f (entry :: t)).run keys =
      let first := (f entry.1 entry.2).run keys
      let rest := (drawEach f t).run first.2
      ((entry.1, first.1) :: rest.1, rest.2) := by
  rw [drawEach, List.mapM_cons]
  rfl

/-- The value for a key is drawn from the keys that are left by the entries before it. -/
theorem Table.get?_drawEach [DecidableEq κ] (f : κ → α → Drawing β) (t : Table κ α)
    (keys : KeySupply) (k : κ) :
    Table.get? ((drawEach f t).run keys).1 k =
      (t.get? k).map fun v =>
        ((f k v).run ((drawEach f (t.takeWhile fun entry => entry.1 ≠ k)).run keys).2).1 := by
  induction t generalizing keys with
  | nil => rfl
  | cons entry rest ih =>
      rw [run_drawEach_cons]
      dsimp only
      rw [Table.get?_cons, Table.get?_cons]
      by_cases h : entry.1 = k
      · subst h
        simp
        rfl
      · rw [if_neg h, if_neg h, ih, List.takeWhile_cons_of_pos (by simpa using h),
          run_drawEach_cons]

theorem Table.keys_run_drawEach (f : κ → α → Drawing β) (t : Table κ α) (keys : KeySupply) :
    Table.keys ((drawEach f t).run keys).1 = t.keys := by
  induction t generalizing keys with
  | nil => rfl
  | cons entry rest ih =>
      rw [run_drawEach_cons]
      exact congrArg (entry.1 :: ·) (ih _)

theorem Table.drawEach_congr {f g : κ → α → Drawing β} {t : Table κ α}
    (h : ∀ entry ∈ t, f entry.1 entry.2 = g entry.1 entry.2) : drawEach f t = drawEach g t := by
  induction t with
  | nil => rfl
  | cons entry rest ih =>
      have hfirst := h entry List.mem_cons_self
      have hrest := ih fun other hother => h other (List.mem_cons_of_mem entry hother)
      funext keys
      have hleft := run_drawEach_cons f entry rest keys
      have hright := run_drawEach_cons g entry rest keys
      rw [hfirst, hrest] at hleft
      exact hleft.trans hright.symm

end DrawEach

/-! ## What rules ask for -/

/-- Whether a value is an address of the web, or the default that stands in for one. -/
def Json.IsSafeUrl (default : Option String) (v : Json) : Prop :=
  ∃ url, v = .str url ∧ (isWebUrl url = true ∨ url = default.getD "")

/-- The rule for truth values asks for one whatever it is given. -/
theorem Rule.exists_bool_parsed (properties : Fields) (v : Json) (keys : KeySupply) :
    ∃ b, ((validate properties .boolean v).run keys).1.parsed = .bool b := by
  rw [validate]
  exact exists_validateBoolean_parsed v

/-- The rule for addresses asks for a safe one whatever it is given. -/
theorem Rule.isSafeUrl_parsed (default : Option String) (properties : Fields) (v : Json)
    (keys : KeySupply) :
    ((validate properties (.safeUrl default) v).run keys).1.parsed.IsSafeUrl default := by
  rw [validate]
  rcases validateUrl_cases default v with ⟨url, -, hurl, hparsed⟩ | hparsed
  · exact ⟨url, hparsed, Or.inl hurl⟩
  · exact ⟨_, hparsed, Or.inr rfl⟩

namespace Page

/-- What a property gives to its rule: the value of its binding, or the literal itself. -/
def given (page : Page) (w : Instance) (v : Json) : Json :=
  match v with
  | .str source => if isBinding source then (page.scopeOf w).value source else v
  | v => v

theorem given_of_isBinding (page : Page) (w : Instance) {source : String}
    (h : isBinding source = true) : page.given w (.str source) = (page.scopeOf w).value source := by
  rw [given, if_pos h]

theorem given_of_not_isBinding (page : Page) (w : Instance) {v : Json} (h : v.isBinding = false) :
    page.given w v = v := by
  cases v with
  | str source =>
      have hsource : isBinding source = false := h
      simp [given, hsource]
  | null | bool _ | num _ | arr _ | obj _ => rfl

/-- The keys that are left when the properties before one have been resolved. -/
def keysBefore (page : Page) (w : Instance) (property : String) : KeySupply :=
  ((Table.drawEach (resolveValue (page.scopeOf w) w)
    (w.properties.takeWhile fun entry => entry.1 ≠ property)).run page.keys).2

/-- The value that a rule asks for where a property with some value is resolved. -/
def parsedBy (page : Page) (w : Instance) (rule : Rule) (property : String) (v : Json) : Json :=
  ((rule.validate w.properties (page.given w v)).run (page.keysBefore w property)).1.parsed

theorem get?_resolvedOf (page : Page) (w : Instance) (property : String) :
    (page.resolvedOf w).1.get? property =
      (w.get? property).map fun v =>
        ((resolveValue (page.scopeOf w) w property v).run (page.keysBefore w property)).1 :=
  Table.get?_drawEach (resolveValue (page.scopeOf w) w) w.properties page.keys property

/-- A literal is resolved to itself. -/
theorem resolveValue_of_not_isBinding (scope : Scope) (w : Instance) (property : String) {v : Json}
    (h : v.isBinding = false) : resolveValue scope w property v = pure v := by
  cases v with
  | str source =>
      have hsource : isBinding source = false := h
      simp [resolveValue, hsource]
  | null | bool _ | num _ | arr _ | obj _ => rfl

section Entry

variable (scope : Scope) {w : Instance} {property source : String} {entry : PaneEntry}
  (hentry : w.kind.pane.entry? property = some entry)

include hentry in
theorem resolveValue_of_isTrigger (h : entry.isTrigger = true) (v : Json) :
    resolveValue scope w property v = pure v := by
  cases v with
  | str source => simp [resolveValue, hentry, h]
  | null | bool _ | num _ | arr _ | obj _ => rfl

include hentry in
theorem resolveValue_of_rule (hsource : isBinding source = true) {rule : Rule}
    (hrule : entry.rule = some rule) (hdata : entry.isTrigger = false) :
    resolveValue scope w property (.str source) =
      (do return (← rule.validate w.properties (scope.value source)).parsed) := by
  simp [resolveValue, hsource, hentry, hdata, hrule]

theorem resolveValue_of_free (hsource : isBinding source = true)
    (h : ∀ entry, w.kind.pane.entry? property = some entry →
      entry.isTrigger = false ∧ entry.rule = none) :
    resolveValue scope w property (.str source) = pure (scope.value source) := by
  cases hentry : w.kind.pane.entry? property with
  | none => simp [resolveValue, hsource, hentry]
  | some entry =>
      obtain ⟨hdata, hrule⟩ := h entry hentry
      simp [resolveValue, hsource, hentry, hdata, hrule]

end Entry

/-- A property that has a rule and is no action is resolved to what the rule asks for if it is
bound. -/
theorem resolveValue_of_isBinding (page : Page) {w : Instance} {property : String}
    {entry : PaneEntry} {rule : Rule} (hentry : w.kind.pane.entry? property = some entry)
    (hrule : entry.rule = some rule) (hdata : entry.isTrigger = false) {v : Json}
    (h : v.isBinding = true) (keys : KeySupply) :
    ((resolveValue (page.scopeOf w) w property v).run keys).1 =
      ((rule.validate w.properties (page.given w v)).run keys).1.parsed := by
  cases v with
  | str source =>
      have hsource : isBinding source = true := h
      rw [resolveValue_of_rule _ hentry hsource hrule hdata]
      simp only [given, hsource, if_true]
      rfl
  | null | bool _ | num _ | arr _ | obj _ => cases h

theorem get?_resolvedOf_of_not_isBound (page : Page) (w : Instance) {property : String}
    (h : w.isBound property = false) :
    (page.resolvedOf w).1.get? property = w.get? property := by
  rw [get?_resolvedOf]
  cases hv : w.get? property with
  | none => rfl
  | some v =>
      have hliteral : v.isBinding = false := by
        rwa [Instance.isBound, hv, Option.any_some] at h
      rw [Option.map_some, resolveValue_of_not_isBinding _ _ _ hliteral]
      rfl

/-- What a widget works with in place of a property that has a rule and is no action. A binding
comes to the value that the rule asks for, a literal to itself. So the widget works with the value
that the rule asks for exactly if the property is bound or the rule leaves its literal as it is: a
property for a truth value comes to one exactly if it is bound or is a truth value, and an address
comes to a safe one exactly if it is bound or is safe as it is written. -/
theorem resolved_eq_parsedBy_iff (page : Page) {id : WidgetId} {w : Instance}
    (hw : page.widget? id = some w) {property : String} {v : Json}
    (hv : w.get? property = some v) {entry : PaneEntry}
    (hentry : w.kind.pane.entry? property = some entry) {rule : Rule}
    (hrule : entry.rule = some rule) (hdata : entry.isTrigger = false) :
    ∃ properties page' value,
      runOn (resolved id) page = (.ok properties, page') ∧
      properties.get? property = some value ∧
      value = (if v.isBinding then page.parsedBy w rule property v else v) ∧
      (value = page.parsedBy w rule property v ↔
        v.isBinding = true ∨ page.parsedBy w rule property v = v) ∧
      (rule = .boolean → ((∃ b, value = .bool b) ↔ v.isBinding = true ∨ ∃ b, v = .bool b)) ∧
      ∀ default, rule = .safeUrl default →
        (value.IsSafeUrl default ↔ v.isBinding = true ∨ v.IsSafeUrl default) := by
  have hresolved := runOn_resolved page id
  have hget := page.get?_resolvedOf w property
  rw [hw] at hresolved
  rw [hv, Option.map_some] at hget
  refine ⟨_, _, _, hresolved, hget, ?_⟩
  cases hbound : v.isBinding with
  | true =>
      rw [resolveValue_of_isBinding page hentry hrule hdata hbound]
      refine ⟨rfl, iff_of_true rfl (Or.inl rfl), ?_, ?_⟩
      · rintro rfl
        exact iff_of_true (Rule.exists_bool_parsed _ _ _) (Or.inl rfl)
      · rintro default rfl
        exact iff_of_true (Rule.isSafeUrl_parsed default _ _ _) (Or.inl rfl)
  | false =>
      have hnot : ¬(false = true) := Bool.false_ne_true
      rw [resolveValue_of_not_isBinding _ _ _ hbound]
      refine ⟨rfl, ?_, ?_, ?_⟩
      · rw [or_iff_right hnot]
        exact eq_comm
      · rintro -
        exact (or_iff_right hnot).symm
      · rintro default -
        exact (or_iff_right hnot).symm

/-- The address of an embedded page that is bound to a title that the widget lacks. -/
theorem resolved_eq_parsedBy_iff_source :
    let source : Json := .str "\x7b\x7b this.title \x7d\x7d"
    let w : Instance := ⟨⟨1⟩, "Frame", .iframe, none, [("source", source)]⟩
    let page := (empty {} true (.counting [])).after [.mount w]
    let rule : Rule := .safeUrl (some Iframe.defaultSource)
    page.widget? w.id = some w ∧ w.get? "source" = some source ∧
      (∃ entry, w.kind.pane.entry? "source" = some entry ∧ entry.rule = some rule ∧
        entry.isTrigger = false) ∧
      ∃ properties page' value,
        runOn (resolved w.id) page = (.ok properties, page') ∧
        properties.get? "source" = some value ∧
        value = (if source.isBinding then page.parsedBy w rule "source" source else source) ∧
        (value = page.parsedBy w rule "source" source ↔
          source.isBinding = true ∨ page.parsedBy w rule "source" source = source) ∧
        (rule = .boolean →
          ((∃ b, value = .bool b) ↔ source.isBinding = true ∨ ∃ b, source = .bool b)) ∧
        ∀ default, rule = .safeUrl default →
          (value.IsSafeUrl default ↔ source.isBinding = true ∨ source.IsSafeUrl default) := by
  intro source w page rule
  exact ⟨rfl, rfl, ⟨_, rfl, rfl, rfl⟩,
    resolved_eq_parsedBy_iff page rfl rfl rfl rfl rfl⟩

/-- A text where there should be a truth value. The input works with the text, and the rule asks for
false. -/
theorem resolved_ne_parsedBy :
    let w : Instance := ⟨⟨1⟩, "Name", .input, none, [("isRequired", .str "false")]⟩
    let page := (empty {} true (.counting [])).after [.mount w]
    page.widget? w.id = some w ∧
      (∃ entry, w.kind.pane.entry? "isRequired" = some entry ∧ entry.rule = some .boolean ∧
        entry.isTrigger = false) ∧
      (runOn (resolved w.id) page).1 = .ok [("isRequired", .str "false")] ∧
      page.parsedBy w .boolean "isRequired" (.str "false") = .bool false :=
  ⟨rfl, ⟨_, rfl, rfl, rfl⟩, rfl, rfl⟩

end Page

end Widgetry
