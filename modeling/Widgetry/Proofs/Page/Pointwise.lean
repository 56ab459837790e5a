import Widgetry.Proofs.Page.Neighbor
import Widgetry.Proofs.Rule.Drawing

/-!
# Resolution in any order

The properties of a widget are resolved one after the other. Each of them is resolved from its own
stored value: bindings see the properties as they are saved, never a value that has been resolved
before, and there is one property at most whose rule may draw keys. So the properties may be visited
in any order and replaced in place, and if no two mounted widgets have the same name, the widgets
may be listed in any order as well.
-/

namespace Widgetry.Page

/-! ## What is resolved from what -/

/-- Whether some properties are those of a widget, resolved in a scope, with rules that draw from
some keys. -/
structure IsResolution (scope : Scope) (keys : KeySupply) (w : Instance) (properties : Fields) :
    Prop where
  keys_eq : properties.keys = w.properties.keys
  literal : ∀ property v, w.get? property = some v → v.isBinding = false →
    properties.get? property = some v
  action : ∀ property v entry, w.get? property = some v →
    w.kind.pane.entry? property = some entry → entry.isTrigger = true →
      properties.get? property = some v
  ruled : ∀ property source entry rule, w.get? property = some (.str source) →
    isBinding source = true → w.kind.pane.entry? property = some entry →
      entry.isTrigger = false → entry.rule = some rule →
        properties.get? property =
          some ((rule.validate w.properties (scope.value source)).run keys).1.parsed
  free : ∀ property source, w.get? property = some (.str source) → isBinding source = true →
    (∀ entry, w.kind.pane.entry? property = some entry →
      entry.isTrigger = false ∧ entry.rule = none) →
        properties.get? property = some (scope.value source)

/-- Whether a scope is the one of the widget with an id: `this` is its properties as they are saved
with its meta-state laid over them, and the other names are those of the mounted widgets. -/
structure IsScopeOf (page : Page) (id : WidgetId) (w : Instance) (scope : Scope) : Prop where
  this : scope.this = .obj (w.properties.overlay (page.snapshot id))
  functions : scope.functions = .ofWidgets
  isMounted : ∀ name state, scope.widgets.get? name = some state →
    ∃ id' other, page.widget? id' = some other ∧ other.name = name ∧ state = page.stateOf other
  isSeen : ∀ id' other, page.widget? id' = some other →
    ∃ state, scope.widgets.get? other.name = some state

/-- Whether no two mounted widgets have the same name. -/
def HasDistinctNames (page : Page) : Prop :=
  (page.widgets.map fun entry => entry.2.name).Nodup

instance (page : Page) : Decidable page.HasDistinctNames :=
  inferInstanceAs (Decidable (List.Nodup _))

/-- What the bindings of a widget see, from the mounted widgets as they are listed. -/
def scopeFrom (page : Page) (listed : List (WidgetId × Instance)) (w : Instance) : Scope :=
  listed.foldl (fun scope entry => scope.withWidget entry.2.name (page.stateOf entry.2))
    (.ofWidget w.properties (page.snapshot w.id) [])

/-- Resolves a property in place. -/
def resolveAt (scope : Scope) (w : Instance) (fields : Fields) (property : String) :
    Drawing Fields :=
  match fields.get? property with
  | some v => return fields.insert property (← resolveValue scope w property v)
  | none => return fields

/-- The properties of a widget, resolved in place one after the other. -/
def resolveInOrder (scope : Scope) (w : Instance) (order : List String) : Drawing Fields :=
  order.foldlM (resolveAt scope w) w.properties

/-! ## Resolving one property -/

section Value

variable (scope : Scope) (w : Instance)

/-- Resolving a property draws nothing, unless the property is an old list of tabs. -/
theorem isIdle_resolveValue {property : String} (h : w.kind = .legacyTabs → property ≠ "tabs")
    (v : Json) : Drawing.IsIdle (resolveValue scope w property v) := by
  unfold resolveValue
  split
  next source =>
    dsimp only
    split
    next => exact Drawing.isIdle_pure _
    next =>
      split
      next rule hfound =>
        obtain ⟨entry, hentry, hrule⟩ := Option.bind_eq_some_iff.1 hfound
        have hgenerates := WidgetKind.generates_eq_false hentry hrule h
        exact (rule.isIdle_validate w.properties hgenerates _).bind fun o => Drawing.isIdle_pure _
      next => exact Drawing.isIdle_pure _
  next => exact Drawing.isIdle_pure _

/-- A property is resolved to the same value before another property and after it. -/
theorem run_resolveValue_of_ne {property other : String} (hne : property ≠ other) (v v' : Json)
    (keys : KeySupply) :
    ((resolveValue scope w property v).run ((resolveValue scope w other v').run keys).2).1 =
      ((resolveValue scope w property v).run keys).1 := by
  by_cases h : w.kind = .legacyTabs → property ≠ "tabs"
  · exact (isIdle_resolveValue scope w h v).run_fst _ _
  · -- the property is the old list of tabs, so that the other one is not
    have hother : w.kind = .legacyTabs → other ≠ "tabs" := by
      intro hkind heq
      refine h fun _ htabs => ?_
      exact hne (htabs.trans heq.symm)
    rw [(isIdle_resolveValue scope w hother v').run_snd]

theorem isResolution_of_get? {scope : Scope} {w : Instance} {keys : KeySupply} {properties : Fields}
    (hkeys : properties.keys = w.properties.keys)
    (hget : ∀ property, properties.get? property =
      (w.get? property).map fun v => ((resolveValue scope w property v).run keys).1) :
    IsResolution scope keys w properties where
  keys_eq := hkeys
  literal := by
    intro property v hv hliteral
    rw [hget, hv, Option.map_some, resolveValue_of_not_isBinding scope w property hliteral]
    rfl
  action := by
    intro property v entry hv hentry haction
    rw [hget, hv, Option.map_some, resolveValue_of_isTrigger scope hentry haction]
    rfl
  ruled := by
    intro property source entry rule hv hsource hentry hdata hrule
    rw [hget, hv, Option.map_some, resolveValue_of_rule scope hentry hsource hrule hdata]
    rfl
  free := by
    intro property source hv hsource hfree
    rw [hget, hv, Option.map_some, resolveValue_of_free scope hsource hfree]
    rfl

end Value

/-! ## Resolving all properties -/

section All

variable (scope : Scope) (w : Instance)

/-- Whatever has been resolved before a property has no part in its value. -/
theorem run_resolveValue_drawEach {property : String} {t : Fields} (h : property ∉ t.keys)
    (v : Json) (keys : KeySupply) :
    ((resolveValue scope w property v).run
        ((Table.drawEach (resolveValue scope w) t).run keys).2).1 =
      ((resolveValue scope w property v).run keys).1 := by
  induction t generalizing keys with
  | nil => rfl
  | cons entry rest ih =>
      have hne : property ≠ entry.1 := by
        rintro rfl
        exact h List.mem_cons_self
      have hrest : property ∉ Table.keys rest := fun hmem => h (List.mem_cons_of_mem _ hmem)
      rw [Table.run_drawEach_cons]
      exact (ih hrest _).trans (run_resolveValue_of_ne scope w hne v entry.2 keys)

theorem get?_run_resolveAt (fields : Fields) (property name : String) (keys : KeySupply) :
    Table.get? ((resolveAt scope w fields name).run keys).1 property =
      if property = name then
        (fields.get? property).map fun v => ((resolveValue scope w property v).run keys).1
      else fields.get? property := by
  unfold resolveAt
  cases hv : fields.get? name with
  | none =>
      show fields.get? property = _
      split
      next h => rw [h, hv]; rfl
      next => rfl
  | some v =>
      refine (Table.get?_insert fields name property _).trans ?_
      split
      next h => rw [h, hv]; rfl
      next => rfl

theorem run_resolveValue_resolveAt {property name : String} (hne : property ≠ name) (v : Json)
    (fields : Fields) (keys : KeySupply) :
    ((resolveValue scope w property v).run ((resolveAt scope w fields name).run keys).2).1 =
      ((resolveValue scope w property v).run keys).1 := by
  unfold resolveAt
  cases fields.get? name with
  | none => rfl
  | some v' => exact run_resolveValue_of_ne scope w hne v v' keys

/-- Of properties that are each visited once, in whatever order, each is resolved from the value
that it had at first. -/
theorem get?_run_foldlM_resolveAt {order : List String} (h : order.Nodup) (fields : Fields)
    (property : String) (keys : KeySupply) :
    Table.get? ((order.foldlM (resolveAt scope w) fields).run keys).1 property =
      if property ∈ order then
        (fields.get? property).map fun v => ((resolveValue scope w property v).run keys).1
      else fields.get? property := by
  -- for any values and any keys so far: what is still to be visited has its first value, and the
  -- keys that have been drawn for others make no difference to it
  induction order generalizing fields keys with
  | nil => rfl
  | cons name rest ih =>
      obtain ⟨hname, hrest⟩ := List.nodup_cons.1 h
      rw [List.foldlM_cons, Drawing.run_bind, ih hrest, get?_run_resolveAt]
      by_cases heq : property = name
      · subst heq
        simp [hname]
      · simp only [heq, if_false, List.mem_cons, false_or,
          run_resolveValue_resolveAt scope w heq]

end All

theorem get?_resolvedOf_of_keys (page : Page) (w : Instance) (property : String) :
    (page.resolvedOf w).1.get? property =
      (w.get? property).map fun v =>
        ((resolveValue (page.scopeOf w) w property v).run page.keys).1 := by
  have hbefore :
      property ∉ Table.keys (w.properties.takeWhile fun entry => entry.1 ≠ property) := by
    intro hmem
    obtain ⟨entry, hentry, heq⟩ := List.mem_map.1 hmem
    have hne := List.mem_takeWhile_imp hentry
    simp [heq] at hne
  rw [get?_resolvedOf]
  cases w.get? property with
  | none => rfl
  | some v => exact congrArg some (run_resolveValue_drawEach (page.scopeOf w) w hbefore v page.keys)

theorem isResolution_resolvedOf (page : Page) (w : Instance) :
    IsResolution (page.scopeOf w) page.keys w (page.resolvedOf w).1 :=
  isResolution_of_get? (Table.keys_run_drawEach _ _ _) (page.get?_resolvedOf_of_keys w)

/-! ## What bindings see -/

theorem scopeFrom_eq (page : Page) (listed : List (WidgetId × Instance)) (w : Instance) :
    page.scopeFrom listed w =
      .ofWidget w.properties (page.snapshot w.id) (page.statesOf listed) := by
  unfold scopeFrom statesOf Table.ofList
  generalize ([] : Table String Json) = seen
  induction listed generalizing seen with
  | nil => rfl
  | cons entry rest ih => exact ih _

/-- If the names are distinct, it does not matter how the mounted widgets are listed. -/
theorem scopeFrom_eq_scopeOf {page : Page} (h : page.HasDistinctNames)
    {listed : List (WidgetId × Instance)} (hperm : listed.Perm page.widgets) (w : Instance) :
    page.scopeFrom listed w = page.scopeOf w := by
  have hstates : page.statesOf page.widgets = page.statesOf listed := by
    refine Table.ofList_eq_of_perm (hperm.symm.map _) ?_
    rw [Table.keys, List.map_map]
    exact h
  rw [scopeFrom_eq, scopeOf, hstates]

theorem isScopeOf_scopeOf {page : Page} (hconsistent : page.contents.Consistent)
    (hsorted : page.contents.Sorted) {id : WidgetId} {w : Instance}
    (hw : page.widget? id = some w) : page.IsScopeOf id w (page.scopeOf w) := by
  obtain ⟨-, -, rfl, -, -⟩ := hconsistent.exists_state hw
  have hmem (id' : WidgetId) (other : Instance) :
      page.widget? id' = some other ↔ (id', other) ∈ page.widgets :=
    hsorted.widgets.get?_eq_some_iff id' other
  refine ⟨rfl, rfl, ?_, ?_⟩
  · intro name state hstate
    obtain ⟨⟨id', other⟩, hentry, heq⟩ := List.mem_map.1 (Table.mem_of_get?_ofList hstate)
    obtain ⟨rfl, rfl⟩ := Prod.mk.inj heq
    exact ⟨id', other, (hmem id' other).2 hentry, rfl, rfl⟩
  · intro id' other hother
    refine (Table.mem_keys_iff _ _).1 ((Table.mem_keys_overlay [] _ _).2 (Or.inr ?_))
    rw [Table.keys, List.map_map]
    exact List.mem_map.2 ⟨(id', other), (hmem id' other).1 hother, rfl⟩

/-- How the properties of a mounted widget are resolved, on a page that is reached from an empty
one. It never fails, and each property is resolved from its stored value: an action and a literal
stay as they are, and a binding comes to its value where bindings see the properties as they are
saved, with the rule of the property applied. If no two mounted widgets have the same name, the same
comes out for properties that are replaced in place, in whatever order they are visited and the
widgets are listed. -/
theorem isResolution_after_empty (config : Config) (canRun : Bool) (keys : KeySupply)
    (ops : List Operation) {id : WidgetId} {w : Instance}
    (hw : ((empty config canRun keys).after ops).widget? id = some w) :
    let page := (empty config canRun keys).after ops
    ∃ properties page' scope,
      runOn (resolved id) page = (.ok properties, page') ∧
      page.IsScopeOf id w scope ∧ IsResolution scope page.keys w properties ∧
      (page.HasDistinctNames → ∀ (listed : List (WidgetId × Instance)) (order : List String),
        listed.Perm page.widgets → order.Nodup →
        (∀ property, property ∈ order ↔ property ∈ w.properties.keys) →
          ∀ property,
            ((resolveInOrder (page.scopeFrom listed w) w order).run page.keys).1.get? property =
              properties.get? property) := by
  intro page
  have hconsistent : page.contents.Consistent :=
    consistent_after (consistent_empty config canRun keys) ops
  have hsorted : page.contents.Sorted := sorted_after (sorted_empty config canRun keys) ops
  have hresolved := runOn_resolved page id
  rw [hw] at hresolved
  refine ⟨_, _, page.scopeOf w, hresolved, isScopeOf_scopeOf hconsistent hsorted hw,
    page.isResolution_resolvedOf w, ?_⟩
  intro hnames listed order hperm hnodup hmem property
  rw [resolveInOrder, scopeFrom_eq_scopeOf hnames hperm, get?_run_foldlM_resolveAt _ _ hnodup,
    get?_resolvedOf_of_keys]
  split
  next => rfl
  next hnot =>
    -- a property that is not visited is not there
    have hnone : w.get? property = none := by
      rw [Instance.get?, Table.get?_eq_none_iff, ← hmem]
      exact hnot
    rw [hnone]
    exact hnone

theorem ofString_isRequired :
    Template.ofString "\x7b\x7b this.isRequired \x7d\x7d" =
      .ok ⟨[.binding " this.isRequired ".toList (.member (.ident "this") "isRequired")]⟩ := by
  cbv

/-- A message that is bound to a property which is bound itself. It sees the text of that binding,
also where the other property is resolved first. -/
theorem isResolution_after_empty_message :
    let required : Json := .str "\x7b\x7b false \x7d\x7d"
    let message : Json := .str "\x7b\x7b this.isRequired \x7d\x7d"
    let w : Instance :=
      ⟨⟨1⟩, "Name", .input, none, [("errorMessage", message), ("isRequired", required)]⟩
    let other : Instance := ⟨⟨2⟩, "Town", .input, none, []⟩
    let page := (empty {} true (.counting [])).after [.mount w, .mount other]
    page.widget? w.id = some w ∧ page.HasDistinctNames ∧
      ∃ properties page' scope,
        runOn (resolved w.id) page = (.ok properties, page') ∧
        page.IsScopeOf w.id w scope ∧ IsResolution scope page.keys w properties ∧
        properties.get? "errorMessage" = some required ∧
        ∀ property,
          ((resolveInOrder (page.scopeFrom [(other.id, other), (w.id, w)] w) w
              ["isRequired", "errorMessage"]).run page.keys).1.get? property =
            properties.get? property := by
  intro required message w other page
  have hnames : page.HasDistinctNames := by decide
  obtain ⟨properties, page', scope, hresolved, hscope, hresolution, horder⟩ :=
    isResolution_after_empty {} true (.counting []) [.mount w, .mount other]
      (show page.widget? w.id = some w from rfl)
  refine ⟨rfl, hnames, properties, page', scope, hresolved, hscope, hresolution, ?_, ?_⟩
  · have hmember : scope.this.member "isRequired" = required := by
      rw [hscope.this]
      rfl
    have hvalue : scope.value "\x7b\x7b this.isRequired \x7d\x7d" = required := by
      rw [scope.value_of_binding ofString_isRequired, Expr.eval, Expr.eval]
      exact hmember
    have hruled := hresolution.ruled "errorMessage" _ _ _ rfl rfl rfl rfl rfl
    rw [hvalue] at hruled
    exact hruled
  · refine horder hnames _ _ (List.Perm.swap _ _ _) (by decide) ?_
    intro property
    exact (List.Perm.swap "errorMessage" "isRequired" []).mem_iff

end Widgetry.Page
