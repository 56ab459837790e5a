import Widgetry.Proofs.Catalog
import Widgetry.Proofs.Page.Operation

/-!
# Consistency of a page

The widgets of a page and their meta-states are two dictionaries that are changed by separate
steps. They are consistent: the same ids have a widget and a meta-state, and the meta-state fits the
kind that the widget has now. Each effect keeps a page consistent if it is allowed where it happens,
and the effects of operations are allowed. So every page that is reached from an empty one is
consistent, and the meta-state of a widget never hides one of its properties from a binding.
-/

namespace Widgetry

/-! ## Meta-state that fits a kind -/

/-- What holds of the meta-state of a widget of a kind: it has the declared first values, holds a
value for every declared key, and none under the name of a property or of what is derived. -/
structure MetaState.IsOf (s : MetaState) (kind : WidgetKind) : Prop where
  defaults : s.defaults = kind.behavior.metaDefaults
  declared : ∀ key ∈ kind.metaKeys, key ∈ s.values.keys
  undeclared : ∀ key ∈ s.values.keys, key ∉ kind.properties ∧ key ∉ kind.derivedKeys

namespace MetaState

/-- Meta-state that holds values for the declared keys alone fits. -/
theorem isOf_of_keys {kind : WidgetKind} {values : Fields}
    (h : ∀ key, key ∈ values.keys ↔ key ∈ kind.metaKeys) :
    IsOf ⟨kind.behavior.metaDefaults, values⟩ kind where
  defaults := rfl
  declared := fun key hkey => (h key).2 hkey
  undeclared := fun key hkey =>
    (KeyCategory.isWritable_of_iff kind key).1 (kind.isWritable_of_mem_metaKeys ((h key).1 hkey))

theorem IsOf.write {s : MetaState} {kind : WidgetKind} (h : s.IsOf kind) {key : String}
    (hkey : (KeyCategory.of kind key).isWritable = true) (v : Json) :
    (s.write key v).IsOf kind where
  defaults := h.defaults
  declared := by
    intro key' hkey'
    exact (Table.mem_keys_insert s.values key key' v).2 (Or.inr (h.declared key' hkey'))
  undeclared := by
    intro key' hkey'
    rcases (Table.mem_keys_insert s.values key key' v).1 hkey' with rfl | hheld
    · exact (KeyCategory.isWritable_of_iff kind key').1 hkey
    · exact h.undeclared key' hheld

/-- Every declared key holds a value, so that the first values are never read. -/
theorem IsOf.read_eq_held {s : MetaState} {kind : WidgetKind} (h : s.IsOf kind) (key : String) :
    s.read key = s.held key := by
  unfold read held
  cases hvalue : s.values.get? key with
  | some v => rfl
  | none =>
      have hnot : key ∉ s.defaults.keys := by
        rw [h.defaults]
        intro hkey
        exact (Table.get?_eq_none_iff s.values key).1 hvalue (h.declared key hkey)
      rw [(Table.get?_eq_none_iff s.defaults key).2 hnot]
      rfl

/-- The meta-state never lies over a property. -/
theorem IsOf.not_mem_keys_snapshot {s : MetaState} {kind : WidgetKind} (h : s.IsOf kind)
    {property : String} (hproperty : property ∈ kind.properties) :
    property ∉ s.snapshot.keys := by
  unfold snapshot
  rw [Table.mem_keys_overlay, h.defaults]
  rintro (hdeclared | hheld)
  · exact (h.undeclared property (h.declared property hdeclared)).1 hproperty
  · exact (h.undeclared property hheld).1 hproperty

end MetaState

namespace Page

/-! ## The invariant -/

/-- What there can be under an id: nothing at all, or a widget with this id in its current form,
and meta-state that fits its kind. -/
inductive Entry (id : WidgetId) : Option Instance → Option MetaState → Prop where
  | absent : Entry id none none
  | present {w : Instance} {s : MetaState} (id_eq : w.id = id)
      (current : Migration.isNeeded w = false) (isOf : s.IsOf w.kind) : Entry id (some w) (some s)

/-- The widgets and the meta-states belong together. -/
def Contents.Consistent (c : Contents) : Prop :=
  ∀ id, Entry id (c.widgets.get? id) (c.states.get? id)

theorem Contents.Consistent.exists_state {c : Contents} (h : c.Consistent) {id : WidgetId}
    {w : Instance} (hw : c.widgets.get? id = some w) :
    ∃ s, c.states.get? id = some s ∧ w.id = id ∧ Migration.isNeeded w = false ∧
      s.IsOf w.kind := by
  have hentry := h id
  rw [hw] at hentry
  generalize c.states.get? id = found at hentry
  cases hentry with
  | present id_eq current isOf => exact ⟨_, rfl, id_eq, current, isOf⟩

theorem Contents.Consistent.exists_widget {c : Contents} (h : c.Consistent) {id : WidgetId}
    {s : MetaState} (hs : c.states.get? id = some s) :
    ∃ w, c.widgets.get? id = some w ∧ s.IsOf w.kind := by
  have hentry := h id
  rw [hs] at hentry
  generalize c.widgets.get? id = found at hentry
  cases hentry with
  | present id_eq current isOf => exact ⟨_, rfl, isOf⟩

/-- What must hold where an effect happens. -/
def Effect.Allowed (c : Contents) : Effect → Prop
  | mounted w values =>
    Migration.isNeeded w = false ∧ ∀ key, key ∈ values.keys ↔ key ∈ w.kind.metaKeys
  | seeded w values =>
    c.widgets.get? w.id = some w ∧ ∀ key, key ∈ values.keys ↔ key ∈ w.kind.metaKeys
  | unmounted _ => True
  | wrote id key _ =>
    ∃ w s, c.widgets.get? id = some w ∧ c.states.get? id = some s ∧
      (KeyCategory.of w.kind key).isWritable = true

/-- Each of some effects is allowed after those before it. -/
def AllAllowed (c : Contents) : List Effect → Prop
  | [] => True
  | e :: rest => e.Allowed c ∧ AllAllowed (e.apply c) rest

theorem consistent_empty (config : Config) (canRun : Bool) (keys : KeySupply) :
    (empty config canRun keys).contents.Consistent :=
  fun _ => .absent

/-- An effect that is allowed keeps everything consistent. -/
theorem Contents.Consistent.apply {c : Contents} (h : c.Consistent) {e : Effect}
    (he : e.Allowed c) : (e.apply c).Consistent := by
  intro id'
  cases e with
  | mounted w values =>
      obtain ⟨hcurrent, hkeys⟩ := he
      rw [Effect.apply, Table.get?_insert, Table.get?_insert]
      split
      next heq => exact .present heq.symm hcurrent (MetaState.isOf_of_keys hkeys)
      next => exact h id'
  | seeded w values =>
      obtain ⟨hw, hkeys⟩ := he
      obtain ⟨-, -, -, hcurrent, -⟩ := h.exists_state hw
      rw [Effect.apply, Table.get?_insert]
      split
      next heq =>
        rw [heq, hw]
        exact .present rfl hcurrent (MetaState.isOf_of_keys hkeys)
      next => exact h id'
  | unmounted id =>
      rw [Effect.apply, Table.get?_erase, Table.get?_erase]
      split
      next => exact .absent
      next => exact h id'
  | wrote id key v =>
      obtain ⟨w, s, hw, hs, hkey⟩ := he
      obtain ⟨s', hs', hid, hcurrent, hfits⟩ := h.exists_state hw
      have hsame : s' = s := Option.some.inj (hs'.symm.trans hs)
      rw [Effect.apply, MetaStore.get?_write, hs]
      split
      next heq =>
        rw [heq, hw]
        exact .present hid hcurrent ((hsame ▸ hfits).write hkey v)
      next => exact h id'

theorem AllAllowed.consistent {c : Contents} {es : List Effect} (hes : AllAllowed c es)
    (h : c.Consistent) : (es.foldl Effect.apply c).Consistent := by
  induction es generalizing c with
  | nil => exact h
  | cons e rest ih =>
      obtain ⟨he, hrest⟩ := hes
      exact ih hrest (h.apply he)

/-! ## The effects of operations are allowed -/

theorem allAllowed_singleton {c : Contents} {e : Effect} (h : e.Allowed c) : AllAllowed c [e] :=
  ⟨h, trivial⟩

theorem mem_keys_seedingOf (page : Page) (w : Instance) (key : String) :
    key ∈ (page.seedingOf w).1.keys ↔ key ∈ w.kind.metaKeys := by
  unfold seedingOf
  split
  next => exact Instance.mem_keys_seed _ key
  next => exact Instance.mem_keys_seed w key

theorem allowed_wrote_of_place {page : Page} {id : WidgetId} {key : String} {w : Instance}
    {s : MetaState} (h : page.place id key = .ok (w, s)) (v : Json) :
    (Effect.wrote id key v).Allowed page.contents := by
  obtain ⟨hw, hkey, hs⟩ := (place_eq_ok_iff page id key w s).1 h
  exact ⟨w, s, hw, hs, hkey⟩

theorem allowed_wrote_of_placeOfKind {page : Page} {kind : WidgetKind} {id : WidgetId}
    {key : String} {w : Instance} {s : MetaState}
    (h : page.placeOfKind kind id key = .ok (w, s)) (v : Json) :
    (Effect.wrote id key v).Allowed page.contents := by
  obtain ⟨hw, hkind, hkey, hs⟩ := (placeOfKind_eq_ok_iff page kind id key w s).1 h
  exact ⟨w, s, hw, hs, hkind ▸ hkey⟩

theorem allAllowed_updateWhen (page : Page) (kind : WidgetKind) (id : WidgetId)
    (accept : Fields → Bool) (key : String) (v : Json) (trigger : Trigger) :
    AllAllowed page.contents
      (if updates (updateWhen kind id accept key v trigger) page then [.wrote id key v]
      else []) := by
  rw [updates, runOn_updateWhen]
  cases page.ofKind kind id with
  | error e => trivial
  | ok w =>
      dsimp only
      split
      next =>
        cases hplace : page.place id key with
        | error e => trivial
        | ok found => exact allAllowed_singleton (allowed_wrote_of_place hplace v)
      next => trivial

/-- The effects of an operation are allowed on a consistent page. -/
theorem Operation.allAllowed (op : Operation) (page : Page) (h : page.contents.Consistent) :
    AllAllowed page.contents (op.effects page) := by
  cases op with
  | mount saved =>
      exact allAllowed_singleton ⟨saved.isNeeded_load page.keys, mem_keys_seedingOf _ _⟩
  | unmount id => exact allAllowed_singleton trivial
  | reset id =>
      rw [effects]
      cases hw : page.widget? id with
      | none => trivial
      | some w =>
          obtain ⟨-, -, hid, -, -⟩ := h.exists_state hw
          exact allAllowed_singleton ⟨hid ▸ hw, mem_keys_seedingOf page w⟩
  | update id key v trigger =>
      rw [effects, succeeds, runOn_update]
      cases hplace : page.place id key with
      | error e => trivial
      | ok found => exact allAllowed_singleton (allowed_wrote_of_place hplace v)
  | changeText id text =>
      rw [effects, succeeds, runOn_changeText]
      cases hplace : page.placeOfKind .input id "text" with
      | error e => trivial
      | ok found =>
          obtain ⟨w, s⟩ := found
          refine ⟨allowed_wrote_of_placeOfKind hplace text, ?_⟩
          cases (page.states.read id "isDirty").truthy with
          | true => trivial
          | false =>
              obtain ⟨hw, hkind, -, hs⟩ := (placeOfKind_eq_ok_iff page _ id "text" w s).1 hplace
              have hs' : (page.states.write id "text" text).get? id =
                  some (s.write "text" text) := by
                rw [MetaStore.get?_write, hs]
                simp
              exact allAllowed_singleton ⟨w, _, hw, hs', by rw [hkind]; decide⟩
  | changeFocus id focused =>
      rw [effects, succeeds, runOn_changeFocus]
      cases hplace : page.placeOfKind .input id "isFocused" with
      | error e => trivial
      | ok found => exact allAllowed_singleton (allowed_wrote_of_placeOfKind hplace focused)
  | finishSubmit id success =>
      rw [effects, finishSubmit_eq]
      exact allAllowed_updateWhen page _ id _ _ _ _
  | receiveMessage id origin data =>
      rw [effects, receiveMessage_eq]
      exact allAllowed_updateWhen page _ id _ _ _ _
  | selectTab id widgetId =>
      rw [effects, succeeds, runOn_selectTab]
      cases hplace : page.placeOfKind .tabs id "selectedTabWidgetId" with
      | error e => trivial
      | ok found => exact allAllowed_singleton (allowed_wrote_of_placeOfKind hplace widgetId)
  | resolve _ | derive _ | execute _ _ | canSubmit _ | submit _ | changeUrl _ _ | surround _ =>
      trivial

theorem Operation.consistent_after (op : Operation) {page : Page}
    (h : page.contents.Consistent) : (op.after page).contents.Consistent := by
  rw [op.contents_after page]
  exact (op.allAllowed page h).consistent h

theorem consistent_after {page : Page} (h : page.contents.Consistent) (ops : List Operation) :
    (page.after ops).contents.Consistent := by
  induction ops generalizing page with
  | nil => exact h
  | cons op ops ih => exact ih (op.consistent_after h)

/-! ## Pages that are reached -/

/-- What holds of every page that is reached from an empty one. The same ids have a widget and a
meta-state. Every widget has the id under which it is mounted and needs no migration, and its
meta-state fits the kind that it has now. So what the bindings of a widget see under `this` gives
for a declared property the value of that property, and so it is for whatever properties are laid
under the meta-state, such as the resolved ones. -/
theorem consistent_after_empty (config : Config) (canRun : Bool) (keys : KeySupply)
    (ops : List Operation) :
    let page := (empty config canRun keys).after ops
    (∀ id, id ∈ page.widgets.keys ↔ id ∈ page.states.keys) ∧
    (∀ id w, page.widget? id = some w → w.id = id ∧ Migration.isNeeded w = false) ∧
    (∀ id w s, page.widget? id = some w → page.states.get? id = some s → s.IsOf w.kind) ∧
    ∀ id w property, page.widget? id = some w → property ∈ w.kind.properties →
      (Expr.member (.ident "this") property).eval (page.scopeOf w) =
        .ok (.ofOption (w.get? property)) ∧
      ∀ (properties : Fields) (others : Table String Json),
        (Expr.member (.ident "this") property).eval
            (.ofWidget properties (page.snapshot id) others) =
          .ok (.ofOption (properties.get? property)) := by
  intro page
  have hconsistent : page.contents.Consistent :=
    consistent_after (consistent_empty config canRun keys) ops
  refine ⟨?_, ?_, ?_, ?_⟩
  · intro id
    rw [Table.mem_keys_iff, Table.mem_keys_iff]
    constructor
    · rintro ⟨w, hw⟩
      obtain ⟨s, hs, -⟩ := hconsistent.exists_state hw
      exact ⟨s, hs⟩
    · rintro ⟨s, hs⟩
      obtain ⟨w, hw, -⟩ := hconsistent.exists_widget hs
      exact ⟨w, hw⟩
  · intro id w hw
    obtain ⟨-, -, hid, hcurrent, -⟩ := hconsistent.exists_state hw
    exact ⟨hid, hcurrent⟩
  · intro id w s hw hs
    obtain ⟨s', hs', -, -, hfits⟩ := hconsistent.exists_state hw
    have hsame : s' = s := Option.some.inj (hs'.symm.trans hs)
    exact hsame ▸ hfits
  · intro id w property hw hproperty
    obtain ⟨s, hs, hid, -, hfits⟩ := hconsistent.exists_state hw
    have hstates : page.states.get? id = some s := hs
    have hsnapshot : page.snapshot id = s.snapshot := by
      rw [snapshot, MetaStore.snapshot?, hstates]
      rfl
    have hall (properties : Fields) (others : Table String Json) :
        (Expr.member (.ident "this") property).eval
            (.ofWidget properties (page.snapshot id) others) =
          .ok (.ofOption (properties.get? property)) := by
      rw [hsnapshot, ← Table.get?_overlay_of_not_mem properties s.snapshot
        (hfits.not_mem_keys_snapshot hproperty)]
      rfl
    have hown := hall w.properties (page.statesOf page.widgets)
    rw [← hid] at hown
    exact ⟨hown, hall⟩

end Page

end Widgetry
