import Widgetry.Proofs.Catalog
import Widgetry.Proofs.Page.Operation

/-!
# Order on a page

The widgets of a page and the values of every meta-state are dictionaries that are changed by
insertion and removal alone. So they stay sorted: a mounted widget is one entry of its page, and the
snapshot of a meta-state gives for every key what reading the key gives.
-/

namespace Widgetry

/-- The snapshot of a meta-state and its single values agree. -/
theorem MetaState.ofOption_get?_snapshot {s : MetaState} (h : s.values.Sorted) (key : String) :
    Json.ofOption (s.snapshot.get? key) = s.read key := by
  rw [snapshot, Table.get?_overlay s.defaults h]
  rfl

namespace Page

/-- The widgets stand in the order of their ids, and the values of every meta-state in the order of
their keys. -/
structure Contents.Sorted (c : Contents) : Prop where
  widgets : c.widgets.Sorted
  values : ∀ id s, c.states.get? id = some s → s.values.Sorted

/-- Whether the values with which an effect seeds a widget are in order. -/
def Effect.IsSorted : Effect → Prop
  | mounted _ values => values.Sorted
  | seeded _ values => values.Sorted
  | unmounted _ => True
  | wrote _ _ _ => True

theorem sorted_empty (config : Config) (canRun : Bool) (keys : KeySupply) :
    (empty config canRun keys).contents.Sorted where
  widgets := List.Pairwise.nil
  values := by
    intro id s hs
    cases hs

theorem Contents.Sorted.apply {c : Contents} (h : c.Sorted) {e : Effect} (he : e.IsSorted) :
    (e.apply c).Sorted := by
  -- a meta-state that is put in place of another has values in order
  have hput (id' : WidgetId) (s' : MetaState) (hs' : s'.values.Sorted) (id : WidgetId)
      (s : MetaState) (hs : (c.states.insert id' s').get? id = some s) : s.values.Sorted := by
    rw [Table.get?_insert] at hs
    split at hs
    next => exact Option.some.inj hs ▸ hs'
    next => exact h.values id s hs
  cases e with
  | mounted w values => exact ⟨h.widgets.insert w.id w, hput w.id _ he⟩
  | seeded w values => exact ⟨h.widgets, hput w.id _ he⟩
  | unmounted id' =>
      refine ⟨h.widgets.erase id', ?_⟩
      intro id s hs
      rw [Effect.apply, Table.get?_erase] at hs
      split at hs
      next => cases hs
      next => exact h.values id s hs
  | wrote id' key v =>
      refine ⟨h.widgets, ?_⟩
      intro id s hs
      rw [Effect.apply, MetaStore.get?_write] at hs
      split at hs
      next =>
        obtain ⟨s', hs', rfl⟩ := Option.map_eq_some_iff.1 hs
        exact (h.values id' s' hs').insert key v
      next => exact h.values id s hs

theorem sorted_seedingOf (page : Page) (w : Instance) : (page.seedingOf w).1.Sorted := by
  unfold seedingOf
  split
  next => exact Instance.sorted_seed _
  next => exact w.sorted_seed

theorem Operation.isSorted_effects (op : Operation) (page : Page) :
    ∀ e ∈ op.effects page, e.IsSorted := by
  -- only mounting and resetting seed a widget
  have hwrote (es : List Effect) (h : ∀ e ∈ es, ∃ id key v, e = .wrote id key v) :
      ∀ e ∈ es, e.IsSorted := by
    intro e he
    obtain ⟨id, key, v, rfl⟩ := h e he
    trivial
  cases op with
  | mount saved =>
      intro e he
      rw [List.mem_singleton.1 he]
      exact sorted_seedingOf _ _
  | reset id =>
      rw [effects]
      cases page.widget? id with
      | none => simp
      | some w =>
          intro e he
          rw [List.mem_singleton.1 he]
          exact sorted_seedingOf page w
  | unmount id =>
      intro e he
      rw [List.mem_singleton.1 he]
      trivial
  | changeText id text =>
      refine hwrote _ ?_
      rw [effects]
      split
      next => split <;> simp
      next => simp
  | update _ _ _ _ | changeFocus _ _ | finishSubmit _ _ | receiveMessage _ _ _ | selectTab _ _ =>
      refine hwrote _ ?_
      rw [effects]
      split <;> simp
  | resolve _ | derive _ | execute _ _ | canSubmit _ | submit _ | changeUrl _ _ | surround _ =>
      refine hwrote _ ?_
      simp [effects]

theorem Operation.sorted_after (op : Operation) {page : Page} (h : page.contents.Sorted) :
    (op.after page).contents.Sorted := by
  rw [op.contents_after page]
  have hall := op.isSorted_effects page
  generalize op.effects page = es at hall
  generalize page.contents = c at h
  induction es generalizing c with
  | nil => exact h
  | cons e rest ih =>
      refine ih (fun e' he' => hall e' (List.mem_cons_of_mem e he')) (e.apply c) ?_
      exact h.apply (hall e List.mem_cons_self)

theorem sorted_after {page : Page} (h : page.contents.Sorted) (ops : List Operation) :
    (page.after ops).contents.Sorted := by
  induction ops generalizing page with
  | nil => exact h
  | cons op ops ih => exact ih (op.sorted_after h)

/-- The snapshot of a mounted widget gives for every key what reading the key gives. -/
theorem runOn_read_eq_snapshot {page : Page} (h : page.contents.Sorted) {id : WidgetId}
    {w : Instance} (hw : page.widget? id = some w) (key : String) :
    runOn (read id key) page = (.ok (.ofOption ((page.snapshot id).get? key)), page) := by
  rw [runOn_read, hw, snapshot, MetaStore.snapshot?, MetaStore.read]
  cases hs : page.states.get? id with
  | none => rfl
  | some s =>
      have hread := MetaState.ofOption_get?_snapshot (h.values id s hs) key
      simp [hread]

end Page

end Widgetry
