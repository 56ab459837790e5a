import Widgetry.Page.Update
import Widgetry.Proofs.Page.Attempt

/-!
# What updates come to

A write is seen under its own id and key. An update comes to nothing unless there is a place for its
value: a mounted widget with meta-state, for whose kind the key may be written. Once the value is
written, nothing that follows can fail. Seeding discards whatever was seeded before.
-/

namespace Widgetry

theorem MetaState.read_write (s : MetaState) (key key' : String) (v : Json) :
    (s.write key v).read key' = if key' = key then v else s.read key' := by
  unfold read write
  rw [Table.get?_insert]
  split
  next => simp [Json.ofOption]
  next => rfl

namespace MetaStore

/-- The meta-states after a write. Where there is no meta-state nothing is written. -/
def write (store : MetaStore) (id : WidgetId) (key : String) (v : Json) : MetaStore :=
  (store.get? id).elim store fun s => store.insert id (s.write key v)

theorem get?_write (store : MetaStore) (id id' : WidgetId) (key : String) (v : Json) :
    (store.write id key v).get? id' =
      if id' = id then (store.get? id).map fun s => s.write key v else store.get? id' := by
  unfold write
  cases h : store.get? id with
  | none =>
      split
      next heq => rw [heq]; exact h
      next => rfl
  | some s => exact Table.get?_insert store id id' _

/-- A write is seen under its own id and key, and nowhere else. -/
theorem read_write (store : MetaStore) {id : WidgetId} {s : MetaState}
    (h : store.get? id = some s) (key : String) (v : Json) (id' : WidgetId) (key' : String) :
    (store.write id key v).read id' key' =
      if id' = id ∧ key' = key then v else store.read id' key' := by
  unfold read
  rw [get?_write]
  by_cases hid : id' = id
  · subst hid
    simp [h, MetaState.read_write]
  · simp [hid]

theorem mem_keys_write (store : MetaStore) (id id' : WidgetId) (key : String) (v : Json) :
    id' ∈ (store.write id key v).keys ↔ id' ∈ store.keys := by
  rw [Table.mem_keys_iff, Table.mem_keys_iff, get?_write]
  split
  next h =>
    rw [h]
    cases store.get? id <;> simp
  next => rfl

theorem read_insert (store : MetaStore) (id id' : WidgetId) (s : MetaState) (key : String) :
    MetaStore.read (store.insert id s) id' key =
      if id' = id then s.read key else store.read id' key := by
  unfold read
  rw [Table.get?_insert]
  split <;> rfl

theorem read_erase_of_ne (store : MetaStore) {id id' : WidgetId} (h : id' ≠ id) (key : String) :
    MetaStore.read (store.erase id) id' key = store.read id' key := by
  unfold read
  rw [Table.get?_erase_of_ne store h]

/-- A second seeding replaces the first one. -/
theorem seed_seed (store : MetaStore) (w : Instance) (properties : Fields) :
    (store.seed w).seed { w with properties } =
      store.insert w.id ⟨w.kind.behavior.metaDefaults, { w with properties }.seed⟩ :=
  Table.insert_insert_self store w.id _ _

end MetaStore

namespace Page

theorem runOn_read (page : Page) (id : WidgetId) (key : String) :
    runOn (read id key) page =
      (match page.widget? id with
        | some _ => .ok (page.states.read id key)
        | none => .error (.notMounted id), page) := by
  rw [read, runOn_widget_bind]
  cases page.widget? id <;> rfl

/-! ## Updates -/

/-- The page after a write to the meta-state of a widget. -/
def written (page : Page) (id : WidgetId) (key : String) (v : Json) : Page :=
  { page with states := page.states.write id key v }

/-- The request for the action of a trigger, if there is an action that can run. -/
def request? (page : Page) (id : WidgetId) (w : Instance) (trigger : Trigger) :
    Option ActionRequest :=
  match actionOf? w trigger.property with
  | some action =>
    if page.config.dispatchActions && page.canRun then
      some ⟨id, w.name, trigger.property, action, trigger.event, page.snapshot id⟩
    else none
  | none => none

/-- The page after a request has been dispatched, if there is one. -/
def requesting (page : Page) (request : Option ActionRequest) : Page :=
  { page with requests := page.requests ++ request.toList }

/-- A mounted widget with the meta-state in which a key can be written, or the failure that there
is no such place. -/
def place (page : Page) (id : WidgetId) (key : String) : Except PageError (Instance × MetaState) :=
  match page.widget? id with
  | none => .error (.notMounted id)
  | some w =>
    if (KeyCategory.of w.kind key).isWritable then
      match page.states.get? id with
      | some s => .ok (w, s)
      | none => .error (.notMounted id)
    else .error (.notState w.kind key (.of w.kind key))

/-- The request that comes with an update. It holds the meta-state after the write. -/
def updateRequest? (page : Page) (id : WidgetId) (w : Instance) (key : String) (v : Json)
    (trigger : Option Trigger) : Option ActionRequest :=
  trigger.bind fun trigger => (page.written id key v).request? id w trigger

/-- The page after an update that has a place. -/
def updated (page : Page) (id : WidgetId) (w : Instance) (key : String) (v : Json)
    (trigger : Option Trigger) : Page :=
  (page.written id key v).requesting (page.updateRequest? id w key v trigger)

theorem updated_none (page : Page) (id : WidgetId) (w : Instance) (key : String) (v : Json) :
    page.updated id w key v none = page.written id key v := by
  simp [updated, updateRequest?, requesting]

theorem place_eq_ok_iff (page : Page) (id : WidgetId) (key : String) (w : Instance)
    (s : MetaState) :
    page.place id key = .ok (w, s) ↔
      page.widget? id = some w ∧ (KeyCategory.of w.kind key).isWritable = true ∧
        page.states.get? id = some s := by
  unfold place
  cases page.widget? id with
  | none => simp
  | some w' =>
      dsimp only
      split
      next hkey =>
        cases page.states.get? id with
        | none => simp
        | some s' =>
            simp only [Except.ok.injEq, Prod.mk.injEq, Option.some.injEq]
            constructor
            · rintro ⟨rfl, rfl⟩
              exact ⟨rfl, hkey, rfl⟩
            · rintro ⟨rfl, -, rfl⟩
              exact ⟨rfl, rfl⟩
      next hkey =>
        simp only [reduceCtorEq, Option.some.injEq, false_iff]
        rintro ⟨rfl, h, -⟩
        exact hkey h

/-- An update leaves the other keys of its widget as they are. -/
theorem read_updated_of_ne {page : Page} {id : WidgetId} {s : MetaState}
    (hs : page.states.get? id = some s) (w : Instance) {key key' : String} (hne : key' ≠ key)
    (v : Json) (trigger : Option Trigger) :
    (page.updated id w key v trigger).states.read id key' = page.states.read id key' := by
  refine (MetaStore.read_write page.states hs key v id key').trans ?_
  rw [if_neg fun h => hne h.2]

/-- Where a key can be written, it can be written after an update of its widget. -/
theorem place_updated {page : Page} {id : WidgetId} {key' : String} {w : Instance} {s : MetaState}
    (h : page.place id key' = .ok (w, s)) (w' : Instance) (key : String) (v : Json)
    (trigger : Option Trigger) :
    (page.updated id w' key v trigger).place id key' = .ok (w, s.write key v) := by
  obtain ⟨hw, hkey, hs⟩ := (place_eq_ok_iff page id key' w s).1 h
  have hstate := MetaStore.get?_write page.states id id key v
  rw [if_pos rfl, hs] at hstate
  exact (place_eq_ok_iff _ id key' w _).2 ⟨hw, hkey, hstate⟩

theorem runOn_execute (page : Page) (id : WidgetId) (trigger : Trigger) :
    runOn (execute id trigger) page = match page.widget? id with
      | some w =>
        (.ok (page.request? id w trigger).isSome, page.requesting (page.request? id w trigger))
      | none => (.error (.notMounted id), page) := by
  rw [execute, runOn_widget_bind]
  cases page.widget? id with
  | none => rfl
  | some w =>
      refine (runOn_bind_of_ok page _ (runOn_get page)).trans ?_
      dsimp only
      cases haction : actionOf? w trigger.property with
      | none => simp [request?, requesting, haction]
      | some action =>
          dsimp only
          split
          next hrun =>
            rw [runOn_bind_of_ok page _ (runOn_set page _)]
            simp [request?, requesting, haction, hrun]
          next hrun => simp [request?, requesting, haction, hrun]

theorem runOn_write (page : Page) (id : WidgetId) (key : String) (v : Json) :
    runOn (write id key v) page = match page.states.get? id with
      | some s => (.ok (s.held key), page.written id key v)
      | none => (.error (.notMounted id), page) := by
  unfold write
  rw [runOn_bind_of_ok page _ (runOn_get page)]
  cases h : page.states.get? id with
  | none => rfl
  | some s =>
      dsimp only
      rw [runOn_bind_of_ok page _ (runOn_modify page _), written, MetaStore.write, h]
      rfl

theorem runOn_update (page : Page) (id : WidgetId) (key : String) (v : Json)
    (trigger : Option Trigger) :
    runOn (update id key v trigger) page = match page.place id key with
      | .ok (w, s) =>
        (.ok ⟨s.held key, (page.updateRequest? id w key v trigger).isSome⟩,
          page.updated id w key v trigger)
      | .error e => (.error e, page) := by
  rw [update, runOn_widget_bind, place]
  cases hw : page.widget? id with
  | none => rfl
  | some w =>
      dsimp only
      cases hkey : (KeyCategory.of w.kind key).isWritable with
      | false => rfl
      | true =>
          have hwrite := runOn_write page id key v
          cases hs : page.states.get? id with
          | none =>
              rw [hs] at hwrite
              exact runOn_bind_of_error page _ hwrite
          | some s =>
              rw [hs] at hwrite
              refine (runOn_bind_of_ok page _ hwrite).trans ?_
              cases trigger with
              | none => exact congrArg (Prod.mk _) (updated_none page id w key v).symm
              | some trigger =>
                  -- the widget is still mounted, so that the action can always be looked up
                  have hmounted : (page.written id key v).widget? id = some w := hw
                  have hexecute := runOn_execute (page.written id key v) id trigger
                  rw [hmounted] at hexecute
                  exact runOn_bind_of_ok _ _ hexecute

/-! ## Mounting -/

/-- The values with which a widget is seeded, and the keys after it. The values are those for its
resolved properties if it has a binding, which sees the values for the properties as they are
saved. -/
def seedingOf (page : Page) (w : Instance) : Fields × KeySupply :=
  if w.properties.any fun entry => entry.2.isBinding then
    let found := { page with states := page.states.seed w }.resolvedOf w
    ({ w with properties := found.1 }.seed, found.2.keys)
  else (w.seed, page.keys)

/-- The page after a widget has been seeded. -/
def seeded (page : Page) (w : Instance) : Page :=
  { page with
    states := page.states.insert w.id ⟨w.kind.behavior.metaDefaults, (page.seedingOf w).1⟩
    keys := (page.seedingOf w).2 }

/-- The saved widget as it is mounted, and the page with it, where it has not been seeded yet. -/
def loadedOf (page : Page) (saved : Instance) : Instance × Page :=
  let w := (saved.load.run page.keys).1
  (w, { page with
    keys := (saved.load.run page.keys).2
    widgets := page.widgets.insert w.id w })

/-- What has been seeded before the bindings were resolved is discarded. -/
theorem run_seed (page : Page) (w : Instance) : (seed w).run page = ((), page.seeded w) := by
  unfold seeded seedingOf
  by_cases h : w.properties.any fun entry => entry.2.isBinding
  · rw [if_pos h]
    rw [← MetaStore.seed_seed]
    simp only [seed, h, if_true, run_bind, run_modify, run_get, run_drawing, resolvedOf]
  · rw [if_neg h]
    simp only [seed, h, run_bind, run_modify]
    rfl

theorem run_mount (page : Page) (saved : Instance) :
    (mount saved).run page =
      ((page.loadedOf saved).1.id, (page.loadedOf saved).2.seeded (page.loadedOf saved).1) := by
  simp only [mount, run_bind, run_drawing, run_modify, run_seed, loadedOf]
  rfl

theorem run_unmount (page : Page) (id : WidgetId) :
    (unmount id).run page =
      (page.widget? id,
        { page with widgets := page.widgets.erase id, states := page.states.erase id }) := rfl

theorem runOn_reset (page : Page) (id : WidgetId) :
    runOn (reset id) page = match page.widget? id with
      | some w => (.ok (), page.seeded w)
      | none => (.error (.notMounted id), page) := by
  rw [reset, runOn_widget_bind]
  cases page.widget? id with
  | none => rfl
  | some w =>
      dsimp only
      rw [runOn_lift, run_seed]

end Page

end Widgetry
