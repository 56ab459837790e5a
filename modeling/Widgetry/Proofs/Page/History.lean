import Widgetry.Proofs.Page.Consistency

/-!
# The last write

What a key of a widget holds is decided by the effects since the widget was seeded last: it is the
last value that was written under this id and key, and where there is none, the value that the
widget was seeded with. Writes under other ids or keys, attempts that fail, requests for actions and
the mounting and unmounting of other widgets have no part in it.
-/

namespace Widgetry.Page

/-- The values with which an effect seeds the widget with an id, if it does. -/
def Effect.firstValues? (id : WidgetId) : Effect → Option Fields
  | mounted w values => if w.id = id then some values else none
  | seeded w values => if w.id = id then some values else none
  | unmounted _ => none
  | wrote _ _ _ => none

/-- The value that an effect writes under an id and a key, if it does. -/
def Effect.write? (id : WidgetId) (key : String) : Effect → Option Json
  | wrote id' key' v => if id' = id ∧ key' = key then some v else none
  | mounted _ _ => none
  | seeded _ _ => none
  | unmounted _ => none

/-- The last value that some effects write under an id and a key. -/
def lastWrite? (id : WidgetId) (key : String) (es : List Effect) : Option Json :=
  es.reverse.findSome? (Effect.write? id key)

theorem lastWrite?_append_singleton (id : WidgetId) (key : String) (es : List Effect)
    (e : Effect) : lastWrite? id key (es ++ [e]) = (e.write? id key).or (lastWrite? id key es) := by
  rw [lastWrite?, List.reverse_append, List.reverse_singleton, List.singleton_append,
    List.findSome?_cons]
  cases e.write? id key <;> rfl

/-! ## What one effect does to a key -/

/-- A widget that has been seeded has the values that it was seeded with. -/
theorem Effect.read_of_firstValues? {c : Contents} {e : Effect} {id : WidgetId} {values : Fields}
    (he : e.Allowed c) (h : e.firstValues? id = some values) (key : String) :
    (e.apply c).states.read id key = .ofOption (values.get? key) := by
  -- mounting and seeding again put the same meta-state in the place of whatever there was
  have hput (w : Instance) (hkeys : ∀ key, key ∈ values.keys ↔ key ∈ w.kind.metaKeys) :
      MetaStore.read (c.states.insert w.id ⟨w.kind.behavior.metaDefaults, values⟩) w.id key =
        .ofOption (values.get? key) := by
    rw [MetaStore.read_insert, if_pos rfl, (MetaState.isOf_of_keys hkeys).read_eq_held]
    rfl
  cases e with
  | mounted w values' =>
      rw [firstValues?, Option.ite_none_right_eq_some] at h
      obtain ⟨rfl, hvalues⟩ := h
      cases hvalues
      exact hput w he.2
  | seeded w values' =>
      rw [firstValues?, Option.ite_none_right_eq_some] at h
      obtain ⟨rfl, hvalues⟩ := h
      cases hvalues
      exact hput w he.2
  | unmounted id' => cases h
  | wrote id' key' v => cases h

/-- A widget that is there and has not been seeded was there before, and a key of it has another
value only if one has been written. -/
theorem Effect.read_of_not_firstValues? {c : Contents} {e : Effect} {id : WidgetId}
    (he : e.Allowed c) (h : e.firstValues? id = none) (hid : id ∈ (e.apply c).states.keys) :
    id ∈ c.states.keys ∧
      ∀ key, (e.apply c).states.read id key = (e.write? id key).getD (c.states.read id key) := by
  have hother (w : Instance) (s : MetaState) (hne : ¬w.id = id)
      (hid : id ∈ (c.states.insert w.id s).keys) :
      id ∈ c.states.keys ∧
        ∀ key, MetaStore.read (c.states.insert w.id s) id key = c.states.read id key := by
    refine ⟨?_, ?_⟩
    · rcases (Table.mem_keys_insert c.states w.id id s).1 hid with heq | hmem
      · exact absurd heq.symm hne
      · exact hmem
    · intro key
      rw [MetaStore.read_insert, if_neg (Ne.symm hne)]
  cases e with
  | mounted w values =>
      rw [firstValues?, ite_eq_right_iff] at h
      exact hother w _ (fun heq => by cases h heq) hid
  | seeded w values =>
      rw [firstValues?, ite_eq_right_iff] at h
      exact hother w _ (fun heq => by cases h heq) hid
  | unmounted id' =>
      obtain ⟨hne, hmem⟩ := (Table.mem_keys_erase c.states id' id).1 hid
      refine ⟨hmem, ?_⟩
      intro key
      exact MetaStore.read_erase_of_ne c.states hne key
  | wrote id' key' v =>
      obtain ⟨w, s, -, hs, -⟩ := he
      refine ⟨(MetaStore.mem_keys_write c.states id' id key' v).1 hid, ?_⟩
      intro key
      rw [apply, MetaStore.read_write c.states hs, write?]
      by_cases heq : id = id' ∧ key = key'
      · obtain ⟨rfl, rfl⟩ := heq
        simp
      · have heq' : ¬(id' = id ∧ key' = key) := fun h => heq ⟨h.1.symm, h.2.symm⟩
        rw [if_neg heq, if_neg heq']
        rfl

/-! ## What a run leaves behind -/

/-- The history of a widget: it was seeded, and what it holds is what has been written since, and
otherwise what it was seeded with. -/
def Remembers (c : Contents) (es : List Effect) (id : WidgetId) : Prop :=
  ∃ earlier first later values,
    es = earlier ++ first :: later ∧
    Effect.firstValues? id first = some values ∧
    (∀ e ∈ later, Effect.firstValues? id e = none) ∧
    ∀ key, c.states.read id key =
      (lastWrite? id key later).getD (.ofOption (values.get? key))

theorem Remembers.apply {c : Contents} {es : List Effect} {e : Effect} {id : WidgetId}
    (he : e.Allowed c) (h : id ∈ c.states.keys → Remembers c es id)
    (hid : id ∈ (e.apply c).states.keys) : Remembers (e.apply c) (es ++ [e]) id := by
  cases hfirst : e.firstValues? id with
  | some values =>
      refine ⟨es, e, [], values, rfl, hfirst, ?_, ?_⟩
      · intro e' he'
        cases he'
      · exact Effect.read_of_firstValues? he hfirst
  | none =>
      obtain ⟨hmem, hread⟩ := Effect.read_of_not_firstValues? he hfirst hid
      obtain ⟨earlier, first, later, values, hes, hvalues, hlater, hbefore⟩ := h hmem
      refine ⟨earlier, first, later ++ [e], values, ?_, hvalues, ?_, ?_⟩
      · rw [hes, List.append_assoc, List.cons_append]
      · intro e' he'
        rcases List.mem_append.1 he' with hin | hlast
        · exact hlater e' hin
        · rw [List.mem_singleton.1 hlast]
          exact hfirst
      · intro key
        rw [hread, hbefore, lastWrite?_append_singleton]
        cases e.write? id key <;> rfl

theorem Remembers.foldl {c : Contents} {es : List Effect} {id : WidgetId} (more : List Effect)
    (hmore : AllAllowed c more) (h : id ∈ c.states.keys → Remembers c es id)
    (hid : id ∈ (more.foldl Effect.apply c).states.keys) :
    Remembers (more.foldl Effect.apply c) (es ++ more) id := by
  induction more generalizing c es with
  | nil =>
      rw [List.append_nil]
      exact h hid
  | cons e rest ih =>
      obtain ⟨he, hrest⟩ := hmore
      have hcons : es ++ e :: rest = (es ++ [e]) ++ rest := by simp
      rw [hcons]
      exact ih hrest (Remembers.apply he h) hid

theorem AllAllowed.append {c : Contents} {es es' : List Effect} (h : AllAllowed c es)
    (h' : AllAllowed (es.foldl Effect.apply c) es') : AllAllowed c (es ++ es') := by
  induction es generalizing c with
  | nil => exact h'
  | cons e rest ih => exact ⟨h.1, ih h.2 h'⟩

theorem allAllowed_effects (page : Page) (h : page.contents.Consistent) (ops : List Operation) :
    AllAllowed page.contents (page.effects ops) := by
  induction ops generalizing page with
  | nil => trivial
  | cons op ops ih =>
      have hrest := ih (op.after page) (op.consistent_after h)
      rw [op.contents_after page] at hrest
      exact (op.allAllowed page h).append hrest

/-- What a key of a mounted widget holds after whatever has been done with an empty page. There is a
last effect that seeded the widget, by mounting it or by resetting it, and the key holds what has
been written under this id and key last since then. Where nothing has been written, it holds the
value that the widget was seeded with, and `null` if there was none. -/
theorem read_after_empty (config : Config) (canRun : Bool) (keys : KeySupply)
    (ops : List Operation) {id : WidgetId} {w : Instance}
    (h : ((empty config canRun keys).after ops).widget? id = some w) :
    ∃ earlier first later values,
      (empty config canRun keys).effects ops = earlier ++ first :: later ∧
      Effect.firstValues? id first = some values ∧
      (∀ e ∈ later, Effect.firstValues? id e = none) ∧
      ∀ key, runOn (read id key) ((empty config canRun keys).after ops) =
        (.ok ((lastWrite? id key later).getD (.ofOption (values.get? key))),
          (empty config canRun keys).after ops) := by
  have hempty := consistent_empty config canRun keys
  have hallowed := allAllowed_effects _ hempty ops
  obtain ⟨s, hs, -⟩ := (consistent_after hempty ops).exists_state h
  have hid : id ∈ ((empty config canRun keys).after ops).contents.states.keys :=
    (Table.mem_keys_iff _ id).2 ⟨s, hs⟩
  rw [contents_after] at hid
  have hstart : id ∈ (empty config canRun keys).contents.states.keys →
      Remembers (empty config canRun keys).contents [] id := fun hmem => by cases hmem
  obtain ⟨earlier, first, later, values, hes, hvalues, hlater, hread⟩ :=
    Remembers.foldl _ hallowed hstart hid
  refine ⟨earlier, first, later, values, hes, hvalues, hlater, ?_⟩
  intro key
  rw [← contents_after] at hread
  rw [runOn_read, h, ← hread key]
  rfl

/-- An input that is mounted anew between two edits, while another one is edited and goes. -/
theorem read_after_empty_remounted :
    let page := empty {} true (.counting [])
    let first : Instance := ⟨⟨1⟩, "Name", .input, none, [("defaultText", .str "nobody")]⟩
    let second : Instance := ⟨⟨2⟩, "Town", .input, none, []⟩
    let ops : List Operation :=
      [.mount first, .mount second, .changeText first.id "a", .mount first,
        .changeText second.id "b", .changeFocus first.id true, .unmount second.id]
    (page.after ops).widget? first.id = some first ∧
      ∃ earlier last later values,
        page.effects ops = earlier ++ last :: later ∧
        Effect.firstValues? first.id last = some values ∧
        (∀ e ∈ later, Effect.firstValues? first.id e = none) ∧
        ∀ key, runOn (read first.id key) (page.after ops) =
          (.ok ((lastWrite? first.id key later).getD (.ofOption (values.get? key))),
            page.after ops) :=
  ⟨rfl, read_after_empty {} true (.counting []) _ rfl⟩

end Widgetry.Page
