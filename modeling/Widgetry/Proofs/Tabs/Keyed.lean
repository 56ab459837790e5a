import Widgetry.Proofs.Json.Record
import Widgetry.Proofs.KeySupply
import Widgetry.Proofs.Tabs.Migration
import Widgetry.Tabs.Basic

/-!
# No tab is lost

The items of an old list that have a label are tabs. Each is added under an id of its own: the one
that it has if no earlier tab took it, and otherwise a key that is drawn. As long as the drawn keys
are different from each other and from the ids of the list, an id is never taken twice, so that no
tab replaces another one. The index of a tab is the number of tabs before it, and sorting by it
gives back the order of the list.
-/

namespace Widgetry

namespace Migration

/-! ## Old lists -/

/-- How a list of values is given: as it is, or as JSON text. -/
inductive Gives (items : List Json) : Json → Prop where
  | array : Gives items (.arr items)
  | text {s : String} (h : Json.read? s = some (.arr items)) : Gives items (.str s)

/-- Where the old list of tabs of an instance is found: in the property itself or, if the property
is a binding, in the value that the binding had last. -/
inductive HasOldList (w : Instance) (items : List Json) : Prop where
  | literal {v : Json} (property : w.get? "tabs" = some v) (isBinding : v.isBinding = false)
      (gives : Gives items v)
  | bound {v value : Json} (property : w.get? "tabs" = some v) (isBinding : v.isBinding = true)
      (evaluated : w.pointer? evaluatedTabs = some value) (gives : Gives items value)

theorem Gives.listItems_eq {items : List Json} {v : Json} (h : Gives items v) :
    listItems v = items := by
  cases h with
  | array => rfl
  | text h => rw [listItems, h]; rfl

theorem HasOldList.oldItems?_eq {w : Instance} {items : List Json} (h : HasOldList w items) :
    oldItems? w = some items := by
  cases h with
  | literal property isBinding gives =>
      simp [oldItems?, property, isBinding, gives.listItems_eq]
  | bound property isBinding evaluated gives =>
      simp [oldItems?, property, isBinding, evaluated, gives.listItems_eq]

/-- The fields of an item that is a tab: an object with a text for a label. -/
def labelled? : Json → Option Fields
  | .obj tab => if ((Table.get? tab "label").bind Json.string?).isSome then some tab else none
  | _ => none

/-- The tabs of an old list, in order. -/
def listedTabs (items : List Json) : List Fields :=
  items.filterMap labelled?

/-- The ids that the tabs of an old list have. -/
def listedIds (items : List Json) : List String :=
  (listedTabs items).filterMap fun tab => text? tab "id"

/-! ## What a tab keeps -/

/-- What becomes of a tab of an old list. The tab `new` stands under `id`. It keeps what it says of
itself and gets what it lacks, as far as it needs it from the keys in `drawn`; the ids in `taken`
are those of the tabs before it. -/
structure Keeps (drawn taken : List String) (place : Nat) (old : Fields) (id : String)
    (new : Fields) : Prop where
  ownId : ∀ s, text? old "id" = some s → s ∉ taken → id = s
  drawnId : (∀ s, text? old "id" = some s → s ∈ taken) → id ∈ drawn
  id : new.get? "id" = some (.str id)
  index : new.get? "index" = some (.int place)
  ownWidgetId : ∀ s, text? old "widgetId" = some s → new.get? "widgetId" = some (.str s)
  drawnWidgetId : text? old "widgetId" = none →
    ∃ s ∈ drawn, new.get? "widgetId" = some (.str s)
  ownVisibility : ∀ b, old.get? "isVisible" = some (.bool b) →
    new.get? "isVisible" = some (.bool b)
  visible : (∀ b, old.get? "isVisible" ≠ some (.bool b)) → new.get? "isVisible" = some (.bool true)
  frame : ∀ name, name ∉ ["id", "index", "widgetId", "isVisible"] → new.get? name = old.get? name

section Keeps

variable {drawn taken : List String} {place : Nat} {old new : Fields} {id : String}

theorem Keeps.id_cases (h : Keeps drawn taken place old id new) :
    text? old "id" = some id ∧ id ∉ taken ∨ id ∈ drawn := by
  by_cases hown : ∃ s, text? old "id" = some s ∧ s ∉ taken
  · obtain ⟨s, hs, hfree⟩ := hown
    obtain rfl : id = s := h.ownId s hs hfree
    exact Or.inl ⟨hs, hfree⟩
  · refine Or.inr (h.drawnId ?_)
    intro s hs
    exact Decidable.byContradiction fun hfree => hown ⟨s, hs, hfree⟩

/-- More drawn keys do no harm, and of the ids that are taken it matters only which they are. -/
theorem Keeps.imp (h : Keeps drawn taken place old id new) {drawn' taken' : List String}
    (hdrawn : drawn ⊆ drawn') (htaken : ∀ s, s ∈ taken ↔ s ∈ taken') :
    Keeps drawn' taken' place old id new where
  ownId := fun s hs hfree => h.ownId s hs fun hmem => hfree ((htaken s).1 hmem)
  drawnId := fun hall => hdrawn (h.drawnId fun s hs => (htaken s).2 (hall s hs))
  id := h.id
  index := h.index
  ownWidgetId := h.ownWidgetId
  drawnWidgetId := by
    intro hnone
    obtain ⟨s, hs, hnew⟩ := h.drawnWidgetId hnone
    exact ⟨s, hdrawn hs, hnew⟩
  ownVisibility := h.ownVisibility
  visible := h.visible
  frame := h.frame

end Keeps

/-! ## Ids and other fields of a tab -/

theorem tabId_of_not_mem {taken tab : Fields} {s : String} (h : text? tab "id" = some s)
    (hfree : s ∉ taken.keys) : tabId taken tab = pure s := by
  have hcontains : (!taken.contains s) = true := by
    rw [Table.contains, (Table.get?_eq_none_iff taken s).2 hfree]
    rfl
  rw [tabId, h, Option.filter_some, if_pos hcontains]

theorem tabId_of_mem {taken tab : Fields} (h : ∀ s, text? tab "id" = some s → s ∈ taken.keys) :
    tabId taken tab = KeySupply.draw := by
  have hnone : ((text? tab "id").filter fun id => !taken.contains id) = none := by
    rw [Option.filter_eq_none_iff]
    intro s hs
    have hcontains : taken.contains s = true :=
      Option.isSome_iff_exists.2 ((Table.mem_keys_iff taken s).1 (h s hs))
    simp [hcontains]
  rw [tabId, hnone]

theorem run_tabId_of_not_mem {taken tab : Fields} {s : String} (h : text? tab "id" = some s)
    (hfree : s ∉ taken.keys) (keys : KeySupply) : ((tabId taken tab).run keys).1 = s := by
  rw [tabId_of_not_mem h hfree]
  rfl

theorem mem_drawnBy_tabId {taken tab : Fields}
    (h : ∀ s, text? tab "id" = some s → s ∈ taken.keys) (keys : KeySupply) :
    ((tabId taken tab).run keys).1 ∈ keys.drawnBy (tabId taken tab) := by
  rw [tabId_of_mem h, Drawing.drawnBy_draw]
  exact List.mem_cons_self

theorem advances_tabId (taken tab : Fields) : Drawing.Advances (tabId taken tab) := by
  unfold tabId
  split
  next id _ => exact Drawing.advances_pure id
  next => exact Drawing.advances_draw

theorem text?_eq_some_iff (fields : Fields) (name s : String) :
    text? fields name = some s ↔ fields.get? name = some (.str s) ∧ s ≠ "" := by
  rw [text?, Option.filter_eq_some_iff, Json.bind_string?_eq_some_iff]
  simp

theorem withWidgetId_of_some {tab : Fields} {s : String} (h : text? tab "widgetId" = some s) :
    withWidgetId tab = pure tab := by
  simp [withWidgetId, h]

theorem withWidgetId_of_none {tab : Fields} (h : text? tab "widgetId" = none) :
    withWidgetId tab = do return tab.insert "widgetId" (.str (← KeySupply.draw)) := by
  simp [withWidgetId, h]

theorem advances_withWidgetId (tab : Fields) : Drawing.Advances (withWidgetId tab) := by
  cases h : text? tab "widgetId" with
  | some s =>
      rw [withWidgetId_of_some h]
      exact Drawing.advances_pure tab
  | none =>
      rw [withWidgetId_of_none h]
      exact Drawing.advances_draw.bind fun _ => Drawing.advances_pure _

/-- A tab keeps its other fields where it gets a widget id. -/
theorem get?_withWidgetId (tab : Fields) (keys : KeySupply) {name : String}
    (h : name ≠ "widgetId") : ((withWidgetId tab).run keys).1.get? name = tab.get? name := by
  cases htext : text? tab "widgetId" with
  | some s =>
      rw [withWidgetId_of_some htext]
      rfl
  | none =>
      rw [withWidgetId_of_none htext]
      exact Table.get?_insert_of_ne tab h _

theorem get?_withWidgetId_of_some {tab : Fields} {s : String} (h : text? tab "widgetId" = some s)
    (keys : KeySupply) : ((withWidgetId tab).run keys).1.get? "widgetId" = some (.str s) := by
  rw [withWidgetId_of_some h]
  exact ((text?_eq_some_iff tab "widgetId" s).1 h).1

theorem get?_withWidgetId_of_none {tab : Fields} (h : text? tab "widgetId" = none)
    (keys : KeySupply) :
    ∃ s ∈ keys.drawnBy (withWidgetId tab),
      ((withWidgetId tab).run keys).1.get? "widgetId" = some (.str s) := by
  rw [withWidgetId_of_none h]
  refine ⟨(KeySupply.draw.run keys).1, ?_, Table.get?_insert_self tab _ _⟩
  rw [Drawing.drawnBy_bind Drawing.advances_draw fun _ => Drawing.advances_pure _,
    Drawing.drawnBy_draw]
  exact List.mem_cons_self

theorem withVisibility_of_bool {tab : Fields} {b : Bool}
    (h : tab.get? "isVisible" = some (.bool b)) : withVisibility tab = tab := by
  simp [withVisibility, h, Json.bool?]

theorem withVisibility_of_ne {tab : Fields} (h : ∀ b, tab.get? "isVisible" ≠ some (.bool b)) :
    withVisibility tab = tab.insert "isVisible" true := by
  rcases hv : tab.get? "isVisible" with _ | _ | _ | _ | _ | _ | _
  case some.bool b => exact absurd hv (h b)
  all_goals simp [withVisibility, hv, Json.bool?]

theorem get?_withVisibility (tab : Fields) {name : String} (h : name ≠ "isVisible") :
    (withVisibility tab).get? name = tab.get? name := by
  unfold withVisibility
  split
  next => rfl
  next => exact Table.get?_insert_of_ne tab h _

/-- A tab with its id, its place, and a truth value for its visibility. -/
def finished (tab : Fields) (id : String) (place : Nat) : Fields :=
  ((withVisibility tab).insert "id" (.str id)).insert "index" (.int place)

theorem get?_finished (tab : Fields) (id : String) (place : Nat) {name : String}
    (h : name ≠ "id") (h' : name ≠ "index") :
    (finished tab id place).get? name = (withVisibility tab).get? name := by
  rw [finished, Table.get?_insert_of_ne _ h', Table.get?_insert_of_ne _ h]

theorem get?_finished_of_not_mem (tab : Fields) (id : String) (place : Nat) {name : String}
    (h : name ∉ ["id", "index", "isVisible"]) :
    (finished tab id place).get? name = tab.get? name := by
  simp only [List.mem_cons, List.not_mem_nil, or_false, not_or] at h
  obtain ⟨hid, hindex, hvisibility⟩ := h
  rw [get?_finished tab id place hid hindex, get?_withVisibility tab hvisibility]

theorem get?_finished_id (tab : Fields) (id : String) (place : Nat) :
    (finished tab id place).get? "id" = some (.str id) := by
  rw [finished, Table.get?_insert_of_ne _ (by decide), Table.get?_insert_self]

/-! ## Adding one tab -/

/-- A tab and its id, where some tabs are there already. -/
def made (tabs tab : Fields) : Drawing (String × Fields) := do
  let id ← tabId tabs tab
  let tab ← withWidgetId tab
  return (id, finished tab id tabs.length)

theorem advances_made (tabs tab : Fields) : Drawing.Advances (made tabs tab) :=
  (advances_tabId tabs tab).bind fun _ =>
    (advances_withWidgetId tab).bind fun _ => Drawing.advances_pure _

theorem drawnBy_made (tabs tab : Fields) (keys : KeySupply) :
    keys.drawnBy (made tabs tab) =
      keys.drawnBy (tabId tabs tab) ++
        ((tabId tabs tab).run keys).2.drawnBy (withWidgetId tab) := by
  let id := ((tabId tabs tab).run keys).1
  have hwidget := Drawing.drawnBy_bind (advances_withWidgetId tab)
    (f := fun tab => pure (id, finished tab id tabs.length)) (fun _ => Drawing.advances_pure _)
    ((tabId tabs tab).run keys).2
  rw [Drawing.drawnBy_pure, List.append_nil] at hwidget
  rw [← hwidget]
  exact Drawing.drawnBy_bind (advances_tabId tabs tab)
    (fun _ => (advances_withWidgetId tab).bind fun _ => Drawing.advances_pure _) keys

theorem keeps_made (tabs tab : Fields) (keys : KeySupply) :
    Keeps (keys.drawnBy (made tabs tab)) tabs.keys tabs.length tab ((made tabs tab).run keys).1.1
      ((made tabs tab).run keys).1.2 := by
  let id := ((tabId tabs tab).run keys).1
  let keys' := ((tabId tabs tab).run keys).2
  let tab' := ((withWidgetId tab).run keys').1
  have hrun : ((made tabs tab).run keys).1 = (id, finished tab' id tabs.length) := rfl
  have hvisible : tab'.get? "isVisible" = tab.get? "isVisible" :=
    get?_withWidgetId tab keys' (by decide)
  rw [hrun, drawnBy_made]
  exact
    { ownId := fun s hs hfree => run_tabId_of_not_mem hs hfree keys
      drawnId := fun hall => List.mem_append_left _ (mem_drawnBy_tabId hall keys)
      id := get?_finished_id tab' id tabs.length
      index := Table.get?_insert_self _ _ _
      ownWidgetId := by
        intro s hs
        rw [get?_finished_of_not_mem _ _ _ (by decide)]
        exact get?_withWidgetId_of_some hs keys'
      drawnWidgetId := by
        intro hnone
        obtain ⟨s, hs, hnew⟩ := get?_withWidgetId_of_none hnone keys'
        refine ⟨s, List.mem_append_right _ hs, ?_⟩
        rw [get?_finished_of_not_mem _ _ _ (by decide)]
        exact hnew
      ownVisibility := by
        intro b hb
        rw [← hvisible] at hb
        rw [get?_finished _ _ _ (by decide) (by decide), withVisibility_of_bool hb, hb]
      visible := by
        intro hall
        rw [← hvisible] at hall
        rw [get?_finished _ _ _ (by decide) (by decide), withVisibility_of_ne hall]
        exact Table.get?_insert_self _ _ _
      frame := by
        intro name hname
        simp only [List.mem_cons, List.not_mem_nil, or_false, not_or] at hname
        obtain ⟨hid, hindex, hwidget, hvisibility⟩ := hname
        rw [get?_finished_of_not_mem _ _ _ (by simp [hid, hindex, hvisibility]),
          get?_withWidgetId tab keys' hwidget] }

theorem addTab_of_labelled? {item : Json} {tab : Fields} (h : labelled? item = some tab)
    (tabs : Fields) :
    addTab tabs item = do
      let entry ← made tabs tab
      return tabs.insert entry.1 (.obj entry.2) := by
  cases item with
  | obj fields =>
      rw [labelled?, Option.ite_none_right_eq_some, Option.some.injEq] at h
      obtain ⟨hlabel, rfl⟩ := h
      have hsome : ((Table.get? fields "label").bind Json.string?).isNone = false := by
        rw [← Option.not_isSome, hlabel]
        rfl
      simp [addTab, made, hsome, finished]
  | null | bool _ | num _ | str _ | arr _ => cases h

theorem addTab_of_not_labelled? {item : Json} (h : labelled? item = none) (tabs : Fields) :
    addTab tabs item = pure tabs := by
  cases item with
  | obj fields =>
      rw [labelled?, ite_eq_right_iff] at h
      have hnone : ((Table.get? fields "label").bind Json.string?).isNone = true := by
        rw [← Option.not_isSome, Bool.not_eq_true']
        exact Bool.eq_false_iff.2 fun hsome => by cases h hsome
      simp [addTab, hnone]
  | null | bool _ | num _ | str _ | arr _ => rfl

theorem advances_addTab (tabs : Fields) (item : Json) : Drawing.Advances (addTab tabs item) := by
  cases h : labelled? item with
  | some tab =>
      rw [addTab_of_labelled? h]
      exact (advances_made tabs tab).bind fun _ => Drawing.advances_pure _
  | none =>
      rw [addTab_of_not_labelled? h]
      exact Drawing.advances_pure tabs

/-! ## Adding all tabs -/

/-- The tabs that have been added for some tabs of an old list: one for each, in the order of the
list, under different ids. -/
structure AllKept (drawn : List String) (olds : List Fields) (entries : List (String × Fields))
    (tabs : Fields) : Prop where
  sorted : tabs.Sorted
  perm : tabs.Perm (entries.map fun entry => (entry.1, .obj entry.2))
  length_eq : entries.length = olds.length
  keeps : ∀ i old entry, olds[i]? = some old → entries[i]? = some entry →
    Keeps drawn ((entries.take i).map Prod.fst) i old entry.1 entry.2

section AllKept

variable {drawn : List String} {olds : List Fields} {entries : List (String × Fields)}
  {tabs : Fields}

theorem allKept_nil : AllKept [] [] [] [] where
  sorted := List.Pairwise.nil
  perm := .refl _
  length_eq := rfl
  keeps := by simp

theorem AllKept.length_tabs (h : AllKept drawn olds entries tabs) :
    tabs.length = entries.length := by
  rw [h.perm.length_eq, List.length_map]

theorem AllKept.mem_keys_iff (h : AllKept drawn olds entries tabs) (id : String) :
    id ∈ tabs.keys ↔ id ∈ entries.map Prod.fst := by
  have hkeys := (h.perm.map Prod.fst).mem_iff (a := id)
  rw [List.map_map] at hkeys
  exact hkeys

theorem AllKept.get?_of_mem (h : AllKept drawn olds entries tabs) {entry : String × Fields}
    (hentry : entry ∈ entries) : tabs.get? entry.1 = some (.obj entry.2) := by
  rw [h.sorted.get?_eq_some_iff, h.perm.mem_iff]
  exact List.mem_map.2 ⟨entry, hentry, rfl⟩

/-- An id that is taken comes from the list, or has been drawn. -/
theorem AllKept.id_cases (h : AllKept drawn olds entries tabs) {id : String}
    (hid : id ∈ tabs.keys) : (∃ old ∈ olds, text? old "id" = some id) ∨ id ∈ drawn := by
  rw [h.mem_keys_iff] at hid
  obtain ⟨entry, hentry, rfl⟩ := List.mem_map.1 hid
  obtain ⟨i, hi⟩ := List.getElem?_of_mem hentry
  have hlt : i < olds.length := by
    rw [← h.length_eq]
    exact (List.getElem?_eq_some_iff.1 hi).1
  have hold : olds[i]? = some olds[i] := List.getElem?_eq_getElem hlt
  rcases (h.keeps i _ entry hold hi).id_cases with hown | hdrawn
  · exact Or.inl ⟨olds[i], List.getElem_mem hlt, hown.1⟩
  · exact Or.inr hdrawn

/-- One more tab under an id that is not taken. -/
theorem AllKept.insert (h : AllKept drawn olds entries tabs) {drawn' : List String}
    (hdrawn : drawn ⊆ drawn') {old new : Fields} {id : String} (hfree : id ∉ tabs.keys)
    (hnew : Keeps drawn' tabs.keys tabs.length old id new) :
    AllKept drawn' (olds ++ [old]) (entries ++ [(id, new)]) (tabs.insert id (.obj new)) where
  sorted := h.sorted.insert id _
  perm := by
    have hlast : ((id, Json.obj new) :: tabs).Perm (tabs ++ [(id, Json.obj new)]) :=
      (List.perm_append_singleton _ _).symm
    rw [List.map_append]
    exact (Table.perm_insert_of_not_mem hfree _).trans (hlast.trans (h.perm.append_right _))
  length_eq := by rw [List.length_append, List.length_append, h.length_eq]; rfl
  keeps := by
    intro i old' entry hold hentry
    rw [List.getElem?_append] at hold hentry
    rw [← h.length_eq] at hold
    split at hentry
    next hlt =>
      rw [if_pos hlt] at hold
      rw [List.take_append_of_le_length (Nat.le_of_lt hlt)]
      exact (h.keeps i old' entry hold hentry).imp hdrawn fun _ => Iff.rfl
    next hge =>
      -- the place of the new tab, which is the last one
      rw [if_neg hge, List.getElem?_singleton, Option.ite_none_right_eq_some,
        Option.some.injEq] at hold
      rw [List.getElem?_singleton, Option.ite_none_right_eq_some, Option.some.injEq] at hentry
      obtain ⟨-, rfl⟩ := hold
      obtain ⟨hi, rfl⟩ := hentry
      have hlength : i = entries.length := by omega
      subst hlength
      rw [List.take_left, ← h.length_tabs]
      exact hnew.imp (List.Subset.refl _) fun s => h.mem_keys_iff s

/-- One more tab, as long as the keys that are drawn for it are new. -/
theorem AllKept.addTab (h : AllKept drawn olds entries tabs) {item : Json} {old : Fields}
    (hitem : labelled? item = some old) (keys : KeySupply)
    (hnodup : (drawn ++ keys.drawnBy (addTab tabs item)).Nodup)
    (hnew : ∀ tab ∈ olds, ∀ id, text? tab "id" = some id →
      id ∉ keys.drawnBy (Migration.addTab tabs item)) :
    ∃ entry, AllKept (drawn ++ keys.drawnBy (Migration.addTab tabs item)) (olds ++ [old])
      (entries ++ [entry]) ((Migration.addTab tabs item).run keys).1 := by
  have hdrawn : keys.drawnBy (Migration.addTab tabs item) = keys.drawnBy (made tabs old) := by
    rw [addTab_of_labelled? hitem, Drawing.drawnBy_bind (advances_made tabs old)
      fun _ => Drawing.advances_pure _, Drawing.drawnBy_pure, List.append_nil]
  rw [hdrawn] at hnodup hnew ⊢
  rw [addTab_of_labelled? hitem]
  have hkeeps := keeps_made tabs old keys
  refine ⟨((made tabs old).run keys).1, ?_⟩
  refine h.insert (List.subset_append_left _ _) ?_
    (hkeeps.imp (List.subset_append_right _ _) fun _ => Iff.rfl)
  intro htaken
  rcases hkeeps.id_cases with hown | hid
  · exact hown.2 htaken
  · rcases h.id_cases htaken with ⟨tab, htab, hown⟩ | hbefore
    · exact hnew tab htab _ hown hid
    · exact (List.nodup_append.1 hnodup).2.2 _ hbefore _ hid rfl

/-- All tabs of a list, as long as the keys that are drawn for them are new. -/
theorem AllKept.foldlM (items : List Json) (h : AllKept drawn olds entries tabs) (keys : KeySupply)
    (hnodup : (drawn ++ keys.drawnBy (items.foldlM Migration.addTab tabs)).Nodup)
    (hnew : ∀ tab ∈ olds ++ listedTabs items, ∀ id, text? tab "id" = some id →
      id ∉ keys.drawnBy (items.foldlM Migration.addTab tabs)) :
    ∃ entries', AllKept (drawn ++ keys.drawnBy (items.foldlM Migration.addTab tabs))
      (olds ++ listedTabs items) entries' ((items.foldlM Migration.addTab tabs).run keys).1 := by
  induction items generalizing drawn olds entries tabs keys with
  | nil =>
      rw [List.foldlM_nil, Drawing.drawnBy_pure, listedTabs, List.filterMap_nil, List.append_nil,
        List.append_nil]
      exact ⟨entries, h⟩
  | cons item rest ih =>
      have hdrawn := Drawing.drawnBy_bind (advances_addTab tabs item)
        (Drawing.Advances.foldlM advances_addTab rest) keys
      rw [← List.foldlM_cons] at hdrawn
      have hrun : ((item :: rest).foldlM Migration.addTab tabs).run keys =
          (rest.foldlM Migration.addTab ((Migration.addTab tabs item).run keys).1).run
            ((Migration.addTab tabs item).run keys).2 := by
        rw [List.foldlM_cons]
        rfl
      rw [hdrawn, ← List.append_assoc] at hnodup ⊢
      rw [hdrawn] at hnew
      rw [hrun]
      cases hitem : labelled? item with
      | none =>
          have hlisted : listedTabs (item :: rest) = listedTabs rest := by
            simp [listedTabs, hitem]
          rw [addTab_of_not_labelled? hitem, Drawing.drawnBy_pure] at hnodup hnew ⊢
          rw [hlisted] at hnew ⊢
          rw [List.append_nil] at hnodup ⊢
          exact ih h keys hnodup hnew
      | some old =>
          have hlisted :
              olds ++ listedTabs (item :: rest) = (olds ++ [old]) ++ listedTabs rest := by
            simp [listedTabs, hitem]
          rw [hlisted] at hnew ⊢
          obtain ⟨entry, hstep⟩ := h.addTab hitem keys (List.nodup_append.1 hnodup).1 (by
            intro tab htab id hid hmem
            refine hnew tab ?_ id hid (List.mem_append_left _ hmem)
            exact List.mem_append_left _ (List.mem_append_left _ htab))
          exact ih hstep _ hnodup fun tab htab id hid hmem =>
            hnew tab htab id hid (List.mem_append_right _ hmem)

/-- The index of a tab is its place. -/
theorem AllKept.index_eq (h : AllKept drawn olds entries tabs) {i : Nat} {entry : String × Fields}
    (hentry : entries[i]? = some entry) (hi : i < 0x10000000000000000) :
    Tabs.index (.obj entry.2) = i := by
  have hlt : i < olds.length := by
    rw [← h.length_eq]
    exact (List.getElem?_eq_some_iff.1 hentry).1
  have hindex := (h.keeps i _ entry (List.getElem?_eq_getElem hlt) hentry).index
  rw [Tabs.index, Json.get?, hindex, Option.bind_some, Json.nat?_int hi, Option.getD_some]

/-- Sorting the tabs by their indices gives back the order of the list. -/
theorem AllKept.mergeSort_values (h : AllKept drawn olds entries tabs)
    (hlength : entries.length ≤ 0x10000000000000000) :
    (tabs.values.mergeSort fun a b => Tabs.index a ≤ Tabs.index b) =
      entries.map fun entry => .obj entry.2 := by
  have hindex {i : Nat} (hi : i < entries.length) : Tabs.index (.obj entries[i].2) = i :=
    h.index_eq (List.getElem?_eq_getElem hi) (by omega)
  have hperm : tabs.values.Perm (entries.map fun entry => .obj entry.2) := by
    have hvalues := h.perm.map Prod.snd
    rw [List.map_map] at hvalues
    exact hvalues
  have hordered : (entries.map fun entry => Json.obj entry.2).Pairwise fun a b =>
      Tabs.index a ≤ Tabs.index b := by
    rw [List.pairwise_map, List.pairwise_iff_getElem]
    intro i j hi hj hij
    rw [hindex hi, hindex hj]
    exact Nat.le_of_lt hij
  have hsorted : (tabs.values.mergeSort fun a b => Tabs.index a ≤ Tabs.index b).Pairwise fun a b =>
      Tabs.index a ≤ Tabs.index b := by
    refine (List.pairwise_mergeSort ?_ ?_ tabs.values).imp of_decide_eq_true
    · intro a b c hab hbc
      exact decide_eq_true (Nat.le_trans (of_decide_eq_true hab) (of_decide_eq_true hbc))
    · intro a b
      simpa using Nat.le_total (Tabs.index a) (Tabs.index b)
  have hall := (List.mergeSort_perm tabs.values fun a b => Tabs.index a ≤ Tabs.index b).trans hperm
  refine hall.eq_of_pairwise ?_ hsorted hordered
  -- no two tabs have the same index
  intro a b ha hb hab hba
  obtain ⟨_, hentry, rfl⟩ := List.mem_map.1 (hall.mem_iff.1 ha)
  obtain ⟨_, hentry', rfl⟩ := List.mem_map.1 hb
  obtain ⟨i, hi, rfl⟩ := List.getElem_of_mem hentry
  obtain ⟨j, hj, rfl⟩ := List.getElem_of_mem hentry'
  rw [hindex hi, hindex hj] at hab hba
  obtain rfl : i = j := Nat.le_antisymm hab hba
  rfl

end AllKept

/-! ## Migrating an old list -/

theorem run_migrate_of_hasOldList {w : Instance} (hneeded : isNeeded w = true) {items : List Json}
    (hlist : HasOldList w items) (keys : KeySupply) :
    (migrate w).run keys =
      ((change w [("tabsObj", .obj ((keyed items).run keys).1)]).apply w,
        ((keyed items).run keys).2) := by
  have htabs : (tabsById w).run keys =
      ([("tabsObj", .obj ((keyed items).run keys).1)], ((keyed items).run keys).2) := by
    rw [tabsById, hlist.oldItems?_eq]
    rfl
  rw [run_migrate, run_upgrade_of_isNeeded hneeded, htabs]

/-- Migrating an old list of tabs loses none of them, as long as the keys that are drawn are
different from each other and from the ids of the list. The tabs by their ids are one for each tab
of the list. The tab at a place of the list stands under its own id if no tab before it has this id,
and otherwise under a drawn key; it has this id, the place as its index, and keeps all its other
fields or gets what it lacks. Sorted by their indices, which are words, the tabs stand in the order
of the list. -/
theorem migrate_keeps_tabs {w : Instance} (hneeded : isNeeded w = true) {items : List Json}
    (hlist : HasOldList w items) (keys : KeySupply)
    (hnodup : (keys.drawnBy (migrate w)).Nodup)
    (hnew : ∀ id ∈ listedIds items, id ∉ keys.drawnBy (migrate w)) :
    ∃ (tabs : Fields) (entries : List (String × Fields)),
      ((migrate w).run keys).1.get? "tabsObj" = some (.obj tabs) ∧
      tabs.length = (listedTabs items).length ∧ entries.length = (listedTabs items).length ∧
      (∀ entry ∈ entries, tabs.get? entry.1 = some (.obj entry.2)) ∧
      (∀ i old entry, (listedTabs items)[i]? = some old → entries[i]? = some entry →
        Keeps (keys.drawnBy (migrate w)) ((entries.take i).map Prod.fst) i old entry.1 entry.2) ∧
      (tabs.length ≤ 0x10000000000000000 →
        (tabs.values.mergeSort fun a b => Tabs.index a ≤ Tabs.index b) =
          entries.map fun entry => .obj entry.2) := by
  have hrun := run_migrate_of_hasOldList hneeded hlist keys
  have hdrawn : keys.drawnBy (migrate w) = keys.drawnBy (keyed items) := by
    rw [KeySupply.drawnBy, hrun]
    rfl
  rw [hdrawn] at hnodup hnew ⊢
  obtain ⟨entries, hkept⟩ := AllKept.foldlM items allKept_nil keys hnodup fun tab htab id hid =>
    hnew id (List.mem_filterMap.2 ⟨tab, htab, hid⟩)
  refine ⟨((keyed items).run keys).1, entries, ?_, ?_, hkept.length_eq, ?_, hkept.keeps, ?_⟩
  · rw [hrun]
    exact get?_change_apply_of_mem w (.refl _) (Or.inl (List.mem_singleton_self _))
  · exact hkept.length_tabs.trans hkept.length_eq
  · intro entry hentry
    exact hkept.get?_of_mem hentry
  · intro hlength
    exact hkept.mergeSort_values (hkept.length_tabs ▸ hlength)

/-- A list that was bound, of three tabs and an item without a label. The second tab repeats the id
of the first, and the third has none. -/
theorem migrate_keeps_tabs_bound :
    let items : List Json :=
      [.obj [("id", "a"), ("label", "First"), ("widgetId", "w")], .str "label",
        .obj [("id", "a"), ("label", "Second")],
        .obj [("index", .int 7), ("isVisible", false), ("label", "Third")]]
    let w : Instance :=
      ⟨⟨1⟩, "Tabs1", .legacyTabs, none,
        [("__evaluation__", .obj [("evaluatedValues", .obj [("tabs", .arr items)])]),
          ("tabs", .str "\x7b\x7b Api.tabs \x7d\x7d")]⟩
    let keys := KeySupply.counting []
    (isNeeded w = true ∧ HasOldList w items ∧ (keys.drawnBy (migrate w)).Nodup ∧
      ∀ id ∈ listedIds items, id ∉ keys.drawnBy (migrate w)) ∧
    ∃ (tabs : Fields) (entries : List (String × Fields)),
      ((migrate w).run keys).1.get? "tabsObj" = some (.obj tabs) ∧
      tabs.length = (listedTabs items).length ∧ entries.length = (listedTabs items).length ∧
      (∀ entry ∈ entries, tabs.get? entry.1 = some (.obj entry.2)) ∧
      (∀ i old entry, (listedTabs items)[i]? = some old → entries[i]? = some entry →
        Keeps (keys.drawnBy (migrate w)) ((entries.take i).map Prod.fst) i old entry.1 entry.2) ∧
      (tabs.length ≤ 0x10000000000000000 →
        (tabs.values.mergeSort fun a b => Tabs.index a ≤ Tabs.index b) =
          entries.map fun entry => .obj entry.2) := by
  intro items w keys
  have hneeded : isNeeded w = true := by decide
  have hlist : HasOldList w items := .bound rfl rfl rfl .array
  have hdrawn : keys.drawnBy (migrate w) =
      ["0000000000", "0000000001", "0000000002", "0000000003"] := by
    decide +kernel
  have hnodup : (keys.drawnBy (migrate w)).Nodup := by
    rw [hdrawn]
    decide
  have hnew : ∀ id ∈ listedIds items, id ∉ keys.drawnBy (migrate w) := by
    rw [hdrawn]
    decide
  exact ⟨⟨hneeded, hlist, hnodup, hnew⟩, migrate_keeps_tabs hneeded hlist keys hnodup hnew⟩

end Migration

end Widgetry
