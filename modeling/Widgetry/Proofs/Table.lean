import Mathlib.Data.List.Nodup
import Widgetry.Table

/-!
# Laws of dictionaries

A key is one of the keys of a dictionary if and only if it has a value. Each operation says which
keys there are after it, and two changes of one key come to the second of them. A dictionary made by
these operations is sorted, and then its entries are its keys with their values.
-/

namespace Widgetry.Table

variable {κ α : Type} [DecidableEq κ]

theorem get?_eq_none_iff (t : Table κ α) (k : κ) : t.get? k = none ↔ k ∉ t.keys := by
  induction t with
  | nil => simp [keys]
  | cons entry rest ih =>
      rw [get?_cons]
      split
      next h => simp [keys, h]
      next h =>
        rw [ih]
        simp [keys, Ne.symm h]

theorem mem_keys_iff (t : Table κ α) (k : κ) : k ∈ t.keys ↔ ∃ v, t.get? k = some v := by
  rw [← Option.isSome_iff_exists, ← Option.ne_none_iff_isSome, Ne, get?_eq_none_iff,
    Classical.not_not]

theorem get?_erase (t : Table κ α) (k k' : κ) :
    (t.erase k).get? k' = if k' = k then none else t.get? k' := by
  split
  next h => rw [h, get?_erase_self]
  next h => exact get?_erase_of_ne t h

theorem mem_keys_erase (t : Table κ α) (k k' : κ) :
    k' ∈ (t.erase k).keys ↔ k' ≠ k ∧ k' ∈ t.keys := by
  simp [keys, erase, and_comm]

/-- Where no key stands twice, the entries are the keys with their values. -/
theorem get?_eq_some_iff_of_nodup {t : Table κ α} (h : t.keys.Nodup) (k : κ) (v : α) :
    t.get? k = some v ↔ (k, v) ∈ t := by
  induction t with
  | nil => simp
  | cons entry rest ih =>
      obtain ⟨hnot, hrest⟩ := List.nodup_cons.1 h
      rw [get?_cons, List.mem_cons]
      split
      next heq =>
        subst heq
        have hmem : (entry.1, v) ∉ rest := fun hmem => hnot (List.mem_map.2 ⟨_, hmem, rfl⟩)
        rw [or_iff_left hmem]
        constructor
        · intro hv
          rw [← Option.some.inj hv]
        · intro hentry
          rw [← hentry]
      next hne =>
        rw [ih hrest, or_iff_right]
        rintro rfl
        exact hne rfl

omit [DecidableEq κ] in
/-- Leaving entries out leaves their keys out. -/
theorem keys_filterMap_sublist (t : Table κ (Option α)) :
    (keys (t.filterMap fun entry => entry.2.map (entry.1, ·))).Sublist t.keys := by
  induction t with
  | nil => exact .slnil
  | cons entry rest ih =>
      obtain ⟨k, v⟩ := entry
      cases v with
      | none => exact ih.cons k
      | some v => exact ih.cons_cons k

/-- Of keys that are taken away one after the other none has a value any more. -/
theorem get?_foldl_erase (t : Table κ α) (names : List κ) (k : κ) :
    (names.foldl Table.erase t).get? k = if k ∈ names then none else t.get? k := by
  induction names generalizing t with
  | nil => simp
  | cons name rest ih =>
      rw [List.foldl_cons, ih, get?_erase]
      by_cases h : k = name
      · simp [h]
      · simp [h]

/-! ## Sorted dictionaries -/

section Sorted

variable [LT κ]

theorem Sorted.erase {t : Table κ α} (h : t.Sorted) (k : κ) : (t.erase k).Sorted :=
  List.Pairwise.filter _ h

/-- No later entry has the key of the first one. -/
theorem Sorted.get?_tail_eq_none [Std.Irrefl ((· < ·) : κ → κ → Prop)] {entry : κ × α}
    {rest : Table κ α} (h : Sorted (entry :: rest)) : rest.get? entry.1 = none := by
  rw [get?_eq_none_iff]
  intro hmem
  obtain ⟨other, hother, heq⟩ := List.mem_map.1 hmem
  have hlt := List.rel_of_pairwise_cons h hother
  rw [heq] at hlt
  exact Std.Irrefl.irrefl _ hlt

omit [DecidableEq κ] in
/-- No key of a sorted dictionary stands twice. -/
theorem Sorted.nodup_keys [Std.Irrefl ((· < ·) : κ → κ → Prop)] {t : Table κ α} (h : t.Sorted) :
    t.keys.Nodup := by
  rw [List.Nodup, keys, List.pairwise_map]
  refine h.imp ?_
  intro a b hlt heq
  rw [heq] at hlt
  exact Std.Irrefl.irrefl _ hlt

/-- The entries of a sorted dictionary are its keys with their values. -/
theorem Sorted.get?_eq_some_iff [Std.Irrefl ((· < ·) : κ → κ → Prop)] {t : Table κ α}
    (h : t.Sorted) (k : κ) (v : α) : t.get? k = some v ↔ (k, v) ∈ t :=
  get?_eq_some_iff_of_nodup h.nodup_keys k v

/-- A sorted dictionary is known by its values. -/
theorem Sorted.ext [Std.Irrefl ((· < ·) : κ → κ → Prop)]
    [Trans ((· < ·) : κ → κ → Prop) ((· < ·) : κ → κ → Prop) ((· < ·) : κ → κ → Prop)]
    {t t' : Table κ α} (h : t.Sorted) (h' : t'.Sorted) (heq : ∀ k, t.get? k = t'.get? k) :
    t = t' := by
  have hne (a b : κ × α) (hlt : a.1 < b.1) : a ≠ b := by
    rintro rfl
    exact Std.Irrefl.irrefl _ hlt
  have hmem (entry : κ × α) : entry ∈ t ↔ entry ∈ t' := by
    rw [← h.get?_eq_some_iff entry.1 entry.2, ← h'.get?_eq_some_iff entry.1 entry.2, heq]
  have hperm : t.Perm t' :=
    (List.perm_ext_iff_of_nodup (h.imp fun hlt => hne _ _ hlt)
      (h'.imp fun hlt => hne _ _ hlt)).2 hmem
  refine hperm.eq_of_pairwise ?_ h h'
  intro a b _ _ hab hba
  exact absurd (Trans.trans hab hba) (Std.Irrefl.irrefl _)

end Sorted

/-! ## Changes -/

variable [LT κ] [DecidableLT κ]

theorem get?_insert (t : Table κ α) (k k' : κ) (v : α) :
    (t.insert k v).get? k' = if k' = k then some v else t.get? k' := by
  split
  next h => rw [h, get?_insert_self]
  next h => exact get?_insert_of_ne t h v

theorem mem_keys_insert (t : Table κ α) (k k' : κ) (v : α) :
    k' ∈ (t.insert k v).keys ↔ k' = k ∨ k' ∈ t.keys := by
  rw [mem_keys_iff, mem_keys_iff, get?_insert]
  split
  next h => simp [h]
  next h => simp [h]

theorem insert_insert_self (t : Table κ α) (k : κ) (v v' : α) :
    (t.insert k v).insert k v' = t.insert k v' := by
  induction t with
  | nil => simp [insert]
  | cons entry rest ih =>
      obtain ⟨k', w⟩ := entry
      by_cases heq : k = k'
      · simp [insert, heq]
      · by_cases hlt : k < k'
        · simp [insert, heq, hlt]
        · simp [insert, heq, hlt, ih]

/-- Whether a key has some value, which stands where it would be inserted, or has none. -/
def Holds (t : Table κ α) (k : κ) : Option α → Prop
  | some v => t.insert k v = t
  | none => t.get? k = none

theorem Holds.get?_eq {t : Table κ α} {k : κ} {found : Option α} (h : t.Holds k found) :
    t.get? k = found := by
  cases found with
  | none => exact h
  | some v =>
      have hinsert := get?_insert_self t k v
      rwa [show t.insert k v = t from h] at hinsert

/-- A new key adds one entry and leaves the others. -/
theorem perm_insert_of_not_mem {t : Table κ α} {k : κ} (h : k ∉ t.keys) (v : α) :
    (t.insert k v).Perm ((k, v) :: t) := by
  induction t with
  | nil => exact .refl _
  | cons entry rest ih =>
      obtain ⟨k', v'⟩ := entry
      have hne : k ≠ k' := by
        rintro rfl
        exact h List.mem_cons_self
      have hrest : k ∉ keys rest := fun hmem => h (List.mem_cons_of_mem k' hmem)
      rw [insert, if_neg hne]
      split
      next => exact .refl _
      next => exact ((ih hrest).cons (k', v')).trans (.swap _ _ _)

theorem mem_keys_overlay (base top : Table κ α) (k : κ) :
    k ∈ (base.overlay top).keys ↔ k ∈ base.keys ∨ k ∈ top.keys := by
  unfold overlay
  induction top generalizing base with
  | nil => simp [keys]
  | cons entry rest ih =>
      have hentry : k ∈ keys (entry :: rest) ↔ k = entry.1 ∨ k ∈ keys rest := by simp [keys]
      rw [List.foldl_cons, ih, mem_keys_insert, hentry, or_left_comm, or_assoc]

/-- Where nothing is laid over a key, its value stays. -/
theorem get?_overlay_of_not_mem (base top : Table κ α) {k : κ} (h : k ∉ top.keys) :
    (base.overlay top).get? k = base.get? k := by
  unfold overlay
  induction top generalizing base with
  | nil => rfl
  | cons entry rest ih =>
      have hentry : k ≠ entry.1 := by
        intro heq
        exact h (by simp [keys, heq])
      have hrest : k ∉ Table.keys rest := by
        intro hmem
        exact h (List.mem_cons_of_mem entry.1 hmem)
      rw [List.foldl_cons, ih _ hrest, get?_insert_of_ne base hentry]

/-- What a key has under the upper dictionary matters only where the upper one lacks the key. -/
theorem get?_overlay_congr {base base' : Table κ α} (top : Table κ α) {k : κ}
    (h : base.get? k = base'.get? k ∨ k ∈ top.keys) :
    (base.overlay top).get? k = (base'.overlay top).get? k := by
  unfold overlay
  induction top generalizing base base' with
  | nil => simpa [keys] using h
  | cons entry rest ih =>
      rw [List.foldl_cons, List.foldl_cons]
      refine ih ?_
      rw [get?_insert, get?_insert]
      by_cases heq : k = entry.1
      · exact Or.inl (by rw [if_pos heq, if_pos heq])
      · have hkeys : k ∈ keys (entry :: rest) ↔ k ∈ keys rest := by simp [keys, heq]
        rwa [if_neg heq, if_neg heq, ← hkeys]

/-- Of entries under one key that all have the same value, any one decides. -/
theorem get?_overlay_of_unique (base : Table κ α) {top : List (κ × α)} {k : κ} {v : α}
    (hall : ∀ entry ∈ top, entry.1 = k → entry.2 = v)
    (h : k ∈ keys top ∨ base.get? k = some v) : (base.overlay top).get? k = some v := by
  unfold overlay
  induction top generalizing base with
  | nil => simpa [keys] using h
  | cons entry rest ih =>
      have hrest : ∀ entry ∈ rest, entry.1 = k → entry.2 = v := by
        intro other hother
        exact hall other (List.mem_cons_of_mem entry hother)
      rw [List.foldl_cons]
      refine ih _ hrest ?_
      rw [get?_insert]
      by_cases heq : k = entry.1
      · exact Or.inr (by rw [if_pos heq, hall entry List.mem_cons_self heq.symm])
      · rw [if_neg heq]
        have hkeys : k ∈ keys (entry :: rest) ↔ k ∈ keys rest := by simp [keys, heq]
        rwa [← hkeys]

/-- The value of a key is a matter of the entries under this key: others may be left out. -/
theorem get?_overlay_map_filter {β : Type} (base : Table κ α) (f : β → κ × α) {items : List β}
    {p : β → Bool} {k : κ} (h : ∀ item ∈ items, (f item).1 = k → p item = true) :
    (base.overlay ((items.filter p).map f)).get? k = (base.overlay (items.map f)).get? k := by
  unfold overlay
  induction items generalizing base with
  | nil => rfl
  | cons item rest ih =>
      have hrest : ∀ item ∈ rest, (f item).1 = k → p item = true := by
        intro other hother
        exact h other (List.mem_cons_of_mem item hother)
      cases hp : p item with
      | true =>
          rw [List.filter_cons_of_pos hp, List.map_cons, List.map_cons, List.foldl_cons,
            List.foldl_cons, ih _ hrest]
      | false =>
          have hne : k ≠ (f item).1 := by
            intro heq
            rw [h item List.mem_cons_self heq.symm] at hp
            cases hp
          have hbase : base.get? k = (base.insert (f item).1 (f item).2).get? k :=
            (get?_insert_of_ne base hne (f item).2).symm
          rw [List.filter_cons_of_neg (by simp [hp]), List.map_cons, List.foldl_cons, ← ih _ hrest]
          exact get?_overlay_congr _ (Or.inl hbase)

/-- A value that a key has after the upper dictionary has been laid over stands in one of both. -/
theorem mem_of_get?_overlay {base : Table κ α} {top : List (κ × α)} {k : κ} {v : α}
    (h : (base.overlay top).get? k = some v) : base.get? k = some v ∨ (k, v) ∈ top := by
  unfold overlay at h
  induction top generalizing base with
  | nil => exact Or.inl h
  | cons entry rest ih =>
      rcases ih h with hbase | hrest
      · rw [get?_insert] at hbase
        split at hbase
        next heq =>
          refine Or.inr (List.mem_cons.2 (Or.inl ?_))
          rw [heq, ← Option.some.inj hbase]
        next => exact Or.inl hbase
      · exact Or.inr (List.mem_cons_of_mem entry hrest)

theorem mem_of_get?_ofList {entries : List (κ × α)} {k : κ} {v : α}
    (h : (ofList entries).get? k = some v) : (k, v) ∈ entries :=
  (mem_of_get?_overlay h).resolve_left fun hnil => by cases hnil

/-- If no key stands twice, the entries are the keys with their values. -/
theorem get?_ofList_eq_some_iff {entries : List (κ × α)} (h : (keys entries).Nodup) (k : κ)
    (v : α) : (ofList entries).get? k = some v ↔ (k, v) ∈ entries := by
  refine ⟨mem_of_get?_ofList, ?_⟩
  intro hmem
  refine get?_overlay_of_unique [] ?_ (Or.inl (List.mem_map_of_mem hmem))
  intro other hother heq
  rw [List.inj_on_of_nodup_map h hother hmem heq]

/-- Where both dictionaries have a key, the upper one decides. -/
theorem get?_overlay [Std.Irrefl ((· < ·) : κ → κ → Prop)] (base : Table κ α) {top : Table κ α}
    (h : top.Sorted) (k : κ) : (base.overlay top).get? k = (top.get? k).or (base.get? k) := by
  unfold overlay
  induction top generalizing base with
  | nil => rfl
  | cons entry rest ih =>
      have htail := h.get?_tail_eq_none
      rw [List.foldl_cons, ih _ h.of_cons, get?_insert, get?_cons]
      by_cases heq : k = entry.1
      · rw [heq, htail]
        simp
      · rw [if_neg heq, if_neg (Ne.symm heq)]

variable [Trans ((· < ·) : κ → κ → Prop) ((· < ·) : κ → κ → Prop) ((· < ·) : κ → κ → Prop)]
  [Std.Trichotomous ((· < ·) : κ → κ → Prop)]

theorem Sorted.insert {t : Table κ α} (h : t.Sorted) (k : κ) (v : α) : (t.insert k v).Sorted := by
  induction t with
  | nil => exact List.pairwise_singleton _ _
  | cons entry rest ih =>
      obtain ⟨k', v'⟩ := entry
      have hrest : ∀ other ∈ rest, k' < other.1 := fun other => List.rel_of_pairwise_cons h
      rw [Table.insert]
      split
      next heq =>
        subst heq
        exact h.of_cons.cons hrest
      next hne =>
        split
        next hlt =>
          refine List.Pairwise.cons ?_ h
          intro other hother
          rcases List.mem_cons.1 hother with rfl | hmem
          · exact hlt
          · exact Trans.trans hlt (hrest other hmem)
        next hnlt =>
          have hlt : k' < k := Decidable.byContradiction fun hngt =>
            hne (Std.Trichotomous.trichotomous k k' hnlt hngt)
          refine List.Pairwise.cons ?_ (ih h.of_cons)
          intro other hother
          have hkeys : other.1 ∈ (Table.insert rest k v).keys := List.mem_map_of_mem hother
          rcases (mem_keys_insert rest k other.1 v).1 hkeys with heq | hmem
          · rw [heq]
            exact hlt
          · obtain ⟨found, hfound, heq⟩ := List.mem_map.1 hmem
            rw [← heq]
            exact hrest found hfound

theorem Sorted.overlay {base : Table κ α} (h : base.Sorted) (top : List (κ × α)) :
    (base.overlay top).Sorted := by
  unfold Table.overlay
  induction top generalizing base with
  | nil => exact h
  | cons entry rest ih => exact ih (h.insert entry.1 entry.2)

theorem sorted_ofList (entries : List (κ × α)) : (ofList entries).Sorted :=
  Sorted.overlay List.Pairwise.nil entries

/-- If no key stands twice, the order of the entries does not matter. -/
theorem ofList_eq_of_perm [Std.Irrefl ((· < ·) : κ → κ → Prop)] {entries entries' : List (κ × α)}
    (hperm : entries.Perm entries') (h : (keys entries).Nodup) :
    ofList entries = ofList entries' := by
  have h' : (keys entries').Nodup := (hperm.map Prod.fst).nodup_iff.1 h
  refine (sorted_ofList entries).ext (sorted_ofList entries') ?_
  intro k
  refine Option.ext ?_
  intro v
  rw [get?_ofList_eq_some_iff h, get?_ofList_eq_some_iff h', hperm.mem_iff]

variable [Std.Irrefl ((· < ·) : κ → κ → Prop)]

/-- A sorted dictionary is the dictionary of its entries. -/
theorem Sorted.ofList_eq {t : Table κ α} (h : t.Sorted) : ofList t = t := by
  refine (sorted_ofList t).ext h ?_
  intro k
  exact (get?_overlay [] h k).trans Option.or_none

theorem insert_insert_of_lt (t : Table κ α) {k k' : κ} (h : k < k') (v v' : α) :
    (t.insert k v).insert k' v' = (t.insert k' v').insert k v := by
  have hnlt : ¬k' < k := fun h' => Std.Irrefl.irrefl k (Trans.trans h h')
  have hne : k ≠ k' := by
    rintro rfl
    exact hnlt h
  induction t with
  | nil => simp [insert, h, hnlt, hne, hne.symm]
  | cons entry rest ih =>
      obtain ⟨j, w⟩ := entry
      by_cases heq : k = j
      · subst heq
        simp [insert, hnlt, hne.symm]
      · by_cases hlt : k < j
        · have hcons : ∃ entry' rest', insert ((j, w) :: rest) k' v' = entry' :: rest' ∧
              k ≠ entry'.1 ∧ k < entry'.1 := by
            rw [insert]
            split
            next => exact ⟨_, _, rfl, hne, h⟩
            next =>
              split
              next => exact ⟨_, _, rfl, hne, h⟩
              next => exact ⟨_, _, rfl, heq, hlt⟩
          obtain ⟨entry', rest', hinsert, hne', hlt'⟩ := hcons
          have hfirst : insert (entry' :: rest') k v = (k, v) :: entry' :: rest' := by
            simp [insert, hne', hlt']
          rw [hinsert, hfirst, ← hinsert]
          simp [insert, heq, hlt, hnlt, hne.symm]
        · have hjk : j < k := Decidable.byContradiction fun hngt =>
            heq (Std.Trichotomous.trichotomous k j hlt hngt)
          have hjk' : j < k' := Trans.trans hjk h
          have hnlt' : ¬k' < j := fun h' => Std.Irrefl.irrefl j (Trans.trans hjk' h')
          have hne' : k' ≠ j := by
            rintro rfl
            exact hnlt' hjk'
          simp [insert, heq, hlt, hne', hnlt', ih]

/-- Values for different keys can be given in either order. -/
theorem insert_comm (t : Table κ α) {k k' : κ} (h : k ≠ k') (v v' : α) :
    (t.insert k v).insert k' v' = (t.insert k' v').insert k v := by
  by_cases hlt : k < k'
  · exact insert_insert_of_lt t hlt v v'
  · have hgt : k' < k := Decidable.byContradiction fun hngt =>
      h (Std.Trichotomous.trichotomous k k' hlt hngt)
    exact (insert_insert_of_lt t hgt v' v).symm

/-- A value that is given again changes nothing. -/
theorem Sorted.insert_of_get? {t : Table κ α} (h : t.Sorted) {k : κ} {v : α}
    (hv : t.get? k = some v) : t.insert k v = t := by
  refine (h.insert k v).ext h ?_
  intro k'
  rw [get?_insert]
  split
  next heq => rw [heq, hv]
  next => rfl

theorem Holds.insert {t : Table κ α} {k k' : κ} {found : Option α} (h : t.Holds k found)
    (hne : k ≠ k') (v : α) : (t.insert k' v).Holds k found := by
  cases found with
  | none => exact (get?_insert_of_ne t hne v).trans h
  | some v' =>
      show (t.insert k' v).insert k v' = t.insert k' v
      rw [insert_comm t hne.symm, show t.insert k v' = t from h]

end Widgetry.Table
