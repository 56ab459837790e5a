/-!
# Sorted dictionaries

A dictionary is a list of pairs that lists its keys in strictly increasing order. The order of
the list is the order in which a dictionary is walked and written, so two dictionaries with the
same entries are the same list. The lookup laws `get?_insert_self`, `get?_insert_of_ne`,
`get?_erase_self` and `get?_erase_of_ne` need no assumption on the list; `Sorted` says when the
list is the one list of its entries.
-/

namespace Widgetry

/-- A dictionary: pairs in increasing order of their keys. -/
abbrev Table (κ α : Type) := List (κ × α)

namespace Table

variable {κ α : Type}

/-- The keys stand in strictly increasing order. -/
def Sorted [LT κ] (t : Table κ α) : Prop :=
  t.Pairwise fun a b => a.1 < b.1

/-- The value of a key. -/
def get? [DecidableEq κ] : Table κ α → κ → Option α
  | [], _ => none
  | (k', v) :: rest, k => if k' = k then some v else get? rest k

/-- Whether a key has a value. -/
def contains [DecidableEq κ] (t : Table κ α) (k : κ) : Bool :=
  (t.get? k).isSome

/-- Gives `k` the value `v`, in place of the value it had. -/
def insert [LT κ] [DecidableLT κ] [DecidableEq κ] : Table κ α → κ → α → Table κ α
  | [], k, v => [(k, v)]
  | (k', v') :: rest, k, v =>
    if k = k' then (k, v) :: rest
    else if k < k' then (k, v) :: (k', v') :: rest
    else (k', v') :: insert rest k v

/-- Takes a key and its value away. -/
def erase [DecidableEq κ] (t : Table κ α) (k : κ) : Table κ α :=
  t.filter fun entry => entry.1 ≠ k

/-- The keys in order. -/
def keys (t : Table κ α) : List κ :=
  t.map Prod.fst

/-- The values in the order of their keys. -/
def values (t : Table κ α) : List α :=
  t.map Prod.snd

/-- The entries of `top` laid over those of `base`: where both have a key, `top` decides. -/
def overlay [LT κ] [DecidableLT κ] [DecidableEq κ] (base top : Table κ α) : Table κ α :=
  top.foldl (fun t entry => t.insert entry.1 entry.2) base

/-- The dictionary of a list of pairs; of two pairs with one key the later counts. -/
def ofList [LT κ] [DecidableLT κ] [DecidableEq κ] (entries : List (κ × α)) : Table κ α :=
  overlay [] entries

@[simp] theorem get?_nil [DecidableEq κ] (k : κ) : get? ([] : Table κ α) k = none := rfl

theorem get?_cons [DecidableEq κ] (entry : κ × α) (t : Table κ α) (k : κ) :
    get? (entry :: t) k = if entry.1 = k then some entry.2 else get? t k := rfl

theorem get?_cons_self [DecidableEq κ] (k : κ) (v : α) (t : Table κ α) :
    get? ((k, v) :: t) k = some v := by
  simp [get?]

theorem get?_cons_of_ne [DecidableEq κ] {k k' : κ} (h : k' ≠ k) (v : α) (t : Table κ α) :
    get? ((k', v) :: t) k = get? t k := by
  simp [get?, h]

@[simp] theorem get?_insert_self [LT κ] [DecidableLT κ] [DecidableEq κ]
    (t : Table κ α) (k : κ) (v : α) : (t.insert k v).get? k = some v := by
  induction t with
  | nil => simp [insert, get?]
  | cons entry rest ih =>
    obtain ⟨k', v'⟩ := entry
    unfold insert
    split
    · simp [get?]
    · split
      · simp [get?]
      · rename_i h _
        rw [get?_cons_of_ne (fun e => h e.symm), ih]

theorem get?_insert_of_ne [LT κ] [DecidableLT κ] [DecidableEq κ]
    (t : Table κ α) {k k' : κ} (h : k' ≠ k) (v : α) : (t.insert k v).get? k' = t.get? k' := by
  induction t with
  | nil => simp [insert, get?, h.symm]
  | cons entry rest ih =>
    obtain ⟨k'', v''⟩ := entry
    unfold insert
    split
    · rename_i e
      subst e
      simp [get?, h.symm]
    · split
      · simp [get?, h.symm]
      · simp [get?, ih]

@[simp] theorem get?_erase_self [DecidableEq κ] (t : Table κ α) (k : κ) :
    (t.erase k).get? k = none := by
  induction t with
  | nil => rfl
  | cons entry rest ih =>
    obtain ⟨k', v'⟩ := entry
    by_cases h : k' = k
    · simpa [erase, h] using ih
    · simpa [erase, h, get?] using ih

theorem get?_erase_of_ne [DecidableEq κ] (t : Table κ α) {k k' : κ} (h : k' ≠ k) :
    (t.erase k).get? k' = t.get? k' := by
  induction t with
  | nil => rfl
  | cons entry rest ih =>
    obtain ⟨k'', v''⟩ := entry
    by_cases h' : k'' = k
    · subst h'
      simpa [erase, get?, h.symm] using ih
    · simp only [erase, ne_eq, h', not_false_eq_true, decide_true, List.filter_cons_of_pos,
        get?_cons]
      split
      · rfl
      · exact ih

end Table

end Widgetry
