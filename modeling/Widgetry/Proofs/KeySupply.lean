import Widgetry.KeySupply

/-!
# What a computation draws

A computation that draws takes the next keys of its supply, one after the other, and leaves the rest
of the supply behind. `KeySupply.drawnBy` lists the keys that it takes. One that draws nothing has
the same value for every supply and leaves the supply as it is.
-/

namespace Widgetry

namespace KeySupply

/-- The next keys of a supply, as many as are asked for. -/
def next (keys : KeySupply) (n : Nat) : List String :=
  (List.range n).map fun i => keys.key (keys.used + i)

/-- The supply without its next keys. -/
def skip (keys : KeySupply) (n : Nat) : KeySupply :=
  { keys with used := keys.used + n }

theorem skip_skip (keys : KeySupply) (m n : Nat) : (keys.skip m).skip n = keys.skip (m + n) := by
  simp [skip, Nat.add_assoc]

theorem next_add (keys : KeySupply) (m n : Nat) :
    keys.next (m + n) = keys.next m ++ (keys.skip m).next n := by
  simp [next, skip, List.range_add, Nat.add_assoc]

/-- The keys that a computation draws from a supply. -/
def drawnBy {α : Type} (keys : KeySupply) (d : Drawing α) : List String :=
  keys.next ((d.run keys).2.used - keys.used)

end KeySupply

namespace Drawing

variable {α β : Type}

theorem run_bind (d : Drawing α) (f : α → Drawing β) (keys : KeySupply) :
    (d >>= f).run keys = (f (d.run keys).1).run (d.run keys).2 := rfl

theorem run_mapM_cons (f : α → Drawing β) (a : α) (rest : List α) (keys : KeySupply) :
    ((a :: rest).mapM f).run keys =
      let first := (f a).run keys
      let others := (rest.mapM f).run first.2
      (first.1 :: others.1, others.2) := by
  rw [List.mapM_cons]
  rfl

/-! ## Drawing the next keys -/

/-- Whether a computation leaves a supply without some of its next keys behind. -/
def Advances (d : Drawing α) : Prop :=
  ∀ keys, ∃ n, (d.run keys).2 = keys.skip n

theorem advances_pure (a : α) : Advances (pure a) :=
  fun _ => ⟨0, rfl⟩

theorem advances_draw : Advances KeySupply.draw :=
  fun _ => ⟨1, rfl⟩

theorem Advances.bind {d : Drawing α} (h : Advances d) {f : α → Drawing β}
    (hf : ∀ a, Advances (f a)) : Advances (d >>= f) := by
  intro keys
  obtain ⟨m, hm⟩ := h keys
  obtain ⟨n, hn⟩ := hf (d.run keys).1 (d.run keys).2
  refine ⟨m + n, ?_⟩
  rw [run_bind, hn, hm, KeySupply.skip_skip]

theorem Advances.foldlM {f : β → α → Drawing β} (h : ∀ b a, Advances (f b a)) (items : List α)
    (b : β) : Advances (items.foldlM f b) := by
  induction items generalizing b with
  | nil => exact advances_pure b
  | cons a rest ih =>
      rw [List.foldlM_cons]
      exact (h b a).bind ih

theorem Advances.mapM {f : α → Drawing β} (h : ∀ a, Advances (f a)) (items : List α) :
    Advances (items.mapM f) := by
  induction items with
  | nil => exact advances_pure []
  | cons a rest ih =>
      rw [List.mapM_cons]
      exact (h a).bind fun b => ih.bind fun bs => advances_pure (b :: bs)

/-- Each value for the items of a list comes from one of them and from the keys that were left. -/
theorem exists_run_of_mem_mapM {f : α → Drawing β} (h : ∀ a, Advances (f a)) {items : List α}
    {keys : KeySupply} {b : β} (hb : b ∈ ((items.mapM f).run keys).1) :
    ∃ a ∈ items, ∃ n, ((f a).run (keys.skip n)).1 = b := by
  induction items generalizing keys with
  | nil => cases hb
  | cons first rest ih =>
      obtain ⟨m, hm⟩ := h first keys
      rw [run_mapM_cons] at hb
      dsimp only at hb
      rw [hm] at hb
      rcases List.mem_cons.1 hb with rfl | hrest
      · exact ⟨first, List.mem_cons_self, 0, rfl⟩
      · obtain ⟨a, ha, n, hn⟩ := ih hrest
        rw [KeySupply.skip_skip] at hn
        exact ⟨a, List.mem_cons_of_mem first ha, m + n, hn⟩

/-- Each item of a list has its value among those for the items. -/
theorem exists_run_mem_mapM {f : α → Drawing β} (h : ∀ a, Advances (f a)) {items : List α} {a : α}
    (ha : a ∈ items) (keys : KeySupply) :
    ∃ n, ((f a).run (keys.skip n)).1 ∈ ((items.mapM f).run keys).1 := by
  induction items generalizing keys with
  | nil => cases ha
  | cons first rest ih =>
      obtain ⟨m, hm⟩ := h first keys
      rw [run_mapM_cons]
      rcases List.mem_cons.1 ha with rfl | hrest
      · exact ⟨0, List.mem_cons_self⟩
      · obtain ⟨n, hn⟩ := ih hrest (keys.skip m)
        rw [KeySupply.skip_skip, ← hm] at hn
        exact ⟨m + n, List.mem_cons_of_mem _ hn⟩

theorem drawnBy_of_skip {d : Drawing α} {keys : KeySupply} {n : Nat}
    (h : (d.run keys).2 = keys.skip n) : keys.drawnBy d = keys.next n := by
  rw [KeySupply.drawnBy, h, KeySupply.skip, Nat.add_sub_cancel_left]

theorem drawnBy_pure (keys : KeySupply) (a : α) : keys.drawnBy (pure a : Drawing α) = [] :=
  drawnBy_of_skip (n := 0) rfl

theorem drawnBy_draw (keys : KeySupply) : keys.drawnBy KeySupply.draw = [(KeySupply.draw keys).1] :=
  drawnBy_of_skip (n := 1) rfl

/-- What follows draws from what is left. -/
theorem drawnBy_bind {d : Drawing α} (h : Advances d) {f : α → Drawing β}
    (hf : ∀ a, Advances (f a)) (keys : KeySupply) :
    keys.drawnBy (d >>= f) = keys.drawnBy d ++ (d.run keys).2.drawnBy (f (d.run keys).1) := by
  obtain ⟨m, hm⟩ := h keys
  obtain ⟨n, hn⟩ := hf (d.run keys).1 (d.run keys).2
  have hboth : ((d >>= f).run keys).2 = keys.skip (m + n) := by
    rw [run_bind, hn, hm, KeySupply.skip_skip]
  rw [drawnBy_of_skip hboth, drawnBy_of_skip hm, drawnBy_of_skip hn, hm, KeySupply.next_add]

/-! ## Drawing nothing -/

/-- Whether a computation draws nothing. -/
def IsIdle (d : Drawing α) : Prop :=
  ∃ a, d = pure a

theorem isIdle_pure (a : α) : IsIdle (pure a) :=
  ⟨a, rfl⟩

theorem IsIdle.bind {d : Drawing α} (h : IsIdle d) {f : α → Drawing β} (hf : ∀ a, IsIdle (f a)) :
    IsIdle (d >>= f) := by
  obtain ⟨a, rfl⟩ := h
  rw [pure_bind]
  exact hf a

theorem IsIdle.mapM {f : α → Drawing β} {items : List α} (h : ∀ a ∈ items, IsIdle (f a)) :
    IsIdle (items.mapM f) := by
  induction items with
  | nil => exact isIdle_pure []
  | cons a rest ih =>
      have hrest := ih fun other hother => h other (List.mem_cons_of_mem a hother)
      rw [List.mapM_cons]
      exact (h a List.mem_cons_self).bind fun b => hrest.bind fun bs => isIdle_pure (b :: bs)

/-- What does not depend on the keys is the same wherever an item of a list is visited. -/
theorem map_run_mapM {γ : Type} {f : α → Drawing β} {g : β → γ} {k : α → γ} {items : List α}
    (h : ∀ a ∈ items, ∀ keys, g ((f a).run keys).1 = k a) (keys : KeySupply) :
    ((items.mapM f).run keys).1.map g = items.map k := by
  induction items generalizing keys with
  | nil => rfl
  | cons a rest ih =>
      have hrest := ih fun other hother => h other (List.mem_cons_of_mem a hother)
      rw [run_mapM_cons, List.map_cons, List.map_cons, h a List.mem_cons_self, hrest]

/-- If the values for the items of a list come back as this list, each item comes back. -/
theorem exists_run_eq_of_map_run_mapM {f : α → Drawing β} {g : β → α} {items : List α}
    {keys : KeySupply} (h : ((items.mapM f).run keys).1.map g = items) {a : α} (ha : a ∈ items) :
    ∃ keys', g ((f a).run keys').1 = a := by
  induction items generalizing keys with
  | nil => cases ha
  | cons first rest ih =>
      rw [run_mapM_cons, List.map_cons, List.cons.injEq] at h
      rcases List.mem_cons.1 ha with rfl | hrest
      · exact ⟨keys, h.1⟩
      · exact ih h.2 hrest

theorem IsIdle.run_snd {d : Drawing α} (h : IsIdle d) (keys : KeySupply) :
    (d.run keys).2 = keys := by
  obtain ⟨a, rfl⟩ := h
  rfl

theorem IsIdle.run_fst {d : Drawing α} (h : IsIdle d) (keys keys' : KeySupply) :
    (d.run keys).1 = (d.run keys').1 := by
  obtain ⟨a, rfl⟩ := h
  rfl

end Drawing

end Widgetry
