import Widgetry.Proofs.Rule.Part
import Widgetry.Proofs.Table

/-!
# Arrays and objects

The items of an array are validated one by one, and so are the keys of an object, each with the keys
of the supply that are left. If an object lists no name twice, the fields that come out have under
each listed key what validating that key alone comes to: the values of keys before it make no
difference, and those after it leave its value where it is.
-/

namespace Widgetry

theorem Outcome.isValid_iff (o : Outcome) : o.isValid = true ↔ o.problem = none :=
  Option.isNone_iff_eq_none

theorem Outcome.firstProblem?_eq_none_iff (index : Nat) (outcomes : List Outcome) :
    firstProblem? index outcomes = none ↔ ∀ o ∈ outcomes, o.problem = none := by
  induction outcomes generalizing index with
  | nil => simp [firstProblem?]
  | cons o rest ih =>
      rw [firstProblem?]
      cases h : o.problem with
      | none => simp [h, ih]
      | some problem => simp [h]

namespace Rule

/-- Validates the value of one key of an object, or fills it in: the value that the key gets, and
what is wrong with the one that it had. -/
def validateKey (properties : Fields) (key : KeyOf Rule) :
    Option Json → Drawing (Option Json × Option Problem)
  | some v => do
    let o ← key.rule.validate properties v
    return (some o.parsed, o.problem)
  | none => do
    return (← key.default.produce, none)

variable {properties : Fields}

/-! ## One key after the other -/

theorem run_validateKeys_cons (key : KeyOf Rule) (rest : List (KeyOf Rule)) (fields : Fields)
    (problem : Option Problem) (keys : KeySupply) :
    (validateKeys properties (key :: rest) fields problem).run keys =
      let first := (validateKey properties key (fields.get? key.name)).run keys
      (validateKeys properties rest (first.1.1.elim fields (fields.insert key.name))
        (problem.or (first.1.2.map (.key key.name)))).run first.2 := by
  obtain ⟨name, rule, default⟩ := key
  rw [validateKeys, validateKey.eq_def]
  cases fields.get? name with
  | some v => rfl
  | none => cases problem <;> rfl

/-- Putting a value under one name leaves the values under the other names. -/
theorem get?_elim_insert_of_ne {fields : Fields} {name name' : String} (h : name ≠ name')
    (found : Option Json) :
    Table.get? (found.elim fields (fields.insert name')) name = fields.get? name := by
  cases found with
  | none => rfl
  | some v => exact Table.get?_insert_of_ne fields h v

theorem advances_validateKey {key : KeyOf Rule}
    (h : ∀ v, Drawing.Advances (key.rule.validate properties v)) (found : Option Json) :
    Drawing.Advances (validateKey properties key found) := by
  cases found with
  | some v => exact (h v).bind fun o => Drawing.advances_pure _
  | none =>
      have hproduce : Drawing.Advances key.default.produce := by
        cases key.default with
        | absent => exact Drawing.advances_pure _
        | value v => exact Drawing.advances_pure _
        | generated => exact Drawing.advances_draw.bind fun _ => Drawing.advances_pure _
      exact hproduce.bind fun filled => Drawing.advances_pure _

theorem advances_validateKeys {listed : List (KeyOf Rule)}
    (h : ∀ key ∈ listed, ∀ v, Drawing.Advances (key.rule.validate properties v)) (fields : Fields)
    (problem : Option Problem) :
    Drawing.Advances (validateKeys properties listed fields problem) := by
  induction listed generalizing fields problem with
  | nil => exact Drawing.advances_pure _
  | cons key rest ih =>
      have hrest := ih fun other hother => h other (List.mem_cons_of_mem key hother)
      intro keys
      obtain ⟨m, hm⟩ := advances_validateKey (h key List.mem_cons_self) (fields.get? key.name) keys
      rw [run_validateKeys_cons]
      dsimp only
      rw [hm]
      obtain ⟨n, hn⟩ := hrest _ _ (keys.skip m)
      exact ⟨m + n, by rw [hn, KeySupply.skip_skip]⟩

/-- Validating takes the next keys of the supply, if it draws any. -/
theorem advances_validate (properties : Fields) (rule : Rule) (v : Json) :
    Drawing.Advances (rule.validate properties v) := by
  induction rule using byParts generalizing v with
  | text | boolean | number _ _ _ | regex | safeUrl _ | tabName =>
      rw [validate]
      exact Drawing.advances_pure _
  | anyArray =>
      rw [validate]
      cases itemsOf? v <;> exact Drawing.advances_pure _
  | array item ih =>
      rw [validate]
      cases itemsOf? v with
      | none => exact Drawing.advances_pure _
      | some items => exact (Drawing.Advances.mapM ih items).bind fun _ => Drawing.advances_pure _
  | object listed ih =>
      rw [validate]
      cases fieldsOf? v with
      | none => exact Drawing.advances_pure _
      | some fields =>
          exact (advances_validateKeys ih fields none).bind fun _ => Drawing.advances_pure _

/-- The problem that was found before is kept. -/
theorem eq_none_of_run_validateKeys {listed : List (KeyOf Rule)} {fields : Fields}
    {problem : Option Problem} {keys : KeySupply}
    (h : ((validateKeys properties listed fields problem).run keys).1.2 = none) :
    problem = none := by
  induction listed generalizing fields problem keys with
  | nil => exact h
  | cons key rest ih =>
      rw [run_validateKeys_cons] at h
      exact (Option.or_eq_none_iff.1 (ih h)).1

/-- What a key has is left alone where the key is not listed. -/
theorem holds_run_validateKeys {listed : List (KeyOf Rule)} {name : String}
    (hname : name ∉ listed.map KeyOf.name) {fields : Fields} {found : Option Json}
    (h : fields.Holds name found) (problem : Option Problem) (keys : KeySupply) :
    Table.Holds ((validateKeys properties listed fields problem).run keys).1.1 name found := by
  induction listed generalizing fields problem keys with
  | nil => exact h
  | cons key rest ih =>
      rw [List.map_cons, List.mem_cons, not_or] at hname
      rw [run_validateKeys_cons]
      refine ih hname.2 ?_ _ _
      cases ((validateKey properties key (fields.get? key.name)).run keys).1.1 with
      | none => exact h
      | some v => exact h.insert hname.1 v

/-- A key has what validating it alone comes to as soon as this has been put in place. -/
theorem holds_run_validateKey (key : KeyOf Rule) (fields : Fields) (keys : KeySupply) :
    let found := ((validateKey properties key (fields.get? key.name)).run keys).1.1
    Table.Holds (found.elim fields (fields.insert key.name)) key.name found := by
  intro found
  cases hfound : found with
  | some v => exact Table.insert_insert_self fields key.name v v
  | none =>
      -- a value stays one, so there was none
      show fields.get? key.name = none
      cases hv : fields.get? key.name with
      | none => rfl
      | some v =>
          simp only [found, hv] at hfound
          cases hfound

/-- A listed key gets what validating this key alone comes to, and is valid if all of them are. -/
theorem exists_run_validateKey (properties : Fields) {listed : List (KeyOf Rule)}
    (hnames : (listed.map KeyOf.name).Nodup) {key : KeyOf Rule} (hkey : key ∈ listed)
    (fields : Fields) (problem : Option Problem) (keys : KeySupply) :
    ∃ n, let result := ((validateKeys properties listed fields problem).run keys).1
      let found := ((validateKey properties key (fields.get? key.name)).run (keys.skip n)).1
      result.1.Holds key.name found.1 ∧ (result.2 = none → found.2 = none) := by
  induction listed generalizing fields problem keys with
  | nil => cases hkey
  | cons first rest ih =>
      obtain ⟨hfirst, hrest⟩ := List.nodup_cons.1 hnames
      rw [run_validateKeys_cons]
      rcases List.mem_cons.1 hkey with rfl | hmem
      · refine ⟨0, holds_run_validateKeys hfirst (holds_run_validateKey key fields keys) _ _, ?_⟩
        intro hnone
        have hfound := (Option.or_eq_none_iff.1 (eq_none_of_run_validateKeys hnone)).2
        exact Option.map_eq_none_iff.1 hfound
      · have hne : key.name ≠ first.name := by
          intro heq
          exact hfirst (heq ▸ List.mem_map_of_mem hmem)
        obtain ⟨m, hm⟩ := advances_validateKey (advances_validate properties first.rule)
          (fields.get? first.name) keys
        dsimp only
        rw [hm]
        generalize ((validateKey properties first (fields.get? first.name)).run keys).1 = found
        have hget : Table.get? (found.1.elim fields (fields.insert first.name)) key.name =
            fields.get? key.name := get?_elim_insert_of_ne hne found.1
        obtain ⟨n, hn⟩ := ih hrest hmem (found.1.elim fields (fields.insert first.name))
          (problem.or (found.2.map (.key first.name))) (keys.skip m)
        rw [hget, KeySupply.skip_skip] at hn
        exact ⟨m + n, hn⟩

/-- Where every listed key has what validating it gives, nothing changes, and no problem is found if
there is none with any of them. -/
theorem run_validateKeys_of_holds {listed : List (KeyOf Rule)} {fields : Fields}
    (h : ∀ key ∈ listed, ∃ found, fields.Holds key.name found ∧
      ∀ keys, ((validateKey properties key found).run keys).1.1 = found)
    (problem : Option Problem) (keys : KeySupply) :
    let result := ((validateKeys properties listed fields problem).run keys).1
    result.1 = fields ∧
      ((∀ key ∈ listed, ∀ keys,
        ((validateKey properties key (fields.get? key.name)).run keys).1.2 = none) →
          result.2 = problem) := by
  induction listed generalizing problem keys with
  | nil => exact ⟨rfl, fun _ => rfl⟩
  | cons key rest ih =>
      have hrest := ih fun other hother => h other (List.mem_cons_of_mem key hother)
      obtain ⟨found, hholds, hfound⟩ := h key List.mem_cons_self
      have hfields : found.elim fields (fields.insert key.name) = fields := by
        cases found with
        | none => rfl
        | some v => exact hholds
      rw [run_validateKeys_cons, hholds.get?_eq]
      dsimp only
      rw [hfound keys, hfields]
      refine ⟨(hrest _ _).1, ?_⟩
      intro hvalid
      have hnone := hvalid key List.mem_cons_self keys
      rw [hholds.get?_eq] at hnone
      rw [(hrest _ _).2 fun other hother => hvalid other (List.mem_cons_of_mem key hother), hnone]
      exact Option.or_none

end Rule

end Widgetry
