import Mathlib
import Widgetry.Proofs.Rule.Compound

/-!
# Arrays and objects from their parts

An array is validated item by item, and an object key by key. Each part is given to its own rule,
together with the keys of the supply that the parts before it have left. So the outcome for the
whole is put together from those for the parts: it is valid if all of them are, its value is made of
their values, and it tells the first of their problems, with the place of the part. JSON text of an
array or of an object is validated as what it writes.
-/

namespace Widgetry

/-- How a value is given: as it is, or as JSON text. -/
inductive Json.IsGivenBy (v : Json) : Json → Prop where
  | itself : v.IsGivenBy v
  | text {s : String} (h : Json.read? s = some v) : v.IsGivenBy (.str s)

/-! ## One part after the other -/

namespace Drawing

variable {α β : Type}

/-- The supply that some items leave when they are visited one after the other. -/
def leftBy (f : α → Drawing β) (items : List α) (keys : KeySupply) : KeySupply :=
  items.foldl (fun keys a => ((f a).run keys).2) keys

/-- The item at a place is visited with the keys that the items before it have left. -/
theorem getElem?_run_mapM (f : α → Drawing β) (items : List α) (keys : KeySupply) (i : Nat) :
    ((items.mapM f).run keys).1[i]? =
      items[i]?.map fun a => ((f a).run (leftBy f (items.take i) keys)).1 := by
  induction items generalizing keys i with
  | nil => rfl
  | cons a rest ih =>
      rw [run_mapM_cons]
      cases i with
      | zero => rfl
      | succ i =>
          rw [List.getElem?_cons_succ, List.getElem?_cons_succ, List.take_succ_cons]
          exact ih _ i

theorem length_run_mapM (f : α → Drawing β) (items : List α) (keys : KeySupply) :
    ((items.mapM f).run keys).1.length = items.length := by
  induction items generalizing keys with
  | nil => rfl
  | cons a rest ih =>
      rw [run_mapM_cons]
      exact congrArg (· + 1) (ih _)

end Drawing

/-- The first problem of a list of outcomes is that of the first outcome that has one. -/
theorem Outcome.exists_of_firstProblem?_eq_some {index : Nat} {outcomes : List Outcome}
    {problem : Problem} (h : firstProblem? index outcomes = some problem) :
    ∃ i o reason, outcomes[i]? = some o ∧ o.problem = some reason ∧
      problem = .item (index + i) reason ∧
      ∀ j < i, ∀ o', outcomes[j]? = some o' → o'.problem = none := by
  induction outcomes generalizing index with
  | nil => cases h
  | cons o rest ih =>
      rw [firstProblem?] at h
      cases hproblem : o.problem with
      | some reason =>
          rw [hproblem] at h
          exact ⟨0, o, reason, rfl, hproblem, (Option.some.inj h).symm,
            fun j hj => absurd hj (Nat.not_lt_zero j)⟩
      | none =>
          rw [hproblem] at h
          obtain ⟨i, o', reason, ho', hreason, hplace, hbefore⟩ := ih h
          refine ⟨i + 1, o', reason, ho', hreason, ?_, ?_⟩
          · rw [hplace, Nat.add_right_comm, Nat.add_assoc]
          · intro j hj o'' ho''
            cases j with
            | zero =>
                obtain rfl := Option.some.inj ho''
                exact hproblem
            | succ j => exact hbefore j (Nat.lt_of_succ_lt_succ hj) o'' ho''

namespace Rule

variable {properties : Fields}

theorem itemsOf?_eq_some_iff (v : Json) (items : List Json) :
    itemsOf? v = some items ↔ (Json.arr items).IsGivenBy v := by
  constructor
  · intro h
    cases v with
    | arr items' =>
        obtain rfl := Option.some.inj h
        exact .itself
    | str s => exact .text ((Json.bind_items?_eq_some_iff (Json.read? s) items).1 h)
    | null | bool _ | num _ | obj _ => cases h
  · rintro (_ | h)
    · rfl
    · exact (Json.bind_items?_eq_some_iff _ items).2 h

theorem fieldsOf?_eq_some_iff (v : Json) (fields : Fields) :
    fieldsOf? v = some fields ↔ (Json.obj fields).IsGivenBy v := by
  constructor
  · intro h
    cases v with
    | obj fields' =>
        obtain rfl := Option.some.inj h
        exact .itself
    | str s => exact .text ((Json.bind_fields?_eq_some_iff (Json.read? s) fields).1 h)
    | null | bool _ | num _ | arr _ => cases h
  · rintro (_ | h)
    · rfl
    · exact (Json.bind_fields?_eq_some_iff _ fields).2 h

/-! ## Arrays -/

/-- The outcome for the item of an array at a place, by the rule for items. The items before it have
drawn their keys. -/
def itemOutcome (properties : Fields) (item : Rule) (items : List Json) (keys : KeySupply) (i : Nat)
    (x : Json) : Outcome :=
  ((item.validate properties x).run
    (Drawing.leftBy (item.validate properties) (items.take i) keys)).1

/-- Whether an outcome for an array is put together from those for its items. -/
structure ComposesItems (properties : Fields) (item : Rule) (items : List Json) (keys : KeySupply)
    (o : Outcome) : Prop where
  isValid_iff : o.isValid = true ↔
    ∀ i x, items[i]? = some x → (itemOutcome properties item items keys i x).isValid = true
  parsed : ∃ out, o.parsed = .arr out ∧ out.length = items.length ∧
    ∀ i x, items[i]? = some x → out[i]? = some (itemOutcome properties item items keys i x).parsed
  message : o.isValid = false → ∃ i x reason, items[i]? = some x ∧
    (itemOutcome properties item items keys i x).message? = some reason ∧
    o.message? = some s!"Invalid entry at index: {i}. {reason}" ∧
    ∀ j < i, ∀ y, items[j]? = some y →
      (itemOutcome properties item items keys j y).isValid = true

/-- An array is valid if its items are, and tells the first of their problems. -/
theorem composesItems (properties : Fields) (item : Rule) (items : List Json) (keys : KeySupply) :
    ComposesItems properties item items keys
      (arrayOutcome ((items.mapM (item.validate properties)).run keys).1) := by
  have hget (i : Nat) : ((items.mapM (item.validate properties)).run keys).1[i]? =
      items[i]?.map (itemOutcome properties item items keys i) :=
    Drawing.getElem?_run_mapM _ items keys i
  have hlength := Drawing.length_run_mapM (item.validate properties) items keys
  generalize ((items.mapM (item.validate properties)).run keys).1 = outcomes at hget hlength
  have hitem {i : Nat} {x : Json} (hx : items[i]? = some x) :
      outcomes[i]? = some (itemOutcome properties item items keys i x) := by
    rw [hget, hx, Option.map_some]
  have hplace {i : Nat} {o : Outcome} (ho : outcomes[i]? = some o) :
      ∃ x, items[i]? = some x ∧ itemOutcome properties item items keys i x = o :=
    Option.map_eq_some_iff.1 ((hget i).symm.trans ho)
  refine ⟨?_, ⟨_, rfl, by rw [List.length_map, hlength], ?_⟩, ?_⟩
  · rw [Outcome.isValid_iff]
    refine (Outcome.firstProblem?_eq_none_iff 0 outcomes).trans ⟨?_, ?_⟩
    · intro hall i x hx
      exact (Outcome.isValid_iff _).2 (hall _ (List.mem_of_getElem? (hitem hx)))
    · intro hall o ho
      obtain ⟨i, hi⟩ := List.getElem?_of_mem ho
      obtain ⟨x, hx, rfl⟩ := hplace hi
      exact (Outcome.isValid_iff _).1 (hall i x hx)
  · intro i x hx
    rw [List.getElem?_map, hitem hx, Option.map_some]
  · intro hinvalid
    obtain ⟨problem, hproblem⟩ := Option.isSome_iff_exists.1 (Option.isNone_eq_false_iff.1 hinvalid)
    obtain ⟨i, o, reason, ho, hreason, rfl, hbefore⟩ :=
      Outcome.exists_of_firstProblem?_eq_some hproblem
    obtain ⟨x, hx, rfl⟩ := hplace ho
    refine ⟨i, x, reason.message, hx, ?_, ?_, ?_⟩
    · rw [Outcome.message?, hreason, Option.map_some]
    · rw [Outcome.message?, hproblem, Nat.zero_add]
      rfl
    · intro j hj y hy
      exact (Outcome.isValid_iff _).2 (hbefore j hj _ (hitem hy))

/-! ## Objects -/

/-- The keys of the supply that are left for the listed key of an object at a place. The listed keys
before it have been validated, or filled in, with the values that the object has for them. -/
def keysFor (properties : Fields) (listed : List (KeyOf Rule)) (fields : Fields) (keys : KeySupply)
    (i : Nat) : KeySupply :=
  Drawing.leftBy (fun key => validateKey properties key (fields.get? key.name)) (listed.take i) keys

/-- The outcome for the value of a listed key at a place, by the rule for the key. -/
def keyOutcome (properties : Fields) (listed : List (KeyOf Rule)) (fields : Fields)
    (keys : KeySupply) (i : Nat) (key : KeyOf Rule) (v : Json) : Outcome :=
  ((key.rule.validate properties v).run (keysFor properties listed fields keys i)).1

/-- Whether an outcome for an object is put together from those for the values of its listed keys.
A listed key that is absent gets its default, if it has one. -/
structure ComposesKeys (properties : Fields) (listed : List (KeyOf Rule)) (fields : Fields)
    (keys : KeySupply) (o : Outcome) : Prop where
  isValid_iff : o.isValid = true ↔
    ∀ (i : Nat) (key : KeyOf Rule) (v : Json), listed[i]? = some key →
      fields.get? key.name = some v →
        (keyOutcome properties listed fields keys i key v).isValid = true
  parsed : ∃ out : Fields, o.parsed = .obj out ∧
    (∀ (i : Nat) (key : KeyOf Rule) (v : Json), listed[i]? = some key →
      fields.get? key.name = some v →
        out.get? key.name = some (keyOutcome properties listed fields keys i key v).parsed) ∧
    (∀ (i : Nat) (key : KeyOf Rule), listed[i]? = some key → fields.get? key.name = none →
      out.get? key.name =
        (key.default.produce.run (keysFor properties listed fields keys i)).1) ∧
    ∀ name, name ∉ listed.map KeyOf.name → out.get? name = fields.get? name
  message : o.isValid = false →
    ∃ (i : Nat) (key : KeyOf Rule) (v : Json) (reason : String), listed[i]? = some key ∧
      fields.get? key.name = some v ∧
      (keyOutcome properties listed fields keys i key v).message? = some reason ∧
      o.message? = some s!"Value of key: {key.name} is invalid. {reason}" ∧
      ∀ j < i, ∀ (key' : KeyOf Rule) (v' : Json), listed[j]? = some key' →
        fields.get? key'.name = some v' →
          (keyOutcome properties listed fields keys j key' v').isValid = true

/-- What the listed key at a place gets, and what is wrong with the value that `fields` has for
it. -/
def foundAt (properties : Fields) (listed : List (KeyOf Rule)) (fields : Fields) (keys : KeySupply)
    (i : Nat) (key : KeyOf Rule) : Option Json × Option Problem :=
  ((validateKey properties key (fields.get? key.name)).run
    (keysFor properties listed fields keys i)).1

theorem foundAt_of_get?_eq_some {listed : List (KeyOf Rule)} {fields : Fields} {key : KeyOf Rule}
    {v : Json} (h : fields.get? key.name = some v) (keys : KeySupply) (i : Nat) :
    foundAt properties listed fields keys i key =
      (some (keyOutcome properties listed fields keys i key v).parsed,
        (keyOutcome properties listed fields keys i key v).problem) := by
  rw [foundAt, h]
  rfl

theorem foundAt_of_get?_eq_none {listed : List (KeyOf Rule)} {fields : Fields} {key : KeyOf Rule}
    (h : fields.get? key.name = none) (keys : KeySupply) (i : Nat) :
    foundAt properties listed fields keys i key =
      ((key.default.produce.run (keysFor properties listed fields keys i)).1, none) := by
  rw [foundAt, h]
  rfl

theorem get?_run_validateKeys_of_not_mem {listed : List (KeyOf Rule)} {name : String}
    (h : name ∉ listed.map KeyOf.name) (fields : Fields) (problem : Option Problem)
    (keys : KeySupply) :
    Table.get? ((validateKeys properties listed fields problem).run keys).1.1 name =
      fields.get? name := by
  induction listed generalizing fields problem keys with
  | nil => rfl
  | cons key rest ih =>
      rw [List.map_cons, List.mem_cons, not_or] at h
      rw [run_validateKeys_cons]
      exact (ih h.2 _ _ _).trans (get?_elim_insert_of_ne h.1 _)

/-- The values under the names to come are the given ones still when a key has been dealt with. -/
theorem get?_elim_insert_eq_given {first : KeyOf Rule} {rest : List (KeyOf Rule)}
    (hfirst : first.name ∉ rest.map KeyOf.name) {fields given : Fields}
    (hsame : ∀ key ∈ first :: rest, fields.get? key.name = given.get? key.name)
    (found : Option Json) {key : KeyOf Rule} (hkey : key ∈ rest) :
    Table.get? (found.elim fields (fields.insert first.name)) key.name = given.get? key.name := by
  have hne : key.name ≠ first.name := by
    intro heq
    exact hfirst (heq ▸ List.mem_map_of_mem hkey)
  rw [get?_elim_insert_of_ne hne]
  exact hsame key (List.mem_cons_of_mem first hkey)

section Names

-- The fields change on the way, but not under the names that are still to come: there they are the
-- given ones, since no name is listed twice.

variable {listed : List (KeyOf Rule)} (hnames : (listed.map KeyOf.name).Nodup)
  {fields given : Fields} (hsame : ∀ key ∈ listed, fields.get? key.name = given.get? key.name)
  {problem : Option Problem} {keys : KeySupply}

include hnames hsame

/-- A listed key gets what validating its given value comes to, at the keys that are left. -/
theorem get?_run_validateKeys {i : Nat} {key : KeyOf Rule} (hkey : listed[i]? = some key) :
    Table.get? ((validateKeys properties listed fields problem).run keys).1.1 key.name =
      (foundAt properties listed given keys i key).1 := by
  induction listed generalizing fields problem keys i with
  | nil => cases hkey
  | cons first rest ih =>
      obtain ⟨hfirst, hrest⟩ := List.nodup_cons.1 hnames
      rw [run_validateKeys_cons]
      cases i with
      | zero =>
          obtain rfl := Option.some.inj hkey
          rw [foundAt, ← hsame _ List.mem_cons_self]
          exact (get?_run_validateKeys_of_not_mem hfirst _ _ _).trans
            (holds_run_validateKey _ fields keys).get?_eq
      | succ i =>
          rw [hsame first List.mem_cons_self]
          exact ih hrest (fun _ => get?_elim_insert_eq_given hfirst hsame _) hkey

/-- If no problem is found, there is none with any of the given values. -/
theorem foundAt_snd_eq_none
    (h : ((validateKeys properties listed fields problem).run keys).1.2 = none) {i : Nat}
    {key : KeyOf Rule} (hkey : listed[i]? = some key) :
    (foundAt properties listed given keys i key).2 = none := by
  induction listed generalizing fields problem keys i with
  | nil => cases hkey
  | cons first rest ih =>
      obtain ⟨hfirst, hrest⟩ := List.nodup_cons.1 hnames
      rw [run_validateKeys_cons, hsame first List.mem_cons_self] at h
      cases i with
      | zero =>
          obtain rfl := Option.some.inj hkey
          exact Option.map_eq_none_iff.1 (Option.or_eq_none_iff.1 (eq_none_of_run_validateKeys h)).2
      | succ i => exact ih hrest (fun _ => get?_elim_insert_eq_given hfirst hsame _) h hkey

/-- The problem that is found is the one from before, or else that of the first key that has one. -/
theorem exists_of_run_validateKeys_eq_some {told : Problem}
    (h : ((validateKeys properties listed fields problem).run keys).1.2 = some told) :
    problem = some told ∨ problem = none ∧ ∃ (i : Nat) (key : KeyOf Rule) (reason : Problem),
      listed[i]? = some key ∧ (foundAt properties listed given keys i key).2 = some reason ∧
        told = .key key.name reason ∧
        ∀ j < i, ∀ (key' : KeyOf Rule), listed[j]? = some key' →
          (foundAt properties listed given keys j key').2 = none := by
  induction listed generalizing fields problem keys with
  | nil => exact Or.inl h
  | cons first rest ih =>
      obtain ⟨hfirst, hrest⟩ := List.nodup_cons.1 hnames
      rw [run_validateKeys_cons, hsame first List.mem_cons_self] at h
      rcases ih hrest (fun _ => get?_elim_insert_eq_given hfirst hsame _) h with
        hor | ⟨hor, i, key, reason, hkey, hreason, htold, hbefore⟩
      · rcases Option.or_eq_some_iff.1 hor with hproblem | ⟨hnone, hmap⟩
        · exact Or.inl hproblem
        · obtain ⟨reason, hreason, rfl⟩ := Option.map_eq_some_iff.1 hmap
          exact Or.inr ⟨hnone, 0, first, reason, rfl, hreason, rfl,
            fun j hj => absurd hj (Nat.not_lt_zero j)⟩
      · obtain ⟨hnone, hmap⟩ := Option.or_eq_none_iff.1 hor
        refine Or.inr ⟨hnone, i + 1, key, reason, hkey, hreason, htold, ?_⟩
        intro j hj key' hkey'
        cases j with
        | zero =>
            obtain rfl := Option.some.inj hkey'
            exact Option.map_eq_none_iff.1 hmap
        | succ j => exact hbefore j (Nat.lt_of_succ_lt_succ hj) key' hkey'

end Names

/-- An object that lists no name twice is valid if the values of its listed keys are, and tells the
first of their problems. -/
theorem composesKeys (properties : Fields) {listed : List (KeyOf Rule)}
    (hnames : (listed.map KeyOf.name).Nodup) (fields : Fields) (keys : KeySupply) :
    let result := ((validateKeys properties listed fields none).run keys).1
    ComposesKeys properties listed fields keys ⟨.obj result.1, result.2⟩ := by
  intro result
  have hsame : ∀ key ∈ listed, fields.get? key.name = fields.get? key.name := fun _ _ => rfl
  refine ⟨?_, ⟨result.1, rfl, ?_, ?_, ?_⟩, ?_⟩
  · rw [Outcome.isValid_iff]
    constructor
    · intro hnone i key v hkey hv
      have hfound := foundAt_snd_eq_none hnames hsame hnone hkey
      rw [foundAt_of_get?_eq_some hv] at hfound
      exact (Outcome.isValid_iff _).2 hfound
    · intro hall
      cases hproblem : result.2 with
      | none => rfl
      | some told =>
          obtain ⟨i, key, reason, hkey, hreason, -, -⟩ :=
            ((exists_of_run_validateKeys_eq_some hnames hsame hproblem).resolve_left nofun).2
          cases hv : fields.get? key.name with
          | some v =>
              rw [foundAt_of_get?_eq_some hv] at hreason
              have hnone := (Outcome.isValid_iff _).1 (hall i key v hkey hv)
              exact absurd (hnone.symm.trans hreason) nofun
          | none =>
              rw [foundAt_of_get?_eq_none hv] at hreason
              cases hreason
  · intro i key v hkey hv
    rw [get?_run_validateKeys hnames hsame hkey, foundAt_of_get?_eq_some hv]
  · intro i key hkey hv
    rw [get?_run_validateKeys hnames hsame hkey, foundAt_of_get?_eq_none hv]
  · intro name hname
    exact get?_run_validateKeys_of_not_mem hname fields none keys
  · intro hinvalid
    obtain ⟨told, htold⟩ := Option.isSome_iff_exists.1 (Option.isNone_eq_false_iff.1 hinvalid)
    obtain ⟨i, key, reason, hkey, hreason, rfl, hbefore⟩ :=
      ((exists_of_run_validateKeys_eq_some hnames hsame htold).resolve_left nofun).2
    cases hv : fields.get? key.name with
    | some v =>
        rw [foundAt_of_get?_eq_some hv] at hreason
        refine ⟨i, key, v, reason.message, hkey, hv, ?_, ?_, ?_⟩
        · exact congrArg (Option.map Problem.message) hreason
        · exact congrArg (Option.map Problem.message) htold
        · intro j hj key' v' hkey' hv'
          have hfound := hbefore j hj key' hkey'
          rw [foundAt_of_get?_eq_some hv'] at hfound
          exact (Outcome.isValid_iff _).2 hfound
    | none =>
        rw [foundAt_of_get?_eq_none hv] at hreason
        cases hreason

/-! ## Both ways of giving a value -/

section Given

variable (properties : Fields) (v : Json) (keys : KeySupply)

theorem exists_items_of_isValid {item : Rule}
    (h : (((Rule.array (some item)).validate properties v).run keys).1.isValid = true) :
    ∃ items, (Json.arr items).IsGivenBy v := by
  cases hitems : itemsOf? v with
  | some items => exact ⟨items, (itemsOf?_eq_some_iff v items).1 hitems⟩
  | none =>
      rw [validate, hitems] at h
      cases h

theorem exists_fields_of_isValid {listed : List (KeyOf Rule)}
    (h : (((Rule.object listed).validate properties v).run keys).1.isValid = true) :
    ∃ fields, (Json.obj fields).IsGivenBy v := by
  cases hfields : fieldsOf? v with
  | some fields => exact ⟨fields, (fieldsOf?_eq_some_iff v fields).1 hfields⟩
  | none =>
      rw [validate, hfields] at h
      cases h

variable {v}

theorem validate_array_of_isGivenBy {items : List Json} (h : (Json.arr items).IsGivenBy v)
    (item : Option Rule) :
    (Rule.array item).validate properties v =
      (Rule.array item).validate properties (.arr items) := by
  have hitems := (itemsOf?_eq_some_iff v items).2 h
  cases item with
  | none => rw [validate, validate, hitems, itemsOf?]
  | some item => rw [validate, validate, hitems, itemsOf?]

theorem validate_object_of_isGivenBy {fields : Fields} (h : (Json.obj fields).IsGivenBy v)
    (listed : List (KeyOf Rule)) :
    (Rule.object listed).validate properties v =
      (Rule.object listed).validate properties (.obj fields) := by
  rw [validate, validate, (fieldsOf?_eq_some_iff v fields).2 h, fieldsOf?]

end Given

/-- The outcomes for arrays and objects are put together from those for their parts, whatever the
rules for the parts are. A value that is no array, and writes none, is not valid as one; objects are
alike. An array or an object and the text of it have the same outcome. -/
theorem validate_composes (properties : Fields) (v : Json) (keys : KeySupply) :
    (∀ item : Rule, let o := (((Rule.array (some item)).validate properties v).run keys).1
      (o.isValid = true → ∃ items, (Json.arr items).IsGivenBy v) ∧
        ∀ items, (Json.arr items).IsGivenBy v → ComposesItems properties item items keys o) ∧
    (∀ listed : List (KeyOf Rule), (listed.map KeyOf.name).Nodup →
      let o := (((Rule.object listed).validate properties v).run keys).1
      (o.isValid = true → ∃ fields, (Json.obj fields).IsGivenBy v) ∧
        ∀ fields, (Json.obj fields).IsGivenBy v → ComposesKeys properties listed fields keys o) ∧
    (∀ items, (Json.arr items).IsGivenBy v → ∀ item : Option Rule,
      (Rule.array item).validate properties v =
        (Rule.array item).validate properties (.arr items)) ∧
    ∀ fields, (Json.obj fields).IsGivenBy v → ∀ listed : List (KeyOf Rule),
      (Rule.object listed).validate properties v =
        (Rule.object listed).validate properties (.obj fields) := by
  refine ⟨fun item => ⟨exists_items_of_isValid properties v keys, ?_⟩,
    fun listed hnames => ⟨exists_fields_of_isValid properties v keys, ?_⟩,
    fun items h => validate_array_of_isGivenBy properties h,
    fun fields h => validate_object_of_isGivenBy properties h⟩
  · intro items h
    rw [validate_array_of_isGivenBy properties h, validate]
    exact composesItems properties item items keys
  · intro fields h
    rw [validate_object_of_isGivenBy properties h, validate]
    exact composesKeys properties hnames fields keys

/-- The text of a list of objects that get a key where they have none. The second one is not
valid. -/
theorem validate_composes_entries :
    let keys : KeySupply := ⟨fun n => if n = 0 then "4f2a91c07d" else "b80c6e135f", 0⟩
    let listed : List (KeyOf Rule) := [⟨"shown", .boolean, .absent⟩, ⟨"key", .text, .generated⟩]
    let fields : Fields := [("shown", "maybe"), ("width", .int 3)]
    let items : List Json := [.obj [("shown", "true")], .obj fields]
    let v : Json :=
      .str "[\x7b\"shown\": \"true\"\x7d, \x7b\"shown\": \"maybe\", \"width\": 3\x7d]"
    let o := (((Rule.array (some (.object listed))).validate [] v).run keys).1
    let second := itemOutcome [] (.object listed) items keys 1 (.obj fields)
    ((listed.map KeyOf.name).Nodup ∧ (Json.arr items).IsGivenBy v) ∧
      ComposesItems [] (.object listed) items keys o ∧
      ComposesKeys [] listed fields (keys.skip 1) second ∧
      o.parsed = .arr [.obj [("key", "4f2a91c07d"), ("shown", .bool true)],
        .obj [("key", "b80c6e135f"), ("shown", .bool false), ("width", .int 3)]] ∧
      o.message? = some ("Invalid entry at index: 1. Value of key: shown is invalid. " ++
        "This value does not evaluate to type boolean") := by
  intro keys listed fields items v o second
  have hnames : (listed.map KeyOf.name).Nodup := by decide
  have hgiven : (Json.arr items).IsGivenBy v := .text (by cbv)
  have ho : o = (((Rule.array (some (.object listed))).validate [] (.arr items)).run keys).1 := by
    rw [← validate_array_of_isGivenBy [] hgiven]
  refine ⟨⟨hnames, hgiven⟩, ((validate_composes [] v keys).1 (.object listed)).2 items hgiven,
    ((validate_composes [] (.obj fields) (keys.skip 1)).2.1 listed hnames).2 fields .itself, ?_, ?_⟩
  · rw [ho]
    rfl
  · rw [ho]
    rfl

end Rule

end Widgetry
