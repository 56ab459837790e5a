import Widgetry.Proofs.Number.Exact
import Widgetry.Proofs.Rule.Compound
import Widgetry.Proofs.Rule.Single

/-!
# Validating twice

The value that validation comes to is the value that the widget works with, so validating it once
more should not change it. If every default is left as it is by the rule that it belongs to, there
is only one way in which it does: where a rule fills in the keys of an object, what is no object
comes to an object without any keys, and this to one that has them. Everything else that a rule
comes to is in the form that the rule leaves alone. What was valid is valid again if the rules also
accept their defaults, and each rule for addresses has one.
-/

namespace Widgetry

theorem Binary64.less_congr {x x' y y' : Finite64} (hx : x.units = x'.units)
    (hy : y.units = y'.units) : less (.finite x) (.finite y) = less (.finite x') (.finite y') := by
  rw [less, less, compare?, compare?, hx, hy]

namespace Rule

/-- Whether a rule gives a value back as it is, whatever keys are drawn. -/
def Keeps (properties : Fields) (rule : Rule) (v : Json) : Prop :=
  ∀ keys, ((rule.validate properties v).run keys).1.parsed = v

/-- Whether a rule finds no problem with a value, whatever keys are drawn. -/
def Accepts (properties : Fields) (rule : Rule) (v : Json) : Prop :=
  ∀ keys, ((rule.validate properties v).run keys).1.isValid = true

/-! ## Single values -/

theorem validateText_parsed (v : Json) :
    validateText (validateText v).parsed = .valid (validateText v).parsed := by
  obtain ⟨s, hs⟩ := exists_validateText_parsed v
  rw [hs]
  rfl

theorem validateBoolean_parsed (v : Json) :
    validateBoolean (validateBoolean v).parsed = .valid (validateBoolean v).parsed := by
  obtain ⟨b, hb⟩ := exists_validateBoolean_parsed v
  rw [hb]
  rfl

section Number

variable (min max default : Option Finite64)

/-- A number is validated as the value that is written for it. -/
theorem validateNumber_ofFinite {v : Json} {x : Finite64} (h : readNumber v = .number x) :
    validateNumber min max default (.ofFinite x) = validateNumber min max default v := by
  obtain ⟨n, y, hn, hy, hunits, hsame⟩ := Json.exists_ofFinite_eq x
  have hread : readNumber (.ofFinite x) = .number y := by
    rw [hn, readNumber, hy]
  have hmin (least : Finite64) := Binary64.less_congr hunits (rfl : least.units = least.units)
  have hmax (most : Finite64) := Binary64.less_congr (rfl : most.units = most.units) hunits
  simp only [validateNumber, hread, h, hsame, hmin, hmax]

/-- What stands in for a number is left as it is. -/
theorem validateNumber_fallback :
    (validateNumber min max default (default.elim .null Json.ofFinite)).parsed =
      default.elim .null Json.ofFinite := by
  cases default with
  | none => rfl
  | some d =>
      rcases validateNumber_cases min max (some d) (.ofFinite d) with ⟨x, hread, hparsed⟩ | ⟨h, -⟩
      · obtain ⟨n, y, hn, hy, -, hsame⟩ := Json.exists_ofFinite_eq d
        rw [hn, readNumber, hy] at hread
        obtain rfl := NumberReading.number.inj hread
        exact hparsed.trans hsame
      · exact h

theorem validateNumber_parsed (v : Json) :
    (validateNumber min max default (validateNumber min max default v).parsed).parsed =
      (validateNumber min max default v).parsed := by
  rcases validateNumber_cases min max default v with ⟨x, hread, hparsed⟩ | ⟨hparsed, -⟩
  · rw [hparsed, validateNumber_ofFinite _ _ _ hread, hparsed]
  · rw [hparsed, validateNumber_fallback]

theorem isValid_validateNumber_parsed
    (hdefault : ∀ d, default = some d →
      (validateNumber min max default (.ofFinite d)).isValid = true)
    {v : Json} (h : (validateNumber min max default v).isValid = true) :
    (validateNumber min max default (validateNumber min max default v).parsed).isValid = true := by
  rcases validateNumber_cases min max default v with ⟨x, hread, hparsed⟩ | ⟨hparsed, hsome⟩
  · rwa [hparsed, validateNumber_ofFinite _ _ _ hread]
  · obtain ⟨d, rfl⟩ := Option.isSome_iff_exists.1 (hsome ((Outcome.isValid_iff _).1 h))
    rw [hparsed]
    exact hdefault d rfl

end Number

/-! ## Texts -/

theorem validateRegex_str (s : String) : (validateRegex (.str s)).parsed = .str s := by
  unfold validateRegex
  dsimp only
  split <;> rfl

theorem validateRegex_parsed (v : Json) :
    (validateRegex (validateRegex v).parsed).parsed = (validateRegex v).parsed := by
  cases v with
  | str s => rw [validateRegex_str, validateRegex_str]
  | null | bool _ | num _ | arr _ | obj _ => exact validateRegex_str ""

theorem isValid_validateRegex_parsed {v : Json} (h : (validateRegex v).isValid = true) :
    (validateRegex (validateRegex v).parsed).isValid = true := by
  cases v with
  | null => rfl
  | str s => rwa [validateRegex_str]
  | bool _ | num _ | arr _ | obj _ => cases h

section Url

variable (default : Option String)

theorem validateUrl_of_isWebUrl {s : String} (htrim : Text.trimString s = s)
    (h : isWebUrl s = true) : validateUrl default (.str s) = .valid (.str s) := by
  rw [validateUrl, htrim, if_pos h]

theorem validateUrl_parsed
    (hdefault : ∀ d, default = some d → (validateUrl default (.str d)).parsed = .str d)
    (v : Json) :
    (validateUrl default (validateUrl default v).parsed).parsed =
      (validateUrl default v).parsed := by
  rcases validateUrl_cases default v with ⟨s, htrim, hurl, hparsed⟩ | hparsed
  · rw [hparsed, validateUrl_of_isWebUrl default htrim hurl]
    rfl
  · rw [hparsed]
    cases default with
    | none => rfl
    | some d => exact hdefault d rfl

theorem isValid_validateUrl_parsed {d : String}
    (hdefault : (validateUrl (some d) (.str d)).isValid = true) (v : Json) :
    (validateUrl (some d) (validateUrl (some d) v).parsed).isValid = true := by
  rcases validateUrl_cases (some d) v with ⟨s, htrim, hurl, hparsed⟩ | hparsed
  · rw [hparsed, validateUrl_of_isWebUrl _ htrim hurl]
    rfl
  · rw [hparsed]
    exact hdefault

end Url

theorem validateTabName_parsed (properties : Fields) (v : Json) :
    validateTabName properties (validateTabName properties v).parsed =
      .valid (validateTabName properties v).parsed := by
  obtain ⟨name, hname, hparsed⟩ := exists_validateTabName_parsed properties v
  rw [hparsed, validateTabName, if_pos hname]

/-- Whether every rule in a rule accepts its defaults, and each rule for addresses has one. -/
structure AcceptsDefaults (properties : Fields) (keys : KeySupply) (rule : Rule) : Prop where
  each : rule.EachDefault keys (Accepts properties)
  url : .safeUrl none ∉ rule.parts

theorem AcceptsDefaults.of_subset {properties : Fields} {keys : KeySupply} {part rule : Rule}
    (hrule : rule.AcceptsDefaults properties keys) (h : part.parts ⊆ rule.parts) :
    part.AcceptsDefaults properties keys :=
  ⟨hrule.each.of_subset h, fun hmem => hrule.url (h hmem)⟩

/-- Whether what validating a value comes to, at whatever place of the supply, is left as it is by a
second validation, which accepts it if it was valid and the defaults are accepted. -/
structure Settles (properties : Fields) (keys : KeySupply) (rule : Rule) (v : Json) : Prop where
  keeps (n : Nat) :
    Keeps properties rule ((rule.validate properties v).run (keys.skip n)).1.parsed
  accepts (n : Nat) :
    rule.AcceptsDefaults properties keys →
      ((rule.validate properties v).run (keys.skip n)).1.isValid = true →
        Accepts properties rule ((rule.validate properties v).run (keys.skip n)).1.parsed

/-! ## Rules that draw nothing -/

section Pure

variable {properties : Fields} {rule : Rule} {f : Json → Outcome}
  (hf : ∀ v, rule.validate properties v = pure (f v))

include hf

theorem keeps_iff_of_pure (v : Json) : Keeps properties rule v ↔ (f v).parsed = v := by
  simp only [Keeps, hf]
  exact ⟨fun h => h (.counting []), fun h _ => h⟩

theorem accepts_iff_of_pure (v : Json) : Accepts properties rule v ↔ (f v).isValid = true := by
  simp only [Accepts, hf]
  exact ⟨fun h => h (.counting []), fun h _ => h⟩

/-- For a rule that draws nothing, it is enough to compare two outcomes. -/
theorem settles_of_pure {keys : KeySupply} {v : Json}
    (hparsed : (f (f v).parsed).parsed = (f v).parsed)
    (hvalid : rule.AcceptsDefaults properties keys → (f v).isValid = true →
      (f (f v).parsed).isValid = true) : rule.Settles properties keys v := by
  constructor
  · intro n
    simp only [keeps_iff_of_pure hf, hf]
    exact hparsed
  · intro n haccepts
    simp only [accepts_iff_of_pure hf, hf]
    exact hvalid haccepts

/-- It is more than enough if the second outcome is valid with the same value. -/
theorem settles_of_pure_valid {keys : KeySupply} {v : Json}
    (h : f (f v).parsed = .valid (f v).parsed) : rule.Settles properties keys v := by
  refine settles_of_pure hf ?_ ?_
  · rw [h, Outcome.valid]
  · intro _ _
    rw [h]
    rfl

end Pure

section Leaves

variable (properties : Fields) (keys : KeySupply)

theorem settles_number (min max default : Option Finite64) (v : Json) :
    Settles properties keys (.number min max default) v := by
  have hf (v : Json) : validate properties (.number min max default) v =
      pure (validateNumber min max default v) := by
    rw [validate]
  refine settles_of_pure hf (validateNumber_parsed min max default v) ?_
  intro haccepts
  refine isValid_validateNumber_parsed min max default ?_
  rintro d rfl
  exact (accepts_iff_of_pure hf _).1 (haccepts.each.number min max d (mem_parts_self _))

theorem settles_safeUrl {default : Option String}
    (hkeeps : EachDefault keys (Keeps properties) (.safeUrl default)) (v : Json) :
    Settles properties keys (.safeUrl default) v := by
  have hf (v : Json) : validate properties (.safeUrl default) v =
      pure (validateUrl default v) := by
    rw [validate]
  refine settles_of_pure hf (validateUrl_parsed default ?_ v) ?_
  · rintro d rfl
    exact (keeps_iff_of_pure hf _).1 (hkeeps.safeUrl d (mem_parts_self _))
  · intro haccepts _
    cases default with
    | none => exact absurd (mem_parts_self _) haccepts.url
    | some d =>
        refine isValid_validateUrl_parsed ?_ v
        exact (accepts_iff_of_pure hf _).1 (haccepts.each.safeUrl d (mem_parts_self _))

theorem settles_anyArray (v : Json) : Settles properties keys (.array none) v := by
  have hf (v : Json) : validate properties (.array none) v =
      pure ((itemsOf? v).elim (.invalid (.arr []) .notArray) fun items => .valid (.arr items)) := by
    rw [validate]
    cases itemsOf? v <;> rfl
  refine settles_of_pure hf ?_ ?_
  · cases itemsOf? v <;> rfl
  · intro _ h
    cases hitems : itemsOf? v with
    | none =>
        rw [hitems] at h
        cases h
    | some items => rfl

end Leaves

/-! ## Items and keys -/

section Compound

variable {properties : Fields}

theorem keeps_arr {item : Rule} {items : List Json} (h : ∀ x ∈ items, Keeps properties item x) :
    Keeps properties (.array (some item)) (.arr items) := by
  intro keys
  have hitems := Drawing.map_run_mapM (g := Outcome.parsed) (k := id) h keys
  rw [validate]
  exact congrArg Json.arr (hitems.trans (List.map_id items))

theorem accepts_arr {item : Rule} {items : List Json}
    (h : ∀ x ∈ items, Accepts properties item x) :
    Accepts properties (.array (some item)) (.arr items) := by
  intro keys
  rw [validate, Outcome.isValid_iff]
  refine (Outcome.firstProblem?_eq_none_iff 0 _).2 ?_
  intro o ho
  obtain ⟨x, hx, n, rfl⟩ := Drawing.exists_run_of_mem_mapM (advances_validate properties item) ho
  exact (Outcome.isValid_iff _).1 (h x hx _)

/-- Whether validating one key gives back what the key has. -/
def KeepsKey (properties : Fields) (key : KeyOf Rule) (found : Option Json) : Prop :=
  ∀ keys, ((validateKey properties key found).run keys).1.1 = found

theorem keepsKey_some {key : KeyOf Rule} {v : Json} (h : Keeps properties key.rule v) :
    KeepsKey properties key (some v) :=
  fun keys => congrArg some (h keys)

theorem keepsKey_none {key : KeyOf Rule} (h : key.default = .absent) :
    KeepsKey properties key none := by
  intro keys
  rw [validateKey, h]
  rfl

/-- What a key has come to is left as it is if that holds of its value and of its defaults. -/
theorem keepsKey_run_validateKey {keys : KeySupply} {n : Nat} {key : KeyOf Rule}
    {found : Option Json}
    (hdefault : ∀ v, key.default.CanBe keys v → Keeps properties key.rule v)
    (hvalue : ∀ x, found = some x →
      Keeps properties key.rule ((key.rule.validate properties x).run (keys.skip n)).1.parsed) :
    KeepsKey properties key ((validateKey properties key found).run (keys.skip n)).1.1 := by
  cases found with
  | some x => exact keepsKey_some (hvalue x rfl)
  | none =>
      show KeepsKey properties key (key.default.produce.run (keys.skip n)).1
      cases hfilled : (key.default.produce.run (keys.skip n)).1 with
      | none => exact keepsKey_none (KeyDefault.eq_absent_of_run_produce hfilled)
      | some v => exact keepsKey_some (hdefault v (KeyDefault.canBe_of_run_produce hfilled))

/-- What a key has come to is accepted if that holds of its value, which was valid, and of its
defaults. -/
theorem accepts_run_validateKey {keys : KeySupply} {n : Nat} {key : KeyOf Rule}
    {found : Option Json}
    (hdefault : ∀ v, key.default.CanBe keys v → Accepts properties key.rule v)
    (hvalue : ∀ x, found = some x →
      let o := ((key.rule.validate properties x).run (keys.skip n)).1
      o.isValid = true → Accepts properties key.rule o.parsed) :
    let result := ((validateKey properties key found).run (keys.skip n)).1
    result.2 = none → ∀ v, result.1 = some v → Accepts properties key.rule v := by
  intro result hnone v hv
  cases found with
  | some x =>
      obtain rfl := Option.some.inj hv
      exact hvalue x rfl ((Outcome.isValid_iff _).2 hnone)
  | none => exact hdefault v (KeyDefault.canBe_of_run_produce hv)

theorem keeps_obj {listed : List (KeyOf Rule)} {fields : Fields}
    (h : ∀ key ∈ listed, ∃ found, fields.Holds key.name found ∧ KeepsKey properties key found) :
    Keeps properties (.object listed) (.obj fields) := by
  intro keys
  rw [validate]
  exact congrArg Json.obj (run_validateKeys_of_holds h none keys).1

theorem accepts_obj {listed : List (KeyOf Rule)} {fields : Fields}
    (h : ∀ key ∈ listed, ∃ found, fields.Holds key.name found ∧ KeepsKey properties key found)
    (haccepts : ∀ key ∈ listed, ∀ v, fields.get? key.name = some v →
      Accepts properties key.rule v) :
    Accepts properties (.object listed) (.obj fields) := by
  intro keys
  rw [validate, Outcome.isValid_iff]
  refine (run_validateKeys_of_holds h none keys).2 ?_
  intro key hkey keys'
  cases hv : fields.get? key.name with
  | none => rfl
  | some v => exact (Outcome.isValid_iff _).1 (haccepts key hkey v hv keys')

theorem settles_array {keys : KeySupply} {item : Rule} {v : Json}
    (h : ∀ items, itemsOf? v = some items → ∀ x ∈ items, item.Settles properties keys x) :
    Settles properties keys (.array (some item)) v := by
  cases hitems : itemsOf? v with
  | none =>
      have hf : validate properties (.array (some item)) v =
          pure (.invalid (.arr []) .notArray) := by
        rw [validate, hitems]
      constructor
      · intro n
        rw [hf]
        refine keeps_arr ?_
        intro x hx
        cases hx
      · intro n _ hvalid
        rw [hf] at hvalid
        cases hvalid
  | some items =>
      have hf : validate properties (.array (some item)) v =
          (items.mapM fun x => item.validate properties x) >>= fun outcomes =>
            pure (arrayOutcome outcomes) := by
        rw [validate, hitems]
      -- every value in the array has come from an item, which settles
      have hfrom {n : Nat} {o : Outcome}
          (ho : o ∈ ((items.mapM fun x => item.validate properties x).run (keys.skip n)).1) :
          ∃ x m, item.Settles properties keys x ∧
            o = ((item.validate properties x).run (keys.skip m)).1 := by
        obtain ⟨x, hx, m, rfl⟩ :=
          Drawing.exists_run_of_mem_mapM (advances_validate properties item) ho
        exact ⟨x, n + m, h items hitems x hx, by rw [KeySupply.skip_skip]⟩
      constructor
      · intro n
        rw [hf]
        refine keeps_arr ?_
        intro y hy
        obtain ⟨o, ho, rfl⟩ := List.mem_map.1 hy
        obtain ⟨x, m, hx, rfl⟩ := hfrom ho
        exact hx.keeps m
      · intro n haccepts hvalid
        rw [hf] at hvalid ⊢
        refine accepts_arr ?_
        intro y hy
        obtain ⟨o, ho, rfl⟩ := List.mem_map.1 hy
        have hnone := (Outcome.firstProblem?_eq_none_iff 0 _).1
          ((Outcome.isValid_iff _).1 hvalid) o ho
        obtain ⟨x, m, hx, rfl⟩ := hfrom ho
        exact hx.accepts m (haccepts.of_subset (parts_item_subset item))
          ((Outcome.isValid_iff _).2 hnone)

theorem settles_object {keys : KeySupply} {listed : List (KeyOf Rule)} {v : Json}
    (hnames : (listed.map KeyOf.name).Nodup)
    (hkeeps : EachDefault keys (Keeps properties) (.object listed))
    (hnone : fieldsOf? v = none → ∀ key ∈ listed, key.default = .absent)
    (h : ∀ fields, fieldsOf? v = some fields → ∀ key ∈ listed, ∀ x,
      fields.get? key.name = some x → key.rule.Settles properties keys x) :
    Settles properties keys (.object listed) v := by
  cases hfields : fieldsOf? v with
  | none =>
      have hf : validate properties (.object listed) v = pure (.invalid (.obj []) .notObject) := by
        rw [validate, hfields]
      constructor
      · intro n
        rw [hf]
        refine keeps_obj ?_
        intro key hkey
        exact ⟨none, rfl, keepsKey_none (hnone hfields key hkey)⟩
      · intro n _ hvalid
        rw [hf] at hvalid
        cases hvalid
  | some fields =>
      have hf : validate properties (.object listed) v =
          validateKeys properties listed fields none >>= fun result =>
            pure ⟨.obj result.1, result.2⟩ := by
        rw [validate, hfields]
      have hfrom {key : KeyOf Rule} (hkey : key ∈ listed) (n : Nat) :
          ∃ m, let result := ((validateKeys properties listed fields none).run (keys.skip n)).1
            let found := ((validateKey properties key (fields.get? key.name)).run (keys.skip m)).1
            result.1.Holds key.name found.1 ∧ (result.2 = none → found.2 = none) := by
        obtain ⟨m, hm⟩ := exists_run_validateKey properties hnames hkey fields none
          (keys.skip n)
        rw [KeySupply.skip_skip] at hm
        exact ⟨n + m, hm⟩
      have hkept (n : Nat) : ∀ key ∈ listed, ∃ found,
          Table.Holds ((validateKeys properties listed fields none).run (keys.skip n)).1.1
            key.name found ∧ KeepsKey properties key found := by
        intro key hkey
        obtain ⟨m, hholds, -⟩ := hfrom hkey n
        exact ⟨_, hholds, keepsKey_run_validateKey (hkeeps.key listed (mem_parts_self _) key hkey)
          fun x hx => (h fields hfields key hkey x hx).keeps m⟩
      constructor
      · intro n
        rw [hf]
        exact keeps_obj (hkept n)
      · intro n haccepts hvalid
        rw [hf] at hvalid ⊢
        refine accepts_obj (hkept n) ?_
        intro key hkey x hx
        obtain ⟨m, hholds, hfound⟩ := hfrom hkey n
        refine accepts_run_validateKey (haccepts.each.key listed (mem_parts_self _) key hkey) ?_
          (hfound ((Outcome.isValid_iff _).1 hvalid)) x (hholds.get?_eq.symm.trans hx)
        intro x hx
        have hpart := haccepts.of_subset (parts_key_subset hkey)
        exact (h fields hfields key hkey x hx).accepts m hpart

end Compound

/-! ## All rules -/

/-- Whether there is no object in some place of a value where a rule asks for one and fills in keys.
There validation comes to an object without any keys. -/
inductive LacksObject : Rule → Json → Prop where
  | here {listed : List (KeyOf Rule)} {v : Json} (h : fieldsOf? v = none) {key : KeyOf Rule}
      (hkey : key ∈ listed) (hdefault : key.default ≠ .absent) : LacksObject (.object listed) v
  | item {item : Rule} {v : Json} {items : List Json} (h : itemsOf? v = some items) {x : Json}
      (hx : x ∈ items) (hlacks : LacksObject item x) : LacksObject (.array (some item)) v
  | key {listed : List (KeyOf Rule)} {v : Json} {fields : Fields} (h : fieldsOf? v = some fields)
      {key : KeyOf Rule} (hkey : key ∈ listed) {x : Json} (hx : fields.get? key.name = some x)
      (hlacks : LacksObject key.rule x) : LacksObject (.object listed) v

/-- A value in which no object is lacking settles. -/
theorem settles_of_not_lacksObject {properties : Fields} {keys : KeySupply} {rule : Rule}
    (hnames : rule.HasDistinctNames) (hkeeps : rule.EachDefault keys (Keeps properties))
    {v : Json} (hlacks : ¬rule.LacksObject v) : rule.Settles properties keys v := by
  induction rule using byParts generalizing v with
  | text => exact settles_of_pure_valid (fun v => by rw [validate]) (validateText_parsed v)
  | boolean => exact settles_of_pure_valid (fun v => by rw [validate]) (validateBoolean_parsed v)
  | tabName =>
      exact settles_of_pure_valid (fun v => by rw [validate]) (validateTabName_parsed properties v)
  | regex =>
      exact settles_of_pure (fun v => by rw [validate]) (validateRegex_parsed v)
        fun _ => isValid_validateRegex_parsed
  | number min max default => exact settles_number properties keys min max default v
  | safeUrl default => exact settles_safeUrl properties keys hkeeps v
  | anyArray => exact settles_anyArray properties keys v
  | array item ih =>
      refine settles_array ?_
      intro items hitems x hx
      have hpart := parts_item_subset item
      exact ih (hnames.of_subset hpart) (hkeeps.of_subset hpart)
        fun hitem => hlacks (.item hitems hx hitem)
  | object listed ih =>
      refine settles_object (hnames listed (mem_parts_self _)) hkeeps ?_ ?_
      · intro hfields key hkey
        exact Classical.byContradiction fun hne => hlacks (.here hfields hkey hne)
      · intro fields hfields key hkey x hx
        have hpart := parts_key_subset hkey
        exact ih key hkey (hnames.of_subset hpart) (hkeeps.of_subset hpart)
          fun hrule => hlacks (.key hfields hkey hx hrule)

/-- If an object comes back, what each listed key has comes back. -/
theorem exists_run_validateKey_eq {properties : Fields} {listed : List (KeyOf Rule)}
    (hnames : (listed.map KeyOf.name).Nodup) {key : KeyOf Rule} (hkey : key ∈ listed)
    {fields : Fields} {keys : KeySupply}
    (h : ((validate properties (.object listed) (.obj fields)).run keys).1.parsed = .obj fields) :
    ∃ keys', ((validateKey properties key (fields.get? key.name)).run keys').1.1 =
      fields.get? key.name := by
  obtain ⟨n, hholds, -⟩ := exists_run_validateKey properties hnames hkey fields none keys
  have hfields : ((validateKeys properties listed fields none).run keys).1.1 = fields := by
    rw [validate] at h
    exact Json.obj.inj h
  rw [hfields] at hholds
  exact ⟨keys.skip n, hholds.get?_eq.symm⟩

/-- A value in which an object is lacking is not valid, and what validating it comes to does not
come back when it is validated in turn: then there is an object, and its keys are filled in. -/
theorem problem_ne_none_and_ne_of_lacksObject (properties : Fields) {rule : Rule} {v : Json}
    (hnames : rule.HasDistinctNames) (hlacks : rule.LacksObject v) (keys : KeySupply) :
    let o := ((rule.validate properties v).run keys).1
    o.problem ≠ none ∧
      ∀ keys', ((rule.validate properties o.parsed).run keys').1.parsed ≠ o.parsed := by
  induction hlacks generalizing keys with
  | @here listed v h key hkey hdefault =>
      have hlisted := hnames listed (mem_parts_self _)
      rw [validate, h]
      refine ⟨Option.some_ne_none _, ?_⟩
      intro keys' hparsed
      obtain ⟨_, hkept⟩ := exists_run_validateKey_eq hlisted hkey hparsed
      exact hdefault (KeyDefault.eq_absent_of_run_produce hkept)
  | @item item v items h x hx _ ih =>
      have hitem := ih (hnames.of_subset (parts_item_subset item))
      obtain ⟨n, ho⟩ := Drawing.exists_run_mem_mapM (advances_validate properties item) hx keys
      rw [validate, h]
      constructor
      · intro hnone
        exact (hitem _).1 ((Outcome.firstProblem?_eq_none_iff 0 _).1 hnone _ ho)
      · intro keys' hparsed
        rw [validate] at hparsed
        obtain ⟨keys'', hkept⟩ := Drawing.exists_run_eq_of_map_run_mapM (Json.arr.inj hparsed)
          (List.mem_map_of_mem ho)
        exact (hitem _).2 keys'' hkept
  | @key listed v fields h key hkey x hx _ ih =>
      have hlisted := hnames listed (mem_parts_self _)
      have hrule := ih (hnames.of_subset (parts_key_subset hkey))
      obtain ⟨n, hholds, hfound⟩ := exists_run_validateKey properties hlisted hkey fields none keys
      let result := ((validateKeys properties listed fields none).run keys).1.1
      rw [hx] at hholds hfound
      rw [validate, h]
      constructor
      · intro hnone
        exact (hrule _).1 (hfound hnone)
      · intro keys' hparsed
        obtain ⟨keys'', hkept⟩ := exists_run_validateKey_eq hlisted hkey
          (show _ = Json.obj result from hparsed)
        rw [hholds.get?_eq] at hkept
        exact (hrule _).2 keys'' (Option.some.inj hkept)

/-- What validation comes to is left as it is by validating it again exactly if no object is lacking
where keys are filled in. So it is whenever the value is valid, and then it is valid again if the
defaults are accepted. The rule may be nested in any way, if no object in it lists a name twice and
every default is left as it is by the rule that it belongs to. -/
theorem keeps_parsed_iff_not_lacksObject {properties : Fields} {keys : KeySupply} {rule : Rule}
    (hnames : rule.HasDistinctNames) (hkeeps : rule.EachDefault keys (Keeps properties))
    (v : Json) :
    let o := ((rule.validate properties v).run keys).1
    (Keeps properties rule o.parsed ↔ ¬rule.LacksObject v) ∧
      (o.isValid = true → Keeps properties rule o.parsed) ∧
      (rule.AcceptsDefaults properties keys → o.isValid = true →
        Accepts properties rule o.parsed) := by
  intro o
  have hsettles (h : ¬rule.LacksObject v) := settles_of_not_lacksObject hnames hkeeps h
  have hlacking (h : rule.LacksObject v) :=
    problem_ne_none_and_ne_of_lacksObject properties hnames h keys
  have hvalid (h : o.isValid = true) : ¬rule.LacksObject v :=
    fun hlacks => (hlacking hlacks).1 ((Outcome.isValid_iff o).1 h)
  refine ⟨⟨?_, fun h => (hsettles h).keeps 0⟩, ?_, ?_⟩
  · intro hkept hlacks
    exact (hlacking hlacks).2 keys (hkept keys)
  · intro h
    exact (hsettles (hvalid h)).keeps 0
  · intro haccepts h
    exact (hsettles (hvalid h)).accepts 0 haccepts h

/-! ## A list of objects with one key -/

/-- Objects with a key that gets a truth value where it is absent. -/
def visibilities : Rule :=
  .array (some (.object [⟨"isVisible", .boolean, .value (.bool true)⟩]))

theorem hasDistinctNames_visibilities : visibilities.HasDistinctNames := by
  simp [HasDistinctNames, visibilities, parts, partsOf]

theorem eachDefault_visibilities {keys : KeySupply} {P : Rule → Json → Prop}
    (h : P .boolean (.bool true)) : visibilities.EachDefault keys P := by
  constructor
  · simp [visibilities, parts, partsOf]
  · simp [visibilities, parts, partsOf]
  · simp [EachKeyDefault, visibilities, parts, partsOf, KeyDefault.CanBe, h]

theorem keeps_visibilities (keys : KeySupply) : visibilities.EachDefault keys (Keeps []) :=
  eachDefault_visibilities fun _ => rfl

theorem acceptsDefaults_visibilities (keys : KeySupply) : visibilities.AcceptsDefaults [] keys where
  each := eachDefault_visibilities fun _ => rfl
  url := by simp [visibilities, parts, partsOf]

/-- Two objects, of which one gets its key. -/
theorem keeps_parsed_visibilities :
    let keys : KeySupply := ⟨fun _ => "4f2a91c07d", 0⟩
    let v : Json := .arr [.obj [], .obj [("isVisible", .null)]]
    let parsed : Json := .arr [.obj [("isVisible", .bool true)], .obj [("isVisible", .bool false)]]
    (visibilities.HasDistinctNames ∧ visibilities.EachDefault keys (Keeps []) ∧
        visibilities.AcceptsDefaults [] keys) ∧
      ((visibilities.validate [] v).run keys).1 = .valid parsed ∧
      Keeps [] visibilities parsed ∧ Accepts [] visibilities parsed := by
  intro keys v parsed
  have hnames := hasDistinctNames_visibilities
  have hkeeps := keeps_visibilities keys
  have haccepts := acceptsDefaults_visibilities keys
  have hparsed := keeps_parsed_iff_not_lacksObject hnames hkeeps v
  exact ⟨⟨hnames, hkeeps, haccepts⟩, rfl, hparsed.2.1 rfl, hparsed.2.2 haccepts rfl⟩

/-- An item that is no object comes to an object without the key, and this to one that has it. -/
theorem not_keeps_parsed_visibilities :
    let keys : KeySupply := ⟨fun _ => "4f2a91c07d", 0⟩
    (visibilities.HasDistinctNames ∧ visibilities.EachDefault keys (Keeps []) ∧
        visibilities.AcceptsDefaults [] keys) ∧
      ((visibilities.validate [] (.arr [.null])).run keys).1 =
        .invalid (.arr [.obj []]) (.item 0 .notObject) ∧
      ((visibilities.validate [] (.arr [.obj []])).run keys).1 =
        .valid (.arr [.obj [("isVisible", .bool true)]]) ∧
      ¬Keeps [] visibilities (.arr [.obj []]) := by
  intro keys
  refine ⟨⟨hasDistinctNames_visibilities, keeps_visibilities keys,
    acceptsDefaults_visibilities keys⟩, rfl, rfl, ?_⟩
  intro hkept
  have hparsed : Json.arr [.obj [("isVisible", .bool true)]] = .arr [.obj []] := hkept keys
  simp at hparsed

end Rule

end Widgetry
