import Widgetry.Proofs.KeySupply
import Widgetry.Rule.Validation

/-!
# Parts of a rule

The parts of a rule are the rule itself, the rules for its items and for its keys, and the parts of
these. What is asked of a whole rule is asked of each of its parts: that no object lists a name
twice, or that every default goes with the rule that it belongs to. So it holds of the parts of a
rule if it holds of the rule, and facts about rules are proved by `Rule.byParts`.
-/

namespace Widgetry

namespace Rule

/-- What holds of a rule if it holds of the rules for its items and for its keys holds of every
rule. -/
theorem byParts {motive : Rule → Prop} (text : motive .text) (boolean : motive .boolean)
    (number : ∀ min max default, motive (.number min max default)) (regex : motive .regex)
    (safeUrl : ∀ default, motive (.safeUrl default)) (tabName : motive .tabName)
    (anyArray : motive (.array none)) (array : ∀ item, motive item → motive (.array (some item)))
    (object : ∀ keys : List (KeyOf Rule), (∀ key ∈ keys, motive key.rule) → motive (.object keys))
    (rule : Rule) : motive rule := by
  refine @Rule.rec motive (fun item => ∀ rule ∈ item, motive rule)
    (fun keys => ∀ key ∈ keys, motive key.rule) (fun key => motive key.rule)
    text boolean number regex safeUrl ?_ object tabName ?_ ?_ ?_ ?_ ?_ rule
  · intro item hitem
    cases item with
    | none => exact anyArray
    | some item => exact array item (hitem item rfl)
  · intro _ hrule
    cases hrule
  · intro item hitem rule hrule
    obtain rfl := Option.some.inj hrule
    exact hitem
  · intro _ hkey
    cases hkey
  · intro first rest hfirst hrest key hkey
    rcases List.mem_cons.1 hkey with rfl | hmem
    · exact hfirst
    · exact hrest key hmem
  · intro _ _ _ hrule
    exact hrule

mutual

/-- The parts of a rule. -/
def parts : Rule → List Rule
  | .array (some item) => .array (some item) :: item.parts
  | .object keys => .object keys :: partsOf keys
  | rule => [rule]

/-- The parts of the rules for some keys. -/
def partsOf : List (KeyOf Rule) → List Rule
  | [] => []
  | ⟨_, rule, _⟩ :: rest => rule.parts ++ partsOf rest

end

theorem mem_parts_self (rule : Rule) : rule ∈ rule.parts := by
  unfold parts
  split <;> exact List.mem_cons_self

theorem parts_item_subset (item : Rule) : item.parts ⊆ (Rule.array (some item)).parts := by
  rw [parts]
  exact List.subset_cons_self _ _

theorem parts_subset_partsOf {key : KeyOf Rule} {keys : List (KeyOf Rule)} (h : key ∈ keys) :
    key.rule.parts ⊆ partsOf keys := by
  induction keys with
  | nil => cases h
  | cons first rest ih =>
      rw [partsOf]
      rcases List.mem_cons.1 h with rfl | hmem
      · exact List.subset_append_left _ _
      · exact List.subset_append_of_subset_right _ (ih hmem)

theorem parts_key_subset {key : KeyOf Rule} {keys : List (KeyOf Rule)} (h : key ∈ keys) :
    key.rule.parts ⊆ (Rule.object keys).parts := by
  rw [parts]
  exact List.subset_cons_of_subset _ (parts_subset_partsOf h)

/-! ## Names and defaults -/

end Rule

/-- Whether a key that is absent may get a value, where keys are drawn from a supply. -/
def KeyDefault.CanBe (keys : KeySupply) : KeyDefault → Json → Prop
  | .absent, _ => False
  | .value v', v => v = v'
  | .generated, v => ∃ n, v = .str (keys.key n)

theorem KeyDefault.canBe_of_run_produce {default : KeyDefault} {keys : KeySupply} {n : Nat}
    {v : Json} (h : (default.produce.run (keys.skip n)).1 = some v) : default.CanBe keys v := by
  cases default with
  | absent => cases h
  | value v' => exact (Option.some.inj h).symm
  | generated => exact ⟨_, (Option.some.inj h).symm⟩

theorem KeyDefault.eq_absent_of_run_produce {default : KeyDefault} {keys : KeySupply}
    (h : (default.produce.run keys).1 = none) : default = .absent := by
  cases default with
  | absent => rfl
  | value v => cases h
  | generated => cases h

namespace Rule

/-- Whether no object in a rule lists a name twice. -/
def HasDistinctNames (rule : Rule) : Prop :=
  ∀ listed, .object listed ∈ rule.parts → (listed.map KeyOf.name).Nodup

/-- Whether every value that a key may get where it is absent goes with the rule for the key. -/
def EachKeyDefault (keys : KeySupply) (P : Rule → Json → Prop) (rule : Rule) : Prop :=
  ∀ listed, .object listed ∈ rule.parts → ∀ key ∈ listed, ∀ v, key.default.CanBe keys v →
    P key.rule v

/-- Whether every default in a rule goes with the rule that it belongs to. -/
structure EachDefault (keys : KeySupply) (P : Rule → Json → Prop) (rule : Rule) : Prop where
  number : ∀ min max default, .number min max (some default) ∈ rule.parts →
    P (.number min max (some default)) (.ofFinite default)
  safeUrl : ∀ default, .safeUrl (some default) ∈ rule.parts →
    P (.safeUrl (some default)) (.str default)
  key : rule.EachKeyDefault keys P

section Subset

variable {part rule : Rule} (h : part.parts ⊆ rule.parts)

include h

theorem HasDistinctNames.of_subset (hrule : rule.HasDistinctNames) : part.HasDistinctNames :=
  fun listed hlisted => hrule listed (h hlisted)

theorem EachKeyDefault.of_subset {keys : KeySupply} {P : Rule → Json → Prop}
    (hrule : rule.EachKeyDefault keys P) : part.EachKeyDefault keys P :=
  fun listed hlisted => hrule listed (h hlisted)

theorem EachDefault.of_subset {keys : KeySupply} {P : Rule → Json → Prop}
    (hrule : rule.EachDefault keys P) : part.EachDefault keys P where
  number := fun min max default hmem => hrule.number min max default (h hmem)
  safeUrl := fun default hmem => hrule.safeUrl default (h hmem)
  key := hrule.key.of_subset h

end Subset

end Rule

end Widgetry
