import Widgetry.Rule.Validation

/-!
# What rules for single values come to

A rule for a single value comes to a value of the type that it asks for, whatever it is given. A
number or an address is what the given value says, or what stands in for it.
-/

namespace Widgetry.Rule

theorem exists_validateText_parsed (v : Json) : ∃ s, (validateText v).parsed = .str s := by
  cases v <;> exact ⟨_, rfl⟩

theorem exists_validateBoolean_parsed (v : Json) : ∃ b, (validateBoolean v).parsed = .bool b := by
  unfold validateBoolean
  split <;> exact ⟨_, rfl⟩

theorem exists_validateRegex_parsed (v : Json) : ∃ s, (validateRegex v).parsed = .str s := by
  unfold validateRegex
  split
  next => exact ⟨_, rfl⟩
  next => split <;> exact ⟨_, rfl⟩
  next => exact ⟨_, rfl⟩

theorem exists_validateTabName_parsed (properties : Fields) (v : Json) :
    ∃ name, (name = "" ∨ name ∈ tabLabels properties) ∧
      (validateTabName properties v).parsed = .str name := by
  unfold validateTabName
  split
  next => exact ⟨"", Or.inl rfl, rfl⟩
  next name =>
    split
    next h => exact ⟨name, h, rfl⟩
    next => exact ⟨"", Or.inl rfl, rfl⟩
  next => exact ⟨"", Or.inl rfl, rfl⟩

/-- The outcome has either the number that the value says, or what stands in for it. The latter is
valid only if it is a default. -/
theorem validateNumber_cases (min max default : Option Finite64) (v : Json) :
    let o := validateNumber min max default v
    (∃ x, readNumber v = .number x ∧ o.parsed = .ofFinite x) ∨
      o.parsed = default.elim .null Json.ofFinite ∧ (o.problem = none → default.isSome = true) := by
  unfold validateNumber
  cases hread : readNumber v with
  | malformed => exact Or.inr ⟨rfl, fun h => by cases h⟩
  | absent =>
      cases default with
      | none => exact Or.inr ⟨rfl, fun h => by cases h⟩
      | some d => exact Or.inr ⟨rfl, fun _ => rfl⟩
  | number x =>
      dsimp only
      have hbounded (problem : Problem) :
          (∃ x', NumberReading.number x = .number x' ∧
            default.elim (Json.ofFinite x) Json.ofFinite = .ofFinite x') ∨
          default.elim (Json.ofFinite x) Json.ofFinite = default.elim .null Json.ofFinite ∧
            (some problem = none → default.isSome = true) := by
        cases default with
        | none => exact Or.inl ⟨x, rfl, rfl⟩
        | some d => exact Or.inr ⟨rfl, fun h => by cases h⟩
      split
      next => exact hbounded _
      next =>
        split
        next => exact hbounded _
        next => exact Or.inl ⟨x, rfl, rfl⟩

/-- The outcome has either an address without blanks around it, or what stands in for one. -/
theorem validateUrl_cases (default : Option String) (v : Json) :
    let o := validateUrl default v
    (∃ s, Text.trimString s = s ∧ isWebUrl s = true ∧ o.parsed = .str s) ∨
      o.parsed = .str (default.getD "") := by
  unfold validateUrl
  split
  next => exact Or.inr rfl
  next s =>
    dsimp only
    split
    next h => exact Or.inl ⟨_, Text.trimString_trimString s, h, rfl⟩
    next => exact Or.inr rfl
  next => exact Or.inr rfl

end Widgetry.Rule
