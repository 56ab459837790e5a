/-!
# Case maps as runs

Most letters of one script lie as far from their other case as their neighbours do, so a case map
is a list of runs: the characters from `first` to `last`, every `step`-th of them, each moved by
`shift`. The few characters that become several are listed one by one.
-/

namespace Widgetry.Text

/-- The characters `first`, `first + step`, … up to `last`, each moved by `shift`. -/
structure CaseRun where
  first : Nat
  last : Nat
  step : Nat
  shift : Int

/-- A map from characters to texts. -/
structure CaseMap where
  runs : List CaseRun
  several : List (Nat × List Nat)

/-- The image of a character that lies in the run. -/
def CaseRun.apply? (run : CaseRun) (code : Nat) : Option Nat :=
  if run.first ≤ code ∧ code ≤ run.last ∧ (code - run.first) % run.step = 0 then
    some (code + run.shift).toNat
  else none

/-- The text that a character becomes: by the list of several, by its run, or unchanged. -/
def CaseMap.apply (map : CaseMap) (c : Char) : List Char :=
  match map.several.find? fun entry => entry.1 = c.toNat with
  | some (_, codes) => codes.map Char.ofNat
  | none =>
    match map.runs.findSome? fun run => run.apply? c.toNat with
    | some code => [Char.ofNat code]
    | none => [c]

end Widgetry.Text
