import Widgetry.Proofs.Number.Exact
import Widgetry.Proofs.Rule.Compound
import Widgetry.Proofs.Rule.Single

/-!
# Values that conform to a rule

What it means for a value to conform to a rule is said here without validation: it has the type that
the rule asks for, and so have its items and the values of its keys, as far as there are rules for
them. Validation always comes to a value that conforms, whatever it is given and whether it finds a
problem or not.
-/

namespace Widgetry

/-- Whether a text begins with `http://` or `https://`, with small or capital letters. -/
def IsWebAddress (s : String) : Prop :=
  ∃ scheme rest, s.toList = scheme ++ rest ∧
    (scheme.map Char.toLower = "http://".toList ∨ scheme.map Char.toLower = "https://".toList)

/-- Whether a text is the label of a tab: of one in the object `tabsObj`, or in the list `tabs`. -/
inductive IsTabLabel (properties : Fields) (label : String) : Prop where
  | keyed {tabs : Fields} {id : String} {tab : Json}
      (h : properties.get? "tabsObj" = some (.obj tabs)) (htab : (id, tab) ∈ tabs)
      (hlabel : tab.get? "label" = some (.str label))
  | listed {tabs : List Json} {tab : Json} (h : properties.get? "tabs" = some (.arr tabs))
      (htab : tab ∈ tabs) (hlabel : tab.get? "label" = some (.str label))

namespace Rule

/-- Whether a value has the type that a rule asks for, in a widget with some properties. -/
inductive Conforms (properties : Fields) : Rule → Json → Prop where
  | text (s : String) : Conforms properties .text (.str s)
  | boolean (b : Bool) : Conforms properties .boolean (.bool b)
  | number {min max default : Option Finite64} (n : Json.Number) :
      Conforms properties (.number min max default) (.num n)
  | noNumber {min max default : Option Finite64} :
      Conforms properties (.number min max default) .null
  | regex (s : String) : Conforms properties .regex (.str s)
  | fallback {default : Option String} :
      Conforms properties (.safeUrl default) (.str (default.getD ""))
  | address {default : Option String} {s : String} (h : IsWebAddress s) :
      Conforms properties (.safeUrl default) (.str s)
  | noTab : Conforms properties .tabName (.str "")
  | tab {label : String} (h : IsTabLabel properties label) :
      Conforms properties .tabName (.str label)
  | anyArray (items : List Json) : Conforms properties (.array none) (.arr items)
  | array {item : Rule} {items : List Json} (h : ∀ x ∈ items, Conforms properties item x) :
      Conforms properties (.array (some item)) (.arr items)
  | object {listed : List (KeyOf Rule)} {fields : Fields}
      (h : ∀ key ∈ listed, ∀ v, fields.get? key.name = some v → Conforms properties key.rule v) :
      Conforms properties (.object listed) (.obj fields)

end Rule

/-! ## Single values -/

theorem isWebUrl_iff (s : String) : isWebUrl s = true ↔ IsWebAddress s := by
  have hprefix (lead : String) : lead.toList.isPrefixOf (s.toList.map Char.toLower) = true ↔
      ∃ scheme rest, s.toList = scheme ++ rest ∧ scheme.map Char.toLower = lead.toList := by
    rw [List.isPrefixOf_iff_prefix]
    constructor
    · rintro ⟨rest, hrest⟩
      obtain ⟨scheme, rest', hs, hscheme, -⟩ := List.map_eq_append_iff.1 hrest.symm
      exact ⟨scheme, rest', hs, hscheme⟩
    · rintro ⟨scheme, rest, hs, hscheme⟩
      rw [hs, List.map_append, hscheme]
      exact List.prefix_append _ _
  unfold isWebUrl IsWebAddress
  simp only [Bool.or_eq_true, hprefix, ← exists_or, ← and_or_left]

theorem mem_tabLabels_iff (properties : Fields) (label : String) :
    label ∈ tabLabels properties ↔ IsTabLabel properties label := by
  have hkeyed (tab : Json) :
      tab ∈ ((properties.get? "tabsObj").bind Json.fields?).elim [] Table.values ↔
        ∃ tabs id, properties.get? "tabsObj" = some (.obj tabs) ∧ (id, tab) ∈ tabs := by
    simp only [← Json.bind_fields?_eq_some_iff]
    cases (properties.get? "tabsObj").bind Json.fields? with
    | none => simp
    | some tabs => simp [Table.values]
  have hlisted (tab : Json) : tab ∈ ((properties.get? "tabs").bind Json.items?).getD [] ↔
      ∃ tabs, properties.get? "tabs" = some (.arr tabs) ∧ tab ∈ tabs := by
    simp only [← Json.bind_items?_eq_some_iff]
    cases (properties.get? "tabs").bind Json.items? with
    | none => simp
    | some tabs => simp
  unfold tabLabels
  simp only [List.mem_filterMap, List.mem_append, hkeyed, hlisted, Json.bind_string?_eq_some_iff]
  constructor
  · rintro ⟨tab, ⟨tabs, id, h, htab⟩ | ⟨tabs, h, htab⟩, hlabel⟩
    · exact .keyed h htab hlabel
    · exact .listed h htab hlabel
  · rintro (⟨h, htab, hlabel⟩ | ⟨h, htab, hlabel⟩)
    · exact ⟨_, Or.inl ⟨_, _, h, htab⟩, hlabel⟩
    · exact ⟨_, Or.inr ⟨_, h, htab⟩, hlabel⟩

namespace Rule

section Leaves

variable (properties : Fields)

theorem conforms_validateText (v : Json) : Conforms properties .text (validateText v).parsed := by
  obtain ⟨s, hparsed⟩ := exists_validateText_parsed v
  rw [hparsed]
  exact .text s

theorem conforms_validateBoolean (v : Json) :
    Conforms properties .boolean (validateBoolean v).parsed := by
  obtain ⟨b, hparsed⟩ := exists_validateBoolean_parsed v
  rw [hparsed]
  exact .boolean b

theorem conforms_validateRegex (v : Json) :
    Conforms properties .regex (validateRegex v).parsed := by
  obtain ⟨s, hparsed⟩ := exists_validateRegex_parsed v
  rw [hparsed]
  exact .regex s

theorem conforms_ofFinite (min max default : Option Finite64) (x : Finite64) :
    Conforms properties (.number min max default) (.ofFinite x) := by
  obtain ⟨n, -, hn, -⟩ := Json.exists_ofFinite_eq x
  rw [hn]
  exact .number n

theorem conforms_validateNumber (min max default : Option Finite64) (v : Json) :
    Conforms properties (.number min max default) (validateNumber min max default v).parsed := by
  rcases validateNumber_cases min max default v with ⟨x, -, hparsed⟩ | ⟨hparsed, -⟩
  · rw [hparsed]
    exact conforms_ofFinite properties _ _ _ x
  · rw [hparsed]
    cases default with
    | none => exact .noNumber
    | some d => exact conforms_ofFinite properties _ _ _ d

theorem conforms_validateUrl (default : Option String) (v : Json) :
    Conforms properties (.safeUrl default) (validateUrl default v).parsed := by
  rcases validateUrl_cases default v with ⟨s, -, hurl, hparsed⟩ | hparsed
  · rw [hparsed]
    exact .address ((isWebUrl_iff s).1 hurl)
  · rw [hparsed]
    exact .fallback

theorem conforms_validateTabName (v : Json) :
    Conforms properties .tabName (validateTabName properties v).parsed := by
  obtain ⟨name, hname, hparsed⟩ := exists_validateTabName_parsed properties v
  rw [hparsed]
  rcases hname with rfl | hlabel
  · exact .noTab
  · exact .tab ((mem_tabLabels_iff properties name).1 hlabel)

end Leaves

/-! ## All rules -/

/-- Validation comes to a value that conforms to the rule, if the values that keys get where they
are absent do. -/
theorem conforms_run_validate {properties : Fields} {keys : KeySupply} {rule : Rule}
    (hnames : rule.HasDistinctNames) (hdefaults : rule.EachKeyDefault keys (Conforms properties))
    (v : Json) (n : Nat) :
    Conforms properties rule ((rule.validate properties v).run (keys.skip n)).1.parsed := by
  induction rule using byParts generalizing v n with
  | text => rw [validate]; exact conforms_validateText properties v
  | boolean => rw [validate]; exact conforms_validateBoolean properties v
  | number min max default => rw [validate]; exact conforms_validateNumber properties _ _ _ v
  | regex => rw [validate]; exact conforms_validateRegex properties v
  | safeUrl default => rw [validate]; exact conforms_validateUrl properties default v
  | tabName => rw [validate]; exact conforms_validateTabName properties v
  | anyArray =>
      rw [validate]
      cases itemsOf? v <;> exact .anyArray _
  | array item ih =>
      have hpart := parts_item_subset item
      rw [validate]
      cases itemsOf? v with
      | none => exact .array fun x hx => by cases hx
      | some items =>
          refine .array ?_
          intro x hx
          obtain ⟨o, ho, rfl⟩ := List.mem_map.1 hx
          obtain ⟨x, -, m, rfl⟩ :=
            Drawing.exists_run_of_mem_mapM (advances_validate properties item) ho
          rw [KeySupply.skip_skip]
          exact ih (hnames.of_subset hpart) (hdefaults.of_subset hpart) x (n + m)
  | object listed ih =>
      rw [validate]
      cases fieldsOf? v with
      | none => exact .object fun key _ v hv => by cases hv
      | some fields =>
          refine .object ?_
          intro key hkey v' hv'
          have hpart := parts_key_subset hkey
          obtain ⟨m, hholds, -⟩ := exists_run_validateKey properties
            (hnames listed (mem_parts_self _)) hkey fields none (keys.skip n)
          rw [KeySupply.skip_skip] at hholds
          have hfound := hholds.get?_eq.symm.trans hv'
          cases hv : fields.get? key.name with
          | some v =>
              rw [hv] at hfound
              obtain rfl := Option.some.inj hfound
              exact ih key hkey (hnames.of_subset hpart) (hdefaults.of_subset hpart) v (n + m)
          | none =>
              rw [hv] at hfound
              exact hdefaults listed (mem_parts_self _) key hkey v'
                (KeyDefault.canBe_of_run_produce hfound)

/-- Whatever value is validated, and whether a problem is found with it or not, the value that comes
out conforms to the rule. The rule may be nested in any way, if no object in it lists a name twice,
and what its keys get where they are absent conforms to the rules for them. -/
theorem conforms_validate {properties : Fields} {keys : KeySupply} {rule : Rule}
    (hnames : rule.HasDistinctNames) (hdefaults : rule.EachKeyDefault keys (Conforms properties))
    (v : Json) : Conforms properties rule ((rule.validate properties v).run keys).1.parsed :=
  conforms_run_validate hnames hdefaults v 0

/-- A list of links, of which one has a truth value for its address and another is no link. -/
theorem conforms_validate_links :
    let links : List (KeyOf Rule) :=
      [⟨"id", .text, .generated⟩, ⟨"size", .number none none none, .value (.int 1)⟩,
        ⟨"source", .safeUrl (some "https://a"), .absent⟩]
    let rule : Rule := .array (some (.object links))
    let keys : KeySupply := ⟨fun _ => "4f2a91c07d", 0⟩
    let v : Json := .arr [.obj [("source", .bool true)], .null]
    let first : Json :=
      .obj [("id", .str "4f2a91c07d"), ("size", .int 1), ("source", .str "https://a")]
    (rule.HasDistinctNames ∧ rule.EachKeyDefault keys (Conforms [])) ∧
      Conforms [] rule ((rule.validate [] v).run keys).1.parsed ∧
      ((rule.validate [] v).run keys).1 =
        .invalid (.arr [first, .obj []]) (.item 0 (.key "source" .notUrl)) := by
  intro links rule keys v first
  have hlisted (listed : List (KeyOf Rule)) (h : .object listed ∈ rule.parts) : listed = links := by
    simpa [rule, links, parts, partsOf] using h
  have hnames : rule.HasDistinctNames := by
    intro listed h
    rw [hlisted listed h]
    simp [links]
  have hdefaults : rule.EachKeyDefault keys (Conforms []) := by
    intro listed h
    rw [hlisted listed h]
    simp only [links, List.forall_mem_cons, KeyDefault.CanBe]
    refine ⟨?_, ?_, ?_, ?_⟩
    · rintro _ ⟨n, rfl⟩
      exact .text _
    · rintro _ rfl
      exact .number _
    · simp
    · simp
  exact ⟨⟨hnames, hdefaults⟩, conforms_validate hnames hdefaults v, rfl⟩

end Rule

end Widgetry
