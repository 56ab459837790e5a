import Widgetry.Proofs.Expr.Soundness
import Widgetry.Proofs.Expr.Tiling

/-!
# Places of errors

Reading takes lexemes from the front and reports what is wrong at the first lexeme that is left, or
at the end of the text if none is. So the place of an error is that of a lexeme or the end, and it
never lies inside of a character.
-/

namespace Widgetry.Expr

/-- What is left after reading some lexemes is the end of them, and an error has the place of one of
them or of the end of the text. -/
def StaysIn (finish : Nat) (lexemes : List Lexeme) {α : Type} (rest : α → List Lexeme) :
    Except ExprError α → Prop
  | .ok a => rest a <:+ lexemes
  | .error e => ∃ cause, ∃ offset ∈ finish :: lexemes.map Lexeme.offset,
      e = .syntaxError cause offset

namespace StaysIn

variable {finish : Nat} {lexemes : List Lexeme} {α β : Type} {rest : α → List Lexeme}
  {rest' : β → List Lexeme} {r : Except ExprError α}

theorem failAt {more : List Lexeme} (hmore : more <:+ lexemes) (cause : SyntaxError) :
    StaysIn finish lexemes rest (failAt finish more cause) := by
  refine ⟨cause, _, ?_, rfl⟩
  cases more with
  | nil => exact List.mem_cons_self
  | cons lexeme more =>
      exact List.mem_cons_of_mem _ (List.mem_map_of_mem (hmore.mem List.mem_cons_self))

theorem mono (h : StaysIn finish lexemes rest r) {all : List Lexeme} (hall : lexemes <:+ all) :
    StaysIn finish all rest r := by
  cases r with
  | ok a => exact h.trans hall
  | error e =>
      obtain ⟨cause, offset, hoffset, rfl⟩ := h
      exact ⟨cause, offset, List.cons_subset_cons _ (List.map_subset _ hall.subset) hoffset, rfl⟩

theorem bind {f : α → Except ExprError β} (h : StaysIn finish lexemes rest r)
    (hf : ∀ a, rest a <:+ lexemes → StaysIn finish lexemes rest' (f a)) :
    StaysIn finish lexemes rest' (r >>= f) := by
  cases r with
  | ok a => exact hf a h
  | error e => exact h

end StaysIn

theorem suffix_of_takeMark? {mark : Mark} {lexemes rest : List Lexeme}
    (h : takeMark? mark lexemes = some rest) : rest <:+ lexemes := by
  obtain ⟨lexeme, -, rfl⟩ := eq_cons_of_takeMark? h
  exact List.suffix_cons lexeme rest

theorem suffix_of_takeOperator? {operators : List (Mark × BinaryOp)} {op : BinaryOp}
    {lexemes rest : List Lexeme} (h : takeOperator? operators lexemes = some (op, rest)) :
    rest <:+ lexemes := by
  obtain ⟨mark, lexeme, -, -, rfl⟩ := eq_cons_of_takeOperator? h
  exact List.suffix_cons lexeme rest

section

variable {finish budget : Nat} {lexemes : List Lexeme}

theorem staysIn_expect (mark : Mark) :
    StaysIn finish lexemes id (expect finish mark lexemes) := by
  unfold expect
  split
  next rest hmark => exact suffix_of_takeMark? hmark
  next => exact .failAt List.suffix_rfl _

/-- A reading of a phrase. -/
abbrev ReadsIn (finish : Nat) (lexemes : List Lexeme) (r : Reading) : Prop :=
  StaysIn finish lexemes Prod.snd r

theorem readsIn_conditional
    (hb : ReadsIn finish lexemes (readBinary finish budget operatorLevels lexemes))
    (hc : ∀ rest, ReadsIn finish rest (readConditional finish budget rest)) :
    ReadsIn finish lexemes (readConditional finish (budget + 1) lexemes) := by
  rw [readConditional]
  refine hb.bind ?_
  rintro ⟨condition, rest₁⟩ h₁
  dsimp only at h₁ ⊢
  split
  next => exact h₁
  next rest₂ hmark =>
    have h₂ := (suffix_of_takeMark? hmark).trans h₁
    refine ((hc rest₂).mono h₂).bind ?_
    rintro ⟨yes, rest₃⟩ h₃
    refine ((staysIn_expect .colon).mono h₃).bind fun rest₄ h₄ => ?_
    exact ((hc rest₄).mono h₄).bind fun _ h₅ => h₅

theorem readsIn_chain {operators : List (Mark × BinaryOp)}
    {tighter : List (List (Mark × BinaryOp))} {left : Expr} {op : BinaryOp} {rest : List Lexeme}
    (hop : takeOperator? operators lexemes = some (op, rest))
    (ht : ReadsIn finish rest (readBinary finish budget tighter rest))
    (hc : ∀ right rest, ReadsIn finish rest
      (readChain finish budget operators tighter (.binary op left right) rest)) :
    ReadsIn finish lexemes (readChain finish (budget + 1) operators tighter left lexemes) := by
  rw [readChain, hop]
  refine (ht.mono (suffix_of_takeOperator? hop)).bind ?_
  rintro ⟨right, rest₁⟩ h₁
  exact (hc right rest₁).mono h₁

theorem readsIn_index {operand : Expr} {text : List Char} {offset : Nat}
    (hp : ReadsIn finish lexemes (readConditional finish budget lexemes))
    (hl : ∀ n, budget = n + 1 → ∀ position rest,
      ReadsIn finish rest (readLinks finish n (.index operand position) rest)) :
    ReadsIn finish (⟨.mark .openBracket, text, offset⟩ :: lexemes)
      (readLinks finish budget operand (⟨.mark .openBracket, text, offset⟩ :: lexemes)) := by
  rw [readLinks]
  refine (hp.mono (List.suffix_cons _ lexemes)).bind ?_
  rintro ⟨position, rest₁⟩ h₁
  refine ((staysIn_expect .closeBracket).mono h₁).bind fun rest₂ h₂ => ?_
  cases budget with
  | zero => exact .failAt h₂ _
  | succ budget => exact (hl budget rfl position rest₂).mono h₂

theorem readsIn_call {name : String} {text : List Char} {offset : Nat}
    (ha : StaysIn finish lexemes Prod.snd
      (readArguments finish budget lexemes.length lexemes))
    (hl : ∀ n, budget = n + 1 → ∀ args rest,
      ReadsIn finish rest (readLinks finish n (.call name args) rest)) :
    ReadsIn finish (⟨.mark .openParen, text, offset⟩ :: lexemes)
      (readLinks finish budget (.ident name) (⟨.mark .openParen, text, offset⟩ :: lexemes)) := by
  rw [readLinks]
  refine (ha.mono (List.suffix_cons _ lexemes)).bind ?_
  rintro ⟨args, rest₁⟩ h₁
  cases budget with
  | zero => exact .failAt h₁ _
  | succ budget => exact (hl budget rfl args rest₁).mono h₁

theorem staysIn_moreArguments {fuel : Nat}
    (hc : ReadsIn finish lexemes (readConditional finish budget lexemes))
    (hm : ∀ n, fuel = n + 1 → ∀ rest,
      StaysIn finish rest Prod.snd (readMoreArguments finish budget n rest)) :
    StaysIn finish lexemes Prod.snd (readMoreArguments finish budget fuel lexemes) := by
  rw [readMoreArguments]
  refine hc.bind ?_
  rintro ⟨arg, rest₁⟩ h₁
  dsimp only at h₁ ⊢
  split
  next rest₂ hmark => exact (suffix_of_takeMark? hmark).trans h₁
  next =>
    refine ((staysIn_expect .comma).mono h₁).bind fun rest₂ h₂ => ?_
    cases fuel with
    | zero => exact .failAt h₂ _
    | succ fuel => exact ((hm fuel rfl rest₂).mono h₂).bind fun _ h₃ => h₃

end

section

variable (finish budget : Nat)

/-- Reading an expression takes lexemes from the front, and its errors are at lexemes or at the
end. -/
theorem readsIn_readConditional (lexemes : List Lexeme) :
    ReadsIn finish lexemes (readConditional finish budget lexemes) := by
  revert budget lexemes
  refine (readConditional.mutual_induct
    (fun budget lexemes => ReadsIn finish lexemes (readConditional finish budget lexemes))
    (fun budget levels lexemes =>
      ReadsIn finish lexemes (readBinary finish budget levels lexemes))
    (fun budget operators tighter left lexemes => ReadsIn finish lexemes
      (readChain finish budget operators tighter left lexemes))
    (fun budget lexemes => ReadsIn finish lexemes (readUnary finish budget lexemes))
    (fun budget lexemes => ReadsIn finish lexemes (readPostfix finish budget lexemes))
    (fun budget operand lexemes =>
      ReadsIn finish lexemes (readLinks finish budget operand lexemes))
    (fun budget fuel lexemes => StaysIn finish lexemes Prod.snd
      (readArguments finish budget fuel lexemes))
    (fun budget fuel lexemes => StaysIn finish lexemes Prod.snd
      (readMoreArguments finish budget fuel lexemes))
    (fun budget lexemes => ReadsIn finish lexemes (readPrimary finish budget lexemes))
    ?conditionalZero ?conditional ?binaryNil ?binaryCons ?chainEnd ?chainZero ?chain ?unaryMark
    ?prefixedZero ?prefixed ?unaryOther ?linked ?memberZero ?member ?dotOther ?index ?call
    ?callOther ?linksEnd ?argumentsNil ?arguments ?moreArguments ?primaryNil ?number ?string ?name
    ?parenthesized ?primaryMark).1
  case conditionalZero =>
    intro lexemes
    rw [readConditional]
    exact .failAt List.suffix_rfl _
  case conditional => exact fun lexemes budget => readsIn_conditional
  case binaryNil =>
    intro budget lexemes ih
    rw [readBinary]
    exact ih
  case binaryCons =>
    intro budget lexemes operators tighter ht hc
    rw [readBinary]
    exact ht.bind fun read h => (hc read.1 read.2).mono h
  case chainEnd =>
    intro budget operators tighter left lexemes hnone
    rw [readChain, hnone]
    exact List.suffix_rfl
  case chainZero =>
    intro operators tighter left lexemes op rest hop
    rw [readChain, hop]
    exact .failAt (suffix_of_takeOperator? hop) _
  case chain => exact fun operators tighter left lexemes op rest hop budget => readsIn_chain hop
  case unaryMark =>
    intro budget mark text offset rest hnone ih
    rw [readUnary, hnone]
    exact ih
  case prefixedZero =>
    intro mark text offset rest op hop
    rw [readUnary, hop]
    exact .failAt (List.suffix_cons _ rest) _
  case prefixed =>
    intro mark text offset rest op hop budget ih
    rw [readUnary, hop]
    exact (ih.mono (List.suffix_cons _ rest)).bind fun _ h => h
  case unaryOther =>
    intro budget lexemes hmark ih
    rw [readUnary]
    · exact ih
    · exact hmark
  case linked =>
    intro budget lexemes hp hl
    rw [readPostfix]
    exact hp.bind fun read h => (hl read.1 read.2).mono h
  case memberZero =>
    intro operand text offset name text' offset' rest
    rw [readLinks]
    exact .failAt ((List.suffix_cons _ rest).trans (List.suffix_cons _ _)) _
  case member =>
    intro operand text offset name text' offset' rest budget ih
    rw [readLinks]
    exact ih.mono ((List.suffix_cons _ rest).trans (List.suffix_cons _ _))
  case dotOther =>
    intro budget operand text offset rest hident
    rw [readLinks]
    · exact .failAt (List.suffix_cons _ rest) _
    · exact hident
  case index =>
    intro budget operand text offset rest hp hl
    exact readsIn_index hp fun n hn => by subst hn; exact hl
  case call =>
    intro budget text offset rest name ha hl
    exact readsIn_call ha fun n hn => by subst hn; exact hl
  case callOther =>
    intro budget operand text offset rest hident
    rw [readLinks]
    · exact .failAt List.suffix_rfl _
    · exact hident
  case linksEnd =>
    intro budget operand lexemes hdot hbracket hparenthesis
    rw [readLinks]
    · exact List.suffix_rfl
    · exact hdot
    · exact hbracket
    · exact hparenthesis
  case argumentsNil =>
    intro budget fuel lexemes rest hmark
    rw [readArguments, hmark]
    exact suffix_of_takeMark? hmark
  case arguments =>
    intro budget fuel lexemes hnone ih
    rw [readArguments, hnone]
    exact ih
  case moreArguments =>
    intro budget fuel lexemes hc hm
    exact staysIn_moreArguments hc fun n hn => by subst hn; exact hm
  case primaryNil =>
    intro budget
    rw [readPrimary]
    exact .failAt List.suffix_rfl _
  case number =>
    intro budget x text offset rest
    rw [readPrimary]
    exact List.suffix_cons _ rest
  case string =>
    intro budget s text offset rest
    rw [readPrimary]
    exact List.suffix_cons _ rest
  case name =>
    intro budget name text offset rest
    rw [readPrimary]
    exact List.suffix_cons _ rest
  case parenthesized =>
    intro budget text offset rest ih
    rw [readPrimary]
    refine (ih.mono (List.suffix_cons _ rest)).bind ?_
    rintro ⟨inner, rest₁⟩ h₁
    exact ((staysIn_expect .closeParen).mono h₁).bind fun rest₂ h₂ => h₂
  case primaryMark =>
    intro budget mark text offset rest hmark
    rw [readPrimary]
    · exact .failAt List.suffix_rfl _
    · exact hmark

end

theorem exists_offset_of_ofLexemes {finish : Nat} {lexemes : List Lexeme} {e : ExprError}
    (h : ofLexemes finish lexemes = .error e) :
    ∃ cause, ∃ offset ∈ 0 :: finish :: lexemes.map Lexeme.offset,
      e = .syntaxError cause offset := by
  rw [ofLexemes] at h
  split at h
  next => exact ⟨.empty, 0, List.mem_cons_self, (Except.error.inj h).symm⟩
  next =>
    have hwhole : StaysIn finish lexemes (fun _ : Expr => []) (.error e) := by
      rw [← h]
      refine (readsIn_readConditional finish maxDepth lexemes).bind ?_
      rintro ⟨e', rest⟩ hrest
      dsimp only at hrest ⊢
      split
      next => exact List.nil_suffix
      next => exact .failAt hrest _
    obtain ⟨cause, offset, hoffset, rfl⟩ := hwhole
    exact ⟨cause, offset, List.mem_cons_of_mem 0 hoffset, rfl⟩

/-- An error of reading a text is at a place between its characters. -/
theorem exists_place_of_ofChars {text : List Char} {e : ExprError} (h : ofChars text = .error e) :
    ∃ cause before after, text = before ++ after ∧
      e = .syntaxError cause (Lexeme.byteSize before) := by
  rw [ofChars, bind_eq_error_iff] at h
  rcases h with h | ⟨lexemes, hlexemes, h⟩
  · obtain ⟨cause, before, after, htext, rfl⟩ := Lexeme.exists_place_of_readAll h
    exact ⟨cause, before, after, htext, by rw [Nat.zero_add]⟩
  · obtain ⟨cause, offset, hoffset, rfl⟩ := exists_offset_of_ofLexemes h
    rw [List.mem_cons, List.mem_cons, List.mem_map] at hoffset
    rcases hoffset with rfl | rfl | ⟨lexeme, hmem, rfl⟩
    · exact ⟨cause, [], text, rfl, rfl⟩
    · exact ⟨cause, text, [], text.append_nil.symm, rfl⟩
    · have htiling := (Lexeme.ofText_eq_ok_iff.1 hlexemes).tiling
      obtain ⟨before, after, htext, hplace⟩ := htiling.place lexeme hmem
      exact ⟨cause, before, lexeme.text ++ after, htext, by rw [hplace, Nat.zero_add]⟩

/-- **Places in a text.** A text is tiled by its lexemes: they come one after the other, each begins
and ends between two characters, and what is in none of them is blank. Where a text is no
expression, the place of the error lies between two characters of it, too. -/
theorem ofChars_places (source : String) :
    (∀ lexemes, Lexeme.ofText source.toList = .ok lexemes →
      Lexeme.Tiling 0 source.toList lexemes ∧
        (lexemes.map Lexeme.offset).Pairwise (· < ·) ∧
        ∀ lexeme ∈ lexemes, (⟨lexeme.offset⟩ : String.Pos.Raw).IsValid source ∧
          (⟨lexeme.offset + Lexeme.byteSize lexeme.text⟩ : String.Pos.Raw).IsValid source) ∧
      ∀ e, ofChars source.toList = .error e → ∃ cause offset, e = .syntaxError cause offset ∧
        (⟨offset⟩ : String.Pos.Raw).IsValid source ∧ offset ≤ source.utf8ByteSize := by
  refine ⟨fun lexemes hlexemes => ?_, fun e herror => ?_⟩
  · have htiling := (Lexeme.ofText_eq_ok_iff.1 hlexemes).tiling
    exact ⟨htiling, List.pairwise_map.2 htiling.increasing, fun _ hmem => htiling.isValid hmem⟩
  · obtain ⟨cause, before, after, hsource, rfl⟩ := exists_place_of_ofChars herror
    have hvalid := Lexeme.isValid_of_toList_eq_append hsource
    exact ⟨cause, _, rfl, hvalid, hvalid.le_utf8ByteSize⟩

/-- A string with a character of two bytes, and an error after it. -/
theorem ofChars_places_accent :
    (∃ lexemes, Lexeme.ofText "'é'!=x".toList = .ok lexemes ∧
      lexemes.map Lexeme.offset = [0, 4, 6] ∧ Lexeme.Tiling 0 "'é'!=x".toList lexemes) ∧
      ofChars "'é' #".toList = .error (.syntaxError (.unexpectedCharacter '#') 5) ∧
      (⟨5⟩ : String.Pos.Raw).IsValid "'é' #" := by
  have hlexemes : Lexeme.ofText "'é'!=x".toList = .ok
      [⟨.string "é", ['\'', 'é', '\''], 0⟩, ⟨.mark .looseNe, ['!', '='], 4⟩,
        ⟨.ident "x", ['x'], 6⟩] := by cbv
  have herror : ofChars "'é' #".toList =
      .error (.syntaxError (.unexpectedCharacter '#') 5) := by cbv
  refine ⟨⟨_, hlexemes, rfl, ((ofChars_places _).1 _ hlexemes).1⟩, herror, ?_⟩
  obtain ⟨cause, offset, hsyntax, hvalid, -⟩ := (ofChars_places _).2 _ herror
  obtain ⟨-, rfl⟩ := ExprError.syntaxError.inj hsyntax
  exact hvalid

end Widgetry.Expr
