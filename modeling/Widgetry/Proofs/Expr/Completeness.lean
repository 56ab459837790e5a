import Widgetry.Proofs.Expr.Grammar

/-!
# What has a derivation is read

Lexemes whose tokens derive a phrase are read as its tree, if the budget is at least what the
derivation needs, and otherwise refused as too deep. The statement is about a phrase with other
lexemes after it, which must not go on with it. A chain is not closed by its derivation, so reading
its tokens is said to lead to the point where the loop of the chain goes on.
-/

namespace Widgetry.Expr

/-- A computation that needs `need` units of a budget comes to `r'` if they are there, and fails for
depth if they are not. -/
def Affords {α : Type} (budget need : Nat) (r r' : Except ExprError α) : Prop :=
  if need ≤ budget then r = r' else ∃ offset, r = .error (.syntaxError .tooDeep offset)

namespace Affords

variable {α β : Type} {budget need need' : Nat} {r r' r'' : Except ExprError α}

theorem refl (r : Except ExprError α) : Affords budget 0 r r := by
  rw [Affords, if_pos (Nat.zero_le _)]

theorem eq_of_le (h : Affords budget need r r') (hle : need ≤ budget) : r = r' := by
  rwa [Affords, if_pos hle] at h

theorem exists_of_lt (h : Affords budget need r r') (hlt : budget < need) :
    ∃ offset, r = .error (.syntaxError .tooDeep offset) := by
  rwa [Affords, if_neg (Nat.not_le.mpr hlt)] at h

theorem trans_eq (h : Affords budget need r r') (heq : r' = r'') : Affords budget need r r'' :=
  heq ▸ h

theorem trans (h : Affords budget need r r') (h' : Affords budget need' r' r'') :
    Affords budget (max need need') r r'' := by
  rw [Affords]
  split
  · rw [h.eq_of_le (by omega), h'.eq_of_le (by omega)]
  · by_cases hle : need ≤ budget
    · rw [h.eq_of_le hle]
      exact h'.exists_of_lt (by omega)
    · exact h.exists_of_lt (by omega)

theorem bind (h : Affords budget need r r') (f : α → Except ExprError β) :
    Affords budget need (r >>= f) (r' >>= f) := by
  by_cases hle : need ≤ budget
  · rw [Affords, if_pos hle, h.eq_of_le hle]
  · obtain ⟨offset, hr⟩ := h.exists_of_lt (by omega)
    rw [Affords, if_neg hle, hr]
    exact ⟨offset, rfl⟩

/-- A unit of the budget is held for a whole computation. -/
theorem succ (h : Affords budget need r r') : Affords (budget + 1) (need + 1) r r' := by
  simpa only [Affords, Nat.add_le_add_iff_right] using h

/-- Units are held that have been paid for. -/
theorem add {held : Nat} (h : Affords (budget - held) need r r') (hpos : 0 < need) :
    Affords budget (held + need) r r' := by
  have hiff : held + need ≤ budget ↔ need ≤ budget - held := by omega
  simpa only [Affords, hiff] using h

theorem failAt_zero {finish : Nat} {lexemes : List Lexeme} :
    Affords 0 (need + 1) (failAt finish lexemes .tooDeep) r :=
  ⟨_, rfl⟩

end Affords

theorem ok_bind {ε α β : Type} (a : α) (f : α → Except ε β) : (Except.ok a >>= f) = f a :=
  rfl

/-! ## What can follow -/

/-- Some lexemes do not begin with one of some marks. -/
def Stops (marks : List Mark) : List Lexeme → Prop
  | [] => True
  | lexeme :: _ => ∀ mark ∈ marks, lexeme.token ≠ .mark mark

theorem Stops.mono {marks marks' : List Mark} {lexemes : List Lexeme} (h : Stops marks lexemes)
    (hsub : marks' ⊆ marks) : Stops marks' lexemes := by
  cases lexemes with
  | nil => trivial
  | cons lexeme rest => exact fun mark hmark => h mark (hsub hmark)

/-- A lexeme with a mark that is none of some marks. -/
theorem stops_cons {marks : List Mark} {mark : Mark} {lexeme : Lexeme} {rest : List Lexeme}
    (hlexeme : lexeme.token = .mark mark) (hmark : mark ∉ marks) :
    Stops marks (lexeme :: rest) := by
  intro mark' hmark' h
  rw [hlexeme, Token.mark.injEq] at h
  exact hmark (h ▸ hmark')

/-- The marks that go on with an operand by an access or a call. -/
def linkMarks : List Mark := [.dot, .openBracket, .openParen]

/-- The marks that go on with a phrase of some binary levels. -/
def levelMarks (levels : List (List (Mark × BinaryOp))) : List Mark :=
  levels.flatten.map Prod.fst ++ linkMarks

/-- Each operator belongs to one level only, and to no access or call. This is what makes taking an
operator, as soon as there is one, the only way to read a chain. -/
def Separated (levels : List (List (Mark × BinaryOp))) : Prop :=
  (levelMarks levels).Nodup

theorem separated_operatorLevels : Separated operatorLevels := by
  unfold Separated
  decide

theorem levelMarks_cons (operators : List (Mark × BinaryOp))
    (levels : List (List (Mark × BinaryOp))) :
    levelMarks (operators :: levels) = operators.map Prod.fst ++ levelMarks levels := by
  simp [levelMarks]

theorem Separated.tail {operators : List (Mark × BinaryOp)}
    {levels : List (List (Mark × BinaryOp))} (h : Separated (operators :: levels)) :
    Separated levels := by
  rw [Separated, levelMarks_cons] at h
  exact (List.nodup_append.mp h).2.1

theorem Separated.not_mem {operators : List (Mark × BinaryOp)}
    {levels : List (List (Mark × BinaryOp))} (h : Separated (operators :: levels)) {mark : Mark}
    {op : BinaryOp} (hmem : (mark, op) ∈ operators) : mark ∉ levelMarks levels := by
  rw [Separated, levelMarks_cons] at h
  exact fun hmark =>
    (List.nodup_append.mp h).2.2 mark (List.mem_map_of_mem hmem) mark hmark rfl

theorem takeMark?_of_stops {marks : List Mark} {mark : Mark} {lexemes : List Lexeme}
    (h : Stops marks lexemes) (hmark : mark ∈ marks) : takeMark? mark lexemes = none := by
  unfold takeMark?
  split
  · rename_i m text offset rest
    rw [if_neg]
    rintro rfl
    exact h m hmark rfl
  · rfl

theorem takeMark?_cons {mark : Mark} {lexeme : Lexeme} (rest : List Lexeme)
    (h : lexeme.token = .mark mark) : takeMark? mark (lexeme :: rest) = some rest := by
  obtain ⟨_, text, offset⟩ := lexeme
  subst h
  simp [takeMark?]

theorem expect_cons {finish : Nat} {mark : Mark} {lexeme : Lexeme} (rest : List Lexeme)
    (h : lexeme.token = .mark mark) : expect finish mark (lexeme :: rest) = .ok rest := by
  rw [expect, takeMark?_cons rest h]

theorem takeOperator?_of_stops {operators : List (Mark × BinaryOp)} {lexemes : List Lexeme}
    (h : Stops (operators.map Prod.fst) lexemes) : takeOperator? operators lexemes = none := by
  unfold takeOperator?
  split
  · rename_i m text offset rest
    rw [Option.map_eq_none_iff, List.find?_eq_none]
    intro entry hentry hm
    exact h entry.1 (List.mem_map_of_mem hentry) (by simpa using (of_decide_eq_true hm).symm)
  · rfl

theorem takeOperator?_cons {operators : List (Mark × BinaryOp)} {mark : Mark} {op : BinaryOp}
    {lexeme : Lexeme} (rest : List Lexeme) (hnodup : (operators.map Prod.fst).Nodup)
    (hmem : (mark, op) ∈ operators) (h : lexeme.token = .mark mark) :
    takeOperator? operators (lexeme :: rest) = some (op, rest) := by
  obtain ⟨_, text, offset⟩ := lexeme
  subst h
  have hfind : operators.find? (fun entry => entry.1 = mark) = some (mark, op) := by
    induction operators with
    | nil => exact absurd hmem List.not_mem_nil
    | cons entry others ih =>
        rw [List.map_cons, List.nodup_cons] at hnodup
        rcases List.mem_cons.mp hmem with rfl | hmem
        · simp
        · have hne : entry.1 ≠ mark := by
            rintro rfl
            exact hnodup.1 (List.mem_map.mpr ⟨_, hmem, rfl⟩)
          rw [List.find?_cons_of_neg (by simpa using hne)]
          exact ih hnodup.2 hmem
  simp [takeOperator?, hfind]

theorem readLinks_of_stops {finish budget : Nat} {operand : Expr} {lexemes : List Lexeme}
    (h : Stops linkMarks lexemes) :
    readLinks finish budget operand lexemes = .ok (operand, lexemes) := by
  rw [readLinks]
  all_goals
    rintro text offset rest rfl
    exact h _ (by simp [linkMarks]) rfl

theorem readChain_of_stops {finish budget : Nat} {operators : List (Mark × BinaryOp)}
    {tighter : List (List (Mark × BinaryOp))} {left : Expr} {lexemes : List Lexeme}
    (h : Stops (operators.map Prod.fst) lexemes) :
    readChain finish budget operators tighter left lexemes = .ok (left, lexemes) := by
  rw [readChain, takeOperator?_of_stops h]

/-! ## Reading along a derivation -/

section

variable (finish : Nat)

/-- How reading goes on after the chain `e` of the loosest of some levels. -/
def continueBinary (budget : Nat) : List (List (Mark × BinaryOp)) → Expr → List Lexeme → Reading
  | [], e, rest => .ok (e, rest)
  | operators :: tighter, e, rest => readChain finish budget operators tighter e rest

/-- What it is for lexemes to be read as a phrase that needs `need` units, and whose chain holds
`links` of them. -/
def ReadAs (need links : Nat) (lexemes : List Lexeme) : Phrase → Prop
  | .conditional e => ∀ budget rest, Stops (.question :: levelMarks operatorLevels) rest →
      Affords budget need (readConditional finish budget (lexemes ++ rest)) (.ok (e, rest))
  | .binary levels e => Separated levels → ∀ budget rest, Stops (levelMarks levels.tail) rest →
      Affords budget need (readBinary finish budget levels (lexemes ++ rest))
        (continueBinary finish (budget - links) levels e rest)
  | .unary e => ∀ budget rest, Stops linkMarks rest →
      Affords budget need (readUnary finish budget (lexemes ++ rest)) (.ok (e, rest))
  | .linked e => ∀ budget rest,
      Affords budget need (readPostfix finish budget (lexemes ++ rest))
        (readLinks finish (budget - links) e rest)
  | .primary e => ∀ budget rest,
      Affords budget need (readPrimary finish budget (lexemes ++ rest)) (.ok (e, rest))
  | .arguments es => ∀ budget fuel close rest, close.token = .mark .closeParen →
      lexemes.length ≤ fuel →
      Affords budget need (readArguments finish budget fuel (lexemes ++ close :: rest))
        (.ok (es, rest))

end

section

variable {finish : Nat}

theorem continueBinary_of_stops {budget : Nat} {levels : List (List (Mark × BinaryOp))} {e : Expr}
    {rest : List Lexeme} (h : Stops (levelMarks levels) rest) :
    continueBinary finish budget levels e rest = .ok (e, rest) := by
  cases levels with
  | nil => rfl
  | cons operators tighter =>
      refine readChain_of_stops (h.mono ?_)
      rw [levelMarks_cons]
      exact List.subset_append_left _ _

/-- A phrase of some levels is closed by lexemes that go on with none of them. -/
theorem ReadAs.closed {need links : Nat} {lexemes : List Lexeme}
    {levels : List (List (Mark × BinaryOp))} {e : Expr}
    (h : ReadAs finish need links lexemes (.binary levels e)) (hsep : Separated levels)
    (budget : Nat) {rest : List Lexeme} (hrest : Stops (levelMarks levels) rest) :
    Affords budget need (readBinary finish budget levels (lexemes ++ rest)) (.ok (e, rest)) := by
  have hclosed : continueBinary finish (budget - links) levels e rest = .ok (e, rest) :=
    continueBinary_of_stops hrest
  rw [← hclosed]
  refine h hsep budget rest (hrest.mono ?_)
  cases levels with
  | nil => exact fun _ => id
  | cons operators tighter =>
      rw [levelMarks_cons]
      exact List.subset_append_right _ _

theorem readAs_operand {need links : Nat} {lexemes : List Lexeme} {e : Expr}
    (h : ReadAs finish need links lexemes (.binary operatorLevels e)) :
    ReadAs finish (need + 1) 0 lexemes (.conditional e) := by
  intro budget rest hrest
  cases budget with
  | zero =>
      rw [readConditional]
      exact .failAt_zero
  | succ budget =>
      rw [readConditional]
      have hmarks : Stops (levelMarks operatorLevels) rest :=
        hrest.mono (List.subset_cons_self _ _)
      refine (((h.closed separated_operatorLevels budget hmarks).bind _).trans_eq ?_).succ
      rw [ok_bind]
      dsimp only
      rw [takeMark?_of_stops hrest (List.mem_cons_self ..)]

theorem readAs_choice {cneed clinks yneed ylinks nneed nlinks : Nat}
    {cs ys ns : List Lexeme} {question colon : Lexeme} {c yes no : Expr}
    (hquestion : question.token = .mark .question) (hcolon : colon.token = .mark .colon)
    (hc : ReadAs finish cneed clinks cs (.binary operatorLevels c))
    (hy : ReadAs finish yneed ylinks ys (.conditional yes))
    (hn : ReadAs finish nneed nlinks ns (.conditional no)) :
    ReadAs finish (max cneed (max yneed nneed) + 1) 0 (cs ++ question :: (ys ++ colon :: ns))
      (.conditional (.conditional c yes no)) := by
  intro budget rest hrest
  have hassoc : cs ++ question :: (ys ++ colon :: ns) ++ rest =
      cs ++ question :: (ys ++ colon :: (ns ++ rest)) := by simp
  rw [hassoc]
  cases budget with
  | zero =>
      rw [readConditional]
      exact .failAt_zero
  | succ budget =>
      rw [readConditional]
      have hstops : Stops (levelMarks operatorLevels) (question :: (ys ++ colon :: (ns ++ rest))) :=
        stops_cons hquestion (by decide)
      refine (((hc.closed separated_operatorLevels budget hstops).bind _).trans ?_).succ
      rw [ok_bind]
      dsimp only
      rw [takeMark?_cons _ hquestion]
      refine ((hy budget _ (stops_cons hcolon (by decide))).bind _).trans ?_
      rw [ok_bind]
      dsimp only
      rw [expect_cons _ hcolon, ok_bind]
      exact (hn budget rest hrest).bind _

theorem readAs_single {need links : Nat} {lexemes : List Lexeme} {e : Expr}
    (h : ReadAs finish need links lexemes (.unary e)) :
    ReadAs finish need 0 lexemes (.binary [] e) := by
  intro _ budget rest hrest
  rw [readBinary]
  exact h budget rest hrest

theorem readAs_tighter {need links : Nat} {lexemes : List Lexeme} {e : Expr}
    {operators : List (Mark × BinaryOp)} {levels : List (List (Mark × BinaryOp))}
    (h : ReadAs finish need links lexemes (.binary levels e)) :
    ReadAs finish need 0 lexemes (.binary (operators :: levels) e) := by
  intro hsep budget rest hrest
  rw [readBinary]
  exact (h.closed hsep.tail budget hrest).bind _

theorem readAs_chain {lneed links rneed rlinks : Nat} {ls rs : List Lexeme} {lexeme : Lexeme}
    {left right : Expr} {operators : List (Mark × BinaryOp)}
    {levels : List (List (Mark × BinaryOp))} {mark : Mark} {op : BinaryOp}
    (hl : ReadAs finish lneed links ls (.binary (operators :: levels) left))
    (hmem : (mark, op) ∈ operators) (hlexeme : lexeme.token = .mark mark)
    (hr : ReadAs finish rneed rlinks rs (.binary levels right)) :
    ReadAs finish (max lneed (links + (rneed + 1))) (links + 1) (ls ++ lexeme :: rs)
      (.binary (operators :: levels) (.binary op left right)) := by
  intro hsep budget rest hrest
  have hassoc : ls ++ lexeme :: rs ++ rest = ls ++ lexeme :: (rs ++ rest) := by simp
  rw [hassoc]
  have hstops : Stops (levelMarks levels) (lexeme :: (rs ++ rest)) :=
    stops_cons hlexeme (hsep.not_mem hmem)
  have hnodup : (operators.map Prod.fst).Nodup := by
    rw [Separated, levelMarks_cons] at hsep
    exact (List.nodup_append.mp hsep).1
  refine (hl hsep budget _ hstops).trans ?_
  -- The units of the earlier links are held; the loop goes on with what they leave.
  refine Affords.add ?_ (Nat.succ_pos _)
  rw [← Nat.sub_sub]
  generalize budget - links = remaining
  rw [continueBinary, readChain, takeOperator?_cons _ hnodup hmem hlexeme]
  cases remaining with
  | zero => exact .failAt_zero
  | succ remaining => exact ((hr.closed hsep.tail remaining hrest).bind _).succ

theorem readAs_plain {need links : Nat} {lexemes : List Lexeme} {e : Expr}
    (h : ReadAs finish need links lexemes (.linked e))
    (hbegins : (Phrase.linked e).Begins (lexemes.map Lexeme.token)) :
    ReadAs finish need 0 lexemes (.unary e) := by
  intro budget rest hrest
  have hunary : readUnary finish budget (lexemes ++ rest) =
      readPostfix finish budget (lexemes ++ rest) := by
    cases lexemes with
    | nil => exact hbegins.elim
    | cons lexeme lexemes =>
        obtain ⟨token, text, offset⟩ := lexeme
        rw [List.cons_append]
        cases token with
        | mark mark =>
            obtain rfl : mark = .openParen := hbegins mark rfl
            rw [readUnary, show prefixOp? .openParen = none from rfl]
        | number x => rw [readUnary]; simp
        | string s => rw [readUnary]; simp
        | ident name => rw [readUnary]; simp
  rw [hunary]
  exact (h budget rest).trans_eq (readLinks_of_stops hrest)

theorem readAs_prefixed {need links : Nat} {lexemes : List Lexeme} {lexeme : Lexeme} {e : Expr}
    {mark : Mark} {op : UnaryOp} (hop : prefixOp? mark = some op)
    (hlexeme : lexeme.token = .mark mark) (h : ReadAs finish need links lexemes (.unary e)) :
    ReadAs finish (need + 1) 0 (lexeme :: lexemes) (.unary (.unary op e)) := by
  obtain ⟨_, text, offset⟩ := lexeme
  subst hlexeme
  intro budget rest hrest
  rw [List.cons_append, readUnary, hop]
  cases budget with
  | zero => exact .failAt_zero
  | succ budget => exact ((h budget rest hrest).bind _).succ

theorem readAs_unlinked {need links : Nat} {lexemes : List Lexeme} {e : Expr}
    (h : ReadAs finish need links lexemes (.primary e)) :
    ReadAs finish need 0 lexemes (.linked e) := by
  intro budget rest
  rw [readPostfix]
  exact (h budget rest).bind _

theorem readAs_member {need links : Nat} {lexemes : List Lexeme} {dot ident : Lexeme} {e : Expr}
    {name : String} (hdot : dot.token = .mark .dot) (hident : ident.token = .ident name)
    (h : ReadAs finish need links lexemes (.linked e)) :
    ReadAs finish (max need (links + 1)) (links + 1) (lexemes ++ [dot, ident])
      (.linked (.member e name)) := by
  obtain ⟨_, text, offset⟩ := dot
  obtain ⟨_, text', offset'⟩ := ident
  subst hdot hident
  intro budget rest
  rw [List.append_assoc]
  refine (h budget _).trans (Affords.add ?_ Nat.one_pos)
  rw [← Nat.sub_sub]
  generalize budget - links = remaining
  rw [List.cons_append, List.cons_append, List.nil_append]
  cases remaining with
  | zero =>
      rw [readLinks]
      exact .failAt_zero
  | succ remaining =>
      rw [readLinks]
      exact (Affords.refl _).succ

theorem readAs_index {need links pneed plinks : Nat} {lexemes ps : List Lexeme}
    {bracket close : Lexeme} {e position : Expr} (hbracket : bracket.token = .mark .openBracket)
    (hclose : close.token = .mark .closeBracket)
    (h : ReadAs finish need links lexemes (.linked e))
    (hp : ReadAs finish pneed plinks ps (.conditional position)) :
    ReadAs finish (max need (links + max pneed 1)) (links + 1)
      (lexemes ++ bracket :: (ps ++ [close])) (.linked (.index e position)) := by
  obtain ⟨_, text, offset⟩ := bracket
  subst hbracket
  intro budget rest
  rw [List.append_assoc, List.cons_append, List.append_assoc, List.singleton_append]
  refine (h budget _).trans (Affords.add ?_ (by omega))
  rw [← Nat.sub_sub]
  generalize budget - links = remaining
  rw [readLinks]
  refine ((hp remaining _ (stops_cons hclose (by decide))).bind _).trans ?_
  rw [ok_bind]
  dsimp only
  rw [expect_cons _ hclose, ok_bind]
  cases remaining with
  | zero => exact .failAt_zero
  | succ remaining => exact (Affords.refl _).succ

theorem readAs_call {need links aneed alinks : Nat} {lexemes as : List Lexeme}
    {parenthesis close : Lexeme} {name : String} {args : List Expr}
    (hparenthesis : parenthesis.token = .mark .openParen)
    (hclose : close.token = .mark .closeParen)
    (h : ReadAs finish need links lexemes (.linked (.ident name)))
    (ha : ReadAs finish aneed alinks as (.arguments args)) :
    ReadAs finish (max need (links + max aneed 1)) (links + 1)
      (lexemes ++ parenthesis :: (as ++ [close])) (.linked (.call name args)) := by
  obtain ⟨_, text, offset⟩ := parenthesis
  subst hparenthesis
  intro budget rest
  rw [List.append_assoc, List.cons_append, List.append_assoc, List.singleton_append]
  refine (h budget _).trans (Affords.add ?_ (by omega))
  rw [← Nat.sub_sub]
  generalize budget - links = remaining
  rw [readLinks]
  have hfuel : as.length ≤ (as ++ close :: rest).length := by simp
  refine ((ha remaining _ close rest hclose hfuel).bind _).trans ?_
  rw [ok_bind]
  cases remaining with
  | zero => exact .failAt_zero
  | succ remaining => exact (Affords.refl _).succ

theorem readAs_parenthesized {need links : Nat} {lexemes : List Lexeme}
    {parenthesis close : Lexeme} {e : Expr} (hparenthesis : parenthesis.token = .mark .openParen)
    (hclose : close.token = .mark .closeParen)
    (h : ReadAs finish need links lexemes (.conditional e)) :
    ReadAs finish need 0 (parenthesis :: (lexemes ++ [close])) (.primary e) := by
  obtain ⟨_, text, offset⟩ := parenthesis
  subst hparenthesis
  intro budget rest
  rw [List.cons_append, List.append_assoc, List.singleton_append, readPrimary]
  refine ((h budget _ (stops_cons hclose (by decide))).bind _).trans_eq ?_
  rw [ok_bind]
  dsimp only
  rw [expect_cons _ hclose, ok_bind]

theorem readAs_noArgument : ReadAs finish 0 0 [] (.arguments []) := by
  intro budget fuel close rest hclose hfuel
  rw [List.nil_append, readArguments, takeMark?_cons rest hclose]
  exact .refl _

/-- Arguments that begin are not closed at once. -/
theorem readArguments_of_begins {budget fuel : Nat} {lexemes rest : List Lexeme} {p : Phrase}
    (h : p.Begins (lexemes.map Lexeme.token)) :
    readArguments finish budget fuel (lexemes ++ rest) =
      readMoreArguments finish budget fuel (lexemes ++ rest) := by
  have hclose : ¬ p.CanBegin .closeParen := by
    cases p <;> simp [Phrase.CanBegin, prefixOp?]
  cases lexemes with
  | nil => exact h.elim
  | cons lexeme lexemes =>
      have hstops : Stops [.closeParen] (lexeme :: lexemes ++ rest) := by
        intro mark hmark hlexeme
        obtain rfl := List.mem_singleton.mp hmark
        exact hclose (h _ hlexeme)
      rw [readArguments, takeMark?_of_stops hstops (List.mem_singleton_self _)]

theorem readAs_lastArgument {need links : Nat} {lexemes : List Lexeme} {e : Expr}
    (h : ReadAs finish need links lexemes (.conditional e))
    (hbegins : (Phrase.conditional e).Begins (lexemes.map Lexeme.token)) :
    ReadAs finish need 0 lexemes (.arguments [e]) := by
  intro budget fuel close rest hclose hfuel
  rw [readArguments_of_begins hbegins, readMoreArguments]
  refine ((h budget _ (stops_cons hclose (by decide))).bind _).trans_eq ?_
  rw [ok_bind]
  dsimp only
  rw [takeMark?_cons rest hclose]

theorem readAs_moreArguments {need links aneed alinks : Nat} {lexemes as : List Lexeme}
    {comma : Lexeme} {e e' : Expr} {es : List Expr} (hcomma : comma.token = .mark .comma)
    (h : ReadAs finish need links lexemes (.conditional e))
    (hbegins : (Phrase.conditional e).Begins (lexemes.map Lexeme.token))
    (ha : ReadAs finish aneed alinks as (.arguments (e' :: es)))
    (habegins : (Phrase.arguments (e' :: es)).Begins (as.map Lexeme.token)) :
    ReadAs finish (max need aneed) 0 (lexemes ++ comma :: as) (.arguments (e :: e' :: es)) := by
  intro budget fuel close rest hclose hfuel
  rw [List.append_assoc, List.cons_append, readArguments_of_begins hbegins, readMoreArguments]
  refine ((h budget _ (stops_cons hcomma (by decide))).bind _).trans ?_
  rw [ok_bind]
  dsimp only
  have hstops : Stops [.closeParen] (comma :: (as ++ close :: rest)) :=
    stops_cons hcomma (by decide)
  rw [takeMark?_of_stops hstops (List.mem_singleton_self _)]
  dsimp only
  rw [expect_cons _ hcomma, ok_bind]
  rw [List.length_append, List.length_cons] at hfuel
  obtain ⟨fuel, rfl⟩ : ∃ n, fuel = n + 1 := ⟨fuel - 1, by omega⟩
  have hread := ha budget fuel close rest hclose (by omega)
  rw [readArguments_of_begins habegins] at hread
  exact hread.bind _

/-- A single lexeme that is read whatever the budget is. -/
theorem readAs_singleton {lexemes : List Lexeme} {token : Token} {e : Expr}
    (htokens : lexemes.map Lexeme.token = [token])
    (h : ∀ budget text offset rest,
      readPrimary finish budget (⟨token, text, offset⟩ :: rest) = .ok (e, rest)) :
    ReadAs finish 0 0 lexemes (.primary e) := by
  obtain ⟨⟨_, text, offset⟩, rfl, rfl⟩ := List.map_eq_singleton_iff.mp htokens
  intro budget rest
  rw [List.singleton_append, h]
  exact .refl _

end

/-- **Completeness of reading.** Lexemes whose tokens have a derivation are read along it. -/
theorem Derivation.readAs (finish : Nat) {p : Phrase} {ts : List Token} (d : Derivation p ts) :
    ∀ lexemes : List Lexeme, lexemes.map Lexeme.token = ts →
      ReadAs finish d.need d.links lexemes p := by
  induction d with
  | operand d ih => exact fun lexemes h => readAs_operand (ih lexemes h)
  | choice condition y n ihc ihy ihn =>
      intro lexemes h
      obtain ⟨cs, tail, rfl, hcs, htail⟩ := List.map_eq_append_iff.mp h
      obtain ⟨question, tail', rfl, hquestion, htail'⟩ := List.map_eq_cons_iff.mp htail
      obtain ⟨ys, tail'', rfl, hys, htail''⟩ := List.map_eq_append_iff.mp htail'
      obtain ⟨colon, ns, rfl, hcolon, hns⟩ := List.map_eq_cons_iff.mp htail''
      exact readAs_choice hquestion hcolon (ihc cs hcs) (ihy ys hys) (ihn ns hns)
  | single d ih => exact fun lexemes h => readAs_single (ih lexemes h)
  | tighter d ih => exact fun lexemes h => readAs_tighter (ih lexemes h)
  | chain l hmem r ihl ihr =>
      intro lexemes h
      obtain ⟨ls, tail, rfl, hls, htail⟩ := List.map_eq_append_iff.mp h
      obtain ⟨lexeme, rs, rfl, hlexeme, hrs⟩ := List.map_eq_cons_iff.mp htail
      exact readAs_chain (ihl ls hls) hmem hlexeme (ihr rs hrs)
  | plain d ih =>
      intro lexemes h
      exact readAs_plain (ih lexemes h) (h ▸ d.begins (by simp))
  | prefixed hop d ih =>
      intro lexemes h
      obtain ⟨lexeme, rest, rfl, hlexeme, hrest⟩ := List.map_eq_cons_iff.mp h
      exact readAs_prefixed hop hlexeme (ih rest hrest)
  | unlinked d ih => exact fun lexemes h => readAs_unlinked (ih lexemes h)
  | member d name ih =>
      intro lexemes h
      obtain ⟨ls, tail, rfl, hls, htail⟩ := List.map_eq_append_iff.mp h
      obtain ⟨dot, tail', rfl, hdot, htail'⟩ := List.map_eq_cons_iff.mp htail
      obtain ⟨ident, rfl, hident⟩ := List.map_eq_singleton_iff.mp htail'
      exact readAs_member hdot hident (ih ls hls)
  | index d p ihd ihp =>
      intro lexemes h
      obtain ⟨ls, tail, rfl, hls, htail⟩ := List.map_eq_append_iff.mp h
      obtain ⟨bracket, tail', rfl, hbracket, htail'⟩ := List.map_eq_cons_iff.mp htail
      obtain ⟨ps, tail'', rfl, hps, htail''⟩ := List.map_eq_append_iff.mp htail'
      obtain ⟨close, rfl, hclose⟩ := List.map_eq_singleton_iff.mp htail''
      exact readAs_index hbracket hclose (ihd ls hls) (ihp ps hps)
  | call d a ihd iha =>
      intro lexemes h
      obtain ⟨ls, tail, rfl, hls, htail⟩ := List.map_eq_append_iff.mp h
      obtain ⟨parenthesis, tail', rfl, hparenthesis, htail'⟩ := List.map_eq_cons_iff.mp htail
      obtain ⟨as, tail'', rfl, has, htail''⟩ := List.map_eq_append_iff.mp htail'
      obtain ⟨close, rfl, hclose⟩ := List.map_eq_singleton_iff.mp htail''
      exact readAs_call hparenthesis hclose (ihd ls hls) (iha as has)
  | number x =>
      exact fun lexemes h => readAs_singleton h fun budget text offset rest => by rw [readPrimary]
  | string s =>
      exact fun lexemes h => readAs_singleton h fun budget text offset rest => by rw [readPrimary]
  | name name =>
      exact fun lexemes h => readAs_singleton h fun budget text offset rest => by rw [readPrimary]
  | parenthesized d ih =>
      intro lexemes h
      obtain ⟨parenthesis, tail, rfl, hparenthesis, htail⟩ := List.map_eq_cons_iff.mp h
      obtain ⟨ls, tail', rfl, hls, htail'⟩ := List.map_eq_append_iff.mp htail
      obtain ⟨close, rfl, hclose⟩ := List.map_eq_singleton_iff.mp htail'
      exact readAs_parenthesized hparenthesis hclose (ih ls hls)
  | noArgument =>
      intro lexemes h
      rw [List.map_eq_nil_iff.mp h]
      exact readAs_noArgument
  | lastArgument d ih =>
      intro lexemes h
      exact readAs_lastArgument (ih lexemes h) (h ▸ d.begins (by simp))
  | moreArguments d ds ihd ihds =>
      intro lexemes h
      obtain ⟨ts, tail, rfl, hts, htail⟩ := List.map_eq_append_iff.mp h
      obtain ⟨comma, us, rfl, hcomma, hus⟩ := List.map_eq_cons_iff.mp htail
      exact readAs_moreArguments hcomma (ihd ts hts) (hts ▸ d.begins (by simp)) (ihds us hus)
        (hus ▸ ds.begins (by simp))

end Widgetry.Expr
