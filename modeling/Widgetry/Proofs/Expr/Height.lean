import Mathlib
import Widgetry.Proofs.Expr.Reading
import Widgetry.Proofs.Expr.Spelling

/-!
# How high the tree of an expression can be

The budget of the reader is held by whatever is being read, and given back at its end. So a chain
that stands on top of a finished operand starts from the full budget again, and the tree can become
much higher than the budget. `deepest` is the exact height that can be reached: each unit more
allows a choice around what the unit before allowed, in parentheses, with a full chain of accesses
and of each of the six levels of operators on top. What the budget does bound are the steps to
operands that are read after their operator; the steps to operands in front of it are free.
-/

namespace Widgetry.Expr

/-- The greatest height of a tree that is read within a budget. -/
def deepest : Nat → Nat
  | 0 => 0
  | 1 => 0
  | budget + 2 => deepest (budget + 1) + 7 * (budget + 1) + 1

theorem deepest_succ {budget : Nat} (h : 0 < budget) :
    deepest (budget + 1) = deepest budget + 7 * budget + 1 := by
  obtain ⟨n, rfl⟩ : ∃ n, budget = n + 1 := ⟨budget - 1, by omega⟩
  rfl

theorem deepest_le_succ (budget : Nat) : deepest budget ≤ deepest (budget + 1) := by
  cases budget with
  | zero => exact Nat.le_refl _
  | succ n =>
      have hdeepest : deepest (n + 1 + 1) = _ := deepest_succ (Nat.succ_pos n)
      omega

/-! ## No tree is higher -/

/-- The height that a phrase can have within a budget of which its chain holds some units. -/
def Phrase.IsLow (budget links : Nat) : Phrase → Prop
  | .conditional e => e.height ≤ deepest budget
  | .binary levels e => e.height ≤ deepest budget + budget + levels.tail.length * budget + links
  | .unary e => e.height ≤ deepest budget + budget
  | .linked e => e.height ≤ deepest budget + links
  | .primary e => e.height ≤ deepest budget
  | .arguments es => heightAbove es ≤ deepest budget + 1

theorem height_ofName (name : String) : (ofName name).height = 0 := by
  unfold ofName
  split <;> rfl

/-- A chain gives its units back, so that what is said of its level no longer counts them. -/
theorem Phrase.IsLow.height_le {levels : List (List (Mark × BinaryOp))} {e : Expr}
    {ts : List Token} {d : Derivation (.binary levels e) ts} {budget : Nat}
    (h : (Phrase.binary levels e).IsLow budget d.links) (hneed : d.need ≤ budget) :
    e.height ≤ deepest budget + budget + levels.length * budget := by
  have hlinks := d.links_le_need
  simp only [Phrase.IsLow] at h
  cases levels with
  | nil =>
      have hnone : d.links = 0 := by cases d; rfl
      simp only [List.tail_nil, List.length_nil] at h ⊢
      omega
  | cons operators levels =>
      simp only [List.tail_cons, List.length_cons, Nat.succ_mul] at h ⊢
      omega

/-- No tree is higher than the budget that its derivation needs can make it. -/
theorem Derivation.isLow {p : Phrase} {ts : List Token} (d : Derivation p ts) :
    ∀ budget, d.need ≤ budget → p.IsLow budget d.links := by
  induction d with
  | operand d ih =>
      intro budget h
      simp only [Derivation.need] at h
      obtain ⟨n, rfl⟩ : ∃ n, budget = n + 1 := ⟨budget - 1, by omega⟩
      have hlow : _ ≤ deepest n + n + 6 * n := (ih n (by omega)).height_le (by omega)
      simp only [Phrase.IsLow]
      cases n with
      | zero =>
          have hdeepest : deepest (0 + 1) = deepest 0 := rfl
          omega
      | succ n =>
          have hdeepest : deepest (n + 1 + 1) = _ := deepest_succ (Nat.succ_pos n)
          omega
  | choice condition y n ihc ihy ihn =>
      intro budget h
      simp only [Derivation.need] at h
      have hpos := y.need_pos
      obtain ⟨m, rfl⟩ : ∃ m, budget = m + 1 := ⟨budget - 1, by omega⟩
      have hc : _ ≤ deepest m + m + 6 * m := (ihc m (by omega)).height_le (by omega)
      have hy := ihy m (by omega)
      have hn := ihn m (by omega)
      have hdeepest : deepest (m + 1) = _ := deepest_succ (by omega)
      simp only [Phrase.IsLow, height] at hy hn ⊢
      omega
  | single d ih =>
      intro budget h
      have hlow := ih budget h
      simp only [Phrase.IsLow, List.tail_nil, List.length_nil, links] at hlow ⊢
      omega
  | tighter d ih =>
      intro budget h
      simp only [Derivation.need] at h
      have hlow := (ih budget h).height_le h
      simp only [Phrase.IsLow, List.tail_cons, links]
      omega
  | @chain operators levels ls rs left right mark op l hmem r ihl ihr =>
      intro budget h
      simp only [Derivation.need] at h
      obtain ⟨n, rfl⟩ : ∃ n, budget = n + 1 := ⟨budget - 1, by omega⟩
      have hl := ihl (n + 1) (by omega)
      have hr := (ihr n (by omega)).height_le (by omega)
      have hdeepest := deepest_le_succ n
      have hlevels : levels.length * n ≤ levels.length * (n + 1) :=
        Nat.mul_le_mul_left _ (Nat.le_succ n)
      simp only [Phrase.IsLow, List.tail_cons, height, links] at hl ⊢
      omega
  | plain d ih =>
      intro budget h
      have hlow := ih budget h
      have hlinks := d.links_le_need
      simp only [Derivation.need] at h
      simp only [Phrase.IsLow] at hlow ⊢
      omega
  | prefixed hop d ih =>
      intro budget h
      simp only [Derivation.need] at h
      obtain ⟨n, rfl⟩ : ∃ n, budget = n + 1 := ⟨budget - 1, by omega⟩
      have hlow := ih n (by omega)
      have hdeepest := deepest_le_succ n
      simp only [Phrase.IsLow, height] at hlow ⊢
      omega
  | unlinked d ih => exact fun budget h => ih budget h
  | member d name ih =>
      intro budget h
      simp only [Derivation.need] at h
      have hlow := ih budget (by omega)
      simp only [Phrase.IsLow, height, links] at hlow ⊢
      omega
  | index d p ihd ihp =>
      intro budget h
      simp only [Derivation.need] at h
      have hlow := ihd budget (by omega)
      have hp := ihp budget (by omega)
      simp only [Phrase.IsLow, height, links] at hlow hp ⊢
      omega
  | call d a ihd iha =>
      intro budget h
      simp only [Derivation.need] at h
      have ha := iha budget (by omega)
      simp only [Phrase.IsLow, height, links] at ha ⊢
      omega
  | number x => exact fun budget h => Nat.zero_le _
  | string s => exact fun budget h => Nat.zero_le _
  | name name =>
      intro budget h
      simp only [Phrase.IsLow, height_ofName]
      exact Nat.zero_le _
  | parenthesized d ih => exact fun budget h => ih budget h
  | noArgument => exact fun budget h => Nat.zero_le _
  | lastArgument d ih =>
      intro budget h
      have hlow := ih budget h
      simp only [Phrase.IsLow, heightAbove] at hlow ⊢
      omega
  | moreArguments d ds ihd ihds =>
      intro budget h
      simp only [Derivation.need] at h
      have hlow := ihd budget (by omega)
      have hlows := ihds budget (by omega)
      simp only [Phrase.IsLow, heightAbove] at hlow hlows ⊢
      omega

/-! ## A tree that is so high -/

/-- There are plain tokens from which a phrase whose tree has the height `h` is derived within a
budget, by a derivation with some links. -/
def Grows (p : Expr → Phrase) (budget links h : Nat) : Prop :=
  ∃ e ts, (∀ token ∈ ts, token.IsPlain) ∧
    ∃ d : Derivation (p e) ts, d.links = links ∧ d.need ≤ budget ∧ e.height = h

/-- The name `a`, at any level. -/
theorem exists_derivation_a (levels : List (List (Mark × BinaryOp))) :
    ∃ d : Derivation (.binary levels (.ident "a")) [.ident "a"], d.need = 0 :=
  Derivation.exists_of_linked (.unlinked (.name "a")) levels

/-- A link that can be put on top of every chain can be put there as often as there are units. -/
theorem Grows.chain {p : Expr → Phrase} {budget h : Nat} (hbase : Grows p budget 0 h)
    (more : List Token) (hmore : ∀ token ∈ more, token.IsPlain)
    (hlink : ∀ e ts (l : Derivation (p e) ts), ∃ e',
      ∃ d : Derivation (p e') (ts ++ more),
        d.links = l.links + 1 ∧ d.need ≤ max l.need (l.links + 1) ∧ e'.height = e.height + 1) :
    ∀ n ≤ budget, Grows p budget n (h + n) := by
  intro n
  induction n with
  | zero => exact fun _ => hbase
  | succ n ih =>
      intro hn
      obtain ⟨e, ts, hts, l, hlinks, hneed, hheight⟩ := ih (by omega)
      obtain ⟨e', d, hdlinks, hdneed, hdheight⟩ := hlink e ts l
      refine ⟨e', ts ++ more, ?_, d, by omega, by omega, by omega⟩
      intro token htoken
      exact (List.mem_append.mp htoken).elim (hts token) (hmore token)

theorem Grows.parenthesized {budget links h : Nat} (hc : Grows .conditional budget links h) :
    Grows .primary budget 0 h := by
  obtain ⟨e, ts, hts, d, -, hneed, hheight⟩ := hc
  refine ⟨e, _, ?_, .parenthesized d, rfl, hneed, hheight⟩
  intro token htoken
  simp only [List.mem_cons, List.mem_append, List.not_mem_nil, or_false] at htoken
  rcases htoken with rfl | htoken | rfl
  · exact Token.isPlain_mark _
  · exact hts token htoken
  · exact Token.isPlain_mark _

theorem Grows.linked {budget links h : Nat} (hp : Grows .primary budget links h) :
    Grows .linked budget budget (h + budget) := by
  obtain ⟨e, ts, hts, d, -, hneed, hheight⟩ := hp
  have hbase : Grows .linked budget 0 h := ⟨e, ts, hts, .unlinked d, rfl, hneed, hheight⟩
  refine hbase.chain [.mark .dot, .ident "a"] ?_ ?_ budget (Nat.le_refl _)
  · intro token htoken
    simp only [List.mem_cons, List.not_mem_nil, or_false] at htoken
    rcases htoken with rfl | rfl
    · exact Token.isPlain_mark _
    · exact Token.isPlain_a
  · intro e ts l
    exact ⟨.member e "a", .member l "a", rfl, Nat.le_refl _, rfl⟩

/-- One full chain on each of some levels, the tightest at the bottom. -/
theorem Grows.binary {budget links h : Nat} (hl : Grows .linked budget links h) :
    ∀ levels : List (List (Mark × BinaryOp)), [] ∉ levels →
      ∃ links', Grows (.binary levels) budget links' (h + levels.length * budget) := by
  intro levels
  induction levels with
  | nil =>
      intro _
      obtain ⟨e, ts, hts, d, -, hneed, hheight⟩ := hl
      exact ⟨0, e, ts, hts, .single (.plain d), rfl, hneed, by simpa using hheight⟩
  | cons operators levels ih =>
      intro hne
      rw [List.mem_cons, not_or] at hne
      obtain ⟨links', e, ts, hts, d, -, hneed, hheight⟩ := ih hne.2
      obtain ⟨⟨mark, op⟩, hmem⟩ := List.exists_mem_of_ne_nil operators (Ne.symm hne.1)
      have hbase : Grows (.binary (operators :: levels)) budget 0 (h + levels.length * budget) :=
        ⟨e, ts, hts, .tighter d, rfl, hneed, hheight⟩
      obtain ⟨a, ha⟩ := exists_derivation_a levels
      refine ⟨budget, ?_⟩
      rw [List.length_cons, Nat.succ_mul, ← Nat.add_assoc]
      refine hbase.chain [.mark mark, .ident "a"] ?_ ?_ budget (Nat.le_refl _)
      · intro token htoken
        simp only [List.mem_cons, List.not_mem_nil, or_false] at htoken
        rcases htoken with rfl | rfl
        · exact Token.isPlain_mark _
        · exact Token.isPlain_a
      · intro e ts l
        refine ⟨.binary op e (.ident "a"), .chain l hmem a, rfl, ?_, ?_⟩
        · simp only [Derivation.need]
          omega
        · simp only [height]
          omega

/-- A choice on top of everything takes the next unit. -/
theorem Grows.choice {budget links h : Nat} (hb : Grows (.binary operatorLevels) budget links h)
    (hpos : 0 < budget) : Grows .conditional (budget + 1) 0 (h + 1) := by
  obtain ⟨e, ts, hts, d, -, hneed, hheight⟩ := hb
  obtain ⟨a, ha⟩ := exists_derivation_a operatorLevels
  refine ⟨_, _, ?_, .choice d (.operand a) (.operand a), rfl, ?_, ?_⟩
  · intro token htoken
    simp only [List.mem_append, List.mem_cons, List.not_mem_nil, or_false] at htoken
    rcases htoken with htoken | rfl | rfl | rfl | rfl
    · exact hts token htoken
    · exact Token.isPlain_mark _
    · exact Token.isPlain_a
    · exact Token.isPlain_mark _
    · exact Token.isPlain_a
  · simp only [Derivation.need]
    omega
  · simp only [height]
    omega

theorem grows_deepest (budget : Nat) :
    Grows .conditional (budget + 1) 0 (deepest (budget + 1)) := by
  induction budget with
  | zero =>
      obtain ⟨a, ha⟩ := exists_derivation_a operatorLevels
      refine ⟨.ident "a", _, ?_, .operand a, rfl, ?_, rfl⟩
      · intro token htoken
        obtain rfl := List.mem_singleton.mp htoken
        exact Token.isPlain_a
      · simp only [Derivation.need]
        omega
  | succ n ih =>
      obtain ⟨links, hbinary⟩ := ih.parenthesized.linked.binary operatorLevels (by decide)
      have hchoice := hbinary.choice (Nat.succ_pos n)
      have hheight : deepest (n + 1 + 1) =
          deepest (n + 1) + (n + 1) + operatorLevels.length * (n + 1) + 1 := by
        have hlength : operatorLevels.length = 6 := rfl
        have hdeepest : deepest (n + 1 + 1) = _ := deepest_succ (Nat.succ_pos n)
        rw [hlength]
        omega
      rw [hheight]
      exact hchoice

/-! ## What the budget bounds -/

/-- A way down a tree, with the number of its steps to operands in front of their operator, and of
those to operands behind it. What is in front has been read before the operator. -/
inductive WayDown : Expr → Nat → Nat → Prop where
  | here (e : Expr) : WayDown e 0 0
  | object {object : Expr} {front behind : Nat} (name : String)
      (w : WayDown object front behind) : WayDown (.member object name) (front + 1) behind
  | indexed {object : Expr} {front behind : Nat} (position : Expr)
      (w : WayDown object front behind) : WayDown (.index object position) (front + 1) behind
  | position {position : Expr} {front behind : Nat} (object : Expr)
      (w : WayDown position front behind) : WayDown (.index object position) front (behind + 1)
  | argument {e : Expr} {es : List Expr} {front behind : Nat} (name : String) (h : e ∈ es)
      (w : WayDown e front behind) : WayDown (.call name es) front (behind + 1)
  | operand {e : Expr} {front behind : Nat} (op : UnaryOp) (w : WayDown e front behind) :
      WayDown (.unary op e) front (behind + 1)
  | left {left : Expr} {front behind : Nat} (op : BinaryOp) (right : Expr)
      (w : WayDown left front behind) : WayDown (.binary op left right) (front + 1) behind
  | right {right : Expr} {front behind : Nat} (op : BinaryOp) (left : Expr)
      (w : WayDown right front behind) : WayDown (.binary op left right) front (behind + 1)
  | condition {c : Expr} {front behind : Nat} (yes no : Expr) (w : WayDown c front behind) :
      WayDown (.conditional c yes no) (front + 1) behind
  | yes {yes : Expr} {front behind : Nat} (c no : Expr) (w : WayDown yes front behind) :
      WayDown (.conditional c yes no) front (behind + 1)
  | no {no : Expr} {front behind : Nat} (c yes : Expr) (w : WayDown no front behind) :
      WayDown (.conditional c yes no) front (behind + 1)

theorem height_lt_heightAbove {e : Expr} {es : List Expr} (h : e ∈ es) :
    e.height < heightAbove es := by
  induction es with
  | nil => cases h
  | cons e' rest ih =>
      rw [heightAbove]
      rcases List.mem_cons.1 h with rfl | hmem
      · omega
      · have hrest := ih hmem
        omega

theorem WayDown.le_height {e : Expr} {front behind : Nat} (w : WayDown e front behind) :
    front + behind ≤ e.height := by
  induction w with
  | here e => exact Nat.zero_le _
  | argument name h w ih =>
      have hlt := height_lt_heightAbove h
      simp only [height]
      omega
  | object | indexed | position | operand | left | right | condition | yes | no =>
      simp only [height]
      omega

mutual

/-- Some way down is as long as the tree is high. -/
theorem exists_wayDown : ∀ e : Expr, ∃ front behind, WayDown e front behind ∧
    front + behind = e.height
  | .literal v => ⟨0, 0, .here _, rfl⟩
  | .ident name => ⟨0, 0, .here _, rfl⟩
  | .member object name => by
      obtain ⟨front, behind, w, hw⟩ := exists_wayDown object
      refine ⟨front + 1, behind, .object name w, ?_⟩
      simp only [height]
      omega
  | .index object position => by
      obtain ⟨front, behind, w, hw⟩ := exists_wayDown object
      obtain ⟨front', behind', w', hw'⟩ := exists_wayDown position
      simp only [height]
      rcases Nat.le_total object.height position.height with hle | hle
      · exact ⟨front', behind' + 1, .position object w', by omega⟩
      · exact ⟨front + 1, behind, .indexed position w, by omega⟩
  | .call name args => by
      rcases Nat.eq_zero_or_pos (heightAbove args) with hzero | hpos
      · exact ⟨0, 0, .here _, hzero.symm⟩
      · obtain ⟨e, hmem, front, behind, w, hw⟩ := exists_wayDown_of_pos args hpos
        exact ⟨front, behind + 1, .argument name hmem w, hw⟩
  | .unary op operand => by
      obtain ⟨front, behind, w, hw⟩ := exists_wayDown operand
      refine ⟨front, behind + 1, .operand op w, ?_⟩
      simp only [height]
      omega
  | .binary op left right => by
      obtain ⟨front, behind, w, hw⟩ := exists_wayDown left
      obtain ⟨front', behind', w', hw'⟩ := exists_wayDown right
      simp only [height]
      rcases Nat.le_total left.height right.height with hle | hle
      · exact ⟨front', behind' + 1, .right op left w', by omega⟩
      · exact ⟨front + 1, behind, .left op right w, by omega⟩
  | .conditional c yes no => by
      obtain ⟨front, behind, w, hw⟩ := exists_wayDown c
      obtain ⟨fronty, behindy, wy, hwy⟩ := exists_wayDown yes
      obtain ⟨frontn, behindn, wn, hwn⟩ := exists_wayDown no
      simp only [height]
      rcases Nat.le_total c.height (max yes.height no.height) with hle | hle
      · rcases Nat.le_total yes.height no.height with hle' | hle'
        · exact ⟨frontn, behindn + 1, .no c yes wn, by omega⟩
        · exact ⟨fronty, behindy + 1, .yes c no wy, by omega⟩
      · exact ⟨front + 1, behind, .condition yes no w, by omega⟩

theorem exists_wayDown_of_pos : ∀ es : List Expr, 0 < heightAbove es → ∃ e ∈ es,
    ∃ front behind, WayDown e front behind ∧ front + (behind + 1) = heightAbove es
  | [], h => by cases h
  | e :: rest, _ => by
      obtain ⟨front, behind, w, hw⟩ := exists_wayDown e
      rw [heightAbove]
      rcases Nat.lt_or_ge (e.height + 1) (heightAbove rest) with hlt | hle
      · obtain ⟨e', hmem, front', behind', w', hw'⟩ := exists_wayDown_of_pos rest (by omega)
        exact ⟨e', List.mem_cons_of_mem e hmem, front', behind', w', by omega⟩
      · exact ⟨e, List.mem_cons_self, front, behind, w, by omega⟩

end

/-- What holds of a phrase: the steps to operands behind their operators are paid for. -/
def Phrase.IsPaid (need : Nat) : Phrase → Prop
  | .conditional e => ∀ front behind, WayDown e front behind → behind < need
  | .binary _ e => ∀ front behind, WayDown e front behind → behind ≤ need
  | .unary e => ∀ front behind, WayDown e front behind → behind ≤ need
  | .linked e => ∀ front behind, WayDown e front behind → behind ≤ need
  | .primary e => ∀ front behind, WayDown e front behind → behind ≤ need
  | .arguments es => ∀ e ∈ es, ∀ front behind, WayDown e front behind → behind < need

theorem eq_zero_of_wayDown_ofName {name : String} {front behind : Nat}
    (w : WayDown (ofName name) front behind) : behind = 0 := by
  have hle := w.le_height
  rw [height_ofName] at hle
  omega

theorem Derivation.isPaid {p : Phrase} {ts : List Token} (d : Derivation p ts) :
    p.IsPaid d.need := by
  induction d with
  | operand d ih => exact fun front behind w => Nat.lt_succ_of_le (ih front behind w)
  | choice condition y n ihc ihy ihn =>
      intro front behind w
      simp only [Derivation.need]
      cases w with
      | here => omega
      | condition _ _ w =>
          have hc := ihc _ _ w
          omega
      | yes _ _ w =>
          have hy := ihy _ _ w
          omega
      | no _ _ w =>
          have hn := ihn _ _ w
          omega
  | single d ih => exact ih
  | tighter d ih => exact ih
  | chain l hmem r ihl ihr =>
      intro front behind w
      simp only [Derivation.need]
      cases w with
      | here => omega
      | left _ _ w =>
          have hl := ihl _ _ w
          omega
      | right _ _ w =>
          have hr := ihr _ _ w
          omega
  | plain d ih => exact ih
  | prefixed hop d ih =>
      intro front behind w
      simp only [Derivation.need]
      cases w with
      | here => omega
      | operand _ w =>
          have hd := ih _ _ w
          omega
  | unlinked d ih => exact ih
  | member d name ih =>
      intro front behind w
      simp only [Derivation.need]
      cases w with
      | here => omega
      | object _ w =>
          have hd := ih _ _ w
          omega
  | index d p ihd ihp =>
      intro front behind w
      simp only [Derivation.need]
      cases w with
      | here => omega
      | indexed _ w =>
          have hd := ihd _ _ w
          omega
      | position _ w =>
          have hp := ihp _ _ w
          omega
  | call d a _ iha =>
      intro front behind w
      simp only [Derivation.need]
      cases w with
      | here => omega
      | argument _ hmem w =>
          have ha := iha _ hmem _ _ w
          omega
  | number x =>
      rintro front behind ⟨⟩
      exact Nat.le_refl _
  | string s =>
      rintro front behind ⟨⟩
      exact Nat.le_refl _
  | name name => exact fun front behind w => Nat.le_of_eq (eq_zero_of_wayDown_ofName w)
  | parenthesized d ih => exact fun front behind w => Nat.le_of_lt (ih front behind w)
  | noArgument =>
      intro e hmem
      cases hmem
  | lastArgument d ih =>
      intro e hmem front behind w
      obtain rfl := List.mem_singleton.1 hmem
      exact ih front behind w
  | moreArguments d ds ih ihs =>
      intro e hmem front behind w
      simp only [Derivation.need]
      rcases List.mem_cons.1 hmem with rfl | hrest
      · have hd := ih front behind w
        omega
      · have hds := ihs e hrest front behind w
        omega

/-! ## The height of what is read -/

/-- A tree that is read is derived within the budget. -/
theorem exists_derivation_of_ofChars {text : List Char} {e : Expr} (h : ofChars text = .ok e) :
    ∃ ts, ∃ d : Derivation (.conditional e) ts, d.need ≤ maxDepth := by
  obtain ⟨lexemes, hlexemes, hread⟩ := bind_eq_ok_iff.mp h
  exact ⟨_, (ofChars_eq_ok_iff hlexemes e).mp h⟩

/-- The tree of a text can be 57023 levels high and no higher, whatever the text is. -/
theorem isGreatest_height :
    IsGreatest {h | ∃ text e, ofChars text = .ok e ∧ e.height = h} 57023 := by
  have hdeepest : deepest maxDepth = 57023 := by decide +kernel
  refine ⟨?_, ?_⟩
  · obtain ⟨e, ts, hts, d, -, hneed, hheight⟩ := grows_deepest 127
    obtain ⟨lexemes, rfl, htext⟩ := Lexeme.ofText_spellAll hts
    exact ⟨_, e, (ofChars_eq_ok_iff htext e).mpr ⟨d, hneed⟩, hheight.trans hdeepest⟩
  · rintro _ ⟨text, e, hread, rfl⟩
    obtain ⟨ts, d, hneed⟩ := exists_derivation_of_ofChars hread
    exact hdeepest ▸ d.isLow maxDepth hneed

/-- **The height of an expression.** The budget bounds the steps to operands behind their operators
on every way down the tree of a text. The steps to operands in front are free, so the tree stays
within the depth to which expressions may nest exactly if no way down has more of them than the
others leave room for. Over all texts the trees come to a height of 57023 and no more. -/
theorem height_le_maxDepth_iff {text : List Char} {e : Expr} (h : ofChars text = .ok e) :
    (∀ front behind, WayDown e front behind → behind < maxDepth) ∧
      (e.height ≤ maxDepth ↔
        ∀ front behind, WayDown e front behind → front ≤ maxDepth - behind) ∧
      IsGreatest {h | ∃ text e, ofChars text = .ok e ∧ e.height = h} 57023 := by
  obtain ⟨ts, d, hneed⟩ := exists_derivation_of_ofChars h
  have hbehind : ∀ front behind, WayDown e front behind → behind < maxDepth := by
    intro front behind w
    exact Nat.lt_of_lt_of_le (d.isPaid front behind w) hneed
  refine ⟨hbehind, ?_, isGreatest_height⟩
  constructor
  · intro hheight front behind w
    have hle := w.le_height
    omega
  · intro hfront
    obtain ⟨front, behind, w, hw⟩ := exists_wayDown e
    have hroom := hfront front behind w
    have hpaid := hbehind front behind w
    omega

/-- A way down a product of a name and a negation. -/
theorem height_le_maxDepth_iff_product :
    ∃ e, ofChars "a*!b".toList = .ok e ∧
      (∀ front behind, WayDown e front behind → behind < maxDepth) ∧
      (e.height ≤ maxDepth ↔
        ∀ front behind, WayDown e front behind → front ≤ maxDepth - behind) ∧
      IsGreatest {h | ∃ text e, ofChars text = .ok e ∧ e.height = h} 57023 := by
  have hread : ofChars "a*!b".toList =
      .ok (.binary .mul (.ident "a") (.unary .not (.ident "b"))) := by cbv
  exact ⟨_, hread, height_le_maxDepth_iff hread⟩

set_option maxRecDepth 20000 in
/-- Two additions on top of an operand with 127 prefix operators make a tree that is higher than
the depth to which expressions may nest. -/
theorem maxDepth_lt_height :
    ∃ e, ofChars (List.replicate 127 '!' ++ "a+a+a".toList) = .ok e ∧ maxDepth < e.height := by
  have hread : ofChars (List.replicate 127 '!' ++ "a+a+a".toList) =
      .ok (.binary .add (.binary .add ((Expr.unary .not)^[127] (.ident "a")) (.ident "a"))
        (.ident "a")) := by cbv
  exact ⟨_, hread, by cbv⟩

end Widgetry.Expr
