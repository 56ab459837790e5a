import Widgetry.Json.Record
import Widgetry.Proofs.Table

/-!
# Records that come back

A record that has been written is found again field by field: a field that is there has its value
under its name, and one that is not there has none. So a record comes back if each of its fields
does. A field that may be absent comes back unless what it holds is written as `null`, which stands
for its absence.
-/

namespace Widgetry.Json

variable {α β : Type}

/-- Reading gives back whatever has been written. -/
def Restores (write : α → Json) (read : Json → Option α) : Prop :=
  ∀ a, read (write a) = some a

/-! ## Single values -/

theorem restores_str : Restores str string? :=
  fun _ => rfl

theorem isWord_of_lt {n : Nat} (h : n < 0x10000000000000000) : IsWord n :=
  ⟨Int.le_trans (by decide) (Int.natCast_nonneg n), Int.ofNat_lt.2 h⟩

theorem int_of_lt {n : Nat} (h : n < 0x10000000000000000) :
    int n = .num (.integer n (isWord_of_lt h)) := by
  rw [int, Number.ofInt?, dif_pos (isWord_of_lt h), Option.elim_some]

theorem int_ne_null_of_lt {n : Nat} (h : n < 0x10000000000000000) : int n ≠ .null := by
  rw [int_of_lt h]
  nofun

/-- A number that fits into a word is read back as it is written. -/
theorem nat?_int {n : Nat} (h : n < 0x10000000000000000) : (int n).nat? = some n := by
  rw [int_of_lt h, nat?, Number.toNat?, if_pos (Int.natCast_nonneg n), Int.toNat_natCast]

/-- A number that does not fit into a word is written as a float, and read back as none. -/
theorem nat?_int_of_le {n : Nat} (h : 0x10000000000000000 ≤ n) : (int n).nat? = none := by
  have hword : ¬IsWord n := fun hword => Nat.not_lt_of_le h (Int.ofNat_lt.1 hword.2)
  rw [int, Number.ofInt?, dif_neg hword]
  cases Binary64.ofInt n <;> rfl

theorem word32?_int {n : Nat} (h : n < 1 <<< 32) : word32? (int n) = some n := by
  have hword : n < 0x10000000000000000 := Nat.lt_trans h (by decide)
  rw [word32?, nat?_int hword, Option.filter_some, if_pos (decide_eq_true h)]

/-! ## The fields of a record -/

/-- The fields of a record that are there, under their names. -/
theorem get?_ofList_filterMap {fields : List (String × Option Json)}
    (h : (Table.keys fields).Nodup) (name : String) :
    (Table.ofList (fields.filterMap fun field => field.2.map (field.1, ·))).get? name =
      (Table.get? fields name).join := by
  have hmem (v : Json) :
      (name, v) ∈ fields.filterMap (fun field => field.2.map (field.1, ·)) ↔
        (name, some v) ∈ fields := by
    rw [List.mem_filterMap]
    constructor
    · rintro ⟨⟨name', v'⟩, hmem, hfield⟩
      obtain ⟨v'', rfl, hpair⟩ := Option.map_eq_some_iff.1 hfield
      obtain ⟨rfl, rfl⟩ := Prod.mk.inj hpair
      exact hmem
    · intro hmem
      exact ⟨(name, some v), hmem, rfl⟩
  have hkeys : (Table.keys (fields.filterMap fun field => field.2.map (field.1, ·))).Nodup := by
    refine List.Nodup.sublist ?_ h
    exact Table.keys_filterMap_sublist fields
  refine Option.ext ?_
  intro v
  rw [Table.get?_ofList_eq_some_iff hkeys, hmem, ← Table.get?_eq_some_iff_of_nodup h,
    Option.join_eq_some_iff]

/-- What holds of every object with certain fields holds of the record that is written with
them. -/
theorem ofFields_cases {motive : Json → Prop} {fields : List (String × Option Json)}
    (names : List String) (hnames : Table.keys fields = names) (h : names.Nodup)
    (object : ∀ t : Fields, (∀ name, t.get? name = (Table.get? fields name).join) →
      motive (.obj t)) : motive (ofFields fields) := by
  subst hnames
  exact object _ (get?_ofList_filterMap h)

theorem read_ofFields {read : Json → Option α} {a : α} {fields : List (String × Option Json)}
    (names : List String) (hnames : Table.keys fields = names) (h : names.Nodup)
    (object : ∀ t : Fields, (∀ name, t.get? name = (Table.get? fields name).join) →
      read (.obj t) = some a) : read (ofFields fields) = some a :=
  ofFields_cases (motive := fun v => read v = some a) names hnames h object

/-! ## Reading fields -/

section Fields

variable {fields : Fields} {name : String} {write : α → Json} {read : Json → Option α}

theorem required?_of_get? {v : Json} {a : α} (hget : fields.get? name = some v)
    (hread : read v = some a) : required? fields name read = some a := by
  rw [required?, hget, Option.bind_some, hread]

theorem defaulted?_of_get? {v : Json} {a : α} (default : α) (hget : fields.get? name = some v)
    (hread : read v = some a) : defaulted? fields name default read = some a := by
  rw [defaulted?, hget]
  exact hread

theorem optional?_of_ne_null {v : Json} (hget : fields.get? name = some v) (hnull : v ≠ .null) :
    optional? fields name read = (read v).map some := by
  rw [optional?, hget]
  cases v with
  | null => exact absurd rfl hnull
  | bool _ | num _ | str _ | arr _ | obj _ => rfl

/-- A field that may be absent comes back if its value does and is not written as `null`. -/
theorem optional?_of_get? {a : Option β} {write : β → Json} {f : β → α}
    (hget : fields.get? name = a.map write) (hnull : ∀ b, write b ≠ .null)
    (hread : ∀ b, read (write b) = some (f b)) :
    optional? fields name read = some (a.map f) := by
  cases a with
  | none =>
      rw [optional?, hget]
      rfl
  | some b =>
      rw [optional?_of_ne_null hget (hnull b), hread]
      rfl

theorem optional?_of_restores (h : Restores write read) (hnull : ∀ a, write a ≠ .null)
    {a : Option α} (hget : fields.get? name = a.map write) :
    optional? fields name read = some a := by
  rw [optional?_of_get? hget hnull (f := id) h, Option.map_id]
  rfl

/-- A field that may be absent and is read as it is does not come back if it is `null`. -/
theorem optional?_some : optional? fields name some =
    some ((fields.get? name).filter fun v => !v.isNull) := by
  rw [optional?]
  rcases fields.get? name with _ | _ | _ | _ | _ | _ | _ <;> rfl

theorem listOf?_of_restores (h : Restores write read) (items : List α) :
    listOf? read (.arr (items.map write)) = some items := by
  show (items.map write).mapM read = some items
  induction items with
  | nil => rfl
  | cons a rest ih =>
      rw [List.map_cons, List.mapM_cons, h a, ih]
      rfl

/-- A list that is left out where it is empty comes back. -/
theorem defaulted?_listOf?_of_restores (h : Restores write read) {items : List α}
    (hget : fields.get? name =
      if items.isEmpty then none else some (.arr (items.map write))) :
    defaulted? fields name [] (listOf? read) = some items := by
  cases items with
  | nil =>
      rw [defaulted?, hget]
      rfl
  | cons a rest => exact defaulted?_of_get? [] hget (listOf?_of_restores h (a :: rest))

end Fields

end Widgetry.Json
