import RightSizing.Record.Layout

/-!
# What a record is read from

A record is read from an object by the names of its members, or from an array by their places;
either way each member makes its content of the value it finds, or stands for what a missing one
means.  So one relation says what both forms give, and the reader is held to it in both directions:

* `Codec.text_read_eq_ok_iff` and its like  the values that a scalar is read from
* `Member.Takes`, `Layout.Takes`       the content that a value gives a member, or all of a layout
* `Layout.ofMembers_eq_ok_iff`, `Layout.ofItems_eq_ok_iff`  the two forms
* `Layout.codec_read_eq_ok_iff`        what a whole record is read from
* `Layout.exists_codec_read_iff`       when it can be read at all: when each member can
-/

namespace RightSizing

theorem map_eq_ok_iff {x : Except ε α} {f : α → β} {b : β} :
    x.map f = .ok b ↔ ∃ a, x = .ok a ∧ f a = b := by
  cases x <;> simp [Except.map]

theorem map_eq_error_iff {x : Except ε α} {f : α → β} {e : ε} :
    x.map f = .error e ↔ x = .error e := by
  cases x <;> simp [Except.map]

theorem mapError_eq_error_iff {x : Except ε α} {f : ε → ε'} {e' : ε'} :
    x.mapError f = .error e' ↔ ∃ e, x = .error e ∧ f e = e' := by
  cases x with
  | error e =>
    show (Except.error (f e) : Except ε' α) = .error e' ↔ _
    simp
  | ok a => exact iff_of_false nofun nofun

theorem mapError_eq_ok_iff {x : Except ε α} {f : ε → ε'} {a : α} :
    x.mapError f = .ok a ↔ x = .ok a := by
  cases x with
  | error e => exact iff_of_false nofun nofun
  | ok b =>
    show (Except.ok b : Except ε' α) = .ok a ↔ _
    rw [Except.ok.injEq, Except.ok.injEq]

/-- the double that a number is read as -/
def Number.nearest : Number → Binary64
  | .integer n => .ofInt n
  | .real x => x

namespace Codec

theorem text_read_eq_ok_iff {x : Value} {s : String} : text.read x = .ok s ↔ x = .string s := by
  cases x <;> simp [text]

theorem readCount_eq_ok_iff {limit : Nat} {wanted : String} {x : Value} {n : Nat} :
    readCount limit wanted x = .ok n ↔ n < limit ∧ x = .integer n := by
  fun_cases readCount limit wanted x with
  | case1 m h =>
    simp only [Except.ok.injEq, Value.integer, Value.number.injEq, Number.integer.injEq]
    omega
  | case2 m h =>
    simp only [reduceCtorEq, Value.integer, Value.number.injEq, Number.integer.injEq, false_iff]
    omega
  | case3 x hx =>
    simp only [reduceCtorEq, false_iff, not_and]
    exact fun _ e => hx _ e

/-- a count of any width is read from its own number, and nothing wraps -/
theorem map_readCount_eq_ok_iff {limit : Nat} {wanted : String} {toNat : α → Nat} {ofNat : Nat → α}
    (hlt : ∀ a, toNat a < limit) (hto : ∀ n < limit, toNat (ofNat n) = n)
    (hof : ∀ a, ofNat (toNat a) = a) {x : Value} {a : α} :
    (readCount limit wanted x).map ofNat = .ok a ↔ x = .integer (toNat a) := by
  rw [map_eq_ok_iff]
  constructor
  · rintro ⟨m, hm, rfl⟩
    obtain ⟨hfits, rfl⟩ := readCount_eq_ok_iff.mp hm
    rw [hto m hfits]
  · rintro rfl
    exact ⟨toNat a, readCount_eq_ok_iff.mpr ⟨hlt a, rfl⟩, hof a⟩

theorem count32_read_eq_ok_iff {x : Value} {n : UInt32} :
    count32.read x = .ok n ↔ x = .integer n.toNat :=
  map_readCount_eq_ok_iff UInt32.toNat_lt (fun _ => UInt32.toNat_ofNat_of_lt')
    fun _ => UInt32.ofNat_toNat

theorem count64_read_eq_ok_iff {x : Value} {n : UInt64} :
    count64.read x = .ok n ↔ x = .integer n.toNat :=
  map_readCount_eq_ok_iff UInt64.toNat_lt (fun _ => UInt64.toNat_ofNat_of_lt')
    fun _ => UInt64.ofNat_toNat

theorem double_read_eq_ok_iff {x : Value} {d : Binary64} :
    double.read x = .ok d ↔ ∃ n : Number, x = .number n ∧ n.nearest = d := by
  cases x with
  | number n => cases n <;> simp [double, Number.nearest]
  | _ => simp [double]

theorem free_read_eq_ok_iff {x y : Value} : free.read x = .ok y ↔ x = y := by
  simp [free]

theorem optional_read_null (inner : Codec α) : inner.optional.read .null = .ok none := rfl

theorem optional_read_of_ne_null (inner : Codec α) {x : Value} (h : x ≠ .null) :
    inner.optional.read x = (inner.read x).map some := by
  cases x with
  | null => exact absurd rfl h
  | _ => rfl

end Codec

/-! ## Members and layouts -/

namespace Value

/-- a member, found by its name in an object and by its place in an array -/
def member? (name : String) (place : Nat) : Value → Option Value
  | object members => find? members name
  | array items => items[place]?
  | _ => none

/-- the outer form of a record: an object, or an array with a number of items between two bounds -/
def IsRecord (least most : Nat) : Value → Prop
  | object _ => True
  | array items => least ≤ items.length ∧ items.length ≤ most
  | _ => False

end Value

namespace Member

variable (m : Member ρ α)

/-- what it means that a value lacks the member -/
def lacking : Value → Option α
  | .array _ => m.beyond
  | _ => m.absent

/-- the value gives the member this content -/
def Takes (v : Value) (place : Nat) (a : α) : Prop :=
  match v.member? m.name place with
  | some x => m.content.read x = .ok a
  | none => m.lacking v = some a

theorem takes_of_some {v x : Value} {place : Nat} {a : α}
    (h : v.member? m.name place = some x) : m.Takes v place a ↔ m.content.read x = .ok a := by
  rw [Takes, h]

theorem takes_of_none {v : Value} {place : Nat} {a : α} (h : v.member? m.name place = none) :
    m.Takes v place a ↔ m.lacking v = some a := by
  rw [Takes, h]

theorem ofMembers_eq_ok_iff {members : Value.Members} {place : Nat} {a : α} :
    m.ofMembers members = .ok a ↔ m.Takes (.object members) place a := by
  unfold ofMembers
  cases h : Value.find? members m.name with
  | some x =>
    have hx : (Value.object members).member? m.name place = some x := h
    rw [m.takes_of_some hx]
    exact mapError_eq_ok_iff
  | none =>
    have hnone : (Value.object members).member? m.name place = none := h
    rw [m.takes_of_none hnone]
    show _ ↔ m.absent = some a
    cases m.absent <;> simp

theorem ofItems_eq_ok_iff {tooShort : DecodeError} {items rest : List Value} {place : Nat} {a : α} :
    m.ofItems tooShort (items.drop place) = .ok (a, rest) ↔
      m.Takes (.array items) place a ∧ rest = items.drop (place + 1) := by
  by_cases h : place < items.length
  · have hx : (Value.array items).member? m.name place = some items[place] :=
      List.getElem?_eq_getElem h
    rw [List.drop_eq_getElem_cons h, m.takes_of_some hx, ofItems, map_eq_ok_iff]
    constructor
    · rintro ⟨b, hb, e⟩
      cases e
      exact ⟨hb, rfl⟩
    · rintro ⟨ha, rfl⟩
      exact ⟨a, ha, rfl⟩
  · have hnone : (Value.array items).member? m.name place = none :=
      List.getElem?_eq_none (by omega)
    rw [List.drop_eq_nil_of_le (by omega), List.drop_eq_nil_of_le (by omega),
      m.takes_of_none hnone, ofItems, lacking]
    cases m.beyond <;> simp [eq_comm]

end Member

namespace Layout

/-- the value gives each member its content, and they make the record -/
def Takes (v : Value) : Layout ρ α → α → Prop
  | start make, a => make = a
  | member before m, a => ∃ f b, before.Takes v f ∧ m.Takes v before.size b ∧ f b = a

/-- the value gives each member some content -/
def Accepts (v : Value) : Layout ρ α → Prop
  | start _ => True
  | member before m => before.Accepts v ∧ ∃ b, m.Takes v before.size b

theorem exists_takes_iff (v : Value) (layout : Layout ρ α) :
    (∃ a, layout.Takes v a) ↔ layout.Accepts v := by
  induction layout with
  | start make => simp [Takes, Accepts]
  | member before m ih =>
    rw [Accepts, ← ih]
    constructor
    · rintro ⟨_, f, b, hf, hb, rfl⟩
      exact ⟨⟨f, hf⟩, b, hb⟩
    · rintro ⟨⟨f, hf⟩, b, hb⟩
      exact ⟨f b, f, b, hf, hb, rfl⟩

theorem ofMembers_eq_ok_iff (members : Value.Members) (layout : Layout ρ α) (a : α) :
    layout.ofMembers members = .ok a ↔ layout.Takes (.object members) a := by
  induction layout with
  | start make => simp [ofMembers, Takes]
  | member before m ih =>
    rw [ofMembers, Takes]
    simp only [← ih, ← m.ofMembers_eq_ok_iff]
    cases before.ofMembers members <;> cases m.ofMembers members <;> simp

theorem ofItems_eq_ok_iff (wanted : String) (items rest : List Value) (layout : Layout ρ α)
    (a : α) :
    layout.ofItems wanted items = .ok (a, rest) ↔
      layout.Takes (.array items) a ∧ rest = items.drop layout.size := by
  induction layout generalizing rest with
  | start make => simp [ofItems, Takes, size, eq_comm]
  | member before m ih =>
    rw [ofItems, Takes, size]
    constructor
    · intro h
      split at h
      · cases h
      · rename_i f left hbefore
        obtain ⟨hf, rfl⟩ := (ih _ _).mp hbefore
        obtain ⟨⟨b, rest'⟩, hb, e⟩ := map_eq_ok_iff.mp h
        obtain ⟨htakes, rfl⟩ := m.ofItems_eq_ok_iff.mp hb
        cases e
        exact ⟨⟨f, b, hf, htakes, rfl⟩, rfl⟩
    · rintro ⟨⟨f, b, hf, hb, rfl⟩, rfl⟩
      rw [(ih _ f).mpr ⟨hf, rfl⟩]
      exact map_eq_ok_iff.mpr ⟨_, m.ofItems_eq_ok_iff.mpr ⟨hb, rfl⟩, rfl⟩

/-! ## Whole records -/

/-- **A record is read from an object, or from an array that is not too long**, and its members are
what the layout makes of the values there. -/
theorem codec_read_eq_ok_iff (title : String) (layout : Layout ρ ρ) (v : Value) (r : ρ) :
    (layout.codec title).read v = .ok r ↔ v.IsRecord 0 layout.size ∧ layout.Takes v r := by
  cases v with
  | object members =>
    show (layout.ofMembers members).mapError Lapse.error = .ok r ↔ True ∧ _
    rw [mapError_eq_ok_iff, ofMembers_eq_ok_iff, true_and]
  | array items =>
    unfold codec
    dsimp only [Value.IsRecord]
    have hlength : items.length ≤ layout.size ↔ [] = items.drop layout.size := by
      rw [eq_comm, List.drop_eq_nil_iff]
    rw [hlength]
    constructor
    · intro h
      split at h
      · cases h
      · rename_i hitems
        obtain ⟨htakes, hrest⟩ := (ofItems_eq_ok_iff _ _ _ _ _).mp hitems
        cases h
        exact ⟨⟨Nat.zero_le _, hrest⟩, htakes⟩
      · cases h
    · rintro ⟨⟨-, hrest⟩, htakes⟩
      rw [(ofItems_eq_ok_iff _ _ _ _ _).mpr ⟨htakes, hrest⟩]
  | _ => simp [codec, Value.IsRecord]

theorem exists_codec_read_iff (title : String) (layout : Layout ρ ρ) (v : Value) :
    (∃ r, (layout.codec title).read v = .ok r) ↔ v.IsRecord 0 layout.size ∧ layout.Accepts v := by
  simp only [codec_read_eq_ok_iff, exists_and_left, exists_takes_iff]

end Layout

end RightSizing
