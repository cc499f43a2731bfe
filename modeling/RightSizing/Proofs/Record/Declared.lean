import Mathlib.Data.List.Forall2
import RightSizing.Proofs.Record.Reading

/-!
# Only declared members matter

A record is read from the members that its layout declares, and from the form of the value around
them.  Two values that agree on these (`Value.AlikeOn`) are read as the same record or fail with the
same error, whatever other members they have; and where members are records in turn, it is enough
that each of them is read alike (`Layout.ReadsAlike`).

* `Layout.codec_read_congr`        members that are read alike
* `Layout.codec_read_of_alikeOn`   members that are the same
* `Value.AlikeOn.insert`            a member that is not declared may be added or changed
-/

namespace RightSizing

namespace Value

/-- two objects, two arrays of one length, or the same value twice -/
def SameForm : Value → Value → Prop
  | object _, object _ => True
  | array xs, array ys => xs.length = ys.length
  | v, w => v = w

/-- the form is the same, and so are the members with these names -/
structure AlikeOn (names : List String) (v w : Value) : Prop where
  form : v.SameForm w
  member : ∀ name place, names[place]? = some name → v.member? name place = w.member? name place

variable {v w : Value} {names : List String}

theorem SameForm.refl (v : Value) : v.SameForm v := by
  cases v with
  | object members => trivial
  | _ => rfl

theorem SameForm.eq_null_iff (h : v.SameForm w) : v = .null ↔ w = .null := by
  constructor
  · rintro rfl
    exact Eq.symm h
  · rintro rfl
    cases v with
    | null => rfl
    | _ => cases h

theorem AlikeOn.refl (names : List String) (v : Value) : v.AlikeOn names v :=
  ⟨.refl v, fun _ _ _ => rfl⟩

/-- a member with another name is added, or changed -/
theorem AlikeOn.insert {name : String} (h : name ∉ names) (x : Value) (members : Members) :
    (object members).AlikeOn names (object (insert name x members)) where
  form := trivial
  member := by
    intro declared place hdeclared
    show find? members declared = find? (Value.insert name x members) declared
    rw [find?_insert, if_neg]
    rintro rfl
    exact h (List.mem_of_getElem? hdeclared)

end Value

/-! ## Contents and members -/

theorem Codec.readAll_congr {item : Value → Except DecodeError α} {xs ys : List Value}
    (h : List.Forall₂ (fun x y => item x = item y) xs ys) : readAll item xs = readAll item ys := by
  induction h with
  | nil => rfl
  | cons hread _ ih => rw [readAll_cons, readAll_cons, hread, ih]

theorem Codec.optional_read_congr (inner : Codec α) {v w : Value} (hform : v.SameForm w)
    (h : inner.read v = inner.read w) : inner.optional.read v = inner.optional.read w := by
  by_cases hv : v = .null
  · rw [hv, hform.eq_null_iff.mp hv]
  · have hw : w ≠ .null := fun hw => hv (hform.eq_null_iff.mpr hw)
    rw [optional_read_of_ne_null inner hv, optional_read_of_ne_null inner hw, h]

namespace Member

/-- both values have the member or both lack it, and what they have is read alike -/
def ReadsAlike (m : Member ρ α) (v w : Value) (place : Nat) : Prop :=
  Option.Rel (fun x y => m.content.read x = m.content.read y) (v.member? m.name place)
    (w.member? m.name place)

variable {m : Member ρ α} {place : Nat}

theorem ReadsAlike.of_rel {v w : Value} {alike : Value → Value → Prop}
    (h : Option.Rel alike (v.member? m.name place) (w.member? m.name place))
    (hread : ∀ x y, alike x y → m.content.read x = m.content.read y) : m.ReadsAlike v w place := by
  unfold ReadsAlike
  generalize v.member? m.name place = found at h
  generalize w.member? m.name place = found' at h
  cases h with
  | none => exact .none
  | some hx => exact .some (hread _ _ hx)

theorem ReadsAlike.of_eq {v w : Value} (h : v.member? m.name place = w.member? m.name place) :
    m.ReadsAlike v w place := by
  unfold ReadsAlike
  rw [h]
  cases w.member? m.name place with
  | none => exact .none
  | some x => exact .some rfl

theorem ofMembers_congr {members others : Value.Members}
    (h : m.ReadsAlike (.object members) (.object others) place) :
    m.ofMembers members = m.ofMembers others := by
  have hrel : Option.Rel (fun x y => m.content.read x = m.content.read y)
      (Value.find? members m.name) (Value.find? others m.name) := h
  unfold ofMembers
  generalize Value.find? members m.name = found at hrel
  generalize Value.find? others m.name = found' at hrel
  cases hrel with
  | none => rfl
  | some hread =>
    dsimp only
    rw [hread]

theorem ofItems_congr (tooShort : DecodeError) {items others : List Value}
    (h : m.ReadsAlike (.array items) (.array others) place) :
    (m.ofItems tooShort (items.drop place)).map Prod.fst =
      (m.ofItems tooShort (others.drop place)).map Prod.fst := by
  have hrel : Option.Rel (fun x y => m.content.read x = m.content.read y)
      (items.drop place).head? (others.drop place).head? := by
    rw [List.head?_drop, List.head?_drop]
    exact h
  generalize items.drop place = left at hrel
  generalize others.drop place = left' at hrel
  cases left with
  | nil =>
    cases left' with
    | nil => rfl
    | cons y ys => cases hrel
  | cons x xs =>
    cases left' with
    | nil => cases hrel
    | cons y ys =>
      cases hrel with
      | some hread =>
        show ((m.content.read x).map (·, xs)).map Prod.fst =
          ((m.content.read y).map (·, ys)).map Prod.fst
        rw [hread]
        cases m.content.read y <;> rfl

end Member

/-! ## Layouts -/

namespace Layout

theorem length_names (layout : Layout ρ α) : layout.names.length = layout.size := by
  induction layout with
  | start make => rfl
  | member before m ih => rw [names, size, List.length_append, ih, List.length_singleton]

/-- what holds of all members in their places holds of those before the last, and of the last -/
theorem of_forall_names_member {β : Type} {before : Layout ρ (β → α)} {m : Member ρ β}
    {p : String → Nat → Prop}
    (h : ∀ name place, (member before m).names[place]? = some name → p name place) :
    (∀ name place, before.names[place]? = some name → p name place) ∧ p m.name before.size := by
  have hlength : before.names.length = before.size := before.length_names
  refine ⟨fun name place hname => h name place ?_, h m.name before.size ?_⟩
  · rw [names, List.getElem?_append_left (List.getElem?_eq_some_iff.mp hname).1, hname]
  · rw [names, ← hlength, List.getElem?_concat_length]

def ReadsAlike (v w : Value) : Layout ρ α → Prop
  | start _ => True
  | member before m => before.ReadsAlike v w ∧ m.ReadsAlike v w before.size

theorem ofMembers_congr {members others : Value.Members} {layout : Layout ρ α}
    (h : layout.ReadsAlike (.object members) (.object others)) :
    layout.ofMembers members = layout.ofMembers others := by
  induction layout with
  | start make => rfl
  | member before m ih =>
    unfold ofMembers
    rw [ih h.1, m.ofMembers_congr h.2]

/-- each member reads its own part of an array; what is left of the array may be forgotten -/
theorem ofItems_member {β : Type} (wanted : String) (items : List Value) (before : Layout ρ (β → α))
    (m : Member ρ β) :
    ((member before m).ofItems wanted items).map Prod.fst =
      ((before.ofItems wanted items).map Prod.fst).bind fun f =>
        ((m.ofItems (.invalidLength before.size wanted) (items.drop before.size)).map
          Prod.fst).map f := by
  rw [ofItems]
  cases hmade : before.ofItems wanted items with
  | error e => rfl
  | ok made =>
    obtain ⟨f, rest⟩ := made
    obtain ⟨-, rfl⟩ := (ofItems_eq_ok_iff wanted items rest before f).mp hmade
    show Except.map Prod.fst (Except.map _ _) = Except.map f (Except.map Prod.fst _)
    cases m.ofItems (.invalidLength before.size wanted) (items.drop before.size) <;> rfl

theorem ofItems_congr (wanted : String) {items others : List Value} {layout : Layout ρ α}
    (h : layout.ReadsAlike (.array items) (.array others)) :
    (layout.ofItems wanted items).map Prod.fst = (layout.ofItems wanted others).map Prod.fst := by
  induction layout with
  | start make => rfl
  | member before m ih =>
    rw [ofItems_member, ofItems_member, ih h.1, m.ofItems_congr _ h.2]

/-! ## Whole records -/

theorem codec_read_array (title : String) (layout : Layout ρ ρ) (items : List Value) :
    (layout.codec title).read (.array items) =
      ((layout.ofItems ("struct " ++ title ++ " with " ++ elements layout.size) items).map
        Prod.fst).bind fun r =>
          if items.length ≤ layout.size then .ok r
          else .error (.invalidLength items.length "fewer elements in array") := by
  unfold codec
  dsimp only
  cases hmade : layout.ofItems ("struct " ++ title ++ " with " ++ elements layout.size) items with
  | error e => rfl
  | ok made =>
    obtain ⟨r, rest⟩ := made
    obtain ⟨-, hrest⟩ := (ofItems_eq_ok_iff _ items rest layout r).mp hmade
    show _ = if items.length ≤ layout.size then _ else _
    cases rest with
    | nil => rw [if_pos (List.drop_eq_nil_iff.mp hrest.symm)]
    | cons x xs =>
      rw [if_neg]
      intro hle
      rw [List.drop_eq_nil_of_le hle] at hrest
      cases hrest

/-- **A record is what its members are read as**, and of its errors the same holds. -/
theorem codec_read_congr (title : String) {layout : Layout ρ ρ} {v w : Value}
    (hform : v.SameForm w) (h : layout.ReadsAlike v w) :
    (layout.codec title).read v = (layout.codec title).read w := by
  cases v with
  | object members =>
    cases w with
    | object others =>
      show (layout.ofMembers members).mapError _ = (layout.ofMembers others).mapError _
      rw [ofMembers_congr h]
    | _ => cases hform
  | array items =>
    cases w with
    | array others =>
      have hlength : items.length = others.length := hform
      rw [codec_read_array, codec_read_array, ofItems_congr _ h, hlength]
    | _ => cases hform
  | _ =>
    cases hform
    rfl

theorem readsAlike_of_member? {v w : Value} {layout : Layout ρ α}
    (h : ∀ name place, layout.names[place]? = some name →
      v.member? name place = w.member? name place) : layout.ReadsAlike v w := by
  induction layout with
  | start make => trivial
  | member before m ih =>
    obtain ⟨hbefore, hm⟩ := of_forall_names_member h
    exact ⟨ih hbefore, .of_eq hm⟩

/-- **What is not declared does not matter**: values with the same declared members are read as the
same record, or fail with the same error. -/
theorem codec_read_of_alikeOn (title : String) {layout : Layout ρ ρ} {v w : Value}
    (h : v.AlikeOn layout.names w) : (layout.codec title).read v = (layout.codec title).read w :=
  codec_read_congr title h.form (readsAlike_of_member? h.member)

end Layout

end RightSizing
