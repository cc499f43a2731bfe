import RightSizing.Proofs.Record.Reading

/-!
# What is written can be read back

A codec keeps a value when reading what it writes gives the value again.  Whether a record is kept
comes down to its members: their names differ, what is left out is what its absence means, and the
codec of each member keeps the content.

* `Codec.Keeps`, `Codec.Lawful`   one value, and every value
* `Codec.NeverNull`               null stays free for what is absent
* `Value.find?_sorted`            putting members in order hides none
* `Layout.Faithful`               what a layout has to see to
* `Layout.Faithful.codec_keeps`   a record is kept when its members are
* `Codec.Lawful.injective`        different values are written differently
-/

namespace RightSizing

namespace Codec

variable {c : Codec α}

/-- reading gives back `a` from what is written for it -/
def Keeps (c : Codec α) (a : α) : Prop := c.read (c.write a) = .ok a

def Lawful (c : Codec α) : Prop := ∀ a, c.Keeps a

def NeverNull (c : Codec α) : Prop := ∀ a, c.write a ≠ .null

/-- what is written for `a` is read as `a`, and is written again when it was read -/
structure Settles (c : Codec α) (a : α) : Prop where
  keeps : c.Keeps a
  rewrites : (c.read (c.write a)).map c.write = .ok (c.write a)

theorem Keeps.settles {a : α} (h : c.Keeps a) : c.Settles a :=
  ⟨h, map_eq_ok_iff.mpr ⟨a, h, rfl⟩⟩

theorem Lawful.injective (h : c.Lawful) : Function.Injective c.write := by
  intro a b hab
  have ha : c.read (c.write a) = .ok a := h a
  have hb : c.read (c.write b) = .ok b := h b
  rw [hab, hb] at ha
  exact (Except.ok.inj ha).symm

theorem text_lawful : text.Lawful := fun _ => rfl

theorem text_neverNull : text.NeverNull := fun _ => nofun

theorem count32_lawful : count32.Lawful := fun _ => count32_read_eq_ok_iff.mpr rfl

theorem count32_neverNull : count32.NeverNull := fun _ => nofun

theorem count64_lawful : count64.Lawful := fun _ => count64_read_eq_ok_iff.mpr rfl

theorem count64_neverNull : count64.NeverNull := fun _ => nofun

theorem free_lawful : free.Lawful := fun _ => rfl

theorem double_write_of_finite {x : Binary64} (h : x.isFinite = true) : double.write x = .real x :=
  if_pos h

theorem double_keeps {x : Binary64} (h : x.isFinite = true) : double.Keeps x := by
  unfold Keeps
  rw [double_write_of_finite h]
  rfl

theorem list_keeps {as : List α} (h : ∀ a ∈ as, c.Keeps a) : (list c).Keeps as := by
  show readAll c.read (as.map c.write) = .ok as
  induction as with
  | nil => rfl
  | cons a as ih =>
    obtain ⟨ha, hrest⟩ := List.forall_mem_cons.mp h
    have ha : c.read (c.write a) = .ok a := ha
    rw [List.map_cons, readAll_cons, ha, ih hrest]
    rfl

theorem Lawful.list (h : c.Lawful) : (list c).Lawful := fun _ => list_keeps fun a _ => h a

theorem list_neverNull (c : Codec α) : (list c).NeverNull := fun _ => nofun

theorem optional_keeps {o : Option α} (h : ∀ a ∈ o, c.Keeps a ∧ c.write a ≠ .null) :
    c.optional.Keeps o := by
  cases o with
  | none => rfl
  | some a =>
    obtain ⟨hkeeps, hnull⟩ := h a rfl
    have hkeeps : c.read (c.write a) = .ok a := hkeeps
    show c.optional.read (c.write a) = .ok (some a)
    rw [optional_read_of_ne_null c hnull, hkeeps]
    rfl

theorem Lawful.optional (h : c.Lawful) (hnull : c.NeverNull) : c.optional.Lawful :=
  fun _ => optional_keeps fun a _ => ⟨h a, hnull a⟩

end Codec

/-! ## Members in order -/

namespace Value

theorem find?_eq_none {members : Members} {name : String} (h : name ∉ members.map Prod.fst) :
    find? members name = none := by
  unfold find?
  rw [List.lookup_eq_none_iff]
  intro member hmem
  rw [bne_iff_ne]
  rintro rfl
  exact h (List.mem_map_of_mem hmem)

theorem find?_eq_some_iff {members : Members} (h : (members.map Prod.fst).Nodup) {name : String}
    {x : Value} : find? members name = some x ↔ (name, x) ∈ members := by
  refine ⟨mem_of_find?, fun hmem => ?_⟩
  induction members with
  | nil => cases hmem
  | cons member members ih =>
    obtain ⟨key, value⟩ := member
    obtain ⟨hkey, hnodup⟩ := List.nodup_cons.mp h
    rw [find?_cons]
    rcases List.mem_cons.mp hmem with e | hrest
    · cases e
      exact if_pos rfl
    · have hmap : name ∈ members.map Prod.fst := List.mem_map.mpr ⟨(name, x), hrest, rfl⟩
      have hname : name ≠ key := fun e => hkey (e ▸ hmap)
      rw [if_neg hname]
      exact ih hnodup hrest

theorem find?_append (front behind : Members) (name : String) :
    find? (front ++ behind) name = (find? front name).or (find? behind name) :=
  List.lookup_append

/-- what is already in order is hidden by what comes after it -/
theorem find?_foldl_insert {members : Members} (h : (members.map Prod.fst).Nodup) (done : Members)
    (name : String) :
    find? (members.foldl (fun done (name, value) => insert name value done) done) name =
      (find? members name).or (find? done name) := by
  induction members generalizing done with
  | nil => rfl
  | cons member members ih =>
    obtain ⟨key, value⟩ := member
    obtain ⟨hkey, hnodup⟩ := List.nodup_cons.mp h
    rw [List.foldl_cons, ih hnodup, find?_insert, find?_cons]
    by_cases hname : name = key
    · rw [if_pos hname, if_pos hname, hname, find?_eq_none hkey]
      rfl
    · rw [if_neg hname, if_neg hname]

theorem find?_sorted {members : Members} (h : (members.map Prod.fst).Nodup) (name : String) :
    find? (sorted members) name = find? members name := by
  rw [sorted, find?_foldl_insert h, find?_nil, Option.or_none]

theorem names_insert_perm {name : String} (value : Value) {members : Members}
    (h : name ∉ members.map Prod.fst) :
    ((insert name value members).map Prod.fst).Perm (name :: members.map Prod.fst) := by
  induction members with
  | nil => exact .refl _
  | cons member rest ih =>
    rw [List.map_cons, List.mem_cons, not_or] at h
    obtain ⟨hother, hrest⟩ := h
    rw [insert]
    split
    · exact .refl _
    · exact ((ih hrest).cons _).trans (.swap _ _ _)

theorem names_foldl_insert_perm {members done : Members}
    (h : (members.map Prod.fst ++ done.map Prod.fst).Nodup) :
    ((members.foldl (fun done (name, value) => insert name value done) done).map Prod.fst).Perm
      (members.map Prod.fst ++ done.map Prod.fst) := by
  induction members generalizing done with
  | nil => exact .refl _
  | cons member members ih =>
    obtain ⟨hmember, hnodup⟩ := List.nodup_cons.mp h
    have hinsert := names_insert_perm member.2 fun hdone => hmember (List.mem_append_right _ hdone)
    have hmove := (hinsert.append_left (members.map Prod.fst)).trans List.perm_middle
    exact (ih (hmove.nodup_iff.mpr h)).trans hmove

/-- putting members in order neither drops nor adds one -/
theorem names_sorted_perm {members : Members} (h : (members.map Prod.fst).Nodup) :
    ((sorted members).map Prod.fst).Perm (members.map Prod.fst) := by
  have hnodup : (members.map Prod.fst ++ ([] : Members).map Prod.fst).Nodup := by
    rwa [List.map_nil, List.append_nil]
  have hperm := names_foldl_insert_perm hnodup
  rwa [List.map_nil, List.append_nil] at hperm

end Value

/-! ## Layouts -/

namespace Member

section

variable (m : Member ρ α) (r : ρ)

/-- what an object of the record holds for the member -/
def written? : Option Value :=
  if m.omitted (m.get r) then none else some (m.content.write (m.get r))

/-- what is left out is what its absence means -/
def Recovers : Prop := ∀ a, m.omitted a = true → m.absent = some a

theorem find?_toMembers_self : Value.find? (m.toMembers r) m.name = m.written? r := by
  unfold toMembers written?
  split
  · rfl
  · exact List.lookup_cons_self

theorem required_toMembers (name : String) (content : Codec α) (get : ρ → α) (r : ρ) :
    (required name content get).toMembers r = [(name, content.write (get r))] := rfl

theorem defaulted_toMembers (name : String) (content : Codec α) (get : ρ → α) (default : α)
    (r : ρ) :
    (defaulted name content get default).toMembers r = [(name, content.write (get r))] := rfl

theorem optional_toMembers (name : String) (content : Codec α) (get : ρ → Option α) (r : ρ) :
    (optional name content get).toMembers r = [(name, content.optional.write (get r))] := rfl

theorem names_toMembers : ((m.toMembers r).map Prod.fst).Sublist [m.name] := by
  unfold toMembers
  split <;> simp

theorem takes_of_written {members : Value.Members} (place : Nat) (hrecovers : m.Recovers)
    (hkeeps : m.content.Keeps (m.get r)) (h : Value.find? members m.name = m.written? r) :
    m.Takes (.object members) place (m.get r) := by
  have hmember : (Value.object members).member? m.name place = m.written? r := h
  unfold written? at hmember
  split at hmember
  · rename_i homitted
    exact (m.takes_of_none hmember).mpr (hrecovers _ homitted)
  · exact (m.takes_of_some hmember).mpr hkeeps

end

theorem required_recovers (name : String) (content : Codec α) (get : ρ → α) :
    (Member.required name content get).Recovers := nofun

theorem defaulted_recovers (name : String) (content : Codec α) (get : ρ → α) (default : α) :
    (Member.defaulted name content get default).Recovers := nofun

theorem optional_recovers (name : String) (content : Codec α) (get : ρ → Option α) :
    (Member.optional name content get).Recovers := nofun

/-- leaving out nothing agrees with an absence that means nothing -/
theorem skipping_isNone_recovers {m : Member ρ (Option α)} (h : m.absent = some none) :
    (m.skipping Option.isNone).Recovers := by
  intro o ho
  rw [Option.isNone_iff_eq_none.mp ho]
  exact h

theorem skipping_isEmpty_recovers {m : Member ρ (List α)} (h : m.absent = some []) :
    (m.skipping List.isEmpty).Recovers := by
  intro as has
  rw [List.isEmpty_iff.mp has]
  exact h

end Member

namespace Layout

/-- what the layout makes of the contents of `r` -/
def build (r : ρ) : Layout ρ α → α
  | start make => make
  | member before m => before.build r (m.get r)

/-- each member recovers what it leaves out -/
def Recovers : Layout ρ α → Prop
  | start _ => True
  | member before m => before.Recovers ∧ m.Recovers

/-- each member keeps its content of `r` -/
def Keeps (r : ρ) : Layout ρ α → Prop
  | start _ => True
  | member before m => before.Keeps r ∧ m.content.Keeps (m.get r)

/-- the members hold the record, whatever else is among them -/
def Written (members : Value.Members) (r : ρ) : Layout ρ α → Prop
  | start _ => True
  | member before m => before.Written members r ∧ Value.find? members m.name = m.written? r

variable {layout : Layout ρ α} {members : Value.Members} {r : ρ}

theorem names_toMembers (layout : Layout ρ α) (r : ρ) :
    ((layout.toMembers r).map Prod.fst).Sublist layout.names := by
  induction layout with
  | start make => exact .slnil
  | member before m ih =>
    rw [toMembers, names, List.map_append]
    exact ih.append (m.names_toMembers r)

/-- the layout looks at its own names only -/
theorem Written.congr {others : Value.Members} (h : layout.Written members r)
    (hsame : ∀ name ∈ layout.names, Value.find? others name = Value.find? members name) :
    layout.Written others r := by
  induction layout with
  | start make => exact trivial
  | member before m ih =>
    obtain ⟨hbefore, hm⟩ := h
    rw [names, List.forall_mem_append] at hsame
    exact ⟨ih hbefore hsame.1, (hsame.2 m.name (List.mem_singleton_self _)).trans hm⟩

theorem written_toMembers (h : layout.names.Nodup) (r : ρ) :
    layout.Written (layout.toMembers r) r := by
  induction layout with
  | start make => exact trivial
  | member before m ih =>
    rw [names, List.nodup_append] at h
    obtain ⟨hnodup, -, hdisjoint⟩ := h
    have hother : ∀ name ∈ before.names, name ≠ m.name := fun name hname =>
      hdisjoint name hname m.name (List.mem_singleton_self _)
    refine ⟨(ih hnodup).congr fun name hname => ?_, ?_⟩
    · have hm : Value.find? (m.toMembers r) name = none := Value.find?_eq_none fun hmem =>
        hother name hname (List.mem_singleton.mp ((m.names_toMembers r).subset hmem))
      rw [toMembers, Value.find?_append, hm, Option.or_none]
    · have hbefore : Value.find? (before.toMembers r) m.name = none :=
        Value.find?_eq_none fun hmem =>
          hother m.name ((before.names_toMembers r).subset hmem) rfl
      rw [toMembers, Value.find?_append, hbefore, Option.none_or, m.find?_toMembers_self]

/-- the written object holds the record -/
theorem written_sorted (h : layout.names.Nodup) (r : ρ) :
    layout.Written (Value.sorted (layout.toMembers r)) r :=
  (written_toMembers h r).congr fun name _ =>
    Value.find?_sorted ((layout.names_toMembers r).nodup h) name

theorem find?_sorted_eq_some_iff (h : layout.names.Nodup) {name : String} {x : Value} :
    Value.find? (Value.sorted (layout.toMembers r)) name = some x ↔
      (name, x) ∈ layout.toMembers r := by
  have hnodup := (layout.names_toMembers r).nodup h
  rw [Value.find?_sorted hnodup, Value.find?_eq_some_iff hnodup]

/-- a member that a lawful codec writes tells its content -/
theorem find?_sorted_eq_write_iff (h : layout.names.Nodup) {c : Codec β} (hc : c.Lawful)
    {name : String} {a b : β} (hmem : (name, c.write a) ∈ layout.toMembers r) :
    Value.find? (Value.sorted (layout.toMembers r)) name = some (c.write b) ↔ a = b := by
  rw [(find?_sorted_eq_some_iff h).mpr hmem, Option.some_inj, hc.injective.eq_iff]

theorem Written.takes (h : layout.Written members r) (hrecovers : layout.Recovers)
    (hkeeps : layout.Keeps r) : layout.Takes (.object members) (layout.build r) := by
  induction layout with
  | start make => rfl
  | member before m ih =>
    exact ⟨_, _, ih h.1 hrecovers.1 hkeeps.1, m.takes_of_written r _ hrecovers.2 hkeeps.2 h.2, rfl⟩

/-- what a layout has to see to, so that nothing written is lost -/
structure Faithful (layout : Layout ρ ρ) : Prop where
  nodup : layout.names.Nodup
  recovers : layout.Recovers
  build : ∀ r, layout.build r = r

namespace Faithful

variable {layout : Layout ρ ρ}

/-- **A record is kept when each of its members is.** -/
theorem codec_keeps (h : layout.Faithful) (title : String) {r : ρ} (hkeeps : layout.Keeps r) :
    (layout.codec title).Keeps r := by
  have htakes := (written_sorted h.nodup r).takes h.recovers hkeeps
  rw [h.build] at htakes
  exact (codec_read_eq_ok_iff title layout _ r).mpr ⟨trivial, htakes⟩

theorem codec_lawful (h : layout.Faithful) (title : String) (hkeeps : ∀ r, layout.Keeps r) :
    (layout.codec title).Lawful := fun r => h.codec_keeps title (hkeeps r)

end Faithful

theorem codec_neverNull (layout : Layout ρ ρ) (title : String) :
    (layout.codec title).NeverNull := fun _ => nofun

end Layout

end RightSizing
