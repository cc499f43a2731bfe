import RightSizing.Proofs.Sweep.OrderedMap

/-!
# When insertions commute

Two insertions of different names leave the same answers in either order; only the order of the
names can tell which one came first, and it tells exactly if both names were new
(`Sweep.insert_comm_iff`).  So a name that is there already can be inserted in front of any
insertions of other names instead of behind them (`Sweep.insertAll_insert_of_mem`), and a second
insertion of a name is absorbed by the first one, however far back that one is
(`Sweep.ofList_absorb`).

* `Sweep.insertAll`   insertions one after the other, on top of a sweep
-/

namespace RightSizing

namespace Sweep

/-- insertions one after the other, on top of those that made the sweep -/
def insertAll (s : Sweep) (insertions : List (String × Candidates)) : Sweep :=
  insertions.foldl (fun s (name, c) => s.insert name c) s

theorem insertAll_cons (s : Sweep) (name : String) (c : Candidates)
    (rest : List (String × Candidates)) :
    s.insertAll ((name, c) :: rest) = (s.insert name c).insertAll rest := rfl

theorem ofList_append (earlier later : List (String × Candidates)) :
    ofList (earlier ++ later) = (ofList earlier).insertAll later :=
  List.foldl_append

/-! ## Two insertions -/

section
variable {s : Sweep} {a b : String} (p q : Candidates)

theorem find?_insert_comm (hab : a ≠ b) (name : String) :
    ((s.insert a p).insert b q).find? name = ((s.insert b q).insert a p).find? name := by
  rw [find?_insert, find?_insert, find?_insert, find?_insert]
  by_cases hb : name = b
  · have ha : name ≠ a := fun e => hab (e.symm.trans hb)
    rw [if_pos hb, if_neg ha, if_pos hb]
  · rw [if_neg hb, if_neg hb]

theorem names_insert_of_mem (ha : a ∈ s.names) : (s.insert a p).names = s.names := by
  rw [names_insert, if_pos ha]

theorem names_insert_comm_of_mem (ha : a ∈ s.names) :
    ((s.insert a p).insert b q).names = ((s.insert b q).insert a p).names := by
  have hstill : a ∈ (s.insert b q).names := mem_names_insert.mpr (.inr ha)
  rw [names_insert_of_mem p hstill, names_insert, names_insert_of_mem p ha, ← names_insert s b q]

/-- two new names stand in the order of their insertions -/
theorem names_insert_insert_of_notMem (hab : a ≠ b) (ha : a ∉ s.names) (hb : b ∉ s.names) :
    ((s.insert a p).insert b q).names = s.names ++ [a, b] := by
  have hnew : b ∉ (s.insert a p).names := fun h =>
    (mem_names_insert.mp h).elim (fun e => hab e.symm) hb
  rw [names_insert, if_neg hnew, names_insert, if_neg ha, List.append_assoc]
  rfl

theorem names_insert_comm_iff (hab : a ≠ b) :
    ((s.insert a p).insert b q).names = ((s.insert b q).insert a p).names ↔
      a ∈ s.names ∨ b ∈ s.names := by
  constructor
  · intro h
    by_contra hnew
    obtain ⟨ha, hb⟩ := not_or.mp hnew
    rw [names_insert_insert_of_notMem p q hab ha hb,
      names_insert_insert_of_notMem q p hab.symm hb ha] at h
    exact hab (List.cons.inj (List.append_cancel_left h)).1
  · rintro (ha | hb)
    · exact names_insert_comm_of_mem p q ha
    · exact (names_insert_comm_of_mem q p hb).symm

theorem insert_comm_iff (hs : s.names.Nodup) (hab : a ≠ b) :
    (s.insert a p).insert b q = (s.insert b q).insert a p ↔ a ∈ s.names ∨ b ∈ s.names := by
  have hpq := nodup_names_insert (nodup_names_insert hs a p) b q
  have hqp := nodup_names_insert (nodup_names_insert hs b q) a p
  rw [eq_iff_of_nodup hpq hqp, names_insert_comm_iff p q hab]
  exact and_iff_left fun name _ => find?_insert_comm p q hab name

theorem insert_insert_self (hs : s.names.Nodup) : (s.insert a p).insert a q = s.insert a q := by
  have htwice := nodup_names_insert (nodup_names_insert hs a p) a q
  refine (eq_iff_of_nodup htwice (nodup_names_insert hs a q)).mpr ⟨?_, fun name _ => ?_⟩
  · rw [names_insert_of_mem q (mem_names_insert.mpr (.inl rfl)), names_insert, names_insert]
  · rw [find?_insert, find?_insert, find?_insert]
    by_cases ha : name = a
    · rw [if_pos ha, if_pos ha]
    · rw [if_neg ha, if_neg ha, if_neg ha]

end

/-! ## An insertion and many others -/

section
variable {s : Sweep} {a : String} {between : List (String × Candidates)} (p q : Candidates)

theorem insertAll_insert_of_mem (hs : s.names.Nodup) (ha : a ∈ s.names)
    (hbetween : a ∉ between.map Prod.fst) :
    (s.insertAll between).insert a q = (s.insert a q).insertAll between := by
  induction between generalizing s with
  | nil => rfl
  | cons entry rest ih =>
    obtain ⟨b, c⟩ := entry
    obtain ⟨hab, hrest⟩ := List.ne_and_not_mem_of_not_mem_cons hbetween
    -- no insertion takes a name out, so the rest is passed like the first one
    have hstill : a ∈ (s.insert b c).names := mem_names_insert.mpr (.inr ha)
    have hpast := ih (nodup_names_insert hs b c) hstill hrest
    have hswap := (insert_comm_iff q c hs hab).mpr (.inl ha)
    rw [insertAll_cons, insertAll_cons, hpast, hswap]

theorem insert_insertAll_insert (hs : s.names.Nodup) (hbetween : a ∉ between.map Prod.fst) :
    ((s.insert a p).insertAll between).insert a q = (s.insert a q).insertAll between := by
  have hthere : a ∈ (s.insert a p).names := mem_names_insert.mpr (.inl rfl)
  calc ((s.insert a p).insertAll between).insert a q
      = ((s.insert a p).insert a q).insertAll between :=
        insertAll_insert_of_mem q (nodup_names_insert hs a p) hthere hbetween
    _ = (s.insert a q).insertAll between := by rw [insert_insert_self p q hs]

theorem ofList_absorb (earlier later : List (String × Candidates))
    (hbetween : a ∉ between.map Prod.fst) :
    ofList (earlier ++ (a, p) :: between ++ (a, q) :: later) =
      ofList (earlier ++ (a, q) :: between ++ later) := by
  have hs := nodup_names_ofList earlier
  rw [ofList_append, ofList_append, insertAll_cons, insertAll_cons,
    insert_insertAll_insert p q hs hbetween, ofList_append, ofList_append, insertAll_cons]

end

/-- **Insertions of two names commute exactly if one of the names is there already**, and no search
tells their order in any case.  In a list of insertions a second one of the same name is absorbed by
the first: with its candidates put there, it can be left out, whatever other names come between. -/
theorem ofList_insertionsCommute (earlier : List (String × Candidates)) :
    let s := ofList earlier
    (∀ a b p q, a ≠ b →
      ((s.insert a p).insert b q = (s.insert b q).insert a p ↔ a ∈ s.names ∨ b ∈ s.names) ∧
        ∀ name, ((s.insert a p).insert b q).find? name =
          ((s.insert b q).insert a p).find? name) ∧
      ∀ a p q between later, a ∉ between.map Prod.fst →
        ofList (earlier ++ (a, p) :: between ++ (a, q) :: later) =
          ofList (earlier ++ (a, q) :: between ++ later) := by
  intro s
  have hs : s.names.Nodup := nodup_names_ofList earlier
  exact ⟨fun a b p q hab => ⟨insert_comm_iff p q hs hab, find?_insert_comm p q hab⟩,
    fun a p q between later hbetween => ofList_absorb p q earlier later hbetween⟩

/-- on top of `B`, a new `A` may change places with `B` but not with a new `C`; and a second `A`
reaches back over both -/
theorem insertionsCommute_of_known :
    let s := ofList [("B", ⟨["1"]⟩)]
    let between : List (String × Candidates) := [("B", ⟨["2"]⟩), ("C", ⟨["3"]⟩), ("B", ⟨[]⟩)]
    ("A" ≠ "B" ∧ (s.insert "A" ⟨["4"]⟩).insert "B" ⟨["5"]⟩ =
        (s.insert "B" ⟨["5"]⟩).insert "A" ⟨["4"]⟩) ∧
      ("A" ≠ "C" ∧ (s.insert "A" ⟨["4"]⟩).insert "C" ⟨["5"]⟩ ≠
        (s.insert "C" ⟨["5"]⟩).insert "A" ⟨["4"]⟩) ∧
      "A" ∉ between.map Prod.fst ∧
        ofList (("B", ⟨["1"]⟩) :: ("A", ⟨["4"]⟩) :: between ++ [("A", ⟨["6"]⟩)]) =
          ofList (("B", ⟨["1"]⟩) :: ("A", ⟨["6"]⟩) :: between) := by
  intro s between
  obtain ⟨hcomm, habsorb⟩ := ofList_insertionsCommute [("B", ⟨["1"]⟩)]
  have hB : "A" ≠ "B" := by decide
  have hC : "A" ≠ "C" := by decide
  have hbetween : "A" ∉ between.map Prod.fst := by decide
  have hnew : ¬("A" ∈ s.names ∨ "C" ∈ s.names) := by decide
  refine ⟨⟨hB, ((hcomm "A" "B" _ _ hB).1).mpr (.inr (by decide))⟩,
    ⟨hC, mt (hcomm "A" "C" _ _ hC).1.mp hnew⟩, hbetween, ?_⟩
  exact habsorb "A" ⟨["4"]⟩ ⟨["6"]⟩ between [] hbetween

end Sweep

end RightSizing
