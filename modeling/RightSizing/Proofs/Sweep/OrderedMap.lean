import Mathlib.Data.Finset.Card
import Mathlib.Data.List.Basic
import RightSizing.Proofs.Sweep.Insertion

/-!
# A sweep is an insertion-ordered map

Both searches of a sweep stop at the first entry of a name, and they are right to do so: insertions
never give a name a second entry.  With that, an insertion either replaces one entry in its place or
adds one at the end (`Sweep.entries_insert`), a sweep is no more than its names and what it answers
to them (`Sweep.eq_iff_of_nodup`), and two lists of insertions make the same sweep exactly if they
bring in the same names in the same order and leave each with the same candidates.

* `Sweep.firstPlace`  where a name is first inserted
* `Sweep.replaced`    an entry after an insertion of some name
* `Sweep.IsMapOf`     the insertion-ordered map of a list of insertions
-/

namespace RightSizing

namespace Sweep

/-- where a name is inserted for the first time -/
def firstPlace (insertions : List (String × Candidates)) (name : String) : Nat :=
  (insertions.map Prod.fst).idxOf name

/-- the name gets new candidates, every other entry stays -/
def replaced (name : String) (c : Candidates) (entry : String × Candidates) :
    String × Candidates :=
  if entry.1 = name then (name, c) else entry

structure IsMapOf (insertions : List (String × Candidates)) (s : Sweep) : Prop where
  nodup : s.names.Nodup
  mem_names : ∀ name, name ∈ s.names ↔ name ∈ insertions.map Prod.fst
  ordered : s.names.Pairwise fun a b => firstPlace insertions a < firstPlace insertions b
  /-- of several insertions of a name the last one counts -/
  find?_eq_some_iff : ∀ name c, s.find? name = some c ↔
    ∃ before after, insertions = before ++ (name, c) :: after ∧ name ∉ after.map Prod.fst
  find?_eq_none_iff : ∀ name, s.find? name = none ↔ name ∉ insertions.map Prod.fst
  length_eq : s.length = (insertions.map Prod.fst).toFinset.card
  isEmpty_iff : s.isEmpty = true ↔ insertions = []
  entries_insert : ∀ name c, (s.insert name c).entries =
    if name ∈ s.names then s.entries.map (replaced name c) else s.entries ++ [(name, c)]

section
variable (insertions : List (String × Candidates))

theorem mem_firstNames {name : String} :
    name ∈ firstNames insertions ↔ name ∈ insertions.map Prod.fst :=
  List.mem_eraseDups

/-- a further insertion does not move a name that was there before -/
theorem firstPlace_append_of_mem (entry : String × Candidates) {name : String}
    (h : name ∈ insertions.map Prod.fst) :
    firstPlace (insertions ++ [entry]) name = firstPlace insertions name := by
  unfold firstPlace
  rw [List.map_append, List.idxOf_append_of_mem h]

theorem firstPlace_lt_of_notMem (c : Candidates) {name last : String}
    (h : name ∈ insertions.map Prod.fst) (hlast : last ∉ insertions.map Prod.fst) :
    firstPlace (insertions ++ [(last, c)]) name < firstPlace (insertions ++ [(last, c)]) last := by
  have hlt : firstPlace insertions name < (insertions.map Prod.fst).length :=
    List.idxOf_lt_length_of_mem h
  rw [firstPlace_append_of_mem insertions _ h]
  unfold firstPlace at hlt ⊢
  rw [List.map_append, List.idxOf_append_of_notMem hlast]
  exact Nat.lt_add_right _ hlt

theorem firstNames_ordered :
    (firstNames insertions).Pairwise fun a b =>
      firstPlace insertions a < firstPlace insertions b := by
  induction insertions using List.reverseRecOn with
  | nil => exact List.Pairwise.nil
  | append_singleton insertions entry ih =>
    obtain ⟨last, c⟩ := entry
    have hold : (firstNames insertions).Pairwise fun a b =>
        firstPlace (insertions ++ [(last, c)]) a < firstPlace (insertions ++ [(last, c)]) b := by
      refine ih.imp_of_mem fun {a b} ha hb hab => ?_
      rw [firstPlace_append_of_mem _ _ ((mem_firstNames insertions).mp ha),
        firstPlace_append_of_mem _ _ ((mem_firstNames insertions).mp hb)]
      exact hab
    rw [firstNames_append_singleton]
    split
    · exact hold
    · next hnew =>
      refine List.pairwise_append.mpr ⟨hold, List.pairwise_singleton _ _, fun a ha b hb => ?_⟩
      rw [List.mem_singleton.mp hb]
      exact firstPlace_lt_of_notMem insertions c ((mem_firstNames insertions).mp ha)
        (mt (mem_firstNames insertions).mpr hnew)

theorem forall_bne_iff {name : String} :
    (∀ entry ∈ insertions, (name != entry.1) = true) ↔ name ∉ insertions.map Prod.fst := by
  rw [List.mem_map]
  constructor
  · rintro h ⟨entry, he, hname⟩
    exact (bne_iff_ne.mp (h entry he)) hname.symm
  · intro h entry he
    exact bne_iff_ne.mpr fun hname => h ⟨entry, he, hname.symm⟩

theorem lastGiven?_eq_some_iff {name : String} {c : Candidates} :
    lastGiven? insertions name = some c ↔
      ∃ before after, insertions = before ++ (name, c) :: after ∧ name ∉ after.map Prod.fst := by
  unfold lastGiven?
  rw [List.lookup_eq_some_iff]
  constructor
  · rintro ⟨after, before, h, hafter⟩
    refine ⟨before.reverse, after.reverse, ?_, ?_⟩
    · rw [← List.reverse_reverse insertions, h, List.reverse_append, List.reverse_cons,
        List.append_assoc, List.singleton_append]
    · rw [List.map_reverse, List.mem_reverse]
      exact (forall_bne_iff after).mp hafter
  · rintro ⟨before, after, h, hafter⟩
    refine ⟨after.reverse, before.reverse, ?_, ?_⟩
    · rw [h, List.reverse_append, List.reverse_cons, List.append_assoc, List.singleton_append]
    · rw [forall_bne_iff, List.map_reverse, List.mem_reverse]
      exact hafter

theorem lastGiven?_eq_none_iff {name : String} :
    lastGiven? insertions name = none ↔ name ∉ insertions.map Prod.fst := by
  unfold lastGiven?
  rw [List.lookup_eq_none_iff, forall_bne_iff, List.map_reverse, List.mem_reverse]

end

/-! ## One insertion -/

section
variable {name : String} {entries : List (String × Candidates)} (c : Candidates)

theorem set_of_notMem (h : name ∉ entries.map Prod.fst) :
    set name c entries = entries ++ [(name, c)] := by
  induction entries with
  | nil => rfl
  | cons entry rest ih =>
    obtain ⟨head, old⟩ := entry
    have hhead : head ≠ name := fun e => h (e ▸ List.mem_cons_self)
    have hrest : name ∉ rest.map Prod.fst := fun hmem => h (List.mem_cons_of_mem head hmem)
    rw [set_cons, if_neg hhead, ih hrest, List.cons_append]

theorem map_replaced_of_notMem (h : name ∉ entries.map Prod.fst) :
    entries.map (replaced name c) = entries := by
  have hkept : ∀ entry ∈ entries, replaced name c entry = id entry := by
    intro entry he
    have hne : entry.1 ≠ name := fun hname => h (hname ▸ List.mem_map_of_mem he)
    exact if_neg hne
  rw [List.map_congr_left hkept, List.map_id]

theorem set_of_mem (hn : (entries.map Prod.fst).Nodup) (h : name ∈ entries.map Prod.fst) :
    set name c entries = entries.map (replaced name c) := by
  induction entries with
  | nil => cases h
  | cons entry rest ih =>
    obtain ⟨head, old⟩ := entry
    obtain ⟨hhead, hrest⟩ := List.nodup_cons.mp hn
    rw [set_cons, List.map_cons, replaced]
    by_cases hh : head = name
    · rw [if_pos hh, if_pos hh, map_replaced_of_notMem c (hh ▸ hhead), hh]
    · have hmem : name ∈ rest.map Prod.fst := List.mem_of_ne_of_mem (Ne.symm hh) h
      rw [if_neg hh, if_neg hh, ih hrest hmem]

theorem entries_insert {s : Sweep} (hs : s.names.Nodup) (name : String) :
    (s.insert name c).entries =
      if name ∈ s.names then s.entries.map (replaced name c) else s.entries ++ [(name, c)] := by
  split
  · next h => exact set_of_mem c hs h
  · next h => exact set_of_notMem c h

end

/-! ## Names and answers -/

theorem map_find?_names {s : Sweep} (hs : s.names.Nodup) :
    s.names.map (fun name => (name, s.find? name)) =
      s.entries.map fun entry => (entry.1, some entry.2) := by
  unfold names
  rw [List.map_map]
  exact List.map_congr_left fun entry he => congrArg (Prod.mk entry.1) (lookup_of_mem _ hs he)

theorem eq_iff_of_nodup {s t : Sweep} (hs : s.names.Nodup) (ht : t.names.Nodup) :
    s = t ↔ s.names = t.names ∧ ∀ name ∈ s.names, s.find? name = t.find? name := by
  refine ⟨fun h => h ▸ ⟨rfl, fun name _ => rfl⟩, fun ⟨hnames, hfind⟩ => ?_⟩
  have hanswers : s.names.map (fun name => (name, s.find? name)) =
      t.names.map fun name => (name, t.find? name) := by
    rw [← hnames]
    exact List.map_congr_left fun name h => congrArg (Prod.mk name) (hfind name h)
  rw [map_find?_names hs, map_find?_names ht] at hanswers
  have hinj : Function.Injective fun entry : String × Candidates => (entry.1, some entry.2) := by
    intro entry entry' h
    obtain ⟨hname, hc⟩ := Prod.mk.inj h
    exact Prod.ext hname (Option.some.inj hc)
  have hentries : s.entries = t.entries := List.map_injective_iff.mpr hinj hanswers
  cases s
  cases t
  exact congrArg Sweep.mk hentries

/-! ## Insertions -/

theorem length_ofList (insertions : List (String × Candidates)) :
    (ofList insertions).length = (insertions.map Prod.fst).toFinset.card := by
  have hset : (firstNames insertions).toFinset = (insertions.map Prod.fst).toFinset := by
    ext name
    rw [List.mem_toFinset, List.mem_toFinset, mem_firstNames]
  calc (ofList insertions).length = (ofList insertions).names.length :=
        (List.length_map Prod.fst).symm
    _ = (firstNames insertions).length := by rw [names_ofList]
    _ = (firstNames insertions).toFinset.card :=
        (List.toFinset_card_of_nodup (nodup_firstNames insertions)).symm
    _ = (insertions.map Prod.fst).toFinset.card := by rw [hset]

theorem isEmpty_ofList_iff (insertions : List (String × Candidates)) :
    (ofList insertions).isEmpty = true ↔ insertions = [] := by
  unfold isEmpty
  rw [List.isEmpty_iff_length_eq_zero]
  show (ofList insertions).length = 0 ↔ _
  rw [length_ofList, Finset.card_eq_zero, List.toFinset_eq_empty_iff, List.map_eq_nil_iff]

theorem ofList_isMapOf (insertions : List (String × Candidates)) :
    IsMapOf insertions (ofList insertions) where
  nodup := nodup_names_ofList insertions
  mem_names name := by rw [names_ofList, mem_firstNames]
  ordered := by
    rw [names_ofList]
    exact firstNames_ordered insertions
  find?_eq_some_iff name c := by rw [find?_ofList, lastGiven?_eq_some_iff]
  find?_eq_none_iff name := by rw [find?_ofList, lastGiven?_eq_none_iff]
  length_eq := length_ofList insertions
  isEmpty_iff := isEmpty_ofList_iff insertions
  entries_insert name c := entries_insert c (nodup_names_ofList insertions) name

theorem ofList_eq_iff (insertions insertions' : List (String × Candidates)) :
    ofList insertions = ofList insertions' ↔
      firstNames insertions = firstNames insertions' ∧
        ∀ name ∈ firstNames insertions,
          lastGiven? insertions name = lastGiven? insertions' name := by
  rw [eq_iff_of_nodup (nodup_names_ofList insertions) (nodup_names_ofList insertions'),
    names_ofList, names_ofList]
  simp only [find?_ofList]

/-- **A sweep is the insertion-ordered map of its insertions**, and two lists of insertions make the
same one exactly if they bring in the same names in the same order and leave each with the same
candidates. -/
theorem ofList_insertionOrdered :
    (∀ insertions, IsMapOf insertions (ofList insertions)) ∧
      ∀ insertions insertions', ofList insertions = ofList insertions' ↔
        firstNames insertions = firstNames insertions' ∧
          ∀ name ∈ firstNames insertions,
            lastGiven? insertions name = lastGiven? insertions' name :=
  ⟨ofList_isMapOf, ofList_eq_iff⟩

/-- a name that comes back keeps its place -/
example :
    (ofList [("B", ⟨["1"]⟩), ("A", ⟨["2"]⟩), ("B", ⟨["3", "4"]⟩)]).entries =
      [("B", ⟨["3", "4"]⟩), ("A", ⟨["2"]⟩)] := by decide

end Sweep

end RightSizing
