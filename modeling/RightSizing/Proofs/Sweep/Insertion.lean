import Mathlib.Data.List.Induction
import RightSizing.Sweep

/-!
# The map behind a sweep

A sweep is made by insertions.  In whatever order they come and however often a name is repeated,
the sweep answers a name by its last candidates (`Sweep.find?_ofList`) and keeps the names in the
order of their first insertions, each of them once (`Sweep.names_ofList`).

* `firstNames`, `lastGiven?`   what a list of insertions says
* `Sweep.environment_ofList`   the other parameters do not know where the instance types came in
-/

namespace RightSizing

namespace Sweep

def names (s : Sweep) : List String := s.entries.map Prod.fst

/-- the names of some insertions, in the order of their first insertions -/
def firstNames (insertions : List (String × Candidates)) : List String :=
  (insertions.map Prod.fst).eraseDups

/-- the candidates of the last insertion of a name -/
def lastGiven? (insertions : List (String × Candidates)) (name : String) : Option Candidates :=
  insertions.reverse.lookup name

/-- the insertions of all parameters but the instance types -/
def others (insertions : List (String × Candidates)) : List (String × Candidates) :=
  insertions.filter (·.1 ≠ instanceTypesName)

theorem lookup_entry (name other : String) (c : Candidates)
    (entries : List (String × Candidates)) :
    List.lookup other ((name, c) :: entries) =
      if other = name then some c else entries.lookup other := by
  by_cases h : other = name
  · rw [if_pos h, h, List.lookup_cons_self]
  · rw [if_neg h, List.lookup_cons, beq_false_of_ne h]

theorem firstNames_append_singleton (insertions : List (String × Candidates)) (name : String)
    (c : Candidates) :
    firstNames (insertions ++ [(name, c)]) =
      if name ∈ firstNames insertions then firstNames insertions
      else firstNames insertions ++ [name] := by
  unfold firstNames
  rw [List.map_append, List.map_singleton, List.eraseDups_append]
  by_cases h : name ∈ insertions.map Prod.fst
  · rw [if_pos (List.mem_eraseDups.mpr h)]
    have hr : [name].removeAll (insertions.map Prod.fst) = [] := by simpa [List.removeAll] using h
    rw [hr]
    exact List.append_nil _
  · rw [if_neg (mt List.mem_eraseDups.mp h)]
    have hr : [name].removeAll (insertions.map Prod.fst) = [name] := by
      simpa [List.removeAll] using h
    rw [hr]
    rfl

theorem lastGiven?_append_singleton (insertions : List (String × Candidates)) (name other : String)
    (c : Candidates) :
    lastGiven? (insertions ++ [(name, c)]) other =
      if other = name then some c else lastGiven? insertions other := by
  unfold lastGiven?
  rw [List.reverse_append, List.reverse_singleton, List.singleton_append, lookup_entry]

/-! ## Entries -/

section
variable (name other : String) (c : Candidates) (entries : List (String × Candidates))

theorem lookup_set :
    (set name c entries).lookup other = if other = name then some c else entries.lookup other := by
  induction entries with
  | nil => rw [set_nil, lookup_entry]
  | cons entry rest ih =>
    obtain ⟨head, old⟩ := entry
    rw [set_cons, lookup_entry head]
    by_cases hh : head = name
    · rw [if_pos hh, lookup_entry, hh]
      by_cases h : other = name
      · rw [if_pos h, if_pos h]
      · rw [if_neg h, if_neg h, if_neg h]
    · rw [if_neg hh, lookup_entry, ih]
      by_cases h : other = head
      · have hne : other ≠ name := fun e => hh (h.symm.trans e)
        rw [if_pos h, if_neg hne, if_pos h]
      · rw [if_neg h, if_neg h]

theorem map_fst_set :
    (set name c entries).map Prod.fst =
      if name ∈ entries.map Prod.fst then entries.map Prod.fst
      else entries.map Prod.fst ++ [name] := by
  induction entries with
  | nil => simp [set_nil]
  | cons entry rest ih =>
    obtain ⟨head, old⟩ := entry
    rw [set_cons]
    by_cases hh : head = name
    · simp [hh]
    · have hne : name ≠ head := fun e => hh e.symm
      rw [if_neg hh, List.map_cons, ih, List.map_cons]
      by_cases h : name ∈ rest.map Prod.fst
      · rw [if_pos h, if_pos (List.mem_cons_of_mem head h)]
      · rw [if_neg h, if_neg (List.not_mem_cons_of_ne_of_not_mem hne h), List.cons_append]

theorem filter_set_of_ne {skipped : String} (h : name ≠ skipped) :
    (set name c entries).filter (·.1 ≠ skipped) = set name c (entries.filter (·.1 ≠ skipped)) := by
  induction entries with
  | nil => simp [set_nil, h]
  | cons entry rest ih =>
    obtain ⟨head, old⟩ := entry
    rw [set_cons]
    by_cases hh : head = name
    · rw [if_pos hh]
      simp [hh, h, set_cons]
    · rw [if_neg hh]
      by_cases hs : head = skipped
      · simpa [hs] using ih
      · simp only [ne_eq, decide_not] at ih
        simp [hs, set_cons, hh, ih]

theorem filter_set_self :
    (set name c entries).filter (·.1 ≠ name) = entries.filter (·.1 ≠ name) := by
  induction entries with
  | nil => simp [set_nil]
  | cons entry rest ih =>
    obtain ⟨head, old⟩ := entry
    rw [set_cons]
    by_cases hh : head = name
    · simp [hh]
    · simp only [ne_eq, decide_not] at ih
      simp [hh, ih]

/-- where names do not repeat, an entry is found by its name -/
theorem lookup_of_mem {entry : String × Candidates} (hn : (entries.map Prod.fst).Nodup)
    (he : entry ∈ entries) : entries.lookup entry.1 = some entry.2 := by
  induction entries with
  | nil => cases he
  | cons head rest ih =>
    obtain ⟨hhead, hrest⟩ := List.nodup_cons.mp hn
    rw [lookup_entry head.1]
    rcases List.mem_cons.mp he with rfl | he
    · rw [if_pos rfl]
    · have hne : entry.1 ≠ head.1 := fun e => hhead (e ▸ List.mem_map_of_mem he)
      rw [if_neg hne, ih hrest he]

end

/-! ## Insertions -/

theorem find?_insert (s : Sweep) (name other : String) (c : Candidates) :
    (s.insert name c).find? other = if other = name then some c else s.find? other :=
  lookup_set name other c s.entries

theorem names_insert (s : Sweep) (name : String) (c : Candidates) :
    (s.insert name c).names = if name ∈ s.names then s.names else s.names ++ [name] :=
  map_fst_set name c s.entries

theorem mem_names_insert {s : Sweep} {name other : String} {c : Candidates} :
    other ∈ (s.insert name c).names ↔ other = name ∨ other ∈ s.names := by
  rw [names_insert]
  split
  · next h => exact ⟨.inr, fun ho => ho.elim (fun e => e ▸ h) id⟩
  · rw [List.mem_append, List.mem_singleton, or_comm]

/-- an insertion never gives a name a second place -/
theorem nodup_names_insert {s : Sweep} (hs : s.names.Nodup) (name : String) (c : Candidates) :
    (s.insert name c).names.Nodup := by
  rw [names_insert]
  split
  · exact hs
  · next h =>
    refine List.nodup_append.mpr ⟨hs, List.nodup_cons.mpr ⟨by simp, List.nodup_nil⟩, ?_⟩
    intro old hold new hnew
    rw [List.mem_singleton.mp hnew]
    exact fun e => h (e ▸ hold)

/-- a name is answered by its last candidates -/
theorem find?_ofList (insertions : List (String × Candidates)) (name : String) :
    (ofList insertions).find? name = lastGiven? insertions name := by
  induction insertions using List.reverseRecOn with
  | nil => rfl
  | append_singleton insertions entry ih =>
    obtain ⟨last, c⟩ := entry
    rw [ofList_append_singleton, find?_insert, ih, lastGiven?_append_singleton]

/-- the names stand in the order of their first insertions -/
theorem names_ofList (insertions : List (String × Candidates)) :
    (ofList insertions).names = firstNames insertions := by
  induction insertions using List.reverseRecOn with
  | nil => rfl
  | append_singleton insertions entry ih =>
    obtain ⟨last, c⟩ := entry
    rw [ofList_append_singleton, names_insert, ih, firstNames_append_singleton]

theorem nodup_names_ofList (insertions : List (String × Candidates)) :
    (ofList insertions).names.Nodup := by
  induction insertions using List.reverseRecOn with
  | nil => exact List.nodup_nil
  | append_singleton insertions entry ih =>
    obtain ⟨last, c⟩ := entry
    rw [ofList_append_singleton]
    exact nodup_names_insert ih last c

theorem nodup_firstNames (insertions : List (String × Candidates)) :
    (firstNames insertions).Nodup := by
  rw [← names_ofList]
  exact nodup_names_ofList insertions

/-- the other parameters are those that are left when no instance types are inserted at all -/
theorem environment_ofList (insertions : List (String × Candidates)) :
    (ofList insertions).environment = (ofList (others insertions)).entries := by
  induction insertions using List.reverseRecOn with
  | nil => rfl
  | append_singleton insertions entry ih =>
    obtain ⟨last, c⟩ := entry
    rw [ofList_append_singleton]
    unfold others at ih ⊢
    rw [List.filter_append]
    by_cases h : last = instanceTypesName
    · subst h
      have hs : [(instanceTypesName, c)].filter (·.1 ≠ instanceTypesName) = [] := by simp
      rw [hs, List.append_nil, ← ih]
      exact filter_set_self instanceTypesName c (ofList insertions).entries
    · have hs : [(last, c)].filter (·.1 ≠ instanceTypesName) = [(last, c)] := by simp [h]
      rw [hs, ofList_append_singleton]
      show (set last c (ofList insertions).entries).filter _ = set last c (ofList _).entries
      rw [filter_set_of_ne last c _ h, ← ih]
      rfl

end Sweep

end RightSizing
