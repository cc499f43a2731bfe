import Mathlib.Data.List.Induction
import Mathlib.Data.List.TakeDrop
import RightSizing.Proofs.Settings.Documented
import RightSizing.Settings.KeyPath

/-!
# Plain keys

A key that is no path sets one entry of the merged table and leaves the others alone.  So what the
table holds under a name comes from the entries whose keys are this name in some case, and it is one
of their values unless it is a table itself.

* `IsPlain.ofText`                 keys without dots and brackets are no paths
* `find?_merge_eq_none_iff`        nothing is held where nothing was written
* `mem_written_of_find?_merge`     what is held was written
-/

namespace RightSizing.Settings

theorem steps?_nil : steps? [] = some [] := by
  rw [steps?]
  rfl

theorem steps?_cons_eq_none {c : Char} {cs : List Char} (hdot : c ≠ '.') (hbracket : c ≠ '[') :
    steps? (c :: cs) = none := by
  have hstep : step? (c :: cs) = none := by
    unfold step?
    split
    · next h => exact absurd (List.cons.inj h).1 hdot
    · next h => exact absurd (List.cons.inj h).1 hbracket
    · rfl
  rw [steps?, if_neg (Bool.not_eq_true _ ▸ List.isEmpty_cons)]
  split
  · rfl
  · next h =>
    rw [hstep] at h
    cases h

/-- a plain key is a path of one step -/
theorem IsPlain.ofText {key : String} (h : IsPlain key) : KeyPath.ofText key = [.child key] := by
  obtain ⟨hdot, hbracket⟩ := h
  unfold KeyPath.ofText name?
  dsimp only
  have hsplit : key.toList.takeWhile isNameChar ++ key.toList.dropWhile isNameChar = key.toList :=
    List.takeWhile_append_dropWhile
  generalize key.toList.takeWhile isNameChar = name at hsplit
  generalize key.toList.dropWhile isNameChar = rest at hsplit
  cases name with
  | nil => rfl
  | cons first name =>
    cases rest with
    | nil =>
      rw [List.append_nil] at hsplit
      show ((steps? []).map (Step.child (String.ofList (first :: name)) :: ·)).getD _ = _
      rw [steps?_nil, hsplit, String.ofList_toList]
      rfl
    | cons c rest =>
      -- the character that ends the name starts no step
      have hc : c ∈ key.toList := by
        rw [← hsplit]
        exact List.mem_append_right _ List.mem_cons_self
      have hnone : steps? (c :: rest) = none :=
        steps?_cons_eq_none (fun h => hdot (h ▸ hc)) (fun h => hbracket (h ▸ hc))
      show ((steps? (c :: rest)).map (Step.child (String.ofList (first :: name)) :: ·)).getD _ = _
      rw [hnone]
      rfl

/-! ## One entry -/

theorem assign_object (key : String) (old : Value) (incoming : Value.Members) :
    assign key old (.object incoming) = .object (Value.insert (Text.lower key)
      (assignAll ((Value.find? (tableOf old) (Text.lower key)).getD (.object [])) incoming)
      (tableOf old)) := by
  rw [assign]

theorem assign_of_ne_object {x : Value} (h : ∀ members, x ≠ .object members) (key : String)
    (old : Value) :
    assign key old x = .object (Value.insert (Text.lower key) x (tableOf old)) := by
  cases x with
  | object members => exact absurd rfl (h members)
  | _ => rw [assign]; exact h

/-- whatever is assigned, there is a table afterwards -/
theorem assign_eq_object (key : String) (old x : Value) :
    ∃ members, assign key old x = .object members := by
  by_cases h : ∃ members, x = .object members
  · obtain ⟨members, rfl⟩ := h
    exact ⟨_, assign_object key old members⟩
  · exact ⟨_, assign_of_ne_object (not_exists.mp h) key old⟩

theorem assignAll_object (incoming table : Value.Members) :
    ∃ members, assignAll (.object table) incoming = .object members := by
  induction incoming generalizing table with
  | nil => exact ⟨table, by rw [assignAll]⟩
  | cons member incoming ih =>
    obtain ⟨key, x⟩ := member
    obtain ⟨members, hmembers⟩ := assign_eq_object key (.object table) x
    rw [assignAll, hmembers]
    exact ih members

/-- a value that gets members becomes a table, and without them it stays as it is -/
theorem assignAll_cases (old : Value) (incoming : Value.Members) :
    assignAll old incoming = old ∨ ∃ members, assignAll old incoming = .object members := by
  cases incoming with
  | nil => exact .inl (by rw [assignAll])
  | cons member incoming =>
    obtain ⟨key, x⟩ := member
    obtain ⟨members, hmembers⟩ := assign_eq_object key old x
    rw [assignAll, hmembers]
    exact .inr (assignAll_object incoming members)

/-- one entry of the table is set: to a table, to the value itself, or to what it was before -/
theorem tableOf_assign (key : String) (old x : Value) :
    ∃ v, tableOf (assign key old x) = Value.insert (Text.lower key) v (tableOf old) ∧
      ((∃ members, v = .object members) ∨ v = x ∨
        Value.find? (tableOf old) (Text.lower key) = some v) := by
  by_cases h : ∃ members, x = .object members
  · obtain ⟨incoming, rfl⟩ := h
    rw [assign_object]
    refine ⟨_, rfl, ?_⟩
    cases hold : Value.find? (tableOf old) (Text.lower key) with
    | none => exact .inl (assignAll_object incoming [])
    | some before =>
      rw [Option.getD_some]
      rcases assignAll_cases before incoming with hsame | htable
      · exact .inr (.inr (congrArg some hsame.symm))
      · exact .inl htable
  · rw [assign_of_ne_object (not_exists.mp h)]
    exact ⟨x, rfl, .inr (.inl rfl)⟩

/-! ## All entries -/

theorem written_concat (members : Value.Members) (key : String) (x : Value) (name : String) :
    written (members ++ [(key, x)]) name =
      written members name ++ if Text.lower key = name then [x] else [] := by
  unfold written
  rw [List.filter_append, List.map_append]
  by_cases h : Text.lower key = name <;> simp [h]

theorem merge_concat {key : String} (h : IsPlain key) (members : Value.Members) (x : Value) :
    ∃ v, merge (members ++ [(key, x)]) = Value.insert (Text.lower key) v (merge members) ∧
      ((∃ table, v = .object table) ∨ v = x ∨
        Value.find? (merge members) (Text.lower key) = some v) := by
  unfold merge
  rw [List.foldl_append]
  generalize members.foldl _ _ = root
  show ∃ v, tableOf (place x (KeyPath.ofText key) root) = _ ∧ _
  rw [h.ofText]
  exact tableOf_assign key root x

theorem merge_singleton {key : String} {x : Value} (h : IsPlain key)
    (hx : ∀ members, x ≠ .object members) : merge [(key, x)] = [(Text.lower key, x)] := by
  show tableOf (place x (KeyPath.ofText key) (.object [])) = _
  rw [h.ofText]
  show tableOf (assign key (.object []) x) = _
  rw [assign_of_ne_object hx]
  rfl

theorem find?_merge_eq_none_iff {members : Value.Members} (h : ∀ m ∈ members, IsPlain m.1)
    (name : String) : Value.find? (merge members) name = none ↔ written members name = [] := by
  induction members using List.reverseRecOn with
  | nil => exact iff_of_true rfl rfl
  | append_singleton members member ih =>
    obtain ⟨key, x⟩ := member
    have hkey : IsPlain key := h (key, x) (List.mem_append_right _ (List.mem_singleton.mpr rfl))
    obtain ⟨v, hmerge, -⟩ := merge_concat hkey members x
    rw [hmerge, Value.find?_insert, written_concat]
    by_cases hname : Text.lower key = name
    · rw [if_pos hname.symm, if_pos hname]
      simp
    · rw [if_neg (Ne.symm hname), if_neg hname, List.append_nil]
      exact ih fun m hm => h m (List.mem_append_left _ hm)

/-- no value that is held is made up, tables apart -/
theorem mem_written_of_find?_merge {members : Value.Members} (h : ∀ m ∈ members, IsPlain m.1)
    {name : String} {v : Value} (hv : Value.find? (merge members) name = some v)
    (hobject : ∀ table, v ≠ .object table) : v ∈ written members name := by
  induction members using List.reverseRecOn with
  | nil => cases hv
  | append_singleton members member ih =>
    obtain ⟨key, x⟩ := member
    have hkey : IsPlain key := h (key, x) (List.mem_append_right _ (List.mem_singleton.mpr rfl))
    have hbefore : Value.find? (merge members) name = some v → v ∈ written members name :=
      ih fun m hm => h m (List.mem_append_left _ hm)
    obtain ⟨w, hmerge, hw⟩ := merge_concat hkey members x
    rw [hmerge, Value.find?_insert] at hv
    rw [written_concat]
    by_cases hname : Text.lower key = name
    · rw [if_pos hname.symm, Option.some.injEq] at hv
      rw [if_pos hname]
      subst hv
      rcases hw with ⟨table, htable⟩ | rfl | hold
      · exact absurd htable (hobject table)
      · exact List.mem_append_right _ (List.mem_singleton.mpr rfl)
      · rw [hname] at hold
        exact List.mem_append_left _ (hbefore hold)
    · rw [if_neg (Ne.symm hname)] at hv
      exact List.mem_append_left _ (hbefore hv)

end RightSizing.Settings
