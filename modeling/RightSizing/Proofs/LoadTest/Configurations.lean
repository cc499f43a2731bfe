import Mathlib.Algebra.Ring.Nat
import RightSizing.Proofs.Job.Validation
import RightSizing.Proofs.Sweep.Insertion

/-!
# The configurations of a list of sweeps

What endpoint configurations come out of sweeps, read off the insertions that made the sweeps and not
off the sweeps themselves: a sweep gives one configuration for each of the instance types that were
inserted last, and each of them carries all other parameters with their last values
(`Sweep.configurationsGiven`).

* `Sweep.instanceTypes?_ofList`      when there are instance types, and which
* `Sweep.configurations_ofList`      one sweep
* `EndpointConfiguration.ofAll_given`     all sweeps, none of which lacks instance types
* `EndpointConfiguration.ofSweeps_given`  when there are no sweeps, when a sweep is at fault, and what
                                     comes out otherwise
-/

namespace RightSizing

namespace Sweep

/-- the values of the last insertion of a name; there are none without an insertion -/
def valuesGiven (insertions : List (String × Candidates)) (name : String) : List String :=
  ((lastGiven? insertions name).map Candidates.values).getD []

/-- a range for each name but that of the instance types, in the order of first insertions -/
def rangesGiven (insertions : List (String × Candidates)) : List ParameterRange :=
  ((firstNames insertions).filter (· ≠ instanceTypesName)).map fun name =>
    ⟨name, valuesGiven insertions name⟩

/-- a configuration for each instance type -/
def configurationsGiven (insertions : List (String × Candidates)) : List EndpointConfiguration :=
  (valuesGiven insertions instanceTypesName).map fun instanceType =>
    ⟨⟨rangesGiven insertions⟩, instanceType⟩

variable (insertions : List (String × Candidates))

theorem names_rangesGiven :
    (rangesGiven insertions).map ParameterRange.name =
      (firstNames insertions).filter (· ≠ instanceTypesName) := by
  unfold rangesGiven
  rw [List.map_map]
  exact List.map_id _

theorem nodup_rangesGiven : ((rangesGiven insertions).map ParameterRange.name).Nodup := by
  rw [names_rangesGiven]
  exact (nodup_firstNames insertions).filter _

theorem instanceTypesName_notMem_rangesGiven :
    instanceTypesName ∉ (rangesGiven insertions).map ParameterRange.name := by
  rw [names_rangesGiven]
  intro h
  simpa using (List.mem_filter.mp h).2

theorem length_configurationsGiven :
    (configurationsGiven insertions).length = (valuesGiven insertions instanceTypesName).length :=
  List.length_map _

theorem configurationsGiven_eq_nil_iff :
    configurationsGiven insertions = [] ↔ valuesGiven insertions instanceTypesName = [] :=
  List.map_eq_nil_iff

/-! ## One sweep -/

theorem lacksInstanceTypes_ofList_iff :
    (ofList insertions).LacksInstanceTypes ↔ valuesGiven insertions instanceTypesName = [] := by
  unfold LacksInstanceTypes valuesGiven
  rw [find?_ofList]
  cases lastGiven? insertions instanceTypesName <;> simp

theorem instanceTypes?_ofList (h : valuesGiven insertions instanceTypesName ≠ []) :
    (ofList insertions).instanceTypes? = some ⟨valuesGiven insertions instanceTypesName⟩ := by
  unfold instanceTypes? valuesGiven at *
  rw [find?_ofList]
  cases hl : lastGiven? insertions instanceTypesName with
  | none => rw [hl] at h; exact absurd rfl h
  | some types =>
    rw [hl] at h
    have hne : types.values ≠ [] := h
    simp [Candidates.isEmpty, hne]

theorem ranges_ofList :
    (ofList insertions).environment.map ParameterRange.ofEntry = rangesGiven insertions := by
  unfold rangesGiven environment
  rw [← names_ofList, names, List.filter_map, List.map_map]
  refine List.map_congr_left fun entry he => ?_
  have hmem : entry ∈ (ofList insertions).entries := (List.mem_filter.mp he).1
  have hlast : lastGiven? insertions entry.1 = some entry.2 := by
    rw [← find?_ofList]
    exact lookup_of_mem _ (nodup_names_ofList insertions) hmem
  show (⟨entry.1, entry.2.values⟩ : ParameterRange) = ⟨entry.1, valuesGiven insertions entry.1⟩
  rw [valuesGiven, hlast]
  rfl

theorem configurations_ofList :
    (ofList insertions).configurations ⟨valuesGiven insertions instanceTypesName⟩ =
      configurationsGiven insertions := by
  unfold configurations configurationsGiven
  rw [ranges_ofList]

end Sweep

namespace EndpointConfiguration

open Sweep

variable {given : List (List (String × Candidates))}

/-! ## All sweeps -/

theorem ofAll_given (h : ∀ insertions ∈ given, valuesGiven insertions instanceTypesName ≠ []) :
    ofAll (given.map Sweep.ofList) = .ok (given.flatMap configurationsGiven) := by
  induction given with
  | nil => rfl
  | cons insertions given ih =>
    obtain ⟨hhead, hrest⟩ := List.forall_mem_cons.mp h
    rw [List.map_cons, ofAll, instanceTypes?_ofList insertions hhead]
    dsimp only
    rw [ih hrest, configurations_ofList, List.flatMap_cons]
    rfl

theorem ofSweeps_eq_none_iff {sweeps : List Sweep} : ofSweeps sweeps = .ok none ↔ sweeps = [] := by
  cases sweeps with
  | nil => simp [ofSweeps]
  | cons s sweeps =>
    rw [ofSweeps]
    cases ofAll (s :: sweeps) <;> simp [Except.map]

theorem ofSweeps_given_eq_error_iff {failure : Failure} :
    ofSweeps (given.map Sweep.ofList) = .error failure ↔
      failure = .missingInstanceTypes ∧
        ∃ insertions ∈ given, valuesGiven insertions instanceTypesName = [] := by
  rw [ofSweeps_eq_error_iff]
  simp only [List.mem_map, exists_exists_and_eq_and, lacksInstanceTypes_ofList_iff]

theorem ofSweeps_given_eq_some_iff {configurations : List EndpointConfiguration} :
    ofSweeps (given.map Sweep.ofList) = .ok (some configurations) ↔
      given ≠ [] ∧ (∀ insertions ∈ given, valuesGiven insertions instanceTypesName ≠ []) ∧
        configurations = given.flatMap configurationsGiven := by
  by_cases h : ∃ insertions ∈ given, valuesGiven insertions instanceTypesName = []
  · rw [ofSweeps_given_eq_error_iff.mpr ⟨rfl, h⟩]
    obtain ⟨insertions, hmem, hnone⟩ := h
    refine ⟨nofun, ?_⟩
    rintro ⟨-, hall, -⟩
    exact absurd hnone (hall insertions hmem)
  · have hall : ∀ insertions ∈ given, valuesGiven insertions instanceTypesName ≠ [] :=
      fun insertions hmem hnone => h ⟨insertions, hmem, hnone⟩
    cases given with
    | nil => simp [ofSweeps]
    | cons insertions given =>
      have hok := ofAll_given hall
      rw [List.map_cons] at hok
      rw [List.map_cons, ofSweeps, hok]
      simp only [Except.map, Except.ok.injEq, Option.some.injEq]
      refine ⟨fun e => ⟨List.cons_ne_nil _ _, hall, e.symm⟩, ?_⟩
      rintro ⟨-, -, e⟩
      exact e.symm

/-- **Sweeps give one configuration for each instance type, in order**, whatever insertions made
them.  Without sweeps there are none; a sweep without instance types is a fault.  Names do not repeat
within a configuration, and where the instance types were inserted does not show. -/
theorem ofSweeps_given (given : List (List (String × Candidates))) :
    let expanded := ofSweeps (given.map Sweep.ofList)
    (expanded = .ok none ↔ given = []) ∧
      (expanded = .error .missingInstanceTypes ↔
        ∃ insertions ∈ given, valuesGiven insertions instanceTypesName = []) ∧
      (∀ configurations, expanded = .ok (some configurations) ↔
        given ≠ [] ∧ (∀ insertions ∈ given, valuesGiven insertions instanceTypesName ≠ []) ∧
          configurations = given.flatMap configurationsGiven) ∧
      (∀ configurations, expanded = .ok (some configurations) →
        configurations ≠ [] ∧
          configurations.length =
            (given.map fun insertions =>
              (valuesGiven insertions instanceTypesName).length).sum ∧
          ∀ configuration ∈ configurations,
            (configuration.environmentRanges.parameterRanges.map ParameterRange.name).Nodup ∧
              instanceTypesName ∉
                configuration.environmentRanges.parameterRanges.map ParameterRange.name) ∧
      ∀ insertions insertions' : List (String × Candidates), others insertions = others insertions' →
        (Sweep.ofList insertions).environment = (Sweep.ofList insertions').environment ∧
          rangesGiven insertions = rangesGiven insertions' := by
  intro expanded
  refine ⟨?_, ?_, fun _ => ofSweeps_given_eq_some_iff, fun configurations hexp => ?_,
    fun insertions insertions' h => ?_⟩
  · rw [ofSweeps_eq_none_iff, List.map_eq_nil_iff]
  · rw [ofSweeps_given_eq_error_iff]
    exact and_iff_right rfl
  · obtain ⟨hne, hall, rfl⟩ := ofSweeps_given_eq_some_iff.mp hexp
    refine ⟨?_, ?_, fun configuration hmem => ?_⟩
    · obtain ⟨insertions, hmem⟩ := List.exists_mem_of_ne_nil given hne
      intro hnil
      have hnone := List.flatMap_eq_nil_iff.mp hnil insertions hmem
      exact hall insertions hmem ((configurationsGiven_eq_nil_iff insertions).mp hnone)
    · rw [List.length_flatMap]
      simp only [length_configurationsGiven]
    · obtain ⟨insertions, -, hc⟩ := List.mem_flatMap.mp hmem
      obtain ⟨instanceType, -, rfl⟩ := List.mem_map.mp hc
      exact ⟨nodup_rangesGiven insertions, instanceTypesName_notMem_rangesGiven insertions⟩
  · have henv : (Sweep.ofList insertions).environment = (Sweep.ofList insertions').environment := by
      rw [environment_ofList, environment_ofList, h]
    refine ⟨henv, ?_⟩
    rw [← ranges_ofList, ← ranges_ofList, henv]

/-- a name that comes again keeps its place and takes the new values -/
example : configurationsGiven [("B", ⟨["1"]⟩), ("instance_types", ⟨["m", "c"]⟩), ("A", ⟨["2"]⟩),
      ("B", ⟨["3"]⟩)] =
    [⟨⟨[⟨"B", ["3"]⟩, ⟨"A", ["2"]⟩]⟩, "m"⟩, ⟨⟨[⟨"B", ["3"]⟩, ⟨"A", ["2"]⟩]⟩, "c"⟩] := rfl

end EndpointConfiguration

end RightSizing
