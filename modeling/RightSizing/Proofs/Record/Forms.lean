import RightSizing.Proofs.LoadTest.RoundTrip
import RightSizing.Proofs.Recommendation.NormalForm
import RightSizing.Proofs.Record.Declared
import RightSizing.Settings.Basic

/-!
# The two forms of a record

A record may come as an array of its items in their declared order, or as an object that gives each
of them its name.  As long as there is an item for every name both forms are read as the same record.
An array may end early where the members behind its end may be missing, and whatever such an array
is read as, the object of the items that are left is read as it too.  The converse fails: a member
may be missing from an object where an array has to hold it.

* `Value.labelled`          the object of some items under their names
* `Codec.FormsAgree`        both forms are read alike
* `Layout.Lenient`          an object may lack what an array may end before
* `Layout.codec_formsAgree` what a layout has to see to
* `records_formsAgree`      all records
-/

namespace RightSizing

namespace Value

/-- the items under their names; a name without an item is left out -/
def labelled (names : List String) (items : List Value) : Value := ofMembers (names.zip items)

theorem names_zip (names : List String) (items : List Value) :
    ((names.zip items).map Prod.fst).Sublist names := by
  induction names generalizing items with
  | nil => exact .slnil
  | cons name names ih =>
    cases items with
    | nil => exact List.nil_sublist _
    | cons x items => exact (ih items).cons_cons name

theorem find?_zip {names : List String} (h : names.Nodup) {items : List Value} {name : String}
    {place : Nat} (hname : names[place]? = some name) :
    find? (names.zip items) name = items[place]? := by
  induction names generalizing items place with
  | nil => cases hname
  | cons first names ih =>
    obtain ⟨hfirst, hnodup⟩ := List.nodup_cons.mp h
    cases items with
    | nil => rfl
    | cons x items =>
      rw [List.zip_cons_cons, find?_cons]
      cases place with
      | zero =>
        cases hname
        exact if_pos rfl
      | succ place =>
        rw [List.getElem?_cons_succ] at hname
        have hne : name ≠ first := fun e => hfirst (e ▸ List.mem_of_getElem? hname)
        rw [if_neg hne, List.getElem?_cons_succ]
        exact ih hnodup hname

/-- each item is found under the name of its place -/
theorem member?_labelled {names : List String} (h : names.Nodup) (items : List Value)
    {name : String} {place : Nat} (hname : names[place]? = some name) :
    (labelled names items).member? name place = (array items).member? name place := by
  show find? (sorted (names.zip items)) name = items[place]?
  rw [find?_sorted ((names_zip names items).nodup h), find?_zip h hname]

end Value

/-- an array with an item for each name is read as the object of these items, and what a shorter one
is read as, the object of its items is read as too -/
structure Codec.FormsAgree (c : Codec α) (names : List String) : Prop where
  full : ∀ items a, items.length = names.length →
    (c.read (.array items) = .ok a ↔ c.read (.labelled names items) = .ok a)
  short : ∀ items a, items.length < names.length →
    c.read (.array items) = .ok a → c.read (.labelled names items) = .ok a

/-! ## Members -/

namespace Member

/-- an object may lack the member if an array may end before it, and it means the same -/
def Lenient (m : Member ρ α) : Prop := ∀ a, m.beyond = some a → m.absent = some a

theorem required_lenient (name : String) (content : Codec α) (get : ρ → α) :
    (required name content get).Lenient := nofun

theorem defaulted_lenient (name : String) (content : Codec α) (get : ρ → α) (default : α) :
    (defaulted name content get default).Lenient := fun _ h => h

theorem optional_lenient (name : String) (content : Codec α) (get : ρ → Option α) :
    (optional name content get).Lenient := nofun

variable {m : Member ρ α} {place : Nat} {a : α}

theorem Lenient.skipping (h : m.Lenient) (skip : α → Bool) : (m.skipping skip).Lenient := h

theorem takes_congr {v w x : Value} (hv : v.member? m.name place = some x)
    (hw : w.member? m.name place = some x) : m.Takes v place a ↔ m.Takes w place a := by
  rw [m.takes_of_some hv, m.takes_of_some hw]

theorem Takes.of_array {items : List Value} {members : Value.Members}
    (h : m.Takes (.array items) place a) (hlenient : m.Lenient)
    (hsame : (Value.object members).member? m.name place =
      (Value.array items).member? m.name place) : m.Takes (.object members) place a := by
  cases hx : (Value.array items).member? m.name place with
  | some x => exact (takes_congr hx (hsame.trans hx)).mp h
  | none =>
    have hbeyond : m.beyond = some a := (m.takes_of_none hx).mp h
    exact (m.takes_of_none (hsame.trans hx)).mpr (hlenient a hbeyond)

end Member

/-! ## Layouts -/

namespace Layout

/-- each member is lenient -/
def Lenient : Layout ρ α → Prop
  | start _ => True
  | member before m => before.Lenient ∧ m.Lenient

theorem takes_congr {v w : Value} {layout : Layout ρ α} {a : α}
    (h : ∀ name place, layout.names[place]? = some name →
      ∃ x, v.member? name place = some x ∧ w.member? name place = some x) :
    layout.Takes v a ↔ layout.Takes w a := by
  induction layout with
  | start make => exact Iff.rfl
  | member before m ih =>
    obtain ⟨hbefore, x, hv, hw⟩ := of_forall_names_member h
    unfold Takes
    simp only [ih hbefore, m.takes_congr hv hw]

theorem Takes.of_array {items : List Value} {members : Value.Members} {layout : Layout ρ α} {a : α}
    (h : layout.Takes (.array items) a) (hlenient : layout.Lenient)
    (hsame : ∀ name place, layout.names[place]? = some name →
      (Value.object members).member? name place = (Value.array items).member? name place) :
    layout.Takes (.object members) a := by
  induction layout with
  | start make => exact h
  | member before m ih =>
    obtain ⟨f, b, hf, hb, rfl⟩ := h
    obtain ⟨hbefore, hm⟩ := of_forall_names_member hsame
    exact ⟨f, b, ih hf hlenient.1 hbefore, hb.of_array hlenient.2 hm, rfl⟩

/-- **Both forms of a record agree** when its names differ and an object may lack whatever an array
may end before. -/
theorem codec_formsAgree (title : String) {layout : Layout ρ ρ} (hnodup : layout.names.Nodup)
    (hlenient : layout.Lenient) : (layout.codec title).FormsAgree layout.names where
  full := by
    intro items a hlength
    have hsize : items.length = layout.size := hlength.trans layout.length_names
    have hsame : layout.Takes (.array items) a ↔ layout.Takes (.labelled layout.names items) a := by
      refine takes_congr fun name place hname => ?_
      have hplace : place < items.length :=
        hlength ▸ (List.getElem?_eq_some_iff.mp hname).1
      have hx : (Value.array items).member? name place = some items[place] :=
        List.getElem?_eq_getElem hplace
      exact ⟨items[place], hx, (Value.member?_labelled hnodup items hname).trans hx⟩
    rw [codec_read_eq_ok_iff, codec_read_eq_ok_iff, hsame]
    exact and_congr_left fun _ => iff_of_true ⟨Nat.zero_le _, Nat.le_of_eq hsize⟩ trivial
  short := by
    intro items a _ hread
    obtain ⟨-, htakes⟩ := (codec_read_eq_ok_iff title layout _ a).mp hread
    refine (codec_read_eq_ok_iff title layout _ a).mpr ⟨trivial, htakes.of_array hlenient ?_⟩
    exact fun name place hname => Value.member?_labelled hnodup items hname

end Layout

/-! ## All records -/

open Member

/-- **Array form and object form agree for every record that can be read.** -/
theorem records_formsAgree :
    Phase.codec.FormsAgree ["DurationInSeconds", "InitialNumberOfUsers", "SpawnRate"] ∧
    LatencyThreshold.codec.FormsAgree ["Percentile", "ValueInMilliseconds"] ∧
    ParameterRange.codec.FormsAgree ["Name", "Value"] ∧
    EnvironmentRanges.codec.FormsAgree ["CategoricalParameterRanges"] ∧
    EndpointConfiguration.codec.FormsAgree ["EnvironmentParameterRanges", "InstanceType"] ∧
    TrafficPattern.codec.FormsAgree ["Phases", "TrafficType"] ∧
    StoppingConditions.codec.FormsAgree ["MaxInvocations", "ModelLatencyThresholds"] ∧
    ResourceLimit.codec.FormsAgree ["MaxNumberOfTests", "MaxParallelOfTests"] ∧
    RecommendedEndpoint.codec.FormsAgree
      ["InstanceType", "InitialInstanceCount", "VariantName", "EndpointName"] ∧
    RecommendationMetrics.codec.FormsAgree
      ["CostPerHour", "CostPerInference", "MaxInvocations", "ModelLatency"] ∧
    InferenceRecommendation.codec.FormsAgree
      ["EndpointConfiguration", "Metrics", "ModelConfiguration"] ∧
    ServerlessConfig.codec.FormsAgree ["memory_size_in_mb", "max_concurrency"] ∧
    AsyncConfig.codec.FormsAgree ["output_path", "max_concurrent_invocations_per_instance"] ∧
    Settings.codec.FormsAgree
      ["log_level", "job_duration_in_seconds", "default_traffic_type"] := by
  refine ⟨?phase, ?threshold, ?range, ?ranges, ?endpoint, ?pattern, ?conditions, ?limit,
    ?recommended, ?metrics, ?recommendation, ?serverless, ?async, ?settings⟩
  case phase =>
    exact Layout.codec_formsAgree _ Phase.layout_faithful.nodup
      ⟨⟨⟨trivial, required_lenient _ _ _⟩, required_lenient _ _ _⟩, required_lenient _ _ _⟩
  case threshold =>
    exact Layout.codec_formsAgree _ LatencyThreshold.layout_faithful.nodup
      ⟨⟨trivial, required_lenient _ _ _⟩, required_lenient _ _ _⟩
  case range =>
    exact Layout.codec_formsAgree _ ParameterRange.layout_faithful.nodup
      ⟨⟨trivial, required_lenient _ _ _⟩, required_lenient _ _ _⟩
  case ranges =>
    exact Layout.codec_formsAgree _ EnvironmentRanges.layout_faithful.nodup
      ⟨trivial, required_lenient _ _ _⟩
  case endpoint =>
    exact Layout.codec_formsAgree _ EndpointConfiguration.layout_faithful.nodup
      ⟨⟨trivial, required_lenient _ _ _⟩, required_lenient _ _ _⟩
  case pattern =>
    exact Layout.codec_formsAgree _ TrafficPattern.layout_faithful.nodup
      ⟨⟨trivial, required_lenient _ _ _⟩, required_lenient _ _ _⟩
  case conditions =>
    exact Layout.codec_formsAgree _ StoppingConditions.layout_faithful.nodup
      ⟨⟨trivial, (optional_lenient _ _ _).skipping _⟩, (defaulted_lenient _ _ _ _).skipping _⟩
  case limit =>
    exact Layout.codec_formsAgree _ ResourceLimit.layout_faithful.nodup
      ⟨⟨trivial, (optional_lenient _ _ _).skipping _⟩, (optional_lenient _ _ _).skipping _⟩
  case recommended =>
    exact Layout.codec_formsAgree _ RecommendedEndpoint.layout_faithful.nodup
      ⟨⟨⟨⟨trivial, required_lenient _ _ _⟩, required_lenient _ _ _⟩,
        (defaulted_lenient _ _ _ _).skipping _⟩, (defaulted_lenient _ _ _ _).skipping _⟩
  case metrics =>
    exact Layout.codec_formsAgree _ RecommendationMetrics.layout_faithful.nodup
      ⟨⟨⟨⟨trivial, defaulted_lenient _ _ _ _⟩, defaulted_lenient _ _ _ _⟩,
        defaulted_lenient _ _ _ _⟩, defaulted_lenient _ _ _ _⟩
  case recommendation =>
    exact Layout.codec_formsAgree _ InferenceRecommendation.layout_faithful.nodup
      ⟨⟨⟨trivial, required_lenient _ _ _⟩, (defaulted_lenient _ _ _ _).skipping _⟩,
        (defaulted_lenient _ _ _ _).skipping _⟩
  case serverless =>
    exact Layout.codec_formsAgree _ ServerlessConfig.layout_faithful.nodup
      ⟨⟨trivial, required_lenient _ _ _⟩, required_lenient _ _ _⟩
  case async =>
    exact Layout.codec_formsAgree _ AsyncConfig.layout_faithful.nodup
      ⟨⟨trivial, optional_lenient _ _ _⟩, optional_lenient _ _ _⟩
  case settings =>
    have hnodup : Settings.layout.names.Nodup := by decide
    exact Layout.codec_formsAgree _ hnodup
      ⟨⟨⟨trivial, defaulted_lenient _ _ _ _⟩, defaulted_lenient _ _ _ _⟩,
        defaulted_lenient _ _ _ _⟩

/-- an object may lack both limits, an array has to hold them -/
example : ResourceLimit.codec.read (.labelled ["MaxNumberOfTests", "MaxParallelOfTests"] []) =
      .ok ⟨none, none⟩ ∧
    ResourceLimit.codec.read (.array []) =
      .error (.invalidLength 0 "struct ResourceLimit with 2 elements") :=
  ⟨rfl, rfl⟩

end RightSizing
