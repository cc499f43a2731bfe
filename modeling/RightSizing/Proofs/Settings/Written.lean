import RightSizing.Proofs.Settings.Loading

/-!
# What a settings file says

With plain keys, what a file leaves out has its default, and what it gives is what the settings
hold, whichever loader reads it.  Durations that 64 signed bits do not hold are the exception: a
negative one becomes a double, which counts as zero, where a negative one that 64 bits hold is
refused; and what a reader makes nothing of is no duration.

* `Loader.toDuration_of_standsFor`   a duration, by the whole number that was written
* `Settings.ofFile_follows`          the settings of a file, by its members
* `Settings.ofFile_of_farBelow`      a duration that the settings do not keep
-/

namespace RightSizing

variable {loader : Loader} {reads : Int → Value → Prop} {origin key name : String}
  {members : Value.Members} {held : Held}

theorem bind_eq_ok {ε α β : Type} {r : Except ε α} {f : α → Except ε β} {b : β}
    (h : (r >>= f) = .ok b) : ∃ a, r = .ok a ∧ f a = .ok b := by
  cases r with
  | error e => cases h
  | ok a => exact ⟨a, rfl, h⟩

namespace Loader

theorem toDuration_of_null (hnull : held.value = .null) :
    loader.toDuration key held = .ok none := by
  unfold toDuration
  rw [hnull]

theorem toDuration_eq_ok {duration : Option UInt32} (hnull : held.value ≠ .null)
    (h : loader.toDuration key held = .ok duration) :
    ∃ k d, loader.toCount key held = .ok k ∧ loader.narrow key k = .ok d ∧ duration = some d := by
  unfold toDuration at h
  split at h
  · next heq => exact absurd heq hnull
  · obtain ⟨k, hk, h⟩ := bind_eq_ok h
    obtain ⟨d, hd, h⟩ := bind_eq_ok h
    cases h
    exact ⟨k, d, hk, hd, rfl⟩

/-- what 64 bits do not hold loses digits, and a negative one all of them -/
theorem Documented.toCount_of_standsFor (hloader : loader.Documented reads) {n : Int} {k : Nat}
    (hx : held.value.StandsFor n) (hnull : held.value ≠ .null)
    (h : loader.toCount key held = .ok k) :
    (k : Int) = n ∨ (Nat.pow 2 63 : Int) ≤ n ∧ Nat.pow 2 63 ≤ k ∨ n < -(Nat.pow 2 63) ∧ k = 0 := by
  generalize hvalue : held.value = x at hx hnull
  cases hx with
  | itself hlow =>
    by_cases hfits : FitsSigned n
    · exact .inl (hloader.toCount_of_fits hfits hvalue h)
    · have habove : (Nat.pow 2 63 : Int) ≤ n :=
        (below_or_above hfits).resolve_left (Int.not_lt.mpr hlow)
      exact .inr (.inl ⟨habove, hloader.toCount_of_above habove hvalue h⟩)
  | minusZero hzero =>
    have hsign : (Binary64.ofDecimal true 0 0).negative = true := Binary64.negative_ofDecimal _ _ _
    left
    rw [hloader.toCount_of_real hvalue h, hzero, Binary64.roundToCount_of_negative hsign]
    rfl
  | below hbelow hsign =>
    refine .inr (.inr ⟨hbelow, ?_⟩)
    rw [hloader.toCount_of_real hvalue h, Binary64.roundToCount_of_negative hsign]
  | above habove hlarge =>
    refine .inr (.inl ⟨habove, ?_⟩)
    rw [hloader.toCount_of_real hvalue h]
    exact hlarge
  | nothing => exact absurd rfl hnull

/-- a duration is the whole number that was written, unless it is far below zero or was not read -/
theorem Documented.toDuration_of_standsFor (hloader : loader.Documented reads) {n : Int}
    {duration : Option UInt32} (hx : held.value.StandsFor n)
    (h : loader.toDuration key held = .ok duration) :
    ((∃ d : UInt32, duration = some d ∧ (d.toNat : Int) = n) ↔
      -(Nat.pow 2 63) ≤ n ∧ held.value ≠ .null) ∧
    (n < -(Nat.pow 2 63) → held.value ≠ .null → duration = some 0) ∧
    (held.value = .null → duration = none) := by
  by_cases hnull : held.value = .null
  · rw [toDuration_of_null hnull] at h
    cases h
    refine ⟨⟨?_, fun ⟨_, hne⟩ => absurd hnull hne⟩, fun _ hne => absurd hnull hne, fun _ => rfl⟩
    rintro ⟨d, hd, -⟩
    cases hd
  · obtain ⟨k, d, hk, hd, rfl⟩ := toDuration_eq_ok hnull h
    have hcount : d.toNat = k := hloader.toNat_of_narrow hd
    have hlt : d.toNat < 2 ^ 32 := d.toNat_lt
    have hcases := hloader.toCount_of_standsFor hx hnull hk
    simp only [Nat.pow_eq] at hcases ⊢
    refine ⟨⟨?_, ?_⟩, ?_, fun heq => absurd heq hnull⟩
    · rintro ⟨d', hd', hn⟩
      cases hd'
      exact ⟨by omega, hnull⟩
    · rintro ⟨hn, -⟩
      exact ⟨d, rfl, by omega⟩
    · intro hn _
      have hzero : d.toNat = 0 := by omega
      rw [UInt32.toNat_inj.mp (hzero.trans UInt32.toNat_zero.symm)]

end Loader

namespace Settings

/-! ## Members -/

/-- a value that a file gives under a name, and of those the one that counts -/
def Counts (loader : Loader) (origin : String) (members : Value.Members) (name : String)
    (held : Held) : Prop :=
  held.value ∈ written members name ∧ loader.held? origin members name = some held

section
variable {α : Type} {default a : α} {read : Held → Except SettingsError α}

theorem member_absent (hloader : loader.Documented reads) (hplain : ∀ m ∈ members, IsPlain m.1)
    (h : member (loader.held? origin members name) read default = .ok a)
    (habsent : written members name = []) : a = default := by
  rw [(hloader.held?_eq_none_iff hplain).mpr habsent] at h
  cases h
  rfl

/-- what is read is no table, so a table that is made of several values does not count -/
theorem member_given (hloader : loader.Documented reads) (hplain : ∀ m ∈ members, IsPlain m.1)
    (hobject : ∀ held table, held.value = .object table → read held ≠ .ok a)
    (h : member (loader.held? origin members name) read default = .ok a)
    (hgiven : written members name ≠ []) :
    ∃ held, Counts loader origin members name held ∧ read held = .ok a := by
  cases hheld : loader.held? origin members name with
  | none => exact absurd ((hloader.held?_eq_none_iff hplain).mp hheld) hgiven
  | some held =>
    rw [hheld] at h
    change read held = .ok a at h
    have hne : ∀ table, held.value ≠ .object table := fun table heq => hobject held table heq h
    exact ⟨held, ⟨hloader.mem_written hplain hheld hne, hheld⟩, h⟩

end

theorem toDuration_of_object (hloader : loader.Documented reads) {table : Value.Members}
    {duration : Option UInt32} (hx : held.value = .object table) :
    loader.toDuration key held ≠ .ok duration := by
  intro h
  have hnull : held.value ≠ .null := by
    rw [hx]
    exact Value.noConfusion
  obtain ⟨k, d, hk, -⟩ := Loader.toDuration_eq_ok hnull h
  exact hloader.toCount_of_object hx hk

theorem ofTable_eq_ok {held? : String → Option Held} {c : Settings}
    (h : ofTable loader held? = .ok c) :
    member (held? "log_level") loader.toLevel standard.logLevel = .ok c.logLevel ∧
    member (held? "job_duration_in_seconds") (loader.toDuration "job_duration_in_seconds")
      standard.jobDuration = .ok c.jobDuration ∧
    member (held? "default_traffic_type") (loader.toText "default_traffic_type")
      standard.trafficType = .ok c.trafficType := by
  obtain ⟨level, hlevel, h⟩ := bind_eq_ok h
  obtain ⟨duration, hduration, h⟩ := bind_eq_ok h
  obtain ⟨trafficType, htraffic, h⟩ := bind_eq_ok h
  cases h
  exact ⟨hlevel, hduration, htraffic⟩

theorem ofFile_of_load {path : String} (hload : loader.load path = .ok (origin, members)) :
    ofFile loader path =
      (ofTable loader (loader.held? origin members)).mapError Failure.settings := by
  unfold ofFile
  rw [hload]
  rfl

/-! ## Files -/

/-- what settings have to do with the members of a file.  A name is absent from a file in whatever
case it is written, and of several spellings any one may count -/
structure Follows (loader : Loader) (reads : Int → Value → Prop) (origin : String)
    (members : Value.Members) (c : Settings) : Prop where
  levelAbsent : written members "log_level" = [] → c.logLevel = standard.logLevel
  durationAbsent : written members "job_duration_in_seconds" = [] →
    c.jobDuration = standard.jobDuration
  trafficAbsent : written members "default_traffic_type" = [] →
    c.trafficType = standard.trafficType
  /-- a text is kept -/
  traffic : written members "default_traffic_type" ≠ [] →
    ∃ held, Counts loader origin members "default_traffic_type" held ∧
      ∀ text, held.value = .string text → c.trafficType = text
  /-- a whole number is kept, so there are no settings if 32 bits do not hold it; but what lies
  below 64 signed bits comes to zero, and what a reader makes nothing of to none -/
  duration : written members "job_duration_in_seconds" ≠ [] →
    ∃ held, Counts loader origin members "job_duration_in_seconds" held ∧
      ∀ n, reads n held.value →
        ((∃ d : UInt32, c.jobDuration = some d ∧ (d.toNat : Int) = n) ↔
          -(Nat.pow 2 63) ≤ n ∧ held.value ≠ .null) ∧
        (n < -(Nat.pow 2 63) → held.value ≠ .null → c.jobDuration = some 0) ∧
        (held.value = .null → c.jobDuration = none)

theorem follows_of_ofTable (hloader : loader.Documented reads)
    (hplain : ∀ m ∈ members, IsPlain m.1) {c : Settings}
    (h : ofTable loader (loader.held? origin members) = .ok c) :
    Follows loader reads origin members c := by
  obtain ⟨hlevel, hduration, htraffic⟩ := ofTable_eq_ok h
  exact
    { levelAbsent := member_absent hloader hplain hlevel
      durationAbsent := member_absent hloader hplain hduration
      trafficAbsent := member_absent hloader hplain htraffic
      traffic := by
        intro hgiven
        obtain ⟨held, hheld, hread⟩ := member_given hloader hplain
          (fun _ _ hx => hloader.toText_of_object hx) htraffic hgiven
        exact ⟨held, hheld, fun text hx => hloader.toText_of_string hx hread⟩
      duration := by
        intro hgiven
        obtain ⟨held, hheld, hread⟩ := member_given hloader hplain
          (fun _ _ hx => toDuration_of_object hloader hx) hduration hgiven
        refine ⟨held, hheld, ?_⟩
        intro n hn
        exact hloader.toDuration_of_standsFor (hloader.standsFor hn) hread }

/-- **A settings file means what it says, save for durations far below zero.**  Whatever the loader:
if the keys of a file are plain and its settings can be read, then what the file leaves out has its
default, a traffic type that is a text is this text, and a duration that is a whole number is this
number; but a number below 64 signed bits comes to zero, and one that the reader makes nothing of
to none. -/
theorem ofFile_follows (hloader : loader.Documented reads) {path : String}
    (hload : loader.load path = .ok (origin, members)) (hplain : ∀ m ∈ members, IsPlain m.1)
    {c : Settings} (h : ofFile loader path = .ok c) : Follows loader reads origin members c := by
  rw [ofFile_of_load hload] at h
  cases htable : ofTable loader (loader.held? origin members) with
  | error e =>
    rw [htable] at h
    cases h
  | ok c' =>
    rw [htable] at h
    cases h
    exact follows_of_ofTable hloader hplain htable

/-! ## Files with a duration alone -/

theorem isPlain_duration : IsPlain "job_duration_in_seconds" := by decide

/-- nothing but the duration is read -/
theorem ofFile_of_duration {tree : FileTree} {formats : List FileFormat} {path : String} {x : Value}
    (hx : ∀ members, x ≠ .object members)
    (hload : tree.load formats path = .ok (origin, [("job_duration_in_seconds", x)])) :
    ofFile (tree.loader formats) path =
      (((tree.loader formats).toDuration "job_duration_in_seconds" ⟨x, some origin⟩).map
        fun duration => ⟨standard.logLevel, duration, standard.trafficType⟩).mapError
          Failure.settings := by
  have hparts : madeOfParts [("job_duration_in_seconds", x)] = [] := by
    unfold madeOfParts
    dsimp only [List.map]
    rw [isPlain_duration.ofText]
    rfl
  have hlower : Text.lower "job_duration_in_seconds" = "job_duration_in_seconds" := by decide
  have hmerge : merge [("job_duration_in_seconds", x)] = [("job_duration_in_seconds", x)] := by
    rw [merge_singleton isPlain_duration hx, hlower]
  have hheld : held? origin [("job_duration_in_seconds", x)] "job_duration_in_seconds" =
      some ⟨x, some origin⟩ := by
    unfold held?
    rw [hmerge, hparts]
    cases x with
    | object members => exact absurd rfl (hx members)
    | _ => rfl
  have hother : ∀ name, name ≠ "job_duration_in_seconds" →
      held? origin [("job_duration_in_seconds", x)] name = none := by
    intro name hne
    rw [held?_eq_none_iff, hmerge, Value.find?_cons, if_neg hne]
    rfl
  have hload' : (tree.loader formats).load path =
      .ok (origin, [("job_duration_in_seconds", x)]) := hload
  rw [ofFile_of_load hload']
  show (ofTable _ (held? origin _)).mapError _ = _
  unfold ofTable
  rw [hother "log_level" (by decide), hother "default_traffic_type" (by decide), hheld]
  show ((tree.loader formats).toDuration _ _ >>= _).mapError _ = _
  cases (tree.loader formats).toDuration "job_duration_in_seconds" ⟨x, some origin⟩ with
  | error e => rfl
  | ok duration => rfl

/-- a file with a duration of a quarter of an hour, outside of the directory that one is in -/
def quarterHour : FileTree :=
  ⟨["home"], [(["etc", "c.json"], "\x7b\"job_duration_in_seconds\": 900\x7d")]⟩

theorem load_quarterHour : quarterHour.load FileFormat.documented "/etc/c.json" =
    .ok ("../etc/c.json", [("job_duration_in_seconds", .integer 900)]) := rfl

theorem ofFile_follows_of_quarterHour :
    ofFile (quarterHour.loader FileFormat.documented) "/etc/c.json" =
        .ok ⟨.verbose, some 900, "PHASES"⟩ ∧
      Follows (quarterHour.loader FileFormat.documented) FileFormat.Reads "../etc/c.json"
        [("job_duration_in_seconds", .integer 900)] ⟨.verbose, some 900, "PHASES"⟩ := by
  have hplain : ∀ m ∈ [("job_duration_in_seconds", Value.integer 900)], IsPlain m.1 := by
    intro m hm
    rw [List.mem_singleton.mp hm]
    exact isPlain_duration
  have h : ofFile (quarterHour.loader FileFormat.documented) "/etc/c.json" =
      .ok ⟨.verbose, some 900, "PHASES"⟩ := by
    rw [ofFile_of_duration (fun _ => Value.noConfusion) load_quarterHour]
    rfl
  exact ⟨h, ofFile_follows (FileTree.loader_documented _ _) load_quarterHour hplain h⟩

/-- a file with a duration of one below the 64 signed bits -/
def farBelow : FileTree :=
  ⟨[], [(["c.json"], "\x7b\"job_duration_in_seconds\": -9223372036854775809\x7d")]⟩

theorem load_farBelow : farBelow.load FileFormat.documented "c.json" =
    .ok ("c.json", [("job_duration_in_seconds", .real ⟨0xc3e0000000000000⟩)]) := rfl

/-- the number that is written is not the one that is held -/
theorem ofFile_of_farBelow :
    (farBelow.loader FileFormat.documented).Documented FileFormat.Reads ∧
      FileFormat.Reads (-9223372036854775809) (.real ⟨0xc3e0000000000000⟩) ∧
      (farBelow.loader FileFormat.documented).load "c.json" =
        .ok ("c.json", [("job_duration_in_seconds", .real ⟨0xc3e0000000000000⟩)]) ∧
      ofFile (farBelow.loader FileFormat.documented) "c.json" =
        .ok ⟨.verbose, some 0, "PHASES"⟩ := by
  refine ⟨FileTree.loader_documented _ _, ?_, load_farBelow, ?_⟩
  · have hnumber : Json.number? (numeral true "9223372036854775809".toList) =
        some (.real ⟨0xc3e0000000000000⟩, []) := rfl
    have hdigits : "9223372036854775809".toList.all Char.isDigit = true := rfl
    exact FileFormat.Reads.json (by decide) (List.all_eq_true.mp hdigits) hnumber
  · rw [ofFile_of_duration (fun _ => Value.noConfusion) load_farBelow]
    rfl

end Settings

end RightSizing
