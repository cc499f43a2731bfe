import RightSizing.Model
import RightSizing.Proofs.Text.Quoted

/-!
# Outlines are told apart by their text

Two outlines are `Alike` if a reader who goes through the texts of both never has to guess: quoted
texts stand in the same places under the same names, and where the shapes differ they differ in
their first character already.  The text of one can then be taken for the text of the other only if
they are the same outline, whatever follows it (`Alike.compact_append_inj`,
`Alike.spread_append_inj`).

The outlines of any two models are alike, so the text of a model tells all that the model shows
(`Model.compactText_eq_iff`), on one line as on many (`Model.spreadText_eq_iff`).
-/

namespace RightSizing

namespace Text.Outline

def first? : Outline → Option Char
  | word text => text.head?
  | wrap name _ => name.head?
  | record name _ => name.head?

mutual

inductive Alike : Outline → Outline → Prop where
  | same (o : Outline) : Alike o o
  | quoted (cs ds : List Char) : Alike (word (quote cs)) (word (quote ds))
  | apart {o o' : Outline} {c d : Char} (hc : o.first? = some c) (hd : o'.first? = some d)
      (hne : c ≠ d) : Alike o o'
  | wrapped (name : List Char) {o o' : Outline} (inner : Alike o o') :
      Alike (wrap name o) (wrap name o')
  | records (name : List Char) {fields fields' : List (List Char × Outline)}
      (members : AlikeFields fields fields') : Alike (record name fields) (record name fields')

inductive AlikeFields : List (List Char × Outline) → List (List Char × Outline) → Prop where
  | nil : AlikeFields [] []
  | cons (name : List Char) {o o' : Outline} {fields fields' : List (List Char × Outline)}
      (value : Alike o o') (others : AlikeFields fields fields') :
      AlikeFields ((name, o) :: fields) ((name, o') :: fields')

end

section
variable (name : List Char) (o : Outline) (field : List Char × Outline)
  (fields : List (List Char × Outline)) (rest : List Char)

theorem compact_word_append (text : List Char) : (word text).compact ++ rest = text ++ rest := by
  rw [compact]

theorem compact_wrap_append :
    (wrap name o).compact ++ rest = name ++ '(' :: (o.compact ++ ')' :: rest) := by
  simp [compact]

theorem compact_record_append :
    (record name (field :: fields)).compact ++ rest =
      name ++ ' ' :: '{' :: ' ' :: (compactFields (field :: fields) ++ ' ' :: '}' :: rest) := by
  simp [compact]

theorem compactFields_singleton_append :
    compactFields [(name, o)] ++ rest = name ++ ':' :: ' ' :: (o.compact ++ rest) := by
  simp [compactFields]

theorem compactFields_cons_append :
    compactFields ((name, o) :: field :: fields) ++ rest =
      name ++ ':' :: ' ' ::
        (o.compact ++ ',' :: ' ' :: (compactFields (field :: fields) ++ rest)) := by
  simp [compactFields]

end

theorem head?_compact {o : Outline} {c : Char} (h : o.first? = some c) :
    o.compact.head? = some c := by
  cases o with
  | word text => rwa [compact]
  | wrap name inner =>
    rw [first?] at h
    rw [compact, List.head?_append, h, Option.some_or]
  | record name fields =>
    rw [first?] at h
    cases fields with
    | nil => rwa [compact]
    | cons field fields => rw [compact, List.head?_append, h, Option.some_or]

mutual

theorem Alike.compact_append_inj {o o' : Outline} (ho : Alike o o') {rest rest' : List Char}
    (h : o.compact ++ rest = o'.compact ++ rest') : o = o' ∧ rest = rest' := by
  cases ho with
  | same => exact ⟨rfl, List.append_cancel_left h⟩
  | quoted cs ds =>
    rw [compact_word_append, compact_word_append] at h
    obtain ⟨hcs, hrest⟩ := quote_append_inj h
    exact ⟨congrArg (fun cs => word (quote cs)) hcs, hrest⟩
  | apart hc hd hne =>
    have hhead := congrArg List.head? h
    rw [List.head?_append, List.head?_append, head?_compact hc, head?_compact hd] at hhead
    exact absurd (Option.some.inj hhead) hne
  | wrapped name inner =>
    rw [compact_wrap_append, compact_wrap_append] at h
    simp only [List.append_cancel_left_eq, List.cons.injEq, true_and] at h
    obtain ⟨hinner, hrest⟩ := inner.compact_append_inj h
    exact ⟨congrArg (wrap name) hinner, List.tail_eq_of_cons_eq hrest⟩
  | records name members =>
    cases members with
    | nil => exact ⟨rfl, List.append_cancel_left h⟩
    | cons first value others =>
      rw [compact_record_append, compact_record_append] at h
      simp only [List.append_cancel_left_eq, List.cons.injEq, true_and] at h
      obtain ⟨hfields, hrest⟩ := (AlikeFields.cons first value others).compact_append_inj h
      simp only [List.cons.injEq, true_and] at hrest
      exact ⟨congrArg (record name) hfields, hrest⟩

theorem AlikeFields.compact_append_inj {fields fields' : List (List Char × Outline)}
    (hf : AlikeFields fields fields') {rest rest' : List Char}
    (h : compactFields fields ++ rest = compactFields fields' ++ rest') :
    fields = fields' ∧ rest = rest' := by
  cases hf with
  | nil => exact ⟨rfl, h⟩
  | cons name value others =>
    cases others with
    | nil =>
      rw [compactFields_singleton_append, compactFields_singleton_append] at h
      simp only [List.append_cancel_left_eq, List.cons.injEq, true_and] at h
      obtain ⟨hvalue, hrest⟩ := value.compact_append_inj h
      exact ⟨congrArg (fun o => [(name, o)]) hvalue, hrest⟩
    | cons next value' others =>
      rw [compactFields_cons_append, compactFields_cons_append] at h
      simp only [List.append_cancel_left_eq, List.cons.injEq, true_and] at h
      obtain ⟨hvalue, hothers⟩ := value.compact_append_inj h
      simp only [List.cons.injEq, true_and] at hothers
      obtain ⟨hfields, hrest⟩ := (AlikeFields.cons next value' others).compact_append_inj hothers
      exact ⟨congrArg₂ (fun o fields => (name, o) :: fields) hvalue hfields, hrest⟩

end

theorem Alike.compact_inj {o o' : Outline} (ho : Alike o o') :
    o.compact = o'.compact ↔ o = o' := by
  refine ⟨fun h => ?_, fun h => h ▸ rfl⟩
  have happend : o.compact ++ [] = o'.compact ++ [] := congrArg (· ++ []) h
  exact (ho.compact_append_inj happend).1

/-! ## On many lines -/

section
variable (depth : Nat) (name : List Char) (o : Outline) (field : List Char × Outline)
  (fields : List (List Char × Outline)) (rest : List Char)

theorem spread_word_append (text : List Char) :
    (word text).spread depth ++ rest = text ++ rest := by
  rw [spread]

theorem spread_wrap_append :
    (wrap name o).spread depth ++ rest =
      name ++ '(' :: (newLine (depth + 1) ++
        (o.spread (depth + 1) ++ ',' :: (newLine depth ++ ')' :: rest))) := by
  simp [spread]

theorem spread_record_append :
    (record name (field :: fields)).spread depth ++ rest =
      name ++ ' ' :: '{' ::
        (spreadFields (depth + 1) (field :: fields) ++ (newLine depth ++ '}' :: rest)) := by
  simp [spread]

theorem spreadFields_cons_append :
    spreadFields depth ((name, o) :: fields) ++ rest =
      newLine depth ++ (name ++ ':' :: ' ' ::
        (o.spread depth ++ ',' :: (spreadFields depth fields ++ rest))) := by
  simp [spreadFields]

end

theorem head?_spread (depth : Nat) {o : Outline} {c : Char} (h : o.first? = some c) :
    (o.spread depth).head? = some c := by
  cases o with
  | word text => rwa [spread]
  | wrap name inner =>
    rw [first?] at h
    rw [spread, List.head?_append, h, Option.some_or]
  | record name fields =>
    rw [first?] at h
    cases fields with
    | nil => rwa [spread]
    | cons field fields => rw [spread, List.append_assoc, List.head?_append, h, Option.some_or]

mutual

theorem Alike.spread_append_inj {o o' : Outline} (ho : Alike o o') {depth : Nat}
    {rest rest' : List Char} (h : o.spread depth ++ rest = o'.spread depth ++ rest') :
    o = o' ∧ rest = rest' := by
  cases ho with
  | same => exact ⟨rfl, List.append_cancel_left h⟩
  | quoted cs ds =>
    rw [spread_word_append, spread_word_append] at h
    obtain ⟨hcs, hrest⟩ := quote_append_inj h
    exact ⟨congrArg (fun cs => word (quote cs)) hcs, hrest⟩
  | apart hc hd hne =>
    have hhead := congrArg List.head? h
    rw [List.head?_append, List.head?_append, head?_spread depth hc, head?_spread depth hd]
      at hhead
    exact absurd (Option.some.inj hhead) hne
  | wrapped name inner =>
    rw [spread_wrap_append, spread_wrap_append] at h
    simp only [List.append_cancel_left_eq, List.cons.injEq, true_and] at h
    obtain ⟨hinner, hrest⟩ := inner.spread_append_inj h
    simp only [List.append_cancel_left_eq, List.cons.injEq, true_and] at hrest
    exact ⟨congrArg (wrap name) hinner, hrest⟩
  | records name members =>
    cases members with
    | nil => exact ⟨rfl, List.append_cancel_left h⟩
    | cons first value others =>
      rw [spread_record_append, spread_record_append] at h
      simp only [List.append_cancel_left_eq, List.cons.injEq, true_and] at h
      obtain ⟨hfields, hrest⟩ := (AlikeFields.cons first value others).spread_append_inj h
      simp only [List.append_cancel_left_eq, List.cons.injEq, true_and] at hrest
      exact ⟨congrArg (record name) hfields, hrest⟩

theorem AlikeFields.spread_append_inj {fields fields' : List (List Char × Outline)}
    (hf : AlikeFields fields fields') {depth : Nat} {rest rest' : List Char}
    (h : spreadFields depth fields ++ rest = spreadFields depth fields' ++ rest') :
    fields = fields' ∧ rest = rest' := by
  cases hf with
  | nil => exact ⟨rfl, h⟩
  | cons name value others =>
    rw [spreadFields_cons_append, spreadFields_cons_append] at h
    simp only [List.append_cancel_left_eq, List.cons.injEq, true_and] at h
    obtain ⟨hvalue, hothers⟩ := value.spread_append_inj h
    simp only [List.cons.injEq, true_and] at hothers
    obtain ⟨hfields, hrest⟩ := others.spread_append_inj hothers
    exact ⟨congrArg₂ (fun o fields => (name, o) :: fields) hvalue hfields, hrest⟩

end

theorem Alike.spread_inj {o o' : Outline} (ho : Alike o o') {depth : Nat} :
    o.spread depth = o'.spread depth ↔ o = o' := by
  refine ⟨fun h => ?_, fun h => h ▸ rfl⟩
  have happend : o.spread depth ++ [] = o'.spread depth ++ [] := congrArg (· ++ []) h
  exact (ho.spread_append_inj happend).1

/-! ## What is shown -/

theorem ofString_alike (s s' : String) : Alike (ofString s) (ofString s') := Alike.quoted _ _

theorem ofString_inj {s s' : String} : ofString s = ofString s' ↔ s = s' := by
  unfold ofString
  rw [word.injEq, quote_inj, String.toList_inj]

theorem ofBool_alike (b b' : Bool) : Alike (ofBool b) (ofBool b') := by
  cases b with
  | false =>
    cases b' with
    | false => exact .same _
    | true => exact .apart (c := 'f') (d := 't') rfl rfl (by decide)
  | true =>
    cases b' with
    | false => exact .apart (c := 't') (d := 'f') rfl rfl (by decide)
    | true => exact .same _

theorem ofBool_inj {b b' : Bool} : ofBool b = ofBool b' ↔ b = b' := by
  cases b with
  | false => cases b' <;> simp [ofBool]
  | true => cases b' <;> simp [ofBool]

theorem ofOption_alike (x x' : Option String) : Alike (ofOption x) (ofOption x') := by
  cases x with
  | none =>
    cases x' with
    | none => exact .same _
    | some s' => exact .apart (c := 'N') (d := 'S') rfl rfl (by decide)
  | some s =>
    cases x' with
    | none => exact .apart (c := 'S') (d := 'N') rfl rfl (by decide)
    | some s' => exact .wrapped _ (ofString_alike s s')

theorem ofOption_inj {x x' : Option String} : ofOption x = ofOption x' ↔ x = x' := by
  cases x with
  | none =>
    cases x' with
    | none => exact iff_of_true rfl rfl
    | some s' => exact iff_of_false nofun nofun
  | some s =>
    cases x' with
    | none => exact iff_of_false nofun nofun
    | some s' =>
      unfold ofOption
      rw [wrap.injEq, ofString_inj, Option.some.injEq]
      exact and_iff_right rfl

end Text.Outline

/-! ## Models -/

open Text.Outline

namespace ModelReference

theorem outline_alike (r r' : ModelReference) : Alike r.outline r'.outline := by
  cases r with
  | artifact imageUri modelData =>
    cases r' with
    | artifact imageUri' modelData' =>
      exact .records _ (.cons _ (ofString_alike imageUri imageUri')
        (.cons _ (ofOption_alike modelData modelData') .nil))
    | registered arn' => exact .apart (c := 'A') (d := 'R') rfl rfl (by decide)
  | registered arn =>
    cases r' with
    | artifact imageUri' modelData' => exact .apart (c := 'R') (d := 'A') rfl rfl (by decide)
    | registered arn' => exact .records _ (.cons _ (ofString_alike arn arn') .nil)

theorem outline_inj {r r' : ModelReference} : r.outline = r'.outline ↔ r = r' := by
  cases r with
  | artifact imageUri modelData =>
    cases r' with
    | artifact imageUri' modelData' => simp [outline, ofString_inj, ofOption_inj]
    | registered arn' => simp [outline]
  | registered arn =>
    cases r' with
    | artifact imageUri' modelData' => simp [outline]
    | registered arn' => simp [outline, ofString_inj]

end ModelReference

namespace Model

variable {σ φ : Type} (m m' : Model σ φ)

theorem outline_alike : Alike m.outline m'.outline :=
  .records _ (.cons _ (ofString_alike m.role m'.role)
    (.cons _ (m.reference.outline_alike m'.reference)
      (.cons _ (ofOption_alike m.framework m'.framework)
        (.cons _ (ofOption_alike m.frameworkVersion m'.frameworkVersion)
          (.cons _ (ofBool_alike m.hasSession m'.hasSession) .nil)))))

theorem outline_eq_iff :
    m.outline = m'.outline ↔
      m.role = m'.role ∧ m.reference = m'.reference ∧ m.framework = m'.framework ∧
        m.frameworkVersion = m'.frameworkVersion ∧ m.hasSession = m'.hasSession := by
  simp [outline, ofString_inj, ofOption_inj, ofBool_inj, ModelReference.outline_inj]

theorem compactText_eq_iff_outline : m.compactText = m'.compactText ↔ m.outline = m'.outline := by
  unfold compactText
  rw [String.ofList_inj, (outline_alike m m').compact_inj]

theorem spreadText_eq_iff_outline : m.spreadText = m'.spreadText ↔ m.outline = m'.outline := by
  unfold spreadText
  rw [String.ofList_inj, (outline_alike m m').spread_inj]

/-- **The text of a model tells all that it shows**: a model that differs in any of it has another
text. -/
theorem compactText_eq_iff :
    m.compactText = m'.compactText ↔
      m.role = m'.role ∧ m.reference = m'.reference ∧ m.framework = m'.framework ∧
        m.frameworkVersion = m'.frameworkVersion ∧ m.hasSession = m'.hasSession := by
  rw [compactText_eq_iff_outline, outline_eq_iff]

/-- both texts of a model tell the same -/
theorem spreadText_eq_iff : m.spreadText = m'.spreadText ↔ m.compactText = m'.compactText := by
  rw [spreadText_eq_iff_outline, compactText_eq_iff_outline]

end Model

end RightSizing
