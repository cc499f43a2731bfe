import RightSizing.Json.Reader
import RightSizing.Proofs.Number.Finite
import RightSizing.Proofs.Record.Reading

/-!
# The values of JSON texts

A `Value` may hold any number, but the number of a JSON text is a whole number of 64 bits or a
finite double (`Value.IsJson`).  So whatever a record reads as a double from such a value is finite.

* `Value.IsJson.member?`       members are JSON values again
* `Number.IsJson.nearest`      the double that a number is read as
* `Json.read?_isJson`          every value of a text
-/

namespace RightSizing

/-- a whole number of 64 bits, signed when it is negative, or a finite double -/
def Number.IsJson : Number → Prop
  | .integer n => -(Nat.pow 2 63 : Int) ≤ n ∧ n < (Nat.pow 2 64 : Int)
  | .real x => x.isFinite = true

/-- all numbers in the value are JSON numbers -/
inductive Value.IsJson : Value → Prop where
  | null : IsJson .null
  | bool (b : Bool) : IsJson (.bool b)
  | number {n : Number} (h : n.IsJson) : IsJson (.number n)
  | string (s : String) : IsJson (.string s)
  | array {items : List Value} (h : ∀ x ∈ items, IsJson x) : IsJson (.array items)
  | object {members : Value.Members} (h : ∀ m ∈ members, IsJson m.2) : IsJson (.object members)

theorem Number.IsJson.nearest {n : Number} (h : n.IsJson) : n.nearest.isFinite = true := by
  cases n with
  | integer n => exact Binary64.isFinite_ofInt h.1 h.2
  | real x => exact h

namespace Value

theorem IsJson.member? {v x : Value} (h : v.IsJson) {name : String} {place : Nat}
    (hx : v.member? name place = some x) : x.IsJson := by
  cases h with
  | array h => exact h x (List.mem_of_getElem? hx)
  | object h => exact h (name, x) (mem_of_find? hx)
  | _ => cases hx

theorem mem_insert {name : String} {value : Value} {members : Members} {m : String × Value}
    (h : m ∈ insert name value members) : m = (name, value) ∨ m ∈ members := by
  induction members with
  | nil => exact .inl (List.mem_singleton.mp h)
  | cons member rest ih =>
    rw [insert] at h
    split at h
    · exact List.mem_cons.mp h
    · split at h
      · rcases List.mem_cons.mp h with h | h
        · exact .inl h
        · exact .inr (List.mem_cons_of_mem _ h)
      · rcases List.mem_cons.mp h with h | h
        · exact .inr (h ▸ List.mem_cons_self)
        · exact (ih h).imp_right (List.mem_cons_of_mem _)

theorem mem_foldl_insert {members done : Members} {m : String × Value}
    (h : m ∈ members.foldl (fun done (name, value) => insert name value done) done) :
    m ∈ members ∨ m ∈ done := by
  induction members generalizing done with
  | nil => exact .inr h
  | cons member members ih =>
    rcases ih h with h | h
    · exact .inl (List.mem_cons_of_mem _ h)
    · rcases mem_insert h with rfl | h
      · exact .inl List.mem_cons_self
      · exact .inr h

theorem IsJson.ofMembers {members : Members} (h : ∀ m ∈ members, m.2.IsJson) :
    (ofMembers members).IsJson :=
  .object fun m hm => h m ((mem_foldl_insert hm).resolve_right List.not_mem_nil)

end Value

namespace Json

/-! ## Texts -/

theorem wholeNumber_isJson {negative : Bool} {m : Nat} {n : Int}
    (h : wholeNumber negative m = .integer n) : (Number.integer n).IsJson := by
  unfold wholeNumber at h
  unfold Number.IsJson
  simp only [Nat.pow_eq] at h ⊢
  split at h
  · split at h
    · cases h
      omega
    · cases h
  · split at h
    · cases h
      omega
    · cases h

/-- only the digits of a whole number make one -/
theorem numberOf_isJson {negative : Bool} {whole behind : List Char} {power : Option Int} {n : Int}
    (h : numberOf negative whole behind power = .integer n) : (Number.integer n).IsJson := by
  unfold numberOf at h
  split at h
  · split at h
    · exact wholeNumber_isJson h
    · cases h
  · cases h

theorem unsigned?_isJson {negative : Bool} {cs rest : List Char} {n : Number}
    (h : unsigned? negative cs = some (n, rest)) : n.IsJson := by
  unfold unsigned? at h
  simp only [Option.bind_eq_bind, Option.bind_eq_some_iff] at h
  obtain ⟨⟨whole, cs⟩, -, ⟨behind, cs⟩, -, ⟨power, cs⟩, -, n', hfinite, h⟩ := h
  cases h
  cases hn : numberOf negative whole behind power with
  | integer m =>
    rw [hn] at hfinite
    cases hfinite
    exact numberOf_isJson hn
  | real x =>
    rw [hn, finite?] at hfinite
    split at hfinite
    · rename_i hx
      cases hfinite
      exact hx
    · cases hfinite

theorem number?_isJson {cs rest : List Char} {n : Number} (h : number? cs = some (n, rest)) :
    n.IsJson := by
  unfold number? at h
  split at h <;> exact unsigned?_isJson h

theorem scalar?_isJson {cs rest : List Char} {x : Value} (h : scalar? cs = some (x, rest)) :
    x.IsJson := by
  unfold scalar? at h
  split at h
  · cases h
    exact .null
  · cases h
    exact .bool true
  · cases h
    exact .bool false
  · obtain ⟨_, -, h⟩ := Option.map_eq_some_iff.mp h
    cases h
    exact .string _
  · obtain ⟨_, hn, h⟩ := Option.map_eq_some_iff.mp h
    cases h
    exact .number (number?_isJson hn)

variable {item : List Char → Option (Value × List Char)}

theorem items?_isJson (hitem : ∀ {cs rest x}, item cs = some (x, rest) → x.IsJson) {fuel : Nat}
    {cs rest : List Char} {xs : List Value} (h : items? item fuel cs = some (xs, rest)) :
    ∀ x ∈ xs, x.IsJson := by
  induction fuel generalizing cs xs with
  | zero => cases h
  | succ fuel ih =>
    unfold items? at h
    obtain ⟨⟨x, cs⟩, hx, h⟩ := Option.bind_eq_some_iff.mp h
    dsimp only at h
    split at h
    · obtain ⟨⟨xs', cs'⟩, hxs, h⟩ := Option.bind_eq_some_iff.mp h
      cases h
      exact List.forall_mem_cons.mpr ⟨hitem hx, ih hxs⟩
    · cases h
      exact List.forall_mem_singleton.mpr (hitem hx)
    · cases h

theorem members?_isJson (hitem : ∀ {cs rest x}, item cs = some (x, rest) → x.IsJson) {fuel : Nat}
    {cs rest : List Char} {ms : Value.Members} (h : members? item fuel cs = some (ms, rest)) :
    ∀ m ∈ ms, m.2.IsJson := by
  induction fuel generalizing cs ms with
  | zero => cases h
  | succ fuel ih =>
    unfold members? at h
    split at h
    · obtain ⟨⟨name, cs⟩, -, h⟩ := Option.bind_eq_some_iff.mp h
      dsimp only at h
      split at h
      · obtain ⟨⟨x, cs⟩, hx, h⟩ := Option.bind_eq_some_iff.mp h
        dsimp only at h
        split at h
        · obtain ⟨⟨ms', cs'⟩, hms, h⟩ := Option.bind_eq_some_iff.mp h
          cases h
          exact List.forall_mem_cons.mpr ⟨hitem hx, ih hms⟩
        · cases h
          exact List.forall_mem_singleton.mpr (hitem hx)
        · cases h
      · cases h
    · cases h

theorem value?_isJson {depth : Nat} {cs rest : List Char} {x : Value}
    (h : value? depth cs = some (x, rest)) : x.IsJson := by
  induction depth generalizing cs rest x with
  | zero => exact scalar?_isJson h
  | succ depth ih =>
    unfold value? at h
    split at h
    · split at h
      · cases h
        exact .array nofun
      · obtain ⟨_, hitems, h⟩ := Option.map_eq_some_iff.mp h
        cases h
        exact .array (items?_isJson ih hitems)
    · split at h
      · cases h
        exact .object nofun
      · obtain ⟨_, hmembers, h⟩ := Option.map_eq_some_iff.mp h
        cases h
        exact .ofMembers (members?_isJson ih hmembers)
    · exact scalar?_isJson h

/-- **Every value of a text is a JSON value.** -/
theorem read?_isJson {s : String} {v : Value} (h : read? s = some v) : v.IsJson := by
  unfold read? at h
  split at h
  · rename_i x cs hx
    split at h
    · cases h
      exact value?_isJson hx
    · cases h
  · cases h

end Json

end RightSizing
