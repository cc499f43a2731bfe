import Mathlib.Data.List.Induction
import RightSizing.Json.Reader
import RightSizing.Text.Quoted

/-!
# A quoted text shows where it ends

What stands for one character of a quoted text is read back without a look at what follows it
(`unescape?_escape`), and none of it begins like the closing quote.  So of two quoted texts, each
with something behind it, the one can be mistaken for the other only if they are the same and are
followed by the same (`quote_append_inj`), whatever characters they quote.

The code in braces is the only escape without a fixed length: it ends at its brace, which is no
hexadecimal digit.
-/

namespace RightSizing.Text

theorem hexNumber?_append_singleton (cs : List Char) (c : Char) :
    Json.hexNumber? (cs ++ [c]) =
      (Json.hexNumber? cs).bind fun n => (Json.hexValue? c).map (16 * n + ·) := by
  unfold Json.hexNumber?
  rw [List.foldl_append, List.foldl_cons, List.foldl_nil]

theorem hexValue?_digitChar : ∀ d < 16, Json.hexValue? d.digitChar = some d := by decide

theorem hexNumber?_toDigits (n : Nat) : Json.hexNumber? (Nat.toDigits 16 n) = some n := by
  induction n using Nat.strongRecOn with
  | ind n ih =>
    by_cases h : n < 16
    · rw [Nat.toDigits_of_lt_base h, ← List.nil_append [n.digitChar], hexNumber?_append_singleton,
        hexValue?_digitChar n h]
      simp [Json.hexNumber?]
    · have hd : n % 16 < 16 := Nat.mod_lt n (by decide)
      rw [Nat.toDigits_of_base_le (by decide) (Nat.le_of_not_lt h), hexNumber?_append_singleton,
        ih (n / 16) (by omega), hexValue?_digitChar _ hd]
      exact congrArg some (Nat.div_add_mod n 16)

/-- every character of a numeral is a digit -/
theorem hexValue?_of_mem {cs : List Char} {n : Nat} (h : Json.hexNumber? cs = some n) :
    ∀ c ∈ cs, Json.hexValue? c ≠ none := by
  induction cs using List.reverseRecOn generalizing n with
  | nil => simp
  | append_singleton cs last ih =>
    rw [hexNumber?_append_singleton] at h
    obtain ⟨m, hm, hlast⟩ := Option.bind_eq_some_iff.mp h
    obtain ⟨d, hd, -⟩ := Option.map_eq_some_iff.mp hlast
    intro c hc
    rcases List.mem_append.mp hc with hc | hc
    · exact ih hm c hc
    · rw [List.mem_singleton.mp hc, hd]
      exact Option.some_ne_none d

theorem ne_brace_of_mem_toDigits {n : Nat} {c : Char} (h : c ∈ Nat.toDigits 16 n) : c ≠ '}' := by
  intro hc
  subst hc
  exact hexValue?_of_mem (hexNumber?_toDigits n) _ h (by decide)

/-! ## Escapes -/

/-- the first character of a quoted text behind its quote, and what follows it -/
def unescape? : List Char → Option (Char × List Char)
  | [] => none
  | '\\' :: 'n' :: rest => some ('\n', rest)
  | '\\' :: 'r' :: rest => some ('\r', rest)
  | '\\' :: 't' :: rest => some ('\t', rest)
  | '\\' :: '0' :: rest => some (Char.ofNat 0, rest)
  | '\\' :: 'u' :: '{' :: rest =>
    (Json.hexNumber? (rest.takeWhile (· ≠ '}'))).map fun code =>
      (Char.ofNat code, (rest.dropWhile (· ≠ '}')).tail)
  | '\\' :: c :: rest => some (c, rest)
  | c :: rest => some (c, rest)

theorem unescape?_brace (rest : List Char) :
    unescape? ('\\' :: 'u' :: '{' :: rest) =
      (Json.hexNumber? (rest.takeWhile (· ≠ '}'))).map fun code =>
        (Char.ofNat code, (rest.dropWhile (· ≠ '}')).tail) := rfl

theorem unescape?_code (n : Nat) (rest : List Char) :
    unescape? ('\\' :: 'u' :: '{' :: (Nat.toDigits 16 n ++ '}' :: rest)) =
      some (Char.ofNat n, rest) := by
  have hdigits : ∀ c ∈ Nat.toDigits 16 n, decide (c ≠ '}') = true :=
    fun c hc => decide_eq_true (ne_brace_of_mem_toDigits hc)
  rw [unescape?_brace, List.takeWhile_append_of_pos hdigits, List.dropWhile_append_of_pos hdigits,
    List.takeWhile_cons_of_neg (by decide), List.dropWhile_cons_of_neg (by decide),
    List.append_nil, hexNumber?_toDigits]
  rfl

theorem unescape?_plain {c : Char} (h : c ≠ '\\') (rest : List Char) :
    unescape? (c :: rest) = some (c, rest) := by
  simp [unescape?, h]

theorem unescape?_escape (c : Char) (rest : List Char) :
    unescape? (escape c ++ rest) = some (c, rest) := by
  unfold escape
  split_ifs with hquote hslash hline hreturn htab hzero hunseen
  · rw [hquote]; rfl
  · rw [hslash]; rfl
  · rw [hline]; rfl
  · rw [hreturn]; rfl
  · rw [htab]; rfl
  · rw [← Char.ofNat_toNat c, hzero]; rfl
  · rw [List.cons_append, List.cons_append, List.cons_append, List.append_assoc,
      List.singleton_append, unescape?_code, Char.ofNat_toNat]
  · exact unescape?_plain hslash rest

theorem escape_append_inj {c d : Char} {rest rest' : List Char}
    (h : escape c ++ rest = escape d ++ rest') : c = d ∧ rest = rest' := by
  have hread : some (c, rest) = some (d, rest') := by
    rw [← unescape?_escape c rest, h, unescape?_escape]
  exact Prod.mk.inj (Option.some.inj hread)

/-- no character is written with a quote in front -/
theorem escape_append_ne_quote (c : Char) (rest rest' : List Char) :
    escape c ++ rest ≠ '"' :: rest' := by
  unfold escape
  split_ifs with hquote
  all_goals simp [hquote]

/-! ## Quotes -/

theorem flatMap_escape_append_inj {cs ds rest rest' : List Char}
    (h : cs.flatMap escape ++ '"' :: rest = ds.flatMap escape ++ '"' :: rest') :
    cs = ds ∧ rest = rest' := by
  induction cs generalizing ds with
  | nil =>
    cases ds with
    | nil => exact ⟨rfl, List.tail_eq_of_cons_eq h⟩
    | cons d ds =>
      rw [List.flatMap_cons, List.append_assoc] at h
      exact absurd h.symm (escape_append_ne_quote d _ rest)
  | cons c cs ih =>
    rw [List.flatMap_cons, List.append_assoc] at h
    cases ds with
    | nil => exact absurd h (escape_append_ne_quote c _ rest')
    | cons d ds =>
      rw [List.flatMap_cons, List.append_assoc] at h
      obtain ⟨hhead, hrest⟩ := escape_append_inj h
      obtain ⟨htail, hbehind⟩ := ih hrest
      exact ⟨congrArg₂ List.cons hhead htail, hbehind⟩

/-- a quoted text is told from any other, whatever follows them -/
theorem quote_append_inj {cs ds rest rest' : List Char}
    (h : quote cs ++ rest = quote ds ++ rest') : cs = ds ∧ rest = rest' := by
  unfold quote at h
  rw [List.cons_append, List.cons_append, List.append_assoc, List.append_assoc] at h
  exact flatMap_escape_append_inj (List.tail_eq_of_cons_eq h)

theorem quote_inj {cs ds : List Char} : quote cs = quote ds ↔ cs = ds := by
  refine ⟨fun h => ?_, congrArg quote⟩
  have happend : quote cs ++ [] = quote ds ++ [] := congrArg (· ++ []) h
  exact (quote_append_inj happend).1

end RightSizing.Text
