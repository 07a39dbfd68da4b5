import HealthMonitor.Text.Blank
import HealthMonitor.Text.Numeral
import Mathlib.Data.List.TakeWhile

/-!
# Numerals and blanks as they are written

An unsigned numeral is one or more ASCII digits, perhaps after a plus sign.  The
reader of numerals accepts exactly these, with the value that their digits have
to base ten, as long as it is within the bound (`unsigned?_eq_some_iff`).  Blanks
around a text that has none of its own are what `trimmed` takes away.
-/

namespace HealthMonitor.Text

/-- One or more ASCII digits with the value `n`. -/
structure Digits (cs : List Char) (n : Nat) : Prop where
  nonempty : cs ≠ []
  digits : ∀ c ∈ cs, c.isDigit = true
  value : Nat.ofDigitChars 10 cs 0 = n

/-- An optional plus sign before digits with the value `n`. -/
def Unsigned (cs : List Char) (n : Nat) : Prop :=
  ∃ digits, (cs = digits ∨ cs = '+' :: digits) ∧ Digits digits n

variable {cs body : List Char} {c : Char} {n : Nat}

theorem toNat_of_isDigit (hdigit : c.isDigit = true) :
    48 ≤ c.toNat ∧ c.toNat ≤ 57 :=
  Char.isDigit_iff_toNat.mp hdigit

theorem digits_toDigits (n : Nat) : Digits (Nat.toDigits 10 n) n where
  nonempty := List.ne_nil_of_length_pos Nat.length_toDigits_pos
  digits := by
    intro c hc
    exact Nat.isDigit_of_mem_toDigits (by decide) (by decide) hc
  value := Nat.ofDigitChars_ten_toDigits

theorem unsigned_toString (n : Nat) : Unsigned (toString n).toList n := by
  refine ⟨Nat.toDigits 10 n, .inl ?_, digits_toDigits n⟩
  rw [Nat.toString_eq_repr, Nat.toList_repr]

namespace Unsigned

theorem ne_nil (hnumeral : Unsigned cs n) : cs ≠ [] := by
  obtain ⟨digits, rfl | rfl, hdigits⟩ := hnumeral
  · exact hdigits.nonempty
  · exact List.cons_ne_nil _ _

theorem isDigit_or_plus (hnumeral : Unsigned cs n) :
    ∀ c ∈ cs, c.isDigit = true ∨ c = '+' := by
  obtain ⟨digits, rfl | rfl, hdigits⟩ := hnumeral
  · intro c hc
    exact .inl (hdigits.digits c hc)
  · intro c hc
    rcases List.mem_cons.mp hc with rfl | hc
    · exact .inr rfl
    · exact .inl (hdigits.digits c hc)

/-- A character that is no digit and no plus sign stands in no numeral. -/
theorem notMem
    (hnumeral : Unsigned cs n) (hdigit : c.isDigit = false) (hplus : c ≠ '+') :
    c ∉ cs := by
  intro hc
  rcases hnumeral.isDigit_or_plus c hc with h | h
  · exact Bool.false_ne_true (hdigit.symm.trans h)
  · exact hplus h

/-- A numeral has one value. -/
theorem value_unique {m : Nat} (hn : Unsigned cs n) (hm : Unsigned cs m) : n = m := by
  obtain ⟨digits, hcs, hdigits⟩ := hn
  obtain ⟨others, hcs', hothers⟩ := hm
  have hplus : '+' ∉ digits := fun h => nomatch hdigits.digits '+' h
  have hplus' : '+' ∉ others := fun h => nomatch hothers.digits '+' h
  have hsame : digits = others := by
    rcases hcs with rfl | rfl <;> rcases hcs' with h | h
    · exact h
    · exact absurd (h ▸ List.mem_cons_self) hplus
    · exact absurd (h ▸ List.mem_cons_self) hplus'
    · exact (List.cons.inj h).2
  rw [← hdigits.value, ← hothers.value, hsame]

end Unsigned

/-! ## Reading numerals -/

theorem digit?_of_isDigit (hdigit : c.isDigit = true) :
    digit? c = some (c.toNat - '0'.toNat) := by
  have hrange : '0' ≤ c ∧ c ≤ '9' := toNat_of_isDigit hdigit
  rw [digit?, if_pos hrange]

theorem digit?_of_not_isDigit (hdigit : c.isDigit = false) : digit? c = none := by
  have hrange : ¬('0' ≤ c ∧ c ≤ '9') := by
    intro h
    exact Bool.false_ne_true (hdigit.symm.trans (Char.isDigit_iff_toNat.mpr h))
  rw [digit?, if_neg hrange]

theorem digitsFrom?_eq_some_iff {value : Nat} :
    digitsFrom? value cs = some n ↔
      (∀ c ∈ cs, c.isDigit = true) ∧ Nat.ofDigitChars 10 cs value = n := by
  induction cs generalizing value with
  | nil => simp [digitsFrom?]
  | cons c rest ih =>
      rw [digitsFrom?, List.forall_mem_cons]
      cases hdigit : c.isDigit with
      | true =>
          rw [digit?_of_isDigit hdigit, Nat.ofDigitChars_cons]
          simpa using ih
      | false => simp [digit?_of_not_isDigit hdigit]

theorem digits?_eq_some_iff : digits? cs = some n ↔ Digits cs n := by
  cases cs with
  | nil => exact iff_of_false nofun fun h => h.nonempty rfl
  | cons c rest =>
      rw [digits?, digitsFrom?_eq_some_iff]
      · exact ⟨fun h => ⟨List.cons_ne_nil c rest, h.1, h.2⟩, fun h => ⟨h.digits, h.value⟩⟩
      · exact List.cons_ne_nil c rest

theorem unsigned_plus_iff : Unsigned ('+' :: body) n ↔ Digits body n := by
  constructor
  · rintro ⟨digits, h | h, hdigits⟩
    · rw [← h] at hdigits
      exact absurd (hdigits.digits '+' List.mem_cons_self) (by decide)
    · exact (List.cons.inj h).2 ▸ hdigits
  · intro hdigits
    exact ⟨body, .inr rfl, hdigits⟩

theorem unsigned_iff_digits (hplus : ∀ rest, cs ≠ '+' :: rest) :
    Unsigned cs n ↔ Digits cs n := by
  constructor
  · rintro ⟨digits, rfl | h, hdigits⟩
    · exact hdigits
    · exact absurd h (hplus digits)
  · intro hdigits
    exact ⟨cs, .inl rfl, hdigits⟩

theorem unsigned?_eq_some_iff {bound : Nat} :
    unsigned? bound cs = some n ↔ Unsigned cs n ∧ n ≤ bound := by
  unfold unsigned?
  split
  next rest =>
    rw [unsigned_plus_iff, ← digits?_eq_some_iff]
    simp [Option.filter_eq_some_iff]
  next hplus =>
    rw [unsigned_iff_digits fun rest h => hplus rest h, ← digits?_eq_some_iff]
    simp [Option.filter_eq_some_iff]

/-! ## Blanks -/

/-- The text `cs` is `body` with nothing but blanks around it. -/
def Padded (body cs : List Char) : Prop :=
  ∃ before after, cs = before ++ body ++ after ∧
    (∀ c ∈ before, isBlank c = true) ∧ ∀ c ∈ after, isBlank c = true

theorem isBlank_of_isDigit (hdigit : c.isDigit = true) : isBlank c = false := by
  have hrange := toNat_of_isDigit hdigit
  simp only [isBlank, Bool.or_eq_false_iff, Bool.and_eq_false_iff,
    decide_eq_false_iff_not, beq_eq_false_iff_ne]
  omega

theorem Unsigned.not_blank (hnumeral : Unsigned cs n) : ∀ c ∈ cs, isBlank c = false := by
  intro c hc
  rcases hnumeral.isDigit_or_plus c hc with hdigit | rfl
  · exact isBlank_of_isDigit hdigit
  · rfl

theorem padded_trimmed (cs : List Char) : Padded (trimmed cs) cs := by
  have hback :=
    List.takeWhile_append_dropWhile (p := isBlank)
      (l := (cs.dropWhile isBlank).reverse)
  refine ⟨cs.takeWhile isBlank,
    ((cs.dropWhile isBlank).reverse.takeWhile isBlank).reverse, ?_, ?_, ?_⟩
  · calc
      cs = cs.takeWhile isBlank ++ (cs.dropWhile isBlank).reverse.reverse := by
        rw [List.reverse_reverse, List.takeWhile_append_dropWhile]
      _ = cs.takeWhile isBlank ++ trimmed cs ++
            ((cs.dropWhile isBlank).reverse.takeWhile isBlank).reverse := by
        rw [← hback, List.reverse_append, hback, List.append_assoc]
        rfl
  · intro c hc
    exact List.mem_takeWhile_imp hc
  · intro c hc
    exact List.mem_takeWhile_imp (List.mem_reverse.mp hc)

theorem trimmed_of_padded
    (hbody : ∀ c ∈ body, isBlank c = false) (hpadded : Padded body cs) :
    trimmed cs = body := by
  obtain ⟨before, after, rfl, hbefore, hafter⟩ := hpadded
  have hkept : ∀ rest : List Char, (∀ c ∈ rest, isBlank c = false) →
      rest.dropWhile isBlank = rest := by
    intro rest hrest
    cases rest with
    | nil => rfl
    | cons c rest => exact List.dropWhile_cons_of_neg (by simp [hrest c])
  have hback : ∀ c ∈ body.reverse, isBlank c = false := by
    intro c hc
    exact hbody c (List.mem_reverse.mp hc)
  rw [trimmed, List.append_assoc, List.dropWhile_append_of_pos hbefore]
  cases body with
  | nil => simp [List.dropWhile_eq_nil_iff.mpr hafter]
  | cons c rest =>
      rw [List.cons_append, List.dropWhile_cons_of_neg (by simp [hbody c]),
        ← List.cons_append, List.reverse_append,
        List.dropWhile_append_of_pos (by simpa using hafter), hkept _ hback,
        List.reverse_reverse]

end HealthMonitor.Text
