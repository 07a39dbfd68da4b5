import HealthMonitor.Proofs.ProbeUrls
import HealthMonitor.Status
import Mathlib.Algebra.Group.Int.Defs
import Mathlib.Algebra.Group.Nat.Defs
import Mathlib.Data.List.Basic

/-!
# Ages as they are read

An age is shown as a lone zero, or as seconds with three decimals and perhaps a
minus sign.  A text of this form can be read in one way only, and what is shown
for a number of milliseconds is read as exactly that number
(`Age.reads_text_iff`).  So a message about a probe that timed out tells two ages
apart, even where the signed count of 64 bits shows them below zero.  The main
statement is `age_record`.
-/

namespace HealthMonitor

/-! ## Digits -/

namespace Text

/-- There is no zero in front of other digits. -/
def NoLeadingZero (cs : List Char) : Prop :=
  cs = ['0'] ∨ cs.head? ≠ some '0'

theorem head?_toDigits_ne_zero {n : Nat} (hpos : 0 < n) :
    (Nat.toDigits 10 n).head? ≠ some '0' := by
  induction n using Nat.strong_induction_on with
  | h n ih =>
      by_cases hsmall : n < 10
      · rw [Nat.toDigits_of_lt_base hsmall, List.head?_cons]
        intro hzero
        have hcode := congrArg Char.toNat (Option.some.inj hzero)
        rw [Nat.toNat_digitChar_of_lt_ten hsmall] at hcode
        have hcode : 48 + n = 48 := hcode
        omega
      · -- The first digit is that of the number without its last digit.
        have hfront : Nat.toDigits 10 (n / 10) ≠ [] :=
          (digits_toDigits (n / 10)).nonempty
        rw [Nat.toDigits_of_base_le (by decide) (Nat.le_of_not_lt hsmall),
          List.head?_append_of_ne_nil _ hfront]
        exact ih (n / 10) (by omega) (by omega)

theorem noLeadingZero_toDigits (n : Nat) : NoLeadingZero (Nat.toDigits 10 n) := by
  rcases Nat.eq_zero_or_pos n with rfl | hpos
  · exact .inl rfl
  · exact .inr (head?_toDigits_ne_zero hpos)

/-- A text is cut in one way only at the first of its marks. -/
theorem append_mark_inj {mark : Char} {front front' back back' : List Char}
    (hfront : mark ∉ front) (hfront' : mark ∉ front')
    (hsame : front ++ mark :: back = front' ++ mark :: back') :
    front = front' ∧ back = back' := by
  obtain rfl : front = front' := calc
    front = (front ++ mark :: back).takeWhile (· ≠ mark) := (takeWhile_ne_append hfront).symm
    _ = (front' ++ mark :: back').takeWhile (· ≠ mark) := by rw [hsame]
    _ = front' := takeWhile_ne_append hfront'
  exact ⟨rfl, (List.cons.inj (List.append_cancel_left hsame)).2⟩

end Text

theorem Duration.digits_threeDigits {n : Nat} (hsmall : n < 1000) :
    Text.Digits (threeDigits n) n where
  nonempty := List.cons_ne_nil _ _
  digits := by
    have hdigit : ∀ k, (k % 10).digitChar.isDigit = true := by
      intro k
      rw [Nat.isDigit_digitChar]
      exact decide_eq_true (Nat.mod_lt k (by decide))
    intro c hc
    simp only [threeDigits, List.mem_cons, List.not_mem_nil, or_false] at hc
    rcases hc with rfl | rfl | rfl
    · exact hdigit (n / 100)
    · exact hdigit (n / 10)
    · exact hdigit n
  value := by
    have hvalue : ∀ k, (k % 10).digitChar.toNat - '0'.toNat = k % 10 := by
      intro k
      rw [Nat.toNat_digitChar_of_lt_ten (Nat.mod_lt k (by decide))]
      exact Nat.add_sub_cancel_left 48 (k % 10)
    simp only [threeDigits, Nat.ofDigitChars_cons, Nat.ofDigitChars_nil, hvalue]
    omega

namespace Age

/-! ## Reading an age -/

/-- A number of milliseconds in seconds with three decimals. -/
def Seconds (cs : List Char) (n : Nat) : Prop :=
  ∃ whole decimals seconds rest, cs = whole ++ '.' :: (decimals ++ ['s']) ∧
    Text.Digits whole seconds ∧ Text.NoLeadingZero whole ∧
    Text.Digits decimals rest ∧ decimals.length = 3 ∧
    n = 1000 * seconds + rest

/-- A text that is read as a number of milliseconds. -/
inductive Reads : List Char → Int → Prop where
  | zero : Reads ['0'] 0
  | above {cs : List Char} {n : Nat} (hseconds : Seconds cs n) : Reads cs n
  | below {cs : List Char} {n : Nat} (hseconds : Seconds cs n) :
      Reads ('-' :: cs) (-n)

section Reading

variable {cs : List Char} {c : Char} {n m : Nat} {millis other : Int}

theorem Seconds.mem (hseconds : Seconds cs n) (hc : c ∈ cs) :
    c.isDigit = true ∨ c = '.' ∨ c = 's' := by
  obtain ⟨whole, decimals, seconds, rest, rfl, hwhole, -, hdecimals, -, -⟩ := hseconds
  simp only [List.mem_append, List.mem_cons, List.not_mem_nil, or_false] at hc
  rcases hc with hc | rfl | hc | rfl
  · exact .inl (hwhole.digits c hc)
  · exact .inr (.inl rfl)
  · exact .inl (hdecimals.digits c hc)
  · exact .inr (.inr rfl)

/-- The point stands after the whole seconds, and nowhere else. -/
theorem Seconds.unique (hn : Seconds cs n) (hm : Seconds cs m) : n = m := by
  obtain ⟨whole, decimals, seconds, rest, rfl, hwhole, -, hdecimals, -, rfl⟩ := hn
  obtain ⟨whole', decimals', seconds', rest', hsame, hwhole', -, hdecimals', -, rfl⟩ := hm
  have hpoint : '.' ∉ whole := fun h => nomatch hwhole.digits '.' h
  have hpoint' : '.' ∉ whole' := fun h => nomatch hwhole'.digits '.' h
  obtain ⟨rfl, hback⟩ := Text.append_mark_inj hpoint hpoint' hsame
  obtain rfl := List.append_cancel_right hback
  rw [← hwhole.value, ← hwhole'.value, ← hdecimals.value, ← hdecimals'.value]

theorem Seconds.notMem_minus (hseconds : Seconds cs n) : '-' ∉ cs := by
  intro hminus
  rcases hseconds.mem hminus with h | h | h <;> exact absurd h (by decide)

/-- A lone zero has no unit. -/
theorem Seconds.ne_zero (hseconds : Seconds cs n) : cs ≠ ['0'] := by
  obtain ⟨whole, decimals, -, -, rfl, -⟩ := hseconds
  intro hzero
  have hpoint : '.' ∈ whole ++ '.' :: (decimals ++ ['s']) := by simp
  exact absurd (hzero ▸ hpoint) (by decide)

/-- No text is read as two numbers. -/
theorem Reads.unique (hmillis : Reads cs millis) (hother : Reads cs other) :
    millis = other := by
  cases hmillis with
  | zero =>
      generalize hcs : ['0'] = cs at hother
      cases hother with
      | zero => rfl
      | above hseconds => exact absurd hcs.symm hseconds.ne_zero
      | below hseconds => exact nomatch hcs
  | above hseconds =>
      cases hother with
      | zero => exact absurd rfl hseconds.ne_zero
      | above hseconds' => exact congrArg _ (hseconds.unique hseconds')
      | below hseconds' => exact absurd List.mem_cons_self hseconds.notMem_minus
  | below hseconds =>
      cases hother with
      | above hseconds' => exact absurd List.mem_cons_self hseconds'.notMem_minus
      | below hseconds' => exact congrArg (fun n : Nat => -(n : Int)) (hseconds.unique hseconds')

theorem Reads.notMem_space (hreads : Reads cs millis) : ' ' ∉ cs := by
  cases hreads with
  | zero => decide
  | above hseconds =>
      intro hspace
      rcases hseconds.mem hspace with h | h | h <;> exact absurd h (by decide)
  | below hseconds =>
      intro hspace
      rcases List.mem_cons.mp hspace with h | hspace
      · exact absurd h (by decide)
      · rcases hseconds.mem hspace with h | h | h <;> exact absurd h (by decide)

end Reading

/-! ## What is shown is read -/

section Shown

variable {n : Nat} {millis other : Int}

/-- A number of milliseconds in seconds, without a sign. -/
def shownSeconds (n : Nat) : String :=
  toString (n / 1000) ++ "." ++ String.ofList (Duration.threeDigits (n % 1000)) ++ "s"

theorem seconds_shownSeconds (n : Nat) : Seconds (shownSeconds n).toList n := by
  refine ⟨Nat.toDigits 10 (n / 1000), Duration.threeDigits (n % 1000), n / 1000, n % 1000, ?_,
    Text.digits_toDigits _, Text.noLeadingZero_toDigits _,
    Duration.digits_threeDigits (Nat.mod_lt n (by decide)), rfl, (Nat.div_add_mod n 1000).symm⟩
  simp [shownSeconds, Nat.toString_eq_repr, Nat.toList_repr]

theorem text_of_pos (hpos : 0 < millis) : text millis = shownSeconds millis.natAbs := by
  simp [text, shownSeconds, Int.ne_of_gt hpos, Int.lt_asymm hpos]

theorem text_of_neg (hneg : millis < 0) : text millis = "-" ++ shownSeconds millis.natAbs := by
  simp [text, shownSeconds, Int.ne_of_lt hneg, hneg, String.append_assoc]

theorem reads_text (millis : Int) : Reads (text millis).toList millis := by
  rcases Int.lt_trichotomy millis 0 with hneg | rfl | hpos
  · have hreads := Reads.below (seconds_shownSeconds millis.natAbs)
    have hsize : -(millis.natAbs : Int) = millis := by omega
    rw [hsize] at hreads
    rwa [text_of_neg hneg, String.toList_append]
  · exact .zero
  · have hreads := Reads.above (seconds_shownSeconds millis.natAbs)
    have hsize : (millis.natAbs : Int) = millis := by omega
    rw [hsize] at hreads
    rwa [text_of_pos hpos]

theorem reads_text_iff : Reads (text millis).toList other ↔ other = millis := by
  constructor
  · intro hother
    exact hother.unique (reads_text millis)
  · rintro rfl
    exact reads_text other

theorem text_inj : text millis = text other ↔ millis = other := by
  constructor
  · intro hsame
    exact reads_text_iff.mp (hsame ▸ reads_text millis)
  · rintro rfl
    rfl

theorem minus_mem_text_iff : '-' ∈ (text millis).toList ↔ millis < 0 := by
  rcases Int.lt_trichotomy millis 0 with hneg | rfl | hpos
  · rw [text_of_neg hneg, String.toList_append]
    exact iff_of_true List.mem_cons_self hneg
  · decide
  · rw [text_of_pos hpos]
    exact iff_of_false (seconds_shownSeconds _).notMem_minus (Int.lt_asymm hpos)

end Shown

/-! ## Counting in 64 bits -/

section Words

variable (millis : Int64)

/-- How far a signed count is from zero. -/
def unsignedAbs (millis : Int64) : UInt64 :=
  millis.abs.toUInt64

/-- `text`, with all that is counted in 64 bits. -/
def textOfInt64 (millis : Int64) : String :=
  let seconds := unsignedAbs (millis / 1000)
  let rest := unsignedAbs (millis % 1000)
  let shown := toString seconds.toNat ++ "." ++
    String.ofList (Duration.threeDigits rest.toNat) ++ "s"
  if millis = 0 then "0" else if 0 < millis then shown else "-" ++ shown

/-- The least count has no opposite among the signed ones, but among the
unsigned ones. -/
theorem toNat_unsignedAbs : (unsignedAbs millis).toNat = millis.toInt.natAbs := by
  have hsize := millis.toBitVec.isLt
  rw [unsignedAbs, ← Int64.toNat_toBitVec, Int64.toBitVec_abs, BitVec.toNat_abs,
    ← Int64.toInt_toBitVec, BitVec.toInt_eq_msb_cond]
  split <;> omega

theorem toInt_seconds : (millis / 1000).toInt = millis.toInt.tdiv 1000 :=
  Int64.toInt_div_of_ne_right millis 1000 (by decide)

theorem toInt_rest : (millis % 1000).toInt = millis.toInt.tmod 1000 :=
  Int64.toInt_mod millis 1000

theorem textOfInt64_eq : textOfInt64 millis = text millis.toInt := by
  have hseconds : (unsignedAbs (millis / 1000)).toNat = millis.toInt.natAbs / 1000 := by
    rw [toNat_unsignedAbs, toInt_seconds, Int.natAbs_tdiv]
    rfl
  have hrest : (unsignedAbs (millis % 1000)).toNat = millis.toInt.natAbs % 1000 := by
    rw [toNat_unsignedAbs, toInt_rest, Int.natAbs_tmod]
    rfl
  have hzero : millis = 0 ↔ millis.toInt = 0 := Int64.toInt_inj.symm
  have hpos : 0 < millis ↔ 0 < millis.toInt := Int64.lt_iff_toInt_lt
  simp only [textOfInt64, hseconds, hrest, hzero, hpos]
  change (if _ then "0" else if _ then shownSeconds _ else "-" ++ shownSeconds _) = _
  rcases Int.lt_trichotomy millis.toInt 0 with hneg | heq | hpos
  · rw [if_neg (Int.ne_of_lt hneg), if_neg (Int.lt_asymm hneg), text_of_neg hneg]
  · rw [if_pos heq, heq]
    rfl
  · rw [if_neg (Int.ne_of_gt hpos), if_pos hpos, text_of_pos hpos]

/-- What is shown for a signed count of milliseconds. -/
structure TextRecord (millis : Int64) : Prop where
  /-- Neither part of the count runs over, -/
  seconds : (millis / 1000).toInt = millis.toInt.tdiv 1000
  rest : (millis % 1000).toInt = millis.toInt.tmod 1000
  /-- so 64 bits are enough to show it. -/
  computed : textOfInt64 millis = text millis.toInt
  decoded : ∀ other, Reads (text millis.toInt).toList other ↔ other = millis.toInt
  injective : ∀ other : Int64, text other.toInt = text millis.toInt → other = millis
  signed : '-' ∈ (text millis.toInt).toList ↔ millis < 0

theorem textRecord : TextRecord millis where
  seconds := toInt_seconds millis
  rest := toInt_rest millis
  computed := textOfInt64_eq millis
  decoded _ := reads_text_iff
  injective _ hsame := Int64.toInt_inj.mp (text_inj.mp hsame)
  signed := by
    rw [minus_mem_text_iff, Int64.lt_iff_toInt_lt]
    rfl

end Words

/-! ## Ages in messages -/

section Messages

variable {age other : Nat}

theorem ofWord64_eq (age : Nat) :
    ofWord64 age = if age < 2 ^ 63 then (age : Int) else (age : Int) - 2 ^ 64 := by
  have hhalf : 2 * age < UInt64.size ↔ age < 2 ^ 63 := by
    rw [UInt64.size]
    omega
  simp only [ofWord64, hhalf]
  rfl

/-- Only a whole turn of the count would make two ages look alike. -/
theorem ofWord64_inj (hage : age < 2 ^ 64) (hother : other < 2 ^ 64)
    (hsame : ofWord64 age = ofWord64 other) : age = other := by
  rw [ofWord64_eq, ofWord64_eq] at hsame
  omega

end Messages

end Age

section Messages

variable {probe : String} {last other : Status} {now instant : Nat}

/-- The words before and after the age that a message shows. -/
theorem toList_timeoutText (probe : String) (last : Status) (now : Nat) :
    (timeoutText probe (some last) now).toList =
      ("probe " ++ probe ++ " timed out; last event seen ").toList ++
        ((Age.textOfWord64 (last.ageAt now)).toList ++ ' ' :: ("ago: " ++ last.text).toList) := by
  simp [timeoutText]

/-- The age is all that stands between two blanks. -/
theorem ageAt_of_timeoutText (hage : last.ageAt now < 2 ^ 64)
    (hother : other.ageAt instant < 2 ^ 64)
    (hsame : timeoutText probe (some last) now = timeoutText probe (some other) instant) :
    last.ageAt now = other.ageAt instant := by
  have hlists := congrArg String.toList hsame
  rw [toList_timeoutText, toList_timeoutText] at hlists
  obtain ⟨hshown, -⟩ := Text.append_mark_inj (Age.reads_text _).notMem_space
    (Age.reads_text _).notMem_space (List.append_cancel_left hlists)
  exact Age.ofWord64_inj hage hother (Age.text_inj.mp (String.toList_inj.mp hshown))

/-- What a message about a probe that timed out says of the age of its last
status. -/
structure TimeoutAge (probe : String) (last : Status) (now : UInt64) : Prop where
  age : (last.ageAt now.toNat : Int) = max 0 ((now.toNat : Int) - (last.timestamp : Int))
  shown : ∃ shown, timeoutText probe (some last) now.toNat =
      "probe " ++ probe ++ " timed out; last event seen " ++ shown ++ " ago: " ++ last.text ∧
    ∀ millis, Age.Reads shown.toList millis ↔
      millis =
        if last.ageAt now.toNat < 2 ^ 63 then (last.ageAt now.toNat : Int)
        else (last.ageAt now.toNat : Int) - 2 ^ 64
  /-- Two ages are not shown alike, -/
  shownApart : ∀ (other : Status) (instant : UInt64),
    Age.textOfWord64 (last.ageAt now.toNat) = Age.textOfWord64 (other.ageAt instant.toNat) →
      last.ageAt now.toNat = other.ageAt instant.toNat
  /-- nor are they in whole messages about the probe. -/
  toldApart : ∀ (other : Status) (instant : UInt64),
    timeoutText probe (some last) now.toNat = timeoutText probe (some other) instant.toNat →
      last.ageAt now.toNat = other.ageAt instant.toNat

end Messages

/-- A signed count of milliseconds is shown so that it can be read back, and so is
the age of the last status of a probe that timed out. -/
theorem age_record :
    (∀ millis : Int64, Age.TextRecord millis) ∧
      ∀ probe last now, TimeoutAge probe last now := by
  refine ⟨Age.textRecord, fun probe last now => ?_⟩
  have hage : ∀ (status : Status) (instant : UInt64), status.ageAt instant.toNat < 2 ^ 64 := by
    intro status instant
    exact Nat.lt_of_le_of_lt (Nat.sub_le _ _) instant.toNat_lt
  constructor
  case age =>
    rw [Status.ageAt]
    omega
  case shown =>
    refine ⟨Age.textOfWord64 (last.ageAt now.toNat), rfl, fun millis => ?_⟩
    rw [← Age.ofWord64_eq]
    exact Age.reads_text_iff
  case shownApart =>
    intro other instant hsame
    exact Age.ofWord64_inj (hage last now) (hage other instant) (Age.text_inj.mp hsame)
  case toldApart =>
    intro other instant hsame
    exact ageAt_of_timeoutText (hage last now) (hage other instant) hsame

example : Age.text (-9223372036854775808) = "-9223372036854775.808s" := by rfl

end HealthMonitor
