import HealthMonitor.Duration
import HealthMonitor.Proofs.Numerals
import Mathlib.Algebra.Group.Nat.Defs

/-!
# Durations as they are written

A duration is written as a numeral with one of the endings of its unit, with any
blanks around it.  Exactly the texts written so are read, each as its number of
units, as long as the count fits into 64 bits (`ofText?_eq_some_iff`).  A limit
is read like a duration, except for the two texts that stand for no limit, which
are no durations.  The main statement is `duration_record`.
-/

namespace HealthMonitor

namespace TimeUnit

/-- What stands after the number for each unit; a bare number counts seconds. -/
def endings : TimeUnit → List (List Char)
  | milliseconds => [['m', 's']]
  | seconds => [[], ['s']]
  | minutes => [['m']]

def millis : TimeUnit → Nat
  | milliseconds => 1
  | seconds => 1000
  | minutes => 60000

/-- A number of units that is within bounds.  Minutes are counted in seconds, of
which there must not be too many either. -/
def Counts (unit : TimeUnit) (n : Nat) : Prop :=
  n ≤ 2 ^ 64 - 1 ∧ (unit = minutes → 60 * n ≤ 2 ^ 64 - 1)

theorem amount?_eq_some_iff {unit : TimeUnit} {n d : Nat} :
    unit.amount? n = some d ↔
      (unit = minutes → 60 * n ≤ Text.maxWord64) ∧ d = n * unit.millis := by
  cases unit with
  | milliseconds => simp [amount?, millis, eq_comm]
  | seconds => simp [amount?, millis, eq_comm, Nat.mul_comm]
  | minutes => simp [amount?, millis, eq_comm, Nat.mul_comm]

end TimeUnit

namespace Duration

/-- A text that writes the duration `d`, without blanks around it. -/
def Written (body : List Char) (d : Nat) : Prop :=
  ∃ numeral ending unit n, body = numeral ++ ending ∧
    Text.Unsigned numeral n ∧ ending ∈ TimeUnit.endings unit ∧
    unit.Counts n ∧ d = n * unit.millis

/-! ## The unit at the end -/

section Unit

variable {c : Char} {cs rest body ending : List Char} {unit : TimeUnit}

theorem dropLast?_concat (c : Char) (rest : List Char) :
    dropLast? c (rest ++ [c]) = some rest := by
  simp [dropLast?]

theorem eq_concat_of_dropLast? (hdrop : dropLast? c cs = some rest) :
    cs = rest ++ [c] := by
  rw [dropLast?, Option.ite_none_right_eq_some] at hdrop
  obtain ⟨hlast, hrest⟩ := hdrop
  obtain ⟨front, rfl⟩ := List.getLast?_eq_some_iff.mp hlast
  rw [← Option.some.inj hrest, List.dropLast_concat]

theorem dropLast?_of_notMem (hnot : c ∉ cs) : dropLast? c cs = none := by
  rw [dropLast?, if_neg]
  intro hlast
  exact hnot (List.mem_of_getLast? hlast)

/-- An ending is taken off what has no letter of an ending itself.  The longer
one is tried first, so milliseconds are not taken for seconds. -/
theorem splitUnit_append
    (hs : 's' ∉ body) (hm : 'm' ∉ body) (hending : ending ∈ unit.endings) :
    splitUnit (body ++ ending) = (unit, body) := by
  cases unit with
  | milliseconds =>
      obtain rfl := List.mem_singleton.mp hending
      have htext : body ++ ['m', 's'] = body ++ ['m'] ++ ['s'] := by simp
      simp only [splitUnit, htext, dropLast?_concat]
  | seconds =>
      have hcases : ending = [] ∨ ending = ['s'] := by
        simpa [TimeUnit.endings] using hending
      rcases hcases with rfl | rfl
      · simp only [splitUnit, List.append_nil, dropLast?_of_notMem hs,
          dropLast?_of_notMem hm]
      · simp only [splitUnit, dropLast?_concat, dropLast?_of_notMem hm]
  | minutes =>
      obtain rfl := List.mem_singleton.mp hending
      have hnot : 's' ∉ body ++ ['m'] := by simpa using hs
      simp only [splitUnit, dropLast?_of_notMem hnot, dropLast?_concat]

/-- No numeral has a letter of an ending. -/
theorem splitUnit_numeral {numeral : List Char} {n : Nat}
    (hnumeral : Text.Unsigned numeral n) (hending : ending ∈ unit.endings) :
    splitUnit (numeral ++ ending) = (unit, numeral) :=
  splitUnit_append (hnumeral.notMem rfl (by decide))
    (hnumeral.notMem rfl (by decide)) hending

theorem exists_ending_of_splitUnit (hsplit : splitUnit cs = (unit, body)) :
    ∃ ending ∈ unit.endings, cs = body ++ ending := by
  unfold splitUnit at hsplit
  split at hsplit
  next rest hrest =>
    rw [eq_concat_of_dropLast? hrest]
    split at hsplit
    next other hbody =>
      obtain ⟨rfl, rfl⟩ := Prod.mk.inj hsplit
      rw [eq_concat_of_dropLast? hbody, List.append_assoc]
      exact ⟨['m', 's'], List.mem_singleton_self _, rfl⟩
    next =>
      obtain ⟨rfl, rfl⟩ := Prod.mk.inj hsplit
      exact ⟨['s'], by decide, rfl⟩
  next =>
    split at hsplit
    next other hbody =>
      obtain ⟨rfl, rfl⟩ := Prod.mk.inj hsplit
      rw [eq_concat_of_dropLast? hbody]
      exact ⟨['m'], by decide, rfl⟩
    next =>
      obtain ⟨rfl, rfl⟩ := Prod.mk.inj hsplit
      exact ⟨[], by decide, (List.append_nil _).symm⟩

end Unit

/-! ## Whole durations -/

section Durations

variable {cs body : List Char} {d : Nat} {s : String}

theorem ofChars?_eq_some_iff : ofChars? cs = some d ↔ Written cs d := by
  constructor
  · intro hread
    rcases hsplit : splitUnit cs with ⟨unit, body⟩
    simp only [ofChars?, hsplit, Option.bind_eq_some_iff] at hread
    obtain ⟨n, hn, hd⟩ := hread
    obtain ⟨ending, hending, hcs⟩ := exists_ending_of_splitUnit hsplit
    obtain ⟨hnumeral, hbound⟩ := Text.unsigned?_eq_some_iff.mp hn
    obtain ⟨hminutes, hamount⟩ := TimeUnit.amount?_eq_some_iff.mp hd
    exact ⟨body, ending, unit, n, hcs, hnumeral, hending, ⟨hbound, hminutes⟩,
      hamount⟩
  · rintro ⟨numeral, ending, unit, n, rfl, hnumeral, hending, hcounts, hd⟩
    have hsplit := splitUnit_numeral hnumeral hending
    have hread : Text.unsigned? Text.maxWord64 numeral = some n :=
      Text.unsigned?_eq_some_iff.mpr ⟨hnumeral, hcounts.1⟩
    simp only [ofChars?, hsplit, hread, Option.bind_some]
    exact TimeUnit.amount?_eq_some_iff.mpr ⟨hcounts.2, hd⟩

theorem not_blank_of_parts
    {numeral ending : List Char} {unit : TimeUnit} {n : Nat}
    (hnumeral : Text.Unsigned numeral n) (hending : ending ∈ unit.endings) :
    ∀ c ∈ numeral ++ ending, Text.isBlank c = false := by
  intro c hc
  rcases List.mem_append.mp hc with hc | hc
  · exact hnumeral.not_blank c hc
  · have hletters : (unit.endings.all (·.all (!Text.isBlank ·))) = true := by
      cases unit <;> rfl
    simpa using List.all_eq_true.mp (List.all_eq_true.mp hletters ending hending) c hc

theorem Written.not_blank (hwritten : Written body d) :
    ∀ c ∈ body, Text.isBlank c = false := by
  obtain ⟨numeral, ending, unit, n, rfl, hnumeral, hending, -, -⟩ := hwritten
  exact not_blank_of_parts hnumeral hending

theorem ofText?_eq_some_iff :
    ofText? s = some d ↔
      ∃ body, Text.Padded body s.toList ∧ Written body d := by
  rw [ofText?, ofChars?_eq_some_iff]
  constructor
  · intro hwritten
    exact ⟨_, Text.padded_trimmed s.toList, hwritten⟩
  · rintro ⟨body, hpadded, hwritten⟩
    rwa [Text.trimmed_of_padded hwritten.not_blank hpadded]

theorem Written.wholeSeconds_le (hwritten : Written body d) :
    wholeSeconds d ≤ 2 ^ 64 - 1 := by
  obtain ⟨-, -, unit, n, -, -, -, ⟨hn, hminutes⟩, rfl⟩ := hwritten
  cases unit with
  | milliseconds =>
      simp only [wholeSeconds, TimeUnit.millis]
      omega
  | seconds =>
      simp only [wholeSeconds, TimeUnit.millis]
      omega
  | minutes =>
      have hseconds := hminutes rfl
      simp only [wholeSeconds, TimeUnit.millis]
      omega

end Durations

/-! ## Limits -/

section Limits

variable {s : String}

/-- The texts that stand for no limit. -/
def Unlimited (body : List Char) : Prop :=
  body = ['-', '1'] ∨ body = ['n', 'o', 'n', 'e']

theorem Unlimited.not_blank {body : List Char} (hunlimited : Unlimited body) :
    ∀ c ∈ body, Text.isBlank c = false := by
  have hletters : (body.all (!Text.isBlank ·)) = true := by
    rcases hunlimited with rfl | rfl <;> rfl
  intro c hc
  simpa using List.all_eq_true.mp hletters c hc

theorem limitOfText?_eq_none_limit_iff :
    limitOfText? s = some none ↔
      ∃ body, Text.Padded body s.toList ∧ Unlimited body := by
  have htrimmed :
      (∃ body, Text.Padded body s.toList ∧ Unlimited body) ↔
        Unlimited (Text.trimmed s.toList) := by
    constructor
    · rintro ⟨body, hpadded, hunlimited⟩
      rwa [Text.trimmed_of_padded hunlimited.not_blank hpadded]
    · intro hunlimited
      exact ⟨_, Text.padded_trimmed s.toList, hunlimited⟩
  rw [htrimmed]
  simp only [limitOfText?, Unlimited]
  split
  next hunlimited => exact iff_of_true rfl hunlimited
  next hlimited => exact iff_of_false (by simp) hlimited

theorem limitOfText?_of_limited (hlimited : limitOfText? s ≠ some none) :
    limitOfText? s = (ofText? s).map some := by
  simp only [limitOfText?, ofText?] at hlimited ⊢
  split
  next hunlimited => exact absurd (if_pos hunlimited) hlimited
  next => rfl

/-- No limit is no duration. -/
theorem ofText?_of_unlimited (hunlimited : limitOfText? s = some none) :
    ofText? s = none := by
  simp only [limitOfText?, ofText?] at hunlimited ⊢
  split at hunlimited
  next hbody => rcases hbody with hbody | hbody <;> rw [hbody] <;> rfl
  next => simp at hunlimited

end Limits

/-! ## Printed durations -/

section Printed

variable {numeral ending : List Char} {unit : TimeUnit} {n d : Nat} {s : String}

/-- A text that can be read apart in one way only. -/
theorem Written.counts
    (hwritten : Written (numeral ++ ending) d)
    (hnumeral : Text.Unsigned numeral n) (hending : ending ∈ unit.endings) :
    unit.Counts n ∧ d = n * unit.millis := by
  obtain ⟨other, rest, found, m, hsame, hother, hrest, hcounts, hd⟩ := hwritten
  have hfound : splitUnit (numeral ++ ending) = (found, other) :=
    hsame ▸ splitUnit_numeral hother hrest
  obtain ⟨rfl, rfl⟩ :=
    Prod.mk.inj ((splitUnit_numeral hnumeral hending).symm.trans hfound)
  rw [hnumeral.value_unique hother]
  exact ⟨hcounts, hd⟩

/-- A text that prints `n` units, perhaps among blanks. -/
def Prints (n : Nat) (unit : TimeUnit) (s : String) : Prop :=
  ∃ ending ∈ unit.endings,
    Text.Padded ((toString n).toList ++ ending) s.toList

theorem Prints.ofText?_eq_some_iff (hprints : Prints n unit s) :
    ofText? s = some d ↔ unit.Counts n ∧ d = n * unit.millis := by
  obtain ⟨ending, hending, hpadded⟩ := hprints
  have hnumeral := Text.unsigned_toString n
  rw [ofText?,
    Text.trimmed_of_padded (not_blank_of_parts hnumeral hending) hpadded,
    ofChars?_eq_some_iff]
  constructor
  · intro hwritten
    exact hwritten.counts hnumeral hending
  · rintro ⟨hcounts, hd⟩
    exact ⟨_, ending, unit, n, rfl, hnumeral, hending, hcounts, hd⟩

/-- What begins with a digit is a limit, if anything. -/
theorem Prints.limited (hprints : Prints n unit s) :
    limitOfText? s ≠ some none := by
  obtain ⟨ending, hending, hpadded⟩ := hprints
  have hnumeral := Text.unsigned_toString n
  rw [ne_eq, limitOfText?_eq_none_limit_iff]
  rintro ⟨body, hbody, hunlimited⟩
  have hsame : body = (toString n).toList ++ ending := by
    rw [← Text.trimmed_of_padded (not_blank_of_parts hnumeral hending) hpadded]
    exact (Text.trimmed_of_padded hunlimited.not_blank hbody).symm
  obtain ⟨c, rest, hcons⟩ := List.exists_cons_of_ne_nil hnumeral.ne_nil
  have hfirst := hnumeral.isDigit_or_plus c (hcons ▸ List.mem_cons_self)
  rw [hcons, List.cons_append] at hsame
  rcases hunlimited with rfl | rfl
  · obtain ⟨rfl, -⟩ := List.cons.inj hsame
    exact absurd hfirst (by decide)
  · obtain ⟨rfl, -⟩ := List.cons.inj hsame
    exact absurd hfirst (by decide)

end Printed

/-! ## The account of the readers -/

/-- What the readers of durations and limits make of a text. -/
structure TextRecord (s : String) : Prop where
  accepted : ∀ d, ofText? s = some d ↔
    ∃ body, Text.Padded body s.toList ∧ Written body d
  refused : (¬∃ body d, Text.Padded body s.toList ∧ Written body d) →
    ofText? s = none
  /-- The seconds of a duration that was read fit into 64 bits. -/
  fits : ∀ d, ofText? s = some d → wholeSeconds d ≤ 2 ^ 64 - 1
  unlimited : limitOfText? s = some none ↔
    ∃ body, Text.Padded body s.toList ∧ Unlimited body
  limited : limitOfText? s ≠ some none →
    limitOfText? s = (ofText? s).map some
  apart : limitOfText? s = some none → ofText? s = none
  /-- A printed duration is read back if its units can be counted. -/
  printed : ∀ n unit, Prints n unit s → unit.Counts n →
    ofText? s = some (n * unit.millis) ∧
      limitOfText? s = some (some (n * unit.millis))
  uncounted : ∀ n unit, Prints n unit s → ¬unit.Counts n →
    ofText? s = none ∧ limitOfText? s = none

end Duration

/-- Exactly the texts in the form of a duration are read, each as the duration
it writes; a limit is read in the same way, unless it is written as no limit;
and what is printed is read back. -/
theorem duration_record (s : String) : Duration.TextRecord s where
  accepted d := Duration.ofText?_eq_some_iff
  refused := by
    intro hnone
    rw [Option.eq_none_iff_forall_ne_some]
    intro d hd
    obtain ⟨body, hbody⟩ := Duration.ofText?_eq_some_iff.mp hd
    exact hnone ⟨body, d, hbody⟩
  fits := by
    intro d hd
    obtain ⟨body, -, hwritten⟩ := Duration.ofText?_eq_some_iff.mp hd
    exact hwritten.wholeSeconds_le
  unlimited := Duration.limitOfText?_eq_none_limit_iff
  limited := Duration.limitOfText?_of_limited
  apart := Duration.ofText?_of_unlimited
  printed := by
    intro n unit hprints hcounts
    have hread := hprints.ofText?_eq_some_iff.mpr ⟨hcounts, rfl⟩
    rw [Duration.limitOfText?_of_limited hprints.limited, hread]
    exact ⟨rfl, rfl⟩
  uncounted := by
    intro n unit hprints hcounts
    have hnone : Duration.ofText? s = none := by
      rw [Option.eq_none_iff_forall_ne_some]
      intro d hd
      exact hcounts (hprints.ofText?_eq_some_iff.mp hd).1
    rw [Duration.limitOfText?_of_limited hprints.limited, hnone]
    exact ⟨rfl, rfl⟩

example : Duration.ofText? " +007m\u3000" = some 420000 := by rfl

end HealthMonitor
