import HealthMonitor.Json.Reader
import HealthMonitor.Json.Writer
import HealthMonitor.Proofs.Ages
import Mathlib.Data.List.TakeDrop

/-!
# JSON texts are read as they were written

A written value is read back whole, with the members of its objects in the order
of their names, whatever characters stand in its texts
(`Json.ofText?_text`).  Only what the reader keeps exactly can be read back so:
whole numbers of 64 bits, and fewer than 128 arrays and objects inside each
other.
-/

namespace HealthMonitor.Json

/-! ## What is read back -/

mutual

/-- A value with the members of its objects in the order of their names, and
the last of those that share one. -/
def sorted : Json → Json
  | .array items => .array (sortedItems items)
  | .object members => .object (sortedMembers [] members)
  | value => value

def sortedItems : List Json → List Json
  | [] => []
  | item :: items => item.sorted :: sortedItems items

/-- The members `done` with more of them put in their places. -/
def sortedMembers (done : List (String × Json)) :
    List (String × Json) → List (String × Json)
  | [] => done
  | (name, value) :: members =>
      sortedMembers (insertMember name value.sorted done) members

end

/-- A value whose numbers are whole and have 64 bits, with at most `depth`
arrays and objects inside each other. -/
inductive Readable : Nat → Json → Prop
  | null {depth : Nat} : Readable depth .null
  | bool {depth : Nat} (value : Bool) : Readable depth (.bool value)
  | whole {depth : Nat} {value : Int}
      (hlow : -((Text.maxInt64 + 1 : Nat) : Int) ≤ value)
      (hhigh : value ≤ Text.maxWord64) :
      Readable depth (.number (.whole value))
  | string {depth : Nat} (value : String) : Readable depth (.string value)
  | array {depth : Nat} {items : List Json}
      (hitems : ∀ item ∈ items, Readable depth item) :
      Readable (depth + 1) (.array items)
  | object {depth : Nat} {members : List (String × Json)}
      (hmembers : ∀ member ∈ members, Readable depth member.2) :
      Readable (depth + 1) (.object members)

theorem sortedItems_eq_map (items : List Json) :
    sortedItems items = items.map sorted := by
  induction items with
  | nil => rw [sortedItems, List.map_nil]
  | cons item items ih => rw [sortedItems, List.map_cons, ih]

theorem lookup_cons_eq
    (name other : String) (value : Json) (members : List (String × Json)) :
    ((name, value) :: members).lookup other =
      if other = name then some value else members.lookup other := by
  by_cases h : other = name
  · simp [h]
  · rw [List.lookup_cons, beq_false_of_ne h, if_neg h]

theorem lookup_insertMember
    (name other : String) (value : Json) (members : List (String × Json)) :
    (insertMember name value members).lookup other =
      if other = name then some value else members.lookup other := by
  induction members with
  | nil => exact lookup_cons_eq name other value []
  | cons member members ih =>
      obtain ⟨found, old⟩ := member
      rw [insertMember, lookup_cons_eq]
      by_cases hsame : name = found
      · rw [if_pos hsame, lookup_cons_eq]
        grind
      · rw [if_neg hsame]
        by_cases hbefore : name < found
        · rw [if_pos hbefore, lookup_cons_eq, lookup_cons_eq]
        · rw [if_neg hbefore, lookup_cons_eq, ih]
          grind

theorem lookup_sortedMembers
    (name : String) (done members : List (String × Json)) :
    (sortedMembers done members).lookup name =
      ((members.reverse.lookup name).map sorted).or (done.lookup name) := by
  induction members generalizing done with
  | nil => rw [sortedMembers, List.reverse_nil, List.lookup_nil]; rfl
  | cons member members ih =>
      obtain ⟨found, value⟩ := member
      rw [sortedMembers, ih, lookup_insertMember, List.reverse_cons,
        List.lookup_append, lookup_cons_eq]
      cases members.reverse.lookup name with
      | some last => rfl
      | none => by_cases h : name = found <;> simp [h]

/-- The members of an object can be found after it was read as before. -/
theorem child?_sorted_object (name : String) (members : List (String × Json)) :
    (sorted (.object members)).child? name =
      (members.reverse.lookup name).map sorted := by
  rw [sorted, child?, lookup_sortedMembers]
  simp

/-! ## Texts -/

theorem hexDigit?_digitChar :
    ∀ digit < 16, Text.hexDigit? (Nat.digitChar digit) = some digit := by
  decide

theorem fourHex?_control {code : Nat} (hcode : code < 0x20) (rest : List Char) :
    fourHex? ('0' :: '0' :: Nat.digitChar (code / 16) ::
        Nat.digitChar (code % 16) :: rest) =
      some (code, rest) := by
  have hhigh := hexDigit?_digitChar (code / 16) (by omega)
  have hlow := hexDigit?_digitChar (code % 16) (by omega)
  have hzero : Text.hexDigit? '0' = some 0 := rfl
  have hvalue : ((0 * 16 + 0) * 16 + code / 16) * 16 + code % 16 = code := by
    omega
  simp only [fourHex?, hzero, hhigh, hlow, Option.bind_eq_bind, Option.bind_some,
    hvalue]
  rfl

/-- A control character is none of the surrogates. -/
theorem unicodeEscape?_control {c : Char} (hcode : c.toNat < 0x20) (rest : List Char) :
    unicodeEscape? ('0' :: '0' :: Nat.digitChar (c.toNat / 16) ::
        Nat.digitChar (c.toNat % 16) :: rest) =
      some (c, rest) := by
  have hhigh : ¬(0xD800 ≤ c.toNat ∧ c.toNat ≤ 0xDBFF) := by omega
  have hlow : ¬(0xDC00 ≤ c.toNat ∧ c.toNat ≤ 0xDFFF) := by omega
  rw [unicodeEscape?, fourHex?_control hcode]
  simp only [Option.bind_eq_bind, Option.bind_some, if_neg hhigh, if_neg hlow,
    Char.ofNat_toNat]
  rfl

/-- What stands for a character is read as that character. -/
theorem stringRest?_escapedChar
    (fuel : Nat) (done : List Char) (c : Char) (rest : List Char) :
    stringRest? (fuel + 1) done (escapedChar c ++ rest) =
      stringRest? fuel (c :: done) rest := by
  unfold escapedChar
  split
  next h => subst h; rfl
  split
  next h => subst h; rfl
  split
  next h => subst h; rfl
  split
  next h => subst h; rfl
  split
  next h => subst h; rfl
  split
  next h => subst h; rfl
  split
  next h => subst h; rfl
  split
  next hcontrol =>
    simp only [List.cons_append, List.nil_append, stringRest?, escape?,
      unicodeEscape?_control hcontrol, Option.bind_eq_bind, Option.bind_some]
  next hcontrol => simp [stringRest?, hcontrol]

theorem stringRest?_flatMap
    {fuel : Nat} {cs : List Char} (hfuel : cs.length < fuel)
    (done rest : List Char) :
    stringRest? fuel done (cs.flatMap escapedChar ++ '"' :: rest) =
      some (String.ofList (done.reverse ++ cs), rest) := by
  induction cs generalizing fuel done with
  | nil =>
      obtain ⟨fuel, rfl⟩ := Nat.exists_eq_add_one_of_ne_zero (Nat.ne_zero_of_lt hfuel)
      simp [stringRest?]
  | cons c cs ih =>
      obtain ⟨fuel, rfl⟩ := Nat.exists_eq_add_one_of_ne_zero (Nat.ne_zero_of_lt hfuel)
      rw [List.flatMap_cons, List.append_assoc, stringRest?_escapedChar,
        ih (Nat.lt_of_succ_lt_succ hfuel)]
      simp

theorem length_pos_escapedChar (c : Char) : 0 < (escapedChar c).length := by
  grind [escapedChar]

theorem length_le_flatMap (cs : List Char) :
    cs.length ≤ (cs.flatMap escapedChar).length := by
  induction cs with
  | nil => exact Nat.le_refl 0
  | cons c cs ih =>
      have hpos := length_pos_escapedChar c
      rw [List.flatMap_cons, List.length_append, List.length_cons]
      omega

/-- A text is read to its closing quote. -/
theorem stringRest?_toList (text : String) (rest : List Char) :
    stringRest? ((text.toList.flatMap escapedChar ++ '"' :: rest).length + 1) []
        (text.toList.flatMap escapedChar ++ '"' :: rest) =
      some (text, rest) := by
  have hlength := length_le_flatMap text.toList
  rw [stringRest?_flatMap]
  · simp
  · rw [List.length_append]
    omega

/-! ## Numbers -/

/-- What follows a value inside of a text, or after it: nothing, a comma, or the
end of an array or object. -/
def Follows (rest : List Char) : Prop :=
  ∀ c, rest.head? = some c → c ∈ [',', ']', '\x7d']

theorem splitDigits_append
    {digits rest : List Char} (hdigits : ∀ c ∈ digits, c.isDigit = true)
    (hrest : Follows rest) :
    splitDigits (digits ++ rest) = (digits, rest) := by
  have hall : ∀ c ∈ digits, (Text.digit? c).isSome = true := by
    intro c hc
    rw [Text.digit?_of_isDigit (hdigits c hc)]
    rfl
  rw [splitDigits, List.span_eq_takeWhile_dropWhile,
    List.takeWhile_append_of_pos hall, List.dropWhile_append_of_pos hall]
  cases rest with
  | nil => simp
  | cons c rest =>
      have hend : (Text.digit? c).isSome = false := by
        have hmem := hrest c rfl
        simp only [List.mem_cons, List.not_mem_nil, or_false] at hmem
        rcases hmem with rfl | rfl | rfl <;> rfl
      simp [hend]

/-- The sign of a number, if it has one. -/
def sign (negative : Bool) : List Char :=
  if negative then ['-'] else []

theorem Follows.cases {rest : List Char} (hrest : Follows rest) :
    rest = [] ∨ ∃ more,
      rest = ',' :: more ∨ rest = ']' :: more ∨ rest = '\x7d' :: more := by
  cases rest with
  | nil => exact .inl rfl
  | cons c more =>
      have hmem := hrest c rfl
      simp only [List.mem_cons, List.not_mem_nil, or_false] at hmem
      rcases hmem with rfl | rfl | rfl <;> exact .inr ⟨more, by simp⟩

/-- A number without a fraction or a power ends with its last digit. -/
theorem number?_digits
    (negative : Bool) {digits rest : List Char} {value : Nat}
    (hdigits : Text.Digits digits value) (hzero : Text.NoLeadingZero digits)
    (hrest : Follows rest) :
    number? (sign negative ++ (digits ++ rest)) =
      (numberOfParts? negative true digits [] 0).map fun number =>
        (number, rest) := by
  obtain ⟨c, more, rfl⟩ := List.exists_cons_of_ne_nil hdigits.nonempty
  have hminus : c ≠ '-' := by
    rintro rfl
    exact nomatch hdigits.digits '-' List.mem_cons_self
  have hlead : ¬(0 < more.length ∧ c = '0') := by
    rintro ⟨hmore, rfl⟩
    rcases hzero with hlone | hhead
    · rw [(List.cons.inj hlone).2] at hmore
      exact Nat.lt_irrefl 0 hmore
    · exact hhead rfl
  have hsplit := splitDigits_append hdigits.digits hrest
  rw [List.cons_append] at hsplit ⊢
  generalize more ++ rest = tail at hsplit ⊢
  have hread :
      number? (sign negative ++ c :: tail) =
        (numberOfParts? negative true (c :: more) [] 0).bind fun number =>
          some (number, rest) := by
    rcases hrest.cases with rfl | ⟨after, rfl | rfl | rfl⟩ <;>
      cases negative <;>
        simp [sign, number?, hminus, hsplit, hlead, power?]
  exact hread.trans Option.map_eq_bind.symm

theorem numberOfParts?_whole
    {negative : Bool} {digits : List Char} {value : Nat}
    (hdigits : Text.Digits digits value)
    (hlow : negative = true → 0 < value ∧ value ≤ Text.maxInt64 + 1)
    (hhigh : negative = false → value ≤ Text.maxWord64) :
    numberOfParts? negative true digits [] 0 =
      some (.whole (if negative then -(value : Int) else value)) := by
  have hvalue : Text.digits? digits = some value :=
    Text.digits?_eq_some_iff.mpr hdigits
  cases negative with
  | false => simp [numberOfParts?, hvalue, hhigh rfl]
  | true =>
      obtain ⟨hpos, hbound⟩ := hlow rfl
      simp [numberOfParts?, hvalue, hbound, Nat.ne_of_gt hpos]

theorem toList_toString (value : Int) :
    (toString value).toList =
      sign (decide (value < 0)) ++ Nat.toDigits 10 value.natAbs := by
  cases value with
  | ofNat n =>
      have hsign : ¬(Int.ofNat n < 0) := Int.not_lt.mpr (Int.natCast_nonneg n)
      rw [decide_eq_false hsign]
      exact Nat.toList_repr
  | negSucc n =>
      rw [decide_eq_true (Int.negSucc_lt_zero n)]
      exact (String.toList_append (s := "-")).trans (congrArg _ Nat.toList_repr)

theorem number?_whole
    {value : Int} (hlow : -((Text.maxInt64 + 1 : Nat) : Int) ≤ value)
    (hhigh : value ≤ Text.maxWord64) {rest : List Char} (hrest : Follows rest) :
    number? (numberChars (.whole value) ++ rest) = some (.whole value, rest) := by
  rw [numberChars, toList_toString, List.append_assoc,
    number?_digits _ (Text.digits_toDigits _) (Text.noLeadingZero_toDigits _) hrest,
    numberOfParts?_whole (Text.digits_toDigits _)]
  · have hvalue :
        (if decide (value < 0) = true then -(value.natAbs : Int)
        else value.natAbs) = value := by
      simp only [decide_eq_true_eq]
      split
      next => omega
      next => omega
    rw [hvalue]
    rfl
  · intro hsign
    have hsign := of_decide_eq_true hsign
    omega
  · intro hsign
    have hsign := of_decide_eq_false hsign
    omega

/-! ## Values -/

/-- Whether a value can begin with a character. -/
def begins (c : Char) : Bool :=
  c.isDigit || "\"-ntf[\x7b".toList.contains c

theorem skipSpace_of_begins {c : Char} (hbegins : begins c = true) (cs : List Char) :
    skipSpace (c :: cs) = c :: cs := by
  have hspace : isSpace c = false := by
    by_contra hspace
    simp only [isSpace, Bool.not_eq_false, Bool.or_eq_true, beq_iff_eq] at hspace
    rcases hspace with ((rfl | rfl) | rfl) | rfl <;> exact nomatch hbegins
  exact List.dropWhile_cons_of_neg (by simp [hspace])

theorem skipSpace_colon (cs : List Char) : skipSpace (':' :: cs) = ':' :: cs := rfl

/-! ### What comes after -/

theorem suffix_member (name : String) (cs : List Char) :
    cs <:+ stringChars name ++ ':' :: cs :=
  (List.suffix_cons ':' cs).trans (List.suffix_append _ _)

mutual

/-- What comes after a value stands at the end of its text. -/
theorem suffix_charsBefore (rest : List Char) :
    ∀ value, rest <:+ charsBefore rest value
  | .null => by
      rw [charsBefore]
      exact List.suffix_append _ _
  | .bool true => by
      rw [charsBefore]
      exact List.suffix_append _ _
  | .bool false => by
      rw [charsBefore]
      exact List.suffix_append _ _
  | .number value => by
      rw [charsBefore]
      exact List.suffix_append _ _
  | .string value => by
      rw [charsBefore]
      exact List.suffix_append _ _
  | .array [] => by
      rw [charsBefore]
      exact List.suffix_append ['[', ']'] _
  | .array (item :: items) => by
      rw [charsBefore]
      exact ((suffix_itemsBefore rest items).trans
        (suffix_charsBefore _ item)).trans (List.suffix_cons _ _)
  | .object [] => by
      rw [charsBefore]
      exact List.suffix_append ['\x7b', '\x7d'] _
  | .object ((name, value) :: members) => by
      rw [charsBefore]
      exact (((suffix_membersBefore rest members).trans
        (suffix_charsBefore _ value)).trans (suffix_member name _)).trans
          (List.suffix_cons _ _)

theorem suffix_itemsBefore (rest : List Char) :
    ∀ items, rest <:+ itemsBefore rest items
  | [] => by
      rw [itemsBefore]
      exact List.suffix_cons _ _
  | item :: items => by
      rw [itemsBefore]
      exact ((suffix_itemsBefore rest items).trans
        (suffix_charsBefore _ item)).trans (List.suffix_cons _ _)

theorem suffix_membersBefore (rest : List Char) :
    ∀ members, rest <:+ membersBefore rest members
  | [] => by
      rw [membersBefore]
      exact List.suffix_cons _ _
  | (name, value) :: members => by
      rw [membersBefore]
      exact (((suffix_membersBefore rest members).trans
        (suffix_charsBefore _ value)).trans (suffix_member name _)).trans
          (List.suffix_cons _ _)

end

theorem follows_itemsBefore (rest : List Char) (items : List Json) :
    Follows (itemsBefore rest items) := by
  intro c hc
  cases items <;> simp [itemsBefore] at hc <;> simp [← hc]

theorem follows_membersBefore (rest : List Char) (members : List (String × Json)) :
    Follows (membersBefore rest members) := by
  intro c hc
  cases members <;> simp [membersBefore] at hc <;> simp [← hc]

theorem exists_begins_whole (value : Int) (rest : List Char) :
    ∃ c more, numberChars (.whole value) ++ rest = c :: more ∧
      (c = '-' ∨ c.isDigit = true) := by
  have hdigits := Text.digits_toDigits value.natAbs
  obtain ⟨digit, more, hcons⟩ := List.exists_cons_of_ne_nil hdigits.nonempty
  have hdigit := hdigits.digits digit (hcons ▸ List.mem_cons_self)
  rw [numberChars, toList_toString, hcons]
  cases decide (value < 0) with
  | true => exact ⟨'-', _, rfl, .inl rfl⟩
  | false => exact ⟨digit, _, rfl, .inr hdigit⟩

theorem begins_of_number {c : Char} (hc : c = '-' ∨ c.isDigit = true) :
    begins c = true := by
  rcases hc with rfl | hdigit
  · rfl
  · simp [begins, hdigit]

/-- A value is read back wherever it is written with room for `depth` arrays and
objects, and the reader stops right after it. -/
structure ReadsBack (depth : Nat) (value : Json) : Prop where
  exists_begins : ∀ rest, ∃ c more,
    value.charsBefore rest = c :: more ∧ begins c = true
  value?_eq : ∀ {fuel : Nat} {rest : List Char}, Follows rest →
    2 * (value.charsBefore rest).length < fuel →
      value? fuel depth (value.charsBefore rest) = some (value.sorted, rest)

section Values

variable {depth fuel : Nat} {rest : List Char}

theorem exists_fuel {n : Nat} (hfuel : n < fuel) : ∃ more, fuel = more + 1 :=
  Nat.exists_eq_add_one_of_ne_zero (Nat.ne_zero_of_lt hfuel)

theorem readsBack_null : ReadsBack depth .null where
  exists_begins rest := ⟨'n', _, by rw [charsBefore]; rfl, rfl⟩
  value?_eq hrest hfuel := by
    obtain ⟨fuel, rfl⟩ := exists_fuel hfuel
    rw [charsBefore]
    rfl

theorem readsBack_bool (value : Bool) : ReadsBack depth (.bool value) where
  exists_begins rest := by
    cases value <;> exact ⟨_, _, by rw [charsBefore]; rfl, rfl⟩
  value?_eq hrest hfuel := by
    obtain ⟨fuel, rfl⟩ := exists_fuel hfuel
    cases value <;> rw [charsBefore] <;> rfl

theorem value?_of_number {c : Char} (hc : c = '-' ∨ c.isDigit = true) (cs : List Char) :
    value? (fuel + 1) depth (c :: cs) =
      (number? (c :: cs)).map fun (value, rest) => (.number value, rest) := by
  rw [value?, skipSpace_of_begins (begins_of_number hc)]
  split
  case h_7 => rfl
  all_goals
    next heq =>
      obtain ⟨rfl, -⟩ := List.cons.inj heq
      exact absurd hc (by decide)

theorem readsBack_whole
    {value : Int} (hlow : -((Text.maxInt64 + 1 : Nat) : Int) ≤ value)
    (hhigh : value ≤ Text.maxWord64) :
    ReadsBack depth (.number (.whole value)) where
  exists_begins rest := by
    obtain ⟨c, more, hcons, hc⟩ := exists_begins_whole value rest
    rw [charsBefore]
    exact ⟨c, more, hcons, begins_of_number hc⟩
  value?_eq {fuel rest} hrest hfuel := by
    obtain ⟨fuel, rfl⟩ := exists_fuel hfuel
    obtain ⟨c, more, hcons, hc⟩ := exists_begins_whole value rest
    rw [charsBefore, hcons, value?_of_number hc, ← hcons,
      number?_whole hlow hhigh hrest]
    rfl

theorem stringChars_append (text : String) (rest : List Char) :
    stringChars text ++ rest =
      '"' :: (text.toList.flatMap escapedChar ++ '"' :: rest) := by
  rw [stringChars, List.cons_append, List.cons_append, List.append_assoc]
  rfl

theorem readsBack_string (value : String) : ReadsBack depth (.string value) where
  exists_begins rest := ⟨'"', _, by rw [charsBefore, stringChars_append], rfl⟩
  value?_eq {fuel rest} hrest hfuel := by
    obtain ⟨fuel, rfl⟩ := exists_fuel hfuel
    rw [charsBefore, stringChars_append]
    exact congrArg (Option.map _) (stringRest?_toList value rest)

/-! ### Items -/

/-- After an item the reader goes on after a comma, and is done at a bracket. -/
theorem items?_itemsBefore
    {item : Json} {items : List Json} (hitem : ReadsBack depth item)
    (hitems : ∀ other ∈ items, ReadsBack depth other) (done : List Json)
    (hfuel : 2 * (item.charsBefore (itemsBefore rest items)).length + 1 < fuel) :
    items? fuel depth done (item.charsBefore (itemsBefore rest items)) =
      some (.array (done.reverse ++ sortedItems (item :: items)), rest) := by
  induction items generalizing item done fuel with
  | nil =>
      obtain ⟨fuel, rfl⟩ := exists_fuel hfuel
      have hread := hitem.value?_eq (follows_itemsBefore rest []) (Nat.lt_of_succ_lt_succ hfuel)
      rw [items?, hread]
      simp [itemsBefore, skipSpace, isSpace, sortedItems]
  | cons next items ih =>
      obtain ⟨fuel, rfl⟩ := exists_fuel hfuel
      have hread := hitem.value?_eq (follows_itemsBefore rest (next :: items))
        (Nat.lt_of_succ_lt_succ hfuel)
      have hlength := (suffix_charsBefore (itemsBefore rest (next :: items)) item).length_le
      have hcomma : (itemsBefore rest (next :: items)).length =
          (next.charsBefore (itemsBefore rest items)).length + 1 := by
        rw [itemsBefore, List.length_cons]
      rw [List.forall_mem_cons] at hitems
      have hroom :
          2 * (next.charsBefore (itemsBefore rest items)).length + 1 < fuel := by
        omega
      have hmore := ih hitems.1 hitems.2 (item.sorted :: done) hroom
      rw [items?, hread]
      simp [itemsBefore, skipSpace, isSpace, sortedItems, hmore]

theorem value?_array
    (hdepth : 0 < depth) {c : Char} (hbegins : begins c = true) (cs : List Char) :
    value? (fuel + 1) (depth + 1) ('[' :: c :: cs) =
      items? fuel depth [] (c :: cs) := by
  have hroom : ¬depth + 1 ≤ 1 := by omega
  rw [value?, skipSpace_of_begins rfl]
  simp only [if_neg hroom, skipSpace_of_begins hbegins]
  split
  next heq =>
    obtain ⟨rfl, -⟩ := List.cons.inj heq
    exact nomatch hbegins
  next => rfl

theorem readsBack_array
    {items : List Json} (hitems : ∀ item ∈ items, ReadsBack depth item)
    (hdepth : 0 < depth) :
    ReadsBack (depth + 1) (.array items) where
  exists_begins rest := by
    cases items <;> exact ⟨'[', _, by rw [charsBefore], rfl⟩
  value?_eq {fuel rest} hrest hfuel := by
    obtain ⟨fuel, rfl⟩ := exists_fuel hfuel
    have hroom : ¬depth + 1 ≤ 1 := by omega
    cases items with
    | nil => simp [charsBefore, value?, skipSpace, isSpace, hroom, sorted, sortedItems]
    | cons item items =>
        rw [List.forall_mem_cons] at hitems
        obtain ⟨c, more, hcons, hbegins⟩ :=
          hitems.1.exists_begins (itemsBefore rest items)
        have hinside :
            2 * (item.charsBefore (itemsBefore rest items)).length + 1 < fuel := by
          rw [charsBefore, List.length_cons] at hfuel
          omega
        have hmore := items?_itemsBefore hitems.1 hitems.2 [] hinside
        rw [charsBefore, hcons, value?_array hdepth hbegins, ← hcons, hmore,
          sorted]
        rfl

/-! ### Members -/

/-- After a name and its value the reader goes on after a comma, and is done at
a brace. -/
theorem members?_membersBefore
    (name : String) {value : Json} {members : List (String × Json)}
    (hvalue : ReadsBack depth value)
    (hmembers : ∀ member ∈ members, ReadsBack depth member.2)
    (done : List (String × Json))
    (hfuel : 2 * (value.charsBefore (membersBefore rest members)).length + 1 < fuel) :
    members? fuel depth done
        (stringChars name ++ ':' :: value.charsBefore (membersBefore rest members)) =
      some (.object (sortedMembers done ((name, value) :: members)), rest) := by
  induction members generalizing name value done fuel with
  | nil =>
      obtain ⟨fuel, rfl⟩ := exists_fuel hfuel
      have hread := hvalue.value?_eq (follows_membersBefore rest [])
        (Nat.lt_of_succ_lt_succ hfuel)
      rw [members?, stringChars_append, skipSpace_of_begins rfl]
      simp only [stringRest?_toList, Option.bind_eq_bind, Option.bind_some]
      rw [skipSpace_colon]
      simp only [hread]
      simp [membersBefore, skipSpace, isSpace, sortedMembers]
  | cons next members ih =>
      obtain ⟨following, other⟩ := next
      obtain ⟨fuel, rfl⟩ := exists_fuel hfuel
      have hread := hvalue.value?_eq
        (follows_membersBefore rest ((following, other) :: members))
        (Nat.lt_of_succ_lt_succ hfuel)
      have hlength := (suffix_charsBefore
        (membersBefore rest ((following, other) :: members)) value).length_le
      have hcomma : (other.charsBefore (membersBefore rest members)).length <
          (membersBefore rest ((following, other) :: members)).length := by
        simp only [membersBefore, List.length_append, List.length_cons]
        omega
      rw [List.forall_mem_cons] at hmembers
      have hroom :
          2 * (other.charsBefore (membersBefore rest members)).length + 1 < fuel := by
        omega
      have hmore := ih following hmembers.1 hmembers.2
        (insertMember name value.sorted done) hroom
      rw [members?, stringChars_append, skipSpace_of_begins rfl]
      simp only [stringRest?_toList, Option.bind_eq_bind, Option.bind_some]
      rw [skipSpace_colon]
      simp only [hread]
      simp [membersBefore, skipSpace, isSpace, sortedMembers, hmore]

theorem readsBack_object
    {members : List (String × Json)}
    (hmembers : ∀ member ∈ members, ReadsBack depth member.2)
    (hdepth : 0 < depth) :
    ReadsBack (depth + 1) (.object members) where
  exists_begins rest := by
    cases members <;> exact ⟨'\x7b', _, by rw [charsBefore], rfl⟩
  value?_eq {fuel rest} hrest hfuel := by
    obtain ⟨fuel, rfl⟩ := exists_fuel hfuel
    have hroom : ¬depth + 1 ≤ 1 := by omega
    cases members with
    | nil =>
        simp [charsBefore, value?, skipSpace, isSpace, hroom, sorted,
          sortedMembers]
    | cons member members =>
        obtain ⟨name, value⟩ := member
        rw [List.forall_mem_cons] at hmembers
        have hinside :
            2 * (value.charsBefore (membersBefore rest members)).length + 1 <
              fuel := by
          simp only [charsBefore, List.length_append, List.length_cons] at hfuel
          omega
        have hmore := members?_membersBefore name hmembers.1 hmembers.2 [] hinside
        rw [stringChars_append] at hmore
        rw [charsBefore, stringChars_append, value?, skipSpace_of_begins rfl]
        simp only [if_neg hroom, skipSpace_of_begins (c := '"') rfl]
        exact hmore.trans (by rw [sorted])

end Values

/-- A readable value is read back wherever more arrays and objects may open than
it has inside each other. -/
theorem Readable.readsBack
    {nesting depth : Nat} {value : Json} (hreadable : Readable nesting value)
    (hdepth : nesting < depth) :
    ReadsBack depth value := by
  induction hreadable generalizing depth with
  | null => exact readsBack_null
  | bool value => exact readsBack_bool value
  | whole hlow hhigh => exact readsBack_whole hlow hhigh
  | string value => exact readsBack_string value
  | array hitems ih =>
      obtain ⟨depth, rfl⟩ := exists_fuel hdepth
      exact readsBack_array (fun item hitem => ih item hitem (by omega)) (by omega)
  | object hmembers ih =>
      obtain ⟨depth, rfl⟩ := exists_fuel hdepth
      exact readsBack_object (fun member hmember => ih member hmember (by omega))
        (by omega)

/-- What was written of a readable value is read back as that value. -/
theorem ofText?_text {value : Json} (hreadable : Readable 127 value) :
    ofText? value.text = some value.sorted := by
  have hreads : ReadsBack 128 value := hreadable.readsBack (by decide)
  have hread : value? (2 * value.chars.length + 1) 128 value.chars =
      some (value.sorted, []) :=
    hreads.value?_eq nofun (Nat.lt_succ_self _)
  rw [ofText?, text, String.toList_ofList, ofChars?]
  exact congrArg (Option.bind · _) hread

end HealthMonitor.Json
