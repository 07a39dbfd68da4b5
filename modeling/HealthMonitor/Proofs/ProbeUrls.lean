import HealthMonitor.Http.Fetch
import HealthMonitor.Proofs.Numerals

/-!
# The endpoint that a probe URL spells

The authority of a URL is a user up to the last at sign, a host, and a port after
a colon; colons of the host itself stand in brackets.  An accepted URL can be read
so in one way only (`probeUrl_record`).  The endpoint asked is the one that is
spelled as long as the host is not empty and not cut at a misplaced bracket and
the port, if there is one, is the numeral of a port.  A port that is none is not
refused: port 80 is asked instead (`misspelled_port_accepted`).
-/

namespace HealthMonitor

/-! ## Around the last separator -/

namespace Text

section LastSeparator

variable {mark : Char} {cs before after : List Char}

theorem takeWhile_ne_eq_self (hmark : mark ∉ cs) : cs.takeWhile (· ≠ mark) = cs := by
  refine List.takeWhile_eq_self_iff.mpr fun c hc => ?_
  simpa using fun h : c = mark => hmark (h ▸ hc)

theorem takeWhile_ne_append (hmark : mark ∉ before) :
    (before ++ mark :: after).takeWhile (· ≠ mark) = before := by
  rw [List.takeWhile_append, takeWhile_ne_eq_self hmark]
  simp

theorem dropWhile_ne_append (hmark : mark ∉ before) :
    (before ++ mark :: after).dropWhile (· ≠ mark) = mark :: after := by
  rw [List.dropWhile_append_of_pos]
  · simp
  · intro c hc
    simpa using fun h : c = mark => hmark (h ▸ hc)

theorem reverse_append_mark :
    (before ++ mark :: after).reverse = after.reverse ++ mark :: before.reverse := by
  simp

theorem splitAtLast?_append (hmark : mark ∉ after) :
    splitAtLast? mark (before ++ mark :: after) = some (before, after) := by
  have hback : mark ∉ after.reverse := by simpa using hmark
  simp only [splitAtLast?, reverse_append_mark, dropWhile_ne_append hback,
    takeWhile_ne_append hback, List.reverse_reverse]

theorem splitAtLast?_of_notMem (hmark : mark ∉ cs) : splitAtLast? mark cs = none := by
  have hback : cs.reverse.dropWhile (· ≠ mark) = [] := by
    refine List.dropWhile_eq_nil_iff.mpr fun c hc => ?_
    simpa using fun h : c = mark => hmark (h ▸ List.mem_reverse.mp hc)
  rw [splitAtLast?, hback]

theorem afterLast_append (hmark : mark ∉ after) :
    afterLast mark (before ++ mark :: after) = after := by
  rw [afterLast, reverse_append_mark, takeWhile_ne_append (by simpa using hmark),
    List.reverse_reverse]

theorem afterLast_of_notMem (hmark : mark ∉ cs) : afterLast mark cs = cs := by
  rw [afterLast, takeWhile_ne_eq_self (by simpa using hmark), List.reverse_reverse]

theorem exists_last (hmark : mark ∈ cs) :
    ∃ before after, cs = before ++ mark :: after ∧ mark ∉ after := by
  obtain ⟨after, before, hcs, hafter⟩ :=
    List.eq_append_cons_of_mem (List.mem_reverse.mpr hmark)
  refine ⟨before.reverse, after.reverse, ?_, by simpa using hafter⟩
  have hback := congrArg List.reverse hcs
  simpa using hback

/-- What follows the last mark follows every mark. -/
theorem mem_of_mem_last {front last : List Char}
    (htext : before ++ mark :: after = front ++ mark :: last) (hmark : mark ∉ last) :
    ∀ c ∈ last, c ∈ after := by
  intro c hc
  obtain ⟨more, -, hmore⟩ | ⟨more, -, hmore⟩ := List.append_eq_append_iff.mp htext
  · cases more with
    | nil => exact (List.cons.inj hmore).2 ▸ hc
    | cons d more =>
        rw [(List.cons.inj hmore).2]
        exact List.mem_append_right _ (List.mem_cons_of_mem _ hc)
  · cases more with
    | nil => exact (List.cons.inj hmore).2 ▸ hc
    | cons d more =>
        rw [(List.cons.inj hmore).2] at hmark
        exact absurd (List.mem_append_right _ List.mem_cons_self) hmark

end LastSeparator

end Text

namespace Uri

/-! ## How an authority is spelled -/

/-- An authority in its parts: the user with its at sign, the host, and the port
with its colon. -/
@[ext]
structure Parts where
  user : List Char
  host : List Char
  port : List Char

/-- The authority is spelled by these parts.  A colon of the host is followed by a
bracket that closes. -/
structure Parts.Spells (parts : Parts) (authority : List Char) : Prop where
  text : authority = parts.user ++ parts.host ++ parts.port
  user : parts.user = [] ∨ ∃ name, parts.user = name ++ ['@']
  host : '@' ∉ parts.host
  colons : ∀ before after, parts.host = before ++ ':' :: after → ']' ∈ after
  port : parts.port = [] ∨
    ∃ digits, parts.port = ':' :: digits ∧ '@' ∉ digits ∧ ':' ∉ digits ∧ ']' ∉ digits

/-- The port that is spelled: 80 if there is none or an empty one, and otherwise
the number of the numeral. -/
inductive SpellsPort : List Char → Nat → Prop where
  | absent : SpellsPort [] defaultPort
  | empty : SpellsPort [':'] defaultPort
  | numeral {digits : List Char} {number : Nat} (value : Text.Unsigned digits number)
      (bound : number ≤ Text.maxWord16) : SpellsPort (':' :: digits) number

/-- A host between brackets, or one that does not begin with a bracket and has no
colon. -/
def WholeHost (host : List Char) : Prop :=
  (∃ inner, host = '[' :: (inner ++ [']']) ∧ ']' ∉ inner) ∨
    host.head? ≠ some '[' ∧ ':' ∉ host

/-- The URL is plain HTTP to an authority with these parts. -/
structure SpelledIn (url : String) (parts : Parts) : Prop where
  text : ∃ scheme authority rest,
    url.toList = scheme ++ authority ++ rest ∧
      scheme.map Char.toLower = "http://".toList ∧
      parts.Spells authority ∧
      (∀ c ∈ authority, endsAuthority c = false) ∧
      ∀ c ∈ rest.head?, endsAuthority c = true

/-- The identifier is asked at the endpoint that the URL spells. -/
def NamesEndpoint (url : String) (uri : Uri) : Prop :=
  ∃ parts number, SpelledIn url parts ∧ parts.host ≠ [] ∧ SpellsPort parts.port number ∧
    uri.target = String.ofList parts.host ++ ":" ++ toString number

/-! ## A spelling is unique -/

namespace Parts.Spells

variable {parts other : Parts} {authority : List Char}

theorem notMem_port (hspells : parts.Spells authority) :
    '@' ∉ parts.port ∧ ']' ∉ parts.port := by
  rcases hspells.port with hnone | ⟨digits, hdigits, hat, -, hbracket⟩
  · simp [hnone]
  · simp [hdigits, hat, hbracket]

theorem notMem_place (hspells : parts.Spells authority) : '@' ∉ parts.host ++ parts.port := by
  simp [hspells.host, hspells.notMem_port.1]

/-- What follows the user is the host and the port. -/
theorem afterLast_eq (hspells : parts.Spells authority) :
    Text.afterLast '@' authority = parts.host ++ parts.port := by
  rw [hspells.text, List.append_assoc]
  rcases hspells.user with hnone | ⟨name, huser⟩
  · rw [hnone, List.nil_append, Text.afterLast_of_notMem hspells.notMem_place]
  · rw [huser, List.append_assoc, List.singleton_append,
      Text.afterLast_append hspells.notMem_place]

/-- The longer of two hosts would take in the colon of a port. -/
theorem host_not_longer
    (hspells : parts.Spells authority) (hother : other.Spells authority)
    {more : List Char} (hhost : other.host = parts.host ++ more)
    (hport : parts.port = more ++ other.port) : more = [] := by
  cases more with
  | nil => rfl
  | cons c more =>
      rcases hspells.port with hnone | ⟨digits, hdigits, -, -, hbracket⟩
      · exact absurd (hnone.symm.trans hport) (List.cons_ne_nil _ _).symm
      · obtain ⟨rfl, rfl⟩ := List.cons.inj (hdigits.symm.trans hport)
        have hclosed : ']' ∈ more := hother.colons parts.host more hhost
        exact absurd (List.mem_append_left _ hclosed) hbracket

theorem unique (hspells : parts.Spells authority) (hother : other.Spells authority) :
    other = parts := by
  have hplace : other.host ++ other.port = parts.host ++ parts.port :=
    hother.afterLast_eq.symm.trans hspells.afterLast_eq
  have huser : other.user = parts.user := by
    have htext : other.user ++ (other.host ++ other.port) =
        parts.user ++ (parts.host ++ parts.port) := by
      rw [← List.append_assoc, ← List.append_assoc, ← hother.text, hspells.text]
    exact List.append_cancel_right (hplace ▸ htext)
  obtain ⟨more, hhost, hport⟩ | ⟨more, hhost, hport⟩ := List.append_eq_append_iff.mp hplace
  · have hmore : more = [] := hother.host_not_longer hspells hhost hport
    rw [hmore, List.append_nil] at hhost
    rw [hmore, List.nil_append] at hport
    exact Parts.ext huser hhost.symm hport
  · have hmore : more = [] := hspells.host_not_longer hother hhost hport
    rw [hmore, List.append_nil] at hhost
    rw [hmore, List.nil_append] at hport
    exact Parts.ext huser hhost hport.symm

end Parts.Spells

/-! ## What a scan has seen -/

/-- What the scan of a text tells of it. -/
structure Scanned (seen : List Char) (scan : AuthorityScan) : Prop where
  colons : ∀ front back, seen = front ++ back → '@' ∉ back → ']' ∉ back →
    back.count ':' ≤ scan.colons
  opened : '[' ∈ seen → scan.opened = true
  closed : scan.closed = true → scan.opened = true
  closes : ∀ front back, seen = front ++ '[' :: back → scan.closed = true → ']' ∈ back

/-- What one character does to a scan. -/
structure Scans (scan : AuthorityScan) (c : Char) (next : AuthorityScan) : Prop where
  colons : c ≠ '@' → c ≠ ']' → next.colons = scan.colons + [c].count ':'
  opened : next.opened = (scan.opened || c == '[')
  closed : next.closed = (scan.closed || c == ']')
  fresh : c = '[' → scan.opened = false
  paired : c = ']' → scan.opened = true

theorem scans_of_next? {scan next : AuthorityScan} {c : Char} (hnext : scan.next? c = some next) :
    Scans scan c next := by
  unfold AuthorityScan.next? at hnext
  split at hnext
  · split at hnext
    · cases hnext
    · cases hnext
      constructor <;> simp
  · split at hnext
    · cases hnext
    · next hfree =>
        cases hnext
        have hfresh : scan.opened = false :=
          (Bool.or_eq_false_iff.mp (Bool.eq_false_iff.mpr hfree)).2
        constructor <;> simp [hfresh]
  · split at hnext
    · cases hnext
    · next hfree =>
        cases hnext
        have hpaired : scan.opened = true := by
          simpa using (Bool.or_eq_false_iff.mp (Bool.eq_false_iff.mpr hfree)).1
        constructor <;> simp [hpaired]
  · cases hnext
    constructor <;> simp
  · cases hnext
    constructor <;> simp
  · next hcolon hopen hclose hat hpercent =>
      split at hnext
      · cases hnext
        constructor <;> simp_all
      · cases hnext

/-- The end of a text that has grown by a character. -/
theorem back_snoc {seen front back : List Char} {c : Char} (htext : seen ++ [c] = front ++ back) :
    back = [] ∨ ∃ less, back = less ++ [c] ∧ seen = front ++ less := by
  rcases List.eq_nil_or_concat back with hnil | ⟨less, last, hback⟩
  · exact .inl hnil
  · rw [hback, List.concat_eq_append, ← List.append_assoc] at htext
    obtain ⟨hseen, hlast⟩ := List.append_singleton_inj.mp htext
    exact .inr ⟨less, by rw [hback, List.concat_eq_append, hlast], hseen⟩

theorem Scanned.next {seen : List Char} {scan next : AuthorityScan} {c : Char}
    (hscanned : Scanned seen scan) (hscans : Scans scan c next) : Scanned (seen ++ [c]) next where
  colons := by
    intro front back htext hat hbracket
    rcases back_snoc htext with rfl | ⟨less, rfl, hseen⟩
    · exact Nat.zero_le _
    · simp only [List.mem_append, List.mem_singleton, not_or] at hat hbracket
      rw [hscans.colons (Ne.symm hat.2) (Ne.symm hbracket.2), List.count_append]
      exact Nat.add_le_add_right (hscanned.colons front less hseen hat.1 hbracket.1) _
  opened := by
    intro hmem
    rw [hscans.opened]
    rcases List.mem_append.mp hmem with hseen | hc
    · simp [hscanned.opened hseen]
    · simp [← List.mem_singleton.mp hc]
  closed := by
    intro hclosed
    rw [hscans.closed, Bool.or_eq_true, beq_iff_eq] at hclosed
    rw [hscans.opened]
    rcases hclosed with hbefore | hc
    · simp [hscanned.closed hbefore]
    · simp [hscans.paired hc]
  closes := by
    intro front back htext hclosed
    rw [hscans.closed, Bool.or_eq_true, beq_iff_eq] at hclosed
    rcases back_snoc htext with hnil | ⟨less, hback, hseen⟩
    · exact absurd hnil (List.cons_ne_nil _ _)
    · cases less with
      | nil =>
          -- The bracket has just been opened, so none can have been closed.
          obtain ⟨rfl, -⟩ := List.cons.inj hback
          have hopened : scan.opened = true := hclosed.elim hscanned.closed nofun
          exact absurd hopened (by simp [hscans.fresh rfl])
      | cons d less =>
          obtain ⟨rfl, rfl⟩ := List.cons.inj hback
          rcases hclosed with hbefore | rfl
          · exact List.mem_append_left _ (hscanned.closes front less hseen hbefore)
          · exact List.mem_append_right _ (List.mem_singleton.mpr rfl)

theorem scanned_of_foldlM {cs seen : List Char} {scan last : AuthorityScan}
    (hscanned : Scanned seen scan)
    (hlast : cs.foldlM AuthorityScan.next? scan = some last) : Scanned (seen ++ cs) last := by
  induction cs generalizing seen scan with
  | nil =>
      cases hlast
      rwa [List.append_nil]
  | cons c cs ih =>
      rw [List.foldlM_cons] at hlast
      obtain ⟨next, hnext, hrest⟩ := Option.bind_eq_some_iff.mp hlast
      have hmore := ih (hscanned.next (scans_of_next? hnext)) hrest
      rwa [List.append_assoc] at hmore

theorem scanned_nil : Scanned [] {} where
  colons := by
    intro front back htext _ _
    rw [(List.append_eq_nil_iff.mp htext.symm).2]
    exact Nat.le_refl 0
  opened := nofun
  closed := nofun
  closes := nofun

theorem exists_user (cs : List Char) :
    ∃ user place, cs = user ++ place ∧ (user = [] ∨ ∃ name, user = name ++ ['@']) ∧
      '@' ∉ place := by
  by_cases hat : '@' ∈ cs
  · obtain ⟨name, place, rfl, hplace⟩ := Text.exists_last hat
    exact ⟨name ++ ['@'], place, by simp, .inr ⟨name, rfl⟩, hplace⟩
  · exact ⟨[], cs, rfl, .inl rfl, hat⟩

section Authority

variable {authority : List Char} (haccepted : isAuthority authority = true)

include haccepted

theorem scanned_of_isAuthority :
    ∃ scan, Scanned authority scan ∧ scan.opened = scan.closed ∧ scan.colons ≤ 1 := by
  rw [isAuthority, Bool.and_eq_true, Option.any_eq_true] at haccepted
  obtain ⟨⟨scan, hscan, hends⟩, -⟩ := haccepted
  simp only [AuthorityScan.mayEnd, Bool.and_eq_true, beq_iff_eq, decide_eq_true_eq] at hends
  exact ⟨scan, scanned_of_foldlM scanned_nil hscan, hends.1.1, hends.1.2⟩

/-- A bracket that opens is closed. -/
theorem closes_of_isAuthority {front back : List Char} (htext : authority = front ++ '[' :: back) :
    ']' ∈ back := by
  obtain ⟨scan, hscanned, hclosed, -⟩ := scanned_of_isAuthority haccepted
  refine hscanned.closes front back htext (hclosed ▸ hscanned.opened ?_)
  rw [htext]
  exact List.mem_append_right _ List.mem_cons_self

/-- One colon at most stands after the user and the brackets. -/
theorem count_colon_of_isAuthority {front back : List Char} (htext : authority = front ++ back)
    (hat : '@' ∉ back) (hbracket : ']' ∉ back) : back.count ':' ≤ 1 := by
  obtain ⟨scan, hscanned, -, hcolons⟩ := scanned_of_isAuthority haccepted
  exact (hscanned.colons front back htext hat hbracket).trans hcolons

theorem exists_spells : ∃ parts : Parts, parts.Spells authority := by
  obtain ⟨user, place, htext, huser, hat⟩ := exists_user authority
  -- Without a port, all of the place is the host.
  have hbare : (∀ before after, place = before ++ ':' :: after → ']' ∈ after) →
      ∃ parts : Parts, parts.Spells authority := by
    intro hcolons
    exact ⟨{ user, host := place, port := [] }, by simpa using htext, huser, hat,
      hcolons, .inl rfl⟩
  by_cases hcolon : ':' ∈ place
  · obtain ⟨host, digits, rfl, hdigits⟩ := Text.exists_last hcolon
    by_cases hbracket : ']' ∈ digits
    · exact hbare fun before after hplace =>
        Text.mem_of_mem_last hplace.symm hdigits ']' hbracket
    · simp only [List.mem_append, List.mem_cons, not_or] at hat
      refine ⟨{ user, host, port := ':' :: digits }, by simpa using htext, huser, hat.1, ?_,
        .inr ⟨digits, rfl, hat.2.2, hdigits, hbracket⟩⟩
      intro before after (hhost : host = before ++ ':' :: after)
      by_contra hopen
      -- The two colons would both stand after the last bracket.
      have htail : authority = (user ++ before) ++ (':' :: after ++ ':' :: digits) := by
        rw [htext, hhost]
        simp
      have hcount : (':' :: after ++ ':' :: digits).count ':' ≤ 1 := by
        refine count_colon_of_isAuthority haccepted htail ?_ ?_
        · have hback : '@' ∉ after := fun hmem => hat.1 (by simp [hhost, hmem])
          simp [hback, hat.2.2]
        · simp [hopen, hbracket]
      rw [List.count_append, List.count_cons_self, List.count_cons_self] at hcount
      omega
  · exact hbare fun before after hplace => absurd (by rw [hplace]; simp) hcolon

end Authority

/-! ## The host and the port -/

namespace Parts.Spells

variable {parts : Parts} {authority : List Char}

theorem portOf?_of_absent (hspells : parts.Spells authority) (hport : parts.port = []) :
    portOf? authority = none := by
  by_cases hcolon : ':' ∈ authority
  · obtain ⟨before, after, htext, hafter⟩ := Text.exists_last hcolon
    -- What follows the last colon is still of the user or within brackets.
    have hforeign : '@' ∈ after ∨ ']' ∈ after := by
      have hboth : before ++ ':' :: after = parts.user ++ parts.host := by
        rw [← htext, hspells.text, hport, List.append_nil]
      obtain ⟨more, huser, hmore⟩ | ⟨more, -, hhost⟩ := List.append_eq_append_iff.mp hboth
      · cases more with
        | nil => exact .inr (hspells.colons [] after hmore.symm)
        | cons c more =>
            obtain ⟨rfl, rfl⟩ := List.cons.inj hmore
            refine .inl (List.mem_append_left _ ?_)
            rcases hspells.user with hnone | ⟨name, hname⟩
            · exact absurd (hnone.symm.trans huser) (by simp)
            · rcases back_snoc (hname.symm.trans huser) with hnil | ⟨less, hless, -⟩
              · exact absurd hnil (List.cons_ne_nil _ _)
              · have hmem : '@' ∈ ':' :: more := by simp [hless]
                exact List.mem_of_ne_of_mem (by decide) hmem
      · exact .inr (hspells.colons more after hhost)
    have hnone : Text.unsigned? Text.maxWord16 after = none := by
      refine Option.eq_none_iff_forall_ne_some.mpr fun number hnumber => ?_
      have hvalue := (Text.unsigned?_eq_some_iff.mp hnumber).1
      exact hforeign.elim (hvalue.notMem (by decide) (by decide))
        (hvalue.notMem (by decide) (by decide))
    rw [portOf?, htext, Text.splitAtLast?_append hafter]
    exact hnone
  · rw [portOf?, Text.splitAtLast?_of_notMem hcolon]
    rfl

theorem portOf?_of_colon {digits : List Char} (hspells : parts.Spells authority)
    (hport : parts.port = ':' :: digits) :
    portOf? authority = Text.unsigned? Text.maxWord16 digits := by
  have hdigits : ':' ∉ digits := by
    rcases hspells.port with hnone | ⟨others, hothers, -, hcolon, -⟩
    · exact absurd (hport.symm.trans hnone) (List.cons_ne_nil _ _)
    · exact (List.cons.inj (hothers.symm.trans hport)).2 ▸ hcolon
  rw [portOf?, hspells.text, hport, Text.splitAtLast?_append hdigits]
  rfl

theorem port_of_spellsPort {number : Nat} (hspells : parts.Spells authority)
    (hport : SpellsPort parts.port number) :
    (portOf? authority).getD defaultPort = number := by
  generalize hspelled : parts.port = port at hport
  cases hport with
  | absent => rw [hspells.portOf?_of_absent hspelled]; rfl
  | empty => rw [hspells.portOf?_of_colon hspelled]; rfl
  | numeral value bound =>
      rw [hspells.portOf?_of_colon hspelled, Text.unsigned?_eq_some_iff.mpr ⟨value, bound⟩]
      rfl

/-- A port that is no numeral of one counts as absent. -/
theorem port_of_not_spellsPort (hspells : parts.Spells authority)
    (hport : ∀ number, ¬SpellsPort parts.port number) :
    (portOf? authority).getD defaultPort = defaultPort := by
  rcases hspells.port with hnone | ⟨digits, hdigits, -⟩
  · rw [hspells.portOf?_of_absent hnone]
    rfl
  · have hnone : Text.unsigned? Text.maxWord16 digits = none := by
      refine Option.eq_none_iff_forall_ne_some.mpr fun number hnumber => ?_
      obtain ⟨value, bound⟩ := Text.unsigned?_eq_some_iff.mp hnumber
      exact hport number (hdigits ▸ .numeral value bound)
    rw [hspells.portOf?_of_colon hdigits, hnone]
    rfl

/-- A host that begins with a bracket is taken through the one that closes it. -/
theorem hostOf_of_bracket (hspells : parts.Spells authority)
    (haccepted : isAuthority authority = true) (hhead : parts.host.head? = some '[') :
    ∃ inner more, parts.host = '[' :: inner ++ ']' :: more ∧ ']' ∉ inner ∧
      hostOf authority = '[' :: inner ++ [']'] := by
  obtain ⟨back, hhost⟩ := List.head?_eq_some_iff.mp hhead
  have hmem : ']' ∈ back := by
    have hclosed : ']' ∈ back ++ parts.port := by
      have htext : authority = parts.user ++ '[' :: (back ++ parts.port) := by
        rw [hspells.text, hhost]
        simp
      exact closes_of_isAuthority haccepted htext
    exact (List.mem_append.mp hclosed).resolve_right hspells.notMem_port.2
  obtain ⟨inner, more, rfl, hinner⟩ := List.eq_append_cons_of_mem hmem
  have hplace : Text.afterLast '@' authority = '[' :: inner ++ ']' :: (more ++ parts.port) := by
    rw [hspells.afterLast_eq, hhost]
    simp
  refine ⟨inner, more, hhost, hinner, ?_⟩
  rw [hostOf, hplace, Text.takeWhile_ne_append (by simp [hinner])]
  rfl

/-- Any other host is taken up to a colon. -/
theorem hostOf_of_plain (hspells : parts.Spells authority)
    (hhead : parts.host.head? ≠ some '[') :
    hostOf authority = (parts.host ++ parts.port).takeWhile (· ≠ ':') := by
  have hopen : (parts.host ++ parts.port).head? ≠ some '[' := by
    rw [List.head?_append]
    cases hhost : parts.host with
    | nil =>
        rcases hspells.port with hnone | ⟨digits, hdigits, -⟩
        · simp [hnone]
        · simp [hdigits]
    | cons c rest => simpa [hhost] using hhead
  rw [hostOf, hspells.afterLast_eq]
  exact if_neg hopen

/-- The host that is asked is the one spelled, or a part of it if that is not
whole. -/
theorem hostOf_eq (hspells : parts.Spells authority) (haccepted : isAuthority authority = true) :
    ∃ more, parts.host = hostOf authority ++ more ∧ (more = [] ↔ WholeHost parts.host) := by
  by_cases hhead : parts.host.head? = some '['
  · obtain ⟨inner, more, hhost, hinner, hcut⟩ := hspells.hostOf_of_bracket haccepted hhead
    refine ⟨more, by simp [hcut, hhost], ?_, ?_⟩
    · rintro rfl
      exact .inl ⟨inner, hhost, hinner⟩
    · rintro (⟨others, hothers, hfree⟩ | ⟨hother, -⟩)
      · have hback : inner ++ ']' :: more = others ++ [']'] :=
          (List.cons.inj (hhost.symm.trans hothers)).2
        have hrest := congrArg (List.dropWhile (· ≠ ']')) hback
        rw [Text.dropWhile_ne_append hinner, Text.dropWhile_ne_append hfree] at hrest
        exact (List.cons.inj hrest).2
      · exact absurd hhead hother
  · have hcut := hspells.hostOf_of_plain hhead
    by_cases hcolon : ':' ∈ parts.host
    · obtain ⟨before, after, hhost, hbefore⟩ := List.eq_append_cons_of_mem hcolon
      refine ⟨':' :: after, ?_, iff_of_false (List.cons_ne_nil _ _) ?_⟩
      · rw [hcut, hhost, List.append_assoc, List.cons_append, Text.takeWhile_ne_append hbefore]
      · rintro (⟨inner, hinner, -⟩ | ⟨-, hnone⟩)
        · exact hhead (hinner ▸ rfl)
        · exact hnone hcolon
    · refine ⟨[], ?_, iff_of_true rfl (.inr ⟨hhead, hcolon⟩)⟩
      rcases hspells.port with hnone | ⟨digits, hdigits, -⟩
      · rw [hcut, hnone, List.append_nil, List.append_nil, Text.takeWhile_ne_eq_self hcolon]
      · rw [hcut, hdigits, List.append_nil, Text.takeWhile_ne_append hcolon]

/-- Something stands after the user. -/
theorem place_ne_nil (hspells : parts.Spells authority) (haccepted : isAuthority authority = true)
    (hnonempty : authority ≠ []) : parts.host ++ parts.port ≠ [] := by
  intro hnone
  have htext : authority = parts.user := by
    rw [hspells.text, List.append_assoc, hnone, List.append_nil]
  rcases hspells.user with huser | ⟨name, huser⟩
  · exact hnonempty (htext.trans huser)
  · rw [isAuthority, htext, huser] at haccepted
    simp at haccepted

end Parts.Spells

/-! ## Accepted URLs -/

theorem eq_append_of_afterAnyCase? {word cs rest : List Char}
    (hrest : afterAnyCase? word cs = some rest) :
    ∃ front, cs = front ++ rest ∧ front.map Char.toLower = word := by
  induction word generalizing cs with
  | nil =>
      cases hrest
      exact ⟨[], rfl, rfl⟩
  | cons w word ih =>
      cases cs with
      | nil => cases hrest
      | cons c cs =>
          rw [afterAnyCase?] at hrest
          split at hrest
          · next hc =>
              obtain ⟨front, rfl, hfront⟩ := ih hrest
              exact ⟨c :: front, rfl, by rw [List.map_cons, hc, hfront]⟩
          · cases hrest

theorem afterScheme?_eq_some {scheme : Scheme} {cs : List Char} {uri : Uri}
    (huri : afterScheme? scheme cs = some uri) :
    uri.scheme = some scheme ∧ uri.authority = cs.takeWhile (!endsAuthority ·) ∧
      isAuthority uri.authority = true ∧ uri.authority ≠ [] := by
  unfold afterScheme? at huri
  dsimp only at huri
  split at huri
  · cases huri
  · next hauthority =>
      obtain ⟨⟨path, query⟩, -, hbuilt⟩ := Option.bind_eq_some_iff.mp huri
      cases hbuilt
      simpa [and_comm] using hauthority

theorem splitScheme?_eq_http {cs rest : List Char}
    (hsplit : splitScheme? cs = some (some .http, rest)) :
    afterAnyCase? "http://".toList cs = some rest := by
  unfold splitScheme? at hsplit
  split at hsplit
  · next hrest =>
      cases hsplit
      exact hrest
  · split at hsplit
    · cases hsplit
    · dsimp only at hsplit
      split at hsplit
      · split at hsplit
        · cases hsplit
        · split at hsplit <;> cases hsplit
      · cases hsplit

/-- Only the first way to split off a scheme finds plain HTTP. -/
theorem ofChars?_eq_some {cs : List Char} {uri : Uri}
    (huri : ofChars? cs = some uri) (hscheme : uri.scheme = some .http) :
    ∃ rest, afterAnyCase? "http://".toList cs = some rest ∧ afterScheme? .http rest = some uri := by
  unfold ofChars? at huri
  split at huri
  · cases huri
  · cases huri
    cases hscheme
  · obtain ⟨⟨path, query⟩, -, rfl⟩ := Option.map_eq_some_iff.mp huri
    cases hscheme
  · obtain ⟨⟨scheme, rest⟩, hsplit, hrest⟩ := Option.bind_eq_some_iff.mp huri
    cases scheme with
    | none =>
        dsimp only at hrest
        split at hrest
        · cases hrest
          cases hscheme
        · cases hrest
    | some scheme =>
        obtain rfl : scheme = .http :=
          Option.some.inj ((afterScheme?_eq_some hrest).1.symm.trans hscheme)
        exact ⟨rest, splitScheme?_eq_http hsplit, hrest⟩

theorem ofProbeUrl_eq_ok {url : String} {uri : Uri} (hurl : ofProbeUrl url = .ok uri) :
    ofChars? url.toList = some uri ∧ uri.scheme = some .http := by
  unfold ofProbeUrl at hurl
  split at hurl
  · cases hurl
  · next read hread =>
      split at hurl
      · next hscheme =>
          cases hurl
          unfold ofText? at hread
          split at hread
          · exact ⟨hread, hscheme⟩
          · cases hread
      · cases hurl

/-- What is left after a scheme is an authority and what it ends at. -/
theorem spelledIn_of_eq {url : String} {front rest : List Char} {parts : Parts}
    (htext : url.toList = front ++ rest) (hfront : front.map Char.toLower = "http://".toList)
    (hspells : parts.Spells (rest.takeWhile (!endsAuthority ·))) : SpelledIn url parts := by
  refine ⟨front, rest.takeWhile (!endsAuthority ·), rest.dropWhile (!endsAuthority ·), ?_,
    hfront, hspells, ?_, ?_⟩
  · rw [htext, List.append_assoc, List.takeWhile_append_dropWhile]
  · intro c hc
    simpa using List.mem_takeWhile_imp hc
  · intro c hc
    have hhead := List.head?_dropWhile_not (!endsAuthority ·) rest
    rw [hc] at hhead
    simpa using hhead

theorem takeWhile_authority {authority rest : List Char}
    (hauthority : ∀ c ∈ authority, endsAuthority c = false)
    (hrest : ∀ c ∈ rest.head?, endsAuthority c = true) :
    (authority ++ rest).takeWhile (!endsAuthority ·) = authority := by
  rw [List.takeWhile_append_of_pos (by simpa using hauthority)]
  cases rest with
  | nil => simp
  | cons c rest => simp [hrest c rfl]

/-- The scheme is as long as it has to be, the authority ends at the first
character that can end it, and its parts are the only ones. -/
theorem spelledIn_unique {url : String} {parts other : Parts}
    (hparts : SpelledIn url parts) (hother : SpelledIn url other) : other = parts := by
  obtain ⟨scheme, authority, rest, htext, hscheme, hspells, hfree, hends⟩ := hparts
  obtain ⟨scheme', authority', rest', htext', hscheme', hspells', hfree', hends'⟩ := hother
  have hlength : scheme'.length = scheme.length := by
    rw [← List.length_map Char.toLower, hscheme', ← hscheme, List.length_map]
  have hback : authority' ++ rest' = authority ++ rest := by
    have hboth : scheme' ++ (authority' ++ rest') = scheme ++ (authority ++ rest) := by
      rw [← List.append_assoc, ← List.append_assoc, ← htext', htext]
    exact (List.append_inj hboth hlength).2
  have hsame : authority' = authority := by
    rw [← takeWhile_authority hfree' hends', hback, takeWhile_authority hfree hends]
  exact hspells.unique (hsame ▸ hspells')

/-! ## What an accepted URL is asked for -/

/-- The endpoint of an identifier that was read from a URL, against the parts that
the URL spells. -/
structure EndpointRecord (url : String) (uri : Uri) (parts : Parts) : Prop where
  scheme : uri.scheme = some .http
  spelled : SpelledIn url parts
  unique : ∀ other, SpelledIn url other → other = parts
  occupied : parts.host ++ parts.port ≠ []
  target : ∃ host more number,
    uri.target = String.ofList host ++ ":" ++ toString number ∧
      parts.host = host ++ more ∧ (more = [] ↔ WholeHost parts.host) ∧
      (∀ spelled, SpellsPort parts.port spelled → number = spelled) ∧
      ((∀ spelled, ¬SpellsPort parts.port spelled) → number = defaultPort)
  named : NamesEndpoint url uri ↔
    parts.host ≠ [] ∧ WholeHost parts.host ∧ ∃ number, SpellsPort parts.port number

end Uri

/-- An accepted URL spells one authority.  What is asked is the endpoint spelled,
unless the host is empty or not whole or the port is none. -/
theorem probeUrl_record {url : String} {uri : Uri} (hurl : Uri.ofProbeUrl url = .ok uri) :
    ∃ parts, Uri.EndpointRecord url uri parts := by
  obtain ⟨hchars, hscheme⟩ := Uri.ofProbeUrl_eq_ok hurl
  obtain ⟨rest, hrest, huri⟩ := Uri.ofChars?_eq_some hchars hscheme
  obtain ⟨front, htext, hfront⟩ := Uri.eq_append_of_afterAnyCase? hrest
  obtain ⟨-, hauthority, haccepted, hnonempty⟩ := Uri.afterScheme?_eq_some huri
  obtain ⟨parts, hspells⟩ := Uri.exists_spells haccepted
  obtain ⟨more, hhost, hwhole⟩ := hspells.hostOf_eq haccepted
  have hspelled : Uri.SpelledIn url parts :=
    Uri.spelledIn_of_eq htext hfront (hauthority ▸ hspells)
  refine ⟨parts, hscheme, hspelled, fun other => Uri.spelledIn_unique hspelled,
    hspells.place_ne_nil haccepted hnonempty,
    ⟨_, more, _, rfl, hhost, hwhole, fun number => hspells.port_of_spellsPort,
      hspells.port_of_not_spellsPort⟩, ?_, ?_⟩
  · rintro ⟨other, number, hother, hsome, hport, htarget⟩
    obtain rfl := Uri.spelledIn_unique hspelled hother
    refine ⟨hsome, hwhole.mp ?_, number, hport⟩
    rw [Uri.target, hspells.port_of_spellsPort hport] at htarget
    rw [hhost] at htarget
    simpa using congrArg String.toList htarget
  · rintro ⟨hsome, hentire, number, hport⟩
    refine ⟨parts, number, hspelled, hsome, hport, ?_⟩
    rw [Uri.target, hspells.port_of_spellsPort hport, hhost, hwhole.mpr hentire, List.append_nil]

/-- A URL with a user, an address in brackets and a port. -/
theorem probeUrl_record_bracketed :
    Uri.ofProbeUrl "HTTP://user@[::1]:8080/health?full" =
        .ok
          { scheme := some .http
            authority := "user@[::1]:8080".toList
            path := "/health".toList
            query := some "full".toList } ∧
      ∃ parts, Uri.EndpointRecord "HTTP://user@[::1]:8080/health?full"
        { scheme := some .http
          authority := "user@[::1]:8080".toList
          path := "/health".toList
          query := some "full".toList } parts :=
  ⟨rfl, probeUrl_record rfl⟩

/-- A port past the last one is accepted, and port 80 is asked for it. -/
theorem misspelled_port_accepted :
    ∃ uri, Uri.ofProbeUrl "http://127.0.0.1:99999/" = .ok uri ∧
      uri.target = "127.0.0.1:80" ∧ ¬Uri.NamesEndpoint "http://127.0.0.1:99999/" uri := by
  refine ⟨_, rfl, rfl, ?_⟩
  rintro ⟨parts, number, hspelled, -, hport, -⟩
  have hread : Uri.SpelledIn "http://127.0.0.1:99999/"
      { user := [], host := "127.0.0.1".toList, port := ":99999".toList } := by
    have htext : "http://127.0.0.1:99999/".toList = "http://".toList ++ "127.0.0.1:99999/".toList :=
      rfl
    refine Uri.spelledIn_of_eq htext rfl
      ⟨rfl, .inl rfl, by decide, ?_, .inr ⟨"99999".toList, rfl, by decide⟩⟩
    intro before after (hhost : "127.0.0.1".toList = before ++ ':' :: after)
    have hcolon : ':' ∉ "127.0.0.1".toList := by decide
    exact absurd (by rw [hhost]; simp) hcolon
  obtain rfl := Uri.spelledIn_unique hread hspelled
  generalize hspelt : ":99999".toList = port at hport
  cases hport with
  | absent => cases hspelt
  | empty => exact absurd hspelt (by decide)
  | numeral value bound =>
      obtain rfl : "99999".toList = _ := (List.cons.inj hspelt).2
      have hnumber : 99999 = number := (Text.unsigned_toString 99999).value_unique value
      exact absurd (hnumber ▸ bound) (by decide)

end HealthMonitor
