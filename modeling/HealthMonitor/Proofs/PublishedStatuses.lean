import HealthMonitor.Proofs.JsonTexts
import HealthMonitor.Proofs.StatusBoards

/-!
# What is published can be read back

A status that was published can be read back from its text with all it holds,
whatever characters stand in it.  A cause or a phase that it does not have is
left out, and an empty cause is not.  So no two statuses have the same text, and
the two pages of a board tell exactly what the board holds.  The main statement
is `publication_record`.
-/

namespace HealthMonitor

/-- The time of a status fits into 64 bits. -/
def Status.TimeFits (status : Status) : Prop :=
  status.timestamp ≤ Text.maxWord64

/-- The statuses that an array stands for. -/
def Status.listOfJson? : Json → Option (List Status)
  | .array items => items.mapM Status.ofJson?
  | _ => none

/-- An object tells each field that a status has under the name of the field,
and nothing else. -/
structure Tells (value : Json) (status : Status) : Prop where
  probe : value.child? "probe" = some (.string status.probe)
  success : value.child? "success" = some (.bool status.success)
  message : value.child? "message" = some (.string status.message)
  thrown : value.child? "thrown" = status.thrown.map .string
  timestamp :
    value.child? "timestamp" = some (.number (.whole status.timestamp))
  phase : value.child? "phase" = status.phase.map fun phase => .string phase.text
  others : ∀ name,
    name ∉ ["probe", "success", "message", "thrown", "timestamp", "phase"] →
      value.child? name = none

/-- What can be read of a status and of a board from their texts. -/
structure PublicationRecord (board : Board) (status : Status) : Prop where
  tells : ∃ value,
    Json.ofText? status.jsonText = some value ∧ Tells value status ∧
      ∀ name, value.child? name ≠ some .null
  readBack : Status.ofJsonText? status.jsonText = some status
  injective : ∀ other : Status, other.TimeFits →
    other.jsonText = status.jsonText → other = status
  /-- The page of the recent results is read back as these, in their order. -/
  eventsPage : ∀ target, Board.pathOf target = "/events" →
    (Json.ofText? (board.serve "GET" target).body).bind Status.listOfJson? =
      some board.events
  /-- Once the status is recorded, the page of the latest result shows it. -/
  statusPage : ∀ target, Board.pathOf target = "/status" →
    ∃ view, Json.ofText? ((board.record status).serve "GET" target).body =
        some view ∧
      Shows view status
  statusPage_injective : ∀ target, Board.pathOf target = "/status" →
    ∀ (earlier : Board) (other : Status), other.TimeFits →
      ((earlier.record other).serve "GET" target).body =
          ((board.record status).serve "GET" target).body →
        other = status

namespace Status

/-! ## The text of a status -/

section Texts

variable {status : Status} {value : Json}

theorem readable_toJson (htime : status.TimeFits) (depth : Nat) :
    status.toJson.Readable (depth + 1) := by
  have hlow : -((Text.maxInt64 + 1 : Nat) : Int) ≤ status.timestamp := by omega
  have hhigh : (status.timestamp : Int) ≤ Text.maxWord64 := by
    exact_mod_cast htime
  apply Json.Readable.object
  cases status.thrown <;> cases status.phase <;>
    simp [Json.Readable.string, Json.Readable.bool,
      Json.Readable.whole hlow hhigh]

/-- Reading a written status moves its fields and changes none of them. -/
theorem tells_sorted_toJson (status : Status) :
    Tells status.toJson.sorted status := by
  obtain ⟨probe, success, message, thrown, timestamp, phase⟩ := status
  constructor
  case probe => cases phase <;> cases thrown <;> rfl
  case success => cases phase <;> cases thrown <;> rfl
  case message => cases phase <;> cases thrown <;> rfl
  case thrown => cases phase <;> cases thrown <;> rfl
  case timestamp => cases phase <;> cases thrown <;> rfl
  case phase => cases phase <;> cases thrown <;> rfl
  case others =>
    intro name hname
    simp only [List.mem_cons, List.not_mem_nil, or_false, not_or] at hname
    rw [toJson, Json.child?_sorted_object]
    cases phase <;> cases thrown <;> simp [Json.lookup_cons_eq, hname]

/-- What a status does not have is left out, and not written as null. -/
theorem child?_ne_null (htells : Tells value status) (name : String) :
    value.child? name ≠ some .null := by
  by_cases hname :
      name ∈ ["probe", "success", "message", "thrown", "timestamp", "phase"]
  · simp only [List.mem_cons, List.not_mem_nil, or_false] at hname
    rcases hname with rfl | rfl | rfl | rfl | rfl | rfl
    · simp [htells.probe]
    · simp [htells.success]
    · simp [htells.message]
    · simp [htells.thrown]
    · simp [htells.timestamp]
    · simp [htells.phase]
  · simp [htells.others name hname]

/-- A status is read off what is told of it. -/
theorem ofJson?_of_tells (htells : Tells value status) :
    ofJson? value = some status := by
  obtain ⟨probe, success, message, thrown, timestamp, phase⟩ := status
  have hsign : ¬((timestamp : Int) < 0) :=
    Int.not_lt.mpr (Int.natCast_nonneg timestamp)
  simp only [ofJson?, optionalText?, htells.probe, htells.success,
    htells.message, htells.thrown, htells.timestamp, htells.phase]
  cases phase <;> cases thrown <;> simp [hsign]

theorem ofText?_jsonText (htime : status.TimeFits) :
    Json.ofText? status.jsonText = some status.toJson.sorted :=
  Json.ofText?_text (readable_toJson htime 126)

theorem ofJsonText?_jsonText (htime : status.TimeFits) :
    ofJsonText? status.jsonText = some status := by
  rw [ofJsonText?, ofText?_jsonText htime]
  exact ofJson?_of_tells (tells_sorted_toJson status)

end Texts

/-! ## The pages of a board -/

section Pages

variable {status : Status} {view : Json}

theorem readable_pageView (htime : status.TimeFits) (depth : Nat) :
    status.pageView.Readable (depth + 2) := by
  have hlow : -((Text.maxInt64 + 1 : Nat) : Int) ≤ status.timestamp := by omega
  have hhigh : (status.timestamp : Int) ≤ Text.maxWord64 := by
    exact_mod_cast htime
  have hexception : ∀ cause : String,
      Json.Readable (depth + 1) (.object [("message", .string cause)]) := by
    intro cause
    apply Json.Readable.object
    simp [Json.Readable.string]
  apply Json.Readable.object
  cases status.thrown <;> cases status.phase <;>
    simp [Json.Readable.string, Json.Readable.bool,
      Json.Readable.whole hlow hhigh, hexception]

theorem shows_sorted_pageView (status : Status) :
    Shows status.pageView.sorted status := by
  obtain ⟨probe, success, message, thrown, timestamp, phase⟩ := status
  constructor
  case live => cases phase <;> cases thrown <;> rfl
  case timestamp => cases phase <;> cases thrown <;> rfl
  case phase => cases phase <;> cases thrown <;> rfl
  case message => cases phase <;> cases thrown <;> rfl
  case probe => cases phase <;> cases thrown <;> rfl
  case exception => cases phase <;> cases thrown <;> rfl
  case readBack =>
    have hsign : ¬((timestamp : Int) < 0) :=
      Int.not_lt.mpr (Int.natCast_nonneg timestamp)
    cases phase with
    | none => cases thrown <;> exact if_neg (t := none) hsign
    | some phase =>
        cases phase <;> cases thrown <;> exact if_neg (t := none) hsign

theorem readable_events
    {events : List Status} (htimes : ∀ event ∈ events, event.TimeFits)
    (depth : Nat) :
    (Json.array (events.map toJson)).Readable (depth + 2) := by
  apply Json.Readable.array
  rw [List.forall_mem_map]
  intro event hevent
  exact readable_toJson (htimes event hevent) depth

theorem listOfJson?_events (events : List Status) :
    listOfJson? (Json.array (events.map toJson)).sorted = some events := by
  rw [Json.sorted, Json.sortedItems_eq_map, listOfJson?, List.map_map]
  induction events with
  | nil => rfl
  | cons event events ih =>
      have hevent := ofJson?_of_tells (tells_sorted_toJson event)
      rw [List.map_cons, List.mapM_cons, Function.comp_apply, hevent, ih]
      rfl

end Pages

end Status

namespace Board

section Serving

variable {board : Board} {status : Status} {target : String}

theorem listOfJson?_serve_events
    (htimes : ∀ event ∈ board.events, event.TimeFits)
    (htarget : pathOf target = "/events") :
    (Json.ofText? (board.serve "GET" target).body).bind Status.listOfJson? =
      some board.events := by
  rw [serve_events htarget, eventsReply, PageReply.json,
    Json.ofText?_text (Status.readable_events htimes 125), Option.bind_some,
    Status.listOfJson?_events]

theorem ofText?_serve_status
    (htime : status.TimeFits) (htarget : pathOf target = "/status") :
    Json.ofText? ((board.record status).serve "GET" target).body =
      some status.pageView.sorted := by
  rw [serve_status htarget, statusReply, last_record]
  exact Json.ofText?_text (Status.readable_pageView htime 125)

end Serving

end Board

/-- For a board and a status with times of 64 bits: the text of the status is
read as an object that tells just what the status holds, and so is the page of
the latest result once the status is recorded; neither text is that of another
status.  The page of the recent results is read as exactly these. -/
theorem publication_record
    {board : Board} {status : Status}
    (htimes : ∀ event ∈ board.events, event.TimeFits)
    (htime : status.TimeFits) :
    PublicationRecord board status := by
  have hread := Status.ofJsonText?_jsonText htime
  constructor
  case tells =>
    have htells := Status.tells_sorted_toJson status
    exact ⟨_, Status.ofText?_jsonText htime, htells,
      Status.child?_ne_null htells⟩
  case readBack => exact hread
  case injective =>
    intro other hother hsame
    have hreadOther := Status.ofJsonText?_jsonText hother
    rw [hsame, hread] at hreadOther
    exact (Option.some.inj hreadOther).symm
  case eventsPage =>
    intro target htarget
    exact Board.listOfJson?_serve_events htimes htarget
  case statusPage =>
    intro target htarget
    exact ⟨_, Board.ofText?_serve_status htime htarget,
      Status.shows_sorted_pageView status⟩
  case statusPage_injective =>
    intro target htarget earlier other hother hsame
    have hview : Json.ofText? ((earlier.record other).serve "GET" target).body =
        some other.pageView.sorted :=
      Board.ofText?_serve_status hother htarget
    rw [hsame, Board.ofText?_serve_status htime htarget] at hview
    have hshown := (Status.shows_sorted_pageView other).readBack
    rw [← Option.some.inj hview,
      (Status.shows_sorted_pageView status).readBack] at hshown
    exact (Option.some.inj hshown).symm

/-! ## An example -/

namespace Sample

/-- A status whose texts hold what has to be escaped, with an empty cause. -/
def escaped : Status where
  probe := "db \"main\" \\ é"
  success := false
  message := "line one\nline two\x00\x1f"
  thrown := some ""
  timestamp := 1700000000000
  phase := some .live

def publicationBoard : Board :=
  ({ capacity := 2 } : Board).recordAll [.up "http" "ok", escaped]

end Sample

theorem publication_record_sample :
    (∀ event ∈ Sample.publicationBoard.events, event.TimeFits) ∧
      Sample.escaped.TimeFits ∧
      PublicationRecord Sample.publicationBoard Sample.escaped := by
  have htimes : ∀ event ∈ Sample.publicationBoard.events, event.TimeFits := by
    intro event hevent
    have hevent : event ∈ [Status.up "http" "ok", Sample.escaped] := hevent
    simp only [List.mem_cons, List.not_mem_nil, or_false] at hevent
    rcases hevent with rfl | rfl
    · exact Nat.zero_le _
    · unfold Status.TimeFits
      decide
  have htime : Sample.escaped.TimeFits := by
    unfold Status.TimeFits
    decide
  exact ⟨htimes, htime, publication_record htimes htime⟩

end HealthMonitor
