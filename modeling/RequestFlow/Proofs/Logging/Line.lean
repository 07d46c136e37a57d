import RequestFlow.Logging.Line
import RequestFlow.Proofs.Assoc
import RequestFlow.Proofs.Json.Ascii
import RequestFlow.Proofs.Logging.Colours

/-!
# Lines of JSON cannot be forged

The line of JSON for a record is a single line of printable ASCII, whatever stands in the message,
the trace and the fields that the record adds. If the message has characters only, the line says,
read as JSON, what was logged and nothing else: under each name stands the field that the record
adds, or else that of the trace, or else that of every line. Two halves of a surrogate pair in a
message are read as the character that they make up.
-/

namespace RequestFlow
namespace Log

open Json Text

/-! ## What a line is to say -/

/-- The field of a name that every line has. -/
def Record.common?
    (record : Record)
    (time message : String) : String → Option Value
  | "timestamp" => some (.text time)
  | "level" => some (.text (lowerCase record.level))
  | "logger" => some (.text record.logger)
  | "message" => some (.text (withoutColours message))
  | _ => none

/-- The field of a name that a record adds: one that records may add and that is not null, without
colours if it is a text. -/
def Record.added?
    (record : Record)
    (name : String) : Option Value :=
  if name ∈ extraFields then (record.extra? name).map plainValue else none

/-- What the line for a record with a message says under a name. -/
def Record.states?
    (record : Record)
    (time message : String)
    (trace : Trace)
    (name : String) : Option Value :=
  (record.added? name).or ((trace.get? name).or (record.common? time message name))

/-- The value that a member of a line stands for, with halves of surrogate pairs as they are shown.
-/
def Member.toValue : Member → Value
  | .given value => value
  | .wording message => .text (String.ofList (message.map Point.shown))

variable {record : Record} {time : String} {message : List Point} {trace : Trace}

/-! ## Messages of characters -/

theorem map_shown_points (content : List Char) : (points content).map Point.shown = content := by
  rw [points, List.map_map]
  exact List.map_id content

/-- A message of characters is one run. -/
theorem stripRuns_points
    (run content : List Char) :
    stripRuns run (points content) = points (stripColours (run.reverse ++ content)) := by
  induction content generalizing run with
  | nil => rw [List.append_nil]; rfl
  | cons character rest inductionHypothesis =>
      refine (inductionHypothesis (character :: run)).trans ?_
      rw [List.reverse_cons, List.append_assoc]
      rfl

theorem toValue_plainMessage (content : String) :
    (Member.wording (plainMessage (points content.toList))).toValue =
      .text (withoutColours content) := by
  rw [plainMessage, stripRuns_points, Member.toValue, map_shown_points]
  rfl

/-! ## What a line says -/

/-- The fields that a record adds are made from the list of names that records may use. -/
theorem added_eq_filterMap (record : Record) :
    record.added = extraFields.filterMap fun name =>
      ((record.extra? name).map plainValue).map fun value => (name, value) := by
  simp only [Record.added, Option.map_map]
  rfl

theorem get?_added
    (record : Record)
    (name : String) :
    Assoc.get? name record.added = record.added? name := by
  rw [added_eq_filterMap, Assoc.get?_filterMap]
  rfl

theorem get?_commonFields
    (record : Record)
    (time content name : String) :
    ((record.commonFields time (points content.toList)).get? name).map Member.toValue =
      record.common? time content name := by
  unfold Record.common?
  split
  · rfl
  · rfl
  · rfl
  · exact congrArg some (toValue_plainMessage content)
  next notTime notLevel notLogger notMessage =>
    simp [Record.commonFields, Assoc.get?, Ne.symm notTime, Ne.symm notLevel, Ne.symm notLogger,
      Ne.symm notMessage]

theorem get?_members
    (fields : Assoc String Value)
    (name : String) :
    ((members fields).get? name).map Member.toValue = fields.get? name := by
  rw [members, Assoc.get?_map, Option.map_map]
  exact congrFun Option.map_id _

theorem keys_members (fields : Assoc String Value) : (members fields).keys = fields.keys := by
  rw [members, Assoc.keys, List.map_map]
  rfl

theorem nodup_keys_added (record : Record) : (members record.added).keys.Nodup := by
  rw [keys_members, added_eq_filterMap, Assoc.keys_filterMap]
  exact List.Pairwise.filter _ (by decide)

/-- Without a failure the members of a line are those of every line, then those of the trace, then
those that the record adds. -/
theorem entry_eq
    (plain : record.failure = none) :
    record.entry time message trace =
      Assoc.merge (Assoc.merge (record.commonFields time message) (members trace))
        (members record.added) := by
  simp only [Record.entry, Record.failureField, plain]
  rfl

theorem nodup_keys_entry
    (plain : record.failure = none) :
    (record.entry time message trace).keys.Nodup := by
  rw [entry_eq plain]
  have common : (record.commonFields time message).keys.Nodup := by
    simp [Record.commonFields, Assoc.keys]
  exact Assoc.nodup_keys_merge (Assoc.nodup_keys_merge common _) _

/-- Each name stands for what the line is to say under it. -/
theorem get?_entry
    (plain : record.failure = none)
    (distinct : trace.keys.Nodup)
    (content name : String) :
    ((record.entry time (points content.toList) trace).get? name).map Member.toValue =
      record.states? time content trace name := by
  rw [← keys_members] at distinct
  rw [entry_eq plain, Assoc.get?_merge_of_nodup (nodup_keys_added record),
    Assoc.get?_merge_of_nodup distinct, Option.map_or, Option.map_or, get?_members, get?_members,
    get?_added, get?_commonFields]
  rfl

/-! ## What a line is written with -/

/-- A member that is data or the message. -/
inductive Member.IsData : Member → Prop
  | given {value : Value} : Json.IsData value → Member.IsData (.given value)
  | wording (message : List Point) : Member.IsData (.wording message)

theorem isData_plainValue
    {value : Value}
    (data : Json.IsData value) :
    Json.IsData (plainValue value) := by
  cases data with
  | text content => exact .text _
  | null => exact .null
  | bool flag => exact .bool flag
  | int number short => exact .int number short
  | list items each => exact .list items each
  | record fields distinct each => exact .record fields distinct each

theorem isData_members
    {fields : Assoc String Value}
    (each : ∀ field ∈ fields, Json.IsData field.2) :
    ∀ field ∈ members fields, field.2.IsData := by
  intro field member
  obtain ⟨given, listed, rfl⟩ := List.mem_map.1 member
  exact .given (each given listed)

/-- What a record adds is data if what it holds is. -/
theorem isData_added
    (extras : ∀ field ∈ record.extras, Json.IsData field.2) :
    ∀ field ∈ record.added, Json.IsData field.2 := by
  intro field member
  obtain ⟨name, -, found⟩ := List.mem_filterMap.1 member
  obtain ⟨value, extra, rfl⟩ := Option.map_eq_some_iff.1 found
  obtain ⟨held, there, nonNull⟩ := Option.bind_eq_some_iff.1 extra
  have data : Json.IsData held := Assoc.of_get? Json.IsData extras there
  have same : held = value := by
    cases held <;> cases nonNull
    all_goals rfl
  exact isData_plainValue (same ▸ data)

/-- The members of a line are data, but for the message, if those of the trace and of the record
are. -/
theorem isData_entry
    (plain : record.failure = none)
    (traced : ∀ field ∈ trace, Json.IsData field.2)
    (extras : ∀ field ∈ record.extras, Json.IsData field.2) :
    ∀ field ∈ record.entry time message trace, field.2.IsData := by
  have common : ∀ field ∈ record.commonFields time message, field.2.IsData := by
    simp [Record.commonFields, Member.IsData.given, Member.IsData.wording, Json.IsData.text]
  rw [entry_eq plain]
  exact Assoc.forall_mem_merge Member.IsData
    (Assoc.forall_mem_merge Member.IsData common (isData_members traced))
    (isData_members (isData_added extras))

theorem isAsciiLine_escapePoint (point : Point) : IsAsciiLine (escapePoint point) := by
  cases point with
  | character character => exact isAsciiLine_escape character
  | half index =>
      have small : firstHalf + index < 0x10000 := by
        have bound := index.isLt
        unfold firstHalf halfCount at *
        omega
      exact isAsciiLine_unitEscape small

theorem Member.IsData.isAsciiLine_renderMember
    {member : Member}
    (data : member.IsData)
    (name : String) :
    IsAsciiLine (renderMember name member) := by
  have rendered : IsAsciiLine member.render := by
    cases data with
    | given data => exact data.isAsciiLine_renderAt asciiSpaced_isAscii 1
    | wording message =>
        have escapes : IsAsciiLine (message.flatMap escapePoint) :=
          List.forall_mem_flatMap.2 fun point _ => isAsciiLine_escapePoint point
        simp only [Member.render, isAsciiLine_cons_iff, isAsciiLine_append_iff]
        exact ⟨⟨by decide, escapes⟩, by decide⟩
  simp only [renderMember, isAsciiLine_append_iff]
  exact ⟨⟨isAsciiLine_textLiteral _, asciiSpaced_isAscii.key⟩, rendered⟩

theorem isAsciiLine_renderEntry
    {entry : Assoc String Member}
    (each : ∀ field ∈ entry, field.2.IsData) :
    IsAsciiLine (renderEntry entry) := by
  cases entry with
  | nil => exact (by decide : IsAsciiLine ['\x7b', '\x7d'])
  | cons field rest =>
      rw [List.forall_mem_cons] at each
      simp only [renderEntry, isAsciiLine_cons_iff, isAsciiLine_append_iff]
      refine ⟨⟨⟨by decide, each.1.isAsciiLine_renderMember field.1⟩, ?_⟩, by decide⟩
      refine List.forall_mem_flatMap.2 fun other listed => isAsciiLine_append_iff.2 ?_
      exact ⟨asciiSpaced_isAscii.item, (each.2 other listed).isAsciiLine_renderMember other.1⟩

/-! ## Lines without halves -/

/-- A member that is no message with halves of surrogate pairs. -/
inductive Member.IsPlain : Member → Prop
  | given (value : Value) : Member.IsPlain (.given value)
  | wording (content : List Char) : Member.IsPlain (.wording (points content))

theorem Member.IsPlain.render_eq
    {member : Member}
    (plain : member.IsPlain) :
    member.render = renderAt asciiSpaced 1 member.toValue := by
  cases plain with
  | given value => rfl
  | wording content =>
      have escapes : (points content).flatMap escapePoint = content.flatMap (escape true) := by
        rw [points, List.flatMap_map]
        rfl
      rw [Member.render, Member.toValue, map_shown_points, escapes, renderAt, String.toList_ofList]
      rfl

theorem isPlain_members (fields : Assoc String Value) :
    ∀ field ∈ members fields, field.2.IsPlain := by
  intro field member
  obtain ⟨given, -, rfl⟩ := List.mem_map.1 member
  exact .given given.2

theorem isPlain_entry
    (plain : record.failure = none)
    (content : List Char) :
    ∀ field ∈ record.entry time (points content) trace, field.2.IsPlain := by
  have common : ∀ field ∈ record.commonFields time (points content), field.2.IsPlain := by
    simp only [Record.commonFields, plainMessage, stripRuns_points, List.forall_mem_cons]
    exact ⟨.given _, .given _, .given _, .wording _, nofun⟩
  rw [entry_eq plain]
  exact Assoc.forall_mem_merge Member.IsPlain
    (Assoc.forall_mem_merge Member.IsPlain common (isPlain_members trace))
    (isPlain_members record.added)

/-- The values that the members of a line stand for. -/
def values (entry : Assoc String Member) : Assoc String Value :=
  entry.map fun field => (field.1, field.2.toValue)

theorem values_cons
    (field : String × Member)
    (rest : Assoc String Member) :
    values (field :: rest) = (field.1, field.2.toValue) :: values rest := rfl

theorem renderFields_values
    {entry : Assoc String Member}
    (each : ∀ field ∈ entry, field.2.IsPlain) :
    entry.flatMap (fun field => asciiSpaced.itemSeparator ++ renderMember field.1 field.2) =
      renderFields asciiSpaced 1 (Fields.named (values entry)) := by
  induction entry with
  | nil => rfl
  | cons field rest inductionHypothesis =>
      rw [List.forall_mem_cons] at each
      rw [List.flatMap_cons, inductionHypothesis each.2, renderMember, each.1.render_eq,
        values_cons, renderFields_named_cons, renderField]
      simp only [List.append_assoc]
      rfl

/-- Without halves of surrogate pairs a line is the object of what its members stand for. -/
theorem renderEntry_eq
    {entry : Assoc String Member}
    (each : ∀ field ∈ entry, field.2.IsPlain) :
    renderEntry entry = render asciiSpaced (.record (values entry)) := by
  cases entry with
  | nil => rfl
  | cons field rest =>
      rw [List.forall_mem_cons] at each
      rw [renderEntry, renderFields_values each.2, renderMember, each.1.render_eq, values_cons,
        render, renderAt_record_cons, renderField]
      simp only [List.append_assoc, List.cons_append]
      rfl

/-- What a line without halves says is data. -/
theorem isData_values
    (plain : record.failure = none)
    (traced : ∀ field ∈ trace, Json.IsData field.2)
    (extras : ∀ field ∈ record.extras, Json.IsData field.2) :
    Json.IsData (.record (values (record.entry time message trace))) := by
  refine .record _ ?_ ?_
  · rw [values, List.map_map]
    exact nodup_keys_entry plain
  · intro field member
    obtain ⟨⟨name, source⟩, listed, rfl⟩ := List.mem_map.1 member
    have data : source.IsData := isData_entry plain traced extras (name, source) listed
    cases data with
    | given data => exact data
    | wording message => exact .text _

theorem Member.IsData.hasTupleKey
    {member : Member}
    (data : member.IsData) :
    member.hasTupleKey = false := by
  cases data with
  | given data => exact data.hasTupleKey
  | wording message => rfl

/-- The line for a record without a failure is a single line of printable ASCII. If the message has
characters only, the line is read as an object that has under each name what it is to say, and no
name twice. -/
theorem structuredLine_states
    (plain : record.failure = none)
    (worded : record.message = .ok message)
    (distinct : trace.keys.Nodup)
    (traced : ∀ field ∈ trace, Json.IsData field.2)
    (extras : ∀ field ∈ record.extras, Json.IsData field.2) :
    ∃ line,
      record.structuredLine time trace = .ok line ∧
      IsAsciiLine line.toList ∧
      ∀ content : String, message = points content.toList →
        ∃ entry,
          Json.read line = .ok (.record entry) ∧
          (Assoc.keys entry).Nodup ∧
          ∀ name, Assoc.get? name entry = record.states? time content trace name := by
  have data : ∀ field ∈ record.entry time message trace, field.2.IsData :=
    isData_entry plain traced extras
  have keyed : (record.entry time message trace).any (·.2.hasTupleKey) = false :=
    List.any_eq_false.2 fun field member => by simp [(data field member).hasTupleKey]
  refine ⟨String.ofList (renderEntry (record.entry time message trace)), ?_, ?_, ?_⟩
  · simp [Record.structuredLine, worded, keyed, bind, Except.bind]
  · rw [String.toList_ofList]
    exact isAsciiLine_renderEntry data
  · rintro content rfl
    refine ⟨values (record.entry time (points content.toList) trace), ?_, ?_, fun name => ?_⟩
    · rw [renderEntry_eq (isPlain_entry plain content.toList), Json.read, String.toList_ofList]
      exact readChars_render asciiSpaced_isBlank (isData_values plain traced extras)
    · rw [values, Assoc.keys, List.map_map]
      exact nodup_keys_entry plain
    · rw [values, Assoc.get?_map]
      exact get?_entry plain distinct content name

namespace Sample

/-- A record whose message and fields hold colours, and whose message holds what a client sent: a
line end and what looks like another record. -/
def login : Record where
  template := "\x1b[31m%s\x1b[0m 😀"
  arguments := [.text "eve\n\x7b\"level\": 0\x7d"]
  level := "WARNING"
  logger := "flow.engine"
  extras := [("event", .text "\x1b[1mlogin"), ("output", .null), ("secret", .text "s"),
    ("status", .record [("code", .int 401)])]

/-- The message of the record. -/
def wording : String :=
  "\x1b[31meve\n\x7b\"level\": 0\x7d\x1b[0m 😀"

/-- A trace with a field that the record adds as well. -/
def request : Trace :=
  [("request_id", .text "r-1"), ("event", .text "request")]

theorem message_login : login.message = .ok (points wording.toList) := by
  rfl

theorem withoutColours_wording :
    withoutColours wording = "eve\n\x7b\"level\": 0\x7d 😀" := by
  cbv

theorem withoutColours_event : withoutColours "\x1b[1mlogin" = "login" := by
  cbv

/-- What the line is to say: the message and the event without colours, and of the two events the
one that the record adds. -/
theorem states_login :
    login.states? "T" wording request "message" =
        some (.text "eve\n\x7b\"level\": 0\x7d 😀") ∧
      login.states? "T" wording request "level" = some (.text "warning") ∧
      login.states? "T" wording request "event" = some (.text "login") ∧
      login.states? "T" wording request "request_id" = some (.text "r-1") ∧
      login.states? "T" wording request "output" = none ∧
      login.states? "T" wording request "secret" = none := by
  rw [← withoutColours_wording, ← withoutColours_event]
  exact ⟨rfl, rfl, rfl, rfl, rfl, rfl⟩

theorem isData_request : ∀ field ∈ request, IsData field.2 := by
  simp [request, IsData.text]

theorem isData_login : ∀ field ∈ login.extras, IsData field.2 := by
  have status : IsData (.record [("code", .int 401)]) :=
    .record _ (by simp) (by simpa using IsData.int 401 (by decide))
  simp [login, IsData.text, IsData.null, status]

end Sample

/-- What the client sent stays inside the message, and the level is that of the record. -/
theorem structuredLine_states_login :
    Sample.login.failure = none ∧
    Sample.login.message = .ok (points Sample.wording.toList) ∧
    Sample.request.keys.Nodup ∧
    ∃ line entry,
      Sample.login.structuredLine "T" Sample.request = .ok line ∧
      IsAsciiLine line.toList ∧
      Json.read line = .ok (.record entry) ∧
      Assoc.get? "message" entry = some (.text "eve\n\x7b\"level\": 0\x7d 😀") ∧
      Assoc.get? "level" entry = some (.text "warning") ∧
      Assoc.get? "event" entry = some (.text "login") ∧
      Assoc.get? "request_id" entry = some (.text "r-1") ∧
      Assoc.get? "output" entry = none ∧
      Assoc.get? "secret" entry = none := by
  have distinct : Sample.request.keys.Nodup := by decide
  obtain ⟨line, written, ascii, reads⟩ :=
    @structuredLine_states Sample.login "T" _ Sample.request rfl Sample.message_login distinct
      Sample.isData_request Sample.isData_login
  obtain ⟨entry, read, -, stated⟩ := reads Sample.wording rfl
  refine ⟨rfl, Sample.message_login, distinct, line, entry, written, ascii, read, ?_⟩
  simp only [stated]
  exact Sample.states_login

namespace Sample

/-- A record whose message is put together from the two halves of a surrogate pair. -/
def halves : Record where
  template := "%c%c"
  arguments := [.int 0xD83D, .int 0xDE00]
  logger := "flow.engine"

/-- What the line for this record is read as. -/
def joined : Assoc String Value :=
  [("timestamp", .text "T"), ("level", .text "info"), ("logger", .text "flow.engine"),
    ("message", .text "😀")]

/-- The message of this record. -/
def pair : List Point :=
  [.ofCode 0xD83D, .ofCode 0xDE00]

theorem message_halves : halves.message = .ok pair := by
  rfl

theorem plainMessage_pair : plainMessage pair = pair := by
  simp [pair, plainMessage, stripRuns, Point.ofCode, firstHalf, halfCount, points]

theorem render_pair : (Member.wording pair).render = (Member.given (.text "😀")).render := by
  decide

/-- The line is that of a record with one character in the place of the two points. -/
theorem renderEntry_halves :
    renderEntry (halves.entry "T" pair []) = render asciiSpaced (.record joined) := by
  have entry : halves.entry "T" pair [] =
      members (joined.take 3) ++ [("message", .wording (plainMessage pair))] := rfl
  calc
    renderEntry (halves.entry "T" pair []) = renderEntry (members joined) := by
      rw [entry, plainMessage_pair]
      simp [members, joined, renderEntry, renderMember, render_pair]
    _ = render asciiSpaced (.record (values (members joined))) :=
      renderEntry_eq (isPlain_members joined)
    _ = render asciiSpaced (.record joined) := rfl

end Sample

/-- The message of two points is read as one character. -/
theorem structuredLine_joins_halves :
    Sample.halves.failure = none ∧
    Sample.halves.message = .ok [.ofCode 0xD83D, .ofCode 0xDE00] ∧
    (∃ line,
      Sample.halves.structuredLine "T" [] = .ok line ∧
      Json.read line = .ok (.record Sample.joined)) ∧
    Assoc.get? "message" Sample.joined = some (.text "😀") ∧
    points "😀".toList ≠ [.ofCode 0xD83D, .ofCode 0xDE00] := by
  have data : Json.IsData (.record Sample.joined) :=
    .record _ (by decide) (by simp [Sample.joined, Json.IsData.text])
  have written : Sample.halves.structuredLine "T" [] =
      .ok (String.ofList (render asciiSpaced (.record Sample.joined))) := by
    rw [← Sample.renderEntry_halves]
    rfl
  refine ⟨rfl, Sample.message_halves, ⟨_, written, ?_⟩, rfl, by decide⟩
  rw [Json.read, String.toList_ofList]
  exact readChars_render asciiSpaced_isBlank data

end Log
end RequestFlow
