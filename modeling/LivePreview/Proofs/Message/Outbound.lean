import LivePreview.Message.Outbound
import LivePreview.Proofs.Json.Envelope

namespace LivePreview

open Json

/-! What a host receives is the message that was sent, when the values in it are of a kind that
their text gives back. -/

theorem Status.regains (status : Status) : codec.Regains status :=
  Codec.reads_enumeration (by cases status <;> rfl)

theorem ActionKind.regains (kind : ActionKind) : codec.Regains kind :=
  Codec.reads_enumeration (by cases kind; rfl)

theorem Report.plain_toJson (report : Report) : Plain 1 report.toJson := by
  have kind := plain_string 0 report.kind.name
  refine plain_object (List.forall_mem_cons.mpr ⟨kind, Fields.forall_write
    ⟨plain_string 0 report.detail.message, ?path, ?line, ?column, trivial⟩⟩)
  case path => exact Codec.plain_optional_string 0 report.detail.path
  case line => exact Codec.plain_optional_word32 0 report.detail.line
  case column => exact Codec.plain_optional_word32 0 report.detail.column

namespace ConsoleEntry

theorem regains {entry : ConsoleEntry} (settled : ∀ value ∈ entry.data, value.settled = value) :
    codec.Regains entry := by
  refine Record.regains ?distinct rfl ⟨Codec.reads_string entry.method, ?data, trivial⟩
  case distinct =>
      simp [record, Fields.Distinct, Fields.names, Field.required, Field.accepts]
  case data => exact Codec.regains_list fun value member => Codec.regains_any (settled value member)

theorem exact_write {entry : ConsoleEntry} (exact : ∀ value ∈ entry.data, Exact value) :
    Exact (codec.write entry) := by
  refine exactEntries_of_forall (Fields.forall_write ⟨trivial, ?_, trivial⟩)
  refine exactItems_of_forall ?_
  rwa [Codec.any, List.map_id]

end ConsoleEntry

namespace Action

theorem regains {action : Action} (settled : action.payload.settled = action.payload) :
    codec.Regains action := by
  refine Record.regains ?distinct rfl ⟨?kind, ?title, ?line, ?column, ?path, ?message, ?payload,
    trivial⟩
  case distinct =>
      simp [record, Fields.Distinct, Fields.names, Field.required, Field.optional, Field.accepts]
  case kind => exact action.kind.regains
  case title => exact Codec.reads_string action.title
  case line => exact Codec.regains_optional_word32 action.line
  case column => exact Codec.regains_optional_word32 action.column
  case path => exact Codec.regains_optional_string action.path
  case message => exact Codec.reads_string action.message
  case payload => exact Codec.regains_any settled

theorem plain_write {action : Action} {depth : Nat} (payload : Plain depth action.payload) :
    Plain (depth + 1) (codec.write action) := by
  refine plain_object (Fields.forall_write
    ⟨plain_string depth _, plain_string depth action.title, ?line, ?column, ?path,
      plain_string depth action.message, payload, trivial⟩)
  case line => exact Codec.plain_optional_word32 depth action.line
  case column => exact Codec.plain_optional_word32 depth action.column
  case path => exact Codec.plain_optional_string depth action.path

end Action

namespace Outbound

/-- The values of any shape that a message carries. -/
def embedded : Outbound → List Json
  | .action shown => [shown.payload]
  | .console log => log.flatMap ConsoleEntry.data
  | .initialized | .start _ | .status _ | .done _ | .success | .resize _ | .refresh => []

/-- What it takes for a message to survive its text: the values in it have each name of an object
once and no number that is not an integer, and the envelope is not nested too deep. -/
structure Portable (message : Outbound) : Prop where
  settled : ∀ value ∈ message.embedded, value.settled = value
  exact : ∀ value ∈ message.embedded, Exact value
  shallow : nesting message.toJson < 128

theorem regains {message : Outbound}
    (settled : ∀ value ∈ message.embedded, value.settled = value) : codec.Regains message := by
  cases message with
  | initialized | success | refresh => exact Envelope.reads_bare (by rfl) rfl
  | start firstLoad =>
      refine Envelope.reads_typeFirst (by rfl) ?_
      exact Variant.regains_sole (Codec.reads_bool firstLoad) "firstLoad" _
  | status value =>
      refine Envelope.reads_typeFirst (by rfl) ?_
      exact Variant.regains_sole value.regains "status" _
  | done compilationError =>
      refine Envelope.reads_typeFirst (by rfl) ?_
      exact Variant.regains_sole (Codec.reads_bool compilationError) "compilationError" _
  | action shown =>
      refine Envelope.reads_typeFirst (by rfl) ?_
      exact Variant.reads_carrying (Action.regains (settled _ (List.mem_singleton_self _))) action
  | console log =>
      refine Envelope.reads_typeFirst (by rfl) ?_
      refine Variant.regains_sole (Codec.regains_list fun entry member => ?_) "log" _
      exact ConsoleEntry.regains fun value inside =>
        settled value (List.mem_flatMap.mpr ⟨entry, member, inside⟩)
  | resize height =>
      refine Envelope.reads_typeFirst (by rfl) ?_
      exact Variant.regains_sole (Codec.reads_word32 height) "height" _

theorem exact_toJson {message : Outbound} (exact : ∀ value ∈ message.embedded, Exact value) :
    Exact message.toJson := by
  cases message with
  | initialized | success | refresh => exact ⟨trivial, trivial⟩
  | start | status | done | resize => exact ⟨trivial, ⟨trivial, trivial⟩, trivial⟩
  | action shown =>
      have payload : Plain (nesting shown.payload) shown.payload :=
        ⟨exact _ (List.mem_singleton_self _), Nat.le_refl _⟩
      exact ⟨trivial, (Action.plain_write payload).1, trivial⟩
  | console log =>
      refine ⟨trivial, ⟨exactItems_of_forall ?_, trivial⟩, trivial⟩
      rw [List.forall_mem_map]
      intro entry member
      exact ConsoleEntry.exact_write fun value inside =>
        exact value (List.mem_flatMap.mpr ⟨entry, member, inside⟩)

/-- The printed envelope as any reader of JSON finds it: an object whose type is the kind. -/
theorem kind_of_settled (message : Outbound) :
    ∃ entries, message.toJson.settled = .object entries ∧
      Entries.find? entries "type" = some (.string message.kind) := by
  unfold toJson
  cases message.payload with
  | none => exact ⟨_, rfl, rfl⟩
  | some payload => exact ⟨_, rfl, rfl⟩

theorem Portable.parse_print {message : Outbound} (portable : message.Portable) :
    codec.parse (codec.print message) = .ok message :=
  Codec.parse_print (regains portable.settled)
    ⟨exact_toJson portable.exact, Nat.le_of_lt_succ portable.shallow⟩

theorem Portable.parse_kind {message : Outbound} (portable : message.Portable) :
    ∃ entries, Codec.any.parse (codec.print message) = .ok (.object entries) ∧
      Entries.find? entries "type" = some (.string message.kind) := by
  obtain ⟨entries, object, type⟩ := message.kind_of_settled
  have parsed := Codec.parse_spelled (Codec.reads_any message.toJson)
    (Nat.le_of_lt_succ portable.shallow) blank_nil (spells_print _ (exact_toJson portable.exact))
    blank_nil
  rw [List.append_nil, List.nil_append, object] at parsed
  exact ⟨entries, parsed, type⟩

theorem portable_action (report : Report) : (action report.action).Portable where
  settled := by
    obtain ⟨kind, message, path, line, column⟩ := report
    refine List.forall_mem_singleton.mpr ?_
    cases path <;> cases line <;> cases column <;> rfl
  exact := List.forall_mem_singleton.mpr report.plain_toJson.1
  shallow := by
    have payload : Plain 2 (Action.codec.write report.action) :=
      Action.plain_write report.plain_toJson
    have envelope := plain_pair "type" "payload" (plain_string 2 "action") payload
    exact Nat.lt_of_le_of_lt envelope.2 (by decide)

end Outbound

end LivePreview
