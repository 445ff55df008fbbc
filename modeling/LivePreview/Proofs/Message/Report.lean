import LivePreview.Proofs.Json.Tagged
import LivePreview.Proofs.Message.Outbound
import LivePreview.Message.ProgramEvent

namespace LivePreview

open Json

/-! What a host is shown of an error: its text and its place, once in the action itself and once in
the payload, from which the report can be read back. -/

theorem ReportKind.find?_kinds (kind : ReportKind) :
    Entries.find? Report.tagged.kinds kind.name = some kind := by
  cases kind <;> rfl

theorem ReportDetail.regains (detail : ReportDetail) : record.codec.Regains detail := by
  refine Record.regains ?distinct rfl ⟨?message, ?path, ?line, ?column, trivial⟩
  case distinct =>
      simp [record, Fields.Distinct, Fields.names, Field.required, Field.optional, Field.accepts]
  case message => exact Codec.reads_string detail.message
  case path => exact Codec.regains_optional_string detail.path
  case line => exact Codec.regains_optional_word32 detail.line
  case column => exact Codec.regains_optional_word32 detail.column

namespace Report

theorem regains (report : Report) : codec.Regains report := by
  have others : ∀ entry ∈ ReportDetail.record.entries report.detail, entry.1 ≠ tagged.tag := by
    intro entry member tag
    have named := Fields.name_mem_names ReportDetail.record.fields _ entry member
    rw [tag] at named
    simp [ReportDetail.record, Fields.names, Field.required, Field.optional, tagged] at named
  have reads : Json.Reads tagged.read tagged.take
      (.object ([] ++ (tagged.tag, .string report.kind.name) ::
        ReportDetail.record.entries report.detail)) (report.kind, report.detail) :=
    Tagged.reads report.kind.find?_kinds others report.detail.regains.take
  exact reads.map fun parts => Report.mk parts.1 parts.2

/-- The action and its payload tell the same, and the payload all that the report tells. -/
structure Shows (report : Report) (shown : Action) : Prop where
  received : Outbound.codec.parse (Outbound.codec.print (.action shown)) = .ok (.action shown)
  message : shown.payload.field? "message" = some (.string shown.message)
  path : shown.payload.field? "path" = some (Codec.string.option.write shown.path)
  line : shown.payload.field? "line" = some (Codec.word32.option.write shown.line)
  column : shown.payload.field? "column" = some (Codec.word32.option.write shown.column)
  taken : codec.take shown.payload = .ok report
  parsed : codec.parse shown.payload.compact = .ok report
  /-- The payload names one kind, and the title is the one of that kind. -/
  titled : ∃ name, shown.payload.field? "kind" = some (.string name) ∧
    ∀ kind : ReportKind, kind.name = name ↔ kind.title = shown.title

theorem shows_action (report : Report) : report.Shows report.action where
  received := (Outbound.portable_action report).parse_print
  message := rfl
  path := rfl
  line := rfl
  column := rfl
  taken := report.regains.take
  parsed := by
    have shallow : nesting report.toJson ≤ depthLimit :=
      Nat.le_trans report.plain_toJson.2 (by decide)
    exact Codec.parse_print report.regains ⟨report.plain_toJson.1, shallow⟩
  titled := by
    refine ⟨report.kind.name, rfl, fun kind => ?_⟩
    rw [action_title]
    cases kind <;> cases report.kind <;> decide

end Report

/-- The action of a report shows the given text and place, and so does its payload. -/
structure Report.Places (report : Report) (message : String) (path : Option String)
    (line column : Option UInt32) : Prop where
  shows' : report.Shows report.action
  message : report.action.message = message
  path : report.action.path = path
  line : report.action.line = line
  column : report.action.column = column

theorem Failure.path_of_location (failure : Failure) :
    (failure.location.bind Location.path <|> failure.path) = failure.path := by
  cases failure with
  | compilation message location | evaluation message location =>
      simp only [path, Failure.location]
      cases location.bind Location.path <;> rfl
  | _ => rfl

theorem Failure.places_ofFailure (failure : Failure) :
    (Report.ofFailure failure).Places failure.message failure.path
      (failure.location.map Location.line) (failure.location.map Location.column) where
  shows' := Report.shows_action _
  message := rfl
  path := failure.path_of_location
  line := rfl
  column := rfl

theorem RuntimeError.places_report (error : RuntimeError) :
    error.report.Places error.message (error.mapped.bind Location.path <|> error.path)
      (error.mapped.elim error.line fun location => some location.line)
      (error.mapped.elim error.column fun location => some location.column) := by
  refine ⟨Report.shows_action _, ?_, ?_, ?_, ?_⟩
  all_goals
    unfold report
    cases error.mapped <;> rfl

/-- A failure of the preview is shown where the failure is, and an error of the running program
where it is in the source, as far as that is known. -/
theorem Report.places_errors :
    (∀ failure : Failure,
      (Report.ofFailure failure).Places failure.message failure.path
        (failure.location.map Location.line) (failure.location.map Location.column)) ∧
      ∀ error : RuntimeError,
        error.report.Places error.message (error.mapped.bind Location.path <|> error.path)
          (error.mapped.elim error.line fun location => some location.line)
          (error.mapped.elim error.column fun location => some location.column) :=
  ⟨Failure.places_ofFailure, RuntimeError.places_report⟩

end LivePreview
