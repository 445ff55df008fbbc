import LivePreview.Message.Request
import LivePreview.Proofs.Json.Envelope

namespace LivePreview

open Json

/-! What a host sends is understood: each message from its printed text, and a compile request from
any text of its envelope, however its files are given. -/

theorem LogLevel.regains (level : LogLevel) : codec.Regains level :=
  Codec.reads_enumeration (by cases level <;> rfl)

theorem DevTools.regains (kind : DevTools) : codec.Regains kind :=
  Codec.reads_enumeration (by cases kind <;> rfl)

namespace GivenSource

theorem reads {json : Json} {given : GivenSource} (taken : take json = .ok given) :
    codec.Reads json given where
  text within blank text rest is spelled delimited := by
    have read := reads_tree json within is spelled delimited
    simp only [codec, read, taken]
  take := taken

theorem regains (given : GivenSource) : codec.Regains given := by
  refine reads ?_
  cases given <;> rfl

theorem plain_write (given : GivenSource) : Plain 1 (codec.write given) := by
  cases given with
  | bare source => exact plain_string 1 source
  | wrapped source => exact plain_single "source" (plain_string 0 source)

end GivenSource

namespace CompileRequest

theorem distinct_fields : record.fields.Distinct := by
  simp [record, Fields.Distinct, Fields.names, Field.required, Field.defaulted, Field.accepts]

theorem regains (request : CompileRequest) : codec.Regains request := by
  refine Record.regains distinct_fields rfl ⟨?files, ?template, ?level, ?resolver, ?tools, trivial⟩
  case files => exact Codec.regains_table fun entry _ => entry.2.regains
  case template => exact Codec.regains_optional_string request.template
  case level => exact Codec.regains_optional_variant LogLevel.regains request.logLevel
  case resolver => exact Codec.reads_bool request.hasFileResolver
  case tools => exact Codec.regains_optional_variant DevTools.regains request.devTools

theorem plain_write (request : CompileRequest) : Plain 3 (codec.write request) := by
  refine plain_object (Fields.forall_write ⟨?files, ?template, ?level, ?resolver, ?tools, trivial⟩)
  case files =>
      refine plain_object ?_
      rw [List.forall_mem_map]
      exact fun entry _ => entry.2.plain_write
  case template => exact Codec.plain_optional_string 2 request.template
  case level => exact Codec.plain_optional_variant 2 request.logLevel
  case resolver => exact plain_bool 2 request.hasFileResolver
  case tools => exact Codec.plain_optional_variant 2 request.devTools

end CompileRequest

inductive Spelling
  | bare
  | code
  | source
deriving DecidableEq, Repr

structure ListedFile where
  path : String
  spelling : Spelling
  source : String
deriving DecidableEq, Repr

namespace ListedFile

def given (file : ListedFile) : GivenSource :=
  match file.spelling with
  | .bare => .bare file.source
  | .code | .source => .wrapped file.source

def json (file : ListedFile) : Json :=
  match file.spelling with
  | .bare => .string file.source
  | .code => .object [("code", .string file.source)]
  | .source => .object [("source", .string file.source)]

theorem source_given (file : ListedFile) : file.given.source = file.source := by
  unfold given
  split <;> rfl

theorem plain_json (file : ListedFile) : Plain 1 file.json := by
  have source (depth : Nat) : Plain depth (.string file.source) := plain_string depth file.source
  unfold json
  split
  · exact source 1
  · exact plain_single "code" (source 0)
  · exact plain_single "source" (source 0)

theorem reads_json (file : ListedFile) : GivenSource.codec.Reads file.json file.given := by
  refine GivenSource.reads ?_
  unfold json given
  split <;> rfl

end ListedFile

/-- A part of a compile request; a host may leave out any of them but the files. -/
inductive RequestPart
  | files (listed : List ListedFile)
  | template (value : Option String)
  | logLevel (value : Option LogLevel)
  | hasFileResolver (value : Bool)
  | devTools (value : Option DevTools)

namespace RequestPart

abbrev Found : Type := CompileRequest.record.found

def name : RequestPart → String
  | .files _ => "modules"
  | .template _ => "template"
  | .logLevel _ => "logLevel"
  | .hasFileResolver _ => "hasFileResolver"
  | .devTools _ => "reactDevTools"

def json : RequestPart → Json
  | .files listed => .object (listed.map fun file => (file.path, file.json))
  | .template value => Codec.string.option.write value
  | .logLevel value => LogLevel.codec.option.write value
  | .hasFileResolver value => .bool value
  | .devTools value => DevTools.codec.option.write value

def entry (part : RequestPart) : String × Json :=
  (part.name, part.json)

theorem plain_json (part : RequestPart) : Plain 2 part.json := by
  cases part with
  | files listed =>
      refine plain_object ?_
      rw [List.forall_mem_map]
      exact fun file _ => file.plain_json
  | template value => exact Codec.plain_optional_string 2 value
  | logLevel value => exact Codec.plain_optional_variant 2 value
  | hasFileResolver value => exact plain_bool 2 value
  | devTools value => exact Codec.plain_optional_variant 2 value

def filesOf (listed : List ListedFile) : Table GivenSource :=
  .ofList (listed.map fun file => (file.path, file.given))

def Lacks : Found → RequestPart → Prop
  | (table, _), .files _ => table = none
  | (_, base, _), .template _ => base = none
  | (_, _, level, _), .logLevel _ => level = none
  | (_, _, _, resolves, _), .hasFileResolver _ => resolves = none
  | (_, _, _, _, tools, _), .devTools _ => tools = none

def put : Found → RequestPart → Found
  | (_, others), .files listed => (some (filesOf listed), others)
  | (table, _, others), .template value => (table, some value, others)
  | (table, base, _, others), .logLevel value => (table, base, some value, others)
  | (table, base, level, _, others), .hasFileResolver value =>
    (table, base, level, some value, others)
  | (table, base, level, resolves, _, others), .devTools value =>
    (table, base, level, resolves, some value, others)

theorem lacks_put {found : Found} {part other : RequestPart} (lacks : other.Lacks found)
    (apart : part.name ≠ other.name) : other.Lacks (put found part) := by
  cases part <;> cases other <;> first | exact lacks | exact (apart rfl).elim

theorem fills_part {found : Found} {part : RequestPart} (lacks : part.Lacks found) :
    CompileRequest.record.fields.Fills found part.entry (put found part) := by
  obtain ⟨files, template, level, has, tools, ⟨⟩⟩ := found
  cases part with
  | files listed =>
      cases lacks
      refine Fields.fills_own rfl (Codec.reads_table ?_) _
      rw [Codec.ReadsEntries, List.forall₂_map_left_iff, List.forall₂_map_right_iff]
      exact List.forall₂_same.mpr fun file _ => ⟨rfl, file.reads_json⟩
  | template value =>
      cases lacks
      refine Fields.fills_other rfl (Fields.fills_own rfl ?_ _) files
      exact Codec.regains_optional_string value
  | logLevel value =>
      cases lacks
      refine Fields.fills_other rfl
        (Fields.fills_other rfl (Fields.fills_own rfl ?_ _) template) files
      exact Codec.regains_optional_variant LogLevel.regains value
  | hasFileResolver value =>
      cases lacks
      exact Fields.fills_other rfl (Fields.fills_other rfl (Fields.fills_other rfl
        (Fields.fills_own rfl (Codec.reads_bool value) _) level) template) files
  | devTools value =>
      cases lacks
      refine Fields.fills_other rfl (Fields.fills_other rfl (Fields.fills_other rfl
        (Fields.fills_other rfl (Fields.fills_own rfl ?_ _) has) level) template) files
      exact Codec.regains_optional_variant DevTools.regains value

theorem filled_parts {parts : List RequestPart} (distinct : (parts.map name).Nodup) {found : Found}
    (lacks : ∀ part ∈ parts, part.Lacks found) :
    CompileRequest.record.fields.Filled found (parts.map entry) (parts.foldl put found) := by
  induction parts generalizing found with
  | nil => exact .nil found
  | cons part rest ih =>
      obtain ⟨other, distinct⟩ := List.nodup_cons.mp distinct
      obtain ⟨own, others⟩ := List.forall_mem_cons.mp lacks
      refine .cons (fills_part own) (ih distinct fun later member => ?_)
      exact lacks_put (others later member) fun same =>
        other (same ▸ List.mem_map_of_mem member)

theorem files_put {found : Found} {part : RequestPart} (apart : part.name ≠ "modules") :
    (put found part).1 = found.1 := by
  cases part <;> first | rfl | exact (apart rfl).elim

theorem files_foldl_put_of_apart {parts : List RequestPart} (apart : "modules" ∉ parts.map name)
    (found : Found) : (parts.foldl put found).1 = found.1 := by
  induction parts generalizing found with
  | nil => rfl
  | cons part rest ih =>
      rw [List.map_cons, List.mem_cons, not_or] at apart
      rw [List.foldl_cons, ih apart.2, files_put (Ne.symm apart.1)]

theorem files_foldl_put {parts : List RequestPart} (distinct : (parts.map name).Nodup)
    {listed : List ListedFile} (given : .files listed ∈ parts) (found : Found) :
    (parts.foldl put found).1 = some (filesOf listed) := by
  induction parts generalizing found with
  | nil => cases given
  | cons part rest ih =>
      obtain ⟨other, distinct⟩ := List.nodup_cons.mp distinct
      rw [List.foldl_cons]
      rcases List.mem_cons.mp given with rfl | later
      · exact files_foldl_put_of_apart other _
      · exact ih distinct later _

end RequestPart

theorem CompileRequest.collect_of_files {found : RequestPart.Found} {files : Table GivenSource}
    (given : found.1 = some files) :
    ∃ parts, record.fields.collect found = .ok parts ∧ (record.make parts).files = files := by
  obtain ⟨_, template, level, has, tools, ⟨⟩⟩ := found
  cases given
  cases template <;> cases level <;> cases has <;> cases tools <;> exact ⟨_, rfl, rfl⟩

theorem RequestPart.reads_payload {parts : List RequestPart} {listed : List ListedFile}
    (distinct : (parts.map RequestPart.name).Nodup) (given : .files listed ∈ parts) :
    ∃ request : CompileRequest, request.files = RequestPart.filesOf listed ∧
      CompileRequest.codec.Reads (.object (parts.map RequestPart.entry)) request := by
  have lacks : ∀ part ∈ parts, part.Lacks CompileRequest.record.fields.blank := by
    intro part _
    cases part <;> rfl
  have filled := filled_parts distinct lacks
  obtain ⟨values, collected, files⟩ :=
    CompileRequest.collect_of_files (files_foldl_put distinct given _)
  exact ⟨_, files, Record.reads filled collected⟩

/-- Each path once, at its first place, with the source it was given last. -/
structure CompileRequest.Gathers (request : CompileRequest) (listed : List ListedFile) : Prop where
  paths : request.sources.map SourceFile.path = (listed.map ListedFile.path).eraseDups
  sources : ∀ file ∈ request.sources, ∃ earlier last later, listed = earlier ++ last :: later ∧
    last.path = file.path ∧ last.source = file.source ∧ ∀ other ∈ later, other.path ≠ file.path

theorem CompileRequest.gathers_of_files {request : CompileRequest} {listed : List ListedFile}
    (files : request.files = RequestPart.filesOf listed) : request.Gathers listed := by
  have entries : request.files.entries =
      Entries.settle (listed.map fun file => (file.path, file.given)) := by
    rw [files]
    rfl
  constructor
  · have names := Entries.names_settle (listed.map fun file => (file.path, file.given))
    rw [← entries] at names
    simpa [sources, Entries.names, Function.comp_def] using names
  · intro file member
    obtain ⟨entry, held, rfl⟩ := List.mem_map.mp member
    rw [entries] at held
    obtain ⟨earlier, later, split, new⟩ := Entries.exists_last_of_mem_settle held
    obtain ⟨before, more, rfl, _, more_eq⟩ := List.map_eq_append_iff.mp split
    obtain ⟨last, after, rfl, rfl, rfl⟩ := List.map_eq_cons_iff.mp more_eq
    refine ⟨before, last, after, rfl, rfl, (last.source_given).symm, ?_⟩
    intro other member same
    exact new (List.mem_map.mpr ⟨_, List.mem_map_of_mem member, same⟩)

/-- The envelope of a compile request, its type first or its payload. -/
def compileEnvelope (payloadFirst : Bool) (parts : List RequestPart) : Json :=
  let type := ("type", .string "compile")
  let payload := ("payload", .object (parts.map RequestPart.entry))
  .object (if payloadFirst then [payload, type] else [type, payload])

theorem Inbound.reads_compileEnvelope {parts : List RequestPart} {request : CompileRequest}
    (payloadFirst : Bool)
    (reads : CompileRequest.codec.Reads (.object (parts.map RequestPart.entry)) request) :
    codec.Reads (compileEnvelope payloadFirst parts) (.compile request) := by
  cases payloadFirst with
  | true =>
      refine Envelope.reads_payloadFirst (by rfl) ?_
      exact Variant.reads_carrying reads compile
  | false =>
      refine Envelope.reads_typeFirst (by rfl) ?_
      exact Variant.reads_carrying reads compile

theorem plain_compileEnvelope (payloadFirst : Bool) (parts : List RequestPart) :
    Plain 4 (compileEnvelope payloadFirst parts) := by
  have type : Plain 3 (.string "compile") := plain_string 3 "compile"
  have payload : Plain 3 (.object (parts.map RequestPart.entry)) := by
    refine plain_object ?_
    rw [List.forall_mem_map]
    exact fun part _ => part.plain_json
  cases payloadFirst with
  | true => exact plain_pair "payload" "type" payload type
  | false => exact plain_pair "type" "payload" type payload

namespace Inbound

theorem regains (message : Inbound) : codec.Regains message := by
  cases message with
  | compile request =>
      refine Envelope.reads_typeFirst (by rfl) ?_
      exact Variant.reads_carrying request.regains compile
  | refresh => exact Envelope.reads_bare (by rfl) rfl
  | evaluate command =>
      refine Envelope.reads_typeFirst (by rfl) ?_
      exact Variant.regains_sole (Codec.reads_string command) "command" _

theorem plain_toJson (message : Inbound) : Plain 4 message.toJson := by
  cases message with
  | compile request =>
      exact plain_pair "type" "payload" (plain_string 3 "compile") request.plain_write
  | refresh => exact plain_single "type" (plain_string 3 "refresh")
  | evaluate command =>
      exact plain_pair "type" "payload" (plain_string 3 "evaluate")
        (plain_single "command" (plain_string 2 command))

/-- The printed text of a message is read back as the message, its files in the same order.  From
any text of a compile envelope, however each of its files is given, comes a request that has each
path once, at its first place, with the source that was given for it last. -/
theorem parse_messages :
    (∀ message : Inbound, codec.parse (codec.print message) = .ok message) ∧
    ∀ (parts : List RequestPart) (listed : List ListedFile) (payloadFirst : Bool)
      (before text after : List Char),
      (parts.map RequestPart.name).Nodup → .files listed ∈ parts →
      Blank before → Spells (compileEnvelope payloadFirst parts) text → Blank after →
      ∃ request : CompileRequest, request.Gathers listed ∧
        codec.parse (String.ofList (before ++ (text ++ after))) = .ok (.compile request) := by
  constructor
  · intro message
    have plain := message.plain_toJson
    exact Codec.parse_print message.regains ⟨plain.1, Nat.le_trans plain.2 (by decide)⟩
  · intro parts listed payloadFirst before text after distinct given blank spelled trailing
    obtain ⟨request, files, reads⟩ := RequestPart.reads_payload distinct given
    have envelope : codec.Reads (compileEnvelope payloadFirst parts) (.compile request) :=
      reads_compileEnvelope payloadFirst reads
    have shallow : nesting (compileEnvelope payloadFirst parts) ≤ depthLimit :=
      Nat.le_trans (plain_compileEnvelope payloadFirst parts).2 (by decide)
    exact ⟨request, CompileRequest.gathers_of_files files,
      Codec.parse_spelled envelope shallow blank spelled trailing⟩

/-- Three entries for two paths, each given in another way, with blanks around the envelope. -/
theorem parse_messages_repeated :
    let listed : List ListedFile :=
      [⟨"/a.jsx", .bare, "one"⟩, ⟨"/b.js", .code, "two"⟩, ⟨"/a.jsx", .source, "three\n"⟩]
    let text := " \x7b\"payload\":\x7b\"template\":\"react\",\"modules\":\x7b\"/a.jsx\":\"one\"," ++
      "\"/b.js\":\x7b\"code\":\"two\"\x7d,\"/a.jsx\":\x7b\"source\":\"three\\n\"\x7d\x7d\x7d," ++
      "\"type\":\"compile\"\x7d\n"
    ∃ request : CompileRequest, request.Gathers listed ∧
      codec.parse text = .ok (.compile request) := by
  intro listed text
  have envelope := plain_compileEnvelope true [.template (some "react"), .files listed]
  have same : text = String.ofList ([' '] ++
      ((compileEnvelope true [.template (some "react"), .files listed]).print ++ ['\n'])) := by
    decide +kernel
  have parsed := parse_messages.2 [.template (some "react"), .files listed] listed true [' ']
    (compileEnvelope true [.template (some "react"), .files listed]).print ['\n'] (by decide)
    (by simp) (by simp [Blank, isBlank]) (spells_print _ envelope.1) (by simp [Blank, isBlank])
  rw [← same] at parsed
  exact parsed

end Inbound

end LivePreview
