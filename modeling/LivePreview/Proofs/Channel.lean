import LivePreview.Channel
import LivePreview.Proofs.Message.Outbound

namespace LivePreview

open Json

namespace LineWriter

/-! The lines a writer has taken are the messages it took, in their order. -/

/-- Sends the messages one after another; with each stands whether the writer is broken by then. -/
def sendAll (writer : LineWriter) (sends : List (Bool × Outbound)) : LineWriter :=
  sends.foldl (fun writer send => ({ writer with broken := send.1 }.send send.2).1) writer

/-- The messages that met a writer that was not broken. -/
def delivered (sends : List (Bool × Outbound)) : List Outbound :=
  (sends.filter fun send => !send.1).map Prod.snd

theorem written_sendAll (writer : LineWriter) (sends : List (Bool × Outbound)) :
    (writer.sendAll sends).written = writer.written ++ (delivered sends).flatMap line := by
  induction sends generalizing writer with
  | nil => simp [sendAll, delivered]
  | cons send rest ih =>
      obtain ⟨broken, message⟩ := send
      have sent := ih ({ writer with broken }.send message).1
      cases broken with
      | true =>
          rw [send_broken _ _ rfl] at sent
          exact sent
      | false =>
          rw [written_send _ _ rfl] at sent
          refine sent.trans ?_
          simp [delivered]

theorem splitOn_lines {messages : List Outbound}
    (exact : ∀ message ∈ messages, Exact message.toJson) :
    (messages.flatMap line).splitOn '\n' =
      messages.map (fun message => message.toJson.print) ++ [[]] := by
  induction messages with
  | nil => rfl
  | cons message rest ih =>
      obtain ⟨own, others⟩ := List.forall_mem_cons.mp exact
      have whole := newline_not_mem_print message.toJson own
      rw [List.flatMap_cons, line, List.append_assoc, List.singleton_append,
        List.splitOn_append_cons_self_of_not_mem whole, ih others]
      rfl

/-- The line gives back the message, and any reader of JSON finds the message's kind in it. -/
structure Conveys (line : List Char) (message : Outbound) : Prop where
  parsed : Outbound.codec.parse (String.ofList line) = .ok message
  kind : ∃ entries, Codec.any.parse (String.ofList line) = .ok (.object entries) ∧
    Entries.find? entries "type" = some (.string message.kind)

/-- What has been written, cut at every line break, is one line for each message that met a writer
in order, and nothing after the last; each line conveys its message. -/
theorem lines_of_sendAll (sends : List (Bool × Outbound))
    (portable : ∀ message ∈ delivered sends, message.Portable) :
    ∃ lines, (fresh.sendAll sends).written.splitOn '\n' = lines ++ [[]] ∧
      List.Forall₂ Conveys lines (delivered sends) := by
  refine ⟨(delivered sends).map fun message => message.toJson.print, ?_, ?_⟩
  · have lines := splitOn_lines fun message member =>
      Outbound.exact_toJson (portable message member).exact
    rwa [written_sendAll]
  · rw [List.forall₂_map_left_iff]
    exact List.forall₂_same.mpr fun message member =>
      ⟨(portable message member).parse_print, (portable message member).parse_kind⟩

/-- Line breaks and quotes in the strings; the second message meets a writer that is broken. -/
theorem lines_of_sendAll_console :
    let logged : Outbound := .console
      [⟨"log", [.string "a\n\"b\"",
        .object [("n", .number (.negative ⟨2, by decide⟩)), ("x", .list [.null])]]⟩]
    let shown : Outbound := .action
      ⟨.showError, "Runtime\nException", some 3, none, none, "\\", .null⟩
    ∃ lines,
      (fresh.sendAll [(false, logged), (true, .success), (false, shown)]).written.splitOn '\n' =
        lines ++ [[]] ∧
      List.Forall₂ Conveys lines [logged, shown] := by
  intro logged shown
  have first : logged.Portable :=
    ⟨by decide, by simp [logged, Outbound.embedded, Exact, ExactEntries, ExactItems,
      Number.IsInteger], by decide⟩
  have second : shown.Portable :=
    ⟨by decide, by simp [shown, Outbound.embedded, Exact], by decide⟩
  exact lines_of_sendAll [(false, logged), (true, .success), (false, shown)]
    (List.forall_mem_cons.mpr ⟨first, List.forall_mem_singleton.mpr second⟩)

end LineWriter

end LivePreview
