import LivePreview.Markup
import LivePreview.Message.Request
import LivePreview.Plan

namespace LivePreview

/-! What a preview works with: a backend that builds and runs programs, and the document they are
shown in.  Both are given by what they answer in a state of the host, and by the state after. -/

structure Answer (σ : Type u) (α : Type v) where
  host : σ
  value : α
  records : List LogRecord := []

structure Backend (σ : Type u) where
  /-- Whether the host resolves files that a request does not hold. -/
  configureFiles : Bool → σ → Answer σ (Outcome Unit)
  /-- Drops every module kept from earlier programs. -/
  resetModules : σ → Answer σ (Outcome Unit)
  load : String → σ → Answer σ (Reply Transformer)
  build : Plan → σ → Answer σ (Reply Program)
  evaluate : Program → σ → Answer σ (Outcome Unit)
  /-- Evaluates a command in the scope of the running program. -/
  command : String → σ → Answer σ (Outcome Json)

structure Document (σ : Type u) where
  replace : Markup → σ → Answer σ (Outcome Unit)
  /-- Gives up whatever the program was doing. -/
  reload : σ → Answer σ (Outcome Unit)
  /-- The height it is shown at, when it can be measured. -/
  height : σ → Outcome (Option UInt32)
  loadDevTools : DevTools → σ → Answer σ (Reply Unit)

/-- The calls that a host can tell apart. -/
inductive Call
  | configureFiles (hasResolver : Bool)
  | resetModules
  | load (name : String)
  | build (plan : Plan)
  | evaluate (program : Program)
  | replaceDocument (markup : Markup)
  | loadDevTools (kind : DevTools)
  | reload

end LivePreview
