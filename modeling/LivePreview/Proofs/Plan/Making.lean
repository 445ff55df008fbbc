import LivePreview.Proofs.Cycle.Activation
import LivePreview.Proofs.Plan.Sources

namespace LivePreview

/-! When there is a plan, and what a compile does with it.  A manifest that cannot be read is blamed
before any file without a chain, and such a file before anything is built. -/

namespace Plan

/-- What planning comes to. -/
structure Exact (ready : ReadyPreset) (files : List SourceFile) (result : Except Failure Plan) :
    Prop where
  unreadable : ∀ file message, FirstWith SourceFile.IsManifest files file →
    Manifest.Content.record.codec.parse file.source = .error message →
    result = .error (.invalidManifest message)
  unclaimed : Manifest.Readable files → ∀ file failure,
    FirstWith (fun file => file.IsSource ∧ ∃ failure, ready.chainFor file = .error failure)
      files file →
    ready.chainFor file = .error failure → result = .error failure
  planned : Manifest.Readable files →
    (∀ file ∈ files, file.IsSource → ∃ chain, ready.chainFor file = .ok chain) →
    ∃ plan, result = .ok plan ∧
      plan.files.map ResolvedFile.file = files.filter (fun file => decide file.IsSource) ∧
      (∀ resolved ∈ plan.files, ready.chainFor resolved.file = .ok resolved.chain) ∧
      plan.preset = ready.preset ∧ plan.transformers = ready.transformers ∧
      (∀ file content, FirstWith SourceFile.IsManifest files file →
        Manifest.Content.record.codec.parse file.source = .ok content →
        plan.entry = content.main.map Manifest.normalizeEntry) ∧
      ((∀ file ∈ files, ¬ file.IsManifest) → plan.entry = none)

theorem exact_make (ready : ReadyPreset) (files : List SourceFile) :
    Exact ready files (make ready files) where
  unreadable := by
    intro file message first fails
    exact make_of_unreadable
      ((Manifest.ofFiles_of_first first).trans (Manifest.parse_of_error fails))
  unclaimed := by
    intro readable file failure first fails
    obtain ⟨manifest, reads⟩ := readable.exists_ofFiles
    have foremost : FirstWith (fun file => ∃ failure, ready.chainFor file = .error failure)
        (sources files) file := by
      rw [sources_eq]
      refine FirstWith.filter ?_
      simpa only [decide_eq_true_iff] using first
    rw [make_of_readable reads, ReadyPreset.resolveAll_of_first foremost fails]
    rfl
  planned := by
    intro readable chained
    obtain ⟨manifest, reads⟩ := readable.exists_ofFiles
    have chained : ∀ file ∈ sources files, ∃ chain, ready.chainFor file = .ok chain := by
      intro file member
      obtain ⟨among, isSource⟩ := List.mem_filter.mp member
      exact chained file among (SourceFile.not_isMetadata_iff.mp isSource)
    obtain ⟨resolved, resolves⟩ := ReadyPreset.exists_resolveAll chained
    obtain ⟨kept, chains⟩ := ReadyPreset.resolveAll_ok resolves
    refine ⟨assemble ready manifest resolved, ?_, kept.trans (sources_eq files), chains, rfl, rfl,
      ?_, ?_⟩
    · rw [make_of_readable reads, resolves]
      rfl
    · intro file content first tells
      rw [Manifest.ofFiles_of_first first, Manifest.parse_of_ok tells] at reads
      cases reads
      rfl
    · intro none
      rw [Manifest.ofFiles_of_none none] at reads
      cases reads
      rfl

/-- A later manifest is not read, and a file without a chain is not blamed before the first. -/
example : make ⟨.react, .empty⟩
    [⟨"/notes.txt", ""⟩, ⟨"/package.json", "["⟩, ⟨"/package.json", "\x7b\x7d"⟩] =
      .error (.invalidManifest "EOF while parsing a list at line 1 column 1") := by
  rfl

end Plan

namespace Session

variable {σ : Type u} {before after session : Session σ}

/-- The plans that the backend has been given to build, in order. -/
def plansBuilt (session : Session σ) : List Plan :=
  session.trace.filterMap fun stamped => stamped.event.plan?

theorem Adds.plansBuilt (adds : Adds before after events) :
    after.plansBuilt = before.plansBuilt ++ events.filterMap Event.plan? := by
  have plans (session : Session σ) :
      (LivePreview.seen session.trace).filterMap (fun stamped => stamped.event.plan?) =
        session.plansBuilt :=
    filterMap_seen (fun _ _ _ => rfl) session.trace
  rw [← plans, adds.seen, List.filterMap_append, plans, List.filterMap_map]
  rfl

theorem Adds.plansBuilt_eq (adds : Adds before after events)
    (idle : ∀ event ∈ events, event.plan? = none) : after.plansBuilt = before.plansBuilt := by
  rw [adds.plansBuilt, List.filterMap_eq_nil_iff.mpr idle, List.append_nil]

/-- Plans the files, and has the plan built if there is one. -/
def compileFiles (backend : Backend σ) (ready : ReadyPreset) (files : List SourceFile)
    (session : Session σ) : Except Failure (Reply Program) × Session σ :=
  let session := session.logAll (Plan.records ready files)
  match Plan.make ready files with
  | .error failure => (.error failure, session)
  | .ok plan =>
    let (reply, session) :=
      (session.log plan.compilingRecord).ask (.build plan) (backend.build plan)
    (.ok reply, session)

theorem adds_compileFiles (backend : Backend σ) (ready : ReadyPreset) (files : List SourceFile)
    (session : Session σ) :
    session.Adds (session.compileFiles backend ready files).2
      ((Plan.make ready files).toOption.toList.map fun plan => .called (.build plan)) := by
  have recorded := adds_logAll session (Plan.records ready files)
  unfold compileFiles
  cases Plan.make ready files with
  | error failure => exact recorded
  | ok plan =>
      exact recorded.trans ((adds_log _ plan.compilingRecord).trans (adds_ask _ (.build plan) _))

theorem plansBuilt_compileFiles (backend : Backend σ) (ready : ReadyPreset)
    (files : List SourceFile) (session : Session σ) :
    (session.compileFiles backend ready files).2.plansBuilt =
      session.plansBuilt ++ (Plan.make ready files).toOption.toList := by
  rw [(adds_compileFiles backend ready files session).plansBuilt]
  cases Plan.make ready files <;> rfl

end Session

namespace Cycle

open Session

variable {σ : Type u}

theorem compile_eq (setup : Setup σ) (request : CompileRequest) (ready : ReadyPreset)
    (session : Session σ) :
    compile setup request ready session =
      match (enter session .compiling).compileFiles setup.backend ready request.sources with
      | (.error failure, session) => compiled setup request ready (.error failure) session
      | (.ok reply, session) =>
        (.asleep (session.now + reply.delay) (.building request ready reply.outcome), session) := by
  simp only [compile, compileFiles]
  cases Plan.make ready request.sources <;> rfl

theorem plansBuilt_compiled_error (setup : Setup σ) (request : CompileRequest) (ready : ReadyPreset)
    (failure : Failure) (session : Session σ) :
    (compiled setup request ready (.error failure) session).2.plansBuilt = session.plansBuilt := by
  have reported := (adds_firstLoad session false).trans
    ((adds_report _ failure).trans (adds_send _ (.done true)))
  have replaced := reported.trans ((adds_enter _ .rendering).trans
    (adds_ask _ (.replaceDocument (Markup.select request.sources ready.preset))
      (setup.document.replace (Markup.select request.sources ready.preset))))
  simp only [compiled, render, proceed]
  split
  · exact replaced.plansBuilt_eq (by simp [Event.plan?])
  · exact (replaced.trans (adds_finish _)).plansBuilt_eq (by simp [Event.plan?])

theorem plansBuilt_compile (setup : Setup σ) (request : CompileRequest) (ready : ReadyPreset)
    (session : Session σ) :
    (compile setup request ready session).2.plansBuilt =
      session.plansBuilt ++ (Plan.make ready request.sources).toOption.toList := by
  have entered := (adds_enter session .compiling).plansBuilt_eq (by simp)
  have built := plansBuilt_compileFiles setup.backend ready request.sources
    (enter session .compiling)
  rw [compile_eq, ← entered, ← built]
  split
  next failure after compiles => rw [plansBuilt_compiled_error, compiles]
  next reply after compiles => rw [compiles]

end Cycle

/-- The first manifest decides whether there can be a plan, and the first source without a chain
whether there is one; nothing is planned in part.  The backend is given each plan to build, once,
and nothing else. -/
theorem Plan.make_exact {σ : Type u} (setup : Setup σ) (ready : ReadyPreset)
    (files : List SourceFile) :
    Exact ready files (make ready files) ∧
      (∀ session : Session σ, (session.compileFiles setup.backend ready files).2.plansBuilt =
        session.plansBuilt ++ (make ready files).toOption.toList) ∧
      ∀ (request : CompileRequest) (session : Session σ),
        (Cycle.compile setup request ready session).2.plansBuilt =
          session.plansBuilt ++ (make ready request.sources).toOption.toList :=
  ⟨exact_make ready files, Session.plansBuilt_compileFiles setup.backend ready files,
    fun request session => Cycle.plansBuilt_compile setup request ready session⟩

end LivePreview
