import LivePreview.Proofs.Cycle.Past
import LivePreview.Proofs.Preview.Afresh
import LivePreview.Proofs.Preview.Heights

namespace LivePreview

/-- What a worker does, whatever it waits for. -/
def Labour.blind : Labour → Labour
  | .waiting _ => .waiting .looking
  | .busy wake stage => .busy wake stage
  | .dead note => .dead note
  | .retired => .retired

theorem Labour.waiting_of_blind {labour : Labour} {watch : Watch}
    (same : labour.blind = (Labour.waiting watch).blind) : ∃ other, labour = .waiting other := by
  cases labour with
  | waiting other => exact ⟨other, rfl⟩
  | busy | dead | retired => cases same

theorem Labour.eq_of_blind {labour other : Labour} (same : labour.blind = other.blind)
    (active : ∀ watch, other ≠ .waiting watch) : labour = other := by
  cases other with
  | waiting watch => exact (active watch rfl).elim
  | busy | dead | retired => cases labour <;> first | exact same | cases same

namespace Preview

open LivePreview.Cycle LivePreview.Session

/-! Two previews of which only the first was given a certain request.  Until the request begins
there, or is gone, the two are in step: the first holds it, and the second has nothing pending.
What their workers wait for differs, and so does what they record. -/

/-- Where the two part: what each has told by then, and the generation of its slot. -/
structure Parting where
  request : CompileRequest
  one : List Stamped
  other : List Stamped
  first : UInt64
  second : UInt64

variable {σ : Type u} {setup : Setup σ} {parting : Parting} {held next : Option CompileRequest}
variable {bound : Nat} {old fresh late early : Preview σ} {one other : List Stamped}

structure Paired (parting : Parting) (held : Option CompileRequest) (old fresh : Preview σ) :
    Prop where
  session : old.session.Abreast parting.one parting.other fresh.session
  slot : Debounce.Matched held old.slot fresh.slot
  task : old.worker.task = fresh.worker.task
  labour : old.worker.labour.blind = fresh.worker.labour.blind
  listener : old.listener = fresh.listener
  life : old.life = fresh.life
  tasks : old.tasks = fresh.tasks

theorem paired_onSession (paired : Paired parting held old fresh) {behind ahead : Session σ}
    (sessions : behind.Abreast parting.one parting.other ahead) :
    Paired parting held { old with session := behind } { fresh with session := ahead } :=
  ⟨sessions, paired.slot, paired.task, paired.labour, paired.listener, paired.life, paired.tasks⟩

theorem paired_slot (paired : Paired parting held old fresh)
    {behind ahead : Debounce CompileRequest} (slots : Debounce.Matched next behind ahead) :
    Paired parting next { old with slot := behind } { fresh with slot := ahead } :=
  ⟨paired.session, slots, paired.task, paired.labour, paired.listener, paired.life, paired.tasks⟩

theorem paired_continueWith (paired : Paired parting held old fresh)
    {step : Session σ → Progress × Session σ} (forgetful : Forgetful step) :
    Paired parting held (old.continueWith (step old.workerSession))
      (fresh.continueWith (step fresh.workerSession)) := by
  have working := paired.session.handTo (.worker old.worker.task) (.worker fresh.worker.task)
  obtain ⟨same, sessions⟩ := working.step step (congrArg Part.worker paired.task) forgetful
  refine ⟨sessions, paired.slot, paired.task, ?_, paired.listener, paired.life, paired.tasks⟩
  exact congrArg (fun progress => (Labour.after progress).blind) same

theorem paired_takeUp (paired : Paired parting held old fresh) (request : CompileRequest)
    {behind ahead : Debounce CompileRequest} (slots : Debounce.Matched next behind ahead) :
    Paired parting next (old.takeUp setup request behind) (fresh.takeUp setup request ahead) :=
  paired_continueWith (paired_slot paired slots) (forgetful_begin setup request)

theorem paired_become (paired : Paired parting held old fresh) {labour other : Labour}
    (same : labour.blind = other.blind) :
    Paired parting held (old.become labour) (fresh.become other) :=
  ⟨paired.session, paired.slot, paired.task, same, paired.listener, paired.life, paired.tasks⟩

theorem abreast_stop (abreast : old.session.Abreast one other fresh.session) :
    old.stop.session.Abreast one other fresh.stop.session := by
  have recorded := (abreast.handTo .caller .caller).logAll old.worker.obituary
    fresh.worker.obituary
  have silenced : (Session.stopPolling _).Abreast one other (Session.stopPolling _) :=
    ⟨congrArg Session.stopPolling recorded.present, recorded.told⟩
  exact silenced.logAll [.info "sandbox stopped" []] [.info "sandbox stopped" []]

theorem paired_stop (paired : Paired parting held old fresh) :
    Paired parting held old.stop fresh.stop :=
  ⟨abreast_stop paired.session, paired.slot, paired.task, paired.labour, rfl, rfl, paired.tasks⟩

def Still (preview : Preview σ) : Prop :=
  ∀ watch, preview.worker.labour = .waiting watch → preview.life = .serving →
    ∀ slot next, preview.slot.turn preview.session.now watch ≠ .moved slot next

theorem still_or_moves (setup : Setup σ) (preview : Preview σ) :
    preview.Still ∨ ∃ watch signal next, preview.worker.labour = .waiting watch ∧
      preview.advance? setup =
        some ({ preview with slot := { preview.slot with signal } }.become (.waiting next)) := by
  by_cases still : preview.Still
  · exact .inl still
  · simp only [Still, Classical.not_forall, Classical.not_not] at still
    obtain ⟨watch, waiting, serving, slot, next, turn⟩ := still
    refine .inr ⟨watch, slot.signal, next, waiting, ?_⟩
    rw [advance?_of_moved waiting serving turn, Debounce.slot_of_moved turn]

theorem paired_looks (paired : Paired parting held old fresh) {watch seen : Watch}
    (waiting : old.worker.labour = .waiting watch) (signal : Signal) :
    Paired parting held
      ({ old with slot := { old.slot with signal } }.become (.waiting seen)) fresh := by
  have same := paired.labour
  rw [waiting] at same
  exact ⟨paired.session, paired.slot.congr, paired.task, same, paired.listener, paired.life,
    paired.tasks⟩

theorem paired_looks_fresh (paired : Paired parting held old fresh) {watch seen : Watch}
    (waiting : fresh.worker.labour = .waiting watch) (signal : Signal) :
    Paired parting held old
      ({ fresh with slot := { fresh.slot with signal } }.become (.waiting seen)) := by
  have same := paired.labour
  rw [waiting] at same
  exact ⟨paired.session, paired.slot.congr, paired.task, same, paired.listener, paired.life,
    paired.tasks⟩

/-- Either the two go on in step, or the first takes up the request that only it holds. -/
inductive Onward (setup : Setup σ) (parting : Parting) (old fresh : Preview σ) :
    Option CompileRequest → Prop
  | both {held : Option CompileRequest}
      (steps : Option.Rel (Paired parting held) (old.advance? setup) (fresh.advance? setup)) :
      Onward setup parting old fresh held
  | takes {request : CompileRequest} (slot : Debounce CompileRequest)
      (takes : old.advance? setup = some (old.takeUp setup request slot)) :
      Onward setup parting old fresh (some request)

theorem advance?_of_resting {preview : Preview σ} {watch : Watch}
    (waiting : preview.worker.labour = .waiting watch) (serving : preview.life = .serving)
    (turn : preview.slot.turn preview.session.now watch = .resting) :
    preview.advance? setup = none := by
  simp only [advance?, waiting, serving, attend?, turn]

theorem onward_serving (paired : Paired parting held old fresh) (few : bound < UInt64.size)
    (timelyOld : old.Timely parting.first bound) (timelyFresh : fresh.Timely parting.second bound)
    (stillOld : old.Still) (stillFresh : fresh.Still) {watchOld watch : Watch}
    (waitingOld : old.worker.labour = .waiting watchOld)
    (waiting : fresh.worker.labour = .waiting watch) (serving : fresh.life = .serving) :
    Onward setup parting old fresh held := by
  have servingOld := paired.life.trans serving
  have now : fresh.session.now = old.session.now := paired.session.now.symm
  have unmovedOld := stillOld watchOld waitingOld servingOld
  have unmoved := stillFresh watch waiting serving
  cases held with
  | none =>
      obtain ⟨⟨_, heardOld⟩, countOld, fewOld, datedOld⟩ := timelyOld
      obtain ⟨⟨_, heard⟩, count, fewFresh, dated⟩ := timelyFresh
      rw [waitingOld] at heardOld datedOld
      rw [waiting, now] at dated
      rw [waiting] at heard
      rw [now] at unmoved
      refine .both ?_
      rcases paired.slot.turn datedOld heardOld dated
        heard (Nat.lt_of_le_of_lt fewOld few) (Nat.lt_of_le_of_lt fewFresh few) unmovedOld
        unmoved with ⟨restOld, rest⟩ | ⟨request, readyOld, ready⟩
      · rw [← now] at rest
        rw [advance?_of_resting waitingOld servingOld restOld,
          advance?_of_resting waiting serving rest]
        exact .none
      · rw [← now] at ready
        rw [advance?_of_ready waitingOld servingOld readyOld,
          advance?_of_ready waiting serving ready]
        exact .some (paired_takeUp paired request paired.slot.emptied)
  | some request =>
      rw [now] at unmoved
      obtain ⟨rest, restOld | ⟨slot, ready⟩⟩ := paired.slot.turn_held unmovedOld unmoved
      · rw [← now] at rest
        refine .both ?_
        rw [advance?_of_resting waitingOld servingOld restOld,
          advance?_of_resting waiting serving rest]
        exact .none
      · exact .takes slot (advance?_of_ready waitingOld servingOld ready)

theorem onward_closing (paired : Paired parting held old fresh) {watch watchOld : Watch}
    (waitingOld : old.worker.labour = .waiting watchOld)
    (waiting : fresh.worker.labour = .waiting watch) (ending : fresh.life ≠ .serving) :
    Onward setup parting old fresh held := by
  have endingOld : old.life ≠ .serving := fun serving => ending (paired.life.symm.trans serving)
  have advanceOld : old.advance? setup = some (old.close setup) := by
    rw [advance?_waiting waitingOld, if_neg endingOld]
  have advanceFresh : fresh.advance? setup = some (fresh.close setup) := by
    rw [advance?_waiting waiting, if_neg ending]
  cases held with
  | none =>
      have emptied : Debounce.Matched none old.slot.leave.flush.2 fresh.slot.leave.flush.2 :=
        paired.slot.congr.emptied
      have same : old.slot.leave.flush.1 = fresh.slot.leave.flush.1 := paired.slot.same
      refine .both ?_
      rw [advanceOld, advanceFresh]
      unfold close
      rw [show old.slot.leave.flush = (fresh.slot.leave.flush.1, old.slot.leave.flush.2) from
        congrArg (·, old.slot.leave.flush.2) same]
      cases pending : fresh.slot.leave.flush with
      | mk left slot =>
          rw [pending] at emptied
          cases left with
          | some request => exact .some (paired_takeUp paired request emptied)
          | none => exact .some (paired_become (paired_slot paired emptied) rfl)
  | some request =>
      have holds : old.slot.leave.flush = (some request, old.slot.leave.flush.2) :=
        congrArg (·, old.slot.leave.flush.2) paired.slot.holds
      refine .takes old.slot.leave.flush.2 ?_
      rw [advanceOld]
      unfold close
      rw [holds]

theorem onward_idle (paired : Paired parting held old fresh)
    (same : old.worker.labour = fresh.worker.labour)
    (idle : fresh.worker.labour = .retired ∨ ∃ note, fresh.worker.labour = .dead note) :
    Onward setup parting old fresh held := by
  refine .both ?_
  rw [advance?_idle idle, advance?_idle (same ▸ idle), paired.life]
  split
  · exact .some (paired_stop paired)
  · exact .none

theorem onward_of_still (setup : Setup σ) (paired : Paired parting held old fresh)
    (few : bound < UInt64.size) (timelyOld : old.Timely parting.first bound)
    (timelyFresh : fresh.Timely parting.second bound) (stillOld : old.Still)
    (stillFresh : fresh.Still) : Onward setup parting old fresh held := by
  have same := paired.labour
  cases doing : fresh.worker.labour with
  | waiting watch =>
      rw [doing] at same
      obtain ⟨watchOld, waitingOld⟩ := Labour.waiting_of_blind same
      by_cases serving : fresh.life = .serving
      · exact onward_serving paired few timelyOld timelyFresh stillOld stillFresh waitingOld doing
          serving
      · exact onward_closing paired waitingOld doing serving
  | busy wake stage =>
      rw [doing] at same
      have busy := Labour.eq_of_blind same (by simp)
      refine .both ?_
      rw [advance?_busy busy, advance?_busy doing, paired.session.now]
      split
      · exact .some (paired_continueWith paired (forgetful_resume setup stage))
      · exact .none
  | dead note =>
      rw [doing] at same
      exact onward_idle paired ((Labour.eq_of_blind same (by simp)).trans doing.symm)
        (.inr ⟨note, doing⟩)
  | retired =>
      rw [doing] at same
      exact onward_idle paired ((Labour.eq_of_blind same (by simp)).trans doing.symm) (.inl doing)

end Preview

end LivePreview
