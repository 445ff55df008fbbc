import LivePreview.Proofs.Session.Seen

namespace LivePreview

/-! What one part brings about, and the messages among it.  While time passes only the poller does
anything. -/

def Event.message? : Event → Option Outbound
  | .sent message => some message
  | _ => none

def sentIn (events : List Event) : List Outbound :=
  events.filterMap Event.message?

@[simp] theorem sentIn_nil : sentIn [] = [] := rfl

@[simp] theorem sentIn_cons_sent (message : Outbound) (events : List Event) :
    sentIn (.sent message :: events) = message :: sentIn events := rfl

@[simp] theorem sentIn_cons_called (call : Call) (events : List Event) :
    sentIn (.called call :: events) = sentIn events := rfl

@[simp] theorem sentIn_cons_begun (request : CompileRequest) (events : List Event) :
    sentIn (.begun request :: events) = sentIn events := rfl

@[simp] theorem sentIn_append (first second : List Event) :
    sentIn (first ++ second) = sentIn first ++ sentIn second := by
  simp [sentIn]

@[simp] theorem sentIn_map_sent (message : α → Outbound) (values : List α) :
    sentIn (values.map fun value => .sent (message value)) = values.map message := by
  induction values with
  | nil => rfl
  | cons value rest ih => simp [ih]

@[simp] theorem sentIn_map_called (call : α → Call) (values : List α) :
    sentIn (values.map fun value => .called (call value)) = [] := by
  induction values with
  | nil => rfl
  | cons value rest ih => simp [ih]

/-- What a part has brought about, in order. -/
def doneBy (part : Part) (trace : List Stamped) : List Event :=
  (seen trace).filterMap fun stamped => if stamped.part = part then some stamped.event else none

/-- The messages a part has sent, in order. -/
def saidBy (part : Part) (trace : List Stamped) : List Outbound :=
  trace.filterMap fun stamped => if stamped.part = part then stamped.event.message? else none

theorem saidBy_append (part : Part) (first second : List Stamped) :
    saidBy part (first ++ second) = saidBy part first ++ saidBy part second :=
  List.filterMap_append ..

theorem saidBy_seen (part : Part) (trace : List Stamped) :
    saidBy part (seen trace) = saidBy part trace :=
  filterMap_seen (fun _ _ _ => ite_self _) trace

theorem sentIn_doneBy (part : Part) (trace : List Stamped) :
    sentIn (doneBy part trace) = saidBy part trace := by
  rw [← saidBy_seen part trace, sentIn, doneBy, List.filterMap_filterMap]
  congr 1
  funext stamped
  split <;> rfl

namespace Session

variable {σ : Type u} {before middle after session : Session σ}

/-- Between two sessions the part that is running has brought about the events, and it is still
running. -/
structure Brings (before after : Session σ) (events : List Event) : Prop where
  done : doneBy before.part after.trace = doneBy before.part before.trace ++ events
  part : after.part = before.part

theorem Brings.trans (first : Brings before middle events) (second : Brings middle after others) :
    Brings before after (events ++ others) where
  done := by
    have done := second.done
    rw [first.part] at done
    rw [done, first.done, List.append_assoc]
  part := second.part.trans first.part

theorem Brings.trans_nil (first : Brings before middle events) (second : Brings middle after []) :
    Brings before after events := by
  simpa using first.trans second

theorem Adds.brings (adds : Adds before after events) : Brings before after events where
  done := by
    have own : (events.map before.stamp).filterMap (fun stamped =>
        if stamped.part = before.part then some stamped.event else none) = events := by
      simp [List.filterMap_map, Function.comp_def, Session.stamp]
    rw [doneBy, adds.seen, List.filterMap_append, own, ← doneBy]
  part := adds.part

theorem Brings.said (brings : Brings before after events) :
    saidBy before.part after.trace = saidBy before.part before.trace ++ sentIn events := by
  rw [← sentIn_doneBy, brings.done, sentIn_append, sentIn_doneBy]

/-- The poller has told of the heights, at this very moment and beside the part that is running. -/
structure Polled (before after : Session σ) (heights : List UInt32) : Prop where
  now : after.now = before.now
  part : after.part = before.part
  host : after.host = before.host
  level : after.level = before.level
  memory : after.memory = before.memory
  seen : seen after.trace = seen before.trace ++
    heights.map fun height => ⟨before.now, .poller, .sent (.resize height)⟩

theorem polled_refl (session : Session σ) : Polled session session [] :=
  ⟨rfl, rfl, rfl, rfl, rfl, by simp⟩

theorem Polled.trans {heights others : List UInt32} (first : Polled before middle heights)
    (second : Polled middle after others) : Polled before after (heights ++ others) where
  now := second.now.trans first.now
  part := second.part.trans first.part
  host := second.host.trans first.host
  level := second.level.trans first.level
  memory := second.memory.trans first.memory
  seen := by rw [second.seen, first.seen, first.now, List.map_append, List.append_assoc]

theorem Polled.brings {heights : List UInt32} (polled : Polled before after heights)
    (working : before.part ≠ .poller) : Brings before after [] where
  done := by
    rw [doneBy, polled.seen, List.filterMap_append]
    simp [Ne.symm working, doneBy]
  part := polled.part

theorem pollHeight_of_not_polls (document : Document σ) (resting : session.polls = false) :
    session.pollHeight document = session := by
  unfold polls at resting
  unfold pollHeight
  cases given : session.poller with
  | none => rfl
  | some poller =>
      have early : session.now < poller.next := by simpa [given] using resting
      exact if_pos early

theorem pollHeight_of_polls (document : Document σ) (due : session.polls = true) :
    ∃ poller, session.poller = some poller ∧ poller.next ≤ session.now ∧
      session.pollHeight document =
        { session with
          shown := (session.newHeight? document).or session.shown
          unreported := (session.newHeight? document).or session.unreported
          poller :=
            if (document.height session.host).crash?.isSome then none
            else some (poller.ticked session.now) } := by
  unfold polls at due
  cases given : session.poller with
  | none => simp [given] at due
  | some poller =>
      have late : poller.next ≤ session.now := by simpa [given] using due
      refine ⟨poller, rfl, late, ?_⟩
      let polling : Session σ :=
        { session.handTo .poller with poller := some (poller.ticked session.now) }
      have found := findHeight_eq document polling
      rw [show polling.host = session.host from rfl, show polling.shown = session.shown from rfl,
        show polling.newHeight? document = session.newHeight? document from rfl] at found
      simp only [pollHeight, given, Nat.not_lt.mpr late, if_false]
      rw [found]
      cases crashes : (document.height session.host).crash? with
      | some note =>
          rw [newHeight?_of_crash crashes]
          rfl
      | none =>
          cases session.newHeight? document with
          | none => rfl
          | some height => rfl

theorem unreported_reportFound (session : Session σ) : session.reportFound.unreported = none := by
  unfold reportFound
  cases given : session.unreported with
  | none => exact given
  | some height =>
      simp only [reportHeight, log]
      split <;> rfl

theorem polls_reportFound (session : Session σ) : session.reportFound.polls = session.polls := by
  unfold reportFound
  cases session.unreported with
  | none => rfl
  | some height =>
      simp only [reportHeight, log]
      split <;> rfl

theorem polled_pollHeight (document : Document σ) (session : Session σ) :
    Polled session (session.pollHeight document) [] := by
  cases due : session.polls with
  | false =>
      rw [pollHeight_of_not_polls document due]
      exact polled_refl session
  | true =>
      obtain ⟨poller, _, _, polled⟩ := pollHeight_of_polls document due
      rw [polled]
      exact ⟨rfl, rfl, rfl, rfl, rfl, by simp⟩

theorem polled_reportFound (session : Session σ) :
    Polled session session.reportFound session.unreported.toList := by
  unfold reportFound
  cases session.unreported with
  | none => exact polled_refl session
  | some height =>
      let reporting : Session σ := { session.handTo .poller with unreported := none }
      have adds := adds_reportHeight reporting height
      refine ⟨adds.now, rfl, ?_, ?_, memory_reportHeight reporting height, adds.seen⟩
      all_goals
        simp only [reportHeight, log]
        split <;> rfl

theorem polled_poll (document : Document σ) (session : Session σ) :
    Polled session (session.poll document) session.unreported.toList := by
  unfold poll
  cases given : session.unreported with
  | none => exact polled_pollHeight document session
  | some height =>
      have reported := polled_reportFound session
      rwa [given] at reported

theorem polled_pollOn (document : Document σ) (session : Session σ) :
    ∃ heights, Polled session (session.pollOn document) heights :=
  ⟨_, ((polled_reportFound session).trans (polled_pollHeight document _)).trans
    (polled_reportFound _)⟩

@[simp] theorem now_pollOn (document : Document σ) (session : Session σ) :
    (session.pollOn document).now = session.now :=
  (polled_pollOn document session).choose_spec.now

theorem brings_pass (document : Document σ) (count : Nat) (session : Session σ)
    (working : session.part ≠ .poller) : Brings session (session.pass document count) [] := by
  induction count generalizing session with
  | zero => exact (adds_nil session).brings
  | succ count ih =>
      obtain ⟨heights, polled⟩ := polled_pollOn document session.tick
      have ticked : Brings session session.tick [] := ⟨(List.append_nil _).symm, rfl⟩
      exact (ticked.trans (polled.brings working)).trans
        (ih (session.tick.pollOn document) (by rwa [polled.part]))

@[simp] theorem memory_pass (document : Document σ) (count : Nat) (session : Session σ) :
    (session.pass document count).memory = session.memory := by
  induction count generalizing session with
  | zero => rfl
  | succ count ih =>
      obtain ⟨heights, polled⟩ := polled_pollOn document session.tick
      exact (ih _).trans polled.memory

end Session

end LivePreview
