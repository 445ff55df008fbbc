import LivePreview.Proofs.Session.Heights

namespace LivePreview

namespace Session

variable {σ : Type u} {session : Session σ} {interval : Option Nat}

/-! Polls: what they find, and when they come. -/

/-- The height that a step of the poller finds.  A poller that owes a report measures nothing. -/
def polled? (document : Document σ) (session : Session σ) : Option UInt32 :=
  if session.unreported = none ∧ session.polls = true then document.measured? session.host
  else none

theorem poll_of_unreported (document : Document σ) {height : UInt32}
    (owes : session.unreported = some height) : session.poll document = session.reportFound := by
  unfold poll
  rw [owes]

theorem poll_of_reported (document : Document σ) (nothing : session.unreported = none) :
    session.poll document = session.pollHeight document := by
  unfold poll
  rw [nothing]

theorem reportFound_keeps (session : Session σ) :
    session.reportFound.shown = session.shown ∧ session.reportFound.poller = session.poller := by
  unfold reportFound
  cases session.unreported with
  | none => exact ⟨rfl, rfl⟩
  | some height =>
      let reporting : Session σ := { session.handTo .poller with unreported := none }
      have logged := silent_log reporting
        (.trace "document resized" [("height", decimal height.toNat)])
      exact ⟨logged.shown, logged.poller⟩

theorem heights_poll (document : Document σ) (session : Session σ) :
    heights (session.poll document).trace = heights session.trace ++ session.unreported.toList := by
  rw [← heights_seen, (polled_poll document session).seen, heights_append, heights_seen,
    heights_map]

theorem shown_poll (document : Document σ) (session : Session σ) :
    (session.poll document).shown = (session.polled? document).or session.shown := by
  unfold polled?
  cases owes : session.unreported with
  | some height =>
      rw [poll_of_unreported document owes]
      exact (reportFound_keeps session).1
  | none =>
      rw [poll_of_reported document owes]
      cases due : session.polls with
      | false =>
          rw [pollHeight_of_not_polls document due]
          rfl
      | true =>
          obtain ⟨poller, _, _, polled⟩ := pollHeight_of_polls document due
          rw [polled]
          exact shown_after document session

theorem unreported_poll (document : Document σ) (session : Session σ) :
    (session.poll document).unreported = newly session.shown (session.polled? document) := by
  unfold polled?
  cases owes : session.unreported with
  | some height =>
      rw [poll_of_unreported document owes]
      exact unreported_reportFound session
  | none =>
      rw [poll_of_reported document owes]
      cases due : session.polls with
      | false =>
          rw [pollHeight_of_not_polls document due]
          exact owes
      | true =>
          obtain ⟨poller, _, _, polled⟩ := pollHeight_of_polls document due
          rw [polled]
          simp [owes, newHeight?_eq]

/-- Should there be a poller, the next poll is due at a multiple of the interval, and at most one
interval from now. -/
def Ticks (interval : Option Nat) (session : Session σ) : Prop :=
  ∀ poller, session.poller = some poller → interval = some poller.every ∧
    poller.every ∣ poller.next ∧ poller.next ≤ session.now + poller.every

theorem Ticks.congr {after : Session σ} (ticks : session.Ticks interval)
    (kept : after.poller = session.poller) (now : session.now ≤ after.now) :
    after.Ticks interval := by
  intro poller given
  rw [kept] at given
  obtain ⟨every, whole, soon⟩ := ticks poller given
  exact ⟨every, whole, by omega⟩

theorem ticked_next {poller : Poller} {now : Nat} (whole : poller.every ∣ poller.next)
    (late : poller.next ≤ now) :
    poller.every ∣ (poller.ticked now).next ∧ (poller.ticked now).next ≤ now + poller.every := by
  simp only [Poller.ticked]
  split
  · -- The ticks that it has missed are whole intervals.
    have parts := Nat.div_add_mod (now - poller.next) poller.every
    have next : now + poller.every - (now - poller.next) % poller.every =
        poller.next + poller.every * ((now - poller.next) / poller.every) + poller.every := by
      omega
    rw [next]
    refine ⟨Nat.dvd_add (Nat.dvd_add whole (Nat.dvd_mul_right _ _)) (Nat.dvd_refl _), ?_⟩
    omega
  · exact ⟨Nat.dvd_add whole (Nat.dvd_refl _), by omega⟩

theorem Ticks.poll (ticks : session.Ticks interval) (document : Document σ) :
    (session.poll document).Ticks interval := by
  cases owes : session.unreported with
  | some height =>
      rw [poll_of_unreported document owes]
      exact ticks.congr (reportFound_keeps session).2
        (Nat.le_of_eq (polled_reportFound session).now.symm)
  | none =>
      rw [poll_of_reported document owes]
      cases due : session.polls with
      | false =>
          rw [pollHeight_of_not_polls document due]
          exact ticks
      | true =>
          obtain ⟨poller, was, late, polled⟩ := pollHeight_of_polls document due
          obtain ⟨every, whole, _⟩ := ticks poller was
          rw [polled]
          intro ticked given
          simp only at given
          split at given
          · cases given
          · cases given
            exact ⟨every, ticked_next whole late⟩

/-- If no poll is due now, one is due in a millisecond just when that is a multiple of the
interval. -/
theorem Ticks.polls_tick_iff (ticks : session.Ticks interval) (early : session.polls = false) :
    session.tick.polls = true ↔
      session.poller.isSome = true ∧ ∃ every, interval = some every ∧ every ∣ session.now + 1 := by
  unfold polls at early ⊢
  have same : session.tick.poller = session.poller := rfl
  have now : session.tick.now = session.now + 1 := rfl
  rw [same, now]
  cases given : session.poller with
  | none => simp
  | some poller =>
      obtain ⟨every, whole, soon⟩ := ticks poller given
      have early : session.now < poller.next := by simpa [given] using early
      simp only [decide_eq_true_eq, Option.isSome_some, true_and, every, Option.some.injEq]
      constructor
      · intro late
        have next : session.now + 1 = poller.next := by omega
        exact ⟨poller.every, rfl, next ▸ whole⟩
      · rintro ⟨_, rfl, now⟩
        by_contra late
        have gap : poller.every ∣ poller.next - (session.now + 1) := Nat.dvd_sub whole now
        have far := Nat.le_of_dvd (by omega) gap
        omega

theorem isSome_poller_poll {document : Document σ}
    (steady : ∀ host, (document.height host).crash? = none)
    (session : Session σ) : (session.poll document).poller.isSome = session.poller.isSome := by
  cases owes : session.unreported with
  | some height =>
      rw [poll_of_unreported document owes, (reportFound_keeps session).2]
  | none =>
      rw [poll_of_reported document owes]
      cases due : session.polls with
      | false => rw [pollHeight_of_not_polls document due]
      | true =>
          obtain ⟨poller, was, _, polled⟩ := pollHeight_of_polls document due
          have returns : (document.height session.host).crash? = none := steady session.host
          rw [polled, was, returns]
          rfl

end Session

end LivePreview
