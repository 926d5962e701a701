import TokenBridge.Proofs.Regular

/-!
# Failed commands

A command that administers an endpoint, or that is about a departure, either succeeds or changes
nothing. Three of them write before their last check: a transfer charges the outbound quota
and a release marks its departure before they look up the peer to credit, and a registration
adds a slot before it enables it. None of these checks can fail any more. The transfer has
looked the peer up before, the peer of a stored departure stays registered (`Charted`), and a
slot is added only where its index can be enabled (`Reachable.register_refused`).
-/

namespace TokenBridge

/-- Votes for an arrival, and its release. -/
def Command.isInbound : Command → Bool
  | .attest .. | .deliver .. | .release .. => true
  | _ => false

theorem Command.isInbound_of_vote? {c : Command} {v : Vote} (h : c.vote? = some v) :
    c.isInbound = true := by
  obtain rfl | ⟨att, -, rfl⟩ := Command.eq_of_vote? h
  · rfl
  · rfl

namespace Endpoint

variable {e next : Endpoint} {c : Command} {answer : Except Error Answer}

/-- A registration that fails was refused before it wrote anything. -/
theorem Reachable.register_refused (h : Reachable e) {address : Address} {err : Error}
    (herr : (perform (.registerTransceiver address) e).1 = .error err) :
    address.isZero = true ∨
      e.transceivers.at? address = none ∧ e.transceivers.slots.length = 128 := by
  cases hreg : e.transceivers.register address with
  | ok found =>
    have hok : (perform (.registerTransceiver address) e).1 = .ok (.index found.1) := by
      simp only [perform, Action.as, registerTransceiver, commit, hreg]
      rfl
    rw [hok] at herr
    cases herr
  | error err => exact h.regular.transceivers.register_eq_error hreg

/-- Only votes and releases of arrivals leave something behind when they fail. -/
theorem Effect.eq_of_error {err : Error} (h : Effect e c (.error err) next) (hr : Regular e)
    (hc : c.isInbound = false) : next = e := by
  have vote {v : Vote} (hv : c.vote? = some v) : next = e := by
    rw [Command.isInbound_of_vote? hv] at hc
    cases hc
  cases h with
  | refused => rfl
  | departedUnpeered _ _ hd _ _ _ hnone =>
    -- the peer of a stored departure is registered
    obtain ⟨peer, hp⟩ := (hr.charted _ _ hd).peer
    rw [hp] at hnone
    cases hnone
  | unsettled _ hv => exact vote hv
  | lost _ hv => exact vote hv
  | releaseLost => cases hc

/-- **A command that fails changes nothing**, in any component of the endpoint, unless it is about
an arrival. There was nothing to take back, either: a transceiver is not registered for want of an
address or of a slot, and never after it got one. -/
theorem failed_command_keeps_state (h : Reachable e) (hc : c.isInbound = false) {err : Error}
    (herr : (perform c e).1 = .error err) : (perform c e).2 = e ∧
      ∀ address, c = .registerTransceiver address → address.isZero = true ∨
        e.transceivers.at? address = none ∧ e.transceivers.slots.length = 128 := by
  have heff := perform_effect e c
  rw [herr] at heff
  refine ⟨heff.eq_of_error h.regular hc, ?_⟩
  rintro address rfl
  exact h.register_refused herr

/-- A release of a queued departure that comes too early. -/
theorem failed_command_keeps_state_sample :
    let order : TransferOrder :=
      ⟨20000000000000, ⟨2⟩, Sample.address 3, Sample.address 1, true, []⟩
    let e := (Sample.endpoint.run (Sample.opening 1000 ++ [.transfer order 150])).2
    let c := Command.releaseDeparture 0 1 200
    Reachable e ∧ (e.departures.get? 0).map Departure.queued = some true ∧
      c.isInbound = false ∧ (perform c e).1 = .error (.releaseNotReady 86550) ∧
      (perform c e).2 = e := by
  intro order e c
  have he : Reachable e := (Reachable.start Sample.establish_eq).run _
  have herr : (perform c e).1 = .error (.releaseNotReady 86550) := by decide +kernel
  exact ⟨he, by decide +kernel, rfl, herr, (failed_command_keeps_state he rfl herr).1⟩

end Endpoint

end TokenBridge
