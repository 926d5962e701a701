import TokenBridge.Proofs.Change

/-!
# What becomes of arrivals

`Arrival.Evolves` is the order in which an arrival moves: its message and amount stay, its
votes only become more, and its status moves forward. `Handles` lists what a command does
to the one arrival that it is about, and `Effect.arrivals` says that a command handles one
arrival or leaves all of them alone. Only a handling pays out.
-/

namespace TokenBridge

/-- The ways of a status: to the release at once, or by way of one waiting time. -/
inductive ReleaseStatus.LeadsTo : ReleaseStatus → ReleaseStatus → Prop where
  | refl (s : ReleaseStatus) : LeadsTo s s
  | schedule (time : UInt64) : LeadsTo .notApproved (.releaseAfter time)
  | approve : LeadsTo .notApproved .released
  | release (time : UInt64) : LeadsTo (.releaseAfter time) .released

theorem ReleaseStatus.LeadsTo.trans {r s t : ReleaseStatus} (h : LeadsTo r s) (h' : LeadsTo s t) :
    LeadsTo r t := by
  cases h with
  | refl => exact h'
  | schedule time =>
    cases h' with
    | refl => exact .schedule time
    | release => exact .approve
  | approve =>
    cases h' with
    | refl => exact .approve
  | release time =>
    cases h' with
    | refl => exact .release time

theorem ReleaseStatus.LeadsTo.ne_notApproved {s t : ReleaseStatus} (h : LeadsTo s t)
    (hs : s ≠ .notApproved) : t ≠ .notApproved := by
  cases h with
  | refl => exact hs
  | schedule => exact absurd rfl hs
  | approve => exact absurd rfl hs
  | release => exact nofun

/-- A waiting time is set once. -/
theorem ReleaseStatus.LeadsTo.eq_releaseAfter {s : ReleaseStatus} {time : UInt64}
    (h : LeadsTo s (.releaseAfter time)) (hs : s ≠ .notApproved) : s = .releaseAfter time := by
  cases h with
  | refl => rfl
  | schedule => exact absurd rfl hs

namespace Arrival

structure Evolves (a b : Arrival) : Prop where
  message : b.message = a.message
  amount : b.amount = a.amount
  votes : ∀ i, a.votes.has i = true → b.votes.has i = true
  status : a.status.LeadsTo b.status

theorem Evolves.refl (a : Arrival) : Evolves a a := ⟨rfl, rfl, fun _ h => h, .refl _⟩

theorem Evolves.trans {a b c : Arrival} (h : Evolves a b) (h' : Evolves b c) : Evolves a c :=
  ⟨h'.message.trans h.message, h'.amount.trans h.amount, fun i hi => h'.votes i (h.votes i hi),
    h.status.trans h'.status⟩

theorem Evolves.withStatus {a b : Arrival} (h : Evolves a b) {status : ReleaseStatus}
    (hs : b.status.LeadsTo status) : Evolves a { b with status } :=
  ⟨h.message, h.amount, h.votes, h.status.trans hs⟩

theorem evolves_of_vote {a b : Arrival} {index : UInt8} {isNew : Bool}
    (h : a.vote index = .ok (isNew, b)) : Evolves a b := by
  obtain ⟨-, hvotes, heq⟩ := vote_eq_ok h
  refine ⟨by rw [heq], by rw [heq], fun i hi => ?_, ?_⟩
  · rw [hvotes i, hi, Bool.or_true]
  · rw [heq]
    exact .refl _

end Arrival

namespace Endpoint

inductive Handles (e : Endpoint) (c : Command) : Option Payout → Arrival → Arrival → Prop where
  | vote {v : Vote} {amount : Amount} {isNew : Bool} {a b : Arrival} :
      c.vote? = some v → e.Casts v amount isNew a b → Handles e c none a b
  | schedule {v : Vote} {amount : Amount} {isNew : Bool} {a b : Arrival} {time : UInt64} :
      c.vote? = some v → e.Casts v amount isNew a b → e.Settles b →
      Handles e c none a { b with status := .releaseAfter time }
  | pay {v : Vote} {amount : Amount} {isNew : Bool} {a b : Arrival} {payout : Payout} :
      c.vote? = some v → e.Casts v amount isNew a b → e.Settles b →
      e.payoutOf v.message = .ok payout →
      Handles e c (some payout) a { b with status := .released }
  | lose {v : Vote} {amount : Amount} {isNew : Bool} {a b : Arrival} {err : Error} :
      c.vote? = some v → e.Casts v amount isNew a b → e.Settles b →
      e.payoutOf v.message = .error err → Handles e c none a { b with status := .released }
  | release {chain : ChainId} {id : MessageId} {now time : UInt64} {a : Arrival}
      {payout : Payout} :
      c = .release chain id now → e.arrivals.get? (chain, id) = some a →
      a.status = .releaseAfter time → time ≤ now → e.payoutOf a.message = .ok payout →
      Handles e c (some payout) a { a with status := .released }
  | loseRelease {chain : ChainId} {id : MessageId} {now time : UInt64} {a : Arrival}
      {err : Error} :
      c = .release chain id now → e.arrivals.get? (chain, id) = some a →
      a.status = .releaseAfter time → time ≤ now →
      (e.payoutOf a.message = .error err ∨ e.peers.get? chain = none) →
      Handles e c none a { a with status := .released }

variable {e next : Endpoint} {c : Command} {answer : Except Error Answer}

/-- A command handles one arrival, or leaves all of them as they are and pays out nothing. -/
theorem Effect.arrivals (h : Effect e c answer next) :
    (next.arrivals = e.arrivals ∧ payoutOfAnswer answer = none) ∨
      ∃ a b, Handles e c (payoutOfAnswer answer) a b ∧ next.arrivals = e.arrivals.put b := by
  cases h with
  | sent _ _ hc => exact .inl ⟨(credited_of_creditInbound hc).arrivals, rfl⟩
  | departedCharged _ _ _ _ _ hc => exact .inl ⟨(credited_of_creditInbound hc).arrivals, rfl⟩
  | voted hv hcast => exact .inr ⟨_, _, .vote hv hcast, rfl⟩
  | unsettled _ hv hcast => exact .inr ⟨_, _, .vote hv hcast, rfl⟩
  | scheduled hv hcast hs => exact .inr ⟨_, _, .schedule hv hcast hs, rfl⟩
  | paid hv hcast hs _ _ hpay =>
    exact .inr ⟨_, _, .pay hv hcast hs hpay, by rw [creditOutbound_arrivals]; rfl⟩
  | lost _ hv hcast hs _ _ hpay => exact .inr ⟨_, _, .lose hv hcast hs hpay, rfl⟩
  | released ha hs hle hpay =>
    exact .inr ⟨_, _, .release rfl ha hs hle hpay, by rw [creditOutbound_arrivals]; rfl⟩
  | releaseLost _ ha hs hle hfail => exact .inr ⟨_, _, .loseRelease rfl ha hs hle hfail, rfl⟩
  | _ => exact .inl ⟨rfl, rfl⟩

theorem Handles.evolves {p : Option Payout} {a b : Arrival} (h : Handles e c p a b) :
    a.Evolves b := by
  have approved {b : Arrival} (hs : e.Settles b) (status : ReleaseStatus)
      (hle : ReleaseStatus.LeadsTo .notApproved status) : b.status.LeadsTo status := by
    rw [hs.2]
    exact hle
  cases h with
  | vote _ hcast => exact Arrival.evolves_of_vote hcast.vote
  | schedule _ hcast hs =>
    exact (Arrival.evolves_of_vote hcast.vote).withStatus (approved hs _ (.schedule _))
  | pay _ hcast hs =>
    exact (Arrival.evolves_of_vote hcast.vote).withStatus (approved hs _ .approve)
  | lose _ hcast hs =>
    exact (Arrival.evolves_of_vote hcast.vote).withStatus (approved hs _ .approve)
  | release _ _ hs =>
    exact (Arrival.Evolves.refl a).withStatus (by rw [hs]; exact .release _)
  | loseRelease _ _ hs =>
    exact (Arrival.Evolves.refl a).withStatus (by rw [hs]; exact .release _)

/-- Every arrival stands under the key of its message. -/
def ArrivalsKeyed (as : Arrivals) : Prop := ∀ k a, as.get? k = some a → Arrivals.key a.message = k

/-- A handled arrival is the stored one or a new one. -/
theorem Handles.entry {p : Option Payout} {a b : Arrival} (h : Handles e c p a b)
    (hk : ArrivalsKeyed e.arrivals) :
    e.arrivals.get? (Arrivals.key a.message) = some a ∨
      e.arrivals.get? (Arrivals.key a.message) = none ∧
        ∃ v amount, c.vote? = some v ∧ e.Accepts v amount ∧ a = .new v.message amount := by
  have ofCast {v : Vote} {amount : Amount} {isNew : Bool} {a b : Arrival} (hv : c.vote? = some v)
      (hcast : e.Casts v amount isNew a b) : e.arrivals.get? (Arrivals.key a.message) = some a ∨
      e.arrivals.get? (Arrivals.key a.message) = none ∧
        ∃ v amount, c.vote? = some v ∧ e.Accepts v amount ∧ a = .new v.message amount := by
    obtain ⟨hmsg, hget | ⟨hget, hnew⟩⟩ := Arrivals.entryFor_eq_ok hcast.entry
    · exact .inl (by rw [hmsg, hget])
    · exact .inr ⟨by rw [hmsg, hget], v, amount, hv, hcast.accepts, hnew⟩
  cases h with
  | vote hv hcast => exact ofCast hv hcast
  | schedule hv hcast => exact ofCast hv hcast
  | pay hv hcast => exact ofCast hv hcast
  | lose hv hcast => exact ofCast hv hcast
  | release _ ha => exact .inl (by rw [hk _ _ ha, ha])
  | loseRelease _ ha => exact .inl (by rw [hk _ _ ha, ha])

/-- What is under a key after a command was there before, or was left there by a handling. -/
theorem Effect.arrival_at (h : Effect e c answer next) (k : ChainId × MessageId) :
    next.arrivals.get? k = e.arrivals.get? k ∨
      ∃ a b, Handles e c (payoutOfAnswer answer) a b ∧ Arrivals.key b.message = k ∧
        next.arrivals.get? k = some b := by
  obtain ⟨heq, -⟩ | ⟨a, b, hb, heq⟩ := h.arrivals
  · exact .inl (by rw [heq])
  · rw [heq, Arrivals.put, Table.get?_set]
    split
    · exact .inr ⟨a, b, hb, ‹_›, rfl⟩
    · exact .inl rfl

theorem Effect.arrivalsKeyed (h : Effect e c answer next) (hk : ArrivalsKeyed e.arrivals) :
    ArrivalsKeyed next.arrivals := by
  intro k a ha
  obtain heq | ⟨_, b, -, hkey, heq⟩ := h.arrival_at k
  · rw [heq] at ha
    exact hk k a ha
  · rw [heq] at ha
    cases ha
    exact hkey

/-- What is stored under a key stays there and evolves. -/
theorem Effect.arrival_evolves (h : Effect e c answer next) (hk : ArrivalsKeyed e.arrivals)
    {k : ChainId × MessageId} {a : Arrival} (ha : e.arrivals.get? k = some a) :
    ∃ b, next.arrivals.get? k = some b ∧ a.Evolves b := by
  obtain heq | ⟨a', b, hb, hkey, heq⟩ := h.arrival_at k
  · exact ⟨a, by rw [heq, ha], .refl a⟩
  · refine ⟨b, heq, ?_⟩
    rw [hb.evolves.message] at hkey
    obtain hstored | ⟨hnone, -⟩ := hb.entry hk
    · rw [hkey, ha] at hstored
      cases hstored
      exact hb.evolves
    · rw [hkey, ha] at hnone
      cases hnone

end Endpoint

end TokenBridge
