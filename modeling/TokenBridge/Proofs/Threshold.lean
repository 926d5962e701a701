import TokenBridge.Proofs.Regular

/-!
# Thresholds that can be reached

Three commands move the threshold, each by a rule of its own: the first registration raises it from
zero, a deregistration lowers it to what is left, and it can be set to anything in between. Two of
them change who is enabled as well. Whatever their order, the threshold is zero just when nobody is
enabled, and never above the number of those who are (`Effect.attainable`). So nothing is approved
while nobody is enabled, and otherwise a message that all `active` transceivers vote for always is
(`threshold_attainable`).
-/

namespace TokenBridge

namespace Transceivers

variable {ts : Transceivers}

/-- The transceivers whose votes count. -/
def active (ts : Transceivers) : List Transceiver := ts.slots.filter fun t => ts.isEnabled t.index

theorem Orderly.map_index (hts : ts.Orderly) :
    ts.slots.map (·.index.toNat) = List.range ts.slots.length := by
  refine List.ext_getElem? fun i => ?_
  rw [List.getElem?_map]
  by_cases hi : i < ts.slots.length
  · rw [List.getElem?_eq_getElem hi, List.getElem?_range hi]
    exact congrArg some (hts.index i _ (List.getElem?_eq_getElem hi))
  · rw [List.getElem?_eq_none (by omega), List.getElem?_eq_none (by simpa using hi)]
    rfl

/-- Votes are counted as bits, and each bit that counts is that of an active transceiver. -/
theorem Orderly.size_inter_enabled (hts : ts.Orderly) (votes : IndexSet) :
    (votes.inter ts.enabled).size = (ts.active.filter fun t => votes.has t.index.toNat).length := by
  have hcapacity := hts.capacity
  obtain ⟨k, hk⟩ : ∃ k, 128 = ts.slots.length + k := ⟨128 - ts.slots.length, by omega⟩
  -- no bit beyond the slots is set
  have hrest :
      ((List.range k).map (ts.slots.length + ·)).countP (votes.inter ts.enabled).has = 0 := by
    refine List.countP_eq_zero.2 fun i hi hhas => ?_
    obtain ⟨j, -, rfl⟩ := List.mem_map.1 hi
    rw [IndexSet.has_inter, Bool.and_eq_true] at hhas
    have := hts.enabled _ hhas.2
    omega
  calc (votes.inter ts.enabled).size
      = (List.range ts.slots.length).countP (votes.inter ts.enabled).has := by
        rw [IndexSet.size, IndexSet.toList, ← List.countP_eq_length_filter, hk, List.range_add,
          List.countP_append, hrest, Nat.add_zero]
    _ = ts.slots.countP fun t => (votes.inter ts.enabled).has t.index.toNat := by
        rw [← hts.map_index, List.countP_map]
        rfl
    _ = ts.slots.countP fun t => votes.has t.index.toNat && ts.isEnabled t.index := by
        refine List.countP_congr fun t ht => ?_
        obtain ⟨i, hi⟩ := List.mem_iff_getElem?.1 ht
        have hlt : t.index.toNat < ts.slots.length := by
          rw [hts.index i t hi]
          exact (List.getElem?_eq_some_iff.1 hi).1
        rw [IndexSet.has_inter, isEnabled, decide_eq_true hlt, Bool.true_and]
    _ = (ts.active.filter fun t => votes.has t.index.toNat).length := by
        rw [active, List.filter_filter, List.countP_eq_length_filter]

theorem toNat_enabledCount (ts : Transceivers) : ts.enabledCount.toNat = ts.enabled.size := by
  rw [enabledCount, IndexSet.toNat_sharedCount, IndexSet.inter_self]

theorem Orderly.toNat_enabledCount (hts : ts.Orderly) :
    ts.enabledCount.toNat = ts.active.length := by
  rw [enabledCount, IndexSet.toNat_sharedCount, hts.size_inter_enabled]
  refine congrArg List.length (List.filter_eq_self.2 fun t ht => ?_)
  have hen := (List.mem_filter.1 ht).2
  rw [isEnabled, Bool.and_eq_true] at hen
  exact hen.2

end Transceivers

namespace Endpoint

variable {e next : Endpoint} {c : Command} {answer : Except Error Answer}

/-- The threshold can be reached by those who are enabled, and is zero only if nobody is. -/
structure Attainable (e : Endpoint) : Prop where
  le : e.threshold.toNat ≤ e.transceivers.enabled.size
  zero : e.threshold = 0 → e.transceivers.enabled.size = 0

/-- What a command does to the threshold, and to who is enabled. -/
theorem Effect.threshold_cases (h : Effect e c answer next) :
    (next.threshold = e.threshold ∧ next.transceivers.enabled = e.transceivers.enabled) ∨
    (∃ index : UInt8, next.threshold = (if e.threshold = 0 then 1 else e.threshold) ∧
      e.transceivers.enabled.set index true = .ok next.transceivers.enabled) ∨
    (∃ index : UInt8, next.threshold = min e.threshold next.transceivers.enabledCount ∧
      e.transceivers.enabled.has index.toNat = true ∧
      e.transceivers.enabled.set index false = .ok next.transceivers.enabled) ∨
    (next.threshold ≠ 0 ∧ next.threshold ≤ e.transceivers.enabledCount ∧
      next.transceivers = e.transceivers) := by
  cases h with
  | @transceiverRegistered _ index _ hreg =>
    obtain ⟨-, _, hset, ⟨_, -, -, rfl⟩ | ⟨-, -, -, rfl⟩⟩ := Transceivers.register_eq_ok.1 hreg <;>
      exact .inr (.inl ⟨index, rfl, hset⟩)
  | @transceiverDeregistered index _ hreg =>
    obtain ⟨hen, _, hset, rfl⟩ := Transceivers.deregister_eq_ok.1 hreg
    rw [Transceivers.isEnabled, Bool.and_eq_true] at hen
    exact .inr (.inr (.inl ⟨index, rfl, hen.2, hset⟩))
  | transceiverPeerSet hset =>
    obtain ⟨-, -, _, -, ⟨-, rfl⟩ | ⟨-, rfl⟩⟩ := Transceivers.setPeer_eq_ok.1 hset <;>
      exact .inl ⟨rfl, rfl⟩
  | thresholdSet hpos hle => exact .inr (.inr (.inr ⟨hpos, hle, rfl⟩))
  | sent _ _ hc =>
    have hcr := credited_of_creditInbound hc
    exact .inl ⟨hcr.threshold, congrArg Transceivers.enabled hcr.transceivers⟩
  | departedCharged _ _ _ _ _ hc =>
    have hcr := credited_of_creditInbound hc
    exact .inl ⟨hcr.threshold, congrArg Transceivers.enabled hcr.transceivers⟩
  | paid =>
    rw [creditOutbound_threshold, creditOutbound_transceivers]
    exact .inl ⟨rfl, rfl⟩
  | released =>
    rw [creditOutbound_threshold, creditOutbound_transceivers]
    exact .inl ⟨rfl, rfl⟩
  | _ => exact .inl ⟨rfl, rfl⟩

theorem Effect.attainable (h : Effect e c answer next) (he : e.Attainable) : next.Attainable := by
  obtain ⟨hle, hzero⟩ := he
  obtain ⟨hsame, henabled⟩ | ⟨index, hraised, hset⟩ | ⟨index, hlowered, hhas, hset⟩ |
    ⟨hpos, hmost, henabled⟩ := h.threshold_cases
  · constructor
    · rwa [hsame, henabled]
    · rwa [hsame, henabled]
  · -- one more is enabled, if it was not before
    have hmore : e.transceivers.enabled.size ≤ next.transceivers.enabled.size := by
      refine IndexSet.size_le_of_subset fun i hi => ?_
      rw [IndexSet.has_set hset, hi]
      exact ite_self true
    have hsome : 0 < next.transceivers.enabled.size :=
      IndexSet.size_pos_iff.2 ⟨index.toNat, by rw [IndexSet.has_set hset, if_pos rfl]⟩
    constructor
    · rw [hraised]
      split
      · exact hsome
      · exact Nat.le_trans hle hmore
    · intro hnone
      rw [hraised] at hnone
      split at hnone
      · cases hnone
      · contradiction
  · constructor
    · rw [hlowered, ← Transceivers.toNat_enabledCount]
      exact UInt8.le_iff_toNat_le.1 Std.min_le_right
    · intro hnone
      rw [hlowered] at hnone
      rcases Std.min_eq_or (a := e.threshold) (b := next.transceivers.enabledCount) with hmin | hmin
      · -- the threshold was not zero, as the transceiver was enabled
        have hsome : 0 < e.transceivers.enabled.size := IndexSet.size_pos_iff.2 ⟨_, hhas⟩
        have hnobody := hzero (hmin.symm.trans hnone)
        omega
      · rw [← Transceivers.toNat_enabledCount, hmin.symm.trans hnone]
        rfl
  · constructor
    · rw [henabled, ← Transceivers.toNat_enabledCount]
      exact UInt8.le_iff_toNat_le.1 hmost
    · exact fun hnone => absurd hnone hpos

theorem Reachable.attainable (h : Reachable e) : e.Attainable := by
  induction h with
  | start h =>
    rw [establish_eq_ok h]
    constructor
    · exact Nat.zero_le _
    · exact fun _ => IndexSet.size_empty
  | next c _ ih => exact (perform_effect _ c).attainable ih

/-- Votes count if they are by active transceivers. -/
theorem isApproved_iff (hts : e.transceivers.Orderly) (a : Arrival) :
    a.isApproved e.transceivers.enabled e.threshold = true ↔ e.threshold ≠ 0 ∧
      e.threshold.toNat ≤
        (e.transceivers.active.filter fun t => a.votes.has t.index.toNat).length := by
  rw [Arrival.isApproved, Bool.and_eq_true, decide_eq_true_eq, decide_eq_true_eq,
    UInt8.le_iff_toNat_le, Arrival.voteCount, IndexSet.toNat_sharedCount, hts.size_inter_enabled,
    UInt8.pos_iff_ne_zero]

/-- **The threshold can always be reached.** It is at most the number of active transceivers, and
zero just when there are none. Without active transceivers no message is approved; otherwise every
message is that all of them have voted for. -/
theorem threshold_attainable (h : Reachable e) :
    let active := e.transceivers.active
    e.transceivers.enabledCount.toNat = active.length ∧ e.threshold.toNat ≤ active.length ∧
    (e.threshold = 0 ↔ active = []) ∧
    (active = [] → (∀ a : Arrival, a.isApproved e.transceivers.enabled e.threshold = false) ∧
      ∀ chain id, e.isApproved chain id = false) ∧
    (active ≠ [] → ∀ a : Arrival, (∀ t ∈ active, a.votes.has t.index.toNat = true) →
      a.isApproved e.transceivers.enabled e.threshold = true) := by
  intro active
  have hts := h.regular.transceivers
  have hcount : e.transceivers.enabledCount.toNat = active.length := hts.toNat_enabledCount
  have hsize : e.transceivers.enabled.size = active.length := by
    rw [← hcount, Transceivers.toNat_enabledCount]
  obtain ⟨hle, hzero⟩ := h.attainable
  rw [hsize] at hle hzero
  have hiff : e.threshold = 0 ↔ active = [] := by
    refine ⟨fun h0 => List.eq_nil_of_length_eq_zero (hzero h0), fun hnil => ?_⟩
    rw [hnil] at hle
    exact UInt8.toNat_inj.1 (Nat.le_zero.1 hle)
  refine ⟨hcount, hle, hiff, fun hnil => ?_, fun hsome a hvotes => ?_⟩
  · have hnone : ∀ a : Arrival, a.isApproved e.transceivers.enabled e.threshold = false :=
      fun a => Bool.eq_false_iff.2 fun happ => ((isApproved_iff hts a).1 happ).1 (hiff.2 hnil)
    refine ⟨hnone, fun chain id => ?_⟩
    unfold isApproved
    split
    · exact hnone _
    · rfl
  · refine (isApproved_iff hts a).2 ⟨mt hiff.1 hsome, ?_⟩
    rwa [List.filter_eq_self.2 hvotes]

/-- Two votes are needed of the two transceivers. Once both are deregistered the message that both
had voted for is not approved, and with one of them back it is again. -/
theorem threshold_attainable_sample :
    let m := Sample.message 7 2000
    let both := Sample.opening 1000 ++ Sample.votes m 200
    let gone := both ++ [.deregisterTransceiver 1, .deregisterTransceiver 0]
    let e := (Sample.endpoint.run both).2
    let f := (Sample.endpoint.run gone).2
    let g := (Sample.endpoint.run (gone ++ [.registerTransceiver (Sample.address 11)])).2
    Reachable e ∧ Reachable f ∧ Reachable g ∧
      e.threshold = 2 ∧ e.transceivers.active.length = 2 ∧
      (∃ a, e.arrivals.get? (Arrivals.key m) = some a ∧
        a.isApproved e.transceivers.enabled e.threshold = true) ∧
      f.threshold = 0 ∧ f.transceivers.active = [] ∧ f.isApproved m.sourceChain m.id = false ∧
      g.threshold = 1 ∧ g.transceivers.active.length = 1 ∧
      g.isApproved m.sourceChain m.id = true := by
  intro m both gone e f g
  have he : Reachable e := (Reachable.start Sample.establish_eq).run _
  have hf : Reachable f := (Reachable.start Sample.establish_eq).run _
  have hg : Reachable g := (Reachable.start Sample.establish_eq).run _
  have hvoted :
      e.arrivals.get? (Arrivals.key m) = some ⟨m, ⟨2000, 8⟩, ⟨3⟩, .releaseAfter 86600⟩ := by
    decide +kernel
  have htwo : e.transceivers.active.length = 2 := by decide +kernel
  have hnone : f.transceivers.active = [] := by decide +kernel
  refine ⟨he, hf, hg, by decide +kernel, htwo, ⟨_, hvoted, ?_⟩,
    (threshold_attainable hf).2.2.1.2 hnone, hnone,
    ((threshold_attainable hf).2.2.2.1 hnone).2 _ _, by decide +kernel, by decide +kernel,
    by decide +kernel⟩
  refine (threshold_attainable he).2.2.2.2 (fun hnil => ?_) _ ?_
  · rw [hnil] at htwo
    cases htwo
  · decide +kernel

end Endpoint

end TokenBridge
