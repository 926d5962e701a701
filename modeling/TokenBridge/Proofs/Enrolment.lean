import Mathlib.Data.List.Basic
import Mathlib.Data.List.Nodup
import TokenBridge.Proofs.History
import TokenBridge.Proofs.Outcome

/-!
# Who is behind an index

Votes and releases are kept by index, so an index has to stand for one transceiver for ever. What
the three calls that change the transceivers can do is said once, by an equivalence for each. From
these it follows that the transceivers stay `Orderly`: each stands in the slot of its index, under
an address of its own. They also `Keep` what is in their slots, whatever is called later
(`keeps_after`), and that makes an index and a peer permanent (`identity_permanent`).
-/

namespace TokenBridge

namespace Transceivers

variable {ts next last : Transceivers} {t : Transceiver} {index : UInt8} {chain : ChainId}
  {address : Address}

/-! ## The calls -/

/-- A registration enables the transceiver that it finds, or else adds one after all others. -/
theorem register_eq_ok : ts.register address = .ok (index, next) ↔
    address.isZero = false ∧ ∃ enabled, ts.enabled.set index true = .ok enabled ∧
      ((∃ t, ts.at? address = some t ∧ t.index = index ∧ next = { ts with enabled }) ∨
        (ts.at? address = .none ∧ ts.slots.length < 128 ∧ index = .ofNat ts.slots.length ∧
          next = ⟨ts.slots ++ [⟨index, address, .empty⟩], enabled⟩)) := by
  have hcapacity : IndexSet.capacity.toNat = 128 := rfl
  unfold register
  by_cases hzero : address.isZero = true
  · simp [hzero]
  rw [if_neg hzero]
  cases ts.at? address with
  | some known =>
    simp only [bind_eq_ok, pure_eq_ok, Prod.mk.injEq]
    constructor
    · rintro ⟨enabled, hset, rfl, rfl⟩
      exact ⟨by simpa using hzero, enabled, hset, .inl ⟨known, rfl, rfl, rfl⟩⟩
    · rintro ⟨-, enabled, hset, ⟨_, hknown, rfl, rfl⟩ | ⟨hnone, -⟩⟩
      · cases hknown
        exact ⟨enabled, hset, rfl, rfl⟩
      · cases hnone
  | none =>
    simp only [hcapacity]
    split
    · rename_i hfull
      constructor
      · exact nofun
      · rintro ⟨-, _, -, ⟨_, hknown, -⟩ | ⟨-, hroom, -⟩⟩
        · cases hknown
        · omega
    · rename_i hroom
      simp only [bind_eq_ok, pure_eq_ok, Prod.mk.injEq]
      constructor
      · rintro ⟨enabled, hset, rfl, rfl⟩
        exact ⟨by simpa using hzero, enabled, hset, .inr ⟨trivial, by omega, rfl, rfl⟩⟩
      · rintro ⟨-, enabled, hset, ⟨_, hknown, -⟩ | ⟨-, -, rfl, rfl⟩⟩
        · cases hknown
        · exact ⟨enabled, hset, rfl, rfl⟩

theorem deregister_eq_ok : ts.deregister index = .ok next ↔ ts.isEnabled index = true ∧
    ∃ enabled, ts.enabled.set index false = .ok enabled ∧ next = { ts with enabled } := by
  unfold deregister
  by_cases h : ts.isEnabled index = true
  · simp only [h, ↓reduceIte, bind_eq_ok, pure_eq_ok, true_and]
    exact exists_congr fun _ => and_congr_right fun _ => eq_comm
  · simp [h]

/-- A transceiver gets a peer for a chain once, and may only be given the same one again. -/
theorem setPeer_eq_ok : ts.setPeer index chain address = .ok next ↔
    ¬ (chain.number = 0 ∨ address.isZero = true) ∧ ts.isEnabled index = true ∧
      ∃ t, ts.get? index = some t ∧
        ((t.peers.get? chain = some address ∧ next = ts) ∨
          (t.peers.get? chain = .none ∧ next = { ts with
            slots := ts.slots.set index.toNat { t with peers := t.peers.set chain address } })) := by
  unfold setPeer
  by_cases hbad : chain.number = 0 ∨ address.isZero = true
  · simp [hbad]
  simp only [hbad, ↓reduceIte, bind_eq_ok, requireEnabled_eq_ok, not_false_eq_true, true_and]
  constructor
  · rintro ⟨t, ⟨henabled, hget⟩, h⟩
    refine ⟨henabled, t, hget, ?_⟩
    split at h
    · rename_i known hknown
      split at h
      · rename_i hsame
        cases h
        exact .inl ⟨by rw [hknown, hsame], rfl⟩
      · cases h
    · rename_i hnone
      cases h
      exact .inr ⟨hnone, rfl⟩
  · rintro ⟨henabled, t, hget, ⟨hknown, rfl⟩ | ⟨hnone, rfl⟩⟩
    · refine ⟨t, ⟨henabled, hget⟩, ?_⟩
      rw [hknown]
      exact if_pos rfl
    · refine ⟨t, ⟨henabled, hget⟩, ?_⟩
      rw [hnone]
      rfl

theorem at?_eq_some (h : ts.at? address = some t) :
    t.address = address ∧ ∃ i : Nat, ts.slots[i]? = some t := by
  refine ⟨?_, List.mem_iff_getElem?.1 (List.mem_of_find?_eq_some h)⟩
  simpa using List.find?_some h

theorem at?_eq_none (h : ts.at? address = .none) : ∀ t ∈ ts.slots, t.address ≠ address := by
  intro t ht
  simpa using List.find?_eq_none.1 h t ht

/-! ## Order -/

/-- Each transceiver stands in the slot of its index, under an address of its own. -/
structure Orderly (ts : Transceivers) : Prop where
  index : ∀ (i : Nat) t, ts.slots[i]? = some t → t.index.toNat = i
  address : ∀ t ∈ ts.slots, t.address.isZero = false
  distinct : (ts.slots.map Transceiver.address).Nodup
  capacity : ts.slots.length ≤ 128
  /-- Only registered transceivers are enabled. -/
  enabled : ∀ i, ts.enabled.has i = true → i < ts.slots.length

theorem orderly_none : none.Orderly where
  index i t ht := by cases ht
  address t ht := by cases ht
  distinct := List.nodup_nil
  capacity := Nat.zero_le _
  enabled i hi := by simp [none] at hi

theorem Orderly.register (hts : ts.Orderly) (h : ts.register address = .ok (index, next)) :
    next.Orderly := by
  obtain ⟨hzero, enabled, hset, ⟨t, hat, rfl, rfl⟩ | ⟨hat, hroom, rfl, rfl⟩⟩ := register_eq_ok.1 h
  · obtain ⟨-, i, hi⟩ := at?_eq_some hat
    refine ⟨hts.index, hts.address, hts.distinct, hts.capacity, fun j hj => ?_⟩
    rw [IndexSet.has_set hset, hts.index i t hi] at hj
    split at hj
    · rename_i heq
      rw [heq]
      exact (List.getElem?_eq_some_iff.1 hi).1
    · exact hts.enabled j hj
  · have hindex : (UInt8.ofNat ts.slots.length).toNat = ts.slots.length := by
      rw [UInt8.toNat_ofNat', Nat.mod_eq_of_lt (by omega)]
    constructor
    · intro i t ht
      rw [List.getElem?_append] at ht
      split at ht
      · exact hts.index i t ht
      · rename_i hge
        obtain ⟨hi, rfl⟩ := List.getElem?_eq_some_iff.1 ht
        rw [List.length_singleton] at hi
        rw [List.getElem_singleton, hindex]
        omega
    · intro t ht
      rcases List.mem_append.1 ht with ht | ht
      · exact hts.address t ht
      · rw [List.mem_singleton.1 ht]
        exact hzero
    · rw [List.map_append, List.map_singleton]
      refine hts.distinct.append (List.nodup_singleton _) (List.disjoint_singleton.2 fun hmem => ?_)
      obtain ⟨t, ht, haddress⟩ := List.mem_map.1 hmem
      exact at?_eq_none hat t ht haddress
    · rw [List.length_append, List.length_singleton]
      omega
    · intro i hi
      rw [IndexSet.has_set hset, hindex] at hi
      rw [List.length_append, List.length_singleton]
      split at hi
      · omega
      · have := hts.enabled i hi
        omega

theorem Orderly.deregister (hts : ts.Orderly) (h : ts.deregister index = .ok next) :
    next.Orderly := by
  obtain ⟨-, enabled, hset, rfl⟩ := deregister_eq_ok.1 h
  refine ⟨hts.index, hts.address, hts.distinct, hts.capacity, fun i hi => ?_⟩
  rw [IndexSet.has_set hset] at hi
  split at hi
  · cases hi
  · exact hts.enabled i hi

theorem Orderly.setPeer (hts : ts.Orderly) (h : ts.setPeer index chain address = .ok next) :
    next.Orderly := by
  obtain ⟨-, -, t, hget, ⟨-, rfl⟩ | ⟨-, rfl⟩⟩ := setPeer_eq_ok.1 h
  · exact hts
  have hslot : ts.slots[index.toNat]? = some t := hget
  obtain ⟨hlt, heq⟩ := List.getElem?_eq_some_iff.1 hslot
  constructor
  · intro i u hu
    rw [List.getElem?_set] at hu
    split at hu
    · rename_i hi
      cases hu
      rw [← hi]
      exact hts.index _ t hslot
    · exact hts.index i u hu
  · intro u hu
    rcases List.mem_or_eq_of_mem_set hu with hu | rfl
    · exact hts.address u hu
    · exact hts.address t (List.mem_of_getElem? hslot)
  · -- the addresses are the same as before
    have hlt' : index.toNat < (ts.slots.map Transceiver.address).length := by
      rwa [List.length_map]
    have haddress : t.address = (ts.slots.map Transceiver.address)[index.toNat] := by
      rw [List.getElem_map, heq]
    rw [List.map_set]
    show ((ts.slots.map Transceiver.address).set index.toNat t.address).Nodup
    rw [haddress, List.set_getElem_self]
    exact hts.distinct
  · rw [List.length_set]
    exact hts.capacity
  · intro i hi
    rw [List.length_set]
    exact hts.enabled i hi

/-- A registration is refused for its address, or for want of a slot, and never when the slot is
enabled. -/
theorem Orderly.register_eq_error (hts : ts.Orderly) {err : Error}
    (h : ts.register address = .error err) :
    address.isZero = true ∨ ts.at? address = .none ∧ ts.slots.length = 128 := by
  have hcapacity := hts.capacity
  -- otherwise there is an index to enable, and the call succeeds
  have succeeds (index : UInt8) (hlt : index.toNat < 128)
      (hok : ∀ enabled, ts.enabled.set index true = .ok enabled →
        ∃ next, ts.register address = .ok (index, next)) : False := by
    obtain ⟨enabled, hset⟩ := IndexSet.exists_set ts.enabled hlt true
    obtain ⟨next, hnext⟩ := hok enabled hset
    rw [h] at hnext
    cases hnext
  by_cases hzero : address.isZero = true
  · exact .inl hzero
  have hzero' : address.isZero = false := Bool.eq_false_iff.2 hzero
  cases hat : ts.at? address with
  | some t =>
    obtain ⟨-, i, hi⟩ := at?_eq_some hat
    have hlt : t.index.toNat < 128 := by
      rw [hts.index i t hi]
      exact Nat.lt_of_lt_of_le (List.getElem?_eq_some_iff.1 hi).1 hcapacity
    exact (succeeds t.index hlt fun enabled hset =>
      ⟨_, register_eq_ok.2 ⟨hzero', enabled, hset, .inl ⟨t, hat, rfl, rfl⟩⟩⟩).elim
  | none =>
    refine .inr ⟨rfl, ?_⟩
    by_contra hroom
    have hroom' : ts.slots.length < 128 := by omega
    refine succeeds (.ofNat ts.slots.length) ?_ fun enabled hset =>
      ⟨_, register_eq_ok.2 ⟨hzero', enabled, hset, .inr ⟨hat, hroom', rfl, rfl⟩⟩⟩
    rw [UInt8.toNat_ofNat', Nat.mod_eq_of_lt (by omega)]
    exact hroom'

/-! ## Keeping -/

/-- What stands in the slots of `ts` stands there in `next`, too, and there may be more. -/
def Keeps (ts next : Transceivers) : Prop :=
  ∀ (i : Nat) t, ts.slots[i]? = some t → ∃ u, next.slots[i]? = some u ∧ u.index = t.index ∧
    u.address = t.address ∧ ∀ chain peer, t.peers.get? chain = some peer →
      u.peers.get? chain = some peer

theorem Keeps.refl (ts : Transceivers) : ts.Keeps ts :=
  fun _ t ht => ⟨t, ht, rfl, rfl, fun _ _ hp => hp⟩

theorem Keeps.trans (h : ts.Keeps next) (h' : next.Keeps last) : ts.Keeps last := by
  intro i t ht
  obtain ⟨u, hu, hindex, haddress, hpeers⟩ := h i t ht
  obtain ⟨v, hv, hindex', haddress', hpeers'⟩ := h' i u hu
  exact ⟨v, hv, hindex'.trans hindex, haddress'.trans haddress,
    fun chain peer hp => hpeers' chain peer (hpeers chain peer hp)⟩

theorem keeps_of_register (h : ts.register address = .ok (index, next)) : ts.Keeps next := by
  obtain ⟨-, enabled, -, ⟨t, -, -, rfl⟩ | ⟨-, -, -, rfl⟩⟩ := register_eq_ok.1 h
  · exact Keeps.refl ts
  · intro i t ht
    refine ⟨t, ?_, rfl, rfl, fun _ _ hp => hp⟩
    rw [List.getElem?_append_left (List.getElem?_eq_some_iff.1 ht).1]
    exact ht

theorem keeps_of_deregister (h : ts.deregister index = .ok next) : ts.Keeps next := by
  obtain ⟨-, enabled, -, rfl⟩ := deregister_eq_ok.1 h
  exact Keeps.refl ts

theorem keeps_of_setPeer (h : ts.setPeer index chain address = .ok next) : ts.Keeps next := by
  obtain ⟨-, -, t, hget, ⟨-, rfl⟩ | ⟨hnone, rfl⟩⟩ := setPeer_eq_ok.1 h
  · exact Keeps.refl _
  intro i u hu
  by_cases hi : index.toNat = i
  · -- the only peer that is new is for a chain that had none
    subst hi
    have hut : some u = some t := hu.symm.trans hget
    cases hut
    refine ⟨_, List.getElem?_set_self (List.getElem?_eq_some_iff.1 hu).1, rfl, rfl,
      fun other peer hp => ?_⟩
    have hne : chain ≠ other := by
      rintro rfl
      rw [hnone] at hp
      cases hp
    exact (Table.get?_set_of_ne _ _ hne).trans hp
  · exact ⟨u, (List.getElem?_set_ne hi).trans hu, rfl, rfl, fun _ _ hp => hp⟩

/-! ## Permanence -/

/-- A call that changes the transceivers if it succeeds. -/
inductive Change where
  | register (address : Address)
  | deregister (index : UInt8)
  | setPeer (index : UInt8) (chain : ChainId) (address : Address)

def attempt (ts : Transceivers) : Change → Except Error Transceivers
  | .register address => Prod.snd <$> ts.register address
  | .deregister index => ts.deregister index
  | .setPeer index chain address => ts.setPeer index chain address

/-- The transceivers after a call. One that fails leaves them as they are. -/
def change (ts : Transceivers) (c : Change) : Transceivers :=
  match ts.attempt c with
  | .ok next => next
  | .error _ => ts

/-- The transceivers after some calls. -/
def after (ts : Transceivers) (cs : List Change) : Transceivers := cs.foldl change ts

theorem change_cases (ts : Transceivers) (c : Change) :
    ts.change c = ts ∨ ts.attempt c = .ok (ts.change c) := by
  unfold change
  cases h : ts.attempt c with
  | error err => exact .inl rfl
  | ok next => exact .inr rfl

theorem Orderly.attempt (hts : ts.Orderly) {c : Change} (h : ts.attempt c = .ok next) :
    next.Orderly := by
  cases c with
  | register address =>
    obtain ⟨_, hreg, rfl⟩ := map_eq_ok.1 h
    exact hts.register hreg
  | deregister index => exact hts.deregister h
  | setPeer index chain address => exact hts.setPeer h

theorem keeps_of_attempt {c : Change} (h : ts.attempt c = .ok next) : ts.Keeps next := by
  cases c with
  | register address =>
    obtain ⟨_, hreg, rfl⟩ := map_eq_ok.1 h
    exact keeps_of_register hreg
  | deregister index => exact keeps_of_deregister h
  | setPeer index chain address => exact keeps_of_setPeer h

theorem Orderly.change (hts : ts.Orderly) (c : Change) : (ts.change c).Orderly := by
  rcases change_cases ts c with heq | h
  · rwa [heq]
  · exact hts.attempt h

theorem keeps_change (ts : Transceivers) (c : Change) : ts.Keeps (ts.change c) := by
  rcases change_cases ts c with heq | h
  · rw [heq]
    exact Keeps.refl ts
  · exact keeps_of_attempt h

theorem Orderly.after (hts : ts.Orderly) (cs : List Change) : (ts.after cs).Orderly := by
  induction cs generalizing ts with
  | nil => exact hts
  | cons c cs ih => exact ih (hts.change c)

theorem keeps_after (ts : Transceivers) (cs : List Change) : ts.Keeps (ts.after cs) := by
  induction cs generalizing ts with
  | nil => exact Keeps.refl ts
  | cons c cs ih => exact (keeps_change ts c).trans (ih _)

/-- The transceiver that was registered stands in the slot of its index. -/
theorem Orderly.slot_of_register (hts : ts.Orderly)
    (h : ts.register address = .ok (index, next)) :
    ∃ t, next.slots[index.toNat]? = some t ∧ t.address = address := by
  obtain ⟨-, enabled, -, ⟨t, hat, rfl, rfl⟩ | ⟨-, hroom, rfl, rfl⟩⟩ := register_eq_ok.1 h
  · obtain ⟨haddress, i, hi⟩ := at?_eq_some hat
    refine ⟨t, ?_, haddress⟩
    rw [hts.index i t hi]
    exact hi
  · refine ⟨⟨.ofNat ts.slots.length, address, .empty⟩, ?_, rfl⟩
    rw [UInt8.toNat_ofNat', Nat.mod_eq_of_lt (by omega)]
    exact List.getElem?_concat_length

/-- A transceiver that is known can be registered again, and gets the index that it has. -/
theorem Orderly.register_again (hts : ts.Orderly) {i : Nat} (ht : ts.slots[i]? = some t) :
    ∃ next, ts.register t.address = .ok (t.index, next) := by
  have hmem : t ∈ ts.slots := List.mem_of_getElem? ht
  obtain ⟨enabled, hset⟩ : ∃ enabled, ts.enabled.set t.index true = .ok enabled := by
    refine IndexSet.exists_set _ ?_ _
    rw [hts.index i t ht]
    exact Nat.lt_of_lt_of_le (List.getElem?_eq_some_iff.1 ht).1 hts.capacity
  have hat : ts.at? t.address = some t := by
    cases hat : ts.at? t.address with
    | none => exact absurd rfl (at?_eq_none hat t hmem)
    | some u =>
      -- there is only one at this address
      obtain ⟨haddress, j, hj⟩ := at?_eq_some hat
      exact congrArg some (List.inj_on_of_nodup_map hts.distinct (List.mem_of_getElem? hj) hmem
        haddress)
  exact ⟨_, register_eq_ok.2 ⟨hts.address t hmem, enabled, hset, .inl ⟨t, hat, rfl, rfl⟩⟩⟩

/-- A registration gives the index of an earlier one again exactly if it is for the same address. -/
theorem Orderly.register_after (hts : ts.Orderly) (h : ts.register address = .ok (index, next))
    (later : List Change) :
    (∃ next', (next.after later).register address = .ok (index, next')) ∧
      ∀ other index' next', (next.after later).register other = .ok (index', next') →
        (index' = index ↔ other = address) := by
  have hlast : (next.after later).Orderly := (hts.register h).after later
  obtain ⟨t, ht, rfl⟩ := hts.slot_of_register h
  obtain ⟨u, hu, -, haddress, -⟩ := keeps_after next later _ t ht
  have hindex : u.index = index := UInt8.toNat_inj.1 (hlast.index _ u hu)
  have hagain := hlast.register_again hu
  rw [haddress, hindex] at hagain
  refine ⟨hagain, fun other index' next' h' => ⟨?_, ?_⟩⟩
  · rintro rfl
    obtain ⟨v, hv, rfl⟩ := hlast.slot_of_register h'
    obtain ⟨w, hw, -, haddress', -⟩ := keeps_of_register h' _ u hu
    cases hv.symm.trans hw
    rw [haddress', haddress]
  · rintro rfl
    obtain ⟨_, hnext⟩ := hagain
    cases h'.symm.trans hnext
    rfl

/-- A peer that was set stays. -/
theorem peer?_after (h : ts.setPeer index chain address = .ok next) (later : List Change) :
    (next.after later).peer? index chain = some address := by
  have hpeer : ∃ t, next.slots[index.toNat]? = some t ∧ t.peers.get? chain = some address := by
    obtain ⟨-, -, t, hget, ⟨hknown, rfl⟩ | ⟨-, rfl⟩⟩ := setPeer_eq_ok.1 h
    · exact ⟨t, hget, hknown⟩
    · exact ⟨_, List.getElem?_set_self (List.getElem?_eq_some_iff.1 hget).1,
        Table.get?_set_self ..⟩
  obtain ⟨t, ht, hp⟩ := hpeer
  obtain ⟨u, hu, -, -, hpeers⟩ := keeps_after next later _ t ht
  have hget : (next.after later).get? index = some u := hu
  rw [peer?, hget]
  exact hpeers chain address hp

/-- **An index stands for one transceiver for ever.** After any calls, failed ones included, the
transceivers are orderly. Once a registration has given an index to an address, each later one
gives it to this address again and to no other, and once a peer has been set it stays. -/
theorem identity_permanent (past : List Change) :
    let ts := none.after past
    ts.Orderly ∧
    (∀ address index next, ts.register address = .ok (index, next) → ∀ later : List Change,
      (∃ next', (next.after later).register address = .ok (index, next')) ∧
      ∀ other index' next', (next.after later).register other = .ok (index', next') →
        (index' = index ↔ other = address)) ∧
    ∀ index chain address next, ts.setPeer index chain address = .ok next → ∀ later : List Change,
      (next.after later).peer? index chain = some address := by
  intro ts
  have hts : ts.Orderly := orderly_none.after past
  exact ⟨hts, fun _ _ _ h => hts.register_after h, fun _ _ _ _ h => peer?_after h⟩

/-- Two transceivers, of which the first was deregistered and comes back. What is called in between
is refused, or is about others. -/
theorem identity_permanent_sample :
    let first := Sample.address 10
    let peer := Sample.address 177
    let ts := none.after [.register first, .register (Sample.address 11), .deregister 0]
    let back := ts.change (.register first)
    let paired := ts.change (.setPeer 1 ⟨2⟩ peer)
    let later : List Change := [.register .zero, .deregister 0, .register (Sample.address 12)]
    ts.register first = .ok (0, back) ∧ ts.setPeer 1 ⟨2⟩ peer = .ok paired ∧
      (back.after later).isEnabled 0 = false ∧
      (∃ last, (back.after later).register first = .ok (0, last)) ∧
      (paired.after later).peer? 1 ⟨2⟩ = some peer := by
  intro first peer ts back paired later
  obtain ⟨-, hregister, hpeer⟩ :=
    identity_permanent [.register first, .register (Sample.address 11), .deregister 0]
  have hback : ts.register first = .ok (0, back) := by decide +kernel
  have hpaired : ts.setPeer 1 ⟨2⟩ peer = .ok paired := by decide +kernel
  exact ⟨hback, hpaired, by decide +kernel, (hregister _ _ _ hback later).1,
    hpeer _ _ _ _ hpaired later⟩

end Transceivers

end TokenBridge
