import TokenBridge.Proofs.Quota

/-!
# New limits for a quota

A quota can be read as its limit and how much of it is `used` at a time. A new limit keeps what is
used, as far as it covers it: `resize_eq` gives the new record in these terms, without the two cases
and the saturating arithmetic in which it is computed. So what is used survives a lower limit
exactly if that limit covers it, and is forgotten down to the lower limit if not
(`resize_keeps_used`).
-/

namespace TokenBridge

namespace Quota

/-- How much of the limit is not available at a time. -/
def used (p : Period) (q : Quota) (now : UInt64) : UInt64 := q.limit - q.available p now

variable {p : Period} {q : Quota} {now limit : UInt64}

theorem available_add_used (p : Period) (q : Quota) (now : UInt64) :
    (q.available p now).toNat + (q.used p now).toNat = q.limit.toNat := by
  have hlimit := available_le_limit p q now
  rw [used, UInt64.toNat_sub_of_le _ _ hlimit]
  exact Nat.add_sub_cancel' (UInt64.le_iff_toNat_le.1 hlimit)

theorem toNat_sub_min (limit used : UInt64) :
    (limit - min limit used).toNat = limit.toNat - min limit.toNat used.toNat := by
  rw [UInt64.toNat_sub_of_le _ _ Std.min_le_left, UInt64.toNat_min]

/-- A new limit has what is used taken out of it, or all of it. -/
theorem resize_eq (p : Period) (q : Quota) (now limit : UInt64) :
    q.resize p now limit = ⟨limit, limit - min limit (q.used p now), max now q.asOf⟩ := by
  have hused := available_add_used p q now
  have hsize : limit.toNat < UInt64.size := limit.toNat_lt
  simp only [resize, mk.injEq, true_and, and_true]
  rw [← UInt64.toNat_inj, toNat_sub_min, UInt64.toNat_min]
  by_cases hlt : limit < q.limit
  · have hlt' := UInt64.lt_iff_toNat_lt.1 hlt
    rw [if_pos hlt, Word.toNat_subSat, UInt64.toNat_sub_of_le _ _ (UInt64.le_of_lt hlt)]
    omega
  · have hle := UInt64.not_lt.1 hlt
    have hle' := UInt64.le_iff_toNat_le.1 hle
    rw [if_neg hlt, Word.toNat_addSat, UInt64.toNat_sub_of_le _ _ hle]
    omega

/-- Up to the time of its record a quota has what remained then. -/
theorem available_of_le_asOf (h : now ≤ q.asOf) (hle : q.remaining ≤ q.limit)
    (hfull : p.seconds = 0 → q.remaining = q.limit) : q.available p now = q.remaining := by
  by_cases hp : p.seconds = 0
  · rw [available, if_pos hp, hfull hp]
  · rw [UInt64.le_iff_toNat_le] at h hle
    rw [← UInt64.toNat_inj, toNat_available hp, Nat.sub_eq_zero_of_le h, refill, Nat.zero_mul,
      Nat.zero_div]
    omega

theorem used_of_instant (hp : p.seconds = 0) (q : Quota) (now : UInt64) : q.used p now = 0 := by
  rw [used, available, if_pos hp, UInt64.sub_self]

theorem available_resize (p : Period) (q : Quota) (now limit : UInt64) :
    (q.resize p now limit).available p now = limit - min limit (q.used p now) := by
  have hle : limit - min limit (q.used p now) ≤ limit := by
    rw [UInt64.le_iff_toNat_le, toNat_sub_min]
    exact Nat.sub_le ..
  rw [resize_eq]
  refine available_of_le_asOf (le_max now q.asOf).1 hle fun hp => ?_
  show limit - min limit (q.used p now) = limit
  have hzero : (0 : UInt64).toNat = 0 := rfl
  rw [used_of_instant hp, ← UInt64.toNat_inj, toNat_sub_min]
  omega

/-- What is used is cut off at the new limit. -/
theorem used_resize (p : Period) (q : Quota) (now limit : UInt64) :
    (q.resize p now limit).used p now = min limit (q.used p now) := by
  have hsum := available_add_used p (q.resize p now limit) now
  have hlimit : (q.resize p now limit).limit = limit := rfl
  rw [available_resize, toNat_sub_min, hlimit] at hsum
  rw [← UInt64.toNat_inj, UInt64.toNat_min]
  omega

theorem resize_resize (h : q.used p now ≤ limit) (next : UInt64) :
    (q.resize p now limit).resize p now next = q.resize p now next := by
  have hkept : (q.resize p now limit).used p now = q.used p now := by
    rw [UInt64.le_iff_toNat_le] at h
    rw [used_resize, ← UInt64.toNat_inj, UInt64.toNat_min]
    omega
  have htime : max now (max now q.asOf) = max now q.asOf := by
    rw [← UInt64.toNat_inj, UInt64.toNat_max, UInt64.toNat_max]
    omega
  rw [resize_eq, hkept, resize_eq p q now next, resize_eq p q now limit, htime]

/-- The old limit gives back the old capacity unless a lower one has cut off what was used. -/
theorem available_restored_iff :
    ((q.resize p now limit).resize p now q.limit).available p now = q.available p now ↔
      q.used p now ≤ limit := by
  have hused := available_add_used p q now
  rw [available_resize, used_resize, ← UInt64.toNat_inj, toNat_sub_min, UInt64.toNat_min,
    UInt64.le_iff_toNat_le]
  omega

/-- **A new limit keeps what is used of the old one**, as far as it covers it. So an intermediate
limit that covers what is used does not show, and the old limit gives back the old capacity
exactly after such a limit. -/
theorem resize_keeps_used (p : Period) (q : Quota) (now limit : UInt64) :
    (q.available p now).toNat + (q.used p now).toNat = q.limit.toNat ∧
    (q.resize p now limit).limit = limit ∧
    (q.resize p now limit).available p now = limit - min limit (q.used p now) ∧
    (q.used p now ≤ limit →
      ∀ next, (q.resize p now limit).resize p now next = q.resize p now next) ∧
    (((q.resize p now limit).resize p now q.limit).available p now = q.available p now ↔
      q.used p now ≤ limit) :=
  ⟨available_add_used p q now, rfl, available_resize p q now limit, resize_resize,
    available_restored_iff⟩

/-- Of 1000 units 700 are used. A limit of 800 keeps that, and a limit of 500 forgets 200 of them.
The limits are set at a time before the record. -/
theorem resize_keeps_used_sample :
    let q : Quota := ⟨1000, 300, 50⟩
    q.used .day 10 = 700 ∧ (q.resize .day 10 800).available .day 10 = 100 ∧
      ((700 : UInt64) ≤ 800 ∧
        ∀ next, (q.resize .day 10 800).resize .day 10 next = q.resize .day 10 next) ∧
      ((q.resize .day 10 800).resize .day 10 1000).available .day 10 = 300 ∧
      ((q.resize .day 10 500).resize .day 10 1000).available .day 10 = 500 ∧
      ((q.resize .day 10 500).resize .day 10 1000).available .day 10 ≠ 300 := by
  intro q
  have hused : q.used .day 10 = 700 := by decide
  have hcapacity : q.available .day 10 = 300 := by decide
  obtain ⟨-, -, -, hagain, hrestored⟩ := resize_keeps_used .day q 10 800
  obtain ⟨-, -, -, -, hforgotten⟩ := resize_keeps_used .day q 10 500
  rw [hused] at hagain
  rw [hused, hcapacity] at hrestored hforgotten
  exact ⟨hused, by decide, ⟨by decide, hagain (by decide)⟩, hrestored.2 (by decide), by decide,
    mt hforgotten.1 (by decide)⟩

end Quota

end TokenBridge
