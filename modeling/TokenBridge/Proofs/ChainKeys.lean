import Mathlib.Data.List.Dedup
import Mathlib.Data.List.Induction
import Mathlib.Data.List.Perm.Basic
import Mathlib.Data.Option.Basic
import TokenBridge.Proofs.Digits
import TokenBridge.Proofs.Outcome
import TokenBridge.Relay.Capabilities

/-!
# Chains by their names

Published capabilities are entered one after another under the chain that their key names, and
several texts name the same chain: a plus sign and leading zeros make no difference. Of two such
entries the later one stays. `Table.keeps_iff` says when a table made of entries still has all of
them, which is also when their order makes no difference (`Table.unordered_iff`). So a response that
spells a chain in two ways can lose one of the two entries; one that writes each number in the
shortest way cannot.
-/

namespace TokenBridge

namespace Table

variable {κ ν : Type} [DecidableEq κ]

/-- Entries put into a table one after another. -/
def ofList (entries : List (κ × ν)) : Table κ ν := entries.foldl (fun t e => t.set e.1 e.2) empty

theorem ofList_concat (l : List (κ × ν)) (e : κ × ν) :
    ofList (l ++ [e]) = (ofList l).set e.1 e.2 := by
  rw [ofList, List.foldl_append]
  rfl

/-- The last entry of a key is the one that is found. -/
theorem get?_ofList (l : List (κ × ν)) (k : κ) : (ofList l).get? k = find k l.reverse := by
  induction l using List.reverseRecOn with
  | nil => rfl
  | append_singleton l e ih => rw [ofList_concat, get?_set, ih, List.reverse_concat, find]

theorem mem_of_find {l : List (κ × ν)} {k : κ} {v : ν} (h : find k l = some v) : (k, v) ∈ l := by
  induction l with
  | nil => cases h
  | cons e l ih =>
    rw [find] at h
    split at h
    · rename_i hk
      cases h
      rw [← hk]
      exact List.mem_cons_self
    · exact List.mem_cons_of_mem _ (ih h)

theorem exists_find {l : List (κ × ν)} {e : κ × ν} (h : e ∈ l) : ∃ v, find e.1 l = some v := by
  induction l with
  | nil => cases h
  | cons e' l ih =>
    rw [find]
    split
    · exact ⟨_, rfl⟩
    · rename_i hne
      rcases List.mem_cons.1 h with rfl | hmem
      · exact absurd rfl hne
      · exact ih hmem

theorem mem_of_get?_ofList {l : List (κ × ν)} {k : κ} {v : ν} (h : (ofList l).get? k = some v) :
    (k, v) ∈ l := by
  rw [get?_ofList] at h
  exact List.mem_reverse.1 (mem_of_find h)

/-! ## Entries of one key -/

/-- Entries with the same key are the same. -/
def Agree (l : List (κ × ν)) : Prop := ∀ e ∈ l, ∀ e' ∈ l, e.1 = e'.1 → e.2 = e'.2

theorem Agree.get?_eq_some_iff {l : List (κ × ν)} (h : Agree l) {k : κ} {v : ν} :
    (ofList l).get? k = some v ↔ (k, v) ∈ l := by
  refine ⟨mem_of_get?_ofList, fun hmem => ?_⟩
  obtain ⟨w, hw⟩ := exists_find (List.mem_reverse.2 hmem)
  rw [← get?_ofList] at hw
  have hv : v = w := h _ hmem _ (mem_of_get?_ofList hw) rfl
  rw [hv]
  exact hw

/-- No entry is lost exactly if entries agree. -/
theorem keeps_iff {l : List (κ × ν)} : (∀ e ∈ l, (ofList l).get? e.1 = some e.2) ↔ Agree l := by
  constructor
  · intro h e he e' he' hk
    have hfound := h e' he'
    rw [← hk, h e he] at hfound
    exact Option.some.inj hfound
  · exact fun h e he => h.get?_eq_some_iff.2 he

/-- The order of the entries makes no difference exactly if they agree. -/
theorem unordered_iff {l : List (κ × ν)} :
    (∀ l', l'.Perm l → ∀ k, (ofList l').get? k = (ofList l).get? k) ↔ Agree l := by
  constructor
  · refine fun h => keeps_iff.1 fun e he => ?_
    -- in this order the entry comes last
    obtain ⟨front, back, rfl⟩ := List.append_of_mem he
    have hlast : (front ++ back ++ [e]).Perm (front ++ e :: back) :=
      (List.perm_append_singleton ..).trans List.perm_middle.symm
    rw [← h _ hlast e.1, ofList_concat, get?_set_self]
  · intro h l' hperm k
    have h' : Agree l' := fun e he e' he' => h e (hperm.subset he) e' (hperm.subset he')
    refine Option.ext fun v => ?_
    rw [h'.get?_eq_some_iff, h.get?_eq_some_iff, hperm.mem_iff]

/-! ## Keys -/

theorem keys_replace (k : κ) (v : ν) (l : List (κ × ν)) :
    (replace k v l).map (·.1) = if k ∈ l.map (·.1) then l.map (·.1) else l.map (·.1) ++ [k] := by
  induction l with
  | nil => rfl
  | cons e l ih =>
    by_cases h : e.1 = k
    · simp [replace, h]
    · have hne : ¬ k = e.1 := fun he => h he.symm
      simp only [replace, if_neg h, List.map_cons, ih, List.mem_cons, or_iff_right hne]
      split <;> rfl

theorem keys_set (t : Table κ ν) (k : κ) (v : ν) :
    (t.set k v).keys = if k ∈ t.keys then t.keys else t.keys ++ [k] := keys_replace k v t.entries

/-- A table has each key of its entries once. -/
theorem keys_ofList (l : List (κ × ν)) : (ofList l).keys.Perm (l.map (·.1)).dedup := by
  refine (List.perm_ext_iff_of_nodup ?_ (List.nodup_dedup _)).2 fun k => ?_
  · induction l using List.reverseRecOn with
    | nil => exact List.nodup_nil
    | append_singleton l e ih =>
      rw [ofList_concat, keys_set]
      split
      · exact ih
      · rename_i hnew
        exact List.concat_eq_append ▸ ih.concat hnew
  · rw [List.mem_dedup]
    induction l using List.reverseRecOn with
    | nil => exact Iff.rfl
    | append_singleton l e ih =>
      rw [ofList_concat, keys_set, List.map_append, List.mem_append, ← ih]
      split
      · rename_i hold
        exact ⟨.inl, fun h => h.elim id fun hk => List.mem_singleton.1 hk ▸ hold⟩
      · rw [List.mem_append]
        rfl

theorem size_ofList_eq_iff {l : List (κ × ν)} :
    (ofList l).size = l.length ↔ (l.map (·.1)).Nodup := by
  have hsize : (ofList l).size = (l.map (·.1)).dedup.length := by
    rw [← (keys_ofList l).length_eq, keys, List.length_map, size]
  have hkeys : l.length = (l.map (·.1)).length := (List.length_map _).symm
  rw [hsize, hkeys]
  constructor
  · intro h
    rw [← (List.dedup_sublist _).eq_of_length h]
    exact List.nodup_dedup _
  · intro h
    rw [h.dedup]

end Table

namespace Capabilities

/-- The chain that a text names. -/
def chainOf? (key : String) : Option ChainId :=
  match Decimal.Integer.parseUInt16 key with
  | .ok n => some ⟨n⟩
  | .error _ => none

theorem chainOf?_text (c : ChainId) : chainOf? c.text = some c := by
  have hparse := Decimal.parse_toString (Nat.le_pred_of_lt c.number.toNat_lt)
  have hread : Decimal.Integer.parseUInt16 c.text = .ok c.number := by
    show UInt16.ofNat <$> Decimal.Integer.parse (UInt16.size - 1) (toString c.number.toNat) = _
    rw [show UInt16.size - 1 = (2 ^ 16).pred from rfl, hparse]
    exact congrArg Except.ok UInt16.ofNat_toNat
  rw [chainOf?, hread]

/-- An entry under the chain that its key names; under any chain if there is none. -/
def named (e : String × Capabilities) : ChainId × Capabilities := ((chainOf? e.1).getD default, e.2)

theorem enter_eq_ok {t t' : CapabilityTable} {e : String × Capabilities} :
    enter t e = .ok t' ↔ (∃ c, chainOf? e.1 = some c) ∧ t.set (named e).1 (named e).2 = t' := by
  unfold enter named chainOf?
  split <;> simp_all

theorem foldlM_enter_eq_ok {raw : List (String × Capabilities)} {t t' : CapabilityTable} :
    raw.foldlM enter t = .ok t' ↔ (∀ e ∈ raw, ∃ c, chainOf? e.1 = some c) ∧
      (raw.map named).foldl (fun t e => t.set e.1 e.2) t = t' := by
  induction raw generalizing t with
  | nil => simp [pure_eq_ok]
  | cons e raw ih =>
    simp only [List.foldlM_cons, bind_eq_ok, enter_eq_ok, ih, List.forall_mem_cons]
    constructor
    · rintro ⟨_, ⟨hkey, rfl⟩, hkeys, rfl⟩
      exact ⟨⟨hkey, hkeys⟩, rfl⟩
    · rintro ⟨⟨hkey, hkeys⟩, rfl⟩
      exact ⟨_, ⟨hkey, rfl⟩, hkeys, rfl⟩

/-- A response is accepted exactly if all its keys name chains. -/
theorem byChain_eq_ok {raw : List (String × Capabilities)} {t : CapabilityTable} :
    byChain raw = .ok t ↔
      (∀ e ∈ raw, ∃ c, chainOf? e.1 = some c) ∧ Table.ofList (raw.map named) = t :=
  foldlM_enter_eq_ok

/-- Entries whose keys name the same chain are the same. -/
def Agree (raw : List (String × Capabilities)) : Prop :=
  ∀ e ∈ raw, ∀ e' ∈ raw, chainOf? e.1 = chainOf? e'.1 → e.2 = e'.2

section
variable {raw : List (String × Capabilities)} (h : ∀ e ∈ raw, ∃ c, chainOf? e.1 = some c)
include h

theorem some_named {e : String × Capabilities} (he : e ∈ raw) :
    some (named e).1 = chainOf? e.1 := by
  obtain ⟨c, hc⟩ := h e he
  rw [named, hc, Option.getD_some]

theorem agree_named_iff : Table.Agree (raw.map named) ↔ Agree raw := by
  simp only [Table.Agree, List.forall_mem_map]
  refine forall₂_congr fun e he => forall₂_congr fun e' he' => ?_
  rw [← some_named h he, ← some_named h he', Option.some_inj]
  rfl

theorem nodup_named_iff :
    ((raw.map named).map (·.1)).Nodup ↔ (raw.map fun e => chainOf? e.1).Nodup := by
  have hsome : (raw.map fun e => chainOf? e.1) = ((raw.map named).map (·.1)).map some := by
    rw [List.map_map, List.map_map]
    exact List.map_congr_left fun e he => (some_named h he).symm
  rw [hsome, List.nodup_map_iff (Option.some_injective _)]

end

/-- Distinct texts without signs and leading zeros name distinct chains. -/
theorem nodup_of_shortest {raw : List (String × Capabilities)}
    (hkeys : ∀ e ∈ raw, ∃ c : ChainId, e.1 = c.text) (h : (raw.map (·.1)).Nodup) :
    (raw.map fun e => chainOf? e.1).Nodup := by
  refine (List.nodup_map_iff_inj_on h.of_map).2 fun e he e' he' heq => ?_
  obtain ⟨c, hc⟩ := hkeys e he
  obtain ⟨c', hc'⟩ := hkeys e' he'
  rw [hc, hc', chainOf?_text, chainOf?_text, Option.some_inj] at heq
  exact List.inj_on_of_nodup_map h he he' (by rw [hc, hc', heq])

theorem agree_of_nodup {raw : List (String × Capabilities)}
    (h : (raw.map fun e => chainOf? e.1).Nodup) : Agree raw := fun _ he _ he' heq =>
  congrArg Prod.snd (List.inj_on_of_nodup_map h he he' heq)

/-- **What becomes of a response.** Nothing is found that was not published. All of it is found, and
in whatever order it is entered, exactly if keys that name the same chain have equal entries; there
are as many chains as entries exactly if no chain is named twice. Both hold of a response whose keys
are the decimal texts of numbers, without signs and leading zeros. -/
theorem byChain_lossless_iff {raw : List (String × Capabilities)} {table : CapabilityTable}
    (h : byChain raw = .ok table) :
    (∀ c caps, table.get? c = some caps → ∃ e ∈ raw, chainOf? e.1 = some c ∧ e.2 = caps) ∧
    ((∀ e ∈ raw, ∃ c, chainOf? e.1 = some c ∧ table.get? c = some e.2) ↔ Agree raw) ∧
    (table.size = raw.length ↔ (raw.map fun e => chainOf? e.1).Nodup) ∧
    ((∀ raw', raw'.Perm raw → ∃ table', byChain raw' = .ok table' ∧
      ∀ c, table'.get? c = table.get? c) ↔ Agree raw) ∧
    ((raw.map (·.1)).Nodup → (∀ e ∈ raw, ∃ c : ChainId, e.1 = c.text) →
      Agree raw ∧ (raw.map fun e => chainOf? e.1).Nodup) := by
  obtain ⟨hkeys, rfl⟩ := byChain_eq_ok.1 h
  refine ⟨fun c caps hget => ?_, ?_, ?_, ?_, fun hnodup hshort => ?_⟩
  · obtain ⟨e, he, heq⟩ := List.mem_map.1 (Table.mem_of_get?_ofList hget)
    refine ⟨e, he, ?_, congrArg Prod.snd heq⟩
    rw [← some_named hkeys he, heq]
  · rw [← agree_named_iff hkeys, ← Table.keeps_iff, List.forall_mem_map]
    refine forall₂_congr fun e he => ?_
    rw [← some_named hkeys he]
    simp [named]
  · rw [← nodup_named_iff hkeys, ← Table.size_ofList_eq_iff, List.length_map]
  · rw [← agree_named_iff hkeys, ← Table.unordered_iff]
    constructor
    · intro hall l' hperm c
      obtain ⟨raw', rfl, hraw'⟩ := (congrFun₂ (List.eq_map_comp_perm named) l' raw).mpr hperm
      obtain ⟨table', htable', hget⟩ := hall raw' hraw'
      rw [(byChain_eq_ok.1 htable').2]
      exact hget c
    · intro hall raw' hperm
      have hkeys' : ∀ e ∈ raw', ∃ c, chainOf? e.1 = some c := fun e he => hkeys e (hperm.subset he)
      exact ⟨_, byChain_eq_ok.2 ⟨hkeys', rfl⟩, hall _ (hperm.map named)⟩
  · have hchains := nodup_of_shortest hshort hnodup
    exact ⟨agree_of_nodup hchains, hchains⟩

/-- Chains 2 and 10 are each named once. -/
theorem byChain_lossless_iff_sample :
    let few : Capabilities := ⟨[.nativeTransfer], 1, 2, 3⟩
    let many : Capabilities := ⟨[.nativeTransfer], 10, 20, 30⟩
    byChain [("2", few), ("+10", many)] = .ok ⟨[(⟨2⟩, few), (⟨10⟩, many)]⟩ ∧
      Agree [("2", few), ("+10", many)] ∧ [chainOf? "2", chainOf? "+10"].Nodup := by
  intro few many
  have hread : byChain [("2", few), ("+10", many)] = .ok ⟨[(⟨2⟩, few), (⟨10⟩, many)]⟩ := by
    decide +kernel
  obtain ⟨-, hkeeps, hsize, -, -⟩ := byChain_lossless_iff hread
  refine ⟨hread, hkeeps.1 ?_, hsize.1 rfl⟩
  intro e he
  rcases List.mem_pair.1 he with rfl | rfl
  · exact ⟨⟨2⟩, by decide +kernel, rfl⟩
  · exact ⟨⟨10⟩, by decide +kernel, rfl⟩

/-- A response that names chain 2 in two ways is accepted. One of its entries is lost, and the order
decides which. -/
theorem later_spelling_wins :
    let few : Capabilities := ⟨[.nativeTransfer], 1, 2, 3⟩
    let many : Capabilities := ⟨[.nativeTransfer], 10, 20, 30⟩
    let raw := [("2", few), ("02", many)]
    (raw.map (·.1)).Nodup ∧ chainOf? "2" = some ⟨2⟩ ∧ few ≠ many ∧
      ∃ table table', byChain raw = .ok table ∧ byChain raw.reverse = .ok table' ∧
        table.size = 1 ∧ table.get? ⟨2⟩ = some many ∧ table'.get? ⟨2⟩ = some few :=
  ⟨by decide, by decide +kernel, by decide, ⟨[(⟨2⟩, _)]⟩, ⟨[(⟨2⟩, _)]⟩, by decide +kernel,
    by decide +kernel, rfl, rfl, rfl⟩

end Capabilities

end TokenBridge
