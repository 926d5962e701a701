import TokenBridge.Proofs.Outcome
import TokenBridge.Proofs.Receipts

/-!
# Instructions are not read back

The kind of a tagged object is found by reading it whole, and a number of 128 bits is not read from
what was held meanwhile. Every instruction has such a number, so none is read from any text, nor is
a quote that lists one. A quote without instructions is read as it was written; its warnings are
tagged objects as well, but their numbers have 64 bits.
-/

namespace TokenBridge

namespace Json

/-! ## What has been read -/

theorem Decoder.exists_of_ofText {α : Type} {d : Decoder α} {text : String} {a : α}
    (h : Decoder.ofText d text = .ok a) : ∃ t, d maxDepth t = .ok a := by
  simp only [Decoder.ofText, bind_eq_ok] at h
  obtain ⟨b, hread, h⟩ := h
  obtain ⟨-, h⟩ := guard_eq_ok.1 h
  exact ⟨_, hread.trans (congrArg _ (pure_eq_ok.1 h))⟩

/-- A list of what is never read is empty. -/
theorem Decoder.eq_nil_of_list {α : Type} {d : Decoder α} (hd : ∀ room t a, d room t ≠ .ok a)
    {room : Nat} {t : Tree} {xs : List α} (h : Decoder.list d room t = .ok xs) : xs = [] := by
  unfold Decoder.list at h
  split at h
  · rename_i items ending
    cases room with
    | zero => cases h
    | succ room =>
      simp only [bind_eq_ok] at h
      obtain ⟨ys, hitems, u, -, h⟩ := h
      rw [← pure_eq_ok.1 h]
      cases items with
      | nil => exact (pure_eq_ok.1 hitems).symm
      | cons t items =>
        simp only [List.mapM_cons, bind_eq_ok] at hitems
        obtain ⟨a, ha, -⟩ := hitems
        exact absurd ha (hd room t a)
  · cases h

namespace Record

variable {σ α β : Type} {room : Nat} {find : String → Option Tree}

/-- Whatever `r` is built from, it has the property. -/
def Builds (r : Record σ α) (P : α → Prop) : Prop :=
  ∀ room find a, r.build room find = .ok a → P a

theorem Builds.of_read {r : Record σ α} {P : α → Prop} (hr : r.Builds P) {t : Tree} {a : α}
    (h : r.read room t = .ok a) : P a := by
  unfold read at h
  split at h
  · cases room with
    | zero => cases h
    | succ room =>
      simp only [bind_eq_ok] at h
      obtain ⟨found, -, u, -, v, -, h⟩ := h
      exact hr room _ a h
  · cases room with
    | zero => cases h
    | succ room =>
      simp only [bind_eq_ok] at h
      obtain ⟨found, -, h⟩ := h
      exact hr room _ a h
  · cases h

theorem map_build_eq_ok {r : Record σ α} {g : α → β} {b : β} :
    (g <$> r).build room find = .ok b ↔ ∃ a, r.build room find = .ok a ∧ g a = b :=
  map_eq_ok

theorem seq_build_eq_ok {r : Record σ (α → β)} {r' : Record σ α} {b : β} :
    (r <*> r').build room find = .ok b ↔
      ∃ g, r.build room find = .ok g ∧ ∃ a, r'.build room find = .ok a ∧ g a = b := by
  show (r.build room find >>= fun g => g <$> r'.build room find) = .ok b ↔ _
  simp only [bind_eq_ok, map_eq_ok]

theorem exists_of_build_field {name : String} {get : σ → α} {form : Form α} {a : α}
    (h : (field name get form).build room find = .ok a) : ∃ t, form.read room t = .ok a := by
  unfold field fieldOr at h
  dsimp only at h
  split at h
  · exact ⟨_, h⟩
  · cases h

/-- A field at the end does not matter to a property that holds whatever it is. -/
theorem Builds.seq {r : Record σ (α → β)} {r' : Record σ α} {P : β → Prop}
    (hr : r.Builds fun g => ∀ a, P (g a)) : (r <*> r').Builds P := by
  intro room find b h
  obtain ⟨g, hg, a, -, rfl⟩ := seq_build_eq_ok.1 h
  exact hr room find g hg a

end Record

/-! ## Tagged objects -/

theorem readAny_natural {n : Nat} (h : n < UInt64.size) (room : Nat) :
    ∃ v, readAny (Value.nat n).tree room = .ok v := by
  refine ⟨.nat n, ?_⟩
  show Value.num <$> (Number.int n).numeral.read = _
  rw [Numeral.read_natural h]
  rfl

namespace Decoder

variable {tag name : String} {known : List String} {room : Nat} {members : List (String × Value)}
  (hmembers : ∀ m ∈ members, m.1 ≠ tag ∧ ∃ v, readAny m.2.tree room = .ok v)
include hmembers

theorem splitMembers_tree (found : Option String) :
    splitMembers tag known room found (Value.memberTrees members) =
      .ok (found, Value.memberTrees members) := by
  induction members with
  | nil => rfl
  | cons m members ih =>
    obtain ⟨hkey, v, hv⟩ := hmembers m List.mem_cons_self
    have hrest := ih fun n hn => hmembers n (List.mem_cons_of_mem m hn)
    show splitMembers tag known room found ((⟨some m.1⟩, m.2.tree) :: _) = _
    simp only [splitMembers, Quoted.read, bind, Except.bind, if_neg hkey, hv, hrest]
    rfl

/-- A tagged object is split into its tag and its members, if those can be held. -/
theorem tagged_tree (hname : name ∈ known) :
    tagged tag known (room + 1) (Value.object ((tag, .str name) :: members)).tree =
      .ok (name, .object (Value.memberTrees members) .closed) := by
  have htag : tagOf known room (Value.str name).tree = .ok name := by
    show (if known.contains name then _ else _) = _
    rw [if_pos (by simpa using hname)]
    rfl
  have hsplit : splitMembers tag known room none
      ((⟨some tag⟩, (Value.str name).tree) :: Value.memberTrees members) =
        .ok (some name, Value.memberTrees members) := by
    simp only [splitMembers, Quoted.read, bind, Except.bind, if_true, htag]
    exact splitMembers_tree hmembers (some name)
  show (splitMembers tag known room none (_ :: Value.memberTrees members) >>= _) = _
  rw [hsplit]
  rfl

end Decoder

end Json

namespace Form

open Json Record

/-! ## Instructions -/

theorem heldWide_build_ne_ok {σ : Type} {name : String} {get : σ → Wide} (room : Nat)
    (find : String → Option Tree) (n : Wide) : (field name get heldWide).build room find ≠ .ok n := by
  intro h
  obtain ⟨t, h⟩ := exists_of_build_field h
  cases h

theorem instruction_read_ne_ok (room : Nat) (t : Tree) (i : RelayInstruction) :
    instruction.read room t ≠ .ok i := by
  intro h
  simp only [instruction, bind_eq_ok] at h
  obtain ⟨⟨name, rest⟩, -, h⟩ := h
  split at h
  · refine Builds.of_read (P := fun _ => False) (fun room find i h => ?_) h
    obtain ⟨-, -, value, h, -⟩ := seq_build_eq_ok.1 h
    exact heldWide_build_ne_ok room find value h
  · refine Builds.of_read (P := fun _ => False) (Builds.seq fun room find g h => ?_) h
    obtain ⟨value, h, -⟩ := map_build_eq_ok.1 h
    exact absurd h (heldWide_build_ne_ok room find value)

/-- Each of its numbers fits into 64 bits. -/
def Narrow : RelayInstruction → Prop
  | .gas gasLimit msgValue => gasLimit.toNat < UInt64.size ∧ msgValue.toNat < UInt64.size
  | .dropOff value _ => value.toNat < UInt64.size

theorem instruction_exact (i : RelayInstruction) : (instruction.write i).Exact := by
  cases i with
  | gas gasLimit msgValue =>
    exact .object (List.forall_mem_cons.2 ⟨.str _, List.forall_mem_cons.2 ⟨.int _,
      List.forall_mem_singleton.2 (.int _)⟩⟩)
  | dropOff value recipient =>
    exact .object (List.forall_mem_cons.2 ⟨.str _, List.forall_mem_cons.2 ⟨.int _,
      List.forall_mem_singleton.2 (.str _)⟩⟩)

theorem instruction_read_narrow (room : Nat) {i : RelayInstruction} (h : Narrow i) :
    instruction.read (room + 1) (instruction.write i).tree = .error .wrongShape := by
  cases i with
  | gas gasLimit msgValue =>
    have hmembers : ∀ m ∈ gasFields.write (gasLimit, msgValue),
        m.1 ≠ "type" ∧ ∃ v, readAny m.2.tree room = .ok v :=
      List.forall_mem_cons.2 ⟨⟨(by decide : "gasLimit" ≠ "type"), readAny_natural h.1 room⟩,
        List.forall_mem_singleton.2 ⟨(by decide : "msgValue" ≠ "type"), readAny_natural h.2 room⟩⟩
    show (Decoder.tagged "type" [gasTag, dropOffTag] (room + 1)
      (Value.object (("type", .str gasTag) :: gasFields.write (gasLimit, msgValue))).tree >>= _) = _
    rw [Decoder.tagged_tree hmembers (by decide)]
    rfl
  | dropOff value recipient =>
    have hmembers : ∀ m ∈ dropOffFields.write (value, recipient),
        m.1 ≠ "type" ∧ ∃ v, readAny m.2.tree room = .ok v :=
      List.forall_mem_cons.2 ⟨⟨(by decide : "dropOff" ≠ "type"), readAny_natural h room⟩,
        List.forall_mem_singleton.2 ⟨(by decide : "recipient" ≠ "type"), _, rfl⟩⟩
    show (Decoder.tagged "type" [gasTag, dropOffTag] (room + 1)
      (Value.object (("type", .str dropOffTag) :: dropOffFields.write (value, recipient))).tree >>=
        _) = _
    rw [Decoder.tagged_tree hmembers (by decide)]
    rfl

theorem instructions_of_quote {room : Nat} {t : Tree} {q : RelayQuote}
    (h : quote.read room t = .ok q) : q.instructions = [] := by
  refine Builds.of_read (P := fun q => q.instructions = []) ?_ h
  -- ten fields stand behind the instructions
  iterate 10 refine Builds.seq ?_
  intro room find g hg
  obtain ⟨_, hmk, is, his, rfl⟩ := seq_build_eq_ok.1 hg
  obtain ⟨_, -, rfl⟩ := map_build_eq_ok.1 hmk
  obtain ⟨t, hlist⟩ := exists_of_build_field his
  intros
  exact Decoder.eq_nil_of_list instruction_read_ne_ok hlist

/-! ## Quotes without instructions -/

theorem warning_restores (room : Nat) (w : QuoteWarning) : warning.Restores (room + 1) w := by
  obtain ⟨delay⟩ := w
  have hdelay : (field "delayDurationSecs" id Form.uint64).form.Restores (room + 2) delay :=
    form_restores (field_restores (Form.uint64_restores _ delay)) (by decide)
  refine ⟨.object ?_, ?_⟩
  · exact List.forall_mem_cons.2 ⟨.str _, List.forall_mem_singleton.2 (.int _)⟩
  · have hmembers : ∀ m ∈ [("delayDurationSecs", Value.nat delay.toNat)],
        m.1 ≠ "type" ∧ ∃ v, readAny m.2.tree room = .ok v :=
      List.forall_mem_singleton.2 ⟨(by decide : "delayDurationSecs" ≠ "type"),
        readAny_natural delay.toNat_lt room⟩
    show (Decoder.tagged "type" [capacityTag] (room + 1) (Value.object
      (("type", .str capacityTag) :: [("delayDurationSecs", .nat delay.toNat)])).tree >>= _) = _
    rw [Decoder.tagged_tree hmembers (by decide)]
    exact congrArg (QuoteWarning.destinationCapacity <$> ·) hdelay.read_tree

theorem quote_restores (room : Nat) {q : RelayQuote} (h : Datable q.expires)
    (hnil : q.instructions = []) : quote.Restores (room + 3) q :=
  form_restores
    ((field_restores (bytes_restores _ q.signedQuote)).map RelayQuote.mk
      |>.seq (field_restores (Form.list_restores (by simp [hnil])))
      |>.seq (field_restores (Form.wide_restores _ q.estimatedCost))
      |>.seq (field_restores (address_restores _ q.payee))
      |>.seq (field_restores (address_restores _ q.referrer))
      |>.seq (field_restores (Form.uint64_restores _ q.referrerFee))
      |>.seq (field_restores (Form.uint64_restores _ q.remaining))
      |>.seq (field_restores (Form.uint16_restores _ q.feeRate))
      |>.seq (field_restores (instant_restores _ h))
      |>.seq (field_restores (Form.wide_restores _ q.dropOff))
      |>.seq (field_restores (Form.uint64_restores _ q.received))
      |>.seq (withDefault_restores (Form.list_restores fun w _ => warning_restores room w)))
    (by decide)

/-- **Instructions do not survive their own form.** No text is read as an instruction, and the text
that is written for one is refused for its shape even if all its numbers are small. A written list
of instructions is read back only if it is empty, and a quote only if it has no instructions. -/
theorem instructions_not_read_back (i : RelayInstruction) (is : List RelayInstruction)
    {q : RelayQuote} (h : Datable q.expires) :
    (∀ text, Decoder.ofText instruction.read text ≠ .ok i) ∧
    (Narrow i →
      Decoder.ofText instruction.read (instruction.write i).compact = .error .wrongShape) ∧
    (Decoder.ofText instruction.list.read (instruction.list.write is).compact = .ok is ↔ is = []) ∧
    (Decoder.ofText quote.read (quote.write q).compact = .ok q ↔ q.instructions = []) := by
  refine ⟨fun text hread => ?_, fun hnarrow => ?_, ⟨fun hread => ?_, ?_⟩, fun hread => ?_,
    fun hnil => (quote_restores 124 h hnil).ofText⟩
  · obtain ⟨t, hread⟩ := Decoder.exists_of_ofText hread
    exact instruction_read_ne_ok _ t i hread
  · simp only [Decoder.ofText, Document.ofText_compact (instruction_exact i)]
    rw [maxDepth, instruction_read_narrow 126 hnarrow]
    rfl
  · obtain ⟨t, hread⟩ := Decoder.exists_of_ofText hread
    have hlist : Decoder.list instruction.read maxDepth t = .ok is := hread
    exact Decoder.eq_nil_of_list instruction_read_ne_ok hlist
  · rintro rfl
    exact (Form.list_restores (List.forall_mem_nil _) : instruction.list.Restores 127 []).ofText
  · obtain ⟨t, hread⟩ := Decoder.exists_of_ofText hread
    exact instructions_of_quote hread

/-! An instruction of small numbers, and quotes with and without it that expire at second 200. -/

namespace HeldNumbersSample

def gas : RelayInstruction := .gas 1 2

def listing (is : List RelayInstruction) : RelayQuote where
  signedQuote := [1, 2]
  instructions := is
  estimatedCost := 340282366920938463463374607431768211455
  payee := ⟨Bytes32.ofNat 1⟩
  referrer := ⟨Bytes32.ofNat 2⟩
  referrerFee := 3
  remaining := 4
  feeRate := 5
  expires := ⟨200, 0⟩
  dropOff := 6
  received := 7
  warnings := [.destinationCapacity 86400]

end HeldNumbersSample

open HeldNumbersSample in
theorem instructions_not_read_back_sample :
    Narrow gas ∧ Datable (listing []).expires ∧ Datable (listing [gas]).expires ∧
      Decoder.ofText instruction.read (instruction.write gas).compact = .error .wrongShape ∧
      Decoder.ofText instruction.list.read (instruction.list.write [gas]).compact ≠ .ok [gas] ∧
      Decoder.ofText quote.read (quote.write (listing [])).compact = .ok (listing []) ∧
      Decoder.ofText quote.read (quote.write (listing [gas])).compact ≠ .ok (listing [gas]) := by
  have hnarrow : Narrow gas := ⟨by decide, by decide⟩
  have hexpires (is : List RelayInstruction) : Datable (listing is).expires :=
    datable_of_ofSeconds? (n := 200) rfl
  obtain ⟨-, hgas, hlist, hfull⟩ := instructions_not_read_back gas [gas] (hexpires [gas])
  obtain ⟨-, -, -, hempty⟩ := instructions_not_read_back gas [] (hexpires [])
  refine ⟨hnarrow, hexpires [], hexpires [gas], hgas hnarrow, fun h => ?_, hempty.2 rfl,
    fun h => ?_⟩
  · cases hlist.1 h
  · cases hfull.1 h

/-- The text of an instruction has the shape that is documented for it, and is refused. -/
theorem gas_not_read_back :
    let text := "\x7b\"type\":\"GasInstruction\",\"gasLimit\":1,\"msgValue\":2\x7d"
    (instruction.write (.gas 1 2)).compact = text ∧
      Decoder.ofText instruction.read text = .error .wrongShape := by
  decide +kernel

end Form

end TokenBridge
