import TokenBridge.Relay.Quoting
import TokenBridge.Proofs.History
import TokenBridge.Proofs.Instruction
import TokenBridge.Proofs.Outcome
import TokenBridge.Proofs.Referral
import TokenBridge.Proofs.Transcript

/-!
# What a quote guarantees

Nothing that the executor or the destination answers is trusted. A quote that comes out all the same
is `SafeFor` the request: it is signed for the route, it is valid until it expires and not a moment
longer, and its instructions stay within what the executor has advertised. Each check has its
equivalence here (`servedBy_eq_ok`, `plan_eq_ok`, `signedQuoteOf_eq_ok`), and
`quote_safe` reads them off the transcript of a quote.
-/

namespace TokenBridge

open Conversation Dialogue

/-! ## Limits -/

namespace Capabilities

/-- The instructions stay within the limits, in sums over the naturals. -/
structure Covers (c : Capabilities) (is : List RelayInstruction) : Prop where
  gasLimit : (is.map RelayInstruction.gasUnits).sum ≤ c.maxGasLimit.toNat
  value : (is.map RelayInstruction.valueUnits).sum + (is.map RelayInstruction.dropOffUnits).sum ≤
    c.maxMsgValue.toNat

/-- No sum overflows where the limits are kept, since the limits are words. -/
theorem checkLimits_eq_ok {c : Capabilities} {is : List RelayInstruction} :
    c.checkLimits is = .ok () ↔ c.Covers is := by
  simp only [checkLimits, bind_eq_ok, guard_eq_ok, last_guard_eq_ok,
    RelayInstruction.totals_eq_ok, RelayInstruction.addWide_eq_ok, BitVec.lt_def, Nat.not_lt]
  constructor
  · rintro ⟨total, ⟨hgas, hvalue, hdrop⟩, hlimit, sum, hsum, hmost⟩
    exact ⟨by rwa [← hgas], by rwa [← hvalue, ← hdrop, ← hsum]⟩
  · rintro ⟨hgas, hvalue⟩
    -- each sum is a word, because it is at most a limit
    have hgasLt := c.maxGasLimit.isLt
    have hvalueLt := c.maxMsgValue.isLt
    obtain ⟨gas, hgasEq⟩ := Wide.exists_toNat (Nat.lt_of_le_of_lt hgas hgasLt)
    obtain ⟨sum, hsumEq⟩ := Wide.exists_toNat (Nat.lt_of_le_of_lt hvalue hvalueLt)
    obtain ⟨value, hvalueEq⟩ :=
      Wide.exists_toNat (n := (is.map RelayInstruction.valueUnits).sum) (by omega)
    obtain ⟨drop, hdropEq⟩ :=
      Wide.exists_toNat (n := (is.map RelayInstruction.dropOffUnits).sum) (by omega)
    refine ⟨⟨gas, value, drop⟩, ⟨hgasEq, hvalueEq, hdropEq⟩, ?_, sum, ?_, ?_⟩
    · rwa [hgasEq]
    · rw [hsumEq, hvalueEq, hdropEq]
    · rwa [hsumEq]

theorem plan_eq_ok {c : Capabilities} {gasLimit msgValue dropOff : Wide} {recipient : Address}
    {is : List RelayInstruction} (h : c.plan gasLimit msgValue dropOff recipient = .ok is) :
    c.Covers is ∧ is.all (RelayQuote.dropsOffAt recipient) = true := by
  simp only [plan, bind_eq_ok, pure_eq_ok] at h
  obtain ⟨_, hlimits, rfl⟩ := h
  refine ⟨checkLimits_eq_ok.1 hlimits, ?_⟩
  split
  · rfl
  · simp [RelayQuote.dropsOffAt]

end Capabilities

theorem servedBy_eq_ok {table : CapabilityTable} {source destination : ChainId}
    {offer : Capabilities} : servedBy table source destination = .ok offer ↔
      (table.get? source).isSome = true ∧ table.get? destination = some offer ∧
        offer.supports .nativeTransfer = true := by
  simp only [servedBy, guard_eq_ok]
  refine and_congr (by cases table.get? source <;> simp) ?_
  cases table.get? destination with
  | none =>
    constructor
    · intro hthrow
      cases hthrow
    · rintro ⟨hnone, -⟩
      cases hnone
  | some c =>
    by_cases h : c.supports .nativeTransfer = true
    · simp only [if_pos h, pure_eq_ok, Option.some.injEq]
      exact ⟨fun hc => ⟨hc, hc ▸ h⟩, fun hc => hc.1⟩
    · simp only [if_neg h, Option.some.injEq]
      constructor
      · intro hthrow
        cases hthrow
      · rintro ⟨rfl, hc⟩
        exact absurd hc h

theorem signedQuoteOf_eq_ok {reply : QuoteReply} {source destination : ChainId} {now : Instant}
    {bytes : Bytes} {header : SignedQuote} :
    signedQuoteOf reply source destination now = .ok (bytes, header) ↔
      SignedQuote.bytesOfHex reply.signedQuote = .ok bytes ∧
        SignedQuote.ofBytes bytes = .ok header ∧ header.source = source ∧
        header.destination = destination ∧ now < header.expiry := by
  simp only [signedQuoteOf, bind_eq_ok, guard_eq_ok, pure_eq_ok, not_or, not_not, Instant.not_le]
  constructor
  · rintro ⟨_, hbytes, _, hheader, ⟨hsource, hdestination⟩, hexpiry, hpair⟩
    cases hpair
    exact ⟨hbytes, hheader, hsource, hdestination, hexpiry⟩
  · rintro ⟨hbytes, hheader, hsource, hdestination, hexpiry⟩
    exact ⟨bytes, hbytes, header, hheader, ⟨hsource, hdestination⟩, hexpiry, rfl⟩

/-! ## Quotes -/

/-- The capacity at the destination is all that the warnings ask for. -/
theorem yields_capacityWarnings (source : ChainId) (received : UInt64) :
    Yields (fun c => c = .ratePeriod ∨ c = .inboundCapacity source) (fun _ => True)
      (capacityWarnings source received) := by
  refine (yields_call (.inl rfl)).bind fun period _ => ?_
  by_cases h : period = (0 : UInt64)
  · rw [if_pos h]
    exact yields_pure trivial
  · rw [if_neg h]
    exact (yields_call (.inr rfl)).bind fun capacity _ => yields_pure trivial

namespace RelayQuote

/-- The quote can be submitted for the request until it expires. -/
structure SafeFor (q : RelayQuote) (r : TransferRequest) (offer : Capabilities) (now : Instant) :
    Prop where
  /-- What is signed is the route, the payee and the expiry of the quote. -/
  signed : ∃ header, SignedQuote.ofBytes q.signedQuote = .ok header ∧ header.source = r.source ∧
    header.destination = r.destination ∧ header.payee = q.payee ∧ header.expiry = q.expires
  fresh : now < q.expires
  validate_of_lt : ∀ t < q.expires, q.validate r.recipient t = .ok ()
  validate_of_le : ∀ t ≥ q.expires, q.validate r.recipient t = .error (.quoteExpired q.expires)
  covered : offer.Covers q.instructions
  remaining_pos : 0 < q.remaining
  remaining_le : q.remaining ≤ r.amount

/-- Time is all that can still invalidate instructions that drop off at the recipient. -/
theorem validate_eq {q : RelayQuote} {recipient : Address}
    (h : q.instructions.all (dropsOffAt recipient) = true) (t : Instant) :
    q.validate recipient t =
      if q.expires.le t then .error (.quoteExpired q.expires) else .ok () := by
  rw [validate, isExpired, if_pos h]

end RelayQuote

/-- What went on before a quote came out, and what it is then. -/
theorem ends_quoting {s : QuoteSettings} {r : TransferRequest} {fraction : Float} {now : Instant}
    {events : Events} {q : RelayQuote} (h : (quoting s r fraction now).Ends events (.ok q)) :
    ∃ table offer estimate reply after,
      events = .asked .capabilities (.ok table) ::
        .asked (.estimateGas (if r.recipient.isZero then none else some r.recipient))
          (.ok estimate) ::
        .asked (.signedQuote r.source r.destination q.instructions) (.ok reply) :: after ∧
      (∀ c outcome, .asked c outcome ∈ after → c = .ratePeriod ∨ c = .inboundCapacity r.source) ∧
      servedBy table r.source r.destination = .ok offer ∧ q.SafeFor r offer now := by
  -- the lines of the dialogue, one after another
  obtain ⟨referrer, -, h⟩ := Ends.of_lift h
  obtain ⟨fee, hfee, h⟩ := Ends.of_lift h
  obtain ⟨table, _, hasked, h⟩ := Ends.of_call h
  obtain ⟨offer, hoffer, h⟩ := Ends.of_lift h
  obtain ⟨dropOff, -, h⟩ := Ends.of_lift h
  obtain ⟨estimate, _, hestimated, h⟩ := Ends.of_call h
  obtain ⟨instructions, hplan, h⟩ := Ends.of_lift h
  obtain ⟨reply, after, hpriced, h⟩ := Ends.of_call h
  obtain ⟨cost, -, h⟩ := Ends.of_lift h
  obtain ⟨⟨bytes, header⟩, hheader, h⟩ := Ends.of_lift h
  obtain ⟨received, -, h⟩ := Ends.of_lift h
  rcases ends_bind.1 h with ⟨_, _, herr⟩ | ⟨warnings, before, last, hafter, hbefore, hend⟩
  · cases herr
  obtain ⟨rfl, hq⟩ := ends_pure.1 hend
  cases hq
  subst hasked hestimated hpriced hafter
  obtain ⟨-, hbytes, hsource, hdestination, hfresh⟩ := signedQuoteOf_eq_ok.1 hheader
  obtain ⟨hcovers, hdropOff⟩ := Capabilities.plan_eq_ok hplan
  obtain ⟨hpos, hle⟩ := referrerFee_remaining hfee
  refine ⟨table, offer, estimate, reply, _, rfl, ?_, hoffer, ?_⟩
  · rw [List.append_nil]
    exact (yields_capacityWarnings _ _ before _ hbefore).1
  · refine ⟨⟨header, hbytes, hsource, hdestination, rfl, rfl⟩, hfresh, ?_, ?_, hcovers, hpos, hle⟩
    · intro t ht
      rw [RelayQuote.validate_eq hdropOff, if_neg (Instant.not_le.2 ht)]
    · intro t ht
      rw [RelayQuote.validate_eq hdropOff]
      exact if_pos ht

/-- **A quote that comes out is safe, whoever answers.** The executor and the destination may reply
anything, and the replies may depend on all that was said before. The executor was asked to price
exactly the instructions of the quote, and before that it has advertised both chains of the route
with limits that these instructions keep. -/
theorem quote_safe (s : QuoteSettings) (r : TransferRequest) (fraction : Float) (now : Instant)
    (answer : Events → (c : Call) → c.Outcome) (log : Events) (q : RelayQuote)
    (h : ((quoting s r fraction now).run.record answer log).1 = .ok q) :
    ∃ table offer estimate reply after,
      ((quoting s r fraction now).run.record answer log).2 = log ++
        .asked .capabilities (.ok table) ::
        .asked (.estimateGas (if r.recipient.isZero then none else some r.recipient))
          (.ok estimate) ::
        .asked (.signedQuote r.source r.destination q.instructions) (.ok reply) :: after ∧
      (∀ c outcome, .asked c outcome ∈ after → c = .ratePeriod ∨ c = .inboundCapacity r.source) ∧
      (table.get? r.source).isSome = true ∧ table.get? r.destination = some offer ∧
      offer.supports .nativeTransfer = true ∧ q.SafeFor r offer now := by
  obtain ⟨events, hlog, hends⟩ := transcript_record answer log (quoting s r fraction now).run
  rw [h] at hends
  obtain ⟨table, offer, estimate, reply, after, rfl, hafter, hoffer, hsafe⟩ := ends_quoting hends
  obtain ⟨hsource, hdestination, hkind⟩ := servedBy_eq_ok.1 hoffer
  exact ⟨table, offer, estimate, reply, after, hlog, hafter, hsource, hdestination, hkind, hsafe⟩

/-! A transfer from chain 1 to chain 2, of which one percent goes to a referrer. -/

namespace QuotingSample

open Sample (address)

/-- 5790 units with 9 decimals, for a chain with 18. -/
def request : TransferRequest :=
  ⟨⟨1⟩, ⟨2⟩, address 1, address 3, address 85, address 238, 5790, 9, 18, false⟩

def settings : QuoteSettings := ⟨1000, 8, some (address 9), .empty, .empty⟩

def offer : Capabilities := ⟨[.nativeTransfer], 0, 300000, 1000⟩

def table : CapabilityTable := ⟨[(⟨1⟩, ⟨[], 0, 0, 0⟩), (⟨2⟩, offer)]⟩

/-- A quote for the route from chain 1 to chain 2. -/
def signed : Bytes :=
  SignedQuote.tag ++ List.replicate 20 81 ++ (address 7).bytes ++ [0, 1, 0, 2] ++
    Bytes.ofNat 8 160 ++ List.replicate 32 0 ++ List.replicate 65 83

/-- Backends that ask for all that the offer allows, and have no capacity left. -/
def answer (_ : Events) : (c : Call) → c.Outcome
  | .capabilities => .ok table
  | .estimateGas _ => .ok ⟨300000, 1000⟩
  | .signedQuote .. => .ok ⟨Hex.prefixed signed, some "12"⟩
  | .ratePeriod => .ok 86400
  | .inboundCapacity _ => .ok 0
  | _ => .error .missingAttestation

def header : SignedQuote where
  quoter := ⟨List.replicate 20 81, rfl⟩
  payee := address 7
  source := ⟨1⟩
  destination := ⟨2⟩
  expiry := ⟨160, 0⟩
  baseFee := 0
  gasPrice := 0
  sourcePrice := 0
  destinationPrice := 0
  signature := ⟨List.replicate 65 83, rfl⟩

def quote : RelayQuote where
  signedQuote := signed
  instructions := [.gas 300000 1000]
  estimatedCost := 12
  payee := address 7
  referrer := address 9
  referrerFee := 57
  remaining := 5740
  feeRate := 1000
  expires := ⟨160, 0⟩
  dropOff := 0
  received := 5740000000000
  warnings := [.destinationCapacity 86400]

def transcript : Events := [
  .asked .capabilities (.ok table),
  .asked (.estimateGas (some (address 3))) (.ok ⟨300000, 1000⟩),
  .asked (.signedQuote ⟨1⟩ ⟨2⟩ quote.instructions) (.ok ⟨Hex.prefixed signed, some "12"⟩),
  .asked .ratePeriod (.ok 86400),
  .asked (.inboundCapacity ⟨1⟩) (.ok 0)]

end QuotingSample

open QuotingSample Sample in
/-- Of a fee of 57 units 50 are kept back, since the destination cannot count the other 7. -/
theorem quote_safe_sample :
    (quoting settings request 0 ⟨150, 0⟩).run.record answer [] = (.ok quote, transcript) ∧
      quote.SafeFor request offer ⟨150, 0⟩ := by
  have hreferrer : settings.referrerFor request.source = .ok (address 9) := rfl
  have hfee : referrerFee request.amount request.sourceDecimals
      (settings.feeRateFor request.source request.sourceToken) request.destinationDecimals
      settings.maxDecimals = .ok ⟨57, 5740, 1000⟩ := rfl
  have hoffer : servedBy table request.source request.destination = .ok offer := rfl
  have hdropOff : dropOffShare 0 offer.dropOffLimit = .ok 0 := by decide
  have hhex : SignedQuote.bytesOfHex (Hex.prefixed signed) = .ok signed := by
    rw [SignedQuote.bytesOfHex, Hex.unprefixed_prefixed, Hex.decode_toString]
  have hsigned : signedQuoteOf ⟨Hex.prefixed signed, some "12"⟩ request.source
      request.destination ⟨150, 0⟩ = .ok (signed, header) :=
    signedQuoteOf_eq_ok.2 ⟨hhex, by decide +kernel, rfl, rfl, by decide⟩
  have htable (log) : answer log .capabilities = .ok table := rfl
  have hestimate (log recipient) : answer log (.estimateGas recipient) = .ok ⟨300000, 1000⟩ := rfl
  have hreply (log source destination is) : answer log (.signedQuote source destination is) =
      .ok ⟨Hex.prefixed signed, some "12"⟩ := rfl
  have hrun : (quoting settings request 0 ⟨150, 0⟩).run.record answer [] =
      (.ok quote, transcript) := by
    rw [quoting, record_lift_bind hreferrer, record_lift_bind hfee, record_call_bind (htable _),
      record_lift_bind hoffer, record_lift_bind hdropOff, record_call_bind (hestimate _ _)]
    refine (record_lift_bind (a := quote.instructions) (by rfl)).trans ?_
    rw [record_call_bind (hreply _ _ _ _)]
    refine (record_lift_bind (a := 12) (by rfl)).trans ?_
    rw [record_lift_bind hsigned]
    rfl
  obtain ⟨table', offer', _, _, _, hlog, -, -, hoffer', -, hsafe⟩ :=
    quote_safe settings request 0 ⟨150, 0⟩ answer [] quote (by rw [hrun])
  rw [hrun, List.nil_append] at hlog
  obtain rfl : table = table' := by
    injection hlog with hfirst
    injection hfirst with _ hreply
    exact Except.ok.inj hreply
  cases hoffer'
  exact ⟨hrun, hsafe⟩

end TokenBridge
