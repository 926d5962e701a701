import TokenBridge.Message.Codec
import TokenBridge.Proofs.Conservation
import TokenBridge.Proofs.Reading

/-!
# Messages and their encodings

`Fields` are the contents of an encoded message in the order of the wire, with a payload that is
absent or spelled out. Decoding accepts the byte strings of the fields that fit, and no others
(`decode_eq_ok`); encoding picks one of them for each message, the one without an empty payload
(`encode_eq_ok`). So the two undo each other, up to an empty payload that is spelled out.

A transfer does not look at its payload. It takes orders whose message is too long for the wire
(`order_too_long_to_encode`).
-/

namespace TokenBridge

namespace TransferMessage

open Reading

/-- What an encoded message holds. A payload that is absent and an empty one that is spelled out
are two forms of the same message. -/
structure Fields where
  id : MessageId
  sender : Address
  decimals : UInt8
  units : UInt64
  sourceToken : Address
  recipient : Address
  recipientChain : ChainId
  payload : Option Bytes

namespace Fields

/-- The 79 bytes that every body starts with. -/
def start (f : Fields) : Bytes :=
  [0x99, 0x4E, 0x54, 0x54] ++ [f.decimals] ++ Bytes.ofNat 8 f.units.toNat ++ f.sourceToken.bytes
    ++ f.recipient.bytes ++ Bytes.ofNat 2 f.recipientChain.number.toNat

def trailer : Option Bytes → Bytes
  | none => []
  | some payload => Bytes.ofNat 2 payload.length ++ payload

def body (f : Fields) : Bytes := f.start ++ trailer f.payload

def toBytes (f : Fields) : Bytes :=
  f.id.bytes ++ f.sender.bytes ++ Bytes.ofNat 2 f.body.length ++ f.body

/-- The length of the body can be written in two bytes. -/
def Fits (f : Fields) : Prop := f.body.length < 65536

/-- The message as it comes from a chain and its manager. -/
def message (f : Fields) (sourceChain : ChainId) (sourceManager : Address) : TransferMessage where
  id := f.id
  sourceChain := sourceChain
  sourceManager := sourceManager
  sender := f.sender
  sourceToken := f.sourceToken
  recipientChain := f.recipientChain
  recipient := f.recipient
  amount := ⟨f.units, f.decimals⟩
  payload := f.payload.getD []

theorem length_start (f : Fields) : f.start.length = 79 := by simp [start]

theorem length_body (f : Fields) : f.body.length = 79 + (trailer f.payload).length := by
  rw [body, List.length_append, length_start]

end Fields

/-! ## Encoding -/

/-- The fields that the encoder writes for a message. -/
def fields (m : TransferMessage) : Fields where
  id := m.id
  sender := m.sender
  decimals := m.amount.decimals
  units := m.amount.units
  sourceToken := m.sourceToken
  recipient := m.recipient
  recipientChain := m.recipientChain
  payload := if m.payload.isEmpty then none else some m.payload

theorem message_fields (m : TransferMessage) :
    m.fields.message m.sourceChain m.sourceManager = m := by
  have hpayload : m.fields.payload.getD [] = m.payload := by
    unfold fields
    by_cases h : m.payload.isEmpty = true
    · rw [if_pos h, List.isEmpty_iff.1 h]
      rfl
    · rw [if_neg h]
      rfl
  rw [Fields.message, hpayload]
  rfl

/-- Fields are what the encoder writes for their message, unless they spell out an empty payload. -/
theorem fields_message {f : Fields} (h : f.payload ≠ some []) (chain : ChainId) (manager : Address) :
    (f.message chain manager).fields = f := by
  have hpayload : (if (f.payload.getD []).isEmpty then none else some (f.payload.getD []))
      = f.payload := by
    cases hp : f.payload with
    | none => rfl
    | some p =>
      have hne : p ≠ [] := fun hnil => h (by rw [hp, hnil])
      rw [Option.getD_some, if_neg (mt List.isEmpty_iff.1 hne)]
  rw [fields, Fields.message, hpayload]

theorem body_fields (m : TransferMessage) : m.fields.body = m.body := by
  have htrailer : Fields.trailer m.fields.payload = payloadField m.payload := by
    unfold fields payloadField
    by_cases h : m.payload.isEmpty = true
    · rw [if_pos h, if_pos h]
      rfl
    · rw [if_neg h, if_neg h]
      rfl
  rw [Fields.body, htrailer]
  rfl

theorem encode_eq_ok {m : TransferMessage} {b : Bytes} :
    m.encode = .ok b ↔ m.fields.Fits ∧ m.fields.toBytes = b := by
  unfold encode Fields.Fits Fields.toBytes
  rw [body_fields]
  have hsize : UInt16.size = 65536 := rfl
  by_cases h : m.body.length < 65536
  · rw [if_pos (by omega), Except.ok.injEq]
    exact ⟨fun hb => ⟨h, hb⟩, fun hb => hb.2⟩
  · rw [if_neg (by omega)]
    exact ⟨nofun, fun hb => absurd hb.1 h⟩

theorem fits_fields {m : TransferMessage} : m.fields.Fits ↔ m.payload.length ≤ 65454 := by
  unfold Fields.Fits
  rw [Fields.length_body, fields]
  by_cases h : m.payload.isEmpty = true
  · have hlen : m.payload.length = 0 := by rw [List.isEmpty_iff.1 h]; rfl
    rw [if_pos h, Fields.trailer, List.length_nil]
    omega
  · rw [if_neg h, Fields.trailer, List.length_append, Bytes.length_ofNat]
    omega

/-! ## Decoding -/

theorem readEnvelope_eq_ok {b body : Bytes} {id : MessageId} {sender : Address} :
    readEnvelope.of b = .ok (id, sender, body) ↔
      body.length < 65536 ∧ b = id.bytes ++ sender.bytes ++ Bytes.ofNat 2 body.length ++ body := by
  unfold readEnvelope
  simp only [of_eq_ok, reads_word32.bind_eq_ok, reads_address.bind_eq_ok, reads_uint16.bind_eq_ok,
    run_bind_eq_ok (r := Reading.bytes _), bytes_eq_ok, finish_bind_eq_ok, run_pure_eq_ok]
  constructor
  · rintro ⟨c, word, r₁, rfl, sender', r₂, rfl, length, r₃, rfl, body', c', ⟨hlen, rfl, -⟩, hend, h⟩
    cases h
    refine ⟨hlen ▸ length.toNat_lt, ?_⟩
    rw [hlen, hend, List.append_nil]
    simp only [List.append_assoc]
    rfl
  · rintro ⟨hlt, rfl⟩
    have hlen : (UInt16.ofNat body.length).toNat = body.length := UInt16.toNat_ofNat_of_lt' hlt
    simp only [List.append_assoc]
    refine ⟨_, id.word, _, rfl, sender, _, rfl, .ofNat body.length, body, by rw [hlen], body,
      ⟨_, []⟩, ⟨hlen.symm, (List.append_nil body).symm, rfl⟩, rfl, rfl⟩

/-- At the end of a body stands nothing, or a payload behind its length. -/
theorem readPayload_eq_ok {c : Cursor} {payload : Bytes} {offset : Nat} :
    readPayload c = .ok (payload, ⟨offset, []⟩) ↔
      ∃ t : Option Bytes, (∀ p, t = some p → p.length < 65536) ∧ c.rest = Fields.trailer t ∧
        offset = c.offset + (Fields.trailer t).length ∧ t.getD [] = payload := by
  have hread : readPayload c = if c.rest = [] then .ok ([], c) else
      (uint16 >>= fun length => Reading.bytes length.toNat) c := by
    show (if c.rest.isEmpty then _ else _ : Reading Bytes) c = _
    simp only [List.isEmpty_iff]
    by_cases h : c.rest = []
    · rw [if_pos h, if_pos h]
      rfl
    · rw [if_neg h, if_neg h]
  rw [hread]
  by_cases h : c.rest = []
  · rw [if_pos h]
    constructor
    · intro heq
      cases heq
      exact ⟨none, nofun, rfl, rfl, rfl⟩
    · rintro ⟨t, -, ht, rfl, rfl⟩
      cases t with
      | none => exact congrArg (fun rest => Except.ok ([], Cursor.mk c.offset rest)) h
      | some p => simp [Fields.trailer, h, Bytes.ofNat] at ht
  · rw [if_neg h]
    simp only [reads_uint16.bind_eq_ok, bytes_eq_ok]
    constructor
    · rintro ⟨length, rest, hrest, hlen, rfl, rfl⟩
      have hbytes : c.rest = Fields.trailer (some payload) := by
        rw [hrest, List.append_nil, Fields.trailer, hlen]
      refine ⟨some payload, fun p hp => ?_, hbytes, ?_, rfl⟩
      · cases hp
        rw [hlen]
        exact length.toNat_lt
      · rw [Fields.trailer, List.length_append, Bytes.length_ofNat, Bytes.length_ofNat, Nat.add_assoc]
    · rintro ⟨t, hfit, ht, rfl, rfl⟩
      cases t with
      | none => exact absurd ht h
      | some p =>
        have hlen : (UInt16.ofNat p.length).toNat = p.length :=
          UInt16.toNat_ofNat_of_lt' (hfit p rfl)
        refine ⟨.ofNat p.length, p, ?_, hlen.symm, (List.append_nil p).symm, ?_⟩
        · rw [ht, hlen]
          rfl
        · rw [Fields.trailer, List.length_append, Bytes.length_ofNat, Bytes.length_ofNat,
            Nat.add_assoc]
          rfl

theorem readBody_eq_ok {id : MessageId} {sender manager : Address} {chain : ChainId} {b : Bytes}
    {m : TransferMessage} (hfit : b.length < 65536) :
    (readBody id sender chain manager).of b = .ok m ↔
      ∃ f : Fields, f.id = id ∧ f.sender = sender ∧ f.body = b ∧ f.message chain manager = m := by
  unfold readBody
  simp only [of_eq_ok, run_bind_eq_ok (r := Reading.bytes 4), bytes_eq_ok, Reading.guard_eq_ok,
    reads_uint8.bind_eq_ok, reads_uint64.bind_eq_ok, reads_address.bind_eq_ok,
    reads_chain.bind_eq_ok, run_bind_eq_ok (r := readPayload), finish_bind_eq_ok, run_pure_eq_ok,
    ne_eq, Decidable.not_not]
  constructor
  · rintro ⟨c, tag, c₁, ⟨-, rfl, -⟩, rfl, decimals, r₂, hr₂, units, r₃, rfl, token, r₄, rfl,
      recipient, r₅, rfl, toChain, r₆, rfl, payload, ⟨offset, rest⟩, hpayload, rfl, h⟩
    cases h
    obtain ⟨t, -, ht, -, rfl⟩ := readPayload_eq_ok.1 hpayload
    refine ⟨⟨id, sender, decimals, units, token, recipient, toChain, t⟩, rfl, rfl, ?_, rfl⟩
    rw [hr₂, Bytes.ofNat_one, show r₆ = Fields.trailer t from ht]
    simp only [Fields.body, Fields.start, List.append_assoc]
    rfl
  · rintro ⟨f, rfl, rfl, rfl, rfl⟩
    have hlen := f.length_body
    have hshort (p : Bytes) (hp : f.payload = some p) : p.length < 65536 := by
      rw [hp, Fields.trailer, List.length_append] at hlen
      omega
    refine ⟨⟨_, []⟩, bodyTag, ⟨_, _⟩, ⟨rfl, ?_, rfl⟩, rfl, f.decimals, _, rfl, f.units, _, rfl,
      f.sourceToken, _, rfl, f.recipient, _, rfl, f.recipientChain, _, rfl, f.payload.getD [],
      ⟨_, []⟩, readPayload_eq_ok.2 ⟨f.payload, hshort, rfl, rfl, rfl⟩, rfl, rfl⟩
    rw [Bytes.ofNat_one]
    simp only [Fields.body, Fields.start, List.append_assoc]
    rfl

theorem decode_eq_ok {chain : ChainId} {manager : Address} {b : Bytes} {m : TransferMessage} :
    decode chain manager b = .ok m ↔
      ∃ f : Fields, f.Fits ∧ f.toBytes = b ∧ f.message chain manager = m := by
  unfold decode
  simp only [TokenBridge.bind_eq_ok, Prod.exists, readEnvelope_eq_ok]
  constructor
  · rintro ⟨id, sender, body, ⟨hfit, rfl⟩, hbody⟩
    obtain ⟨f, rfl, rfl, rfl, rfl⟩ := (readBody_eq_ok hfit).1 hbody
    exact ⟨f, hfit, rfl, rfl⟩
  · rintro ⟨f, hfit, rfl, rfl⟩
    exact ⟨f.id, f.sender, f.body, ⟨hfit, rfl⟩, (readBody_eq_ok hfit).2 ⟨f, rfl, rfl, rfl, rfl⟩⟩

/-- What the encoder writes for a message decodes to it. -/
theorem decode_of_encode {m : TransferMessage} {b : Bytes} (h : m.encode = .ok b) :
    decode m.sourceChain m.sourceManager b = .ok m := by
  obtain ⟨hfit, hbytes⟩ := encode_eq_ok.1 h
  exact decode_eq_ok.2 ⟨m.fields, hfit, hbytes, message_fields m⟩

theorem exists_encode_iff {m : TransferMessage} :
    (∃ b, m.encode = .ok b) ↔ m.payload.length ≤ 65454 := by
  simp only [encode_eq_ok, fits_fields]
  exact ⟨fun ⟨_, hfit, _⟩ => hfit, fun hfit => ⟨_, hfit, rfl⟩⟩

/-- An empty payload that is spelled out is dropped by the encoder. -/
theorem fields_message_of_spelled {f : Fields} (h : f.payload = some []) (chain : ChainId)
    (manager : Address) : (f.message chain manager).fields = { f with payload := none } := by
  rw [fields, Fields.message, h]
  rfl

/-- **Encoding and decoding are exact.** A message has an encoding if its payload is short enough,
and decoding that gives the message back. The byte strings that decode are those of the fields
that fit; encoding again gives the same bytes, unless they spell out an empty payload: then its
two zeros are dropped, and the length is less by two. -/
theorem encode_decode_exact :
    (∀ m : TransferMessage,
      ((∃ b, m.encode = .ok b) ↔ m.payload = [] ∨ m.payload.length ≤ 65454) ∧
      ∀ b, m.encode = .ok b → decode m.sourceChain m.sourceManager b = .ok m) ∧
    ∀ (chain : ChainId) (manager : Address),
      (∀ b m, decode chain manager b = .ok m ↔
        ∃ f : Fields, f.Fits ∧ f.toBytes = b ∧ f.message chain manager = m) ∧
      (∀ f : Fields, f.Fits → f.payload ≠ some [] →
        (f.message chain manager).encode = .ok f.toBytes) ∧
      ∀ f : Fields, f.payload = some [] →
        f.toBytes = f.id.bytes ++ f.sender.bytes ++ Bytes.ofNat 2 81 ++ f.start ++ [0, 0] ∧
        (f.message chain manager).encode =
          .ok (f.id.bytes ++ f.sender.bytes ++ Bytes.ofNat 2 79 ++ f.start) := by
  refine ⟨fun m => ⟨?_, fun b => decode_of_encode⟩, fun chain manager => ⟨?_, ?_, ?_⟩⟩
  · rw [exists_encode_iff]
    constructor
    · exact .inr
    · rintro (hnil | hle)
      · rw [hnil]
        exact Nat.zero_le _
      · exact hle
  · exact fun b m => decode_eq_ok
  · intro f hfit hpayload
    rw [encode_eq_ok, fields_message hpayload]
    exact ⟨hfit, rfl⟩
  · intro f hpayload
    constructor
    · rw [Fields.toBytes, Fields.length_body, Fields.body, hpayload]
      simp only [List.append_assoc]
      rfl
    · have hbody : ({ f with payload := none } : Fields).body = f.start := List.append_nil _
      rw [encode_eq_ok, fields_message_of_spelled hpayload, Fields.Fits, Fields.toBytes, hbody,
        f.length_start]
      exact ⟨by decide, rfl⟩

end TransferMessage

namespace Endpoint

/-- The payload has no say in whether a transfer succeeds, or in what it charges. -/
theorem transfer_withPayload (o : TransferOrder) (p : Bytes) (now : UInt64) (e : Endpoint) :
    (transfer { o with payload := p } now e).1 = (transfer o now e).1.map
      (fun t => { t with message := { t.message with payload := p } }) ∧
    (transfer { o with payload := p } now e).2 =
      { (transfer o now e).2 with departures := (transfer { o with payload := p } now e).2.departures }
    := by
  have hmeasure : e.measure { o with payload := p } = e.measure o := rfl
  unfold transfer
  rw [hmeasure]
  generalize (e.measure o >>= _) = quoted
  rcases quoted with err | ⟨trimmed, dust, amount, next | releaseAt⟩
  · exact ⟨rfl, rfl⟩
  · dsimp only
    cases creditInbound { e with outbound := next } o.recipientChain amount.units now with
    | error err => exact ⟨rfl, rfl⟩
    | ok credited => exact ⟨rfl, rfl⟩
  · exact ⟨rfl, rfl⟩

/-- **The message of a transfer can be sent if its payload is short enough**, and only then. The
endpoint writes the payload of the order into the message as it is. -/
theorem ticket_sendable_iff {e : Endpoint} {o : TransferOrder} {now : UInt64} {t : TransferTicket}
    (ht : (transfer o now e).1 = .ok t) :
    (∃ b, t.message.encode = .ok b ∧
      TransferMessage.decode t.message.sourceChain t.message.sourceManager b = .ok t.message) ↔
      o.payload.length ≤ 65454 := by
  obtain ⟨amount, -, hmessage⟩ := measures_of_transfer ht
  have hpayload : t.message.payload = o.payload := by
    rw [hmessage]
    rfl
  rw [← hpayload, ← TransferMessage.exists_encode_iff]
  constructor
  · rintro ⟨b, hb, -⟩
    exact ⟨b, hb⟩
  · rintro ⟨b, hb⟩
    exact ⟨b, hb, TransferMessage.decode_of_encode hb⟩

/-- An order of 500 units with a payload of three bytes. -/
theorem ticket_sendable_iff_sample :
    let e := (Sample.endpoint.run (Sample.opening 1000)).2
    let o : TransferOrder :=
      ⟨5000000000000, ⟨2⟩, Sample.address 3, Sample.address 1, false, [1, 2, 3]⟩
    let m := e.nextMessage o ⟨500, 8⟩
    Reachable e ∧ (transfer o 150 e).1 = .ok ⟨0, m, 0, none⟩ ∧ ∃ b, m.encode = .ok b ∧
      TransferMessage.decode m.sourceChain m.sourceManager b = .ok m := by
  intro e o m
  have ht : (transfer o 150 e).1 = .ok ⟨0, m, 0, none⟩ := by decide +kernel
  exact ⟨(Reachable.start Sample.establish_eq).run _, ht, (ticket_sendable_iff ht).2 (by decide)⟩

/-- The endpoint takes an order with a payload of 65455 bytes, numbers it and charges for it, but
its message has no encoding. -/
theorem order_too_long_to_encode :
    let e := (Sample.endpoint.run (Sample.opening 1000)).2
    let o : TransferOrder := ⟨5000000000000, ⟨2⟩, Sample.address 3, Sample.address 1, false,
      List.replicate 65455 0⟩
    let m := e.nextMessage o ⟨500, 8⟩
    Reachable e ∧ (transfer o 150 e).1 = .ok ⟨0, m, 0, none⟩ ∧ (∀ b, m.encode ≠ .ok b) ∧
      (transfer o 150 e).2.nextSequence = 1 ∧ (transfer o 150 e).2.outbound.remaining = 500 := by
  intro e o m
  -- computed without the payload, which the transfer does not look at
  let plain : TransferOrder := { o with payload := [] }
  obtain ⟨hticket, hnext⟩ := transfer_withPayload plain o.payload 150 e
  have hplain : (transfer plain 150 e).1 = .ok ⟨0, e.nextMessage plain ⟨500, 8⟩, 0, none⟩ := by
    decide +kernel
  have hcharged : (transfer plain 150 e).2.nextSequence = 1 ∧
      (transfer plain 150 e).2.outbound.remaining = 500 := by decide +kernel
  rw [hplain] at hticket
  refine ⟨(Reachable.start Sample.establish_eq).run _, hticket, ?_, ?_, ?_⟩
  · intro b hb
    have hle : m.payload.length ≤ 65454 := TransferMessage.exists_encode_iff.1 ⟨b, hb⟩
    have hlen : m.payload.length = 65455 := List.length_replicate
    omega
  · exact (congrArg Endpoint.nextSequence hnext).trans hcharged.1
  · exact (congrArg (fun next => next.outbound.remaining) hnext).trans hcharged.2

end Endpoint

end TokenBridge
