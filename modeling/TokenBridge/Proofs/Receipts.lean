import TokenBridge.Form.Transfer
import TokenBridge.Proofs.Hex
import TokenBridge.Proofs.Json.Restoring
import TokenBridge.Proofs.Timestamps

/-!
# Stored receipts

The parts of a receipt, one by one, are read as they were written, each with as much room as it has
levels, and so is the whole (`receipt_restores`). The text of a time is the only one that not all
values have: the calendar has to reach it.
-/

namespace TokenBridge

/-! ## Identities, bytes and times -/

theorem Address.ofHex_text (a : Address) : Address.ofHex a.text = .ok a := by
  have hlen : (Hex.toString a.bytes).utf8ByteSize = 64 := by
    rw [Hex.utf8ByteSize_toString, a.length_bytes]
  have hword : Bytes32.ofHex "address" a.text = .ok a.word := by
    simp only [Bytes32.ofHex, text, Hex.unprefixed_prefixed, Hex.decode_toString]
    rw [Bytes32.ofBytes?, dif_pos a.length_bytes]
    rfl
  rw [ofHex, text, Hex.unprefixed_prefixed, hlen, if_neg (by decide), ← text, hword]
  rfl

namespace Form

open Json Record

theorem chain_restores (room : Nat) (c : ChainId) : chain.Restores room c :=
  (Form.uint16_restores room c.number).via rfl

theorem address_restores (room : Nat) (a : Address) : address.Restores room a :=
  Form.ofText_restores (by rw [Address.ofHex_text]; rfl) room

theorem bytes_restores (room : Nat) (b : Bytes) : bytes.Restores room b :=
  Form.ofText_restores (by rw [Hex.unprefixed_prefixed, Hex.decode_toString]; rfl) room

theorem messageId_restores (room : Nat) (i : MessageId) : messageId.Restores (room + 1) i := by
  have hwrite : i.bytes.map (fun b => Value.nat b.toNat) = i.bytes.map Form.uint8.write := rfl
  refine ⟨.list fun v hv => ?_, ?_⟩
  · obtain ⟨b, -, rfl⟩ := List.mem_map.1 hv
    exact .int b.toNat
  · show MessageId.mk <$> Decoder.exactly 32 Form.uint8.read (room + 1) (Value.list _).tree = _
    rw [hwrite, Form.exactly_tree i.length_bytes fun b _ => Form.uint8_restores room b]
    rfl

/-- A time that the calendar reaches, and no leap second. -/
structure Datable (t : Instant) : Prop where
  min_le : Instant.minSeconds ≤ t.seconds
  le_max : t.seconds ≤ Instant.maxSeconds
  nanos_lt : t.nanos < 1000000000

theorem datable_of_ofSeconds? {n : Int} {t : Instant} (h : Instant.ofSeconds? n = some t) :
    Datable t := by
  unfold Instant.ofSeconds? at h
  split at h
  · rename_i hrange
    cases h
    exact ⟨hrange.1, hrange.2, Nat.succ_pos 999999999⟩
  · cases h

theorem instant_restores (room : Nat) {t : Instant} (h : Datable t) : instant.Restores room t :=
  Form.ofText_restores (Instant.ofRfc3339?_rfc3339 h.min_le h.le_max h.nanos_lt) room

theorem transaction_restores (room : Nat) (t : Transaction) : transaction.Restores (room + 1) t :=
  form_restores
    ((field_restores (chain_restores room t.chain)).map Transaction.mk
      |>.seq (field_restores (Form.text_restores room t.hash)))
    (by decide)

/-! ## Messages and attestations -/

theorem amount_restores (room : Nat) (a : Amount) : amount.Restores (room + 1) a :=
  form_restores
    ((field_restores (Form.uint64_restores room a.units)).map Amount.mk
      |>.seq (field_restores (Form.uint8_restores room a.decimals)))
    (by decide)

theorem message_restores (room : Nat) (m : TransferMessage) : message.Restores (room + 2) m :=
  form_restores
    ((field_restores (messageId_restores room m.id)).map TransferMessage.mk
      |>.seq (field_restores (chain_restores _ m.sourceChain))
      |>.seq (field_restores (address_restores _ m.sourceManager))
      |>.seq (field_restores (address_restores _ m.sender))
      |>.seq (field_restores (address_restores _ m.sourceToken))
      |>.seq (field_restores (chain_restores _ m.recipientChain))
      |>.seq (field_restores (address_restores _ m.recipient))
      |>.seq (field_restores (amount_restores room m.amount))
      |>.seq (withDefault_restores (bytes_restores _ m.payload)))
    (by decide)

theorem attestation_restores (room : Nat) (a : Attestation) : attestation.Restores (room + 3) a :=
  form_restores
    ((field_restores (chain_restores _ a.emitterChain)).map Attestation.mk
      |>.seq (field_restores (address_restores _ a.emitter))
      |>.seq (field_restores (Form.uint64_restores _ a.sequence))
      |>.seq (field_restores (message_restores room a.message)))
    (by decide)

/-! ## Receipts -/

theorem stage_restores (room : Nat) (s : Stage) : stage.Restores room s :=
  Form.names_restores (by cases s <;> rfl) room

theorem failureClass_restores (room : Nat) (c : FailureClass) : failureClass.Restores room c :=
  Form.names_restores (by cases c <;> rfl) room

theorem relayStatus_restores (room : Nat) (s : RelayStatus) : relayStatus.Restores room s :=
  Form.names_restores (by cases s <;> rfl) room

theorem failure_restores (room : Nat) (f : TransferFailure) : failure.Restores (room + 1) f :=
  form_restores
    ((field_restores (failureClass_restores room f.cause)).map TransferFailure.mk
      |>.seq (field_restores (Form.text_restores _ f.reason))
      |>.seq (optional_restores fun s _ => ⟨relayStatus_restores _ s, nofun⟩)
      |>.seq (field_restores (stage_restores _ f.lastStage)))
    (by decide)

theorem receipt_restores (room : Nat) {r : Receipt} (h : ∀ t ∈ r.queueReleaseTime, Datable t) :
    receipt.Restores (room + 4) r :=
  form_restores
    ((field_restores (chain_restores _ r.source)).map Receipt.mk
      |>.seq (field_restores (chain_restores _ r.destination))
      |>.seq (field_restores (stage_restores _ r.stage))
      |>.seq (field_restores (Form.list_restores fun t _ => transaction_restores _ t))
      |>.seq (optional_restores fun a _ => ⟨attestation_restores room a, nofun⟩)
      |>.seq (field_restores (Form.list_restores fun t _ => transaction_restores _ t))
      |>.seq (optional_restores fun t ht => ⟨instant_restores _ (h t ht), nofun⟩)
      |>.seq (optional_restores fun f _ => ⟨failure_restores _ f, nofun⟩))
    (by decide)

/-- **A stored receipt is read back.** This holds whatever its stage and its transactions, with any
attestation and any record of a failure, and for every time of release that the calendar reaches. -/
theorem receipt_restored (r : Receipt) (h : ∀ t ∈ r.queueReleaseTime, Datable t) :
    Decoder.ofText receipt.read (receipt.write r).compact = .ok r :=
  (receipt_restores 123 h).ofText

/-! A receipt with all that one can have, in texts that need escapes; it waits for second 200. -/

namespace ReceiptsSample

def carried : TransferMessage :=
  ⟨⟨Bytes32.ofNat 7⟩, ⟨2⟩, ⟨Bytes32.ofNat 85⟩, ⟨Bytes32.ofNat 1⟩, ⟨Bytes32.ofNat 102⟩, ⟨1⟩,
    ⟨Bytes32.ofNat 3⟩, ⟨18446744073709551615, 8⟩, [0, 255]⟩

def waiting : Receipt :=
  ⟨⟨2⟩, ⟨1⟩, .destinationQueued, [⟨⟨2⟩, "a\"\n\x01"⟩],
    some ⟨⟨2⟩, ⟨Bytes32.ofNat 161⟩, 0, carried⟩, [], some ⟨200, 0⟩,
    some ⟨.relay, "é\\", some .unknown, .attested⟩⟩

end ReceiptsSample

open ReceiptsSample in
theorem receipt_restored_sample :
    Instant.ofSeconds? 200 = some ⟨200, 0⟩ ∧ (∀ t ∈ waiting.queueReleaseTime, Datable t) ∧
      Decoder.ofText receipt.read (receipt.write waiting).compact = .ok waiting := by
  have htime : ∀ t ∈ waiting.queueReleaseTime, Datable t :=
    fun t ht => datable_of_ofSeconds? (n := 200) ht
  exact ⟨rfl, htime, receipt_restored waiting htime⟩

end Form

end TokenBridge
