import Mathlib
import CrossCall.Proofs.Abi.RoundTrip
import CrossCall.Proofs.Rlp.Reader
import CrossCall.Proofs.Settlement.Snapshot
import CrossCall.Settlement.Claim

/-!
# Reading a claim

The contract that pays a reward knows nothing but the data of the call: a message, a payee, and a
byte string that is itself contract data, in which the trie nodes are lists with length prefixes. All
of it reads back, so the data determines what is claimed.

A bundle can be read off its contract data field by field, by readers that do not know the bundle.
`ProofBundle.WrittenIn` says what they find. Two bundles in the same data are then the same, and the
writing is injective without any look at its bytes.

## Main definitions

* `SlotProof.WrittenIn`, `L1StateProof.WrittenIn`, `ProofBundle.WrittenIn` — what the readers of the
  contract data find
* `ClaimConveys` — what a contract finds in the data of a claim

## Main results

* `ProofBundle.WrittenIn.unique` — contract data is that of one bundle at most
* `ProofBundle.writtenIn_toValue` — a bundle is found in its own contract data
* `ProofBundle.claim_conveys` — a claim conveys its message, its bundle and its payee, and no other
  bundle has the same writing
-/

namespace CrossCall

/-! ### What the readers find -/

/-- The readers find a proven slot: two strings of 32 bytes, and two lists with length prefixes. -/
inductive SlotProof.WrittenIn (p : SlotProof) : SlotProof.ty.Value → Prop
  | intro {slot value account storage : Bytes} (slot_length : slot.length = 32)
      (slot_eq : Bytes.toBitVec 256 slot = p.slot) (value_length : value.length = 32)
      (value_eq : Bytes.toBitVec 256 value = p.value)
      (account_eq : Rlp.strings? account = some p.accountNodes)
      (storage_eq : Rlp.strings? storage = some p.storageNodes) :
      WrittenIn p (slot, value, account, storage, ())

/-- The readers find a state proof. -/
inductive L1StateProof.WrittenIn (p : L1StateProof) : L1StateProof.ty.Value → Prop
  | intro {timestamp : Word} (timestamp_eq : timestamp.toNat = p.beaconTimestamp.toNat) :
      WrittenIn p (p.beaconRoot, timestamp, p.executionStateRoot, p.stateRootProof, ())

/-- The readers find a bundle. -/
inductive ProofBundle.WrittenIn (b : ProofBundle) : ProofBundle.ty.Value → Prop
  | intro {after : AssertionState.ty.Value} {l1State : L1StateProof.ty.Value}
      {assertionProof inboxProof : SlotProof.ty.Value}
      (after_eq : AssertionState.ofValue after = .ok b.assertion.afterState)
      (l1State_in : b.l1State.WrittenIn l1State)
      (assertionProof_in : b.assertionProof.WrittenIn assertionProof)
      (inboxProof_in : b.inboxProof.WrittenIn inboxProof) :
      WrittenIn b
        (b.assertion.encodedHeader, after, b.assertion.prevAssertionHash,
          b.assertion.sequencerBatchAcc, l1State, assertionProof, inboxProof, ())

theorem SlotProof.WrittenIn.unique {p p' : SlotProof} {v : SlotProof.ty.Value} (h : p.WrittenIn v)
    (h' : p'.WrittenIn v) : p = p' := by
  obtain ⟨slot, value, accountNodes, storageNodes⟩ := p
  obtain ⟨-, hslot, -, hvalue, haccount, hstorage⟩ := h
  obtain ⟨-, hslot', -, hvalue', haccount', hstorage'⟩ := h'
  rw [haccount] at haccount'
  rw [hstorage] at hstorage'
  cases haccount'
  cases hstorage'
  simp only at hslot hvalue
  rw [← hslot, ← hvalue, hslot', hvalue']

theorem L1StateProof.WrittenIn.unique {p p' : L1StateProof} {v : L1StateProof.ty.Value}
    (h : p.WrittenIn v) (h' : p'.WrittenIn v) : p = p' := by
  obtain ⟨root, timestamp, stateRoot, path⟩ := p
  obtain ⟨root', timestamp', stateRoot', path'⟩ := p'
  cases h with
  | intro htimestamp =>
    cases h' with
    | intro htimestamp' =>
      have heq : timestamp = timestamp' := BitVec.eq_of_toNat_eq (htimestamp.symm.trans htimestamp')
      rw [heq]

/-- Contract data is that of one bundle at most. -/
theorem ProofBundle.WrittenIn.unique {b b' : ProofBundle} {v : ProofBundle.ty.Value}
    (h : b.WrittenIn v) (h' : b'.WrittenIn v) : b = b' := by
  obtain ⟨l1State, ⟨header, afterState, parent, accumulator⟩, assertionProof, inboxProof⟩ := b
  obtain ⟨l1State', ⟨header', afterState', parent', accumulator'⟩, assertionProof', inboxProof'⟩ := b'
  cases h with
  | intro hafter hl1State hassertion hinbox =>
    cases h' with
    | intro hafter' hl1State' hassertion' hinbox' =>
      obtain rfl : afterState = afterState' := by simpa [hafter] using hafter'
      obtain rfl := hl1State.unique hl1State'
      obtain rfl := hassertion.unique hassertion'
      obtain rfl := hinbox.unique hinbox'
      rfl

/-! ### What is written -/

/-- A proven slot is found in its own contract data. -/
theorem SlotProof.writtenIn_toValue {p : SlotProof}
    (h : (Abi.encode SlotProof.ty p.toValue).length < 2 ^ 64) : p.WrittenIn p.toValue := by
  rw [Abi.encode_tuple] at h
  have hparts : ∀ nodes ∈ [p.accountRlp, p.storageRlp], nodes.length < 2 ^ 64 := by
    intro nodes hnodes
    have hmem : Abi.Ty.part .bytes nodes ∈
        Abi.parts [.bytes, .bytes, .bytes, .bytes] p.toValue := by
      simp only [List.mem_cons, List.not_mem_nil, or_false] at hnodes
      rcases hnodes with rfl | rfl <;> simp [toValue, Abi.parts, Abi.Ty.part]
    calc nodes.length ≤ (Abi.encode .bytes nodes).length := Abi.length_le_length_encode_bytes nodes
      _ ≤ _ := Abi.length_encode_le_length_encodeRow hmem
      _ < 2 ^ 64 := h
  exact .intro (Bytes.length_ofBitVec p.slot) (Bytes.toBitVec_ofBitVec p.slot)
    (Bytes.length_ofBitVec p.value) (Bytes.toBitVec_ofBitVec p.value)
    (Rlp.strings?_encodeStrings (hparts p.accountRlp (by simp)))
    (Rlp.strings?_encodeStrings (hparts p.storageRlp (by simp)))

theorem L1StateProof.writtenIn_toValue (p : L1StateProof) : p.WrittenIn p.toValue :=
  .intro (by rw [BitVec.toNat_setWidth, Nat.mod_eq_of_lt (by omega)])

namespace ProofBundle

/-- A bundle is found in its own contract data. -/
theorem writtenIn_toValue {b : ProofBundle} (h : b.encode.length < 2 ^ 64) :
    b.WrittenIn b.toValue := by
  have hrow : (Abi.encode ty b.toValue).length ≤ b.encode.length :=
    Abi.length_encode_le_length_encodeRow (by simp [Abi.parts, Abi.Ty.part])
  rw [Abi.encode_tuple] at hrow
  have hslots : ∀ p ∈ [b.assertionProof, b.inboxProof],
      (Abi.encode SlotProof.ty p.toValue).length < 2 ^ 64 := by
    intro p hp
    have hmem : Abi.Ty.part SlotProof.ty p.toValue ∈ Abi.parts _ b.toValue := by
      simp only [List.mem_cons, List.not_mem_nil, or_false] at hp
      rcases hp with rfl | rfl <;> simp [toValue, Abi.parts, Abi.Ty.part]
    exact (Abi.length_encode_le_length_encodeRow hmem).trans_lt (hrow.trans_lt h)
  exact .intro (AssertionState.ofValue_toValue _) (L1StateProof.writtenIn_toValue _)
    (SlotProof.writtenIn_toValue (hslots b.assertionProof (by simp)))
    (SlotProof.writtenIn_toValue (hslots b.inboxProof (by simp)))

/-- The contract data of a bundle reads back. -/
theorem decodeSingle_encode {b : ProofBundle} (h : b.encode.length < 2 ^ 64) :
    Abi.decodeSingle ty b.encode = .ok b.toValue := by
  have hread := Abi.decodeSingle_encodeSingle (t := ty) (by decide) b.toValue h []
  rwa [List.append_nil] at hread

end ProofBundle

/-! ### The whole call -/

/-- A contract finds in the data of a call the message, the payee and the bundle: the last as an
argument that is contract data of its own, in which all its readers find the bundle. -/
structure ClaimConveys (data : Bytes) (m : PostedMessage) (b : ProofBundle) (payTo : Address) :
    Prop where
  selector : data.take 4 = Bytes.ofBitVec claimSelector
  arguments : ∃ (proof : Bytes) (v : ProofBundle.ty.Value),
    Abi.decodeRow claimTy (data.drop 4) =
        .ok (m.destinationChain, m.receiver, m.payload, m.attributes, proof, payTo, ()) ∧
      Abi.decodeSingle ProofBundle.ty proof = .ok v ∧ v = b.toValue ∧ b.WrittenIn v

theorem length_encode_le_length_claimData (m : PostedMessage) (b : ProofBundle) (payTo : Address) :
    b.encode.length ≤ (claimData m b payTo).length := by
  have hmem : Abi.Ty.part .bytes b.encode ∈ Abi.parts claimTy
      (m.destinationChain, m.receiver, m.payload, m.attributes, b.encode, payTo, ()) := by
    simp [Abi.parts, Abi.Ty.part]
  have hargument := Abi.length_encode_le_length_encodeRow hmem
  have hbytes := Abi.length_le_length_encode_bytes b.encode
  rw [claimData, Abi.encodeCall, List.length_append]
  omega

/-- The data of a claim conveys its message, its bundle and its payee, and no other bundle has the
same writing. -/
theorem ProofBundle.claim_conveys :
    (∀ (m : PostedMessage) (b : ProofBundle) (payTo : Address),
      (claimData m b payTo).length < 2 ^ 64 → ClaimConveys (claimData m b payTo) m b payTo) ∧
    ∀ b b' : ProofBundle, b.encode.length < 2 ^ 64 → b.encode = b'.encode → b = b' := by
  constructor
  · intro m b payTo hsize
    have hbundle : b.encode.length < 2 ^ 64 :=
      (length_encode_le_length_claimData m b payTo).trans_lt hsize
    have hproper : Abi.Ty.areProper claimTy := by decide
    obtain ⟨hselector, harguments⟩ := Abi.decodeRow_encodeCall hproper claimSelector
      (m.destinationChain, m.receiver, m.payload, m.attributes, b.encode, payTo, ()) hsize
    exact ⟨hselector, b.encode, b.toValue, harguments, decodeSingle_encode hbundle, rfl,
      writtenIn_toValue hbundle⟩
  · intro b b' hsize heq
    -- One writing reads back as one contract data, which is that of both.
    have hsize' : b'.encode.length < 2 ^ 64 := heq ▸ hsize
    have hread := decodeSingle_encode hsize
    rw [heq, decodeSingle_encode hsize'] at hread
    have hvalue : b'.toValue = b.toValue := Except.ok.inj hread
    exact (writtenIn_toValue hsize).unique (hvalue ▸ writtenIn_toValue hsize')

namespace Devnet

/-- A message that is claimed. -/
def message : PostedMessage :=
  { id := messageId, sourceChain := 11155111, destinationChain := 421614, receiver := 3
    payload := [0x01, 0x02], attributes := [[0xaa], []] }

/-- A bundle with trie nodes of every kind of prefix. -/
def longBundle : ProofBundle :=
  { bundle with
    inboxProof :=
      { bundle.inboxProof with
        accountNodes :=
          [[], [0x7f], [0x80], List.replicate 55 0xf8, List.replicate 56 0xf8,
            List.replicate 300 0xf9] } }

theorem claim_conveys_longBundle :
    (claimData message longBundle 0x99).length < 2 ^ 64 ∧
      ClaimConveys (claimData message longBundle 0x99) message longBundle 0x99 ∧
      longBundle.encode.length < 2 ^ 64 ∧
      ∀ b : ProofBundle, longBundle.encode = b.encode → longBundle = b := by
  have hclaim : (claimData message longBundle 0x99).length < 2 ^ 64 := by decide +kernel
  have hbundle : longBundle.encode.length < 2 ^ 64 :=
    (length_encode_le_length_claimData message longBundle 0x99).trans_lt hclaim
  obtain ⟨hconveys, hinjective⟩ := ProofBundle.claim_conveys
  exact ⟨hclaim, hconveys message longBundle 0x99 hclaim, hbundle,
    fun b => hinjective longBundle b hbundle⟩

end Devnet

end CrossCall
