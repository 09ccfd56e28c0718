import Mathlib
import CrossCall.Message.Posted
import CrossCall.Proofs.Abi.RoundTrip

/-!
# Reading messages that were written

The logs, payloads and paymaster data that are written for a message read back, whatever follows
them.

## Main results

* `PostedMessage.decodeLog_encodeLog` — the log of a message
* `PostedMessage.decodeLog_inverts` — so is no log that has other topics
* `decodeCalls_encodeCalls`, `UserOperation.decode_encode`, `payload_readsBack` — the two kinds of
  payload
* `decodePaymasterAttributes_append` — attributes behind a paymaster header
-/

namespace CrossCall

theorem PostedMessage.decodeLog_encodeLog (m : PostedMessage) (address : Address)
    (blockNumber : Option (BitVec 64)) (rest : Bytes) (hsize : m.encodeLog.2.length < 2 ^ 64) :
    PostedMessage.decodeLog
      { address, topics := m.encodeLog.1, data := m.encodeLog.2 ++ rest, blockNumber } = .ok m := by
  have hproper : Abi.Ty.areProper PostedMessage.event.fields := by decide
  have hdecode := Abi.decodeRow_encodeRow hproper
    (m.sourceChain, m.sender, m.destinationChain, m.receiver, m.payload, m.attributes, ())
    hsize rest
  have hlength : [m.id].length = PostedMessage.event.indexed := rfl
  simp only [decodeLog, encodeLog, Abi.Event.encode, Abi.Event.decode, hlength, ne_eq,
    not_true_eq_false, if_false]
  rw [hdecode]
  rfl

/-- The topics are looked at before the data: their number first, then the event they name. -/
theorem Abi.Event.decode_eq_error {e : Event} {topics : List Word} (data : Bytes)
    (h : topics.length ≠ e.indexed + 1 ∨ topics.head? ≠ some e.signature) :
    e.decode topics data =
      .error (if topics.length = e.indexed + 1 then .otherEvent (topics.headD 0)
        else .topicCount) := by
  cases topics with
  | nil => simp [decode]
  | cons topic indexed =>
    simp only [List.length_cons, List.head?_cons, ne_eq, Nat.add_right_cancel_iff,
      Option.some.injEq, List.headD_cons] at h ⊢
    by_cases hlength : indexed.length = e.indexed
    · -- The number is right, so it must be the event.
      have htopic : topic ≠ e.signature := h.resolve_left (not_not.mpr hlength)
      simp [decode, hlength, htopic]
    · simp [decode, hlength]

theorem PostedMessage.decodeLog_eq_error {log : Log}
    (h : log.topics.length ≠ 2 ∨ log.topics.head? ≠ some event.signature) :
    decodeLog log =
      .error (.messagePosted (if log.topics.length = 2 then .otherEvent (log.topics.headD 0)
        else .topicCount)) := by
  have hdecode := Abi.Event.decode_eq_error (e := event) log.data h
  simp only [decodeLog, hdecode]

/-- Logs are read as they were written, whoever emitted them and whatever follows in the data. A log
with another number of topics, or of another event, is refused for that. -/
theorem PostedMessage.decodeLog_inverts :
    (∀ (m : PostedMessage) (address : Address) (blockNumber : Option (BitVec 64)) (rest : Bytes),
      m.encodeLog.2.length < 2 ^ 64 →
        decodeLog
          { address, topics := m.encodeLog.1, data := m.encodeLog.2 ++ rest, blockNumber } =
            .ok m) ∧
      ∀ log : Log, log.topics.length ≠ 2 ∨ log.topics.head? ≠ some event.signature →
        decodeLog log =
          .error (.messagePosted (if log.topics.length = 2 then .otherEvent (log.topics.headD 0)
            else .topicCount)) :=
  ⟨decodeLog_encodeLog, fun _ => decodeLog_eq_error⟩

/-- A message whose payload and attributes fill no whole number of words, with bytes behind it, and
a log of another event that has as many topics. -/
theorem PostedMessage.decodeLog_inverts_unaligned :
    let m : PostedMessage :=
      { id := 7, sourceChain := 84532, destinationChain := 421614, payload := [0xaa, 0xbb]
        attributes := [[1, 2, 3, 4], [], List.replicate 33 5] }
    decodeLog
        { address := 17, topics := m.encodeLog.1, data := m.encodeLog.2 ++ [9], blockNumber := none } =
          .ok m ∧
      decodeLog { address := 17, topics := [1, 7], data := m.encodeLog.2, blockNumber := none } =
        .error (.messagePosted (.otherEvent 1)) :=
  ⟨decodeLog_inverts.1 _ 17 none [9] (by decide +kernel),
    decodeLog_inverts.2
      { address := 17, topics := [1, 7], data := _, blockNumber := none } (.inr (by decide))⟩

theorem decodeCalls_encodeCalls (calls : List Call) (rest : Bytes)
    (hsize : (encodeCalls calls).length < 2 ^ 64) :
    decodeCalls (encodeCalls calls ++ rest) = .ok calls := by
  have hproper : (Abi.Ty.array Call.ty).isProper := by decide
  have hdecode := Abi.decodeSingle_encodeSingle hproper (calls.map Call.toValue) hsize rest
  have hcalls : (calls.map Call.toValue).map Call.ofValue = calls := by
    rw [List.map_map]
    exact List.map_id calls
  rw [decodeCalls, encodeCalls, hdecode]
  exact congrArg Except.ok hcalls

theorem UserOperation.decode_encode (op : UserOperation) (rest : Bytes)
    (hsize : op.encode.length < 2 ^ 64) :
    UserOperation.decode (op.encode ++ rest) = .ok op := by
  have hproper : UserOperation.ty.isProper := by decide
  have hdecode := Abi.decodeSingle_encodeSingle hproper op.toValue hsize rest
  rw [UserOperation.decode, UserOperation.encode, hdecode]
  rfl

/-- Payloads are read as they were written, whatever follows them: a list of calls, one after the
other in their order, and a user operation with all its fields. -/
theorem payload_readsBack :
    (∀ (calls : List Call) (rest : Bytes), (encodeCalls calls).length < 2 ^ 64 →
      decodeCalls (encodeCalls calls ++ rest) = .ok calls) ∧
      ∀ (op : UserOperation) (rest : Bytes), op.encode.length < 2 ^ 64 →
        UserOperation.decode (op.encode ++ rest) = .ok op :=
  ⟨decodeCalls_encodeCalls, UserOperation.decode_encode⟩

/-- Two calls, of which one has data that fills no whole number of words, and a user operation with
byte strings of four lengths, each with a byte behind it. -/
theorem payload_readsBack_unaligned :
    let calls : List Call := [{ target := 4, data := List.replicate 33 5, value := 6 }, {}]
    let op : UserOperation :=
      { sender := 1, nonce := 2, initCode := [3], callData := List.replicate 40 4
        accountGasLimits := 5, preVerificationGas := 6, gasFees := 7
        paymasterAndData := List.replicate 32 8 }
    decodeCalls (encodeCalls calls ++ [9]) = .ok calls ∧
      UserOperation.decode (op.encode ++ [9]) = .ok op :=
  ⟨payload_readsBack.1 _ [9] (by decide +kernel), payload_readsBack.2 _ [9] (by decide +kernel)⟩

theorem decodePaymasterAttributes_append (header : Bytes) (blobs : List Bytes) (rest : Bytes)
    (hheader : header.length = paymasterHeaderLength)
    (hsize : (Abi.encodeSingle attributeListTy blobs).length < 2 ^ 64) :
    decodePaymasterAttributes (header ++ (Abi.encodeSingle attributeListTy blobs ++ rest)) =
      .ok blobs := by
  have hproper : attributeListTy.isProper := by decide
  have hdecode := Abi.decodeSingle_encodeSingle hproper blobs hsize rest
  rw [decodePaymasterAttributes, if_neg (by simp [hheader]), ← hheader, List.drop_left, hdecode]
  rfl

end CrossCall
