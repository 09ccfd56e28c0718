import Mathlib
import CrossCall.Proofs.Abi.RoundTrip
import CrossCall.Proofs.Node.Traces
import CrossCall.Proofs.Rlp.Reader
import CrossCall.Settlement.Bundle

/-!
# Where the parts of a bundle come from

A bundle is put together from six answers of two nodes. Each later question depends on the answers
before it: the block of the base chain decides where the rollup's contract is read, the assertion
found there decides which block of the rollup is fetched, and that block decides where the inbox is
read. A bundle that mixed two blocks would look the same and fail on its chain.

`ProofBundle.Origin` says that nothing is mixed: there is one block of the base chain and one
assertion confirmed at it, and every part of the bundle is about them, or about the block of the
rollup whose header is written in the bundle.

## Main definitions

* `LogFilter.Matches`, `Environment.HonorsFilters` — nodes answer with logs that were asked for
* `Header.numberIn?` — the block number in the writing of a header
* `RollupSnapshot.Origin` — where the confirmed state of a rollup comes from
* `ProofBundle.Origin` — where a bundle comes from

## Main results

* `Header.numberIn?_encode` — the number of a block reads back from its header's writing
* `Rollup.exists_origin_of_capture` — every confirmed state has such an origin
* `ProofBundle.exists_origin_of_compose` — every bundle has such an origin
-/

namespace CrossCall

variable {χ σ : Type}

open Session

/-! ### Logs that were asked for -/

/-- Whether a block is in the range of a filter. -/
def LogFilter.covers (f : LogFilter) (n : BitVec 64) : Bool :=
  f.fromBlock.all (· ≤ n) && f.toBlock.all (n ≤ ·)

/-- A log is among those that a filter asks for. A log of a block that has no number yet is not held
against the range of blocks. -/
def LogFilter.Matches (f : LogFilter) (log : Log) : Prop :=
  (f.addresses = [] ∨ log.address ∈ f.addresses) ∧
    (∀ t ∈ f.topics.zipIdx, t.1 = [] ∨ log.topics[t.2]?.any (· ∈ t.1)) ∧
    log.blockNumber.all f.covers

instance (f : LogFilter) (log : Log) : Decidable (f.Matches log) :=
  inferInstanceAs (Decidable (_ ∧ (∀ t ∈ f.topics.zipIdx, _ ∨ _) ∧ _))

/-- Nodes that are asked for logs answer with none but those that were asked for. -/
def Environment.HonorsFilters (env : Environment χ σ) : Prop :=
  ∀ s node f logs, (env.answer s node (.logs f)).1 = .ok logs → ∀ log ∈ logs, f.Matches log

/-! ### The number in a header -/

namespace Header

/-- The block number in the writing of a header: the ninth field. -/
def numberIn? (bs : Bytes) : Option Nat := do
  let fields ← Rlp.strings? bs
  let digits ← fields[8]?
  return digits.toNat

theorem exists_string_of_mem_laterItems {h : Header} {item : Rlp} (hitem : item ∈ h.laterItems) :
    ∃ bs, Rlp.string bs = item := by
  simp only [laterItems, List.mem_filterMap, List.mem_cons, List.not_mem_nil, or_false, id_eq,
    exists_eq_right] at hitem
  rcases hitem with hitem | hitem | hitem | hitem | hitem | hitem <;>
    obtain ⟨x, -, rfl⟩ := Option.map_eq_some_iff.mp hitem.symm <;>
    exact ⟨_, rfl⟩

/-- A header is written as a list of byte strings, of which the ninth writes its number. -/
theorem exists_fields (h : Header) :
    ∃ fields, h.encode = Rlp.encodeStrings fields ∧
      fields[8]? = some (Bytes.shortest h.number.toNat) := by
  have hlater : h.laterItems ∈ Set.range (List.map Rlp.string) := by
    rw [Set.range_list_map]
    exact fun item hitem => exists_string_of_mem_laterItems hitem
  obtain ⟨later, hlater⟩ := hlater
  refine ⟨[Bytes.ofBitVec h.parentHash, Bytes.ofBitVec h.ommersHash, Bytes.ofBitVec h.beneficiary,
    Bytes.ofBitVec h.stateRoot, Bytes.ofBitVec h.transactionsRoot, Bytes.ofBitVec h.receiptsRoot,
    Bytes.ofBitVec h.logsBloom, Bytes.shortest h.difficulty.toNat, Bytes.shortest h.number.toNat,
    Bytes.shortest h.gasLimit.toNat, Bytes.shortest h.gasUsed.toNat,
    Bytes.shortest h.timestamp.toNat, h.extraData, Bytes.ofBitVec h.mixHash,
    Bytes.ofBitVec h.nonce] ++ later, ?_, rfl⟩
  rw [encode, ← hlater, Rlp.encodeStrings, List.map_append]
  rfl

/-- The number of a block reads back from the writing of its header. -/
theorem numberIn?_encode {h : Header} (hlength : h.encode.length < 2 ^ 64) :
    numberIn? h.encode = some h.number.toNat := by
  obtain ⟨fields, hencode, hnumber⟩ := h.exists_fields
  rw [hencode] at hlength ⊢
  simp [numberIn?, Rlp.strings?_encodeStrings hlength, hnumber, Bytes.toNat_shortest]

end Header

/-! ### The log of an assertion -/

theorem MachineStatus.eq_number_of_ofNumber? {n : BitVec 8} {status : MachineStatus}
    (h : ofNumber? n = some status) : n = status.number := by
  revert n
  cases status <;> decide

/-- A state that is read from contract data is written there. -/
theorem AssertionState.eq_toValue_of_ofValue {v : ty.Value} {state : AssertionState}
    (h : ofValue v = .ok state) : v = state.toValue := by
  obtain ⟨⟨⟨blockHash, sendRoot, ⟨⟩⟩, ⟨inboxPosition, messagePosition, ⟨⟩⟩, ⟨⟩⟩, status,
    endHistoryRoot, ⟨⟩⟩ := v
  rw [ofValue] at h
  cases hstatus : MachineStatus.ofNumber? status with
  | none => simp [hstatus] at h
  | some machineStatus =>
    simp only [hstatus, Except.ok.injEq] at h
    subst h
    simp [toValue, MachineStatus.eq_number_of_ofNumber? hstatus]

theorem Abi.Event.decode_eq_ok_iff {e : Event} {topics indexed : List Word} {data : Bytes}
    {vs : Ty.Values e.fields} :
    e.decode topics data = .ok (indexed, vs) ↔
      topics = e.signature :: indexed ∧ indexed.length = e.indexed ∧
        decodeRow e.fields data = .ok vs := by
  cases topics with
  | nil => simp [decode]
  | cons signature rest =>
    rw [decode.eq_def]
    simp only
    split
    next hlength => grind
    next hlength =>
      split
      next hsignature => grind
      next hsignature =>
        rw [bind_eq_ok_iff]
        constructor
        · rintro ⟨vs', hrow, hpair⟩
          cases hpair
          exact ⟨by grind, by grind, hrow⟩
        · rintro ⟨htopics, -, hrow⟩
          cases htopics
          exact ⟨vs, hrow, rfl⟩

/-- The topics of an assertion's log are the event, the assertion and its parent. -/
theorem AssertionCreated.topics_of_decodeLog {log : Log} {created : AssertionCreated}
    (h : decodeLog log = .ok created) :
    ∃ hash, log.topics = [event.signature, hash, created.parent] := by
  rw [decodeLog] at h
  rcases hevent : event.decode log.topics log.data with _ | ⟨indexed, vs⟩
  · simp [hevent] at h
  · obtain ⟨htopics, hlength, -⟩ := Abi.Event.decode_eq_ok_iff.mp hevent
    obtain ⟨hash, parent, rfl⟩ := List.length_eq_two.mp hlength
    simp only [hevent, Except.ok.injEq] at h
    subst h
    exact ⟨hash, htopics⟩

/-! ### The answers behind each part

A part that was captured was answered for: each of these lemmas runs one function, and names the
questions it asked and what it made of the answers. -/

variable {env : Environment χ σ} {s s' : σ} {es : List (Exchange χ)}

theorem L1Snapshot.of_talk_capture {node : χ} {devnet : Bool} {block : BlockTag}
    {snapshot : L1Snapshot}
    (h : (capture node devnet block).run.talk env s = (.ok snapshot, s', es)) :
    devnet = true ∧ snapshot.proof = .ofHeader snapshot.source.header ∧
      es = [⟨node, .headerByNumber block, .ok (some snapshot.source)⟩] := by
  cases devnet with
  | false => cases h
  | true =>
    obtain ⟨answer, t, es₁, es₂, hanswer, hrest, rfl⟩ := exists_of_talk_bind h
    obtain ⟨-, rfl⟩ := of_talk_query hanswer
    cases answer with
    | none => cases hrest
    | some source =>
      cases hrest
      exact ⟨rfl, rfl, rfl⟩

theorem SlotProof.of_talk_prove {node : χ} {contract : Address} {slot : Word} {block : BlockTag}
    {proof : SlotProof}
    (h : (prove node contract slot block).run.talk env s = (.ok proof, s', es)) :
    ∃ answer entry rest, answer.storageProof = entry :: rest ∧
      ofAnswer slot answer.accountProof entry = .ok proof ∧
      es = [⟨node, .proof contract [slot] block, .ok answer⟩] := by
  rw [prove, talk_bind_of_silent _ (talk_report _ _ _)] at h
  obtain ⟨answer, t, es₁, es₂, hanswer, hentry, rfl⟩ := exists_of_talk_bind h
  obtain ⟨-, rfl⟩ := of_talk_query hanswer
  cases hentries : answer.storageProof with
  | nil =>
    rw [hentries] at hentry
    cases hentry
  | cons entry rest =>
    simp only [hentries] at hentry
    rw [talk_bind_of_silent _ (talk_report _ _ _)] at hentry
    obtain ⟨proof', t', es₁, es₂, hread, hdone, rfl⟩ := exists_of_talk_bind hentry
    obtain ⟨hproof, rfl, rfl⟩ := of_talk_lift hread
    cases hdone
    exact ⟨answer, entry, rest, hentries, hproof, rfl⟩

namespace Rollup

variable {r : Rollup}

theorem of_talk_latestConfirmed {l1 : χ} {l1Block : BitVec 64} {hash : Word}
    (h : (r.latestConfirmed l1 l1Block).run.talk env s = (.ok hash, s', es)) :
    ∃ answer, Abi.decodeSingle (.word 256) answer = .ok hash ∧
      es =
        [⟨l1,
          .call
            { target := some r.contract, data := some (Bytes.ofBitVec latestConfirmedSelector) }
            (.number l1Block),
          .ok answer⟩] := by
  obtain ⟨answer, t, es₁, es₂, hanswer, hdecode, rfl⟩ := exists_of_talk_bind h
  obtain ⟨-, rfl⟩ := of_talk_query hanswer
  obtain ⟨hword, -, rfl⟩ := of_talk_lift hdecode
  exact ⟨answer, mapError_eq_ok_iff.mp hword, rfl⟩

theorem of_talk_assertionCreated {l1 : χ} {hash : Word} {l1Block : BitVec 64}
    {created : AssertionCreated}
    (h : (r.assertionCreated l1 hash l1Block).run.talk env s = (.ok created, s', es)) :
    ∃ logs log, (env.answer s l1 (.logs (r.assertionFilter hash l1Block))).1 = .ok logs ∧
      logs.getLast? = some log ∧ AssertionCreated.decodeLog log = .ok created ∧
      es = [⟨l1, .logs (r.assertionFilter hash l1Block), .ok logs⟩] := by
  obtain ⟨logs, t, es₁, es₂, hlogs, hlast, rfl⟩ := exists_of_talk_bind h
  obtain ⟨hanswer, rfl⟩ := of_talk_query hlogs
  cases hlog : logs.getLast? with
  | none =>
    rw [hlog] at hlast
    cases hlast
  | some log =>
    rw [hlog] at hlast
    obtain ⟨hdecode, -, rfl⟩ := of_talk_lift hlast
    exact ⟨logs, log, congrArg Prod.fst hanswer, hlog, mapError_eq_ok_iff.mp hdecode, rfl⟩

theorem of_talk_headerOf {l2 : χ} {hash : Word} {header : Header}
    (h : (headerOf l2 hash).run.talk env s = (.ok header, s', es)) :
    header.hash = hash ∧
      ∃ found, found.header = header ∧ es = [⟨l2, .headerByHash hash, .ok (some found)⟩] := by
  obtain ⟨answer, t, es₁, es₂, hanswer, hfound, rfl⟩ := exists_of_talk_bind h
  obtain ⟨-, rfl⟩ := of_talk_query hanswer
  cases answer with
  | none => cases hfound
  | some found =>
    simp only at hfound
    split at hfound
    next => cases hfound
    next hhash =>
      cases hfound
      exact ⟨not_not.mp hhash, found, rfl, rfl⟩

/-- A confirmed state is captured in four parts, one after the other. -/
theorem of_talk_capture {l1 l2 : χ} {l1Block : BitVec 64} {snapshot : RollupSnapshot}
    (h : (r.capture l1 l2 l1Block).run.talk env s = (.ok snapshot, s', es)) :
    ∃ hash created afterState header proof s₁ s₂ s₃ es₁ es₂ es₃ es₄,
      (r.latestConfirmed l1 l1Block).run.talk env s = (.ok hash, s₁, es₁) ∧
      (r.assertionCreated l1 hash l1Block).run.talk env s₁ = (.ok created, s₂, es₂) ∧
      AssertionState.ofValue created.after = .ok afterState ∧
      (headerOf l2 afterState.globalState.blockHash).run.talk env s₂ = (.ok header, s₃, es₃) ∧
      (SlotProof.prove l1 r.contract (mappingSlot hash r.assertionsSlot)
        (.number l1Block)).run.talk env s₃ = (.ok proof, s', es₄) ∧
      snapshot =
        { assertion :=
            { encodedHeader := header.encode, afterState, prevAssertionHash := created.parent
              sequencerBatchAcc := created.inboxAccumulator }
          proof, l2Block := header.number } ∧
      es = es₁ ++ (es₂ ++ (es₃ ++ es₄)) := by
  obtain ⟨hash, s₁, es₁, _, hconfirmed, h₁, rfl⟩ := exists_of_talk_bind h
  obtain ⟨created, s₂, es₂, _, hcreated, h₂, rfl⟩ := exists_of_talk_bind h₁
  obtain ⟨afterState, _, _, _, hafter, h₃, rfl⟩ := exists_of_talk_bind h₂
  obtain ⟨hstate, rfl, rfl⟩ := of_talk_lift hafter
  obtain ⟨header, s₃, es₃, _, hheader, h₄, rfl⟩ := exists_of_talk_bind h₃
  obtain ⟨proof, s₄, es₄, _, hproof, h₅, rfl⟩ := exists_of_talk_bind h₄
  rw [talk_bind_of_silent _ (talk_report _ _ _)] at h₅
  obtain ⟨rfl, rfl, rfl⟩ := of_talk_pure h₅
  exact ⟨hash, created, afterState, header, proof, s₁, s₂, s₃, es₁, es₂, es₃, es₄, hconfirmed,
    hcreated, mapError_eq_ok_iff.mp hstate, hheader, of_talk_adapt hproof, rfl, by simp⟩

end Rollup

/-! ### The confirmed state of a rollup -/

/-- Where the confirmed state of a rollup comes from: the assertion that the contract names at a
block of the base chain, the last log of that assertion, the block of the rollup that it ends at,
and the proof of its slot; with the exchanges that brought them. -/
structure RollupSnapshot.Origin (l1 l2 : χ) (rollup : Rollup) (l1Block : BitVec 64)
    (es : List (Exchange χ)) (snapshot : RollupSnapshot) where
  /-- The answer that names the latest confirmed assertion, and the assertion. -/
  confirmed : Bytes
  hash : Word
  /-- The first of the blocks that were searched, what was found, and the last of it. -/
  first : BitVec 64
  logs : List Log
  log : Log
  created : AssertionCreated
  /-- The block that the assertion ends at. -/
  last : SealedHeader
  /-- The answer that proves the assertion, and its first entry. -/
  answer : AccountProof
  entry : StorageEntry
  /-- Everything is asked at the one block of the base chain, and about the one assertion. -/
  asked : es =
    [⟨l1,
      .call
        { target := some rollup.contract
          data := some (Bytes.ofBitVec Rollup.latestConfirmedSelector) }
        (.number l1Block),
      .ok confirmed⟩,
     ⟨l1,
      .logs
        { addresses := [rollup.contract]
          topics := [[AssertionCreated.event.signature], [hash], [], []]
          fromBlock := some first
          toBlock := some l1Block },
      .ok logs⟩,
     ⟨l2, .headerByHash snapshot.assertion.afterState.globalState.blockHash, .ok (some last)⟩,
     ⟨l1,
      .proof rollup.contract
        [keccak256 (Bytes.ofBitVec hash ++ Bytes.ofBitVec rollup.assertionsSlot)]
        (.number l1Block),
      .ok answer⟩]
  confirmed_eq : Abi.decodeSingle (.word 256) confirmed = .ok hash
  /-- The search goes back to the first block if the chain is shorter than that. -/
  first_eq : first.toNat = l1Block.toNat - rollup.lookback.toNat
  log_last : logs.getLast? = some log
  log_address : log.address = rollup.contract
  log_topics :
    log.topics = [AssertionCreated.event.signature, hash, snapshot.assertion.prevAssertionHash]
  log_block : ∀ n, log.blockNumber = some n → first ≤ n ∧ n ≤ l1Block
  log_decodes : AssertionCreated.decodeLog log = .ok created
  parent_eq : created.parent = snapshot.assertion.prevAssertionHash
  after_eq : created.after = snapshot.assertion.afterState.toValue
  accumulator_eq : created.inboxAccumulator = snapshot.assertion.sequencerBatchAcc
  /-- The header that is carried is that of the block that the assertion ends at. -/
  header_eq : snapshot.assertion.encodedHeader = last.header.encode
  header_hash :
    keccak256 snapshot.assertion.encodedHeader = snapshot.assertion.afterState.globalState.blockHash
  l2Block_eq : snapshot.l2Block = last.header.number
  entry_first : answer.storageProof.head? = some entry
  proof_eq :
    SlotProof.ofAnswer
      (keccak256 (Bytes.ofBitVec hash ++ Bytes.ofBitVec rollup.assertionsSlot))
      answer.accountProof entry = .ok snapshot.proof

namespace Rollup

variable {r : Rollup}

theorem toNat_firstBlock (r : Rollup) (l1Block : BitVec 64) :
    (r.firstBlock l1Block).toNat = l1Block.toNat - r.lookback.toNat := by
  rw [firstBlock, BitVec.toNat_ofNat]
  have := l1Block.isLt
  omega

/-- A log that the search for an assertion asks for is one of the contract, about the assertion, and
of a block that was searched. -/
theorem of_matches_assertionFilter {hash : Word} {l1Block : BitVec 64} {log : Log}
    (h : (r.assertionFilter hash l1Block).Matches log) :
    log.address = r.contract ∧ log.topics[1]? = some hash ∧
      ∀ n, log.blockNumber = some n → r.firstBlock l1Block ≤ n ∧ n ≤ l1Block := by
  obtain ⟨haddress, htopics, hblock⟩ := h
  refine ⟨by simpa [assertionFilter] using haddress, ?_, ?_⟩
  · simpa [Option.any_eq_true] using htopics ([hash], 1) (by simp [assertionFilter])
  · intro n hn
    simpa [hn, LogFilter.covers, assertionFilter] using hblock

/-- Every confirmed state that is captured has an origin. -/
theorem exists_origin_of_capture (hlogs : env.HonorsFilters) {l1 l2 : χ} {l1Block : BitVec 64}
    {snapshot : RollupSnapshot}
    (h : (r.capture l1 l2 l1Block).run.talk env s = (.ok snapshot, s', es)) :
    Nonempty (snapshot.Origin l1 l2 r l1Block es) := by
  obtain ⟨hash, created, afterState, header, proof, s₁, s₂, s₃, es₁, es₂, es₃, es₄, hconfirmed,
    hcreated, hstate, hheader, hproof, rfl, rfl⟩ := of_talk_capture h
  obtain ⟨confirmed, hword, rfl⟩ := of_talk_latestConfirmed hconfirmed
  obtain ⟨logs, log, hanswer, hlast, hdecode, rfl⟩ := of_talk_assertionCreated hcreated
  obtain ⟨hhash, found, rfl, rfl⟩ := of_talk_headerOf hheader
  obtain ⟨answer, entry, rest, hentries, hread, rfl⟩ := SlotProof.of_talk_prove hproof
  obtain ⟨haddress, htopic, hblock⟩ :=
    of_matches_assertionFilter (hlogs _ _ _ _ hanswer log (List.mem_of_getLast? hlast))
  -- The log names an assertion, and it is the one that was asked for.
  obtain ⟨named, htopics⟩ := AssertionCreated.topics_of_decodeLog hdecode
  obtain rfl : named = hash := by simpa [htopics] using htopic
  exact ⟨{
    confirmed, hash := named, first := r.firstBlock l1Block, logs, log, created, last := found
    answer, entry, asked := rfl, confirmed_eq := hword, first_eq := r.toNat_firstBlock l1Block
    log_last := hlast, log_address := haddress, log_topics := htopics, log_block := hblock
    log_decodes := hdecode, parent_eq := rfl
    after_eq := AssertionState.eq_toValue_of_ofValue hstate
    accumulator_eq := rfl, header_eq := rfl, header_hash := hhash, l2Block_eq := rfl
    entry_first := by rw [hentries]; rfl
    proof_eq := hread }⟩

end Rollup

/-! ### The whole bundle -/

/-- Where a bundle comes from: the block of the base chain, what was confirmed there, and the answer
about the inbox; with the exchanges that brought them. -/
structure ProofBundle.Origin (l1 l2 : χ) (rollup : Rollup) (inbox : Address) (messageId : Word)
    (block : BlockTag) (es : List (Exchange χ)) (bundle : ProofBundle) where
  /-- The block of the base chain. -/
  base : SealedHeader
  /-- The block of the rollup. -/
  l2Block : BitVec 64
  /-- The exchanges about the confirmed state, and where that comes from. -/
  between : List (Exchange χ)
  confirmed :
    RollupSnapshot.Origin l1 l2 rollup base.header.number between
      { assertion := bundle.assertion, proof := bundle.assertionProof, l2Block }
  /-- The answer that proves the record of the message, and its first entry. -/
  answer : AccountProof
  entry : StorageEntry
  /-- The block of the base chain is asked for first, and the inbox last, at the block of the rollup
  that is confirmed. -/
  asked : es =
    ⟨l1, .headerByNumber block, .ok (some base)⟩ :: between ++
      [⟨l2,
        .proof inbox [keccak256 (Bytes.ofBitVec messageId ++ Bytes.ofBitVec fulfillmentInfoSlot)]
          (.number l2Block),
        .ok answer⟩]
  /-- The state of the base chain is that of its block. -/
  executionStateRoot_eq : bundle.l1State.executionStateRoot = base.header.stateRoot
  beaconRoot_eq : bundle.l1State.beaconRoot = keccak256 (Bytes.ofBitVec base.header.stateRoot)
  beaconTimestamp_eq : bundle.l1State.beaconTimestamp = base.header.timestamp
  stateRootProof_eq : bundle.l1State.stateRootProof = [0]
  /-- The number of the rollup's block is written in the header that the bundle carries, and reads
  back from it; no length prefix could be written for a longer header. -/
  l2Block_written : ∃ fields, bundle.assertion.encodedHeader = Rlp.encodeStrings fields ∧
    fields[8]? = some (Bytes.shortest l2Block.toNat)
  l2Block_read : bundle.assertion.encodedHeader.length < 2 ^ 64 →
    Header.numberIn? bundle.assertion.encodedHeader = some l2Block.toNat
  entry_first : answer.storageProof.head? = some entry
  proof_eq :
    SlotProof.ofAnswer
      (keccak256 (Bytes.ofBitVec messageId ++ Bytes.ofBitVec fulfillmentInfoSlot))
      answer.accountProof entry = .ok bundle.inboxProof

namespace ProofBundle

theorem of_talk_ensureActive {u : Unit}
    (h : (ensureActive : ExceptT CompositionError (Session χ) Unit).run.talk env s =
      (.ok u, s', es)) :
    s = s' ∧ es = [] := by
  have hcheck : (checkCancelled : ExceptT CompositionError (Session χ) Bool).run.talk env s =
      (.ok (env.cancelled s), s, []) := rfl
  rw [ensureActive, talk_bind_of_silent _ hcheck] at h
  split at h
  · cases h
  · exact (of_talk_pure h).2

/-- Every bundle has an origin, and it is composed for a development network. -/
theorem exists_origin_of_compose (env : Environment χ σ) (hlogs : env.HonorsFilters) (l1 l2 : χ)
    (devnet : Bool) (rollup : Rollup) (inbox : Address) (messageId : Word) (block : BlockTag) (s : σ)
    (bundle : ProofBundle)
    (h : ((compose l1 l2 devnet rollup inbox messageId block).run.run env s).1 = .ok bundle) :
    devnet = true ∧
      Nonempty (bundle.Origin l1 l2 rollup inbox messageId block
        (exchanges ((compose l1 l2 devnet rollup inbox messageId block).run.run env s).2.2)) := by
  rw [exchanges_run]
  rcases htalk : (compose l1 l2 devnet rollup inbox messageId block).run.talk env s with ⟨b, s', es⟩
  obtain rfl : b = .ok bundle := (congrArg Prod.fst htalk).symm.trans h
  obtain ⟨base, s₁, es₁, _, hbase, h₁, rfl⟩ := exists_of_talk_bind htalk
  obtain ⟨u, s₂, es₂, _, hactive, h₂, rfl⟩ := exists_of_talk_bind h₁
  obtain ⟨snapshot, s₃, es₃, _, hsnapshot, h₃, rfl⟩ := exists_of_talk_bind h₂
  obtain ⟨u', s₄, es₄, _, hactive', h₄, rfl⟩ := exists_of_talk_bind h₃
  obtain ⟨inboxProof, s₅, es₅, _, hinbox, h₅, rfl⟩ := exists_of_talk_bind h₄
  rw [talk_bind_of_silent _ (talk_report _ _ _)] at h₅
  obtain ⟨rfl, rfl, rfl⟩ := of_talk_pure h₅
  obtain ⟨rfl, hstate, rfl⟩ := L1Snapshot.of_talk_capture (of_talk_adapt hbase)
  obtain ⟨rfl, rfl⟩ := of_talk_ensureActive hactive
  obtain ⟨rfl, rfl⟩ := of_talk_ensureActive hactive'
  obtain ⟨answer, entry, rest, hentries, hread, rfl⟩ :=
    SlotProof.of_talk_prove (of_talk_adapt hinbox)
  obtain ⟨origin⟩ := Rollup.exists_origin_of_capture hlogs (of_talk_adapt hsnapshot)
  -- The inbox is asked about at the number of the header that was found, and that header is written.
  have hwritten := origin.last.header.exists_fields
  have hreadsBack := Header.numberIn?_encode (h := origin.last.header)
  rw [← origin.header_eq, ← origin.l2Block_eq] at hwritten hreadsBack
  exact ⟨rfl, ⟨{
    base := base.source, l2Block := snapshot.l2Block, between := es₃, confirmed := origin
    answer, entry, asked := rfl
    executionStateRoot_eq := by rw [hstate]; rfl
    beaconRoot_eq := by rw [hstate]; rfl
    beaconTimestamp_eq := by rw [hstate]; rfl
    stateRootProof_eq := by rw [hstate]; rfl
    l2Block_written := hwritten, l2Block_read := hreadsBack
    entry_first := by rw [hentries]; rfl
    proof_eq := hread }⟩⟩

end ProofBundle

/-! ### A bundle of a development network -/

namespace Devnet

/-- The block of the base chain. -/
def base : Header := { number := 7000000, timestamp := 1741000000, stateRoot := 0x5e }

/-- The block of the rollup. -/
def last : Header := { number := 120000000, parentHash := 0x77, baseFeePerGas := some 100000000 }

def rollup : Rollup :=
  { contract := 0x042b2e6c5e99d4c521bd49beed5e99651d9b0cf4, assertionsSlot := 0x76, lookback := 100 }

def inbox : Address := 0x1bb8dacba30b1cd82ce1d3d7f24e16ee549aebe8

def messageId : Word := 0x86a798714c57faaa50bc649a07dc45013c4931d4c630d5a316f5975f02704586

/-- The state that the assertions end at. -/
def afterState : AssertionState :=
  { globalState := { blockHash := last.hash, sendRoot := 0x5e4d, inboxPosition := 9 }
    machineStatus := .finished, endHistoryRoot := 0 }

/-- What the log of an assertion tells. -/
abbrev logged (accumulator : Word) : Abi.Ty.Values AssertionCreated.event.fields :=
  (((0, 0, (0, 0, 0, 0, 0, ()), ()), afterState.toValue, afterState.toValue, ()), accumulator, 0, 0,
    0, 0, 0, ())

/-- The log of an assertion. -/
def assertionLog (hash parent accumulator : Word) (block : BitVec 64) : Log :=
  { address := rollup.contract, topics := [AssertionCreated.event.signature, hash, parent]
    data := Abi.encodeRow AssertionCreated.event.fields (logged accumulator)
    blockNumber := some block }

/-- The logs of the base chain: of the confirmed assertion there are two in the blocks that are
searched and one after them, and between these is one of another assertion. -/
def logs : List Log :=
  [assertionLog 0xa5 0xb0 0xc0 6999950, assertionLog 0xa5 0xb1 0xc1 6999990,
   assertionLog 0xa6 0xb2 0xc2 6999995, assertionLog 0xa5 0xb3 0xc3 7000001]

/-- The proofs that the nodes give. -/
def accountProof (account : Address) : AccountProof :=
  { address := account, accountProof := ["0xf851", "0x1"], storageHash := 0
    storageProof := [{ key := "0x0", value := "0x1", proof := ["0xe2"] }] }

/-- The base chain is node 1, and the rollup is node 2. -/
def nodes : Environment Nat Unit where
  answer _ node request :=
    (match node, request with
      | 1, .headerByNumber _ => .ok (some ⟨base, 0xaa⟩)
      | 1, .call _ _ => .ok (Bytes.ofBitVec (0xa5 : Word))
      | _, .logs f => .ok (logs.filter fun log => f.Matches log)
      | 2, .headerByHash _ => .ok (some ⟨last, last.hash⟩)
      | _, .proof account _ _ => .ok (accountProof account)
      | _, _ => .error (.transport "unexpected"), ())

theorem honorsFilters_nodes : nodes.HonorsFilters := by
  intro s node f found h log hlog
  simp only [nodes] at h
  cases h
  exact of_decide_eq_true (List.mem_filter.mp hlog).2

/-- The proof that is read from a node's. -/
def slotProof (slot : Word) : SlotProof :=
  { slot, value := 1, accountNodes := [[0xf8, 0x51], [0x01]], storageNodes := [[0xe2]] }

def snapshot : RollupSnapshot :=
  { assertion :=
      { encodedHeader := last.encode, afterState, prevAssertionHash := 0xb1
        sequencerBatchAcc := 0xc1 }
    proof := slotProof (mappingSlot 0xa5 rollup.assertionsSlot)
    l2Block := last.number }

def bundle : ProofBundle :=
  { l1State := .ofHeader base, assertion := snapshot.assertion, assertionProof := snapshot.proof
    inboxProof := slotProof (mappingSlot messageId fulfillmentInfoSlot) }

theorem decodeLog_assertionLog :
    AssertionCreated.decodeLog (assertionLog 0xa5 0xb1 0xc1 6999990) =
      .ok { parent := 0xb1, after := afterState.toValue, inboxAccumulator := 0xc1 } := by
  have hsize : (Abi.encodeRow AssertionCreated.event.fields (logged 0xc1)).length < 2 ^ 64 := by
    decide +kernel
  have hrow := Abi.decodeRow_encodeRow (by decide) (logged 0xc1) hsize []
  rw [List.append_nil] at hrow
  rw [AssertionCreated.decodeLog, assertionLog, Abi.Event.decode_eq_ok_iff.mpr ⟨rfl, rfl, hrow⟩]
  rfl

theorem ofAnswer_accountProof (slot : Word) :
    SlotProof.ofAnswer slot ["0xf851", "0x1"] { key := "0x0", value := "0x1", proof := ["0xe2"] } =
      .ok (slotProof slot) := by
  have haccount : SlotProof.decodeNodes .accountNode 0 ["0xf851", "0x1"] =
      .ok [[0xf8, 0x51], [0x01]] := by decide +kernel
  have hstorage : SlotProof.decodeNodes .storageNode 0 ["0xe2"] = .ok [[0xe2]] := by decide +kernel
  have hvalue : SlotProof.decodeValue "0x1" = .ok 1 := by decide +kernel
  rw [SlotProof.ofAnswer, haccount, hstorage, hvalue]
  rfl

/-- The result of a session with these nodes, which remember nothing. -/
def result {ε α : Type} (x : ExceptT ε (Session Nat) α) : Except ε α := (x.run.run nodes ()).1

theorem fst_run_nodes {ε α : Type} (x : ExceptT ε (Session Nat) α) :
    (x.run.run nodes ()).1 = result x := rfl

theorem result_bind {ε α β : Type} {x : ExceptT ε (Session Nat) α} {a : α}
    (f : α → ExceptT ε (Session Nat) β) (h : result x = .ok a) :
    result (x >>= f) = result (f a) := by
  simp only [result, ExceptT.run_bind, run_bind]
  rw [show (x.run.run nodes ()).1 = .ok a from h]

theorem result_adapt {ε ε' α : Type} {x : ExceptT ε (Session Nat) α} {a : α} (onError : ε → ε')
    (h : result x = .ok a) : result (x.adapt onError) = .ok a := by
  have hadapt : (x.adapt onError).run.talk nodes () = _ := talk_adapt x onError
  have hx : (x.run.talk nodes ()).1 = .ok a := h
  rw [hx] at hadapt
  exact congrArg Prod.fst hadapt

theorem result_prove {node : Nat} (hnode : node = 1 ∨ node = 2) (contract : Address) (slot : Word)
    (block : BlockTag) :
    result (SlotProof.prove node contract slot block) = .ok (slotProof slot) := by
  have hanswer : result (query node (.proof contract [slot] block) SlotProofError.request) =
      .ok (accountProof contract) := by
    rcases hnode with rfl | rfl <;> rfl
  rw [SlotProof.prove, result_bind _ rfl, result_bind _ hanswer]
  simp only [accountProof, ofAnswer_accountProof]
  rfl

/-- The last of the logs that are found is neither the last log of the assertion nor the last of the
blocks that are searched. -/
theorem filter_logs :
    logs.filter (fun log => (rollup.assertionFilter 0xa5 base.number).Matches log) =
      [assertionLog 0xa5 0xb0 0xc0 6999950, assertionLog 0xa5 0xb1 0xc1 6999990] := by
  have hfirst : (rollup.assertionFilter 0xa5 base.number).Matches
      (assertionLog 0xa5 0xb0 0xc0 6999950) := by decide +kernel
  have hsecond : (rollup.assertionFilter 0xa5 base.number).Matches
      (assertionLog 0xa5 0xb1 0xc1 6999990) := by decide +kernel
  have hother : ¬ (rollup.assertionFilter 0xa5 base.number).Matches
      (assertionLog 0xa6 0xb2 0xc2 6999995) := by decide +kernel
  have hlate : ¬ (rollup.assertionFilter 0xa5 base.number).Matches
      (assertionLog 0xa5 0xb3 0xc3 7000001) := by decide +kernel
  simp only [logs, List.filter_cons, hfirst, hsecond, hother, hlate, decide_true, decide_false,
    if_true, Bool.false_eq_true, if_false, List.filter_nil]

theorem result_capture : result (rollup.capture 1 2 base.number) = .ok snapshot := by
  have hhash : result (rollup.latestConfirmed 1 base.number) = .ok 0xa5 := by decide +kernel
  have hlogs : result (query 1 (.logs (rollup.assertionFilter 0xa5 base.number))
      RollupError.assertionLogs) =
      .ok [assertionLog 0xa5 0xb0 0xc0 6999950, assertionLog 0xa5 0xb1 0xc1 6999990] :=
    congrArg Except.ok filter_logs
  have hcreated : result (rollup.assertionCreated 1 0xa5 base.number) =
      .ok { parent := 0xb1, after := afterState.toValue, inboxAccumulator := 0xc1 } := by
    rw [Rollup.assertionCreated, result_bind _ hlogs]
    simp only [List.getLast?_cons_cons, List.getLast?_singleton, decodeLog_assertionLog]
    rfl
  have hheader : result (Rollup.headerOf 2 afterState.globalState.blockHash) = .ok last := by
    rw [Rollup.headerOf, result_bind (a := some ⟨last, last.hash⟩) _ rfl]
    simp only [afterState, ne_eq, not_true_eq_false, if_false]
    rfl
  have hproof := result_adapt RollupError.slotProof (result_prove (.inl rfl) rollup.contract
    (mappingSlot 0xa5 rollup.assertionsSlot) (.number base.number))
  rw [Rollup.capture, result_bind _ hhash, result_bind _ hcreated]
  simp only [AssertionState.ofValue_toValue]
  rw [result_bind (a := afterState) _ rfl, result_bind _ hheader, result_bind _ hproof]
  rfl

theorem result_compose :
    result (ProofBundle.compose 1 2 true rollup inbox messageId .finalized) = .ok bundle := by
  have hbase := result_adapt CompositionError.l1State
    (show result (L1Snapshot.capture 1 true .finalized) = .ok ⟨.ofHeader base, ⟨base, 0xaa⟩⟩ from rfl)
  have hcapture := result_adapt CompositionError.rollupState result_capture
  have hactive : result ProofBundle.ensureActive = .ok () := rfl
  have hinbox := result_adapt CompositionError.inboxStorage (result_prove (.inr rfl) inbox
    (mappingSlot messageId fulfillmentInfoSlot) (.number snapshot.l2Block))
  rw [ProofBundle.compose, result_bind _ hbase, result_bind _ hactive]
  dsimp only
  rw [result_bind _ hcapture, result_bind _ hactive, result_bind _ hinbox]
  rfl

/-- The bundle is about the last log of the assertion in the blocks that are searched. -/
theorem origin_of_bundle :
    nodes.HonorsFilters ∧
      ((ProofBundle.compose 1 2 true rollup inbox messageId .finalized).run.run nodes ()).1 =
        .ok bundle ∧
      Nonempty (bundle.Origin 1 2 rollup inbox messageId .finalized
        (exchanges ((ProofBundle.compose 1 2 true rollup inbox messageId .finalized).run.run
          nodes ()).2.2)) := by
  have hrun := (fst_run_nodes _).trans result_compose
  exact ⟨honorsFilters_nodes, hrun,
    (ProofBundle.exists_origin_of_compose nodes honorsFilters_nodes 1 2 true rollup inbox messageId
      .finalized () bundle hrun).2⟩

end Devnet

end CrossCall
