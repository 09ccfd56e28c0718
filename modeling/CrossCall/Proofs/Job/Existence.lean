import Mathlib
import CrossCall.Proofs.Job.Printing
import CrossCall.Proofs.Job.Starting
import CrossCall.Proofs.Settlement.ClaimData
import CrossCall.Proofs.Settlement.Search

/-!
# Proofs of existence and of absence

The job of proving first makes sure that the inbox has a record of the message, and it asks at the
latest block. The proof is of the block that the last confirmed assertion ends at, which is older. A
message that was fulfilled in between has no record there, its slot is proven to hold zero, and the
job prints that proof like any other.

## Main definitions

* `Lagging.nodes` — nodes whose inbox has a record at the latest block, whatever they prove of an
  older one
* `Lagging.bundle` — the proof that is composed from their answers

## Main results

* `Job.proves_existence_iff` — what is printed shows existence exactly if no node proved a zero
* `Lagging.printed_absence` — a job that finds the record and prints a proof of absence
-/

namespace CrossCall

open Session

/-- A bundle is composed of two proofs that nodes gave, and it shows existence exactly if neither of
them is of zero. A job prints nothing, or such a bundle whatever its values are. -/
theorem Job.proves_existence_iff {σ : Type} (env : Environment NodeClient σ) (s : σ) :
    (∀ (l1 l2 : NodeClient) (devnet : Bool) (rollup : Rollup) (inbox : Address) (messageId : Word)
      (block : BlockTag) (bundle : ProofBundle),
      ((ProofBundle.compose l1 l2 devnet rollup inbox messageId block).run.run env s).1 = .ok bundle →
      ∃ asserted recorded,
        bundle.ProvenBy l1 l2 rollup inbox messageId
          (exchanges ((ProofBundle.compose l1 l2 devnet rollup inbox messageId block).run.run
            env s).2.2) asserted recorded ∧
        (bundle.ShowsExistence ↔ recorded.value? ≠ some 0 ∧ asserted.value? ≠ some 0)) ∧
    ∀ (c : Configuration) (request : ProofRequest),
      printed ((proveFulfillment c request).run.run env s).2.2 = [] ∨
      ∃ (course : Course env c request ((proveFulfillment c request).run.run env s).2.2)
        (asserted recorded : AccountProof),
        course.bundle.ProvenBy course.l1Node course.l2Node
          (rollupOf course.destination course.prover) course.destination.inbox request.messageId
          (exchanges course.composing) asserted recorded ∧
        (course.bundle.ShowsExistence ↔ recorded.value? ≠ some 0 ∧ asserted.value? ≠ some 0) := by
  constructor
  · intro l1 l2 devnet rollup inbox messageId block bundle h
    obtain ⟨asserted, recorded, hproven⟩ := ProofBundle.exists_provenBy_of_compose
      (show (ProofBundle.compose l1 l2 devnet rollup inbox messageId block).run.talk env s =
        (.ok bundle, _, _) from Prod.ext h rfl)
    exact ⟨asserted, recorded, hproven, hproven.showsExistence_iff⟩
  · intro c request
    rcases nonempty_course c request (Prod.ext rfl (Prod.ext rfl rfl)) with hnil | ⟨⟨course⟩⟩
    · exact .inl hnil
    · obtain ⟨asserted, recorded, hproven⟩ := ProofBundle.exists_provenBy_of_compose
        (congrArg (fun r => (r.1, r.2.1, exchanges r.2.2)) course.composed)
      exact .inr ⟨course, asserted, recorded, hproven, hproven.showsExistence_iff⟩

/-! ### A message that was fulfilled after the last confirmed assertion

The inbox has the record at the latest block, so the job goes on. The assertion ends at an older
block, and what the slot of the record holds there is up to the nodes: if it was never written, they
answer with a proof that it holds zero. The parts of the job are gone through one by one, for any
values of the two slots, each with its result and what it printed. -/

namespace Lagging

/-- The outbox of the source chain. -/
def outbox : Address := 0x25

/-- The base chain, the destination, and the source. -/
def base : Endpoint := { chainId := 1, nodeUrl := "http://[::1]:8545" }

def destination : Endpoint :=
  { chainId := 2, nodeUrl := "http://[::1]:8546", inbox := Devnet.inbox
    l2Oracle := Devnet.rollup.contract, l2OracleStorageKey := Devnet.rollup.assertionsSlot }

def source : Endpoint :=
  { chainId := 3, nodeUrl := "http://[::1]:8547", outboxes := [("main", outbox)] }

def prover : ProverSettings := { l1ChainId := 1, devnet := true, lookback := Devnet.rollup.lookback }

def configuration : Configuration :=
  { chains := [("base", base), ("destination", destination), ("source", source)]
    wallet := Loopback.wallet, prover := some prover }

def request : ProofRequest :=
  { messageId := Devnet.messageId, destination := 2, source := some 3 }

/-- The client of the node that listens at a port. -/
def clientAt (port : Nat) : NodeClient :=
  { url := { scheme := "http", host := some "[::1]", port := some port, path := "/" } }

/-- The record at the latest block. -/
def record : FulfillmentRecord := { timestamp := 1741000000, filler := 0x99 }

/-- The log of the message on its source chain. -/
def posted : Log := Ledger.logOf Devnet.message outbox 10

/-- The two slots that a bundle is about: that of the assertion in the rollup, and that of the
record in the inbox. -/
structure Slots (α : Type) where
  rollup : α
  inbox : α

/-- What stands in the slot of a contract. -/
def Slots.at {α : Type} (slots : Slots α) (contract : Address) : α :=
  if contract = Devnet.inbox then slots.inbox else slots.rollup

/-- The texts for the slots are read as the values that they hold. -/
structure Slots.Hold (texts : Slots String) (held : Slots Word) : Prop where
  rollup : SlotProof.decodeValue texts.rollup = .ok held.rollup
  inbox : SlotProof.decodeValue texts.inbox = .ok held.inbox

/-- A proof that a slot holds a value. -/
def proofOf (value : String) (account : Address) : AccountProof :=
  { Devnet.accountProof account with
    storageProof := [{ key := "0x0", value, proof := ["0xe2"] }] }

/-- Nodes that have the record at the latest block, and prove values of the two slots. -/
def nodes (texts : Slots String) : Environment NodeClient Unit where
  answer _ node request :=
    (match request with
      | .chainId => .ok (if node = clientAt 8545 then 1 else if node = clientAt 8546 then 2 else 3)
      | .headerByNumber _ => .ok (some ⟨Devnet.base, 0xaa⟩)
      | .headerByHash _ => .ok (some ⟨Devnet.last, Devnet.last.hash⟩)
      -- The latest block is asked for the record, and a given one for the confirmed assertion.
      | .call _ .latest =>
        .ok (Abi.encodeSingle FulfillmentRecord.ty (record.timestamp, record.filler, ()))
      | .call _ _ => .ok (Bytes.ofBitVec (0xa5 : Word))
      | .logs f =>
        .ok ((if node = clientAt 8547 then [posted] else Devnet.logs).filter fun log => f.Matches log)
      | .proof account _ _ => .ok (proofOf (texts.at account) account)
      | _ => .error (.transport "unexpected"), ())

/-- The slot that is read from such a proof. -/
def slotProof (slot held : Word) : SlotProof := { Devnet.slotProof slot with value := held }

/-- The bundle of the two slots. -/
def bundle (held : Slots Word) : ProofBundle :=
  { Devnet.bundle with
    assertionProof := slotProof (mappingSlot 0xa5 Devnet.rollup.assertionsSlot) held.rollup
    inboxProof := slotProof (mappingSlot Devnet.messageId fulfillmentInfoSlot) held.inbox }

theorem ofAnswer_proofOf {value : String} {held : Word}
    (hvalue : SlotProof.decodeValue value = .ok held) (slot : Word) :
    SlotProof.ofAnswer slot ["0xf851", "0x1"] { key := "0x0", value, proof := ["0xe2"] } =
      .ok (slotProof slot held) := by
  have haccount : SlotProof.decodeNodes .accountNode 0 ["0xf851", "0x1"] =
      .ok [[0xf8, 0x51], [0x01]] := by decide +kernel
  have hstorage : SlotProof.decodeNodes .storageNode 0 ["0xe2"] = .ok [[0xe2]] := by decide +kernel
  rw [SlotProof.ofAnswer, haccount, hstorage, hvalue]
  rfl

section

variable {texts : Slots String} {held : Slots Word}

theorem outcome_prove {contract : Address} {value : Word}
    (hvalue : SlotProof.decodeValue (texts.at contract) = .ok value) (node : NodeClient)
    (slot : Word) (block : BlockTag) :
    outcome (nodes texts) (SlotProof.prove node contract slot block) =
      (.ok (slotProof slot value), []) := by
  have hanswer : outcome (nodes texts)
      (query node (.proof contract [slot] block) SlotProofError.request) =
      (.ok (proofOf (texts.at contract) contract), []) := rfl
  rw [SlotProof.prove, outcome_bind_of_silent _ rfl, outcome_bind_of_silent _ hanswer]
  simp only [proofOf, Devnet.accountProof, ofAnswer_proofOf hvalue]
  rfl

theorem outcome_capture (hheld : texts.Hold held) :
    outcome (nodes texts) (Devnet.rollup.capture (clientAt 8545) (clientAt 8546) Devnet.base.number) =
      (.ok { Devnet.snapshot with
        proof := slotProof (mappingSlot 0xa5 Devnet.rollup.assertionsSlot) held.rollup }, []) := by
  have hhash : outcome (nodes texts)
      (Devnet.rollup.latestConfirmed (clientAt 8545) Devnet.base.number) =
      (.ok 0xa5, []) := by
    have hdecode : Abi.decodeSingle (.word 256) (Bytes.ofBitVec (0xa5 : Word)) = .ok 0xa5 := rfl
    rw [Rollup.latestConfirmed, outcome_bind_of_silent (a := Bytes.ofBitVec (0xa5 : Word)) _ rfl,
      hdecode]
    rfl
  have hlogs : outcome (nodes texts) (query (clientAt 8545)
      (.logs (Devnet.rollup.assertionFilter 0xa5 Devnet.base.number)) RollupError.assertionLogs) =
      (.ok [Devnet.assertionLog 0xa5 0xb0 0xc0 6999950, Devnet.assertionLog 0xa5 0xb1 0xc1 6999990],
        []) :=
    congrArg (fun logs => (Except.ok logs, [])) Devnet.filter_logs
  have hcreated : outcome (nodes texts)
      (Devnet.rollup.assertionCreated (clientAt 8545) 0xa5 Devnet.base.number) =
      (.ok { parent := 0xb1, after := Devnet.afterState.toValue, inboxAccumulator := 0xc1 }, []) := by
    rw [Rollup.assertionCreated, outcome_bind_of_silent _ hlogs]
    simp only [List.getLast?_cons_cons, List.getLast?_singleton, Devnet.decodeLog_assertionLog]
    rfl
  have hheader : outcome (nodes texts)
      (Rollup.headerOf (clientAt 8546) Devnet.afterState.globalState.blockHash) =
      (.ok Devnet.last, []) := by
    rw [Rollup.headerOf,
      outcome_bind_of_silent (a := some ⟨Devnet.last, Devnet.last.hash⟩) _ rfl]
    simp only [Devnet.afterState, ne_eq, not_true_eq_false, if_false]
    rfl
  -- The rollup is another contract than the inbox.
  have hvalue : SlotProof.decodeValue (texts.at Devnet.rollup.contract) = .ok held.rollup := by
    rw [Slots.at, if_neg (by decide)]
    exact hheld.rollup
  have hproof := outcome_adapt RollupError.slotProof (outcome_prove hvalue (clientAt 8545)
    (mappingSlot 0xa5 Devnet.rollup.assertionsSlot) (.number Devnet.base.number))
  rw [Rollup.capture, outcome_bind_of_silent _ hhash, outcome_bind_of_silent _ hcreated]
  simp only [AssertionState.ofValue_toValue]
  rw [outcome_bind_of_silent (a := Devnet.afterState) _ rfl, outcome_bind_of_silent _ hheader,
    outcome_bind_of_silent _ hproof]
  rfl

theorem outcome_compose (hheld : texts.Hold held) :
    outcome (nodes texts) (ProofBundle.compose (clientAt 8545) (clientAt 8546) true Devnet.rollup
      Devnet.inbox Devnet.messageId .latest) = (.ok (bundle held), []) := by
  have hbase := outcome_adapt CompositionError.l1State
    (show outcome (nodes texts) (L1Snapshot.capture (clientAt 8545) true .latest) =
      (.ok ⟨.ofHeader Devnet.base, ⟨Devnet.base, 0xaa⟩⟩, []) from rfl)
  have hcapture := outcome_adapt CompositionError.rollupState (outcome_capture hheld)
  have hactive : outcome (nodes texts) ProofBundle.ensureActive = (.ok (), []) := rfl
  have hvalue : SlotProof.decodeValue (texts.at Devnet.inbox) = .ok held.inbox := by
    rw [Slots.at, if_pos rfl]
    exact hheld.inbox
  have hinbox := outcome_adapt CompositionError.inboxStorage (outcome_prove hvalue (clientAt 8546)
    (mappingSlot Devnet.messageId fulfillmentInfoSlot) (.number Devnet.snapshot.l2Block))
  rw [ProofBundle.compose, outcome_bind_of_silent _ hbase, outcome_bind_of_silent _ hactive]
  dsimp only
  rw [outcome_bind_of_silent _ hcapture, outcome_bind_of_silent _ hactive,
    outcome_bind_of_silent _ hinbox]
  rfl

theorem outcome_read :
    outcome (nodes texts)
      (FulfillmentRecord.read (clientAt 8546) Devnet.inbox Devnet.messageId .latest) =
      (.ok record, []) := by
  have hread := Abi.decodeSingle_encodeSingle (t := FulfillmentRecord.ty) (by decide)
    (record.timestamp, record.filler, ()) (by decide) []
  rw [List.append_nil] at hread
  rw [FulfillmentRecord.read, outcome_bind_of_silent (a := Abi.encodeSingle FulfillmentRecord.ty
    (record.timestamp, record.filler, ())) _ rfl, hread]
  rfl

theorem outcome_findPostedMessage :
    outcome (nodes texts) (findPostedMessage (clientAt 8547) [outbox] Devnet.messageId 0) =
      (.ok Devnet.message, []) := by
  have hlogs : outcome (nodes texts) (query (clientAt 8547)
      (.logs (postedMessageFilter [outbox] Devnet.messageId 0)) ClaimError.logs) =
      (.ok [posted], []) := by
    have hmatches : (postedMessageFilter [outbox] Devnet.messageId 0).Matches posted := by
      decide +kernel
    have hfilter : ([posted].filter fun log =>
        (postedMessageFilter [outbox] Devnet.messageId 0).Matches log) = [posted] :=
      List.filter_eq_self.mpr fun log hlog => by
        rw [List.mem_singleton.mp hlog]
        exact decide_eq_true hmatches
    exact congrArg (fun logs => (Except.ok logs, [])) hfilter
  have hdecode : PostedMessage.decodeLog posted = .ok Devnet.message :=
    Ledger.decodeLog_logOf (by decide +kernel) outbox 10
  rw [findPostedMessage, outcome_bind_of_silent _ hlogs]
  simp only [List.head?_cons, hdecode]
  rfl

/-- The registry of the three chains. -/
def registry : Registry NodeClient where
  chains := [⟨base, clientAt 8545⟩, ⟨destination, clientAt 8546⟩, ⟨source, clientAt 8547⟩]
  distinct := by simp [base, destination, source]

theorem outcome_connectTo_cons {r r' : Registry NodeClient} {e : Endpoint} {client : NodeClient}
    (endpoints : List Endpoint) (hclient : NodeClient.ofEndpoint e = .ok client)
    (hinsert : outcome (nodes texts) (r.insertVerified e client) = (.ok r', [])) :
    outcome (nodes texts) (r.connectTo (e :: endpoints)) =
      outcome (nodes texts) (r'.connectTo endpoints) := by
  have hlift : outcome (nodes texts)
      (liftM ((NodeClient.ofEndpoint e).mapError (RegistryError.client e.chainId)) :
        ExceptT RegistryError (Session NodeClient) NodeClient) = (.ok client, []) := by
    rw [hclient]
    rfl
  rw [Registry.connectTo, outcome_bind_of_silent _ hlift, outcome_bind_of_silent _ hinsert]

theorem outcome_connect :
    outcome (nodes texts) (Registry.connect [base, destination, source]) = (.ok registry, []) := by
  have hbase : NodeClient.ofEndpoint base = .ok (clientAt 8545) := rfl
  have hdestination : NodeClient.ofEndpoint destination = .ok (clientAt 8546) := rfl
  have hsource : NodeClient.ofEndpoint source = .ok (clientAt 8547) := rfl
  rw [Registry.connect, outcome_connectTo_cons _ hbase rfl, outcome_connectTo_cons _ hdestination rfl,
    outcome_connectTo_cons _ hsource rfl]
  rfl

theorem outcome_printClaim :
    outcome (nodes texts) (Job.printClaim registry configuration request (bundle held) source) =
      (.ok (), [(claimData Devnet.message (bundle held) configuration.wallet.fromAddress).hex]) := by
  have hclient : outcome (nodes texts) (Job.client registry source.chainId) =
      (.ok (clientAt 8547), []) := rfl
  have hmessage : outcome (nodes texts) ((findPostedMessage (clientAt 8547)
      (source.outboxes.map (·.2)) request.messageId request.sourceFromBlock).adapt JobError.claim) =
      (.ok Devnet.message, []) :=
    outcome_adapt JobError.claim outcome_findPostedMessage
  rw [Job.printClaim, outcome_bind_of_silent _ hclient, outcome_bind_of_silent _ hmessage]
  rfl

/-- The job prints its bundle and the claim, and ends well. -/
theorem outcome_proveFulfillment (hheld : texts.Hold held) :
    outcome (nodes texts) (Job.proveFulfillment configuration request) =
      (.ok (), [(bundle held).toData.pretty, (bundle held).encode.hex,
        (claimData Devnet.message (bundle held) configuration.wallet.fromAddress).hex]) := by
  have hprover : outcome (nodes texts) (Job.need JobError.missingProver configuration.prover) =
      (.ok prover, []) := rfl
  have hl1 : outcome (nodes texts) (Job.need (JobError.unknownL1Chain prover.l1ChainId)
      (configuration.chain? prover.l1ChainId)) = (.ok base, []) := rfl
  have hdestination : outcome (nodes texts) (Job.configured configuration request.destination) =
      (.ok destination, []) := rfl
  have hsource : outcome (nodes texts) (request.source.mapM (Job.configured configuration)) =
      (.ok (some source), []) := rfl
  have hconnect : outcome (nodes texts) ((Registry.connect (Job.distinctChains
      (base :: destination :: (some source).toList))).adapt JobError.registry) =
      (.ok registry, []) := outcome_adapt JobError.registry outcome_connect
  have hl1Node : outcome (nodes texts) (Job.client registry prover.l1ChainId) =
      (.ok (clientAt 8545), []) := rfl
  have hl2Node : outcome (nodes texts) (Job.client registry request.destination) =
      (.ok (clientAt 8546), []) := rfl
  have hread : outcome (nodes texts) (discard ((FulfillmentRecord.read (clientAt 8546)
      destination.inbox request.messageId .latest).adapt JobError.inbox)) = (.ok (), []) :=
    outcome_discard (outcome_adapt JobError.inbox outcome_read)
  have hcompose : outcome (nodes texts) ((ProofBundle.compose (clientAt 8545) (clientAt 8546)
      prover.devnet (Job.rollupOf destination prover) destination.inbox request.messageId
      ((request.l1Block.map BlockTag.number).getD .latest)).adapt JobError.composition) =
      (.ok (bundle held), []) := outcome_adapt JobError.composition (outcome_compose hheld)
  rw [Job.proveFulfillment, outcome_bind_of_silent _ hprover, outcome_bind_of_silent _ hl1,
    outcome_bind_of_silent _ hdestination, outcome_bind_of_silent _ hsource,
    outcome_bind_of_silent _ hconnect, outcome_bind_of_silent _ hl1Node,
    outcome_bind_of_silent _ hl2Node, outcome_bind_of_silent _ hread]
  -- The rollup is spelled out in the job, so the step is matched up to its definition.
  refine (outcome_bind_of_silent _ hcompose).trans ?_
  have hprint (text : String) : outcome (nodes texts) (Job.print text : ExceptT JobError _ Unit) =
      (.ok (), [text]) := rfl
  have hreport : outcome (nodes texts) (Session.report .info "filler::cli" "Proof composed" :
      ExceptT JobError _ Unit) = (.ok (), []) := rfl
  rw [outcome_bind_of_silent _ hreport, outcome_bind _ (hprint _), outcome_bind _ (hprint _)]
  dsimp only
  rw [outcome_printClaim]
  rfl

end

theorem decodeValue_one : SlotProof.decodeValue "0x1" = .ok 1 := by decide +kernel

/-- The assertion is in the rollup, and the record is not in the inbox. -/
def absent : Slots String := { rollup := "0x1", inbox := "0x0" }

theorem hold_absent : absent.Hold { rollup := 1, inbox := 0 } :=
  ⟨decodeValue_one, by decide +kernel⟩

/-- The record is in the inbox at the latest block and not yet at the block of the last confirmed
assertion. The job prints a bundle in which the value of its slot is zero, and a claim that holds
it. -/
theorem printed_absence :
    configuration.validate = .ok () ∧
    ((FulfillmentRecord.read (clientAt 8546) Devnet.inbox Devnet.messageId .latest).run.run
      (nodes absent) ()).1 = .ok record ∧
    ∃ bundle : ProofBundle,
      ((ProofBundle.compose (clientAt 8545) (clientAt 8546) true Devnet.rollup Devnet.inbox
        Devnet.messageId .latest).run.run (nodes absent) ()).1 = .ok bundle ∧
      bundle.inboxProof.value = 0 ∧ bundle.assertionProof.value = 1 ∧
      printed ((Job.proveFulfillment configuration request).run.run (nodes absent) ()).2.2 =
        [bundle.toData.pretty, bundle.encode.hex,
          (claimData Devnet.message bundle configuration.wallet.fromAddress).hex] := by
  have hvalid : configuration.validate = .ok () :=
    Configuration.validate_eq_ok_iff.mpr
      { chains_ne := by simp [configuration]
        distinct := by simp [configuration, Configuration.endpoints, base, destination, source]
        capacity_ne := by decide
        l1_configured := fun p hp => by
          cases hp
          simp [configuration, Configuration.endpoints, prover, base]
        wallet := ⟨Loopback.key.account, Loopback.verifiedAccount_wallet⟩ }
  exact ⟨hvalid, (of_outcome outcome_read).1, _, (of_outcome (outcome_compose hold_absent)).1, rfl,
    rfl, (of_outcome (outcome_proveFulfillment hold_absent)).2⟩

/-- Both are there at the block of the assertion. -/
def present : Slots String := { rollup := "0x1", inbox := "0x1" }

theorem hold_present : present.Hold { rollup := 1, inbox := 1 } :=
  ⟨decodeValue_one, decodeValue_one⟩

/-- With a record at the block of the assertion too, the proofs are of existence. -/
theorem existence_of_bundle :
    ∃ bundle : ProofBundle,
      ((ProofBundle.compose (clientAt 8545) (clientAt 8546) true Devnet.rollup Devnet.inbox
        Devnet.messageId .latest).run.run (nodes present) ()).1 = .ok bundle ∧
      bundle.ShowsExistence ∧
      ∃ asserted recorded : AccountProof,
        bundle.ProvenBy (clientAt 8545) (clientAt 8546) Devnet.rollup Devnet.inbox
          Devnet.messageId
          (exchanges ((ProofBundle.compose (clientAt 8545) (clientAt 8546) true Devnet.rollup
            Devnet.inbox Devnet.messageId .latest).run.run (nodes present) ()).2.2)
          asserted recorded ∧
        recorded.value? ≠ some 0 ∧ asserted.value? ≠ some 0 := by
  have hrun := (of_outcome (outcome_compose hold_present)).1
  have hshows : (bundle { rollup := 1, inbox := 1 }).ShowsExistence := by decide
  obtain ⟨asserted, recorded, hproven, hiff⟩ :=
    (Job.proves_existence_iff (nodes present) ()).1 _ _ _ _ _ _ _ _ hrun
  exact ⟨_, hrun, hshows, asserted, recorded, hproven, hiff.mp hshows⟩

end Lagging

end CrossCall
