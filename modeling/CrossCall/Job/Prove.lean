import CrossCall.Chain.Connection
import CrossCall.CommandLine.Invocation
import CrossCall.Config.Configuration
import CrossCall.Data.Json
import CrossCall.Job.Error

/-!
# Proving a fulfillment

The job connects to the base chain, the destination and, if the reward is to be claimed, the source.
It goes on only if the destination's inbox has a record of the message, prints the proof, and then
the call that claims the reward.

## Main definitions

* `Job.distinctChains` — each chain once, in the order of their ids
* `Job.proveFulfillment` — the whole job
-/

namespace CrossCall.Job

/-- Inserts an endpoint into a list ascending by chain id, unless its chain is there. -/
def insertById (e : Endpoint) : List Endpoint → List Endpoint
  | [] => [e]
  | f :: rest =>
    if e.chainId < f.chainId then e :: f :: rest
    else if e.chainId = f.chainId then f :: rest
    else f :: insertById e rest

/-- The endpoints in the order of their chain ids, each chain once. -/
def distinctChains (endpoints : List Endpoint) : List Endpoint :=
  endpoints.foldl (fun sorted e => insertById e sorted) []

/-- A value, or the error for its absence. -/
def need {ε α : Type} {χ : Type} (e : ε) : Option α → ExceptT ε (Session χ) α
  | some a => return a
  | none => throw e

/-- The endpoint of a configured chain. -/
def configured {χ : Type} (c : Configuration) (id : ChainId) :
    ExceptT JobError (Session χ) Endpoint :=
  need (.unknownChain id) (c.chain? id)

/-- The client of a registered chain. -/
def client {χ : Type} (r : Registry χ) (id : ChainId) : ExceptT JobError (Session χ) χ :=
  need (.noClient id) ((r.get? id).map (·.client))

/-- Prints a line. -/
def print {ε χ : Type} (text : String) : ExceptT ε (Session χ) Unit :=
  ExceptT.lift (Session.leave (.print text))

/-- Looks for the message on its source chain and prints the call that claims its reward. -/
def printClaim (r : Registry NodeClient) (c : Configuration) (request : ProofRequest)
    (bundle : ProofBundle) (source : Endpoint) : ExceptT JobError (Session NodeClient) Unit := do
  let node ← client r source.chainId
  let message ← (findPostedMessage node (source.outboxes.map (·.2)) request.messageId
    request.sourceFromBlock).adapt JobError.claim
  print (claimData message bundle c.wallet.fromAddress).hex

/-- Proves that a message was fulfilled. -/
def proveFulfillment (c : Configuration) (request : ProofRequest) :
    ExceptT JobError (Session NodeClient) Unit := do
  let prover ← need .missingProver c.prover
  let l1 ← need (.unknownL1Chain prover.l1ChainId) (c.chain? prover.l1ChainId)
  let destination ← configured c request.destination
  let source ← request.source.mapM (configured c)
  let registry ←
    (Registry.connect (distinctChains (l1 :: destination :: source.toList))).adapt JobError.registry
  let l1Node ← client registry prover.l1ChainId
  let l2Node ← client registry request.destination
  discard <| (FulfillmentRecord.read l2Node destination.inbox request.messageId .latest).adapt
    JobError.inbox
  let rollup : Rollup :=
    { contract := destination.l2Oracle, assertionsSlot := destination.l2OracleStorageKey
      lookback := prover.lookback }
  let block := (request.l1Block.map BlockTag.number).getD .latest
  let bundle ← (ProofBundle.compose l1Node l2Node prover.devnet rollup destination.inbox
    request.messageId block).adapt JobError.composition
  Session.report .info "filler::cli" "Proof composed"
  print bundle.toData.pretty
  print bundle.encode.hex
  if let some source := source then printClaim registry c request bundle source

end CrossCall.Job
