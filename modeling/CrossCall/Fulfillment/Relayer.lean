import CrossCall.Fulfillment.Transaction

/-!
# The relayer

The relayer takes the logs of outboxes one at a time. It reads the log, validates the message,
builds the call, asks for the fee, checks the reward and sends the transaction, and gives up at the
first of these that fails.

## Main definitions

* `Relayer` — the registered chains and the paying account
* `Relayer.parse` — reads and validates a log
* `Relayer.fulfill` — fulfills an accepted message
* `Relayer.handle` — the whole way of a log, with its counts
* `Submission` — what was sent
-/

namespace CrossCall

/-- A fulfillment that was sent. -/
structure Submission where
  messageId : Word
  destination : ChainId
  transactionHash : Word
  requiredReward : Word
deriving DecidableEq

/-- The registered chains and the paying account. -/
structure Relayer (χ : Type) where
  registry : Registry χ
  account : Account

namespace Relayer

variable {χ : Type}

/-- Reads and validates a log seen on a chain. -/
def parse (r : Relayer χ) (source : ChainId) (log : Log) : Except FulfillmentError ValidMessage :=
  match r.registry.endpoint? source with
  | none => .error (.unknownSourceChain source)
  | some endpoint => do
    let message ← (PostedMessage.decodeLog log).mapError .decode
    (validate message endpoint r.registry).mapError .validation

/-- Fulfills an accepted message. -/
def fulfill (r : Relayer χ) (m : ValidMessage) : ExceptT FulfillmentError (Session χ) Submission :=
  match r.registry.get? m.message.destinationId with
  | none => throw (.validation (.destinationNotConfigured m.message.destinationId))
  | some destination => do
    let call ← liftM ((FulfillmentCall.ofMessage m destination.endpoint r.account.address).mapError
      FulfillmentError.decode)
    Session.report .info "filler::pipeline" "Fulfillment call built"
    let fee ← Fee.quote destination.client call
    Session.report .info "filler::pipeline" "Gas quoted"
    let required ← liftM (requiredReward m.attributes call.value fee)
    Session.report .info "filler::pipeline" "Reward checked"
    let transactionHash ←
      submit destination.client r.account m.message.destinationId call.target call.value call.data
        fee
    Session.report .info "filler::pipeline" "Fulfillment submitted"
    return { messageId := m.message.id, destination := m.message.destinationId, transactionHash,
             requiredReward := required }

/-- Reads, validates and fulfills a log. -/
def attempt (r : Relayer χ) (source : ChainId) (log : Log) :
    ExceptT FulfillmentError (Session χ) Submission := do
  let m ← liftM (r.parse source log)
  Session.report .debug "filler::validator" "Message validated"
  r.fulfill m

/-- Counts an outcome. -/
def countOutcome (outcome : Except FulfillmentError Submission) : Session χ Unit :=
  match outcome with
  | .ok submission => do
    Session.measure (.submitted submission.destination) 1
    Session.measure .duration 1
  | .error e => do
    Session.measure (.rejected e.stage) 1
    Session.journal .warn "filler::pipeline" "Message rejected"

/-- The whole way of a log: it is counted when it comes in and when its outcome is known. -/
def handle (r : Relayer χ) (source : ChainId) (log : Log) :
    Session χ (Except FulfillmentError Submission) := do
  Session.measure .received 1
  let outcome ← (r.attempt source log).run
  countOutcome outcome
  return outcome

end Relayer

end CrossCall
