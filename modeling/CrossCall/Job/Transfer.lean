import CrossCall.Job.Prove

/-!
# A test transfer

## Main definitions

* `Job.sendTransfer` — sends a small transfer and prints its hash
-/

namespace CrossCall.Job

/-- Sends a small transfer from the relayer to the recipient on a chain, to try out wallet and
node. -/
def sendTransfer (c : Configuration) (chain : ChainId) :
    ExceptT JobError (Session NodeClient) Unit := do
  let endpoint ← configured c chain
  let account ← liftM (c.wallet.verifiedAccount.mapError JobError.wallet)
  let registry ← (Registry.connect [endpoint]).adapt JobError.registry
  let node ← client registry chain
  let hash ← (sendTestTransfer node account chain c.wallet.recipient).adapt JobError.fulfillment
  Session.report .info "filler::cli" "Test transfer sent"
  print (fixedHex hash)

end CrossCall.Job
