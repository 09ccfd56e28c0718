import CrossCall.Config.Error
import CrossCall.Data.Basic
import CrossCall.Fulfillment.Transaction

/-!
# The relayer's wallet

## Main definitions

* `Wallet` — the configured account
* `Wallet.account` — the account of the key
* `Wallet.verifiedAccount` — the same, if its address is the configured one
-/

namespace CrossCall

/-- The relayer's account as it is configured. -/
structure Wallet where
  fromAddress : Address
  privateKey : String
  recipient : Address := 0
deriving DecidableEq

namespace Wallet

/-- The account of the key. -/
def account (w : Wallet) : Except ConfigError Account :=
  match SecretKey.ofText w.privateKey with
  | .ok key => .ok key.account
  | .error e => .error (.invalidPrivateKey e)

/-- The account of the key, which has to have the configured address. -/
def verifiedAccount (w : Wallet) : Except ConfigError Account := do
  let account ← w.account
  if account.address ≠ w.fromAddress then
    throw (.fromAddressMismatch w.fromAddress account.address)
  return account

/-- The text of a wallet in diagnostics, which keeps the key to itself. -/
def redacted (w : Wallet) : String :=
  "WalletConfig \x7b from_address: " ++ fixedHex w.fromAddress ++
    ", private_key: \"<redacted>\", recipient_address: " ++ fixedHex w.recipient ++ " \x7d"

/-- Reads a wallet. -/
def ofData? (d : Data) : Option Wallet := do
  let fs ← d.fields? .toml ["from-address", "private-key", "recipient-address"] true
  let fromAddress ← fs.required? "from-address" (Data.fixed? .toml 160)
  let privateKey ← fs.required? "private-key" Data.text?
  let recipient ← fs.withDefault? "recipient-address" 0 (Data.fixed? .toml 160)
  return { fromAddress, privateKey, recipient }

/-- The written form of a wallet. -/
def toData (w : Wallet) : Data :=
  .record
    [("from-address", .ofFixed w.fromAddress), ("private-key", .text w.privateKey),
     ("recipient-address", .ofFixed w.recipient)]

end Wallet

end CrossCall
