import CrossCall.Chain.Registry
import CrossCall.Url.Reader

/-!
# Connecting to chains

## Main definitions

* `NodeClient` — how a node is reached
* `unreachable` — nodes that are out of reach
* `Registry.connect` — registers chains in order, after asking their nodes
-/

namespace CrossCall

/-- How a node is reached, and whether any certificate of its own will do. -/
structure NodeClient where
  url : Url
  skipVerify : Bool := false
deriving DecidableEq

/-- The client for an endpoint. -/
def NodeClient.ofEndpoint (e : Endpoint) : Except ClientError NodeClient :=
  match Url.parse e.nodeUrl with
  | .ok url => .ok { url, skipVerify := e.skipVerify }
  | .error cause => .error (.invalidUrl cause)

/-- The text of the error when no request reaches a node: either none could be built or none could
be sent. -/
def NodeClient.failure (node : NodeClient) : String :=
  let reason := if node.url.isReachable then "error sending request" else "builder error"
  s!"{reason} for url ({node.url.withoutCredentials.text})"

/-- Nodes of which none can be reached. -/
def unreachable : Environment NodeClient Unit where
  answer := fun _ node _ => (.error (.transport node.failure), ())

namespace Registry

/-- Registers chains in order, after asking their nodes. -/
def connectTo (r : Registry NodeClient) :
    List Endpoint → ExceptT RegistryError (Session NodeClient) (Registry NodeClient)
  | [] => return r
  | e :: es => do
    let client ← liftM ((NodeClient.ofEndpoint e).mapError (RegistryError.client e.chainId))
    let r ← r.insertVerified e client
    r.connectTo es

/-- Registers chains in order, starting with none, and stops at the first that cannot be. -/
def connect (endpoints : List Endpoint) :
    ExceptT RegistryError (Session NodeClient) (Registry NodeClient) := empty.connectTo endpoints

end Registry

end CrossCall
