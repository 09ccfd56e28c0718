import CrossCall.Chain.Endpoint
import CrossCall.Node.Session

/-!
# The registry of chains

A chain is registered once, under its id, with the client that reaches its node.

## Main definitions

* `Registry` — the registered chains
* `Registry.get?` — the chain with an id
* `Registry.add`, `Registry.addVerified` — add a chain, the latter after asking its node
* `Registry.insert`, `Registry.insertVerified` — the registry with another chain
* `RegistryError` — why a chain is not registered

## Main results

* `Registry.get?_eq_some_iff` — looking up finds exactly the registered chains
* `Registry.nodup_ids` — no id is registered twice
-/

namespace CrossCall

/-- A configured chain and its client. -/
structure Registration (χ : Type) where
  endpoint : Endpoint
  client : χ

/-- The registered chains in order of registration. -/
structure Registry (χ : Type) where
  chains : List (Registration χ) := []
  distinct : chains.Pairwise (fun a b => a.endpoint.chainId ≠ b.endpoint.chainId) := by simp

/-- Why a chain is not registered. -/
inductive RegistryError
  | client (chain : ChainId) (cause : ClientError)
  | chainIdMismatch (expected actual : ChainId)
  | duplicate (chain : ChainId)
deriving DecidableEq

/-- The text of an error. -/
def RegistryError.message : RegistryError → String
  | client chain cause => s!"connecting to chain {chain.toNat}: {cause.message}"
  | chainIdMismatch expected actual =>
    s!"chain id mismatch, want: {expected.toNat}, got: {actual.toNat}"
  | duplicate chain => s!"chain {chain.toNat} is already registered"

namespace Registry

variable {χ : Type}

/-- The registry without chains. -/
def empty : Registry χ := {}

/-- The chain with an id. -/
def get? (r : Registry χ) (id : ChainId) : Option (Registration χ) :=
  r.chains.find? fun c => c.endpoint.chainId = id

/-- The configuration of the chain with an id. -/
def endpoint? (r : Registry χ) (id : ChainId) : Option Endpoint := (r.get? id).map (·.endpoint)

/-- The ids of the chains. -/
def ids (r : Registry χ) : List ChainId := r.chains.map (·.endpoint.chainId)

theorem get?_eq_none_iff {r : Registry χ} {id : ChainId} :
    r.get? id = none ↔ ∀ c ∈ r.chains, c.endpoint.chainId ≠ id := by
  simp [get?]

/-- Adds a chain without asking its node. The registry that is left comes with the result, also when
the chain was not added. -/
def add (r : Registry χ) (endpoint : Endpoint) (client : χ) :
    Except RegistryError Unit × Registry χ :=
  if h : r.get? endpoint.chainId = none then
    (.ok (),
      { chains := r.chains ++ [{ endpoint, client }]
        distinct := by
          rw [List.pairwise_append]
          refine ⟨r.distinct, List.pairwise_singleton _ _, ?_⟩
          intro a ha b hb
          rw [List.mem_singleton.mp hb]
          exact get?_eq_none_iff.mp h a ha })
  else (.error (.duplicate endpoint.chainId), r)

/-- Adds a chain after asking its node for the chain's id, which is compared before a duplicate is
looked for. -/
def addVerified (r : Registry χ) (endpoint : Endpoint) (client : χ) :
    Session χ (Except RegistryError Unit × Registry χ) := do
  match ← (Session.query client .chainId (RegistryError.client endpoint.chainId)).run with
  | .error e => return (.error e, r)
  | .ok actual =>
    if actual ≠ endpoint.chainId then
      return (.error (.chainIdMismatch endpoint.chainId actual), r)
    Session.journal .info "filler::registry" "Connected to chain"
    return r.add endpoint client

/-- The registry that is left if a chain was added to it. -/
def ofAdded (x : Except RegistryError Unit × Registry χ) : Except RegistryError (Registry χ) :=
  x.1.map fun _ => x.2

/-- Registers a chain without asking its node. -/
def insert (r : Registry χ) (endpoint : Endpoint) (client : χ) :
    Except RegistryError (Registry χ) := ofAdded (r.add endpoint client)

/-- Registers a chain after asking its node. -/
def insertVerified (r : Registry χ) (endpoint : Endpoint) (client : χ) :
    ExceptT RegistryError (Session χ) (Registry χ) :=
  ExceptT.mk (ofAdded <$> r.addVerified endpoint client)

theorem run_insertVerified (r : Registry χ) (endpoint : Endpoint) (client : χ) :
    (r.insertVerified endpoint client).run =
      r.addVerified endpoint client >>= fun x => pure (ofAdded x) :=
  map_eq_pure_bind _ _

theorem get?_eq_some_iff {r : Registry χ} {id : ChainId} {c : Registration χ} :
    r.get? id = some c ↔ c ∈ r.chains ∧ c.endpoint.chainId = id := by
  obtain ⟨chains, distinct⟩ := r
  simp only [get?]
  induction chains with
  | nil => simp
  | cons a as ih =>
    rw [List.pairwise_cons] at distinct
    by_cases h : a.endpoint.chainId = id
    · simp only [List.find?_cons, h, decide_true]
      constructor
      · rintro h'
        cases h'
        exact ⟨List.mem_cons_self, h⟩
      · rintro ⟨hm, hc⟩
        rcases List.mem_cons.mp hm with rfl | hm
        · rfl
        · exact absurd (h.trans hc.symm) (distinct.1 c hm)
    · simp only [List.find?_cons, h, decide_false, ih distinct.2, List.mem_cons]
      constructor
      · rintro ⟨hm, hc⟩
        exact ⟨.inr hm, hc⟩
      · rintro ⟨rfl | hm, hc⟩
        · exact absurd hc h
        · exact ⟨hm, hc⟩

theorem nodup_ids (r : Registry χ) : r.ids.Nodup := by
  rw [ids, List.Nodup, List.pairwise_map]
  exact r.distinct

theorem isSome_get?_iff {r : Registry χ} {id : ChainId} :
    (r.get? id).isSome ↔ id ∈ r.ids := by
  rw [ids, List.mem_map, Option.isSome_iff_exists]
  constructor
  · rintro ⟨c, hc⟩
    exact ⟨c, get?_eq_some_iff.mp hc⟩
  · rintro ⟨c, hmem, hid⟩
    exact ⟨c, get?_eq_some_iff.mpr ⟨hmem, hid⟩⟩

end Registry

end CrossCall
