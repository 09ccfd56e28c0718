import Mathlib
import CrossCall.Proofs.Chain.Registering
import CrossCall.Proofs.Job.Proving
import CrossCall.Proofs.Job.Starting

/-!
# The chains of a job of proving

A job of proving is about the base chain, the destination, and the source if the reward is to be
claimed. They are looked up in the configuration before any node is asked. Two of them may be one
chain. The job connects to each chain once, in the order of their ids, and afterwards finds each of
the three under its own id.

## Main definitions

* `Job.Plan` — the chains of a job, as they are configured
* `Job.Refuses` — why there is no plan
* `Job.Plan.Nodes` — the chains of a plan with the clients that their URLs ask for
* `Job.Plan.Undertaking` — the ways in which a job with a plan can go
* `Job.Plan.Fails` — the errors of a job with a plan
* `Job.ConnectsAsConfigured` — how a job is about the chains that are configured

## Main results

* `Job.Plan.mem_chains_iff`, `Job.Plan.pairwise_chains` — the job connects to the chains of its plan,
  in the order of their ids
* `Job.Plan.undertaking` — a job with a plan goes one of these ways
* `Job.proveFulfillment_connects` — every job with an accepted configuration is about its chains
-/

namespace CrossCall

open Session

variable {σ : Type}

namespace Configuration

variable {c : Configuration} {id : ChainId} {e : Endpoint}

theorem chainId_of_chain? (h : c.chain? id = some e) : e.chainId = id := by
  simpa using List.find?_some h

theorem chain?_eq_none_iff : c.chain? id = none ↔ id ∉ c.endpoints.map (·.chainId) := by
  simp [chain?]

end Configuration

/-- Where no id is taken nothing is a duplicate. -/
theorem Registry.Offends.of_not_mem {taken : List ChainId} {e : Endpoint}
    {report : Except ClientError ChainId} {x : RegistryError} (h : Offends taken e report x)
    (hnew : e.chainId ∉ taken) : Offends [] e report x := by
  cases h with
  | client cause => exact .client cause
  | chainIdMismatch differs => exact .chainIdMismatch differs
  | duplicate known => exact absurd known hnew

namespace Job

/-! ### Each chain once -/

section

variable {c : Configuration} {e f : Endpoint} {endpoints sorted : List Endpoint}

theorem eq_or_mem_of_mem_insertById (h : f ∈ insertById e sorted) : f = e ∨ f ∈ sorted := by
  induction sorted with
  | nil => exact .inl (List.mem_singleton.mp h)
  | cons g rest ih =>
    rw [insertById] at h
    split at h
    · exact List.mem_cons.mp h
    · split at h
      · exact .inr h
      · rcases List.mem_cons.mp h with rfl | h
        · exact .inr List.mem_cons_self
        · exact (ih h).imp_right (List.mem_cons_of_mem g)

theorem pairwise_insertById (h : sorted.Pairwise (·.chainId < ·.chainId)) :
    (insertById e sorted).Pairwise (·.chainId < ·.chainId) := by
  induction sorted with
  | nil => exact List.pairwise_singleton _ _
  | cons g rest ih =>
    obtain ⟨hg, hrest⟩ := List.pairwise_cons.mp h
    rw [insertById]
    split
    next hlt =>
      refine List.pairwise_cons.mpr ⟨fun f hf => ?_, h⟩
      rcases List.mem_cons.mp hf with rfl | hf
      · exact hlt
      · exact BitVec.lt_trans hlt (hg f hf)
    next hnot =>
      split
      next => exact h
      next hne =>
        refine List.pairwise_cons.mpr ⟨fun f hf => ?_, ih hrest⟩
        rcases eq_or_mem_of_mem_insertById hf with rfl | hf
        · exact BitVec.lt_of_le_ne (BitVec.not_lt.mp hnot) (Ne.symm hne)
        · exact hg f hf

/-- If the chain is there already, then it is the same endpoint. -/
theorem mem_insertById_iff (he : c.chain? e.chainId = some e)
    (hsorted : ∀ g ∈ sorted, c.chain? g.chainId = some g) :
    f ∈ insertById e sorted ↔ f = e ∨ f ∈ sorted := by
  induction sorted with
  | nil => exact List.mem_singleton.trans (or_iff_left List.not_mem_nil).symm
  | cons g rest ih =>
    obtain ⟨hg, hrest⟩ := List.forall_mem_cons.mp hsorted
    rw [insertById]
    split
    · exact List.mem_cons
    · split
      next heq =>
        rw [heq, hg] at he
        cases he
        rw [List.mem_cons, or_self_left]
      next => rw [List.mem_cons, ih hrest, List.mem_cons, or_left_comm]

theorem pairwise_distinctChains (endpoints : List Endpoint) :
    (distinctChains endpoints).Pairwise (·.chainId < ·.chainId) :=
  List.foldlRecOn endpoints _ List.Pairwise.nil fun _ h _ _ => pairwise_insertById h

/-- Of configured chains none is lost. -/
theorem mem_distinctChains_iff (h : ∀ g ∈ endpoints, c.chain? g.chainId = some g) :
    f ∈ distinctChains endpoints ↔ f ∈ endpoints := by
  -- By induction on the chains, for any that are sorted in already: they are configured as well.
  have hfold : ∀ sorted : List Endpoint, (∀ g ∈ sorted, c.chain? g.chainId = some g) →
      (f ∈ endpoints.foldl (fun sorted e => insertById e sorted) sorted ↔
        f ∈ endpoints ∨ f ∈ sorted) := by
    induction endpoints with
    | nil => simp
    | cons e endpoints ih =>
      obtain ⟨he, hrest⟩ := List.forall_mem_cons.mp h
      intro sorted hsorted
      have hinsert : ∀ g ∈ insertById e sorted, c.chain? g.chainId = some g := by
        intro g hg
        rcases eq_or_mem_of_mem_insertById hg with rfl | hg
        · exact he
        · exact hsorted g hg
      rw [List.foldl_cons, ih hrest _ hinsert, mem_insertById_iff he hsorted, List.mem_cons,
        or_left_comm, or_assoc]
  rw [distinctChains, hfold [] (by simp), or_iff_left List.not_mem_nil]

end

/-! ### Plans -/

/-- The chains that a request is about, as they are configured. -/
structure Plan (c : Configuration) (request : ProofRequest) where
  prover : ProverSettings
  prover_eq : c.prover = some prover
  l1 : Endpoint
  l1_eq : c.chain? prover.l1ChainId = some l1
  destination : Endpoint
  destination_eq : c.chain? request.destination = some destination
  source : Option Endpoint
  source_eq : Option.Rel (fun id e => c.chain? id = some e) request.source source

/-- Why there is no plan. The chains are looked up one after the other. -/
inductive Refuses (c : Configuration) (request : ProofRequest) : JobError → Prop
  | noProver (prover_eq : c.prover = none) : Refuses c request .missingProver
  | noBase {prover : ProverSettings} (prover_eq : c.prover = some prover)
      (l1_eq : c.chain? prover.l1ChainId = none) :
      Refuses c request (.unknownL1Chain prover.l1ChainId)
  | noDestination {prover : ProverSettings} {l1 : Endpoint} (prover_eq : c.prover = some prover)
      (l1_eq : c.chain? prover.l1ChainId = some l1)
      (destination_eq : c.chain? request.destination = none) :
      Refuses c request (.unknownChain request.destination)
  | noSource {prover : ProverSettings} {l1 destination : Endpoint} {id : ChainId}
      (prover_eq : c.prover = some prover) (l1_eq : c.chain? prover.l1ChainId = some l1)
      (destination_eq : c.chain? request.destination = some destination)
      (source_eq : request.source = some id) (source_none : c.chain? id = none) :
      Refuses c request (.unknownChain id)

section

variable {c : Configuration} {request : ProofRequest} {e : Endpoint}

theorem nonempty_plan_or_refuses (c : Configuration) (request : ProofRequest) :
    Nonempty (Plan c request) ∨ ∃ x, Refuses c request x := by
  cases hprover : c.prover with
  | none => exact .inr ⟨_, .noProver hprover⟩
  | some prover =>
  cases hl1 : c.chain? prover.l1ChainId with
  | none => exact .inr ⟨_, .noBase hprover hl1⟩
  | some l1 =>
  cases hdestination : c.chain? request.destination with
  | none => exact .inr ⟨_, .noDestination hprover hl1 hdestination⟩
  | some destination =>
  cases hid : request.source with
  | none =>
    exact .inl ⟨⟨prover, hprover, l1, hl1, destination, hdestination, none, hid ▸ .none⟩⟩
  | some id =>
  cases hsource : c.chain? id with
  | none => exact .inr ⟨_, .noSource hprover hl1 hdestination hid hsource⟩
  | some source =>
    exact .inl
      ⟨⟨prover, hprover, l1, hl1, destination, hdestination, some source, hid ▸ .some hsource⟩⟩

/-- The source is looked up if there is one. -/
theorem mapM_configured {ids : Option ChainId} {source : Option Endpoint}
    (h : Option.Rel (fun id e => c.chain? id = some e) ids source) :
    ids.mapM (configured c) = (pure source : ExceptT JobError (Session NodeClient) _) := by
  cases h with
  | none => rfl
  | @some id e hid =>
    have hconfigured : configured c id = (pure e : ExceptT JobError (Session NodeClient) _) := by
      rw [configured, hid]
      rfl
    exact congrArg (some <$> ·) hconfigured

theorem mapM_configured_eq_throw {id : ChainId} (h : c.chain? id = none) :
    (some id).mapM (configured c) =
      (throw (.unknownChain id) : ExceptT JobError (Session NodeClient) (Option Endpoint)) := by
  have hconfigured : configured c id =
      (throw (.unknownChain id) : ExceptT JobError (Session NodeClient) _) := by
    rw [configured, h]
    rfl
  exact congrArg (some <$> ·) hconfigured

/-- Without a plan a job is its error. -/
theorem Refuses.proveFulfillment_eq {x : JobError} (h : Refuses c request x) :
    proveFulfillment c request = throw x := by
  cases h with
  | noProver prover_eq =>
    rw [proveFulfillment, prover_eq]
    rfl
  | noBase prover_eq l1_eq =>
    simp only [proveFulfillment, prover_eq, need, pure_bind, l1_eq]
    rfl
  | noDestination prover_eq l1_eq destination_eq =>
    simp only [proveFulfillment, prover_eq, need, pure_bind, l1_eq, configured, destination_eq]
    rfl
  | noSource prover_eq l1_eq destination_eq source_eq source_none =>
    simp only [proveFulfillment, prover_eq, need, pure_bind, l1_eq, configured, destination_eq,
      source_eq, mapM_configured_eq_throw source_none]
    rfl

namespace Plan

variable (p : Plan c request)

/-- The chains that the job is about, in the order in which they are looked up. -/
def endpoints : List Endpoint := p.l1 :: p.destination :: p.source.toList

/-- The chains that the job connects to. -/
def chains : List Endpoint := distinctChains p.endpoints

theorem mem_endpoints_iff :
    e ∈ p.endpoints ↔ e = p.l1 ∨ e = p.destination ∨ p.source = some e := by
  simp [endpoints]

/-- Every chain is found under its own id. -/
theorem chain?_of_mem_endpoints : ∀ e ∈ p.endpoints, c.chain? e.chainId = some e := by
  have hfound {id : ChainId} {e : Endpoint} (h : c.chain? id = some e) :
      c.chain? e.chainId = some e :=
    (Configuration.chainId_of_chain? h).symm ▸ h
  intro e he
  rcases p.mem_endpoints_iff.mp he with rfl | rfl | hsource
  · exact hfound p.l1_eq
  · exact hfound p.destination_eq
  · have hrel := p.source_eq
    generalize request.source = id at hrel
    rw [hsource] at hrel
    cases hrel with
    | some h => exact hfound h

/-- The job connects to the base chain, the destination and the source, and to no other chain. -/
theorem mem_chains_iff : e ∈ p.chains ↔ e = p.l1 ∨ e = p.destination ∨ p.source = some e := by
  rw [chains, mem_distinctChains_iff p.chain?_of_mem_endpoints, mem_endpoints_iff]

/-- It connects to each of them once, in the order of their ids. -/
theorem pairwise_chains : p.chains.Pairwise (·.chainId < ·.chainId) :=
  pairwise_distinctChains _

theorem nodup_ids : (p.chains.map (·.chainId)).Nodup := by
  rw [List.Nodup, List.pairwise_map]
  exact p.pairwise_chains.imp fun hlt => BitVec.ne_of_lt hlt

/-- The last step, if the reward is to be claimed. -/
def claim (registry : Registry NodeClient) (bundle : ProofBundle) :
    ExceptT JobError (Session NodeClient) Unit := do
  if let some source := p.source then printClaim registry c request bundle source

/-- What a job does once its chains are connected. -/
def work (registry : Registry NodeClient) : ExceptT JobError (Session NodeClient) Unit := do
  let l1Node ← client registry p.prover.l1ChainId
  let l2Node ← client registry request.destination
  discard <| (FulfillmentRecord.read l2Node p.destination.inbox request.messageId .latest).adapt
    JobError.inbox
  let block := (request.l1Block.map BlockTag.number).getD .latest
  let bundle ← (ProofBundle.compose l1Node l2Node p.prover.devnet (rollupOf p.destination p.prover)
    p.destination.inbox request.messageId block).adapt JobError.composition
  Session.report .info "filler::cli" "Proof composed"
  print bundle.toData.pretty
  print bundle.encode.hex
  p.claim registry bundle

/-- A job with a plan connects to its chains and then does its work. -/
theorem proveFulfillment_eq :
    proveFulfillment c request =
      (Registry.connect p.chains).adapt JobError.registry >>= p.work := by
  simp only [proveFulfillment, p.prover_eq, need, pure_bind, p.l1_eq, configured, p.destination_eq,
    mapM_configured p.source_eq]
  rfl

/-! ### Nodes -/

/-- The chains of a plan with the clients that their URLs ask for. -/
structure Nodes where
  l1 : Registration NodeClient
  l1_isOf : l1.IsOf p.l1
  destination : Registration NodeClient
  destination_isOf : destination.IsOf p.destination
  source : Option (Registration NodeClient)
  source_isOf : Option.Rel Registration.IsOf source p.source

variable {p}

/-- What is left of the job. -/
def Nodes.proving (n : p.Nodes) : Proving NodeClient where
  composition :=
    { l1 := n.l1.client, l2 := n.destination.client, devnet := p.prover.devnet
      rollup := rollupOf p.destination p.prover, inbox := p.destination.inbox
      messageId := request.messageId, block := (request.l1Block.map BlockTag.number).getD .latest }
  search := n.source.map fun source =>
    { node := source.client, outboxes := source.endpoint.outboxes.map (·.2)
      fromBlock := request.sourceFromBlock }
  payee := c.wallet.fromAddress

/-- A chain is found among those that are connected. -/
theorem exists_get?_of_mem {registry : Registry NodeClient} {endpoints : List Endpoint}
    (hchains : List.Forall₂ Registration.IsOf registry.chains endpoints) (he : e ∈ endpoints) :
    ∃ node, registry.get? e.chainId = some node ∧ node.IsOf e := by
  obtain ⟨i, hi, rfl⟩ := List.getElem_of_mem he
  have hi' : i < registry.chains.length := by rwa [hchains.length_eq]
  have hof := hchains.get hi' hi
  exact ⟨_, Registry.get?_eq_some_iff.mpr ⟨List.getElem_mem hi', congrArg (·.chainId) hof.1⟩, hof⟩

theorem client_eq_pure {registry : Registry NodeClient} {id : ChainId}
    {node : Registration NodeClient} (h : registry.get? id = some node) :
    client registry id = (pure node.client : ExceptT JobError (Session NodeClient) _) := by
  rw [client, h]
  rfl

/-- The source is found as well, if there is one. -/
theorem exists_source_of_forall₂ {registry : Registry NodeClient}
    (hchains : List.Forall₂ Registration.IsOf registry.chains p.chains) :
    ∃ source, Option.Rel (fun (node : Registration NodeClient) e =>
      registry.get? e.chainId = some node ∧ node.IsOf e) source p.source := by
  cases h : p.source with
  | none => exact ⟨none, .none⟩
  | some e =>
    obtain ⟨node, hnode⟩ := exists_get?_of_mem hchains (p.mem_chains_iff.mpr (.inr (.inr h)))
    exact ⟨some node, .some hnode⟩

/-- The last step is the same with the source's node as with the registry it is found in. -/
theorem Nodes.claim_proving {registry : Registry NodeClient} (n : p.Nodes)
    (hsource : Option.Rel (fun (node : Registration NodeClient) e =>
      registry.get? e.chainId = some node ∧ node.IsOf e) n.source p.source) (bundle : ProofBundle) :
    n.proving.claim bundle = p.claim registry bundle := by
  have hsearch : n.proving.search = n.source.map fun source =>
    { node := source.client, outboxes := source.endpoint.outboxes.map (·.2)
      fromBlock := request.sourceFromBlock } := rfl
  rw [Proving.claim, claim, hsearch]
  generalize n.source = node at hsource
  generalize p.source = source at hsource
  cases hsource with
  | none => rfl
  | some h =>
    simp only [Option.map_some, printClaim, client_eq_pure h.1, pure_bind, h.2.1]
    rfl

/-- Among connected chains the nodes of the plan are found, and what is left is done with them. -/
theorem exists_work_eq {registry : Registry NodeClient}
    (hchains : List.Forall₂ Registration.IsOf registry.chains p.chains) :
    ∃ n : p.Nodes, p.work registry = n.proving.perform := by
  obtain ⟨l1, hl1, l1_isOf⟩ := exists_get?_of_mem hchains (p.mem_chains_iff.mpr (.inl rfl))
  obtain ⟨destination, hdestination, destination_isOf⟩ :=
    exists_get?_of_mem hchains (p.mem_chains_iff.mpr (.inr (.inl rfl)))
  obtain ⟨source, hsource⟩ := exists_source_of_forall₂ hchains
  -- The nodes were found under the ids of their chains, and the job asks by those of the request.
  rw [Configuration.chainId_of_chain? p.l1_eq] at hl1
  rw [Configuration.chainId_of_chain? p.destination_eq] at hdestination
  have source_isOf : Option.Rel Registration.IsOf source p.source := by
    generalize p.source = chain at hsource
    cases hsource with
    | none => exact .none
    | some h => exact .some h.2
  let n : p.Nodes := ⟨l1, l1_isOf, destination, destination_isOf, source, source_isOf⟩
  refine ⟨n, ?_⟩
  have hdiscard : ∀ x : ExceptT JobError (Session NodeClient) FulfillmentRecord,
      discard x = x >>= fun _ => pure () := fun x => map_eq_pure_bind _ x
  simp only [work, client_eq_pure hl1, client_eq_pure hdestination, pure_bind, hdiscard,
    LawfulMonad.bind_assoc, Proving.perform, n.claim_proving hsource]
  rfl

/-! ### The ways in which a job can go -/

/-- The ways in which a job with a plan can go. The nodes of its chains are asked for their ids, one
after the other, up to the first that does not give its own, if there is one. Else what is left of
the job is done with the nodes of the plan. -/
inductive Undertaking (p : Plan c request) (env : Environment NodeClient σ) (s : σ) :
    Except JobError Unit × σ × List (Event NodeClient) → Prop
  | stopped {before later : List Endpoint} {e : Endpoint} {report : Except ClientError ChainId}
      {x : RegistryError} {s' : σ} {events : List (Event NodeClient)}
      (split : p.chains = before ++ e :: later) (offends : Registry.Offends [] e report x)
      (connect : (Registry.connect p.chains).run.run env s = (.error x, s', events))
      (reports : (Registry.rollCall (before ++ [e])).talk env s =
        (before.map (.ok ·.chainId) ++ [report], s', exchanges events)) :
      Undertaking p env s (.error (.registry x), s', events)
  | connected (n : p.Nodes) {registry : Registry NodeClient} {s' : σ}
      {events : List (Event NodeClient)}
      (connect : (Registry.connect p.chains).run.run env s = (.ok registry, s', events))
      (reports : (Registry.rollCall p.chains).talk env s =
        (p.chains.map (.ok ·.chainId), s', exchanges events)) :
      Undertaking p env s (behind events (n.proving.perform.run.run env s'))

/-- A job with a plan goes one of these ways. -/
theorem undertaking (p : Plan c request) (env : Environment NodeClient σ) (s : σ) :
    p.Undertaking env s ((proveFulfillment c request).run.run env s) := by
  have hconnects := Registry.connectsInOrder env s p.chains
  rw [p.proveFulfillment_eq]
  rcases hconnect : (Registry.connect p.chains).run.run env s with ⟨x | registry, s', events⟩
  · have htalk : (Registry.connect p.chains).run.talk env s = (.error x, s', exchanges events) := by
      rw [talk, hconnect]
    obtain ⟨before, e, later, report, hsplit, -, hoffends, hreports⟩ := hconnects.of_error htalk
    rw [run_bind_of_error _ (run_adapt_eq _ hconnect)]
    -- The ids before it are others, so it is not a duplicate of one of them.
    have hnew := Registry.chainId_not_mem_of_nodup (hsplit ▸ p.nodup_ids)
    exact .stopped hsplit (hoffends.of_not_mem hnew) hconnect hreports
  · have htalk : (Registry.connect p.chains).run.talk env s =
        (.ok registry, s', exchanges events) := by
      rw [talk, hconnect]
    obtain ⟨-, hchains, hreports⟩ := hconnects.of_ok htalk
    obtain ⟨n, hwork⟩ := exists_work_eq hchains
    rw [run_bind_of_ok _ (run_adapt_eq _ hconnect), hwork]
    exact .connected n hconnect hreports

/-- The errors of a job with a plan: those of its connections, of which none is a duplicate, and
those of the later steps. -/
inductive Fails : JobError → Prop
  | connection {e : Endpoint} {report : Except ClientError ChainId} {cause : RegistryError}
      (offends : Registry.Offends [] e report cause) : Fails (.registry cause)
  | step {x : JobError} (fails : Proving.Fails x) : Fails x

theorem Undertaking.fails_of_error {run : Except JobError Unit × σ × List (Event NodeClient)}
    {env : Environment NodeClient σ} {s : σ} {x : JobError} (h : p.Undertaking env s run)
    (herror : run.1 = .error x) : Fails x := by
  cases h with
  | stopped split offends connect reports =>
    cases herror
    exact .connection offends
  | connected n connect reports =>
    obtain ⟨texts, hperformance⟩ := n.proving.performance env _
    exact .step (hperformance.fails_of_error herror)

theorem Fails.ne_duplicate {x : JobError} (h : Fails x) (id : ChainId) :
    x ≠ .registry (.duplicate id) := by
  rintro rfl
  cases h with
  | connection offends =>
    cases offends with
    | duplicate known => cases known
  | step fails => cases fails

theorem Fails.ne_noClient {x : JobError} (h : Fails x) (id : ChainId) : x ≠ .noClient id := by
  rintro rfl
  cases h with
  | step fails => cases fails

theorem Fails.ne_unknownL1Chain {x : JobError} (h : Fails x) (id : ChainId) :
    x ≠ .unknownL1Chain id := by
  rintro rfl
  cases h with
  | step fails => cases fails

end Plan

end

/-! ### All of it -/

/-- The ids that a request names, in the order in which they are looked up. -/
def requestedIds (request : ProofRequest) : List ChainId :=
  request.destination :: request.source.toList

/-- How a job is about the chains that are configured. -/
structure ConnectsAsConfigured (c : Configuration) (request : ProofRequest)
    (env : Environment NodeClient σ) (s : σ) : Prop where
  /-- The first id that is not configured ends the job before any node is asked. -/
  unknown : ∀ id, (requestedIds request).find? (fun id => c.chain? id = none) = some id →
    (proveFulfillment c request).run.run env s = (.error (.unknownChain id), s, [])
  /-- If all of them are, then there is a plan. -/
  known : (∀ id ∈ requestedIds request, c.chain? id ≠ none) → Nonempty (Plan c request)
  /-- Its chains have the ids that they were asked for by. -/
  ids : ∀ p : Plan c request, p.l1.chainId = p.prover.l1ChainId ∧
    p.destination.chainId = request.destination ∧ p.source.map (·.chainId) = request.source
  /-- The job connects to these chains and no others, once to each, in the order of their ids. -/
  chains : ∀ p : Plan c request, p.chains.Pairwise (·.chainId < ·.chainId) ∧
    ∀ e, e ∈ p.chains ↔ e = p.l1 ∨ e = p.destination ∨ p.source = some e
  /-- Once it is connected, the rest of it is done with the nodes of these chains. -/
  undertaking : ∀ p : Plan c request,
    p.Undertaking env s ((proveFulfillment c request).run.run env s)
  /-- No chain is a duplicate of another, and none is looked for in vain. -/
  no_duplicate : ∀ id, ((proveFulfillment c request).run.run env s).1 ≠
    .error (.registry (.duplicate id))
  no_missing_client : ∀ id, ((proveFulfillment c request).run.run env s).1 ≠ .error (.noClient id)

section

variable {c : Configuration} {request : ProofRequest} {env : Environment NodeClient σ} {s : σ}

theorem Plan.map_chainId_source (p : Plan c request) :
    p.source.map (·.chainId) = request.source := by
  have hrel := p.source_eq
  generalize request.source = id at hrel ⊢
  generalize p.source = source at hrel ⊢
  cases hrel with
  | none => rfl
  | some h => exact congrArg some (Configuration.chainId_of_chain? h)

theorem Refuses.run_proveFulfillment {x : JobError} (h : Refuses c request x) :
    (proveFulfillment c request).run.run env s = (.error x, s, []) := by
  rw [h.proveFulfillment_eq]
  rfl

/-- A job fails for the lack of a plan, or else in a connection or a later step. -/
theorem refuses_or_fails {x : JobError}
    (h : ((proveFulfillment c request).run.run env s).1 = .error x) :
    Refuses c request x ∨ Plan.Fails x := by
  rcases nonempty_plan_or_refuses c request with ⟨⟨p⟩⟩ | ⟨y, hrefuses⟩
  · exact .inr ((p.undertaking env s).fails_of_error h)
  · rw [hrefuses.run_proveFulfillment] at h
    cases h
    exact .inl hrefuses

/-- The first id that is not configured is what a job without a plan fails for. -/
theorem Refuses.find?_requestedIds (haccepted : c.Accepted) {prover : ProverSettings}
    (hprover : c.prover = some prover) {x : JobError} (h : Refuses c request x) :
    ∃ id, (requestedIds request).find? (fun id => c.chain? id = none) = some id ∧
      x = .unknownChain id := by
  cases h with
  | noProver prover_eq =>
    rw [hprover] at prover_eq
    cases prover_eq
  | noBase prover_eq l1_eq =>
    exact absurd (haccepted.l1_configured _ prover_eq) (Configuration.chain?_eq_none_iff.mp l1_eq)
  | noDestination prover_eq l1_eq destination_eq =>
    exact ⟨_, List.find?_cons_of_pos (by simpa using destination_eq), rfl⟩
  | @noSource _ _ _ id prover_eq l1_eq destination_eq source_eq source_none =>
    refine ⟨id, ?_, rfl⟩
    rw [requestedIds, source_eq, List.find?_cons_of_neg (by simp [destination_eq])]
    exact List.find?_cons_of_pos (by simpa using source_none)

theorem Plan.chain?_ne_none_of_mem (p : Plan c request) :
    ∀ id ∈ requestedIds request, c.chain? id ≠ none := by
  have hsome {id : ChainId} {e : Endpoint} (h : c.chain? id = some e) : c.chain? id ≠ none :=
    Option.ne_none_iff_exists'.mpr ⟨e, h⟩
  intro id hid
  rcases List.mem_cons.mp hid with rfl | hid
  · exact hsome p.destination_eq
  · have hrel := p.source_eq
    rw [Option.mem_toList.mp hid] at hrel
    generalize p.source = source at hrel
    cases hrel with
    | some h => exact hsome h

/-- Every job with an accepted configuration that has a prover is about the chains that are
configured, whatever its request is and whatever the nodes do. -/
theorem proveFulfillment_connects {prover : ProverSettings} (hvalid : c.validate = .ok ())
    (hprover : c.prover = some prover) (request : ProofRequest) (env : Environment NodeClient σ)
    (s : σ) : ConnectsAsConfigured c request env s := by
  have haccepted := Configuration.validate_eq_ok_iff.mp hvalid
  have hnone : ∀ p : Plan c request,
      (requestedIds request).find? (fun id => c.chain? id = none) = none :=
    fun p => List.find?_eq_none.mpr fun id hid => by simpa using p.chain?_ne_none_of_mem id hid
  -- The base chain is configured, so only an id of the request can be missing.
  have hrefuses : ∀ x, Refuses c request x → ∃ id, x = .unknownChain id := fun x hrefuses => by
    obtain ⟨id, -, rfl⟩ := hrefuses.find?_requestedIds haccepted hprover
    exact ⟨id, rfl⟩
  refine {
    unknown := fun id hid => ?_
    known := fun hknown => ?_
    ids := fun p => ⟨Configuration.chainId_of_chain? p.l1_eq,
      Configuration.chainId_of_chain? p.destination_eq, p.map_chainId_source⟩
    chains := fun p => ⟨p.pairwise_chains, fun e => p.mem_chains_iff⟩
    undertaking := fun p => p.undertaking env s
    no_duplicate := fun id hduplicate => ?_
    no_missing_client := fun id hmissing => ?_ }
  · rcases nonempty_plan_or_refuses c request with ⟨⟨p⟩⟩ | ⟨x, hrefuses⟩
    · rw [hnone p] at hid
      cases hid
    · obtain ⟨id', hid', rfl⟩ := hrefuses.find?_requestedIds haccepted hprover
      obtain rfl := Option.some.inj (hid.symm.trans hid')
      exact hrefuses.run_proveFulfillment
  · refine (nonempty_plan_or_refuses c request).resolve_right ?_
    rintro ⟨x, hrefuses⟩
    obtain ⟨id, hid, -⟩ := hrefuses.find?_requestedIds haccepted hprover
    exact hknown id (List.mem_of_find?_eq_some hid) (by simpa using List.find?_some hid)
  · rcases refuses_or_fails hduplicate with h | hfails
    · obtain ⟨_, h⟩ := hrefuses _ h
      cases h
    · exact hfails.ne_duplicate id rfl
  · rcases refuses_or_fails hmissing with h | hfails
    · obtain ⟨_, h⟩ := hrefuses _ h
      cases h
    · exact hfails.ne_noClient id rfl

end

end Job

/-! ### A job about one chain -/

namespace Loopback

def prover : ProverSettings := { l1ChainId := 1 }

/-- The configuration with a prover. -/
def proverConfiguration : Configuration := { configuration 10 2000 with prover := some prover }

/-- A request from the chain to itself. -/
def proofRequest : ProofRequest := { messageId := 0x25, destination := 1, source := some 1 }

/-- All three chains are the one that is configured. -/
def plan : Job.Plan proverConfiguration proofRequest where
  prover := prover
  prover_eq := rfl
  l1 := endpoint
  l1_eq := rfl
  destination := endpoint
  destination_eq := rfl
  source := some endpoint
  source_eq := .some rfl

theorem validate_proverConfiguration : proverConfiguration.validate = .ok () := by
  have haccepted := Configuration.validate_eq_ok_iff.mp
    (validate_configuration (show (10 : BitVec 64) ≠ 0 by decide) 2000)
  refine Configuration.validate_eq_ok_iff.mpr
    { chains_ne := haccepted.chains_ne, distinct := haccepted.distinct
      capacity_ne := haccepted.capacity_ne, l1_configured := fun p hp => ?_
      wallet := haccepted.wallet }
  cases hp
  decide

/-- The job connects to the chain once. -/
theorem connects_once :
    proverConfiguration.validate = .ok () ∧ proverConfiguration.prover = some prover ∧
      plan.chains = [endpoint] ∧
      plan.Undertaking node ()
        ((Job.proveFulfillment proverConfiguration proofRequest).run.run node ()) := by
  have hconnects :=
    Job.proveFulfillment_connects validate_proverConfiguration rfl proofRequest node ()
  exact ⟨validate_proverConfiguration, rfl, by decide, hconnects.undertaking plan⟩

end Loopback

end CrossCall
