import Mathlib
import CrossCall.Proofs.Config.KeyText
import CrossCall.Proofs.Job.Planning

/-!
# What is wrong with a configuration

Five things can be wrong with a configuration: it has no chains, an id occurs twice, queues hold
nothing, the prover's base chain is not configured, or the key is not that of the configured address.
Each is judged on its own here, and the check reports the first of those that a configuration has.

What is accepted can be relied on. Every configured id is that of one chain, so connecting to all of
them never meets a duplicate, and a job of proving finds its base chain.

## Main definitions

* `Configuration.Fault` — what is wrong with a configuration, each fault judged on its own
* `ConfigError.rank` — the order in which faults are reported
* `Configuration.Dependable` — what the rest of the program relies on

## Main results

* `Configuration.firstRepeated_eq_some_iff` — the first id that has occurred before
* `Configuration.validate_eq_error_iff` — the first fault is reported
* `Configuration.Accepted.dependable` — accepted configurations can be relied on
* `Configuration.validate_discriminates` — all of it, and the order of what is read from a text
-/

namespace CrossCall

/-! ### Names in order -/

theorem eq_or_mem_of_mem_insertByName {α : Type} {name : String} {a : α}
    {sorted : List (String × α)} {e : String × α} (h : e ∈ insertByName name a sorted) :
    e = (name, a) ∨ e ∈ sorted := by
  induction sorted with
  | nil => exact .inl (List.mem_singleton.mp h)
  | cons f rest ih =>
    rw [insertByName] at h
    split at h
    · exact List.mem_cons.mp h
    · split at h
      · exact (List.mem_cons.mp h).imp_right (List.mem_cons_of_mem f)
      · rcases List.mem_cons.mp h with rfl | h
        · exact .inr List.mem_cons_self
        · exact (ih h).imp_right (List.mem_cons_of_mem f)

theorem pairwise_insertByName {α : Type} (name : String) (a : α) {sorted : List (String × α)}
    (h : sorted.Pairwise (·.1 < ·.1)) : (insertByName name a sorted).Pairwise (·.1 < ·.1) := by
  induction sorted with
  | nil => exact List.pairwise_singleton _ _
  | cons f rest ih =>
    obtain ⟨hf, hrest⟩ := List.pairwise_cons.mp h
    rw [insertByName]
    split
    next hlt =>
      refine List.pairwise_cons.mpr ⟨fun e he => ?_, h⟩
      rcases List.mem_cons.mp he with rfl | he
      · exact hlt
      · exact lt_trans hlt (hf e he)
    next hnot =>
      split
      -- A second entry of a name takes the place of the first, and the names stay as they are.
      next heq => exact List.pairwise_cons.mpr ⟨fun e he => heq ▸ hf e he, hrest⟩
      next hne =>
        refine List.pairwise_cons.mpr ⟨fun e he => ?_, ih hrest⟩
        rcases eq_or_mem_of_mem_insertByName he with rfl | he
        · exact lt_of_le_of_ne (not_lt.mp hnot) (Ne.symm hne)
        · exact hf e he

theorem pairwise_sortByName {α : Type} (entries : List (String × α)) :
    (sortByName entries).Pairwise (·.1 < ·.1) :=
  List.foldlRecOn entries _ List.Pairwise.nil fun _ h e _ => pairwise_insertByName e.1 e.2 h

/-! ### Errors in order -/

/-- The order in which faults are reported. The last places are for errors that are no faults of a
configuration. -/
def ConfigError.rank : ConfigError → Nat
  | noChains => 0
  | duplicateChain _ => 1
  | zeroQueueCapacity => 2
  | unknownL1Chain _ => 3
  | invalidPrivateKey _ | fromAddressMismatch _ _ => 4
  | unreadable _ _ | malformed _ | unknownTopology _ => 5

namespace Configuration

variable {c : Configuration} {id : ChainId} {e : ConfigError}

theorem pairwise_of_chains? {d : Data} {chains : List (String × Endpoint)}
    (h : chains? d = some chains) : chains.Pairwise (·.1 < ·.1) := by
  cases d with
  | record fields =>
    obtain ⟨entries, -, h⟩ := Option.bind_eq_some_iff.mp h
    cases h
    exact pairwise_sortByName entries
  | null | bool | int | foreign | text | list => cases h

/-- The chains of a configuration that was read are in the order of their names. -/
theorem pairwise_of_ofData? {d : Data} (h : ofData? d = some c) :
    c.chains.Pairwise (·.1 < ·.1) := by
  obtain ⟨fs, -, h⟩ := Option.bind_eq_some_iff.mp h
  obtain ⟨chains, hchains, h⟩ := Option.bind_eq_some_iff.mp h
  obtain ⟨wallet, -, h⟩ := Option.bind_eq_some_iff.mp h
  obtain ⟨fulfillment, -, h⟩ := Option.bind_eq_some_iff.mp h
  obtain ⟨prover, -, h⟩ := Option.bind_eq_some_iff.mp h
  cases h
  obtain ⟨d, -, hchains⟩ := Option.bind_eq_some_iff.mp hchains
  exact pairwise_of_chains? hchains

/-! ### Repeated ids -/

/-- The first id that has occurred before: those in front of it are all different, and it is one of
them or one of those that were seen. -/
theorem firstRepeated_eq_some_iff {seen ids : List ChainId} :
    firstRepeated seen ids = some id ↔
      ∃ before later, ids = before ++ id :: later ∧ firstRepeated seen before = none ∧
        (id ∈ seen ∨ id ∈ before) := by
  -- By induction on the ids, for any that were seen before: an id joins them once it is passed.
  induction ids generalizing seen with
  | nil => simp [firstRepeated]
  | cons first ids ih =>
    rw [firstRepeated]
    split
    next hseen =>
      constructor
      · intro h
        cases h
        exact ⟨[], ids, rfl, rfl, .inl hseen⟩
      · rintro ⟨_ | ⟨other, before⟩, later, hsplit, hnone, hmem⟩
        · rw [(List.cons.inj hsplit).1]
        · obtain ⟨rfl, -⟩ := List.cons.inj hsplit
          rw [firstRepeated, if_pos hseen] at hnone
          cases hnone
    next hseen =>
      rw [ih]
      constructor
      · rintro ⟨before, later, rfl, hnone, hmem⟩
        refine ⟨first :: before, later, rfl, by rw [firstRepeated, if_neg hseen, hnone], ?_⟩
        rcases hmem with hmem | hmem
        · rcases List.mem_cons.mp hmem with rfl | hmem
          · exact .inr List.mem_cons_self
          · exact .inl hmem
        · exact .inr (List.mem_cons_of_mem first hmem)
      · rintro ⟨_ | ⟨other, before⟩, later, hsplit, hnone, hmem⟩
        · obtain ⟨rfl, -⟩ := List.cons.inj hsplit
          exact absurd (hmem.resolve_right List.not_mem_nil) hseen
        · obtain ⟨rfl, hids⟩ := List.cons.inj hsplit
          rw [firstRepeated, if_neg hseen] at hnone
          refine ⟨before, later, hids, hnone, ?_⟩
          rcases hmem with hmem | hmem
          · exact .inl (List.mem_cons_of_mem first hmem)
          · rcases List.mem_cons.mp hmem with rfl | hmem
            · exact .inl List.mem_cons_self
            · exact .inr hmem

/-! ### Faults -/

/-- What is wrong with a configuration, as the error that tells it. A repeated id is the first one
in the order of names that has occurred before. No fault hides another, except that only a key that
can be read has an address to compare with. -/
inductive Fault (c : Configuration) : ConfigError → Prop
  | noChains (chains_eq : c.chains = []) : c.Fault .noChains
  | duplicateChain {before later : List Endpoint} {e : Endpoint}
      (split : c.endpoints = before ++ e :: later) (distinct : (before.map (·.chainId)).Nodup)
      (known : e.chainId ∈ before.map (·.chainId)) : c.Fault (.duplicateChain e.chainId)
  | zeroQueueCapacity (capacity_eq : c.fulfillment.queueCapacity = 0) : c.Fault .zeroQueueCapacity
  | unknownL1Chain {prover : ProverSettings} (prover_eq : c.prover = some prover)
      (unknown : prover.l1ChainId ∉ c.endpoints.map (·.chainId)) :
      c.Fault (.unknownL1Chain prover.l1ChainId)
  | invalidPrivateKey {cause : KeyError} (text : SecretKey.ofText c.wallet.privateKey = .error cause) :
      c.Fault (.invalidPrivateKey cause)
  | fromAddressMismatch {key : SecretKey} (text : SecretKey.ofText c.wallet.privateKey = .ok key)
      (differs : key.address ≠ c.wallet.fromAddress) :
      c.Fault (.fromAddressMismatch c.wallet.fromAddress key.address)

theorem fault_of_firstRepeated
    (h : firstRepeated [] (c.endpoints.map (·.chainId)) = some id) : c.Fault (.duplicateChain id) := by
  obtain ⟨ids, ids', hsplit, hnone, hknown⟩ := firstRepeated_eq_some_iff.mp h
  obtain ⟨before, rest, hendpoints, rfl, hrest⟩ := List.map_eq_append_iff.mp hsplit
  obtain ⟨endpoint, later, rfl, rfl, -⟩ := List.map_eq_cons_iff.mp hrest
  exact .duplicateChain hendpoints (firstRepeated_eq_none_iff.mp hnone).1
    (hknown.resolve_left List.not_mem_nil)

theorem firstRepeated_of_split {before later : List Endpoint} {endpoint : Endpoint}
    (split : c.endpoints = before ++ endpoint :: later)
    (distinct : (before.map (·.chainId)).Nodup)
    (known : endpoint.chainId ∈ before.map (·.chainId)) :
    firstRepeated [] (c.endpoints.map (·.chainId)) = some endpoint.chainId :=
  firstRepeated_eq_some_iff.mpr
    ⟨before.map (·.chainId), later.map (·.chainId), by rw [split, List.map_append, List.map_cons],
      firstRepeated_eq_none_iff.mpr ⟨distinct, fun _ _ => List.not_mem_nil⟩, .inr known⟩

/-! ### The check, fault by fault -/

theorem validate_of_noChains (hchains : c.chains = []) : c.validate = .error .noChains := by
  rw [validate, hchains]
  rfl

theorem validate_of_repeated (hchains : c.chains ≠ [])
    (hrepeated : firstRepeated [] (c.endpoints.map (·.chainId)) = some id) :
    c.validate = .error (.duplicateChain id) := by
  simp only [validate, List.isEmpty_iff, if_neg hchains, hrepeated]
  rfl

/-- What comes after the search for a repeated id. -/
theorem validate_of_distinct (hchains : c.chains ≠ [])
    (hdistinct : firstRepeated [] (c.endpoints.map (·.chainId)) = none) :
    c.validate =
      if c.fulfillment.queueCapacity = 0 then .error .zeroQueueCapacity
      else match c.prover with
        | none => discard c.wallet.verifiedAccount
        | some prover =>
          if prover.l1ChainId ∉ c.endpoints.map (·.chainId) then
            .error (.unknownL1Chain prover.l1ChainId)
          else discard c.wallet.verifiedAccount := by
  simp only [validate, List.isEmpty_iff, if_neg hchains, hdistinct]
  cases c.prover <;> rfl

/-- What comes after all checks but that of the wallet. -/
theorem validate_of_known (hchains : c.chains ≠ [])
    (hdistinct : firstRepeated [] (c.endpoints.map (·.chainId)) = none)
    (hcapacity : c.fulfillment.queueCapacity ≠ 0)
    (hl1 : ∀ prover, c.prover = some prover → prover.l1ChainId ∈ c.endpoints.map (·.chainId)) :
    c.validate = discard c.wallet.verifiedAccount := by
  rw [validate_of_distinct hchains hdistinct, if_neg hcapacity]
  cases hprover : c.prover with
  | none => rfl
  | some prover => exact if_neg (not_not.mpr (hl1 prover hprover))

/-! ### The first fault -/

/-- A fault is reported if the configuration has none that comes before it. -/
theorem validate_of_minimalFor (h : MinimalFor c.Fault ConfigError.rank e) :
    c.validate = .error e := by
  obtain ⟨hfault, hfirst⟩ := minimalFor_iff_forall_lt.mp h
  -- Every check before the one that fails is passed, since else there were an earlier fault.
  have hchains : 0 < e.rank → c.chains ≠ [] := fun hrank hchains =>
    hfirst (j := .noChains) hrank (.noChains hchains)
  have hdistinct : 1 < e.rank → firstRepeated [] (c.endpoints.map (·.chainId)) = none := by
    intro hrank
    by_contra hrepeated
    obtain ⟨id, hid⟩ := Option.ne_none_iff_exists'.mp hrepeated
    exact hfirst (j := .duplicateChain id) hrank (fault_of_firstRepeated hid)
  have hcapacity : 2 < e.rank → c.fulfillment.queueCapacity ≠ 0 := fun hrank hcapacity =>
    hfirst (j := .zeroQueueCapacity) hrank (.zeroQueueCapacity hcapacity)
  have hl1 : 3 < e.rank →
      ∀ prover, c.prover = some prover → prover.l1ChainId ∈ c.endpoints.map (·.chainId) := by
    intro hrank prover hprover
    by_contra hunknown
    exact hfirst (j := .unknownL1Chain _) hrank (.unknownL1Chain hprover hunknown)
  cases hfault with
  | noChains chains_eq => exact validate_of_noChains chains_eq
  | duplicateChain split distinct known =>
    exact validate_of_repeated (hchains (by simp [ConfigError.rank]))
      (firstRepeated_of_split split distinct known)
  | zeroQueueCapacity capacity_eq =>
    rw [validate_of_distinct (hchains (by simp [ConfigError.rank]))
      (hdistinct (by simp [ConfigError.rank])), if_pos capacity_eq]
  | unknownL1Chain prover_eq unknown =>
    rw [validate_of_distinct (hchains (by simp [ConfigError.rank]))
      (hdistinct (by simp [ConfigError.rank])), if_neg (hcapacity (by simp [ConfigError.rank])),
      prover_eq]
    exact if_pos unknown
  | invalidPrivateKey text =>
    rw [validate_of_known (hchains (by simp [ConfigError.rank]))
      (hdistinct (by simp [ConfigError.rank])) (hcapacity (by simp [ConfigError.rank]))
      (hl1 (by simp [ConfigError.rank])), Wallet.verifiedAccount_of_error text]
    rfl
  | fromAddressMismatch text differs =>
    rw [validate_of_known (hchains (by simp [ConfigError.rank]))
      (hdistinct (by simp [ConfigError.rank])) (hcapacity (by simp [ConfigError.rank]))
      (hl1 (by simp [ConfigError.rank])), Wallet.verifiedAccount_of_ne text differs]
    rfl

/-- A configuration without faults is accepted. -/
theorem accepted_of_forall_not_fault (h : ∀ e, ¬ c.Fault e) : c.Accepted where
  chains_ne hchains := h _ (.noChains hchains)
  distinct := by
    cases hrepeated : firstRepeated [] (c.endpoints.map (·.chainId)) with
    | none => exact (firstRepeated_eq_none_iff.mp hrepeated).1
    | some id => exact absurd (fault_of_firstRepeated hrepeated) (h _)
  capacity_ne hcapacity := h _ (.zeroQueueCapacity hcapacity)
  l1_configured prover hprover := by
    by_contra hunknown
    exact h _ (.unknownL1Chain hprover hunknown)
  wallet := by
    cases htext : SecretKey.ofText c.wallet.privateKey with
    | error cause => exact absurd (.invalidPrivateKey htext) (h _)
    | ok key =>
      by_cases haddress : key.address = c.wallet.fromAddress
      · exact ⟨_, Wallet.verifiedAccount_of_eq htext haddress⟩
      · exact absurd (.fromAddressMismatch htext haddress) (h _)

/-- The first fault is reported. -/
theorem validate_eq_error_iff : c.validate = .error e ↔ MinimalFor c.Fault ConfigError.rank e :=
  eq_error_iff_minimalFor (fun _ => validate_of_minimalFor)
    fun h => ⟨(), validate_eq_ok_iff.mpr (accepted_of_forall_not_fault h)⟩

theorem accepted_iff_forall_not_fault : c.Accepted ↔ ∀ e, ¬ c.Fault e := by
  refine ⟨fun haccepted e hfault => ?_, accepted_of_forall_not_fault⟩
  obtain ⟨first, hfirst⟩ := exists_minimalFor_of_wellFoundedLT c.Fault ConfigError.rank ⟨e, hfault⟩
  have herror := validate_of_minimalFor hfirst
  rw [validate_eq_ok_iff.mpr haccepted] at herror
  cases herror

/-! ### What can be relied on -/

/-- What the rest of the program relies on: a chain is found under every configured id and no other,
and it is the only one; connecting to all chains meets no duplicate; and a job of proving finds its
base chain. -/
structure Dependable (c : Configuration) : Prop where
  filter_eq : ∀ id, c.endpoints.filter (·.chainId = id) = (c.chain? id).toList
  isSome_iff : ∀ id, (c.chain? id).isSome ↔ id ∈ c.endpoints.map (·.chainId)
  connects : ∀ {σ : Type} (env : Environment NodeClient σ) (s : σ) (id : ChainId),
    ((Registry.connect c.endpoints).run.run env s).1 ≠ .error (.duplicate id)
  findsBase : ∀ prover, c.prover = some prover →
    ∃ l1, c.chain? prover.l1ChainId = some l1 ∧ l1.chainId = prover.l1ChainId
  proves : ∀ {σ : Type} (env : Environment NodeClient σ) (s : σ) (request : ProofRequest)
    (id : ChainId),
    ((Job.proveFulfillment c request).run.run env s).1 ≠ .error (.unknownL1Chain id)

/-- Among chains with different ids, those with one id are the first one with it, if there is any. -/
theorem filter_chainId_eq {endpoints : List Endpoint} (h : (endpoints.map (·.chainId)).Nodup)
    (id : ChainId) :
    endpoints.filter (·.chainId = id) = (endpoints.find? (·.chainId = id)).toList := by
  induction endpoints with
  | nil => rfl
  | cons e endpoints ih =>
    obtain ⟨hnew, hrest⟩ := List.nodup_cons.mp h
    by_cases hid : e.chainId = id
    · have hnone : endpoints.filter (·.chainId = id) = [] := by
        rw [List.filter_eq_nil_iff]
        intro f hf hfid
        exact hnew (List.mem_map.mpr ⟨f, hf, (of_decide_eq_true hfid).trans hid.symm⟩)
      rw [List.filter_cons_of_pos (by simpa using hid), hnone,
        List.find?_cons_of_pos (by simpa using hid)]
      rfl
    · rw [List.filter_cons_of_neg (by simpa using hid), ih hrest,
        List.find?_cons_of_neg (by simpa using hid)]

theorem isSome_chain?_iff : (c.chain? id).isSome ↔ id ∈ c.endpoints.map (·.chainId) := by
  rw [Option.isSome_iff_ne_none, ne_eq, chain?_eq_none_iff, not_not]

/-- Connecting to chains with different ids meets no duplicate. -/
theorem run_connect_ne_duplicate {σ : Type} {endpoints : List Endpoint}
    (h : (endpoints.map (·.chainId)).Nodup) (env : Environment NodeClient σ) (s : σ) (id : ChainId) :
    ((Registry.connect endpoints).run.run env s).1 ≠ .error (.duplicate id) := by
  intro hduplicate
  have htalk : (Registry.connect endpoints).run.talk env s = (.error (.duplicate id), _, _) :=
    Prod.ext hduplicate rfl
  obtain ⟨before, e, later, report, hsplit, -, hoffends, -⟩ :=
    (Registry.connectsInOrder env s endpoints).of_error htalk
  -- The chain that offends would have the id of one before it.
  have hnew := Registry.chainId_not_mem_of_nodup (hsplit ▸ h)
  cases hoffends.of_not_mem hnew with
  | duplicate known => cases known

theorem Accepted.exists_base (h : c.Accepted) {prover : ProverSettings}
    (hprover : c.prover = some prover) : ∃ l1, c.chain? prover.l1ChainId = some l1 :=
  Option.isSome_iff_exists.mp (isSome_chain?_iff.mpr (h.l1_configured prover hprover))

theorem Accepted.dependable (h : c.Accepted) : c.Dependable where
  filter_eq id := filter_chainId_eq h.distinct id
  isSome_iff _ := isSome_chain?_iff
  connects := run_connect_ne_duplicate h.distinct
  findsBase prover hprover := by
    obtain ⟨l1, hl1⟩ := h.exists_base hprover
    exact ⟨l1, hl1, chainId_of_chain? hl1⟩
  proves env s request id hunknown := by
    rcases Job.refuses_or_fails hunknown with hrefuses | hfails
    · cases hrefuses with
      | noBase prover_eq l1_eq =>
        obtain ⟨l1, hl1⟩ := h.exists_base prover_eq
        rw [l1_eq] at hl1
        cases hl1
    · exact hfails.ne_unknownL1Chain id rfl

/-- For every configuration: it is accepted exactly if it has no fault, and else the first fault is
reported; and if it is accepted it can be relied on. What is read from a text has its chains in the
order of their names. -/
theorem validate_discriminates :
    (∀ c : Configuration,
      (c.validate = .ok () ↔ c.Accepted) ∧ (c.Accepted ↔ ∀ e, ¬ c.Fault e) ∧
      (∀ e, c.validate = .error e ↔ MinimalFor c.Fault ConfigError.rank e) ∧
      (c.Accepted → c.Dependable)) ∧
    ∀ d c, ofData? d = some c → c.chains.Pairwise (·.1 < ·.1) :=
  ⟨fun _ => ⟨validate_eq_ok_iff, accepted_iff_forall_not_fault, fun _ => validate_eq_error_iff,
    Accepted.dependable⟩, fun _ _ => pairwise_of_ofData?⟩

end Configuration

end CrossCall
