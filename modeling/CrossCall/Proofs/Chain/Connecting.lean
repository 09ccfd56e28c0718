import Mathlib
import CrossCall.Chain.Connection
import CrossCall.Proofs.Node.Traces

/-!
# Connecting to the chains

Chains are registered one after the other. Nothing but an invalid URL, a node that does not give the
configured id, or an id that was registered before can stand in the way. What stands in the way of a
chain leaves the registry as it was.

## Main definitions

* `Environment.Vouches` — the URLs are valid, and the nodes give the configured ids
* `Registration.IsOf` — an endpoint with the client that its URL asks for
* `Registry.Offends` — what stands in the way of a chain when its node has reported
* `Registry.verify` — what is made of a node's report

## Main results

* `Registry.verify_cases` — a chain is added at the end, or the registry is what it was
* `Registry.talk_addVerified` — to add a chain is to ask its node once and to look at the report
* `Registry.exists_talk_connect` — chains with different ids that their nodes vouch for are registered
  in their order
* `Registry.of_talk_connect` — whatever is connected was registered in this order
-/

namespace CrossCall

variable {χ σ : Type}

open Session

/-- The URLs of the endpoints are valid, and the nodes behind them give the configured ids whenever
they are asked. -/
def Environment.Vouches (env : Environment NodeClient σ) (endpoints : List Endpoint) : Prop :=
  ∀ e ∈ endpoints, ∃ client, NodeClient.ofEndpoint e = .ok client ∧
    ∀ s, (env.answer s client .chainId).1 = .ok e.chainId

/-- An endpoint is registered with the client that its URL asks for. -/
def Registration.IsOf (c : Registration NodeClient) (e : Endpoint) : Prop :=
  c.endpoint = e ∧ NodeClient.ofEndpoint e = .ok c.client

namespace Registry

/-! ### One chain -/

/-- What stands in the way of a chain, given the ids that are taken and what its node reported. An
answer comes before a comparison, and a comparison before a search for the id. -/
inductive Offends (taken : List ChainId) (e : Endpoint) :
    Except ClientError ChainId → RegistryError → Prop
  | client (cause : ClientError) : Offends taken e (.error cause) (.client e.chainId cause)
  | chainIdMismatch {actual : ChainId} (differs : actual ≠ e.chainId) :
      Offends taken e (.ok actual) (.chainIdMismatch e.chainId actual)
  | duplicate (known : e.chainId ∈ taken) :
      Offends taken e (.ok e.chainId) (.duplicate e.chainId)

section

variable {r r' : Registry χ} {c : Registration χ} {id : ChainId}

theorem get?_eq_none_iff_not_mem_ids : r.get? id = none ↔ id ∉ r.ids := by
  rw [← isSome_get?_iff, Option.not_isSome_iff_eq_none]

theorem ids_of_chains_eq_append (h : r'.chains = r.chains ++ [c]) :
    r'.ids = r.ids ++ [c.endpoint.chainId] := by
  simp [ids, h]

/-- A chain whose id is new stands at the end afterwards. Any other is refused, and the registry is
what it was. -/
theorem add_cases (r : Registry χ) (c : Registration χ) :
    (c.endpoint.chainId ∉ r.ids ∧
      ∃ r', r.add c.endpoint c.client = (.ok (), r') ∧ r'.chains = r.chains ++ [c]) ∨
    (c.endpoint.chainId ∈ r.ids ∧
      r.add c.endpoint c.client = (.error (.duplicate c.endpoint.chainId), r)) := by
  by_cases hknown : c.endpoint.chainId ∈ r.ids
  · have hsome : r.get? c.endpoint.chainId ≠ none :=
      fun hnone => get?_eq_none_iff_not_mem_ids.mp hnone hknown
    exact .inr ⟨hknown, by rw [add, dif_neg hsome]⟩
  · have hnone := get?_eq_none_iff_not_mem_ids.mpr hknown
    exact .inl ⟨hknown, _, by rw [add, dif_pos hnone], rfl⟩

/-- What is made of a node's report. -/
def verify (r : Registry χ) (c : Registration χ) :
    Except ClientError ChainId → Except RegistryError Unit × Registry χ
  | .error cause => (.error (.client c.endpoint.chainId cause), r)
  | .ok actual =>
    if actual = c.endpoint.chainId then r.add c.endpoint c.client
    else (.error (.chainIdMismatch c.endpoint.chainId actual), r)

/-- A chain that its node vouches for and whose id is new stands at the end afterwards. In the way
of any other stands what offends, and the registry is what it was. -/
theorem verify_cases (r : Registry χ) (c : Registration χ)
    (report : Except ClientError ChainId) :
    (report = .ok c.endpoint.chainId ∧ c.endpoint.chainId ∉ r.ids ∧
      ∃ r', r.verify c report = (.ok (), r') ∧ r'.chains = r.chains ++ [c]) ∨
    ∃ x, Offends r.ids c.endpoint report x ∧ r.verify c report = (.error x, r) := by
  cases report with
  | error cause => exact .inr ⟨_, .client cause, rfl⟩
  | ok actual =>
    by_cases hid : actual = c.endpoint.chainId
    · subst hid
      rw [verify, if_pos rfl]
      rcases r.add_cases c with ⟨hnew, hadded⟩ | ⟨hknown, hadd⟩
      · exact .inl ⟨rfl, hnew, hadded⟩
      · exact .inr ⟨_, .duplicate hknown, hadd⟩
    · rw [verify, if_neg hid]
      exact .inr ⟨_, .chainIdMismatch hid, rfl⟩

/-- To add a chain after asking its node is to ask once and to look at the report. -/
theorem talk_addVerified (env : Environment χ σ) (r : Registry χ) (c : Registration χ) (s : σ) :
    (r.addVerified c.endpoint c.client).talk env s =
      (r.verify c (env.answer s c.client .chainId).1, (env.answer s c.client .chainId).2,
        [⟨c.client, .chainId, (env.answer s c.client .chainId).1⟩]) := by
  rcases hanswer : env.answer s c.client .chainId with ⟨report, s'⟩
  rw [addVerified, talk_bind _ (talk_query _ hanswer)]
  cases report with
  | error cause => rfl
  | ok actual =>
    by_cases hid : actual = c.endpoint.chainId
    · simp only [Except.mapError, verify, hid, ne_eq, not_true_eq_false, if_false, if_true]
      rfl
    · simp only [Except.mapError, verify, hid, ne_eq, not_false_eq_true, if_true, if_false]
      rfl

theorem talk_insertVerified (env : Environment χ σ) (r : Registry χ) (c : Registration χ) (s : σ) :
    (r.insertVerified c.endpoint c.client).run.talk env s =
      (ofAdded (r.verify c (env.answer s c.client .chainId).1),
        (env.answer s c.client .chainId).2,
        [⟨c.client, .chainId, (env.answer s c.client .chainId).1⟩]) := by
  rw [run_insertVerified, talk_bind _ (r.talk_addVerified env c s)]
  simp [after, talk, run, pure, exchanges]

end

/-! ### Several chains -/

variable {env : Environment NodeClient σ}

theorem exists_talk_insertVerified {r : Registry NodeClient} {e : Endpoint} {client : NodeClient}
    (hanswer : ∀ s, (env.answer s client .chainId).1 = .ok e.chainId) (hnew : e.chainId ∉ r.ids)
    (s : σ) :
    ∃ r' s' es, (r.insertVerified e client).run.talk env s = (.ok r', s', es) ∧
      r'.chains = r.chains ++ [⟨e, client⟩] := by
  have htalk := r.talk_insertVerified env ⟨e, client⟩ s
  rcases r.verify_cases ⟨e, client⟩ (env.answer s client .chainId).1 with
    ⟨-, -, r', hverify, hchains⟩ | ⟨x, hoffends, -⟩
  · rw [hverify] at htalk
    exact ⟨r', _, _, htalk, hchains⟩
  · rw [hanswer] at hoffends
    cases hoffends with
    | chainIdMismatch differs => exact absurd rfl differs
    | duplicate known => exact absurd known hnew

/-- Chains that their nodes vouch for are registered in their order, behind those that are registered
already. -/
theorem exists_talk_connectTo {endpoints : List Endpoint} (hvouches : env.Vouches endpoints)
    {r : Registry NodeClient} (hdistinct : (r.ids ++ endpoints.map (·.chainId)).Nodup) (s : σ) :
    ∃ r' s' es added, (r.connectTo endpoints).run.talk env s = (.ok r', s', es) ∧
      r'.chains = r.chains ++ added ∧ List.Forall₂ Registration.IsOf added endpoints := by
  -- The registered ids and those that are still to come stay distinct together.
  induction endpoints generalizing r s with
  | nil => exact ⟨r, s, [], [], rfl, by simp, .nil⟩
  | cons e endpoints ih =>
    obtain ⟨client, hclient, hanswer⟩ := hvouches e List.mem_cons_self
    have hnew : e.chainId ∉ r.ids := by
      intro hmem
      exact (List.nodup_append.mp hdistinct).2.2 _ hmem _ (by simp) rfl
    obtain ⟨r₁, s₁, es₁, hinsert, hchains₁⟩ := exists_talk_insertVerified hanswer hnew s
    have hids : r₁.ids = r.ids ++ [e.chainId] := by simp [ids, hchains₁]
    obtain ⟨r₂, s₂, es₂, added, hconnect, hchains₂, hadded⟩ :=
      ih (fun f hf => hvouches f (List.mem_cons_of_mem e hf)) (r := r₁)
        (by simpa [hids] using hdistinct) s₁
    refine ⟨r₂, s₂, es₁ ++ es₂, ⟨e, client⟩ :: added, ?_, ?_, .cons ⟨rfl, hclient⟩ hadded⟩
    · have hlift : (liftM ((NodeClient.ofEndpoint e).mapError (RegistryError.client e.chainId)) :
          ExceptT RegistryError (Session NodeClient) NodeClient).run.talk env s =
          (.ok client, s, []) := by
        rw [talk_lift, hclient]
        rfl
      rw [connectTo, talk_bind_of_silent _ hlift, talk_bind_of_ok _ hinsert, hconnect]
      rfl
    · rw [hchains₂, hchains₁, List.append_assoc]
      rfl

/-- Chains with different ids that their nodes vouch for are registered in their order. -/
theorem exists_talk_connect {endpoints : List Endpoint} (hvouches : env.Vouches endpoints)
    (hdistinct : (endpoints.map (·.chainId)).Nodup) (s : σ) :
    ∃ r s' es, (connect endpoints).run.talk env s = (.ok r, s', es) ∧
      List.Forall₂ Registration.IsOf r.chains endpoints := by
  obtain ⟨r, s', es, added, hconnect, hchains, hadded⟩ :=
    exists_talk_connectTo (r := empty) hvouches hdistinct s
  obtain rfl : r.chains = added := hchains
  exact ⟨r, s', es, hconnect, hadded⟩

theorem of_talk_insertVerified {r r' : Registry NodeClient} {e : Endpoint} {client : NodeClient}
    {s s' : σ} {es : List (Exchange NodeClient)}
    (h : (r.insertVerified e client).run.talk env s = (.ok r', s', es)) :
    r'.chains = r.chains ++ [⟨e, client⟩] := by
  rw [r.talk_insertVerified env ⟨e, client⟩ s] at h
  rcases r.verify_cases ⟨e, client⟩ (env.answer s client .chainId).1 with
    ⟨-, -, r'', hverify, hchains⟩ | ⟨x, -, hverify⟩
  · rw [hverify] at h
    cases h
    exact hchains
  · rw [hverify] at h
    cases h

/-- What was connected are the endpoints, in their order, with the clients for their URLs. -/
theorem of_talk_connectTo {endpoints : List Endpoint} {r r' : Registry NodeClient} {s s' : σ}
    {es : List (Exchange NodeClient)}
    (h : (r.connectTo endpoints).run.talk env s = (.ok r', s', es)) :
    ∃ added, r'.chains = r.chains ++ added ∧ List.Forall₂ Registration.IsOf added endpoints := by
  induction endpoints generalizing r s es with
  | nil =>
    obtain ⟨rfl, -, -⟩ := of_talk_pure h
    exact ⟨[], by simp, .nil⟩
  | cons e endpoints ih =>
    obtain ⟨client, _, _, _, hclient, h, -⟩ := exists_of_talk_bind h
    obtain ⟨r₁, _, _, _, hinsert, h, -⟩ := exists_of_talk_bind h
    obtain ⟨added, hchains, hadded⟩ := ih h
    have hclient := mapError_eq_ok_iff.mp (of_talk_lift hclient).1
    refine ⟨⟨e, client⟩ :: added, ?_, .cons ⟨rfl, hclient⟩ hadded⟩
    rw [hchains, of_talk_insertVerified hinsert, List.append_assoc]
    rfl

theorem of_talk_connect {endpoints : List Endpoint} {r : Registry NodeClient} {s s' : σ}
    {es : List (Exchange NodeClient)} (h : (connect endpoints).run.talk env s = (.ok r, s', es)) :
    List.Forall₂ Registration.IsOf r.chains endpoints := by
  obtain ⟨added, hchains, hadded⟩ := of_talk_connectTo h
  obtain rfl : r.chains = added := hchains
  exact hadded

end Registry

end CrossCall
