import Mathlib
import CrossCall.Proofs.Chain.Connecting

/-!
# The first chain with an id stays

A registry is made by attempts to register chains, some of them after asking the chain's node. Each
attempt either adds a chain whose id is new, or fails and leaves everything as it was. So a registry
holds under each id the first chain that was registered with it. Connecting is the same for a list
of endpoints, except that the first failure ends it, and no node further down the list is asked.

## Main definitions

* `Registry.Attempt`, `Registry.attemptAll` — attempts to register chains, one after another
* `Registry.Outcome`, `Registry.Outcomes` — all that can come of an attempt, and of several
* `Registry.rollCall` — asks the nodes of some chains for their ids, one after another
* `Registry.ConnectionCourse` — the ways in which connecting can go
* `Registry.ConnectsInOrder` — what comes of connecting

## Main results

* `Registry.exists_talk_attemptAll` — attempts have these outcomes and no others
* `Registry.Outcomes.chains_eq` — a registry consists of the chains of the attempts that went well
* `Registry.connectionCourse` — connecting calls the roll, to its end or to the first offence
* `Registry.registers_faithfully` — all of it, for every behaviour of the nodes
-/

namespace CrossCall

open Session

variable {χ σ : Type}

namespace Registry

/-! ### Attempts -/

/-- An attempt to register a chain, without or with asking its node. -/
inductive Attempt (χ : Type)
  | insert (c : Registration χ)
  | insertVerified (c : Registration χ)

/-- The chain that an attempt is about. -/
def Attempt.chain : Attempt χ → Registration χ
  | insert c | insertVerified c => c

/-- Makes an attempt: whether it went well, and the registry that is left. -/
def attempt (r : Registry χ) : Attempt χ → Session χ (Except RegistryError Unit × Registry χ)
  | .insert c => return r.add c.endpoint c.client
  | .insertVerified c => r.addVerified c.endpoint c.client

/-- Makes attempts one after another, each on the registry that the one before it left. -/
def attemptAll (r : Registry χ) :
    List (Attempt χ) → Session χ (List (Except RegistryError Unit) × Registry χ)
  | [] => return ([], r)
  | a :: as => do
    let (result, r) ← r.attempt a
    let (results, r) ← r.attemptAll as
    return (result :: results, r)

/-- All that can come of an attempt: whether it went well, the registry afterwards, and what was
asked. -/
inductive Outcome (r : Registry χ) :
    Attempt χ → Except RegistryError Unit → Registry χ → List (Exchange χ) → Prop
  | inserted {c : Registration χ} {r' : Registry χ} (new : c.endpoint.chainId ∉ r.ids)
      (added : r'.chains = r.chains ++ [c]) : Outcome r (.insert c) (.ok ()) r' []
  | notInserted {c : Registration χ} (known : c.endpoint.chainId ∈ r.ids) :
      Outcome r (.insert c) (.error (.duplicate c.endpoint.chainId)) r []
  | verified {c : Registration χ} {r' : Registry χ} (new : c.endpoint.chainId ∉ r.ids)
      (added : r'.chains = r.chains ++ [c]) :
      Outcome r (.insertVerified c) (.ok ()) r'
        [⟨c.client, .chainId, .ok c.endpoint.chainId⟩]
  | notVerified {c : Registration χ} {report : Except ClientError ChainId} {x : RegistryError}
      (offends : Offends r.ids c.endpoint report x) :
      Outcome r (.insertVerified c) (.error x) r [⟨c.client, .chainId, report⟩]

/-- All that can come of attempts one after another. -/
inductive Outcomes : Registry χ → List (Attempt χ) → List (Except RegistryError Unit) →
    Registry χ → List (Exchange χ) → Prop
  | nil (r : Registry χ) : Outcomes r [] [] r []
  | cons {r r₁ r₂ : Registry χ} {a : Attempt χ} {as : List (Attempt χ)}
      {result : Except RegistryError Unit} {results : List (Except RegistryError Unit)}
      {es₁ es₂ : List (Exchange χ)} (first : r.Outcome a result r₁ es₁)
      (rest : Outcomes r₁ as results r₂ es₂) :
      Outcomes r (a :: as) (result :: results) r₂ (es₁ ++ es₂)

/-- The chains of the attempts that went well. -/
def registered (as : List (Attempt χ)) (results : List (Except RegistryError Unit)) :
    List (Registration χ) :=
  ((as.zip results).filter (·.2.isOk)).map (·.1.chain)

section

variable {env : Environment χ σ} {r r' : Registry χ} {a : Attempt χ} {as : List (Attempt χ)}
variable {result : Except RegistryError Unit} {results : List (Except RegistryError Unit)}
variable {es : List (Exchange χ)} {s s' : σ}

/-- Every attempt has one of the outcomes. -/
theorem exists_talk_attempt (env : Environment χ σ) (r : Registry χ) (a : Attempt χ) (s : σ) :
    ∃ result r' s' es, (r.attempt a).talk env s = ((result, r'), s', es) ∧
      r.Outcome a result r' es := by
  cases a with
  | insert c =>
    have htalk : (r.attempt (.insert c)).talk env s = (r.add c.endpoint c.client, s, []) := rfl
    rw [htalk]
    rcases r.add_cases c with ⟨hnew, r', hadd, hadded⟩ | ⟨hknown, hadd⟩
    · rw [hadd]
      exact ⟨_, _, _, _, rfl, .inserted hnew hadded⟩
    · rw [hadd]
      exact ⟨_, _, _, _, rfl, .notInserted hknown⟩
  | insertVerified c =>
    rw [attempt, talk_addVerified]
    rcases r.verify_cases c (env.answer s c.client .chainId).1 with
      ⟨hreport, hnew, r', hverify, hadded⟩ | ⟨x, hoffends, hverify⟩
    · rw [hverify, hreport]
      exact ⟨_, _, _, _, rfl, .verified hnew hadded⟩
    · rw [hverify]
      exact ⟨_, _, _, _, rfl, .notVerified hoffends⟩

/-- Attempts one after another have these outcomes, one after another. -/
theorem exists_talk_attemptAll (env : Environment χ σ) (r : Registry χ) (as : List (Attempt χ))
    (s : σ) :
    ∃ results r' s' es, (r.attemptAll as).talk env s = ((results, r'), s', es) ∧
      Outcomes r as results r' es := by
  induction as generalizing r s with
  | nil => exact ⟨[], r, s, [], rfl, .nil r⟩
  | cons a as ih =>
    obtain ⟨result, r₁, s₁, es₁, htalk₁, hfirst⟩ := exists_talk_attempt env r a s
    obtain ⟨results, r₂, s₂, es₂, htalk₂, hrest⟩ := ih r₁ s₁
    refine ⟨_, r₂, s₂, es₁ ++ es₂, ?_, .cons hfirst hrest⟩
    rw [attemptAll, talk_bind _ htalk₁, talk_bind _ htalk₂]
    simp [after, talk, run, pure, exchanges]

theorem Outcome.chains_eq (h : r.Outcome a result r' es) :
    r'.chains = r.chains ++ registered [a] [result] := by
  cases h with
  | inserted new added => exact added
  | notInserted known => simp [registered, Except.isOk, Except.toBool]
  | verified new added => exact added
  | notVerified offends => simp [registered, Except.isOk, Except.toBool]

theorem registered_cons (a : Attempt χ) (as : List (Attempt χ)) (result : Except RegistryError Unit)
    (results : List (Except RegistryError Unit)) :
    registered (a :: as) (result :: results) =
      registered [a] [result] ++ registered as results := by
  rw [registered, List.zip_cons_cons, List.filter_cons]
  cases hok : result.isOk <;> simp [registered, hok]

/-- The chains of the attempts that went well were added in their order. -/
theorem Outcomes.chains_eq (h : Outcomes r as results r' es) :
    r'.chains = r.chains ++ registered as results := by
  induction h with
  | nil r => simp [registered]
  | cons first rest ih => rw [ih, first.chains_eq, List.append_assoc, ← registered_cons]

end

/-! ### Connecting -/

/-- Asks the node of a chain for its id. Nothing is asked if its URL is not valid. -/
def askId (e : Endpoint) : Session NodeClient (Except ClientError ChainId) :=
  match NodeClient.ofEndpoint e with
  | .error cause => return .error cause
  | .ok client => .ask client .chainId .done

/-- Asks the nodes of some chains for their ids, one after another. -/
def rollCall (endpoints : List Endpoint) : Session NodeClient (List (Except ClientError ChainId)) :=
  endpoints.mapM askId

/-- The ways in which connecting can go when some ids are taken: all chains report their ids, or
they do up to one that something stands in the way of, and the roll is called no further. -/
inductive ConnectionCourse (env : Environment NodeClient σ) (taken : List ChainId) (s : σ)
    (endpoints : List Endpoint) :
    Except RegistryError (Registry NodeClient) × σ × List (Exchange NodeClient) → Prop
  | connected {r : Registry NodeClient} {s' : σ} {es : List (Exchange NodeClient)}
      (distinct : (taken ++ endpoints.map (·.chainId)).Nodup)
      (reports : (rollCall endpoints).talk env s = (endpoints.map (.ok ·.chainId), s', es)) :
      ConnectionCourse env taken s endpoints (.ok r, s', es)
  | stopped {before later : List Endpoint} {e : Endpoint} {report : Except ClientError ChainId}
      {x : RegistryError} {s' : σ} {es : List (Exchange NodeClient)}
      (split : endpoints = before ++ e :: later)
      (distinct : (taken ++ before.map (·.chainId)).Nodup)
      (offends : Offends (taken ++ before.map (·.chainId)) e report x)
      (reports : (rollCall (before ++ [e])).talk env s =
        (before.map (.ok ·.chainId) ++ [report], s', es)) :
      ConnectionCourse env taken s endpoints (.error x, s', es)

section

variable {env : Environment NodeClient σ} {taken : List ChainId} {s s' s'' : σ} {e : Endpoint}
variable {endpoints : List Endpoint} {report : Except ClientError ChainId}
variable {reports : List (Except ClientError ChainId)} {r : Registry NodeClient}
variable {es es' : List (Exchange NodeClient)}

theorem talk_askId_of_error {cause : ClientError} (h : NodeClient.ofEndpoint e = .error cause) :
    (askId e).talk env s = (.error cause, s, []) := by
  rw [askId, h]
  rfl

theorem talk_askId_of_ok {client : NodeClient} (h : NodeClient.ofEndpoint e = .ok client) :
    (askId e).talk env s =
      ((env.answer s client .chainId).1, (env.answer s client .chainId).2,
        [⟨client, .chainId, (env.answer s client .chainId).1⟩]) := by
  rw [askId, h]
  rfl

theorem talk_rollCall_cons (h : (askId e).talk env s = (report, s', es))
    (h' : (rollCall endpoints).talk env s' = (reports, s'', es')) :
    (rollCall (e :: endpoints)).talk env s = (report :: reports, s'', es ++ es') := by
  rw [rollCall] at h' ⊢
  rw [List.mapM_cons, talk_bind _ h, talk_bind _ h']
  simp [after, talk, run, pure, exchanges]

theorem talk_rollCall_singleton (h : (askId e).talk env s = (report, s', es)) :
    (rollCall [e]).talk env s = ([report], s', es) := by
  have hnil : (rollCall []).talk env s' = ([], s', []) := rfl
  rw [talk_rollCall_cons h hnil, List.append_nil]

/-- The roll of a longer list begins with that of its beginning. -/
theorem reports_append (env : Environment NodeClient σ) (before later : List Endpoint) (s : σ) :
    ((rollCall before).talk env s).1 <+: ((rollCall (before ++ later)).talk env s).1 := by
  rcases h : (rollCall before).talk env s with ⟨reports, s', es⟩
  rcases h' : (rollCall later).talk env s' with ⟨reports', s'', es'⟩
  refine ⟨reports', ?_⟩
  rw [rollCall] at h h' ⊢
  rw [List.mapM_append, talk_bind _ h, talk_bind _ h']
  simp [after, talk, run, pure]

theorem ConnectionCourse.cons {t : Except RegistryError (Registry NodeClient) × σ ×
      List (Exchange NodeClient)}
    (hask : (askId e).talk env s = (.ok e.chainId, s', es))
    (h : ConnectionCourse env (taken ++ [e.chainId]) s' endpoints t) :
    ConnectionCourse env taken s (e :: endpoints) (after es t) := by
  cases h with
  | connected distinct reports =>
    exact .connected (by simpa using distinct) (talk_rollCall_cons hask reports)
  | @stopped before later offender _ _ _ _ split distinct offends reports =>
    have hsplit : e :: endpoints = (e :: before) ++ offender :: later := by
      rw [split, List.cons_append]
    exact .stopped hsplit (by simpa using distinct) (by simpa using offends)
      (talk_rollCall_cons hask reports)

/-- The first chain of a list either is registered, or something stands in its way. -/
theorem talk_connectTo_cons (r : Registry NodeClient) (endpoints : List Endpoint)
    (hask : (askId e).talk env s = (report, s', es)) :
    (∃ x, Offends r.ids e report x ∧
      (r.connectTo (e :: endpoints)).run.talk env s = (.error x, s', es)) ∨
    ∃ r' : Registry NodeClient, report = .ok e.chainId ∧ r'.ids = r.ids ++ [e.chainId] ∧
      (r.connectTo (e :: endpoints)).run.talk env s =
        after es ((r'.connectTo endpoints).run.talk env s') := by
  rw [connectTo]
  cases hclient : NodeClient.ofEndpoint e with
  | error cause =>
    rw [talk_askId_of_error hclient] at hask
    cases hask
    exact .inl ⟨_, .client cause, talk_bind_of_error _ (talk_lift _)⟩
  | ok client =>
    rw [talk_askId_of_ok hclient] at hask
    cases hask
    have hlift : (liftM ((NodeClient.ofEndpoint e).mapError (RegistryError.client e.chainId)) :
        ExceptT RegistryError (Session NodeClient) NodeClient).run.talk env s =
        (.ok client, s, []) := by
      rw [hclient]
      exact talk_lift _
    rw [← hclient, talk_bind_of_silent _ hlift]
    -- From here on it is the registration of one chain, and what comes after it.
    have hinsert := r.talk_insertVerified env ⟨e, client⟩ s
    rcases r.verify_cases ⟨e, client⟩ (env.answer s client .chainId).1 with
      ⟨hreport, -, r', hverify, hadded⟩ | ⟨x, hoffends, hverify⟩
    · rw [hverify] at hinsert
      exact .inr ⟨r', hreport, ids_of_chains_eq_append hadded, talk_bind_of_ok _ hinsert⟩
    · rw [hverify] at hinsert
      exact .inl ⟨x, hoffends, talk_bind_of_error _ hinsert⟩

/-- Connecting calls the roll, to its end or to the first chain that something stands in the way
of. -/
theorem connectionCourse (env : Environment NodeClient σ) (r : Registry NodeClient)
    (endpoints : List Endpoint) (s : σ) :
    ConnectionCourse env r.ids s endpoints ((r.connectTo endpoints).run.talk env s) := by
  -- The ids that are taken are those of the registry, which grows by every chain that is passed.
  induction endpoints generalizing r s with
  | nil => exact .connected (by simpa using r.nodup_ids) rfl
  | cons e endpoints ih =>
    rcases hask : (askId e).talk env s with ⟨report, s', es⟩
    rcases talk_connectTo_cons r endpoints hask with
      ⟨x, hoffends, htalk⟩ | ⟨r', rfl, hids, htalk⟩
    · rw [htalk]
      exact .stopped (List.nil_append _).symm (by simpa using r.nodup_ids) (by simpa using hoffends)
        (talk_rollCall_singleton hask)
    · rw [htalk]
      exact .cons hask (hids ▸ ih r' s')

theorem ids_eq_of_forall₂ (h : List.Forall₂ Registration.IsOf r.chains endpoints) :
    r.ids = endpoints.map (·.chainId) := by
  rw [ids, ← List.forall₂_eq_eq_eq, List.forall₂_map_left_iff, List.forall₂_map_right_iff]
  exact h.imp fun c e hof => hof.1 ▸ rfl

/-- Chains that are connected have valid URLs. -/
theorem exists_client_of_forall₂ {chains : List (Registration NodeClient)}
    (h : List.Forall₂ Registration.IsOf chains endpoints) :
    ∀ e ∈ endpoints, ∃ client, NodeClient.ofEndpoint e = .ok client := by
  induction h with
  | nil => simp
  | cons hof _ ih => exact List.forall_mem_cons.mpr ⟨⟨_, hof.2⟩, ih⟩

theorem chainId_not_mem_of_nodup {before later : List Endpoint}
    (h : ((before ++ e :: later).map (·.chainId)).Nodup) : e.chainId ∉ before.map (·.chainId) := by
  rw [List.map_append, List.map_cons, List.nodup_append] at h
  exact fun hmem => h.2.2 _ hmem _ List.mem_cons_self rfl

/-- If the ids differ, and every chain of a list reports its own, then nothing stands in the way of
any. -/
theorem ConnectionCourse.exists_eq_ok {t : Except RegistryError (Registry NodeClient) × σ ×
      List (Exchange NodeClient)}
    (h : ConnectionCourse env [] s endpoints t) (hdistinct : (endpoints.map (·.chainId)).Nodup)
    (hreports : ((rollCall endpoints).talk env s).1 = endpoints.map (.ok ·.chainId)) :
    ∃ r, t.1 = .ok r := by
  cases h with
  | @connected r => exact ⟨r, rfl⟩
  | @stopped before later e report x s' es split distinct offends reports =>
    -- What the offender reported is what it reports when the whole roll is called.
    obtain rfl : report = .ok e.chainId := by
      have hprefix := reports_append env (before ++ [e]) later s
      rw [reports, List.append_assoc, List.singleton_append, ← split, hreports, split] at hprefix
      simpa using hprefix
    cases offends with
    | chainIdMismatch differs => exact absurd rfl differs
    | duplicate known => exact absurd known (chainId_not_mem_of_nodup (split ▸ hdistinct))

end

/-- Chains are connected if their ids differ, their URLs are valid and their nodes report their ids.
Then they are registered in their order, and each node was asked once. Else the error is that of the
first chain that something stands in the way of, and no node behind it was asked. -/
structure ConnectsInOrder (env : Environment NodeClient σ) (s : σ) (endpoints : List Endpoint) :
    Prop where
  ok_iff : (∃ r, ((connect endpoints).run.talk env s).1 = .ok r) ↔
    (endpoints.map (·.chainId)).Nodup ∧
      (∀ e ∈ endpoints, ∃ client, NodeClient.ofEndpoint e = .ok client) ∧
      ((rollCall endpoints).talk env s).1 = endpoints.map (.ok ·.chainId)
  of_ok : ∀ {r s' es}, (connect endpoints).run.talk env s = (.ok r, s', es) →
    r.ids = endpoints.map (·.chainId) ∧ List.Forall₂ Registration.IsOf r.chains endpoints ∧
      (rollCall endpoints).talk env s = (endpoints.map (.ok ·.chainId), s', es)
  of_error : ∀ {x s' es}, (connect endpoints).run.talk env s = (.error x, s', es) →
    ∃ before e later report, endpoints = before ++ e :: later ∧
      (before.map (·.chainId)).Nodup ∧ Offends (before.map (·.chainId)) e report x ∧
      (rollCall (before ++ [e])).talk env s =
        (before.map (.ok ·.chainId) ++ [report], s', es)

theorem connectsInOrder (env : Environment NodeClient σ) (s : σ) (endpoints : List Endpoint) :
    ConnectsInOrder env s endpoints := by
  have hcourse : ConnectionCourse env [] s endpoints ((connect endpoints).run.talk env s) :=
    connectionCourse env empty endpoints s
  have of_ok {r s' es} (h : (connect endpoints).run.talk env s = (.ok r, s', es)) :
      (endpoints.map (·.chainId)).Nodup ∧ r.ids = endpoints.map (·.chainId) ∧
        List.Forall₂ Registration.IsOf r.chains endpoints ∧
        (rollCall endpoints).talk env s = (endpoints.map (.ok ·.chainId), s', es) := by
    have hchains := of_talk_connect h
    rw [h] at hcourse
    cases hcourse with
    | connected distinct reports => exact ⟨distinct, ids_eq_of_forall₂ hchains, hchains, reports⟩
  refine ⟨⟨?_, ?_⟩, fun h => (of_ok h).2, fun {x s' es} h => ?_⟩
  · rintro ⟨r, hr⟩
    obtain ⟨hdistinct, -, hchains, hreports⟩ := of_ok (Prod.ext hr rfl)
    exact ⟨hdistinct, exists_client_of_forall₂ hchains, by rw [hreports]⟩
  · rintro ⟨hdistinct, -, hreports⟩
    exact hcourse.exists_eq_ok hdistinct hreports
  · rw [h] at hcourse
    cases hcourse with
    | @stopped before later e report _ _ _ split distinct offends reports =>
      exact ⟨before, e, later, report, split, distinct, offends, reports⟩

/-! ### All of it -/

/-- Whatever the nodes do, attempts to register chains have their outcomes and no others; a registry
has under an id the first chain that was registered with it; and connecting is to register in order
up to the first chain that something stands in the way of. -/
theorem registers_faithfully :
    (∀ {χ σ : Type} (env : Environment χ σ) (s : σ) (r : Registry χ) (as : List (Attempt χ)),
      ∃ results r' s' es, (r.attemptAll as).talk env s = ((results, r'), s', es) ∧
        Outcomes r as results r' es) ∧
    (∀ {χ σ : Type} (env : Environment χ σ) (s : σ) (as : List (Attempt χ)),
      ∃ results r s' es, (empty.attemptAll as).talk env s = ((results, r), s', es) ∧
        ∀ id, r.get? id = (registered as results).find? (·.endpoint.chainId = id)) ∧
    ∀ {σ : Type} (env : Environment NodeClient σ) (s : σ) (endpoints : List Endpoint),
      ConnectsInOrder env s endpoints := by
  refine ⟨fun env s r as => exists_talk_attemptAll env r as s, fun env s as => ?_, connectsInOrder⟩
  obtain ⟨results, r, s', es, htalk, houtcomes⟩ := exists_talk_attemptAll env empty as s
  refine ⟨results, r, s', es, htalk, fun id => ?_⟩
  rw [get?, houtcomes.chains_eq]
  rfl

end Registry

end CrossCall
