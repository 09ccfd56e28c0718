import Mathlib
import CrossCall.Proofs.Fulfillment.Course
import CrossCall.Service.Queue

/-!
# Handling logs one after the other

A log is handled at the node of the chain that it names as its destination and at no other. So what
happens at one node while a sequence of logs is handled is what happens there while those of them
are handled that are for its chain.

## Main definitions

* `Relayer.route?` — the registered chain that a log is for
* `Relayer.drain` — handles logs one after the other
* `submissionsTo` — what was sent to a chain

## Main results

* `Relayer.handle_within` — a log is handled at the node of its destination
* `Relayer.talk_handle_of_route?_eq_none` — a log for no registered chain is rejected early
* `Relayer.measured_handle` — what the handling of a log counts
* `Relayer.run_drain_alone` — what happens at one node
-/

namespace CrossCall

variable {χ σ : Type}

/-- A log with what came of handling it. -/
abbrev Handled := Sighting × Except FulfillmentError Submission

/-- What was sent to a chain, in order. -/
def submissionsTo (destination : ChainId) (handled : List Handled) : List Submission :=
  handled.filterMap fun h => match h.2 with
    | .ok submission => if submission.destination = destination then some submission else none
    | .error _ => none

namespace Relayer

variable {r : Relayer χ} {source : ChainId} {log : Log}

/-- The registered chain that a log is for, if it can be read and there is one. -/
def route? (r : Relayer χ) (log : Log) : Option ChainId :=
  match PostedMessage.decodeLog log with
  | .error _ => none
  | .ok m => if (r.registry.get? m.destinationId).isSome then some m.destinationId else none

theorem route?_of_decodeLog {m : PostedMessage} {destination : Registration χ}
    (hlog : PostedMessage.decodeLog log = .ok m)
    (hget : r.registry.get? m.destinationId = some destination) :
    r.route? log = some m.destinationId := by
  simp [route?, hlog, hget]

/-- The node of the chain that a log is for. -/
def IsNodeOf (r : Relayer χ) (log : Log) (node : χ) : Prop :=
  ∃ id destination, r.route? log = some id ∧ r.registry.get? id = some destination ∧
    destination.client = node

/-! ### At which node a log is handled -/

theorem fulfill_within {m : ValidMessage} {destination : Registration χ}
    (hget : r.registry.get? m.message.destinationId = some destination) :
    (r.fulfill m).run.Within (· = destination.client) (fun n => ∃ line, n = .journal line) := by
  have hquery : ∀ (q : Request) (onError : ClientError → FulfillmentError),
      (Session.query destination.client q onError).run.Within (· = destination.client)
        (fun n => ∃ line, n = .journal line) :=
    fun q onError => Session.within_query q onError rfl
  have hreport : ∀ text, (Session.report .info "filler::pipeline" text :
      ExceptT FulfillmentError (Session χ) Unit).run.Within (· = destination.client)
        (fun n => ∃ line, n = .journal line) :=
    fun text => Session.within_report _ _ text fun line => ⟨line, rfl⟩
  simp only [fulfill, hget, Fee.quote, submit]
  refine Session.within_bind_lift fun call _ => ?_
  refine (hreport _).bindExcept fun _ => ?_
  refine Session.Within.bindExcept ?_ fun fee => ?_
  · exact (hquery _ _).bindExcept fun _ => (hquery _ _).bindExcept fun _ => trivial
  refine (hreport _).bindExcept fun _ => ?_
  refine Session.within_bind_lift fun required _ => ?_
  refine (hreport _).bindExcept fun _ => ?_
  refine Session.Within.bindExcept ?_ fun transactionHash => ?_
  · exact (hquery _ _).bindExcept fun _ => hquery _ _
  exact (hreport _).bindExcept fun _ => trivial

theorem attempt_within : (r.attempt source log).run.Within (r.IsNodeOf log)
    (fun n => ∃ line, n = .journal line) := by
  rw [attempt]
  refine Session.within_bind_lift fun m hparse => ?_
  obtain ⟨_, destination, _, _, hlog, hget, _⟩ := parse_eq_ok_iff.mp hparse
  refine (Session.within_report _ _ _ fun line => ⟨line, rfl⟩).bindExcept fun _ => ?_
  refine (fulfill_within hget).mono ?_ fun _ h => h
  rintro node rfl
  exact ⟨_, destination, route?_of_decodeLog hlog hget, hget, rfl⟩

/-- A log is handled at the node of its destination. -/
theorem handle_within : (r.handle source log).Within (r.IsNodeOf log) (fun _ => True) := by
  have hcount : ∀ outcome, (countOutcome outcome : Session χ Unit).Within (r.IsNodeOf log)
      (fun _ => True) := by
    intro outcome
    cases outcome <;> exact ⟨trivial, trivial, trivial⟩
  refine Session.Within.bind ⟨trivial, trivial⟩ fun _ => ?_
  refine (attempt_within.mono (fun _ h => h) fun _ _ => trivial).bind fun outcome => ?_
  exact (hcount outcome).bind fun _ => trivial

/-! ### What comes of handling a log -/

theorem stage_of_parse_eq_error {e : FulfillmentError} (h : r.parse source log = .error e) :
    e.stage = .decode ∨ e.stage = .validate := by
  -- The source chain is looked up first, then the log is read, then the message is validated.
  rw [parse] at h
  cases hsource : r.registry.endpoint? source with
  | none =>
    rw [hsource] at h
    cases h
    exact .inr rfl
  | some endpoint =>
    simp only [hsource] at h
    cases hlog : PostedMessage.decodeLog log with
    | error cause =>
      rw [hlog] at h
      cases h
      exact .inl rfl
    | ok m =>
      rw [hlog] at h
      cases hvalid : validate m endpoint r.registry with
      | ok v =>
        simp [hvalid, Except.mapError, bind, Except.bind] at h
      | error cause =>
        obtain rfl : FulfillmentError.validation cause = e := by
          simpa [hvalid, Except.mapError, bind, Except.bind] using h
        cases cause with
        | decode => exact .inl rfl
        | sourceChainMismatch => exact .inr rfl
        | destinationNotConfigured => exact .inr rfl
        | receiverMismatch => exact .inr rfl
        | l2OracleMismatch => exact .inr rfl

/-- A log for no registered chain is rejected before any node is asked. -/
theorem talk_handle_of_route?_eq_none (source : ChainId) (hroute : r.route? log = none) :
    ∃ e, (e.stage = .decode ∨ e.stage = .validate) ∧
      ∀ {σ : Type} (env : Environment χ σ) (nodes : σ),
        (r.handle source log).talk env nodes = (.error e, nodes, []) := by
  cases hparse : r.parse source log with
  | error e =>
    refine ⟨e, stage_of_parse_eq_error hparse, fun env nodes => ?_⟩
    rw [talk_handle, hparse]
  | ok m =>
    obtain ⟨_, destination, _, _, hlog, hget, _⟩ := parse_eq_ok_iff.mp hparse
    rw [route?_of_decodeLog hlog hget] at hroute
    cases hroute

/-- A submission goes to the chain that the log is for. -/
theorem route?_of_handle_eq_ok {env : Environment χ σ} {nodes : σ} {submission : Submission}
    (h : ((r.handle source log).run env nodes).1 = .ok submission) :
    r.route? log = some submission.destination := by
  have htalk : ((r.handle source log).talk env nodes).1 = .ok submission := h
  rw [talk_handle] at htalk
  cases hparse : r.parse source log with
  | error e => simp [hparse] at htalk
  | ok m =>
    obtain ⟨_, destination, _, _, hlog, hget, _⟩ := parse_eq_ok_iff.mp hparse
    simp only [hparse] at htalk
    rw [route?_of_decodeLog hlog hget]
    cases hcall : FulfillmentCall.ofMessage m destination.endpoint r.account.address with
    | error e =>
      rw [talk_fulfill_of_ofMessage_eq_error hget hcall] at htalk
      cases htalk
    | ok call =>
      have hcourse : Course env r m destination.client call nodes _ := course_fulfill hget hcall
      generalize (r.fulfill m).run.talk env nodes = t at htalk hcourse
      cases hcourse with
      | noEstimate | noPrice | unpaid | noNonce => cases htalk
      | @sent _ _ _ _ answer =>
        cases answer with
        | error e => cases htalk
        | ok transactionHash =>
          cases htalk
          rfl

/-- What an outcome adds to a series. -/
def outcomeAmount (series : Series) : Except FulfillmentError Submission → Nat
  | .ok submission =>
    (if .submitted submission.destination = series then 1 else 0) +
      if .duration = series then 1 else 0
  | .error e => if .rejected e.stage = series then 1 else 0

/-- What the handling of a log adds to a series. -/
def handlingAmount (series : Series) (outcome : Except FulfillmentError Submission) : Nat :=
  (if .received = series then 1 else 0) + outcomeAmount series outcome

/-- The handling of a log is counted once when it comes in and once for its outcome. -/
theorem measured_handle (series : Series) (env : Environment χ σ) (nodes : σ) :
    measured series ((r.handle source log).run env nodes).2.2 =
      handlingAmount series ((r.handle source log).run env nodes).1 := by
  -- Between the two counts there are only lines of the journal.
  have hattempt : ∀ s, measured series ((r.attempt source log).run.run env s).2.2 = 0 := by
    intro s
    refine measured_eq_zero fun n hn => ?_
    obtain ⟨line, rfl⟩ := attempt_within.event_of_mem env s _ hn
    rfl
  have hcount : ∀ outcome s,
      measured series ((countOutcome outcome : Session χ Unit).run env s).2.2 =
        outcomeAmount series outcome := by
    intro outcome s
    cases outcome with
    | ok submission => rfl
    | error e => rfl
  have hreceived : ∀ s,
      measured series ((Session.measure .received 1 : Session χ Unit).run env s).2.2 =
        if .received = series then 1 else 0 := fun s => rfl
  rw [handle]
  simp only [Session.run_bind, measured_append, hattempt, hcount, hreceived]
  simp [handlingAmount, pure, Session.run, measured, notes]

/-! ### A sequence of logs -/

/-- Handles logs one after the other. -/
def drain (r : Relayer χ) : List Sighting → Session χ (List Handled)
  | [] => return []
  | s :: ss => do
    let outcome ← r.handle s.chain s.log
    let outcomes ← r.drain ss
    return (s, outcome) :: outcomes

theorem run_drain_nil (env : Environment χ σ) (nodes : σ) :
    (r.drain []).run env nodes = ([], nodes, []) := rfl

theorem run_drain_cons (env : Environment χ σ) (s : Sighting) (ss : List Sighting) (nodes : σ) :
    (r.drain (s :: ss)).run env nodes =
      let first := (r.handle s.chain s.log).run env nodes
      let others := (r.drain ss).run env first.2.1
      ((s, first.1) :: others.1, others.2.1, first.2.2 ++ others.2.2) := by
  rw [drain]
  simp only [Session.run_bind]
  simp [pure, Session.run]

theorem map_fst_drain (env : Environment χ σ) (ss : List Sighting) (nodes : σ) :
    ((r.drain ss).run env nodes).1.map Prod.fst = ss := by
  induction ss generalizing nodes with
  | nil => rfl
  | cons s ss ih => rw [run_drain_cons, List.map_cons, ih]

theorem length_drain (env : Environment χ σ) (ss : List Sighting) (nodes : σ) :
    ((r.drain ss).run env nodes).1.length = ss.length := by
  rw [← List.length_map Prod.fst, map_fst_drain]

/-- Every log is handled in some state of the nodes. -/
theorem exists_run_of_mem_drain {env : Environment χ σ} {ss : List Sighting} {nodes : σ}
    {h : Handled} (hmem : h ∈ ((r.drain ss).run env nodes).1) :
    ∃ nodes', h.2 = ((r.handle h.1.chain h.1.log).run env nodes').1 := by
  induction ss generalizing nodes with
  | nil => simp [run_drain_nil] at hmem
  | cons s ss ih =>
    rw [run_drain_cons] at hmem
    rcases List.mem_cons.mp hmem with rfl | hmem
    · exact ⟨nodes, rfl⟩
    · exact ih hmem

/-- What is asked while logs are handled is asked of the nodes of their destinations. -/
theorem isNodeOf_of_mem_drain {env : Environment χ σ} {ss : List Sighting} {nodes : σ}
    {e : Exchange χ} (hmem : e ∈ exchanges ((r.drain ss).run env nodes).2.2) :
    ∃ s ∈ ss, r.IsNodeOf s.log e.node := by
  induction ss generalizing nodes with
  | nil => simp [run_drain_nil, exchanges] at hmem
  | cons s ss ih =>
    rw [run_drain_cons, exchanges_append] at hmem
    rcases List.mem_append.mp hmem with hmem | hmem
    · exact ⟨s, List.mem_cons_self, handle_within.node_of_mem env nodes e hmem⟩
    · obtain ⟨s', hs', hnode⟩ := ih hmem
      exact ⟨s', List.mem_cons_of_mem _ hs', hnode⟩

/-- What is counted adds up over the logs. -/
theorem measured_drain (series : Series) (env : Environment χ σ) (ss : List Sighting) (nodes : σ) :
    measured series ((r.drain ss).run env nodes).2.2 =
      (((r.drain ss).run env nodes).1.map fun h => handlingAmount series h.2).sum := by
  induction ss generalizing nodes with
  | nil => rfl
  | cons s ss ih =>
    rw [run_drain_cons, measured_append, ih, measured_handle, List.map_cons, List.sum_cons]

/-- Every log is counted when it comes in. -/
theorem sum_handlingAmount_received (handled : List Handled) :
    (handled.map fun h => handlingAmount .received h.2).sum = handled.length := by
  have hone : ∀ h : Handled, handlingAmount .received h.2 = 1 := by
    rintro ⟨s, outcome⟩
    cases outcome <;> rfl
  rw [List.map_congr_left fun h _ => hone h]
  simp

/-- Every submission is counted for its chain. -/
theorem sum_handlingAmount_submitted (destination : ChainId) (handled : List Handled) :
    (handled.map fun h => handlingAmount (.submitted destination) h.2).sum =
      (submissionsTo destination handled).length := by
  induction handled with
  | nil => rfl
  | cons h hs ih =>
    obtain ⟨s, outcome⟩ := h
    rw [List.map_cons, List.sum_cons, ih]
    cases outcome with
    | error e => simp [handlingAmount, outcomeAmount, submissionsTo]
    | ok submission =>
      by_cases hd : submission.destination = destination
      · simp [handlingAmount, outcomeAmount, hd, submissionsTo, Nat.add_comm]
      · simp [handlingAmount, outcomeAmount, hd, submissionsTo]

/-! ### What happens at one node -/

/-- Chains that are reached through the same client are the same. -/
theorem eq_of_client_eq (hclients : (r.registry.chains.map (·.client)).Nodup) {id id' : ChainId}
    {a b : Registration χ} (ha : r.registry.get? id = some a) (hb : r.registry.get? id' = some b)
    (h : a.client = b.client) : id = id' := by
  obtain ⟨hma, rfl⟩ := Registry.get?_eq_some_iff.mp ha
  obtain ⟨hmb, rfl⟩ := Registry.get?_eq_some_iff.mp hb
  rw [List.inj_on_of_nodup_map hclients hma hmb h]

/-- The client of a chain is the node of the logs for that chain only. -/
theorem isNodeOf_client_iff (hclients : (r.registry.chains.map (·.client)).Nodup) {id : ChainId}
    {destination : Registration χ} (hget : r.registry.get? id = some destination) (log : Log) :
    r.IsNodeOf log destination.client ↔ r.route? log = some id := by
  constructor
  · rintro ⟨id', destination', hroute, hget', hclient⟩
    rw [hroute, eq_of_client_eq hclients hget' hget hclient]
  · intro hroute
    exact ⟨id, destination, hroute, hget, rfl⟩

/-- A log for a chain is handled at that chain's client alone. -/
theorem handle_within_client {id : ChainId} {destination : Registration χ}
    (hget : r.registry.get? id = some destination) (hroute : r.route? log = some id) :
    (r.handle source log).Within (· = destination.client) (fun _ => True) := by
  refine handle_within.mono ?_ fun _ h => h
  rintro node ⟨id', destination', hroute', hget', rfl⟩
  obtain rfl : id = id' := Option.some.inj (hroute.symm.trans hroute')
  rw [Option.some.inj (hget.symm.trans hget')]

/-- While logs are handled, there happens at the client of a chain what happens there when the logs
for that chain are handled alone. -/
theorem run_drain_alone [DecidableEq χ] (hclients : (r.registry.chains.map (·.client)).Nodup)
    {id : ChainId} {destination : Registration χ} (hget : r.registry.get? id = some destination)
    (clients : Clients χ) (ss : List Sighting) (asked : χ → List Request) :
    let whole := (r.drain ss).run clients.environment asked
    let part := (r.drain (ss.filter fun s => r.route? s.log = some id)).run clients.alone
      (asked destination.client)
    part.1 = whole.1.filter (fun h => r.route? h.1.log = some id) ∧
      exchanges part.2.2 = (exchanges whole.2.2).filter (·.node = destination.client) := by
  induction ss generalizing asked with
  | nil => exact ⟨rfl, rfl⟩
  | cons s ss ih =>
    by_cases hroute : r.route? s.log = some id
    · -- The log is for the chain: both runs handle it, and at no other client.
      have hwithin : (r.handle s.chain s.log).Within (· = destination.client) (fun _ => True) :=
        handle_within_client hget hroute
      have hhandle := clients.run_alone hwithin asked
      obtain ⟨hresults, hexchanges⟩ :=
        ih ((r.handle s.chain s.log).run clients.environment asked).2.1
      rw [List.filter_cons_of_pos (by simpa using hroute)]
      simp only [run_drain_cons, hhandle]
      have hall : (exchanges ((r.handle s.chain s.log).run clients.environment asked).2.2).filter
          (·.node = destination.client) =
            exchanges ((r.handle s.chain s.log).run clients.environment asked).2.2 := by
        refine List.filter_eq_self.mpr fun e he => ?_
        simpa using hwithin.node_of_mem _ _ e he
      refine ⟨?_, ?_⟩
      · rw [List.filter_cons_of_pos (by simpa using hroute), hresults]
      · rw [exchanges_append, exchanges_append, List.filter_append, hexchanges, hall]
    · -- The log is for another chain or for none: the client hears nothing of it.
      have hother : ¬ r.IsNodeOf s.log destination.client := by
        rwa [isNodeOf_client_iff hclients hget]
      have hframe := clients.run_frame hother (handle_within : (r.handle s.chain s.log).Within _ _)
        asked
      obtain ⟨hresults, hexchanges⟩ :=
        ih ((r.handle s.chain s.log).run clients.environment asked).2.1
      rw [hframe] at hresults hexchanges
      rw [List.filter_cons_of_neg (by simpa using hroute)]
      simp only [run_drain_cons]
      have hnone : (exchanges ((r.handle s.chain s.log).run clients.environment asked).2.2).filter
          (·.node = destination.client) = [] := by
        refine List.filter_eq_nil_iff.mpr fun e he hnode => hother ?_
        have hnode' : e.node = destination.client := by simpa using hnode
        rw [← hnode']
        exact handle_within.node_of_mem _ _ e he
      refine ⟨?_, ?_⟩
      · rw [List.filter_cons_of_neg (by simpa using hroute), hresults]
      · rw [exchanges_append, List.filter_append, hexchanges, hnone, List.nil_append]

end Relayer

end CrossCall
