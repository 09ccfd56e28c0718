import Mathlib
import CrossCall.Proofs.Service.Topologies

/-!
# What becomes of every log

A log is handled by up to four calls at the node of its destination, and the error that ends its
handling tells after how many of them it came. Logs that are given up before the first call leave no
trace at the nodes, so that a queue without them is handled just like the queue with them. Every log
is counted twice, once when it comes in and once for what became of it, and so the counters of a
queue that is drained balance.

## Main definitions

* `callsMade` — after how many calls an outcome is known
* `Record`, `Relayer.records` — what became of each log of a queue
* `Record.TellsProgress` — an outcome and the calls for it determine how far a log got
* `Balanced` — counters that account for every log

## Main results

* `Relayer.tellsProgress_of_mem_records` — outcomes tell the calls that were made
* `Relayer.records_of_sublist` — what is given up early might as well not have come
* `Scene.accounts_of_finishes` — what the one worker leaves behind when the queue is drained
-/

namespace CrossCall

variable {χ σ : Type}

/-! ### How far a log gets -/

/-- The number of calls after which an outcome is known. -/
def callsMade : Except FulfillmentError Submission → Nat
  | .error (.unknownSourceChain _) | .error (.decode _) | .error (.validation _) => 0
  | .error (.gasEstimate _) => 1
  | .error (.gasPrice _) | .error (.rewardAssetNotNative _) | .error (.insufficientReward _ _) => 2
  | .error (.nonce _) => 3
  | .error (.submission _) | .ok _ => 4

/-- Whether an outcome is a rejection before any node is asked. -/
def isEarly : Except FulfillmentError Submission → Bool
  | .error e => e.stage = .decode || e.stage = .validate
  | .ok _ => false

theorem isEarly_iff {outcome : Except FulfillmentError Submission} :
    isEarly outcome = true ↔
      ∃ e, outcome = .error e ∧ (e.stage = .decode ∨ e.stage = .validate) := by
  cases outcome <;> simp [isEarly]

/-- The first call comes after decoding and validation. -/
theorem callsMade_eq_zero_iff {outcome : Except FulfillmentError Submission} :
    callsMade outcome = 0 ↔ isEarly outcome = true := by
  rcases outcome with (_ | _ | (_ | _ | _ | _ | _) | _ | _ | _ | _ | _ | _) | _ <;>
    simp [callsMade, isEarly, FulfillmentError.stage]

theorem callsMade_le (outcome : Except FulfillmentError Submission) : callsMade outcome ≤ 4 := by
  rcases outcome with (_ | _ | _ | _ | _ | _ | _ | _ | _) | _ <;> simp [callsMade]

theorem callsMade_of_requiredReward {attributes : Attributes} {value : Word} {fee : Fee}
    {e : FulfillmentError} (h : requiredReward attributes value fee = .error e) :
    callsMade (.error e) = 2 := by
  rw [requiredReward] at h
  by_cases hnative : attributes.rewardAsset = nativeAsset
  · rw [if_neg (not_not.mpr hnative)] at h
    by_cases hpaid : attributes.rewardAmount.toNat ≤ (saturatingAdd value fee.bound).toNat
    · rw [if_pos hpaid] at h
      cases h
      rfl
    · rw [if_neg hpaid] at h
      cases h
  · rw [if_pos hnative] at h
    cases h
    rfl

namespace Relayer

variable {env : Environment χ σ} {r : Relayer χ} {nodes : σ}

/-- The calls for a log, in order. -/
def callSequence (r : Relayer χ) (call : TransactionRequest) (raw : Bytes) : List Request :=
  [.estimateGas call, .gasPrice, .pendingNonce r.account.address, .sendRawTransaction raw]

/-- A fulfillment makes as many of its calls as its outcome tells, and at least one. -/
theorem Course.requests_eq {m : ValidMessage} {node : χ} {call : FulfillmentCall}
    {t : Except FulfillmentError Submission × σ × List (Exchange χ)}
    (h : Course env r m node call nodes t) :
    callsMade t.1 ≠ 0 ∧ ∃ raw, t.2.2.map (·.request) =
      (r.callSequence call.toRequest raw).take (callsMade t.1) := by
  cases h with
  | noEstimate => exact ⟨by simp [callsMade], [], rfl⟩
  | noPrice => exact ⟨by simp [callsMade], [], rfl⟩
  | unpaid _ _ reward =>
    rw [callsMade_of_requiredReward reward]
    exact ⟨by decide, [], rfl⟩
  | noNonce => exact ⟨by simp [callsMade], [], rfl⟩
  | @sent _ _ _ _ answer =>
    -- The last call is made before its answer tells a submission from a failed one.
    cases answer <;> exact ⟨by simp [callsMade, Except.mapError, Except.map], _, rfl⟩

/-- A log is given up before any node is asked, or its message takes one of the ways. -/
theorem early_or_course (source : ChainId) (log : Log) :
    (∃ e, isEarly (.error e) = true ∧
        (r.handle source log).talk env nodes = (.error e, nodes, [])) ∨
      ∃ m destination call, r.route? log = some m.message.destinationId ∧
        r.registry.get? m.message.destinationId = some destination ∧
        Course env r m destination.client call nodes ((r.handle source log).talk env nodes) := by
  rw [talk_handle]
  cases hparse : r.parse source log with
  | error e => exact .inl ⟨e, isEarly_iff.mpr ⟨e, rfl, stage_of_parse_eq_error hparse⟩, rfl⟩
  | ok m =>
    obtain ⟨_, destination, _, _, hlog, hget, _⟩ := parse_eq_ok_iff.mp hparse
    cases hcall : FulfillmentCall.ofMessage m destination.endpoint r.account.address with
    | error e => exact .inl ⟨.decode e, rfl, talk_fulfill_of_ofMessage_eq_error hget hcall⟩
    | ok call =>
      exact .inr ⟨m, destination, call, route?_of_decodeLog hlog hget, hget,
        course_fulfill hget hcall⟩

end Relayer

/-! ### The record of a queue -/

/-- What became of a log, and the calls that were made for it. -/
structure Record (χ : Type) where
  sighting : Sighting
  outcome : Except FulfillmentError Submission
  calls : List (Exchange χ)

/-- The outcome of a record. -/
def Record.handled (x : Record χ) : Handled := (x.sighting, x.outcome)

/-- What becomes of a log that is handled when the nodes are in a given state. -/
def Relayer.record (r : Relayer χ) (env : Environment χ σ) (s : Sighting) (nodes : σ) :
    Record χ where
  sighting := s
  outcome := ((r.handle s.chain s.log).talk env nodes).1
  calls := ((r.handle s.chain s.log).talk env nodes).2.2

/-- What becomes of the logs of a queue. -/
def Relayer.records (r : Relayer χ) (env : Environment χ σ) : List Sighting → σ → List (Record χ)
  | [], _ => []
  | s :: ss, nodes =>
    r.record env s nodes :: r.records env ss ((r.handle s.chain s.log).talk env nodes).2.1

/-- A log's calls are the first of the sequence, made at the node of its destination, and their
number and its outcome tell each other. -/
structure Record.TellsProgress (r : Relayer χ) (x : Record χ) : Prop where
  node : ∀ e ∈ x.calls, r.IsNodeOf x.sighting.log e.node
  order : ∃ call raw, x.calls.map (·.request) <+: r.callSequence call raw
  none_iff : x.calls.length = 0 ↔
    ∃ e, x.outcome = .error e ∧ (e.stage = .decode ∨ e.stage = .validate)
  one_iff : x.calls.length = 1 ↔ ∃ cause, x.outcome = .error (.gasEstimate cause)
  two_iff : x.calls.length = 2 ↔
    (∃ cause, x.outcome = .error (.gasPrice cause)) ∨
      (∃ asset, x.outcome = .error (.rewardAssetNotNative asset)) ∨
      ∃ required provided, x.outcome = .error (.insufficientReward required provided)
  three_iff : x.calls.length = 3 ↔ ∃ cause, x.outcome = .error (.nonce cause)
  four_iff : x.calls.length = 4 ↔
    (∃ cause, x.outcome = .error (.submission cause)) ∨ ∃ submission, x.outcome = .ok submission

theorem Record.tellsProgress_of_length {r : Relayer χ} {x : Record χ}
    (node : ∀ e ∈ x.calls, r.IsNodeOf x.sighting.log e.node)
    (order : ∃ call raw, x.calls.map (·.request) <+: r.callSequence call raw)
    (h : x.calls.length = callsMade x.outcome) : x.TellsProgress r := by
  refine ⟨node, order, ?_, ?_, ?_, ?_, ?_⟩
  · rw [h, callsMade_eq_zero_iff, isEarly_iff]
  all_goals
    rw [h]
    rcases x.outcome with (_ | _ | _ | _ | _ | _ | _ | _ | _) | _ <;> simp [callsMade]

namespace Relayer

variable {env : Environment χ σ} {r : Relayer χ} {nodes : σ}

/-- What is given up early leaves the nodes as they were. -/
theorem nodes_eq_of_isEarly {s : Sighting} (h : isEarly (r.record env s nodes).outcome = true) :
    ((r.handle s.chain s.log).talk env nodes).2.1 = nodes := by
  rcases early_or_course s.chain s.log with
    ⟨e, -, htalk⟩ | ⟨m, destination, call, -, -, hcourse⟩
  · rw [htalk]
  · exact absurd (callsMade_eq_zero_iff.mpr h) hcourse.requests_eq.1

theorem tellsProgress_record (s : Sighting) : (r.record env s nodes).TellsProgress r := by
  rw [record]
  rcases early_or_course s.chain s.log with
    ⟨e, hearly, htalk⟩ | ⟨m, destination, call, hroute, hget, hcourse⟩
  · rw [htalk]
    refine Record.tellsProgress_of_length (by simp) ⟨{}, [], ?_⟩ ?_
    · exact List.nil_prefix
    · exact (callsMade_eq_zero_iff.mpr hearly).symm
  · obtain ⟨-, raw, hrequests⟩ := hcourse.requests_eq
    refine Record.tellsProgress_of_length ?_ ⟨call.toRequest, raw, ?_⟩ ?_
    · intro e he
      exact ⟨_, destination, hroute, hget, (hcourse.request_of_mem he).1.symm⟩
    · rw [hrequests]
      exact List.take_prefix _ _
    · have hlength := congrArg List.length hrequests
      rw [List.length_map, List.length_take] at hlength
      rw [hlength]
      exact min_eq_left (callsMade_le _)

theorem tellsProgress_of_mem_records {ss : List Sighting} {x : Record χ}
    (h : x ∈ r.records env ss nodes) : x.TellsProgress r := by
  induction ss generalizing nodes with
  | nil => cases h
  | cons s ss ih =>
    rcases List.mem_cons.mp h with rfl | h
    · exact tellsProgress_record s
    · exact ih h

/-! ### The record and the run -/

theorem map_handled_records (ss : List Sighting) :
    (r.records env ss nodes).map Record.handled = ((r.drain ss).run env nodes).1 := by
  induction ss generalizing nodes with
  | nil => rfl
  | cons s ss ih =>
    rw [run_drain_cons, records, List.map_cons, ih]
    rfl

theorem flatMap_calls_records (ss : List Sighting) :
    (r.records env ss nodes).flatMap (·.calls) =
      exchanges ((r.drain ss).run env nodes).2.2 := by
  induction ss generalizing nodes with
  | nil => rfl
  | cons s ss ih =>
    rw [run_drain_cons, records, List.flatMap_cons, ih, exchanges_append]
    rfl

/-- Logs that are given up early can be left out of a queue, and nothing else becomes of the others:
neither an outcome nor a call for them is another. -/
theorem records_of_sublist {ss : List Sighting} {kept : List (Record χ)}
    (hkept : kept.Sublist (r.records env ss nodes))
    (hlate : kept.filter (fun x => !isEarly x.outcome) =
      (r.records env ss nodes).filter fun x => !isEarly x.outcome) :
    r.records env (kept.map (·.sighting)) nodes = kept := by
  induction ss generalizing nodes kept with
  | nil =>
    obtain rfl : kept = [] := List.sublist_nil.mp hkept
    rfl
  | cons s ss ih =>
    rw [records] at hkept hlate
    rcases List.sublist_cons_iff.mp hkept with hkept | ⟨rest, rfl, hrest⟩
    · -- The first log is left out, so it was given up early and left the nodes as they were.
      have hearly : isEarly (r.record env s nodes).outcome = true := by
        by_contra hnot
        have hlength := congrArg List.length hlate
        rw [List.filter_cons_of_pos (by simpa using hnot), List.length_cons] at hlength
        have hle := (hkept.filter fun x => !isEarly x.outcome).length_le
        omega
      rw [List.filter_cons_of_neg (by simpa using hearly)] at hlate
      rw [nodes_eq_of_isEarly hearly] at hkept hlate
      exact ih hkept hlate
    · -- The first log is kept and handled as before; the others start from the same state.
      have hlate' : rest.filter (fun x => !isEarly x.outcome) =
          (r.records env ss ((r.handle s.chain s.log).talk env nodes).2.1).filter
            fun x => !isEarly x.outcome := by
        by_cases hearly : isEarly (r.record env s nodes).outcome = true
        · rwa [List.filter_cons_of_neg (by simpa using hearly),
            List.filter_cons_of_neg (by simpa using hearly)] at hlate
        · rw [List.filter_cons_of_pos (by simpa using hearly),
            List.filter_cons_of_pos (by simpa using hearly)] at hlate
          exact (List.cons.inj hlate).2
      rw [List.map_cons, records]
      exact congrArg _ (ih hrest hlate')

end Relayer

/-! ### The counters -/

/-- Whether an outcome is a rejection at a stage. -/
def isRejectedAt (stage : Stage) : Except FulfillmentError Submission → Bool
  | .error e => e.stage = stage
  | .ok _ => false

/-- Whether an outcome is a submission. -/
def isSubmission : Except FulfillmentError Submission → Bool
  | .error _ => false
  | .ok _ => true

/-- Counters that account for every log of a queue: each was received, and was either rejected at a
stage or submitted to a registered chain, with a sample of its duration. -/
structure Balanced (r : Relayer χ) (handled : List Handled) (events : List (Event χ)) : Prop where
  received : measured .received events = handled.length
  rejected : ∀ stage, measured (.rejected stage) events =
    handled.countP fun h => isRejectedAt stage h.2
  submitted : ∀ chain, measured (.submitted chain) events = (submissionsTo chain handled).length
  duration : measured .duration events = handled.countP fun h => isSubmission h.2
  received_eq : measured .received events =
    (Stage.all.map fun stage => measured (.rejected stage) events).sum +
      (r.registry.ids.map fun chain => measured (.submitted chain) events).sum
  duration_eq : measured .duration events =
    (r.registry.ids.map fun chain => measured (.submitted chain) events).sum

theorem sum_map_indicator {α : Type} (p : α → Bool) (as : List α) :
    (as.map fun a => if p a then 1 else 0).sum = as.countP p := by
  induction as with
  | nil => rfl
  | cons a as ih => rw [List.map_cons, List.sum_cons, ih, List.countP_cons, Nat.add_comm]

theorem sum_handlingAmount_rejected (stage : Stage) (handled : List Handled) :
    (handled.map fun h => Relayer.handlingAmount (.rejected stage) h.2).sum =
      handled.countP fun h => isRejectedAt stage h.2 := by
  rw [← sum_map_indicator]
  congr 2
  funext h
  cases h.2 <;> simp [Relayer.handlingAmount, Relayer.outcomeAmount, isRejectedAt]

theorem sum_handlingAmount_duration (handled : List Handled) :
    (handled.map fun h => Relayer.handlingAmount .duration h.2).sum =
      handled.countP fun h => isSubmission h.2 := by
  rw [← sum_map_indicator]
  congr 2
  funext h
  cases h.2 <;> simp [Relayer.handlingAmount, Relayer.outcomeAmount, isSubmission]

/-- A log that is not submitted was rejected at one of the stages. -/
theorem length_eq_sum_rejected (handled : List Handled) :
    handled.length =
      (Stage.all.map fun stage => handled.countP fun h => isRejectedAt stage h.2).sum +
        handled.countP fun h => isSubmission h.2 := by
  induction handled with
  | nil => rfl
  | cons h hs ih =>
    -- An outcome counts once: an error at its one stage, a submission at none.
    have hone : (Stage.all.map fun stage => if isRejectedAt stage h.2 then 1 else 0).sum +
        (if isSubmission h.2 then 1 else 0) = 1 := by
      cases h.2 with
      | error e => cases hstage : e.stage <;> simp [Stage.all, isRejectedAt, isSubmission, hstage]
      | ok submission => simp [Stage.all, isRejectedAt, isSubmission]
    simp only [List.countP_cons, List.sum_map_add, List.length_cons]
    omega

/-- A log that is submitted is submitted to one of the registered chains. -/
theorem countP_isSubmission_eq_sum {ids : List ChainId} (hids : ids.Nodup) {handled : List Handled}
    (hregistered : ∀ h ∈ handled, ∀ submission, h.2 = .ok submission →
      submission.destination ∈ ids) :
    (handled.countP fun h => isSubmission h.2) =
      (ids.map fun chain => (submissionsTo chain handled).length).sum := by
  induction handled with
  | nil => simp [submissionsTo]
  | cons h hs ih =>
    obtain ⟨s, outcome⟩ := h
    rw [List.countP_cons, ih fun h hh => hregistered h (List.mem_cons_of_mem _ hh)]
    cases outcome with
    | error e => simp [submissionsTo, isSubmission]
    | ok submission =>
      -- Among the registered ids, the destination stands once.
      have hone : (ids.map fun chain => if submission.destination = chain then 1 else 0).sum = 1 := by
        have hmem := hregistered _ List.mem_cons_self submission rfl
        have hcount := sum_map_indicator (fun chain => decide (submission.destination = chain)) ids
        simp only [decide_eq_true_eq] at hcount
        rw [hcount, ← List.count_eq_one_of_mem hids hmem, List.count]
        congr 1
        funext chain
        grind
      have hlength : ∀ chain, (submissionsTo chain ((s, .ok submission) :: hs)).length =
          (submissionsTo chain hs).length + if submission.destination = chain then 1 else 0 := by
        intro chain
        by_cases hchain : submission.destination = chain <;> simp [submissionsTo, hchain]
      simp only [hlength, List.sum_map_add, hone, isSubmission, if_true]

/-- Counters that add up what the handling of each log adds are balanced. -/
theorem Balanced.of_amounts {r : Relayer χ} {handled : List Handled} {events : List (Event χ)}
    (hamounts : ∀ series, measured series events =
      (handled.map fun h => Relayer.handlingAmount series h.2).sum)
    (hregistered : ∀ h ∈ handled, ∀ submission, h.2 = .ok submission →
      submission.destination ∈ r.registry.ids) :
    Balanced r handled events := by
  have hsubmitted : ∀ chain, measured (.submitted chain) events =
      (submissionsTo chain handled).length := fun chain =>
    (hamounts _).trans (Relayer.sum_handlingAmount_submitted chain handled)
  have hrejected : ∀ stage, measured (.rejected stage) events =
      handled.countP fun h => isRejectedAt stage h.2 := fun stage =>
    (hamounts _).trans (sum_handlingAmount_rejected stage handled)
  have hduration : measured .duration events = handled.countP fun h => isSubmission h.2 :=
    (hamounts _).trans (sum_handlingAmount_duration handled)
  have hreceived : measured .received events = handled.length :=
    (hamounts _).trans (Relayer.sum_handlingAmount_received handled)
  have hsum := countP_isSubmission_eq_sum r.registry.nodup_ids hregistered
  refine ⟨hreceived, hrejected, hsubmitted, hduration, ?_, ?_⟩
  · simp only [hrejected, hsubmitted]
    rw [hreceived, length_eq_sum_rejected, hsum]
  · simp only [hsubmitted]
    rw [hduration, hsum]

/-- What is submitted is submitted to a registered chain. -/
theorem Relayer.mem_ids_of_mem_drain {r : Relayer χ} {env : Environment χ σ} {ss : List Sighting}
    {nodes : σ} {h : Handled} (hmem : h ∈ ((r.drain ss).run env nodes).1) {submission : Submission}
    (hok : h.2 = .ok submission) : submission.destination ∈ r.registry.ids := by
  obtain ⟨nodes', hrun⟩ := exists_run_of_mem_drain hmem
  exact Service.mem_ids_of_route? (route?_of_handle_eq_ok (hrun.symm.trans hok))

/-! ### One worker -/

namespace Service

/-- What the one worker leaves behind when a queue is drained: a record of every log, counters that
balance, and nothing that would be otherwise without the logs that were given up early. -/
structure Scene.Accounts (env : Environment χ σ) (r : Relayer χ) (feed : List Sighting) (nodes : σ)
    (turns : List (Turn χ)) : Prop where
  handled : handledIn turns = (r.records env feed nodes).map Record.handled
  exchanges : exchanges (eventsIn turns) = (r.records env feed nodes).flatMap (·.calls)
  progress : ∀ x ∈ r.records env feed nodes, x.TellsProgress r
  length : (handledIn turns).length = feed.length
  balanced : Balanced r (handledIn turns) (eventsIn turns)
  thinned : ∀ kept : List (Record χ), kept.Sublist (r.records env feed nodes) →
    (kept.filter fun x => !isEarly x.outcome) =
      ((r.records env feed nodes).filter fun x => !isEarly x.outcome) →
    r.records env (kept.map (·.sighting)) nodes = kept

/-- Whatever the one worker is interrupted by, in the end every log of the queue is accounted for. -/
theorem Scene.accounts_of_finishes {env : Environment χ σ} {r : Relayer χ}
    (hcalm : ∀ s, env.cancelled s = false ∧ env.breaks s = false) {capacity : Nat}
    {feed : List Sighting} {nodes : σ} {turns : List (Turn χ)}
    (hturns : Finishes env r .single capacity feed nodes turns) :
    Accounts env r feed nodes turns := by
  -- The one worker does what draining the queue does, so that all is read off the drain.
  obtain ⟨hhandled, hfacts⟩ := follow_single hcalm hturns
  have hamounts : ∀ series, measured series (eventsIn turns) =
      ((handledIn turns).map fun h => Relayer.handlingAmount series h.2).sum := by
    intro series
    rw [← measured_facts, hfacts, measured_facts, hhandled, Relayer.measured_drain]
  refine ⟨?_, ?_, fun x => Relayer.tellsProgress_of_mem_records, ?_, ?_,
    fun kept => Relayer.records_of_sublist⟩
  · rw [hhandled, Relayer.map_handled_records]
  · rw [← exchanges_facts, hfacts, exchanges_facts, Relayer.flatMap_calls_records]
  · rw [hhandled, Relayer.length_drain]
  · refine .of_amounts hamounts fun h hh submission hok => ?_
    rw [hhandled] at hh
    exact Relayer.mem_ids_of_mem_drain hh hok

/-- The message is submitted after four calls, and the log that cannot be read is rejected without
one. -/
theorem TwoChains.accounts_of_oneMoves :
    ∃ turns, Scene.Finishes clients.environment relayer .single 1 feed (fun _ => []) turns ∧
      (CrossCall.exchanges (eventsIn turns)).length = 4 ∧
      Scene.Accounts clients.environment relayer feed (fun _ => []) turns := by
  have hmoves : (((Scene.start relayer .single 1 feed fun _ => []).follow clients.environment
      oneMoves).any fun t => t.2.isOver && (CrossCall.exchanges (eventsIn t.1)).length == 4) =
        true := by decide +kernel
  obtain ⟨⟨turns, x⟩, hfollow, hover⟩ := (Option.any_eq_true _ _).mp hmoves
  simp only [Bool.and_eq_true, beq_iff_eq] at hover
  have hfinishes : Scene.Finishes clients.environment relayer .single 1 feed (fun _ => []) turns :=
    ⟨oneMoves, x, hfollow, hover.1⟩
  exact ⟨turns, hfinishes, hover.2, Scene.accounts_of_finishes (fun _ => ⟨rfl, rfl⟩) hfinishes⟩

end Service

end CrossCall
