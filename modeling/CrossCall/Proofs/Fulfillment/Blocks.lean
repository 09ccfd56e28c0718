import Mathlib
import CrossCall.Proofs.Node.Traces
import CrossCall.Proofs.Service.Lanes

/-!
# What is said about one log

A log is handled without a look at whether the service has been cancelled. So what a node is told
about it is the beginning of what is said in one run of the whole way, and all of it once the
handling has come to its end. In it a transaction is sent right after the nonce that it carries has
been asked for.

## Main definitions

* `Relayer.IsRun` — what is said in a whole handling of a log
* `Request.isFulfillment` — the questions of a fulfillment
* `Relayer.SendsNext` — every transaction directly follows the answer with its nonce

## Main results

* `Relayer.heedless_handle` — the handling of a log is not cut short
* `Relayer.IsRun.of_mem` — with whom and about what is talked
* `Relayer.IsRun.sendsNext` — a transaction carries the nonce that was answered right before it
-/

namespace CrossCall

variable {χ : Type}

namespace Relayer

open Session

variable {r : Relayer χ}

theorem heedless_fulfill (m : ValidMessage) : (r.fulfill m).run.Heedless := by
  rw [fulfill]
  split
  · trivial
  · rename_i destination hget
    simp only [Fee.quote, submit]
    refine (heedless_lift _).bindExcept fun call => ?_
    refine (heedless_report _ _ _).bindExcept fun _ => ?_
    refine Heedless.bindExcept ?_ fun fee => ?_
    · refine (heedless_query _ _ _).bindExcept fun _ => ?_
      exact (heedless_query _ _ _).bindExcept fun _ => trivial
    refine (heedless_report _ _ _).bindExcept fun _ => ?_
    refine (heedless_lift _).bindExcept fun required => ?_
    refine (heedless_report _ _ _).bindExcept fun _ => ?_
    refine Heedless.bindExcept ?_ fun transactionHash => ?_
    · exact (heedless_query _ _ _).bindExcept fun _ => heedless_query _ _ _
    exact (heedless_report _ _ _).bindExcept fun _ => trivial

/-- The handling of a log is not cut short. -/
theorem heedless_handle (source : ChainId) (log : Log) : (r.handle source log).Heedless := by
  have hattempt : (r.attempt source log).run.Heedless := by
    refine (heedless_lift _).bindExcept fun m => ?_
    exact (heedless_report _ _ _).bindExcept fun _ => heedless_fulfill m
  have hcount : ∀ outcome, (countOutcome outcome : Session χ Unit).Heedless := by
    intro outcome
    cases outcome <;> trivial
  refine Heedless.bind trivial fun _ => hattempt.bind fun outcome => ?_
  exact (hcount outcome).bind fun _ => trivial

/-- The exchanges of a whole handling of a log. -/
def IsRun (r : Relayer χ) (s : Sighting) (es : List (Exchange χ)) : Prop :=
  ∃ (env : Environment χ (List (Exchange χ))) (nodes nodes' : List (Exchange χ))
    (outcome : Except FulfillmentError Submission),
    (r.handle s.chain s.log).talk env nodes = (outcome, nodes', es)

theorem isRun_of_leads {s : Sighting} {es : List (Exchange χ)}
    {outcome : Except FulfillmentError Submission}
    (h : (r.handle s.chain s.log).Leads es (.done outcome)) : r.IsRun s es := by
  have htalk := h.talk_replay (heedless_handle s.chain s.log) []
  exact ⟨_, _, _, _, htalk⟩

/-- What has been said so far in the handling of a log can be brought to an end. -/
theorem exists_isRun_of_leads {s : Sighting} {es : List (Exchange χ)}
    {rest : Session χ (Except FulfillmentError Submission)}
    (h : (r.handle s.chain s.log).Leads es rest) : ∃ more, r.IsRun s (es ++ more) := by
  obtain ⟨more, outcome, hmore⟩ := rest.exists_leads_done
  exact ⟨more, isRun_of_leads (h.trans hmore)⟩

end Relayer

/-- Whether a question is one of those that are asked for a fulfillment. -/
def Request.isFulfillment : Request → Bool
  | estimateGas _ | gasPrice | pendingNonce _ | sendRawTransaction _ => true
  | _ => false

namespace Relayer

variable {r : Relayer χ} {s : Sighting} {id : ChainId} {e : Exchange χ} {es es' : List (Exchange χ)}

/-- For a log only the client of its destination is asked, and only for the fulfillment. -/
theorem IsRun.of_mem (h : r.IsRun s es) (he : e ∈ es) :
    e.request.isFulfillment = true ∧
      ∃ id, r.route? s.log = some id ∧ Service.IsClientOf r id e.node := by
  obtain ⟨env, nodes, nodes', outcome, htalk⟩ := h
  have hmem : e ∈ ((r.handle s.chain s.log).talk env nodes).2.2 := by rwa [htalk]
  obtain ⟨m, destination, call, hparse, hget, -, hcourse⟩ := exists_course_of_mem hmem
  obtain ⟨_, _, _, _, hlog, -, -⟩ := parse_eq_ok_iff.mp hparse
  obtain ⟨hnode, hrequest⟩ := hcourse.request_of_mem hmem
  refine ⟨?_, _, route?_of_decodeLog hlog hget, destination, hget, hnode.symm⟩
  rcases hrequest with h | h | h | ⟨fee, n, h⟩ <;> rw [h] <;> rfl

/-! ### Transactions and their nonces -/

/-- Every transaction for a chain directly follows the answer with the nonce that it carries. -/
def SendsNext (r : Relayer χ) (id : ChainId) (es : List (Exchange χ)) : Prop :=
  ∀ before e after raw, es = before ++ e :: after → e.request = .sendRawTransaction raw →
    ∃ (before' : List (Exchange χ)) (n : BitVec 64) (tx : LegacyTransaction),
      before = before' ++ [⟨e.node, .pendingNonce r.account.address, .ok n⟩] ∧
        tx.chainId = id ∧ tx.nonce = n ∧ raw = tx.sign r.account.key

theorem sendsNext_of_quiet (h : ∀ e ∈ es, ∀ raw, e.request ≠ .sendRawTransaction raw) :
    r.SendsNext id es := by
  rintro before e after raw rfl hraw
  exact absurd hraw (h e (List.mem_append_right _ List.mem_cons_self) raw)

theorem SendsNext.append (h : r.SendsNext id es) (h' : r.SendsNext id es') :
    r.SendsNext id (es ++ es') := by
  intro before e after raw hes hraw
  rcases List.append_eq_append_iff.mp hes with ⟨between, rfl, hes'⟩ | ⟨between, rfl, hes'⟩
  · -- The transaction is in the second list, and so is the answer before it.
    obtain ⟨before', n, tx, rfl, htx⟩ := h' between e after raw hes' hraw
    exact ⟨es ++ before', n, tx, (List.append_assoc ..).symm, htx⟩
  · cases between with
    | nil =>
      obtain ⟨before', n, tx, hnil, -⟩ := h' [] e after raw hes'.symm hraw
      exact absurd hnil (by simp)
    | cons e' between =>
      obtain ⟨rfl, rfl⟩ := List.cons.inj hes'
      exact h before e between raw rfl hraw

theorem SendsNext.of_append (h : r.SendsNext id (es ++ es')) : r.SendsNext id es := by
  rintro before e after raw rfl hraw
  exact h before e (after ++ es') raw (by simp) hraw

theorem Course.sendsNext {σ : Type} {env : Environment χ σ} {m : ValidMessage} {node : χ}
    {call : FulfillmentCall} {nodes : σ}
    {t : Except FulfillmentError Submission × σ × List (Exchange χ)}
    (h : Course env r m node call nodes t) : r.SendsNext m.message.destinationId t.2.2 := by
  cases h with
  | noEstimate | noPrice | unpaid | noNonce =>
    refine sendsNext_of_quiet fun e he raw hraw => ?_
    simp only [List.mem_cons, List.not_mem_nil, or_false] at he
    rcases he with rfl | rfl | rfl <;> cases hraw
  | @sent gas gasPrice required n answer =>
    intro before e after raw hes hraw
    -- Of the four exchanges only the last one sends something.
    rcases before with _ | ⟨e₁, _ | ⟨e₂, _ | ⟨e₃, _ | ⟨e₄, before⟩⟩⟩⟩
    · cases hes
      cases hraw
    · cases hes
      cases hraw
    · cases hes
      cases hraw
    · cases hes
      cases hraw
      exact ⟨[_, _], n, _, rfl, rfl, rfl, rfl⟩
    · simp at hes

/-- In the handling of a log a transaction directly follows the answer with its nonce. -/
theorem IsRun.sendsNext (h : r.IsRun s es) (hroute : r.route? s.log = some id) :
    r.SendsNext id es := by
  cases es with
  | nil => exact sendsNext_of_quiet (by simp)
  | cons e es =>
    obtain ⟨env, nodes, nodes', outcome, htalk⟩ := h
    have hmem : e ∈ ((r.handle s.chain s.log).talk env nodes).2.2 := by
      rw [htalk]
      exact List.mem_cons_self
    obtain ⟨m, destination, call, hparse, hget, -, hcourse⟩ := exists_course_of_mem hmem
    obtain ⟨_, _, _, _, hlog, -, -⟩ := parse_eq_ok_iff.mp hparse
    obtain rfl : m.message.destinationId = id :=
      Option.some.inj ((route?_of_decodeLog hlog hget).symm.trans hroute)
    have hsends := hcourse.sendsNext
    rwa [htalk] at hsends

end Relayer

end CrossCall
