import Mathlib
import CrossCall.Service.System

/-!
# What a step can do

A task moves in one of few ways, and each of them says all that becomes of the task, its queues, the
nodes, and what others notice. The invariants of the service are proved from these, so that none of
them opens the steps again.

## Main definitions

* `Worker.Moves`, `Router.Moves` — the ways in which a worker and the router move
* `System.Moves` — the ways in which the service moves

## Main results

* `Worker.moves_of_step`, `Router.moves_of_step`, `System.moves_of_step` — every step is one of them
-/

namespace CrossCall.Service

variable {χ σ : Type}

/-! ### Queues -/

theorem eq_of_put {q q' : Queue} {s : Sighting} (h : q.put s = .queued q') :
    q' = { q with items := q.items ++ [s] } ∧ q.hasReader = true := by
  rw [Queue.put] at h
  cases hreader : q.hasReader with
  | false => simp [hreader] at h
  | true =>
    simp only [hreader, Bool.not_true, Bool.false_eq_true, if_false] at h
    split at h
    · cases h
      exact ⟨rfl, rfl⟩
    · cases h

theorem eq_of_take {q q' : Queue} {s : Sighting} (h : q.take = .taken s q') :
    q = { q' with items := s :: q'.items } := by
  rw [Queue.take] at h
  split at h
  · rename_i s' items hitems
    cases h
    rw [← hitems]
  · split at h <;> cases h

theorem of_take_eq_ended {q : Queue} (h : q.take = .ended) : q.items = [] ∧ q.writers = 0 := by
  rw [Queue.take] at h
  split at h
  · cases h
  · rename_i hitems
    split at h
    · rename_i hwriters
      exact ⟨hitems, hwriters⟩
    · cases h

theorem of_put_eq_closed {q : Queue} {s : Sighting} (h : q.put s = .closed) :
    q.hasReader = false := by
  rw [Queue.put] at h
  cases hreader : q.hasReader with
  | false => rfl
  | true =>
    simp only [hreader, Bool.not_true, Bool.false_eq_true, if_false] at h
    split at h <;> cases h

/-! ### Workers -/

/-- The ways in which a worker moves that reads from a queue. -/
inductive Worker.Moves (env : Environment χ σ) (relayer : Relayer χ) (cancelled : Bool) (q : Queue)
    (nodes : σ) : Worker χ → Outcome χ σ (Worker χ × Queue) → Prop
  | closed (take : q.take = .ended) :
      Moves env relayer cancelled q nodes .waiting
        { task := (.ended, q.abandon), nodes
          happenings := [.line .info "filler::fulfillment"
            "Fulfillment queue closed, stopping FulfillmentActor"] }
  | took {s : Sighting} {q' : Queue} (take : q.take = .taken s q') :
      Moves env relayer cancelled q nodes .waiting
        { task := (.handling s (relayer.handle s.chain s.log), q'), nodes
          happenings := [.handed s] }
  | stopped (stop : cancelled = true) :
      Moves env relayer cancelled q nodes .waiting
        { task := (.ended, q.abandon), nodes
          happenings := [.line .info "filler::fulfillment"
            "FulfillmentActor cancellation requested, stopping..."] }
  | fulfilled {s : Sighting} {submission : Submission} :
      Moves env relayer cancelled q nodes (.handling s (.done (.ok submission)))
        { task := (.waiting, q), nodes
          happenings := [.line .debug "filler::fulfillment" "Message fulfilled"] }
  | rejected {s : Sighting} {e : FulfillmentError} :
      Moves env relayer cancelled q nodes (.handling s (.done (.error e)))
        { task := (.waiting, q), nodes }
  | asked {s : Sighting} {node : χ} {request : Request}
      {next : Except ClientError request.Answer →
        Session χ (Except FulfillmentError Submission)}
      (unbroken : env.breaks (env.answer nodes node request).2 = false) :
      Moves env relayer cancelled q nodes (.handling s (.ask node request next))
        { task := (.handling s (next (env.answer nodes node request).1), q)
          nodes := (env.answer nodes node request).2
          happenings := [.event (.exchange ⟨node, request, (env.answer nodes node request).1⟩)] }
  | broke {s : Sighting} {node : χ} {request : Request}
      {next : Except ClientError request.Answer →
        Session χ (Except FulfillmentError Submission)}
      (breaks : env.breaks (env.answer nodes node request).2 = true) :
      Moves env relayer cancelled q nodes (.handling s (.ask node request next))
        { task := (.broken, q.abandon)
          nodes := (env.answer nodes node request).2
          happenings := [.event (.exchange ⟨node, request, (env.answer nodes node request).1⟩)] }
  | looked {s : Sighting} {next : Bool → Session χ (Except FulfillmentError Submission)} :
      Moves env relayer cancelled q nodes (.handling s (.cancelled next))
        { task := (.handling s (next cancelled), q), nodes }
  | noted {s : Sighting} {n : Note} {next : Session χ (Except FulfillmentError Submission)} :
      Moves env relayer cancelled q nodes (.handling s (.note n next))
        { task := (.handling s next, q), nodes, happenings := [.event (.note n)] }

theorem Worker.moves_of_step {env : Environment χ σ} {relayer : Relayer χ} {cancelled : Bool}
    {notice : Notice} {w : Worker χ} {q : Queue} {nodes : σ} {o : Outcome χ σ (Worker χ × Queue)}
    (h : w.step env relayer cancelled notice q nodes = some o) :
    Worker.Moves env relayer cancelled q nodes w o := by
  cases w with
  | ended => cases h
  | broken => cases h
  | handling s rest =>
    cases h
    cases rest with
    | done outcome =>
      cases outcome with
      | error e => exact .rejected
      | ok submission => exact .fulfilled
    | ask node request next =>
      cases hbreaks : env.breaks (env.answer nodes node request).2 with
      | false => simpa [advance, ask, hbreaks] using .asked hbreaks
      | true => simpa [advance, ask, hbreaks] using .broke hbreaks
    | cancelled next => exact .looked
    | note n next => exact .noted
  | waiting =>
    -- Whether a cancellation is noticed first or last, the worker then ends in the same way.
    have hstop : ∀ {o : Outcome χ σ (Worker χ × Queue)},
        (if cancelled then some
          { task := (ended, q.abandon), nodes
            happenings :=
              [.line .info "filler::fulfillment"
                "FulfillmentActor cancellation requested, stopping..."] } else none) = some o →
        Worker.Moves env relayer cancelled q nodes .waiting o := by
      intro o ho
      cases hc : cancelled with
      | false => simp [hc] at ho
      | true =>
        simp only [hc, if_true, Option.some.injEq] at ho
        subst ho
        exact .stopped rfl
    rw [step] at h
    split at h
    · rename_i outcome hfetch
      cases h
      split at hfetch
      · cases hfetch
      · rw [fetch] at hfetch
        cases htake : q.take with
        | empty => simp [htake] at hfetch
        | ended =>
          simp only [htake, Option.some.injEq] at hfetch
          subst hfetch
          exact .closed htake
        | taken s q' =>
          simp only [htake, Option.some.injEq] at hfetch
          subst hfetch
          exact .took htake
    · exact hstop h

/-- A worker does not change who writes to its queue. -/
theorem Worker.Moves.writers_eq {env : Environment χ σ} {relayer : Relayer χ} {cancelled : Bool}
    {q : Queue} {nodes : σ} {w : Worker χ} {o : Outcome χ σ (Worker χ × Queue)}
    (h : w.Moves env relayer cancelled q nodes o) : o.task.2.writers = q.writers := by
  cases h with
  | took take =>
    rw [eq_of_take take]
  | closed | stopped | fulfilled | rejected | asked | broke | looked | noted => rfl

/-! ### The router -/

namespace Router

/-- Where the router sends a log, if it can be read and its destination has a lane. -/
def route? (routes : Routes χ) (s : Sighting) : Option ChainId :=
  match PostedMessage.decodeLog s.log with
  | .error _ => none
  | .ok m => if (routes.queue? m.destinationId).isSome then some m.destinationId else none

/-- The ways in which the router moves. -/
inductive Moves (cancelled : Bool) (routes : Routes χ) (nodes : σ) :
    Router → Outcome χ σ (Router × Routes χ) → Prop
  | closed (take : routes.shared.take = .ended) :
      Moves cancelled routes nodes .waiting
        { task := (.ended, routes.leave), nodes
          happenings := [line .info "Shared queue closed, stopping Dispatcher"] }
  | unrouted {s : Sighting} {shared : Queue} {text : String}
      (take : routes.shared.take = .taken s shared) (route : route? routes s = none) :
      Moves cancelled routes nodes .waiting
        { task := (.waiting, { routes with shared }), nodes
          happenings := [.dropped s, line .warn text] }
  | routed {s : Sighting} {shared : Queue} {destination : ChainId}
      (take : routes.shared.take = .taken s shared) (route : route? routes s = some destination) :
      Moves cancelled routes nodes .waiting
        { task := (.routing destination s, { routes with shared }), nodes
          happenings := [line .trace "Routing message"] }
  | stopped (stop : cancelled = true) :
      Moves cancelled routes nodes .waiting
        { task := (.ended, routes.leave), nodes
          happenings := [line .info "Dispatcher cancellation requested, stopping..."] }
  | delivered {destination : ChainId} {s : Sighting} {q q' : Queue}
      (lane : routes.queue? destination = some q) (put : q.put s = .queued q') :
      Moves cancelled routes nodes (.routing destination s)
        { task := (.waiting, routes.setQueue destination q'), nodes, happenings := [.queued s] }
  | lost {destination : ChainId} {s : Sighting}
      (gone : ∀ q, routes.queue? destination = some q → q.put s = .closed) :
      Moves cancelled routes nodes (.routing destination s)
        { task := (.waiting, routes), nodes
          happenings := [.dropped s, line .warn "Destination queue closed, dropping message"] }
  | abandoned {destination : ChainId} {s : Sighting} (stop : cancelled = true) :
      Moves cancelled routes nodes (.routing destination s)
        { task := (.waiting, routes), nodes, happenings := [.dropped s] }

theorem moves_of_fetch {cancelled : Bool} {routes : Routes χ} {nodes : σ}
    {o : Outcome χ σ (Router × Routes χ)} (h : fetch routes nodes = some o) :
    Moves cancelled routes nodes .waiting o := by
  rw [fetch] at h
  cases htake : routes.shared.take with
  | empty => simp [htake] at h
  | ended =>
    simp only [htake, Option.some.injEq] at h
    subst h
    exact .closed htake
  | taken s shared =>
    simp only [htake, Option.some.injEq] at h
    subst h
    cases hdecode : PostedMessage.decodeLog s.log with
    | error e =>
      simp only [sort, hdecode]
      exact .unrouted htake (by simp [route?, hdecode])
    | ok m =>
      cases hqueue : routes.queue? m.destinationId with
      | none =>
        simp only [sort, hdecode, hqueue]
        exact .unrouted htake (by simp [route?, hdecode, hqueue])
      | some q =>
        simp only [sort, hdecode, hqueue]
        exact .routed htake (by simp [route?, hdecode, hqueue])

theorem moves_of_deliver {cancelled : Bool} {routes : Routes χ} {destination : ChainId}
    {s : Sighting} {nodes : σ} {o : Outcome χ σ (Router × Routes χ)}
    (h : deliver routes destination s nodes = some o) :
    Moves cancelled routes nodes (.routing destination s) o := by
  rw [deliver] at h
  cases hqueue : routes.queue? destination with
  | none =>
    simp only [hqueue, Option.some.injEq] at h
    subst h
    exact .lost (by simp [hqueue])
  | some q =>
    cases hput : q.put s with
    | full => simp [hqueue, hput] at h
    | closed =>
      simp only [hqueue, hput, Option.some.injEq] at h
      subst h
      exact .lost (by simp [hqueue, hput])
    | queued q' =>
      simp only [hqueue, hput, Option.some.injEq] at h
      subst h
      exact .delivered hqueue hput

theorem moves_of_step {cancelled : Bool} {notice : Notice} {router : Router} {routes : Routes χ}
    {nodes : σ} {o : Outcome χ σ (Router × Routes χ)}
    (h : router.step cancelled notice routes nodes = some o) :
    Moves cancelled routes nodes router o := by
  cases router with
  | ended => cases h
  | waiting =>
    rw [step] at h
    split at h
    · rename_i outcome hfetch
      cases h
      split at hfetch
      · cases hfetch
      · exact moves_of_fetch hfetch
    · split at h
      · rename_i hstop
        cases h
        exact .stopped hstop
      · cases h
  | routing destination s =>
    rw [step] at h
    split at h
    · rename_i outcome hdeliver
      cases h
      split at hdeliver
      · cases hdeliver
      · exact moves_of_deliver hdeliver
    · split at h
      · rename_i hstop
        cases h
        exact .abandoned hstop
      · cases h

end Router

/-! ### The service -/

/-- The ways in which the service moves, for the task that moves. -/
inductive System.Moves (env : Environment χ σ) (notice : Notice) (s : System χ) (nodes : σ) :
    TaskId → Outcome χ σ (System χ) → Prop
  | watcher {i : Nat} {w : Watcher χ} {o : Outcome χ σ (Watcher χ × Queue)}
      (watcher : s.watchers[i]? = some w)
      (step : w.step env s.now s.cancelled notice s.shared nodes = some o) :
      Moves env notice s nodes (.watcher i)
        { task := { s with watchers := s.watchers.set i o.task.1, shared := o.task.2 }
          nodes := o.nodes, happenings := o.happenings }
  | router {router : Router} {lanes : List (Lane χ)} {o : Outcome χ σ (Router × Routes χ)}
      (consumers : s.consumers = .perDestination router lanes)
      (move : Router.Moves s.cancelled { shared := s.shared, lanes } nodes router o) :
      Moves env notice s nodes .router
        { task := { s with consumers := .perDestination o.task.1 o.task.2.lanes
                           shared := o.task.2.shared }
          nodes := o.nodes, happenings := o.happenings }
  | worker {worker : Worker χ} {o : Outcome χ σ (Worker χ × Queue)}
      (consumers : s.consumers = .single worker)
      (move : Worker.Moves env s.relayer s.cancelled s.shared nodes worker o) :
      Moves env notice s nodes .worker
        { task := { s with consumers := .single o.task.1, shared := o.task.2 }
          nodes := o.nodes, happenings := o.happenings }
  | laneWorker {i : Nat} {router : Router} {lanes : List (Lane χ)} {lane : Lane χ}
      {o : Outcome χ σ (Worker χ × Queue)} (consumers : s.consumers = .perDestination router lanes)
      (lane_eq : lanes[i]? = some lane)
      (move : Worker.Moves env s.relayer s.cancelled lane.queue nodes lane.worker o) :
      Moves env notice s nodes (.laneWorker i)
        { task := { s with consumers := .perDestination router
                             (lanes.set i { lane with worker := o.task.1, queue := o.task.2 }) }
          nodes := o.nodes, happenings := o.happenings }

theorem System.moves_of_step {env : Environment χ σ} {notice : Notice} {t : TaskId} {s : System χ}
    {nodes : σ} {o : Outcome χ σ (System χ)} (h : s.step env notice t nodes = some o) :
    System.Moves env notice s nodes t o := by
  cases t with
  | watcher i =>
    obtain ⟨w, hw, h⟩ := Option.bind_eq_some_iff.mp h
    obtain ⟨o', hstep, ⟨⟩⟩ := Option.bind_eq_some_iff.mp h
    exact .watcher hw hstep
  | router =>
    rw [step, stepRouter] at h
    split at h
    · cases h
    · rename_i router lanes hconsumers
      obtain ⟨o', hstep, ⟨⟩⟩ := Option.bind_eq_some_iff.mp h
      exact .router hconsumers (Router.moves_of_step hstep)
  | worker =>
    rw [step, stepWorker] at h
    split at h
    · cases h
    · rename_i worker hconsumers
      obtain ⟨o', hstep, ⟨⟩⟩ := Option.bind_eq_some_iff.mp h
      exact .worker hconsumers (Worker.moves_of_step hstep)
  | laneWorker i =>
    rw [step, stepLane] at h
    split at h
    · cases h
    · rename_i router lanes hconsumers
      obtain ⟨lane, hlane, h⟩ := Option.bind_eq_some_iff.mp h
      obtain ⟨o', hstep, ⟨⟩⟩ := Option.bind_eq_some_iff.mp h
      exact .laneWorker hconsumers hlane (Worker.moves_of_step hstep)

end CrossCall.Service
