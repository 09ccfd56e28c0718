import Mathlib
import CrossCall.Proofs.Node.Traces
import CrossCall.Proofs.Service.Polling
import CrossCall.Proofs.Service.Supervision

/-!
# Runs and their answers

A run of the service depends on the nodes only through the answers that they give. The turns of a
run in which no task breaks down can be taken again, by the same actions, against nodes that do
nothing but give the answers recorded in these turns, one after the other. So runs in different
environments can be put together, and compared by what is said in them.

## Main definitions

* `Service.Plays` — turns that are taken when the nodes give the answers recorded in them

## Main results

* `System.step_replay` — a step depends on the answer that it is given
* `Service.plays_of_follow` — every run in which no task breaks down can be taken again
* `Service.Plays.append` — runs one after the other
-/

namespace CrossCall

variable {χ σ σ' τ τ' : Type}

namespace Service

/-- The outcome of a step, seen from outside of the task. -/
def Outcome.map (f : τ → τ') (o : Outcome χ σ τ) : Outcome χ σ τ' where
  task := f o.task
  nodes := o.nodes
  happenings := o.happenings

/-- The outcome of a step, with the nodes in another state. -/
def Outcome.withNodes (o : Outcome χ σ τ) (nodes : σ') : Outcome χ σ' τ where
  task := o.task
  nodes := nodes
  happenings := o.happenings

/-! ### Questions -/

section

variable {env : Environment χ σ} {nodes : σ} {node : χ} {request : Request} {broken : τ}
  {next : Except ClientError request.Answer → τ × List (Happening χ)}

theorem task_ask_of_breaks (h : env.breaks (env.answer nodes node request).2 = true) :
    (ask env nodes node request broken next).task = broken := by
  simp [ask, h]

/-- A question that is answered as before has the same outcome. -/
theorem ask_replay (hunbroken : env.breaks (env.answer nodes node request).2 = false)
    (hlines : ∀ answer, ∀ h ∈ (next answer).2, h.IsLine) (more : List (Exchange χ)) :
    ask Environment.replay
        (callsAmong (ask env nodes node request broken next).happenings ++ more) node request
        broken next =
      (ask env nodes node request broken next).withNodes more := by
  -- The question is the only exchange, and after it there are lines.
  have hcalls : callsAmong (ask env nodes node request broken next).happenings =
      [⟨node, request, (env.answer nodes node request).1⟩] := by
    simp only [ask, hunbroken, Bool.false_eq_true, if_false]
    exact congrArg (List.cons _) (callsAmong_of_isLine (hlines _))
  have hanswer := Environment.answer_replay
    ⟨node, request, (env.answer nodes node request).1⟩ more
  have hbreaks : (Environment.replay (χ := χ)).breaks more = false := rfl
  rw [hcalls, List.cons_append, List.nil_append]
  simp only at hanswer
  simp only [ask, hanswer, hbreaks, hunbroken, Bool.false_eq_true, if_false, Outcome.withNodes]

end

/-! ### Work and cancellations -/

/-- Does some work, unless a cancellation is noticed before it. Where there is nothing to do, only a
cancellation can be noticed. -/
def select {α : Type} (cancelled : Bool) (notice : Notice) (work : Option α) (stop : α) :
    Option α :=
  match if cancelled ∧ notice = .now then none else work with
  | some a => some a
  | none => if cancelled then some stop else none

section

variable {α β : Type} {cancelled : Bool} {notice : Notice} {work : Option α} {stop a : α}

theorem select_eq_some_iff :
    select cancelled notice work stop = some a ↔
      work = some a ∧ ¬(cancelled = true ∧ notice = .now) ∨
        a = stop ∧ cancelled = true ∧ (notice = .now ∨ work = none) := by
  rw [select]
  by_cases hnow : cancelled = true ∧ notice = .now
  · simp [hnow, eq_comm]
  · rw [if_neg hnow]
    cases work with
    | some b => simp_all [eq_comm]
    | none => simp [eq_comm, and_comm]

theorem select_map (f : α → β) (cancelled : Bool) (notice : Notice) (work : Option α) (stop : α) :
    select cancelled notice (work.map f) (f stop) = (select cancelled notice work stop).map f := by
  rw [select, select]
  by_cases hnow : cancelled = true ∧ notice = .now
  · simp [hnow]
  · rw [if_neg hnow, if_neg hnow]
    cases work with
    | some b => rfl
    | none => cases cancelled <;> rfl

end

/-- The outcome of a worker that notices a cancellation. -/
def Worker.stop (q : Queue) (nodes : σ) : Outcome χ σ (Worker χ × Queue) where
  task := (.ended, q.abandon)
  nodes := nodes
  happenings :=
    [.line .info "filler::fulfillment" "FulfillmentActor cancellation requested, stopping..."]

theorem Worker.step_waiting (env : Environment χ σ) (r : Relayer χ) (cancelled : Bool)
    (notice : Notice) (q : Queue) (nodes : σ) :
    Worker.waiting.step env r cancelled notice q nodes =
      select cancelled notice (fetch r q nodes) (stop q nodes) := by
  rw [step, select]
  generalize (if cancelled = true ∧ notice = .now then none else fetch r q nodes) = work
  cases work <;> rfl

/-- The outcome of a waiting router that notices a cancellation. -/
def Router.stop (routes : Routes χ) (nodes : σ) : Outcome χ σ (Router × Routes χ) where
  task := (.ended, routes.leave)
  nodes := nodes
  happenings := [line .info "Dispatcher cancellation requested, stopping..."]

/-- The outcome of a router that notices a cancellation with a log in its hands. -/
def Router.drop (routes : Routes χ) (s : Sighting) (nodes : σ) :
    Outcome χ σ (Router × Routes χ) where
  task := (.waiting, routes)
  nodes := nodes
  happenings := [.dropped s]

theorem Router.step_waiting (cancelled : Bool) (notice : Notice) (routes : Routes χ) (nodes : σ) :
    Router.waiting.step cancelled notice routes nodes =
      select cancelled notice (fetch routes nodes) (stop routes nodes) := by
  rw [step, select]
  generalize (if cancelled = true ∧ notice = .now then none else fetch routes nodes) = work
  cases work <;> rfl

theorem Router.step_routing (cancelled : Bool) (notice : Notice) (destination : ChainId)
    (s : Sighting) (routes : Routes χ) (nodes : σ) :
    (Router.routing destination s).step cancelled notice routes nodes =
      select cancelled notice (deliver routes destination s nodes) (drop routes s nodes) := by
  rw [step, select]
  generalize (if cancelled = true ∧ notice = .now then none
    else deliver routes destination s nodes) = work
  cases work <;> rfl

namespace Watcher

variable {now : Nat} {cancelled : Bool} {notice : Notice} {w : Watcher χ} {q : Queue} {nodes : σ}
  {filter : Word} {due : Nat}

/-- The outcome of a waiting watcher that notices a cancellation. -/
def stop (w : Watcher χ) (filter : Word) (q : Queue) (nodes : σ) :
    Outcome χ σ (Watcher χ × Queue) where
  task := w.moved (.uninstalling filter (.ok ())) q
  nodes := nodes
  happenings := [.line .info "filler::forwarder"
    "OutboxForwarder cancellation requested, stopping..."]

/-- The outcome of a watcher that notices a cancellation with a log in its hands. -/
def interrupt (w : Watcher χ) (filter : Word) (q : Queue) (nodes : σ) :
    Outcome χ σ (Watcher χ × Queue) where
  task := w.moved (.uninstalling filter (.ok ())) q
  nodes := nodes
  happenings := [announced]

theorem step_waiting (env : Environment χ σ) (hphase : w.phase = .waiting filter due) :
    w.step env now cancelled notice q nodes =
      select cancelled notice
        (if now < due then none else some (w.poll env now filter due q nodes))
        (w.stop filter q nodes) := by
  simp only [step, hphase]
  by_cases hdue : now < due
  · cases cancelled <;> cases notice <;> simp [select, hdue, stop]
  · cases cancelled <;> cases notice <;> simp [select, hdue, stop]

theorem step_forwarding (env : Environment χ σ) {log : Log} {logs : List Log}
    (hphase : w.phase = .forwarding filter due (log :: logs)) :
    w.step env now cancelled notice q nodes =
      select cancelled notice (w.forward filter due log logs q nodes)
        (w.interrupt filter q nodes) := by
  simp only [step, hphase, select]
  generalize (if cancelled = true ∧ notice = .now then none
    else w.forward filter due log logs q nodes) = work
  cases work <;> rfl

end Watcher

/-! ### Steps of the tasks -/

theorem isLine_of_mem_singleton {level : Journal.Level} {target text : String} :
    ∀ h ∈ [(.line level target text : Happening χ)], h.IsLine := by
  intro h hmem
  rw [List.mem_singleton.mp hmem]
  exact Happening.isLine_line _ _ _

namespace Watcher

variable {env : Environment χ σ} {now : Nat} {cancelled : Bool} {notice : Notice} {w : Watcher χ}
  {q : Queue} {nodes : σ} {o : Outcome χ σ (Watcher χ × Queue)}

theorem install_replay (hunbroken : (w.install env now q nodes).task.1.isBroken = false)
    (more : List (Exchange χ)) :
    w.install .replay now q (callsAmong (w.install env now q nodes).happenings ++ more) =
      (w.install env now q nodes).withNodes more := by
  refine ask_replay ?_ ?_ more
  · rw [Bool.eq_false_iff]
    intro hbreaks
    rw [install, task_ask_of_breaks hbreaks] at hunbroken
    cases hunbroken
  · intro answer
    cases answer with
    | error e => exact isLine_of_mem_singleton
    | ok filter =>
      dsimp only
      split
      · exact fun h hmem => absurd hmem List.not_mem_nil
      · exact fun h hmem => absurd hmem List.not_mem_nil

theorem poll_replay {filter : Word} {due : Nat}
    (hunbroken : (w.poll env now filter due q nodes).task.1.isBroken = false)
    (more : List (Exchange χ)) :
    w.poll .replay now filter due q
        (callsAmong (w.poll env now filter due q nodes).happenings ++ more) =
      (w.poll env now filter due q nodes).withNodes more := by
  refine ask_replay ?_ ?_ more
  · rw [Bool.eq_false_iff]
    intro hbreaks
    rw [poll, task_ask_of_breaks hbreaks] at hunbroken
    cases hunbroken
  · intro answer
    cases answer with
    | error e => exact fun h hmem => absurd hmem List.not_mem_nil
    | ok logs => exact fun h hmem => absurd hmem List.not_mem_nil

theorem uninstall_replay {filter : Word} {result : Except WatchError Unit}
    (hunbroken : (w.uninstall env filter result q nodes).task.1.isBroken = false)
    (more : List (Exchange χ)) :
    w.uninstall .replay filter result q
        (callsAmong (w.uninstall env filter result q nodes).happenings ++ more) =
      (w.uninstall env filter result q nodes).withNodes more := by
  refine ask_replay ?_ ?_ more
  · rw [Bool.eq_false_iff]
    intro hbreaks
    unfold uninstall at hunbroken
    rw [task_ask_of_breaks hbreaks] at hunbroken
    cases hunbroken
  · intro answer h hmem
    rcases List.mem_append.mp hmem with hmem | hmem
    · cases answer with
      | ok b => cases hmem
      | error e => exact isLine_of_mem_singleton h hmem
    · cases result with
      | ok u => cases hmem
      | error e => exact isLine_of_mem_singleton h hmem

/-- A log is put into the queue without a question. -/
theorem forward_withNodes {filter : Word} {due : Nat} {log : Log} {logs : List Log}
    (h : w.forward filter due log logs q nodes = some o) :
    callsAmong o.happenings = [] ∧
      ∀ nodes' : σ', w.forward filter due log logs q nodes' = some (o.withNodes nodes') := by
  simp only [forward] at h ⊢
  cases hput : q.put (w.watch.sighting log) with
  | full =>
    rw [hput] at h
    cases h
  | closed | queued =>
    rw [hput] at h
    cases h
    exact ⟨rfl, fun _ => rfl⟩

theorem forward_eq_none {filter : Word} {due : Nat} {log : Log} {logs : List Log}
    (h : w.forward filter due log logs q nodes = none) (nodes' : σ') :
    w.forward filter due log logs q nodes' = none := by
  simp only [forward] at h ⊢
  cases hput : q.put (w.watch.sighting log) with
  | full => rfl
  | closed | queued =>
    rw [hput] at h
    cases h

/-- A step of a watcher depends on the answer that it is given. -/
theorem step_replay (h : w.step env now cancelled notice q nodes = some o)
    (hunbroken : o.task.1.isBroken = false) (more : List (Exchange χ)) :
    w.step .replay now cancelled notice q (callsAmong o.happenings ++ more) =
      some (o.withNodes more) := by
  cases hphase : w.phase with
  | installing =>
    simp only [step, hphase, Option.some.injEq] at h ⊢
    subst h
    exact install_replay hunbroken more
  | waiting filter due =>
    rw [step_waiting _ hphase, select_eq_some_iff] at h ⊢
    -- Whether the poll is due does not depend on the answer.
    rcases h with ⟨hpoll, hnow⟩ | ⟨rfl, hcancelled, hnone⟩
    · left
      rw [Option.ite_none_left_eq_some] at hpoll ⊢
      obtain ⟨hdue, hpoll⟩ := hpoll
      cases hpoll
      exact ⟨⟨hdue, congrArg some (poll_replay hunbroken more)⟩, hnow⟩
    · right
      refine ⟨rfl, hcancelled, hnone.imp_right fun hnone => ?_⟩
      rw [ite_eq_left_iff] at hnone ⊢
      exact fun hdue => absurd (hnone hdue) (Option.some_ne_none _)
  | forwarding filter due logs =>
    cases logs with
    | nil =>
      simp only [step, hphase, Option.some.injEq] at h ⊢
      subst h
      rfl
    | cons log logs =>
      rw [step_forwarding _ hphase, select_eq_some_iff] at h ⊢
      rcases h with ⟨hforward, hnow⟩ | ⟨rfl, hcancelled, hnone⟩
      · obtain ⟨hcalls, hforward⟩ := forward_withNodes hforward
        rw [hcalls]
        exact .inl ⟨hforward more, hnow⟩
      · exact .inr ⟨rfl, hcancelled, hnone.imp_right fun hnone => forward_eq_none hnone _⟩
  | uninstalling filter result =>
    simp only [step, hphase, Option.some.injEq] at h ⊢
    subst h
    exact uninstall_replay hunbroken more
  | ended result | broken =>
    simp only [step, hphase] at h
    cases h

end Watcher

/-- A log is taken without a question. -/
theorem Worker.fetch_withNodes {r : Relayer χ} {q : Queue} {nodes : σ}
    {o : Outcome χ σ (Worker χ × Queue)} (h : fetch r q nodes = some o) :
    callsAmong o.happenings = [] ∧
      ∀ nodes' : σ', fetch r q nodes' = some (o.withNodes nodes') := by
  simp only [fetch] at h ⊢
  cases htake : q.take with
  | empty =>
    rw [htake] at h
    cases h
  | ended | taken =>
    rw [htake] at h
    cases h
    exact ⟨rfl, fun _ => rfl⟩

theorem Worker.fetch_eq_none {r : Relayer χ} {q : Queue} {nodes : σ} (h : fetch r q nodes = none)
    (nodes' : σ') : fetch r q nodes' = none := by
  simp only [fetch] at h ⊢
  cases htake : q.take with
  | empty => rfl
  | ended | taken =>
    rw [htake] at h
    cases h

/-- A step of a worker depends on the answer that it is given. -/
theorem Worker.step_replay {env : Environment χ σ} {r : Relayer χ} {cancelled : Bool}
    {notice : Notice} {w : Worker χ} {q : Queue} {nodes : σ} {o : Outcome χ σ (Worker χ × Queue)}
    (h : w.step env r cancelled notice q nodes = some o) (hunbroken : o.task.1.isBroken = false)
    (more : List (Exchange χ)) :
    w.step .replay r cancelled notice q (callsAmong o.happenings ++ more) =
      some (o.withNodes more) := by
  cases w with
  | waiting =>
    rw [step_waiting, select_eq_some_iff] at h ⊢
    rcases h with ⟨hfetch, hnow⟩ | ⟨rfl, hcancelled, hnone⟩
    · obtain ⟨hcalls, hfetch⟩ := fetch_withNodes hfetch
      rw [hcalls]
      exact .inl ⟨hfetch more, hnow⟩
    · exact .inr ⟨rfl, hcancelled, hnone.imp_right fun hnone => fetch_eq_none hnone _⟩
  | handling s rest =>
    simp only [step, Option.some.injEq] at h ⊢
    subst h
    cases rest with
    | done outcome => cases outcome <;> rfl
    | cancelled next => rfl
    | note n next => rfl
    | ask node request next =>
      simp only [advance] at hunbroken ⊢
      refine ask_replay ?_ (fun _ _ hmem => absurd hmem List.not_mem_nil) more
      rw [Bool.eq_false_iff]
      intro hbreaks
      rw [task_ask_of_breaks hbreaks] at hunbroken
      cases hunbroken
  | ended | broken => cases h

/-- The router asks nobody. -/
theorem Router.step_withNodes {cancelled : Bool} {notice : Notice} {router : Router}
    {routes : Routes χ} {nodes : σ} {o : Outcome χ σ (Router × Routes χ)}
    (h : router.step cancelled notice routes nodes = some o) :
    callsAmong o.happenings = [] ∧
      ∀ nodes' : σ', router.step cancelled notice routes nodes' = some (o.withNodes nodes') := by
  have hfetch : ∀ nodes' : σ', fetch routes nodes' =
      (fetch routes nodes).map (·.withNodes nodes') := by
    intro nodes'
    rw [fetch, fetch]
    cases routes.shared.take <;> rfl
  have hdeliver : ∀ destination s, ∀ nodes' : σ', deliver routes destination s nodes' =
      (deliver routes destination s nodes).map (·.withNodes nodes') := by
    intro destination s nodes'
    rw [deliver, deliver]
    cases routes.queue? destination with
    | none => rfl
    | some q =>
      dsimp only
      cases q.put s <;> rfl
  constructor
  · cases moves_of_step h with
    | closed | unrouted | routed | stopped | delivered | lost | abandoned => rfl
  · intro nodes'
    cases router with
    | waiting =>
      rw [step_waiting] at h ⊢
      rw [hfetch]
      exact (select_map (·.withNodes nodes') _ _ _ (stop routes nodes)).trans
        (congrArg (Option.map _) h)
    | routing destination s =>
      rw [step_routing] at h ⊢
      rw [hdeliver]
      exact (select_map (·.withNodes nodes') _ _ _ (drop routes s nodes)).trans
        (congrArg (Option.map _) h)
    | ended => cases h

namespace System

section

variable {env : Environment χ σ} {notice : Notice} {s : System χ} {nodes : σ} {i : Nat}
  {o : Outcome χ σ (System χ)}

/-- What a step of a watcher does to all tasks. -/
theorem step_watcher_eq_some_iff :
    s.step env notice (.watcher i) nodes = some o ↔
      ∃ w o', s.watchers[i]? = some w ∧
        w.step env s.now s.cancelled notice s.shared nodes = some o' ∧
        o = o'.map fun x => { s with watchers := s.watchers.set i x.1, shared := x.2 } := by
  constructor
  · intro h
    obtain ⟨w, hw, h⟩ := Option.bind_eq_some_iff.mp h
    obtain ⟨o', hstep, ⟨⟩⟩ := Option.bind_eq_some_iff.mp h
    exact ⟨w, o', hw, hstep, rfl⟩
  · rintro ⟨w, o', hw, hstep, rfl⟩
    exact Option.bind_eq_some_iff.mpr ⟨w, hw, Option.bind_eq_some_iff.mpr ⟨o', hstep, rfl⟩⟩

/-- What a step of the router does to all tasks. -/
theorem step_router_eq_some_iff :
    s.step env notice .router nodes = some o ↔
      ∃ router lanes o', s.consumers = .perDestination router lanes ∧
        router.step s.cancelled notice { shared := s.shared, lanes } nodes = some o' ∧
        o = o'.map fun x =>
          { s with consumers := .perDestination x.1 x.2.lanes, shared := x.2.shared } := by
  rw [step, stepRouter]
  cases s.consumers with
  | single worker => simp
  | perDestination router lanes =>
    constructor
    · intro h
      obtain ⟨o', hstep, ⟨⟩⟩ := Option.bind_eq_some_iff.mp h
      exact ⟨router, lanes, o', rfl, hstep, rfl⟩
    · rintro ⟨_, _, o', ⟨⟩, hstep, rfl⟩
      exact Option.bind_eq_some_iff.mpr ⟨o', hstep, rfl⟩

/-- What a step of the only worker does to all tasks. -/
theorem step_worker_eq_some_iff :
    s.step env notice .worker nodes = some o ↔
      ∃ worker o', s.consumers = .single worker ∧
        worker.step env s.relayer s.cancelled notice s.shared nodes = some o' ∧
        o = o'.map fun x => { s with consumers := .single x.1, shared := x.2 } := by
  rw [step, stepWorker]
  cases s.consumers with
  | perDestination router lanes => simp
  | single worker =>
    constructor
    · intro h
      obtain ⟨o', hstep, ⟨⟩⟩ := Option.bind_eq_some_iff.mp h
      exact ⟨worker, o', rfl, hstep, rfl⟩
    · rintro ⟨_, o', ⟨⟩, hstep, rfl⟩
      exact Option.bind_eq_some_iff.mpr ⟨o', hstep, rfl⟩

/-- What a step of the worker of a lane does to all tasks. -/
theorem step_laneWorker_eq_some_iff :
    s.step env notice (.laneWorker i) nodes = some o ↔
      ∃ router lanes lane o', s.consumers = .perDestination router lanes ∧
        lanes[i]? = some lane ∧
        lane.worker.step env s.relayer s.cancelled notice lane.queue nodes = some o' ∧
        o = o'.map fun x =>
          { s with consumers := .perDestination router
                     (lanes.set i { lane with worker := x.1, queue := x.2 }) } := by
  rw [step, stepLane]
  cases s.consumers with
  | single worker => simp
  | perDestination router lanes =>
    constructor
    · intro h
      obtain ⟨lane, hlane, h⟩ := Option.bind_eq_some_iff.mp h
      obtain ⟨o', hstep, ⟨⟩⟩ := Option.bind_eq_some_iff.mp h
      exact ⟨router, lanes, lane, o', rfl, hlane, hstep, rfl⟩
    · rintro ⟨_, _, lane, o', ⟨⟩, hlane, hstep, rfl⟩
      exact Option.bind_eq_some_iff.mpr ⟨lane, hlane,
        Option.bind_eq_some_iff.mpr ⟨o', hstep, rfl⟩⟩

end

/-- A step of a task depends on the answer that it is given. -/
theorem step_replay {env : Environment χ σ} {notice : Notice} {t : TaskId} {s : System χ}
    {nodes : σ} {o : Outcome χ σ (System χ)} (h : s.step env notice t nodes = some o)
    (hwhole : o.task.IsWhole) (more : List (Exchange χ)) :
    s.step .replay notice t (callsAmong o.happenings ++ more) = some (o.withNodes more) := by
  cases t with
  | watcher i =>
    obtain ⟨w, o', hw, hstep, rfl⟩ := step_watcher_eq_some_iff.mp h
    have hunbroken : o'.task.1.isBroken = false := by
      simpa [isBroken, Outcome.map, (List.getElem?_eq_some_iff.mp hw).1] using
        hwhole (.watcher i)
    exact step_watcher_eq_some_iff.mpr
      ⟨w, _, hw, Watcher.step_replay hstep hunbroken more, rfl⟩
  | router =>
    obtain ⟨router, lanes, o', hconsumers, hstep, rfl⟩ := step_router_eq_some_iff.mp h
    obtain ⟨hcalls, hstep⟩ := Router.step_withNodes hstep
    simp only [Outcome.map, hcalls]
    exact step_router_eq_some_iff.mpr ⟨router, lanes, _, hconsumers, hstep more, rfl⟩
  | worker =>
    obtain ⟨worker, o', hconsumers, hstep, rfl⟩ := step_worker_eq_some_iff.mp h
    have hunbroken : o'.task.1.isBroken = false := hwhole .worker
    exact step_worker_eq_some_iff.mpr
      ⟨worker, _, hconsumers, Worker.step_replay hstep hunbroken more, rfl⟩
  | laneWorker i =>
    obtain ⟨router, lanes, lane, o', hconsumers, hlane, hstep, rfl⟩ :=
      step_laneWorker_eq_some_iff.mp h
    have hunbroken : o'.task.1.isBroken = false := by
      simpa [isBroken, Outcome.map, (List.getElem?_eq_some_iff.mp hlane).1] using
        hwhole (.laneWorker i)
    exact step_laneWorker_eq_some_iff.mpr
      ⟨router, lanes, lane, _, hconsumers, hlane, Worker.step_replay hstep hunbroken more, rfl⟩

end System

end Service

/-! ### Runs -/

namespace Service

variable {env : Environment χ σ} {s s' s'' : Service χ} {nodes nodes' nodes'' : σ}
  {a : Action} {as as' : List Action} {o : Outcome χ σ (Service χ)} {turns turns' : List (Turn χ)}

/-- The supervisor asks nobody. -/
theorem act_withNodes (h : s.act env a nodes = some o) (ha : a.task? = none) :
    callsAmong o.happenings = [] ∧
      ∀ (env' : Environment χ σ') nodes', s.act env' a nodes' = some (o.withNodes nodes') := by
  cases a with
  | step => cases ha
  | elapse | cancel =>
    cases h
    exact ⟨rfl, fun _ _ => rfl⟩
  | join t =>
    rw [act] at h
    simp only [act]
    split at h
    · rename_i hjoin
      cases h
      obtain ⟨-, -, -, hlines⟩ := s.system_join t
      exact ⟨callsAmong_of_isLine hlines, fun _ _ => if_pos hjoin⟩
    · cases h
  | finish =>
    rw [act] at h
    simp only [act]
    split at h
    · rename_i hall
      split at h
      · cases h
        exact ⟨rfl, fun _ _ => if_pos hall⟩
      · cases h
        exact ⟨rfl, fun _ _ => if_pos hall⟩
      · cases h
    · cases h
  | stop =>
    rw [act] at h
    simp only [act]
    split at h
    · cases h
      exact ⟨rfl, fun _ _ => rfl⟩
    · cases h
      exact ⟨rfl, fun _ _ => rfl⟩
    · cases h

/-- An action depends on the answer that is given in it. -/
theorem act_replay (h : s.act env a nodes = some o) (hwhole : o.task.system.IsWhole)
    (more : List (Exchange χ)) :
    s.act .replay a (callsAmong o.happenings ++ more) = some (o.withNodes more) := by
  cases a with
  | step t notice =>
    obtain ⟨o', hstep, rfl⟩ := Option.map_eq_some_iff.mp h
    exact Option.map_eq_some_iff.mpr ⟨_, System.step_replay hstep hwhole more, rfl⟩
  | elapse | cancel | join | finish | stop =>
    obtain ⟨hcalls, hact⟩ := act_withNodes h rfl
    rw [hcalls]
    exact hact .replay more

/-- The turns of some actions, when the nodes give the answers that are recorded in them. -/
def Plays (s : Service χ) (as : List Action) (turns : List (Turn χ)) (s' : Service χ) : Prop :=
  ∀ more, s.follow .replay as (exchanges (eventsIn turns) ++ more) = some (turns, s', more)

theorem Plays.refl (s : Service χ) : s.Plays [] [] s := fun _ => rfl

/-- An action in front of a run. -/
theorem Plays.cons (h : s.act env a nodes = some o) (hwhole : o.task.system.IsWhole)
    (hrest : o.task.Plays as turns s') : s.Plays (a :: as) (s.turnOf a o :: turns) s' := by
  intro more
  have hcalls : exchanges (eventsIn (s.turnOf a o :: turns)) =
      callsAmong o.happenings ++ exchanges (eventsIn turns) := by
    rw [eventsIn, List.flatMap_cons, exchanges_append]
    rfl
  -- The answers of the first turn come first, and the others are left for the rest.
  refine Option.bind_eq_some_iff.mpr ⟨o.withNodes (exchanges (eventsIn turns) ++ more), ?_, ?_⟩
  · rw [hcalls, List.append_assoc]
    exact act_replay h hwhole _
  · exact Option.bind_eq_some_iff.mpr ⟨_, hrest more, rfl⟩

/-- Actions may be followed in two parts. -/
theorem follow_append (h : s.follow env as nodes = some (turns, s', nodes'))
    (h' : s'.follow env as' nodes' = some (turns', s'', nodes'')) :
    s.follow env (as ++ as') nodes = some (turns ++ turns', s'', nodes'') := by
  induction as generalizing s nodes turns with
  | nil =>
    cases h
    exact h'
  | cons a as ih =>
    obtain ⟨o, hact, h⟩ := Option.bind_eq_some_iff.mp h
    obtain ⟨⟨turns₁, s₁, nodes₁⟩, hrest, ⟨⟩⟩ := Option.bind_eq_some_iff.mp h
    exact Option.bind_eq_some_iff.mpr ⟨o, hact,
      Option.bind_eq_some_iff.mpr ⟨_, ih hrest, rfl⟩⟩

/-- One run after another. -/
theorem Plays.append (h : s.Plays as turns s') (h' : s'.Plays as' turns' s'') :
    s.Plays (as ++ as') (turns ++ turns') s'' := by
  intro more
  rw [eventsIn_append, exchanges_append, List.append_assoc]
  exact follow_append (h _) (h' more)

/-- Every run in which no task breaks down can be taken again, if it gets the same answers. -/
theorem plays_of_follow (h : s.follow env as nodes = some (turns, s', nodes'))
    (hwhole : s'.system.IsWhole) : s.Plays as turns s' := by
  induction as generalizing s nodes turns with
  | nil =>
    cases h
    exact .refl _
  | cons a as ih =>
    obtain ⟨o, hact, h⟩ := Option.bind_eq_some_iff.mp h
    obtain ⟨⟨turns₁, s₁, nodes₁⟩, hrest, ⟨⟩⟩ := Option.bind_eq_some_iff.mp h
    exact .cons hact (isWhole_of_follow hrest hwhole) (ih hrest)

end Service

end CrossCall
