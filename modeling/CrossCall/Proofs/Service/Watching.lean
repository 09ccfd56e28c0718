import Mathlib
import CrossCall.Proofs.Service.Steps

/-!
# What a watcher can do

A watcher asks its node one question at a time, puts the logs of a poll into the queue one by one,
and leaves the queue when it ends. `Watcher.Moves` lists the ways in which it moves. From them it
follows what becomes of the queue and of the logs that the watcher holds: a log is polled, waits in
the batch, and is put into the queue, and no log gets lost on the way as long as nothing is
cancelled and somebody reads the queue.

## Main definitions

* `Watcher.Moves` — the ways in which a watcher moves
* `Watcher.batch` — the polled logs that are not in the queue yet
* `Happening.polled` — the logs of a successful poll

## Main results

* `Watcher.moves_of_step` — every step is one of these ways
* `Watcher.Moves.items_eq` — what is added to the queue
* `Watcher.Moves.items_batch_eq` — the queue and the batch grow by what is polled
-/

namespace CrossCall.Service

variable {χ σ : Type}

/-- A line of the journal, of which nothing depends. -/
def Happening.IsLine (h : Happening χ) : Prop := ∃ level target text, h = .line level target text

theorem Happening.isLine_line (level : Journal.Level) (target text : String) :
    (line level target text : Happening χ).IsLine := ⟨level, target, text, rfl⟩

namespace Watcher

/-- The question that a watcher asks next, if it asks one. -/
def request? (w : Watcher χ) : Option Request :=
  match w.phase with
  | .installing => some (.newFilter w.watch.filter)
  | .waiting filter _ => some (.filterChanges filter)
  | .uninstalling filter _ => some (.uninstallFilter filter)
  | .forwarding _ _ _ | .ended _ | .broken => none

/-- The ways in which a watcher moves that writes to a queue. -/
inductive Moves (env : Environment χ σ) (now : Nat) (cancelled : Bool) (w : Watcher χ) (q : Queue)
    (nodes : σ) : Outcome χ σ (Watcher χ × Queue) → Prop
  | installed {filter : Word} {nodes' : σ} (phase : w.phase = .installing)
      (answer : env.answer nodes w.watch.node (.newFilter w.watch.filter) = (.ok filter, nodes'))
      (unbroken : env.breaks nodes' = false) (period : w.watch.period ≠ 0) :
      Moves env now cancelled w q nodes
        { task := w.moved (.waiting filter now) q, nodes := nodes'
          happenings := [.event (.exchange ⟨w.watch.node, .newFilter w.watch.filter, .ok filter⟩)] }
  | refused {e : ClientError} {nodes' : σ} (phase : w.phase = .installing)
      (answer : env.answer nodes w.watch.node (.newFilter w.watch.filter) = (.error e, nodes'))
      (unbroken : env.breaks nodes' = false) :
      Moves env now cancelled w q nodes
        { task := w.left (.ended (.error (.installFilter w.watch.chain e))) q, nodes := nodes'
          happenings :=
            [.event (.exchange ⟨w.watch.node, .newFilter w.watch.filter, .error e⟩),
             .line .error "filler::service" "Outbox forwarder stopped"] }
  | broke {request : Request} {answer : Except ClientError request.Answer} {nodes' : σ}
      (asks : w.request? = some request)
      (answer_eq : env.answer nodes w.watch.node request = (answer, nodes'))
      (breaks : env.breaks nodes' = true ∨ w.phase = .installing ∧ w.watch.period = 0) :
      Moves env now cancelled w q nodes
        { task := w.left .broken q, nodes := nodes'
          happenings := [.event (.exchange ⟨w.watch.node, request, answer⟩)] }
  | stopped {filter : Word} {due : Nat} (phase : w.phase = .waiting filter due)
      (stop : cancelled = true) :
      Moves env now cancelled w q nodes
        { task := w.moved (.uninstalling filter (.ok ())) q, nodes
          happenings := [.line .info "filler::forwarder"
            "OutboxForwarder cancellation requested, stopping..."] }
  | polled {filter : Word} {due : Nat} {logs : List Log} {nodes' : σ}
      (phase : w.phase = .waiting filter due) (is_due : due ≤ now)
      (answer : env.answer nodes w.watch.node (.filterChanges filter) = (.ok logs, nodes'))
      (unbroken : env.breaks nodes' = false) :
      Moves env now cancelled w q nodes
        { task := w.moved (.forwarding filter (w.watch.nextDue now due) logs) q, nodes := nodes'
          happenings := [.event (.exchange ⟨w.watch.node, .filterChanges filter, .ok logs⟩)] }
  | failed {filter : Word} {due : Nat} {e : ClientError} {nodes' : σ}
      (phase : w.phase = .waiting filter due) (is_due : due ≤ now)
      (answer : env.answer nodes w.watch.node (.filterChanges filter) = (.error e, nodes'))
      (unbroken : env.breaks nodes' = false) :
      Moves env now cancelled w q nodes
        { task := w.moved (.uninstalling filter (.error (.pollFilter w.watch.chain e))) q
          nodes := nodes'
          happenings := [.event (.exchange ⟨w.watch.node, .filterChanges filter, .error e⟩)] }
  | paused {filter : Word} {due : Nat} (phase : w.phase = .forwarding filter due []) :
      Moves env now cancelled w q nodes { task := w.moved (.waiting filter due) q, nodes }
  | forwarded {filter : Word} {due : Nat} {log : Log} {logs : List Log} {q' : Queue}
      (phase : w.phase = .forwarding filter due (log :: logs))
      (put : q.put (w.watch.sighting log) = .queued q') :
      Moves env now cancelled w q nodes
        { task := w.moved (.forwarding filter due logs) q', nodes
          happenings :=
            [announced, .queued (w.watch.sighting log),
             .event (.note (.measure (.forwarded w.watch.chain) 1))] }
  | refusedLog {filter : Word} {due : Nat} {log : Log} {logs : List Log}
      (phase : w.phase = .forwarding filter due (log :: logs))
      (put : q.put (w.watch.sighting log) = .closed) :
      Moves env now cancelled w q nodes
        { task := w.moved (.uninstalling filter (.ok ())) q, nodes
          happenings :=
            [announced,
             .line .warn "filler::forwarder" "Fulfillment queue closed, stopping forwarder"] }
  | interrupted {filter : Word} {due : Nat} {log : Log} {logs : List Log}
      (phase : w.phase = .forwarding filter due (log :: logs)) (stop : cancelled = true) :
      Moves env now cancelled w q nodes
        { task := w.moved (.uninstalling filter (.ok ())) q, nodes, happenings := [announced] }
  | uninstalled {filter : Word} {result : Except WatchError Unit}
      {answer : Except ClientError Bool} {nodes' : σ} {lines : List (Happening χ)}
      (phase : w.phase = .uninstalling filter result)
      (answer_eq : env.answer nodes w.watch.node (.uninstallFilter filter) = (answer, nodes'))
      (unbroken : env.breaks nodes' = false) (lines_eq : ∀ h ∈ lines, h.IsLine) :
      Moves env now cancelled w q nodes
        { task := w.left (.ended result) q, nodes := nodes'
          happenings :=
            .event (.exchange ⟨w.watch.node, .uninstallFilter filter, answer⟩) :: lines }

section

variable {env : Environment χ σ} {now : Nat} {cancelled : Bool} {notice : Notice} {w : Watcher χ}
  {q : Queue} {nodes : σ} {o : Outcome χ σ (Watcher χ × Queue)}

theorem moves_of_install (phase : w.phase = .installing) :
    w.Moves env now cancelled q nodes (w.install env now q nodes) := by
  have hask : w.request? = some (.newFilter w.watch.filter) := by simp [request?, phase]
  rcases hanswer : env.answer nodes w.watch.node (.newFilter w.watch.filter) with ⟨answer, nodes'⟩
  rw [install, ask, hanswer]
  cases hbreaks : env.breaks nodes' with
  | true => simpa [hbreaks] using .broke hask hanswer (.inl hbreaks)
  | false =>
    cases answer with
    | error e => simpa [hbreaks] using .refused phase hanswer hbreaks
    | ok filter =>
      by_cases hperiod : w.watch.period = 0
      · simpa [hbreaks, hperiod] using .broke hask hanswer (.inr ⟨phase, hperiod⟩)
      · simpa [hbreaks, hperiod] using .installed phase hanswer hbreaks hperiod

theorem moves_of_poll {filter : Word} {due : Nat} (phase : w.phase = .waiting filter due)
    (is_due : due ≤ now) :
    w.Moves env now cancelled q nodes (w.poll env now filter due q nodes) := by
  have hask : w.request? = some (.filterChanges filter) := by simp [request?, phase]
  rcases hanswer : env.answer nodes w.watch.node (.filterChanges filter) with ⟨answer, nodes'⟩
  rw [poll, ask, hanswer]
  cases hbreaks : env.breaks nodes' with
  | true => simpa [hbreaks] using .broke hask hanswer (.inl hbreaks)
  | false =>
    cases answer with
    | error e => simpa [hbreaks] using .failed phase is_due hanswer hbreaks
    | ok logs => simpa [hbreaks] using .polled phase is_due hanswer hbreaks

theorem moves_of_uninstall {filter : Word} {result : Except WatchError Unit}
    (phase : w.phase = .uninstalling filter result) :
    w.Moves env now cancelled q nodes (w.uninstall env filter result q nodes) := by
  have hask : w.request? = some (.uninstallFilter filter) := by simp [request?, phase]
  rcases hanswer : env.answer nodes w.watch.node (.uninstallFilter filter) with ⟨answer, nodes'⟩
  unfold uninstall
  rw [ask, hanswer]
  cases hbreaks : env.breaks nodes' with
  | true => simpa [hbreaks] using .broke hask hanswer (.inl hbreaks)
  | false =>
    simp only [hbreaks, Bool.false_eq_true, if_false]
    refine .uninstalled phase hanswer hbreaks ?_
    -- What else happens are lines about what failed.
    intro h hmem
    rcases List.mem_append.mp hmem with hmem | hmem
    · cases answer with
      | ok b => cases hmem
      | error e =>
        rw [List.mem_singleton.mp hmem]
        exact Happening.isLine_line _ _ _
    · cases result with
      | ok u => cases hmem
      | error e =>
        rw [List.mem_singleton.mp hmem]
        exact Happening.isLine_line _ _ _

theorem moves_of_forward {filter : Word} {due : Nat} {log : Log} {logs : List Log}
    (phase : w.phase = .forwarding filter due (log :: logs))
    (h : w.forward filter due log logs q nodes = some o) : w.Moves env now cancelled q nodes o := by
  rw [forward] at h
  cases hput : q.put (w.watch.sighting log) with
  | full => simp [hput] at h
  | closed =>
    simp only [hput, Option.some.injEq] at h
    subst h
    exact .refusedLog phase hput
  | queued q' =>
    simp only [hput, Option.some.injEq] at h
    subst h
    exact .forwarded phase hput

/-- Every step of a watcher is one of its moves. -/
theorem moves_of_step (h : w.step env now cancelled notice q nodes = some o) :
    w.Moves env now cancelled q nodes o := by
  rw [step] at h
  split at h
  · rename_i hphase
    cases h
    exact moves_of_install hphase
  · rename_i filter due hphase
    split at h
    · split at h
      · rename_i hcancelled
        cases h
        exact .stopped hphase hcancelled
      · cases h
    · rename_i hnow
      cases h
      exact moves_of_poll hphase (Nat.le_of_not_lt fun hlt => hnow (.inl hlt))
  · rename_i filter due hphase
    cases h
    exact .paused hphase
  · rename_i filter due log logs hphase
    split at h
    · rename_i outcome hforward
      cases h
      split at hforward
      · cases hforward
      · exact moves_of_forward hphase hforward
    · split at h
      · rename_i hcancelled
        cases h
        exact .interrupted hphase hcancelled
      · cases h
  · rename_i filter result hphase
    cases h
    exact moves_of_uninstall hphase
  · cases h
  · cases h

end

/-- The polled logs that a watcher has not put into the queue yet, as it saw them. -/
def batch (w : Watcher χ) : List Sighting :=
  match w.phase with
  | .forwarding _ _ logs => logs.map w.watch.sighting
  | _ => []

theorem batch_eq_nil_of_isFinished {w : Watcher χ} (h : w.isFinished = true) : w.batch = [] := by
  rw [isFinished] at h
  rw [batch]
  split at h
  · rename_i hphase
    rw [hphase]
  · rename_i hphase
    rw [hphase]
  · cases h

end Watcher

/-- The logs of a successful poll. -/
def Happening.polled : Happening χ → List Log
  | event (.exchange ⟨_, .filterChanges _, .ok logs⟩) => logs
  | _ => []

theorem Happening.IsLine.polled_eq {h : Happening χ} (hline : h.IsLine) : h.polled = [] := by
  obtain ⟨level, target, text, rfl⟩ := hline
  rfl

namespace Watcher.Moves

variable {env : Environment χ σ} {now : Nat} {cancelled : Bool} {w : Watcher χ} {q : Queue}
  {nodes : σ} {o : Outcome χ σ (Watcher χ × Queue)}

/-- A watcher watches the same outbox to its end. -/
theorem watch_eq (h : w.Moves env now cancelled q nodes o) : o.task.1.watch = w.watch := by
  cases h <;> rfl

/-- Only a watcher that has not ended moves. -/
theorem isFinished_eq (h : w.Moves env now cancelled q nodes o) : w.isFinished = false := by
  rw [isFinished]
  cases h with
  | installed phase | refused phase | stopped phase | polled phase | failed phase | paused phase
  | forwarded phase | refusedLog phase | interrupted phase | uninstalled phase => rw [phase]
  | broke asks =>
    rw [request?] at asks
    split at asks
    · rename_i phase
      rw [phase]
    · rename_i phase
      rw [phase]
    · rename_i phase
      rw [phase]
    all_goals cases asks

/-- A watcher leaves the queue when it ends. Before that it leaves the queue as it is or puts a log
of its own into it. -/
theorem queue_cases (h : w.Moves env now cancelled q nodes o) :
    (o.task.1.isFinished = true ∧ o.task.2 = q.leave) ∨
      o.task.1.isFinished = false ∧
        (o.task.2 = q ∨ ∃ log, q.put (w.watch.sighting log) = .queued o.task.2) := by
  cases h with
  | refused | broke | uninstalled => exact .inl ⟨rfl, rfl⟩
  | installed | stopped | polled | failed | paused | refusedLog | interrupted =>
    exact .inr ⟨rfl, .inl rfl⟩
  | forwarded phase put => exact .inr ⟨rfl, .inr ⟨_, put⟩⟩

/-- What a watcher adds to the queue are logs that it saw. -/
theorem items_eq (h : w.Moves env now cancelled q nodes o) :
    ∃ added, o.task.2.items = q.items ++ added ∧ ∀ s ∈ added, s.watcher = w.watch.id := by
  rcases h.queue_cases with ⟨-, hq⟩ | ⟨-, hq | ⟨log, hput⟩⟩
  · exact ⟨[], by rw [hq, Queue.leave, List.append_nil], by simp⟩
  · exact ⟨[], by rw [hq, List.append_nil], by simp⟩
  · refine ⟨[w.watch.sighting log], (Queue.items_of_put hput).1, ?_⟩
    intro s hs
    rw [List.mem_singleton.mp hs]
    rfl

/-- What is polled goes to the end of the batch, and the front of the batch to the end of the queue,
as long as the service goes on and somebody reads the queue. -/
theorem items_batch_eq (h : w.Moves env now cancelled q nodes o) (hgoing : cancelled = false)
    (hreader : q.hasReader = true) (hunbroken : o.task.1.isBroken = false) :
    o.task.2.items ++ o.task.1.batch =
      q.items ++ (w.batch ++ (o.happenings.flatMap Happening.polled).map w.watch.sighting) := by
  cases h with
  | broke => cases hunbroken
  | stopped phase stop | interrupted phase stop =>
    rw [hgoing] at stop
    cases stop
  | refusedLog phase put =>
    have hgone := of_put_eq_closed put
    rw [hreader] at hgone
    cases hgone
  | uninstalled phase answer_eq unbroken lines_eq =>
    have hlines : (List.flatMap Happening.polled _ : List Log) = [] :=
      List.flatMap_eq_nil_iff.mpr fun h hmem => (lines_eq h hmem).polled_eq
    simp [batch, phase, left, moved, Queue.leave, Happening.polled, hlines]
  | forwarded phase put =>
    rw [(eq_of_put put).1]
    simp [batch, phase, moved, Happening.polled, announced, Happening.line]
  | installed phase | polled phase | failed phase | paused phase =>
    simp [batch, phase, moved, Happening.polled]
  | refused phase =>
    simp [batch, phase, left, moved, Queue.leave, Happening.polled, Happening.line]

end Watcher.Moves

end CrossCall.Service
