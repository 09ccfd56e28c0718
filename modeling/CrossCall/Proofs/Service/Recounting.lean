import Mathlib
import CrossCall.Proofs.Fulfillment.Blocks
import CrossCall.Proofs.Service.Calm

/-!
# What a worker has handled

Every worker has its own turns, in which it handles one message after the other. What is said in
them comes in blocks, one for every message that it was handed. A block is what is said in a whole
handling of its message by the relayer; only the last one may still be on its way, while the worker
has the message in its hands.

## Main definitions

* `Block` — a message with what was said about it
* `Recounts` — the blocks of a worker
* `TaskId.IsWorker`, `System.worker?` — the workers of a service

## Main results

* `Recounts.move` — a worker's step carries its last block on
* `Service.exists_recounts` — the turns of every worker are told by blocks
* `Recounts.eq_none_of_isFinished` — a worker that has ended has handled all that it was handed
-/

namespace CrossCall

variable {χ σ : Type}

namespace Service

/-! ### The blocks of a worker -/

/-- A message with what was said about it. -/
structure Block (χ : Type) where
  sighting : Sighting
  calls : List (Exchange χ)

/-- What a worker holds: the message in its hands, with what was said about it so far. -/
def Holds (r : Relayer χ) (worker : Option (Worker χ)) : Option (Block χ) → Prop
  | some b => ∃ rest, worker = some (.handling b.sighting rest) ∧
      (r.handle b.sighting.chain b.sighting.log).Leads b.calls rest
  | none => ∀ s rest, worker ≠ some (.handling s rest)

/-- The turns of a worker, told by blocks: those of the messages that it has handled, and that of
the message in its hands. -/
structure Recounts (r : Relayer χ) (turns : List (Turn χ)) (worker : Option (Worker χ))
    (blocks : List (Block χ)) (current : Option (Block χ)) : Prop where
  calls : exchanges (eventsIn turns) = (blocks ++ current.toList).flatMap Block.calls
  handed : handedIn turns = (blocks ++ current.toList).map Block.sighting
  whole : ∀ b ∈ blocks, r.IsRun b.sighting b.calls
  holds : Holds r worker current

section

variable {r : Relayer χ} {current : Option (Block χ)}

theorem Holds.eq_none {worker : Worker χ} (h : Holds r (some worker) current)
    (hworker : ∀ s rest, worker ≠ .handling s rest) : current = none := by
  cases current with
  | none => rfl
  | some b =>
    obtain ⟨rest, hhandling, -⟩ := h
    exact absurd (Option.some.inj hhandling) (hworker b.sighting rest)

theorem Holds.exists_eq_some {s : Sighting}
    {rest : Session χ (Except FulfillmentError Submission)}
    (h : Holds r (some (.handling s rest)) current) :
    ∃ calls, current = some ⟨s, calls⟩ ∧ (r.handle s.chain s.log).Leads calls rest := by
  cases current with
  | none => exact absurd rfl (h s rest)
  | some b =>
    obtain ⟨_, ⟨⟩, hleads⟩ := h
    exact ⟨b.calls, rfl, hleads⟩

end

theorem exchanges_eventsIn_concat (turns : List (Turn χ)) (turn : Turn χ) :
    exchanges (eventsIn (turns ++ [turn])) =
      exchanges (eventsIn turns) ++ exchanges turn.events := by
  rw [eventsIn_append, exchanges_append, eventsIn, eventsIn, List.flatMap_singleton]

theorem handedIn_concat (turns : List (Turn χ)) (turn : Turn χ) :
    handedIn (turns ++ [turn]) = handedIn turns ++ turn.handed := by
  rw [handedIn_append, handedIn, handedIn, List.flatMap_singleton]

namespace Recounts

variable {r : Relayer χ} {turns : List (Turn χ)} {worker : Option (Worker χ)}
  {blocks : List (Block χ)} {current : Option (Block χ)}

/-- A turn in which nothing is asked or handed on leaves the blocks as they are. -/
theorem quiet (h : Recounts r turns worker blocks current) {turn : Turn χ}
    {worker' : Option (Worker χ)} (hcalls : exchanges turn.events = []) (hhanded : turn.handed = [])
    (hholds : Holds r worker' current) : Recounts r (turns ++ [turn]) worker' blocks current := by
  refine ⟨?_, ?_, h.whole, hholds⟩
  · rw [exchanges_eventsIn_concat, hcalls, List.append_nil, h.calls]
  · rw [handedIn_concat, hhanded, List.append_nil, h.handed]

/-- A block that has come to its end joins those before it. -/
theorem complete {b : Block χ} (h : Recounts r turns worker blocks (some b))
    (hrun : r.IsRun b.sighting b.calls) {worker' : Option (Worker χ)}
    (hholds : Holds r worker' none) : Recounts r turns worker' (blocks ++ [b]) none := by
  refine ⟨?_, ?_, ?_, hholds⟩
  · rw [h.calls]
    simp
  · rw [h.handed]
    simp
  · intro b' hb'
    rcases List.mem_append.mp hb' with hb' | hb'
    · exact h.whole b' hb'
    · rwa [List.mem_singleton.mp hb']

/-- A step of a worker that does not break down begins a block, carries it on, or ends it. -/
theorem move {env : Environment χ σ} {cancelled : Bool} {q : Queue} {nodes : σ} {w : Worker χ}
    {o : Outcome χ σ (Worker χ × Queue)} (h : Recounts r turns (some w) blocks current)
    (hmove : w.Moves env r cancelled q nodes o) (hwhole : o.task.1.isBroken = false)
    {t : Option TaskId} {handled : Option Handled} :
    ∃ blocks' current', Recounts r (turns ++ [⟨t, handled, o.happenings⟩]) (some o.task.1) blocks'
      current' := by
  cases hmove with
  | broke => cases hwhole
  | closed | stopped =>
    obtain rfl := h.holds.eq_none (by rintro _ _ ⟨⟩)
    exact ⟨blocks, none, h.quiet rfl rfl (by rintro _ _ ⟨⟩)⟩
  | @took s q' take =>
    obtain rfl := h.holds.eq_none (by rintro _ _ ⟨⟩)
    refine ⟨blocks, some ⟨s, []⟩, ?_, ?_, h.whole, _, rfl, .here _⟩
    · rw [exchanges_eventsIn_concat, h.calls]
      simp [Turn.events, Happening.event?, exchanges]
    · rw [handedIn_concat, h.handed]
      simp [Turn.handed, Happening.handed?]
  | fulfilled | rejected =>
    obtain ⟨calls, rfl, hleads⟩ := h.holds.exists_eq_some
    have hwaits : Holds r (some (.waiting : Worker χ)) none := by rintro _ _ ⟨⟩
    have hdone := h.complete (Relayer.isRun_of_leads hleads) hwaits
    exact ⟨_, none, hdone.quiet rfl rfl hwaits⟩
  | @asked s node request next unbroken =>
    obtain ⟨calls, rfl, hleads⟩ := h.holds.exists_eq_some
    refine ⟨blocks, some ⟨s, calls ++ [⟨node, request, (env.answer nodes node request).1⟩]⟩,
      ?_, ?_, h.whole, _, rfl, hleads.trans (.ask (.here _))⟩
    · rw [exchanges_eventsIn_concat, h.calls]
      simp [Turn.events, Happening.event?, exchanges, Event.exchange?]
    · rw [handedIn_concat, h.handed]
      simp [Turn.handed, Happening.handed?]
  | @looked s next =>
    obtain ⟨calls, rfl, hleads⟩ := h.holds.exists_eq_some
    have hleads' := hleads.trans (.look (.here (next cancelled)))
    rw [List.append_nil] at hleads'
    exact ⟨blocks, some ⟨s, calls⟩, h.quiet rfl rfl ⟨_, rfl, hleads'⟩⟩
  | @noted s n next =>
    obtain ⟨calls, rfl, hleads⟩ := h.holds.exists_eq_some
    have hleads' := hleads.trans (.note (n := n) (.here next))
    rw [List.append_nil] at hleads'
    exact ⟨blocks, some ⟨s, calls⟩, h.quiet rfl rfl ⟨_, rfl, hleads'⟩⟩

/-- What has been said about a message is the beginning of a whole handling of it. -/
theorem exists_isRun (h : Recounts r turns worker blocks current) {b : Block χ}
    (hb : b ∈ blocks ++ current.toList) : ∃ more, r.IsRun b.sighting (b.calls ++ more) := by
  rcases List.mem_append.mp hb with hb | hb
  · exact ⟨[], by rw [List.append_nil]; exact h.whole b hb⟩
  · obtain rfl := Option.mem_toList.mp hb
    obtain ⟨rest, -, hleads⟩ := h.holds
    exact Relayer.exists_isRun_of_leads hleads

end Recounts

/-! ### The workers of a service -/

/-- Whether a task is a worker. -/
def TaskId.IsWorker : TaskId → Prop
  | worker | laneWorker _ => True
  | watcher _ | router => False

/-- The worker with a name. -/
def System.worker? (s : System χ) : TaskId → Option (Worker χ)
  | .worker => match s.consumers with
    | .single worker => some worker
    | .perDestination _ _ => none
  | .laneWorker i => match s.consumers with
    | .single _ => none
    | .perDestination _ lanes => lanes[i]?.map (·.worker)
  | .watcher _ | .router => none

theorem System.isBroken_of_worker? {s : System χ} {t : TaskId} {w : Worker χ}
    (h : s.worker? t = some w) : s.isBroken t = w.isBroken := by
  cases hconsumers : s.consumers with
  | single worker =>
    cases t with
    | worker =>
      simp only [worker?, hconsumers, Option.some.injEq] at h
      simp [isBroken, hconsumers, h]
    | laneWorker => simp [worker?, hconsumers] at h
    | watcher | router => cases h
  | perDestination router lanes =>
    cases t with
    | laneWorker i =>
      simp only [worker?, hconsumers, Option.map_eq_some_iff] at h
      obtain ⟨lane, hlane, rfl⟩ := h
      simp [isBroken, hconsumers, hlane]
    | worker => simp [worker?, hconsumers] at h
    | watcher | router => cases h

/-- A worker that has a message in its hands has not ended. -/
theorem System.isFinished_eq_of_worker? {s : System χ} {t : TaskId} {sighting : Sighting}
    {rest : Session χ (Except FulfillmentError Submission)}
    (h : s.worker? t = some (.handling sighting rest)) :
    t ∈ s.taskIds ∧ s.isFinished t = false := by
  cases hconsumers : s.consumers with
  | single worker =>
    cases t with
    | worker =>
      simp only [worker?, hconsumers, Option.some.injEq] at h
      simp [taskIds, isFinished, hconsumers, h, Worker.isFinished]
    | laneWorker => simp [worker?, hconsumers] at h
    | watcher | router => cases h
  | perDestination router lanes =>
    cases t with
    | laneWorker i =>
      simp only [worker?, hconsumers, Option.map_eq_some_iff] at h
      obtain ⟨lane, hlane, hworker⟩ := h
      have hi := (List.getElem?_eq_some_iff.mp hlane).1
      refine ⟨by simp [taskIds, hconsumers, hi], ?_⟩
      simp only [isFinished, hconsumers, hlane, Option.any_some, hworker]
      rfl
    | worker => simp [worker?, hconsumers] at h
    | watcher | router => cases h

/-- When all tasks have ended, no message is in the hands of a worker. -/
theorem Recounts.eq_none_of_isFinished {r : Relayer χ} {turns : List (Turn χ)} {s : System χ}
    {t : TaskId} {blocks : List (Block χ)} {current : Option (Block χ)}
    (h : Recounts r turns (s.worker? t) blocks current)
    (hfinished : ∀ t ∈ s.taskIds, s.isFinished t = true) : current = none := by
  cases current with
  | none => rfl
  | some b =>
    obtain ⟨rest, hworker, -⟩ := h.holds
    obtain ⟨hmem, hgoing⟩ := System.isFinished_eq_of_worker? hworker
    rw [hfinished _ hmem] at hgoing
    cases hgoing

/-- A change is a step of a worker, or it leaves that worker alone. -/
theorem System.Changes.worker_cases {env : Environment χ σ} {s s' : System χ} {nodes nodes' : σ}
    {turn : Turn χ} (h : System.Changes env s nodes turn s' nodes') {t : TaskId}
    (ht : t.IsWorker) :
    (turn.task ≠ some t ∧ s'.worker? t = s.worker? t) ∨
      ∃ w q o, s.worker? t = some w ∧
        Worker.Moves (σ := σ) env s.relayer s.cancelled q nodes w o ∧
        s'.worker? t = some o.task.1 ∧ turn.task = some t ∧ turn.happenings = o.happenings := by
  cases h with
  | aside => exact .inl ⟨by rintro ⟨⟩, by cases t <;> rfl⟩
  | stepped move =>
    cases move with
    | watcher =>
      refine .inl ⟨?_, by cases t <;> rfl⟩
      rintro ⟨⟩
      exact ht
    | router consumers move =>
      refine .inl ⟨?_, ?_⟩
      · rintro ⟨⟩
        exact ht
      · cases t with
        | laneWorker i =>
          simp only [System.worker?, consumers, ← List.getElem?_map, move.map_worker_eq]
        | worker => simp only [System.worker?, consumers]
        | watcher | router => cases ht
    | @worker worker o consumers move =>
      cases t with
      | worker =>
        refine .inr ⟨worker, s.shared, o, ?_, move, rfl, rfl, rfl⟩
        simp only [System.worker?, consumers]
      | laneWorker i =>
        refine .inl ⟨by rintro ⟨⟩, ?_⟩
        simp only [System.worker?, consumers]
      | watcher | router => cases ht
    | @laneWorker i router lanes lane o consumers lane_eq move =>
      cases t with
      | worker =>
        refine .inl ⟨by rintro ⟨⟩, ?_⟩
        simp only [System.worker?, consumers]
      | laneWorker j =>
        by_cases hij : i = j
        · subst hij
          refine .inr ⟨lane.worker, lane.queue, o, ?_, move, ?_, rfl, rfl⟩
          · simp only [System.worker?, consumers, lane_eq, Option.map_some]
          · have hi := (List.getElem?_eq_some_iff.mp lane_eq).1
            simp only [System.worker?, List.getElem?_set_self hi, Option.map_some]
        · refine .inl ⟨?_, ?_⟩
          · rintro ⟨⟩
            exact hij rfl
          · simp only [System.worker?, consumers, List.getElem?_set_ne hij]
      | watcher | router => cases ht

variable {env : Environment χ σ} {r : Relayer χ} {topology : Topology} {capacity period : Nat}
  {outboxes : List (ChainId × Address × χ)} {nodes₀ nodes : σ} {turns : List (Turn χ)}
  {s : Service χ}

/-- The turns of a worker in a run without a breakdown, told by blocks. -/
theorem exists_recounts
    (h : Reaches env (launch r topology capacity period outboxes) nodes₀ turns s nodes)
    (hwhole : s.system.IsWhole) {t : TaskId} (ht : t.IsWorker) :
    ∃ blocks current, Recounts r (turnsOf t turns) (s.system.worker? t) blocks current := by
  induction h with
  | start =>
    refine ⟨[], none, rfl, rfl, by simp, ?_⟩
    intro s rest hworker
    -- All workers wait at first.
    cases topology with
    | single =>
      cases t with
      | worker => cases hworker
      | laneWorker i => cases hworker
      | watcher | router => cases ht
    | perDestination =>
      cases t with
      | worker => cases hworker
      | laneWorker i =>
        simp only [System.worker?, launch, consumers, List.getElem?_map, Option.map_map,
          Option.map_eq_some_iff] at hworker
        obtain ⟨id, -, hworker⟩ := hworker
        cases hworker
      | watcher | router => cases ht
  | @act turns s nodes a o before action ih =>
    have hchange := changes_of_act action
    obtain ⟨blocks, current, hrecounts⟩ := ih (hwhole.of_changes hchange)
    have hturns : turnsOf t (turns ++ [s.turnOf a o]) =
        turnsOf t turns ++ turnsOf t [s.turnOf a o] :=
      List.filter_append ..
    rcases hchange.worker_cases ht with ⟨htask, hworker⟩ | ⟨w, q, o', hw, hmove, hworker, htask, ho⟩
    · refine ⟨blocks, current, ?_⟩
      rw [hturns, turnsOf_of_ne htask, List.append_nil, hworker]
      exact hrecounts
    · rw [(wired_of_reaches before).relayer] at hmove
      rw [hw] at hrecounts
      have hnotBroken : o'.task.1.isBroken = false :=
        (System.isBroken_of_worker? hworker).symm.trans (hwhole t)
      have hturn : s.turnOf a o = ⟨some t, (s.turnOf a o).handled, o'.happenings⟩ := by
        rw [← htask, ← ho]
      rw [hturns, turnsOf_of_eq htask, hworker, hturn]
      exact hrecounts.move hmove hnotBroken

end Service

end CrossCall
