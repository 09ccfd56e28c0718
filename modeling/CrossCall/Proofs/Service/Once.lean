import Mathlib
import CrossCall.Proofs.Service.Custody

/-!
# No log is handled twice

The tasks lose logs when they are cancelled or break down, but they never double one. So a log can
only be handled twice if two watchers saw it, and two watchers see the same logs only if they watch
one outbox of one chain.

## Main definitions

* `polledBy` — the logs that one watcher polled
* `ReportsOnce` — nodes report a log at most once to a watcher, and only a log of its outbox
* `HandlesOnce` — no log of a chain is handed to the relayer more often than it was posted

## Main results

* `System.Changes.count_le` — no change doubles a log, whatever happens in it
* `Service.subperm_handedIn` — what was handed to the relayer was polled as often
* `Service.handlesOnce_of_nodup` — watchers of different outboxes have no log handled twice
-/

namespace CrossCall

variable {χ σ : Type}

namespace Service

/-! ### Once -/

/-- The logs that one watcher polled in some turns. -/
def polledBy (watches : List (Watch χ)) (turns : List (Turn χ)) (i : Nat) : List Log :=
  ((polledIn watches turns).filter (·.watcher = i)).map (·.log)

/-- The logs of a chain that were handed to the relayer in some turns. -/
def handedFrom (turns : List (Turn χ)) (chain : ChainId) : List Log :=
  ((handedIn turns).filter (·.chain = chain)).map (·.log)

/-- The nodes report to each watcher logs of its outbox only, each of them at most once: all that a
watcher polls has its own place in the history of the chain. -/
def ReportsOnce (history : ChainId → List Log) (watches : List (Watch χ)) (turns : List (Turn χ)) :
    Prop :=
  ∀ w ∈ watches, (polledBy watches turns w.id).Subperm
    ((history w.chain).filter fun log => log.address = w.outbox)

/-- No log is handed to the relayer twice: all that is handed on has its own place in the history of
its chain. -/
def HandlesOnce (history : ChainId → List Log) (turns : List (Turn χ)) : Prop :=
  ∀ chain, (handedFrom turns chain).Subperm (history chain)

/-- The outbox that is watched and its chain. -/
def Watch.place (w : Watch χ) : ChainId × Address := (w.chain, w.outbox)

theorem polledIn_append (watches : List (Watch χ)) (turns turns' : List (Turn χ)) :
    polledIn watches (turns ++ turns') = polledIn watches turns ++ polledIn watches turns' :=
  List.flatMap_append

/-! ### What moves a log does not double it -/

section

variable {env : Environment χ σ} {nodes : σ}

/-- What is added to the queue and the batch of a watcher was polled. -/
theorem Watcher.Moves.items_batch_sublist {now : Nat} {cancelled : Bool} {w : Watcher χ} {q : Queue}
    {o : Outcome χ σ (Watcher χ × Queue)} (h : w.Moves env now cancelled q nodes o) :
    (o.task.2.items ++ o.task.1.batch).Sublist
      (q.items ++ (w.batch ++ (o.happenings.flatMap Happening.polled).map w.watch.sighting)) := by
  cases h with
  | forwarded phase put =>
    rw [(eq_of_put put).1]
    simp [batch, phase, moved]
  | polled phase => simp [batch, phase, moved, Happening.polled]
  | paused phase => simp [batch, phase, moved]
  -- Whatever else a watcher does, it holds no batch afterwards.
  | installed | stopped | failed | refusedLog | interrupted | refused | broke | uninstalled =>
    simp [batch, moved, left, Queue.leave]

/-- What a worker hands on, it takes from the front of its queue. -/
theorem Worker.Moves.handed_sublist {r : Relayer χ} {cancelled : Bool} {q : Queue} {w : Worker χ}
    {o : Outcome χ σ (Worker χ × Queue)} (h : w.Moves env r cancelled q nodes o) :
    (o.happenings.filterMap Happening.handed? ++ o.task.2.items).Sublist q.items := by
  cases h with
  | took take =>
    rw [eq_of_take take]
    exact List.Sublist.refl _
  | closed | stopped | broke => exact List.nil_sublist _
  | fulfilled | rejected | asked | looked | noted => exact List.Sublist.refl _

/-- The router hands on nothing by itself, and doubles no log: there is one lane for a
destination. -/
theorem Router.Moves.count_le {cancelled : Bool} {router : Router} {routes : Routes χ}
    {o : Outcome χ σ (Router × Routes χ)} (h : router.Moves cancelled routes nodes o)
    (hnodup : (routes.lanes.map (·.destination)).Nodup) (x : Sighting) :
    o.happenings.filterMap Happening.handed? = [] ∧
      (o.task.2.lanes.flatMap (·.queue.items)).count x + o.task.1.inHand.count x +
          o.task.2.shared.items.count x ≤
        (routes.lanes.flatMap (·.queue.items)).count x + router.inHand.count x +
          routes.shared.items.count x := by
  cases h with
  | closed | stopped =>
    -- The queues stay as they are, only their reader and writers are gone.
    refine ⟨rfl, ?_⟩
    simp [Routes.leave, Queue.leave, Queue.abandon, Router.inHand, List.flatMap_map]
  | unrouted take =>
    refine ⟨rfl, ?_⟩
    rw [eq_of_take take]
    simp [Router.inHand, List.count_cons]
  | routed take =>
    refine ⟨rfl, ?_⟩
    rw [eq_of_take take]
    simp only [Router.inHand, List.count_cons, List.count_nil]
    omega
  | delivered lane put =>
    -- The log goes from the router's hand to the end of one lane, and the other lanes stay.
    refine ⟨rfl, ?_⟩
    obtain ⟨before, l, after, hlanes, rfl, rfl, hset⟩ := Routes.exists_of_queue? hnodup lane
    rw [hset, hlanes, (eq_of_put put).1]
    simp only [Routes.setQueue, Router.inHand, List.flatMap_append, List.flatMap_cons,
      List.count_append, List.count_nil]
    omega
  | lost | abandoned =>
    refine ⟨rfl, ?_⟩
    simp [Router.inHand]

end

/-- The lanes are for different destinations. -/
theorem System.Wired.nodup_lanes {r : Relayer χ} {topology : Topology} {capacity : Nat}
    {watches : List (Watch χ)} {s : System χ} (h : s.Wired r topology capacity watches) :
    (s.consumers.lanes.map (·.destination)).Nodup := by
  have hfits := h.consumers
  cases hconsumers : s.consumers with
  | single worker => exact List.nodup_nil
  | perDestination router lanes =>
    rw [hconsumers] at hfits
    cases hfits with
    | perDestination ids inHand fits => exact ids ▸ r.registry.nodup_ids

/-- No change doubles a log: what is handed on or held afterwards was held before, or was polled. -/
theorem System.Changes.count_le {env : Environment χ σ} {r : Relayer χ} {topology : Topology}
    {capacity : Nat} {watches : List (Watch χ)} {s s' : System χ} {nodes nodes' : σ}
    {turn : Turn χ} (hwired : s.Wired r topology capacity watches)
    (h : System.Changes env s nodes turn s' nodes') (x : Sighting) :
    turn.handed.count x + s'.held.count x ≤ s.held.count x + (turn.polled watches).count x := by
  cases h with
  | aside kept lines =>
    -- No task takes a step, so what is held stays, and nothing is handed on.
    have hnone : ∀ happenings : List (Happening χ), (∀ h ∈ happenings, h.IsLine) →
        happenings.filterMap Happening.handed? = [] :=
      fun _ hlines => List.filterMap_eq_nil_iff.mpr fun h hh => (hlines h hh).handed?_eq
    simp [Turn.handed, hnone _ lines, System.held, System.inTransit, System.batches]
  | stepped move =>
    cases move with
    | @watcher i w o hw step =>
      -- The other watchers keep their batches: the queue and the batch of this one are counted.
      have hmoves := Watcher.moves_of_step step
      obtain ⟨before, after, hwatchers, hset⟩ := exists_eq_append_of_getElem? hw o.task.1
      have hcount := hmoves.items_batch_sublist.count_le x
      have hhanded : o.happenings.filterMap Happening.handed? = [] :=
        List.filterMap_eq_nil_iff.mpr fun y hy => (hmoves.settled?_eq y hy).2.1
      have hpolled : Turn.polled watches
          { task := some (.watcher i), handled := s.handled? (.watcher i)
            happenings := o.happenings } =
            (o.happenings.flatMap Happening.polled).map w.watch.sighting := by
        simp [Turn.polled, hwired.watch_eq hw]
      rw [hpolled]
      simp only [Turn.handed, hhanded, System.held, System.inTransit, System.batches, hset,
        List.count_nil, List.count_append, List.flatMap_append, List.flatMap_cons] at hcount ⊢
      rw [hwatchers]
      simp only [List.count_append, List.flatMap_append, List.flatMap_cons]
      omega
    | @worker w o consumers move =>
      -- What is handed on has left the queue.
      have hcount := move.handed_sublist.count_le x
      simp only [Turn.handed, Turn.polled, System.held, System.inTransit, System.batches, consumers,
        Consumers.lanes, Consumers.inHand, List.flatMap_nil, List.count_append,
        List.count_nil] at hcount ⊢
      omega
    | @router router lanes o consumers move =>
      have hnodup := hwired.nodup_lanes
      rw [consumers] at hnodup
      obtain ⟨hhanded, hcount⟩ := move.count_le hnodup x
      simp only [Turn.handed, hhanded, Turn.polled, System.held, System.inTransit, System.batches,
        consumers, Consumers.lanes, Consumers.inHand, List.count_append, List.count_nil] at hcount ⊢
      omega
    | @laneWorker i router lanes lane o consumers lane_eq move =>
      -- What is handed on has left the queue of this lane, and the other lanes stay.
      obtain ⟨before, after, hlanes, hset⟩ := exists_eq_append_of_getElem? lane_eq
        { lane with worker := o.task.1, queue := o.task.2 }
      have hcount := move.handed_sublist.count_le x
      simp only [Turn.handed, Turn.polled, System.held, System.inTransit, System.batches, consumers,
        Consumers.lanes, Consumers.inHand, hset, List.flatMap_append, List.flatMap_cons,
        List.count_append, List.count_nil] at hcount ⊢
      rw [hlanes]
      simp only [List.flatMap_append, List.flatMap_cons, List.count_append]
      omega

/-! ### Runs -/

variable {env : Environment χ σ} {r : Relayer χ} {topology : Topology} {capacity period : Nat}
  {outboxes : List (ChainId × Address × χ)} {nodes₀ nodes : σ} {turns : List (Turn χ)}
  {s : Service χ}

/-- What was handed to the relayer or is still held was polled, and as often: also if the run was
cancelled, or tasks broke down. -/
theorem count_handedIn_add_le
    (h : Reaches env (launch r topology capacity period outboxes) nodes₀ turns s nodes)
    (x : Sighting) :
    (handedIn turns).count x + s.system.held.count x ≤
      (polledIn (watches period 0 outboxes) turns).count x := by
  induction h with
  | start =>
    rw [held_launch]
    exact Nat.zero_le _
  | act before action ih =>
    -- The step lemma needs the wiring, which every state of a run has.
    have hstep := (changes_of_act action).count_le (wired_of_reaches before) x
    simp only [handedIn, polledIn, List.flatMap_append, List.flatMap_singleton,
      List.count_append] at ih ⊢
    omega

theorem subperm_handedIn
    (h : Reaches env (launch r topology capacity period outboxes) nodes₀ turns s nodes) :
    (handedIn turns).Subperm (polledIn (watches period 0 outboxes) turns) := by
  refine List.subperm_iff_count.mpr fun x => ?_
  have hcount := count_handedIn_add_le h x
  omega

/-! ### Watchers of different outboxes -/

/-- What was polled was seen by a watcher. -/
theorem exists_of_mem_polledIn {watches : List (Watch χ)} {turns : List (Turn χ)} {s : Sighting}
    (h : s ∈ polledIn watches turns) : ∃ w ∈ watches, s = w.sighting s.log := by
  obtain ⟨turn, -, hs⟩ := List.mem_flatMap.mp h
  rw [Turn.polled] at hs
  split at hs
  · obtain ⟨w, hw, hs⟩ := List.mem_flatMap.mp hs
    obtain ⟨log, -, rfl⟩ := List.mem_map.mp hs
    exact ⟨w, List.mem_of_getElem? (Option.mem_toList.mp hw), rfl⟩
  · cases hs

/-- The outbox that a polled log is of, is watched by the watcher that saw it. -/
theorem ReportsOnce.exists_place_eq {history : ChainId → List Log} {watches : List (Watch χ)}
    {turns : List (Turn χ)} (h : ReportsOnce history watches turns) {s : Sighting}
    (hs : s ∈ polledIn watches turns) :
    ∃ w ∈ watches, w.id = s.watcher ∧ w.place = (s.chain, s.log.address) := by
  obtain ⟨w, hw, hsighting⟩ := exists_of_mem_polledIn hs
  have hid : w.id = s.watcher := by rw [hsighting]; rfl
  have hpolled : s.log ∈ polledBy watches turns w.id :=
    List.mem_map_of_mem (List.mem_filter.mpr ⟨hs, decide_eq_true hid.symm⟩)
  have haddress := (List.mem_filter.mp ((h w hw).subset hpolled)).2
  refine ⟨w, hw, hid, ?_⟩
  rw [Watch.place, ← of_decide_eq_true haddress, hsighting]
  rfl

theorem count_map_log (p : Sighting → Bool) (ss : List Sighting) (log : Log) :
    ((ss.filter p).map (·.log)).count log = ss.countP fun s => decide (s.log = log) && p s := by
  rw [List.count_eq_countP, List.countP_map, List.countP_filter]
  congr 1

/-- If no two watchers watch one outbox of one chain, a log is polled once by all of them. -/
theorem count_polledIn_le {history : ChainId → List Log} {watches : List (Watch χ)}
    {turns : List (Turn χ)} (hplaces : (watches.map Watch.place).Nodup)
    (hreports : ReportsOnce history watches turns) (chain : ChainId) (log : Log) :
    (((polledIn watches turns).filter (·.chain = chain)).map (·.log)).count log ≤
      (history chain).count log := by
  by_cases hseen : ∃ s ∈ polledIn watches turns, s.chain = chain ∧ s.log = log
  · -- Only the watcher that saw it once can have seen it again.
    obtain ⟨s₀, hs₀, rfl, rfl⟩ := hseen
    obtain ⟨w₀, hw₀, -, hplace₀⟩ := hreports.exists_place_eq hs₀
    have hsame : ∀ s ∈ polledIn watches turns, s.chain = s₀.chain → s.log = s₀.log →
        s.watcher = w₀.id := by
      intro s hs hchain hlog
      obtain ⟨w, hw, hid, hplace⟩ := hreports.exists_place_eq hs
      rw [hchain, hlog, ← hplace₀] at hplace
      rw [← hid, List.inj_on_of_nodup_map hplaces hw hw₀ hplace]
    have hchain : s₀.chain = w₀.chain := congrArg Prod.fst hplace₀.symm
    calc (((polledIn watches turns).filter (·.chain = s₀.chain)).map (·.log)).count s₀.log
        ≤ (polledBy watches turns w₀.id).count s₀.log := by
          rw [polledBy, count_map_log, count_map_log]
          refine List.countP_mono_left fun s hs hboth => ?_
          simp only [Bool.and_eq_true, decide_eq_true_eq] at hboth ⊢
          exact ⟨hboth.1, hsame s hs hboth.2 hboth.1⟩
      _ ≤ ((history w₀.chain).filter fun log => log.address = w₀.outbox).count s₀.log :=
          (hreports w₀ hw₀).count_le _
      _ ≤ (history s₀.chain).count s₀.log := by
          rw [hchain]
          exact List.filter_sublist.count_le _
  · -- Nobody saw the log.
    rw [List.count_eq_zero_of_not_mem]
    · exact Nat.zero_le _
    · intro hmem
      obtain ⟨s, hs, hlog⟩ := List.mem_map.mp hmem
      obtain ⟨hs, hchain⟩ := List.mem_filter.mp hs
      exact hseen ⟨s, hs, of_decide_eq_true hchain, hlog⟩

/-- Watchers of different outboxes have no log handled twice, in every run: in both topologies, for
every capacity, in whatever order the tasks take turns, and also if they are cancelled or break
down. -/
theorem handlesOnce_of_nodup
    (h : Reaches env (launch r topology capacity period outboxes) nodes₀ turns s nodes)
    (hplaces : ((watches period 0 outboxes).map Watch.place).Nodup) {history : ChainId → List Log}
    (hreports : ReportsOnce history (watches period 0 outboxes) turns) :
    HandlesOnce history turns := by
  intro chain
  refine List.subperm_iff_count.mpr fun log => ?_
  have hle : (handedFrom turns chain).count log ≤
      (((polledIn (watches period 0 outboxes) turns).filter (·.chain = chain)).map
        (·.log)).count log := by
    rw [handedFrom, count_map_log, count_map_log]
    exact (subperm_handedIn h).countP_le _
  exact hle.trans (count_polledIn_le hplaces hreports chain log)

end Service

end CrossCall
