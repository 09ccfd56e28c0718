import Mathlib
import CrossCall.Proofs.Service.Custody

/-!
# One message after the other

What a client is asked for the fulfillment of messages comes in blocks, one for every message that
was handed on for its chain, and in their order. Cancellations change nothing about this, as a
worker notices them between two messages only.

The messages for a chain are all handled by the same worker, whose turns are told by its blocks, and
nobody else asks the client of that chain what is asked for a fulfillment.

## Main definitions

* `Turn.IsProper` — who hands messages on, and who asks for fulfillments
* `callsTo` — what a client was asked for the fulfillment of messages
* `Serialized` — the blocks at a client

## Main results

* `Turn.IsProper.of_changes` — every turn is proper
* `Service.serialized_of_reaches` — the blocks at a client in every state that a run reaches
-/

namespace CrossCall

variable {χ σ : Type}

namespace Service

variable {env : Environment χ σ} {r : Relayer χ} {topology : Topology} {capacity period : Nat}
  {outboxes : List (ChainId × Address × χ)} {nodes₀ nodes : σ} {turns : List (Turn χ)}
  {s : Service χ}

/-! ### Who handles what -/

/-- The worker that handles what is for the `i`-th registered chain. -/
def attendant : Topology → Nat → TaskId
  | .single, _ => .worker
  | .perDestination, i => .laneWorker i

theorem isWorker_attendant (topology : Topology) (i : Nat) : (attendant topology i).IsWorker := by
  cases topology <;> trivial

/-- In a turn a message is handed on by the worker for its chain, and only workers ask what is asked
for a fulfillment. -/
structure Turn.IsProper (r : Relayer χ) (topology : Topology) (turn : Turn χ) : Prop where
  handed : ∀ s ∈ turn.handed, ∀ i id, r.registry.ids[i]? = some id → r.route? s.log = some id →
    turn.task = some (attendant topology i)
  calls : ∀ e ∈ exchanges turn.events, e.request.isFulfillment = true →
    ∃ t, turn.task = some t ∧ t.IsWorker

theorem Turn.mem_exchanges_events {turn : Turn χ} {e : Exchange χ} :
    e ∈ exchanges turn.events ↔ .event (.exchange e) ∈ turn.happenings := by
  rw [exchanges, events, List.mem_filterMap]
  constructor
  · rintro ⟨event, hevent, hexchange⟩
    obtain ⟨happening, hmem, hhappening⟩ := List.mem_filterMap.mp hevent
    cases event with
    | note n => cases hexchange
    | exchange e' =>
      cases hexchange
      cases happening with
      | event e'' =>
        cases hhappening
        exact hmem
      | queued | handed | dropped => cases hhappening
  · intro hmem
    exact ⟨.exchange e, List.mem_filterMap.mpr ⟨_, hmem, rfl⟩, rfl⟩

/-- What a watcher asks is not asked for a fulfillment. -/
theorem Watcher.Moves.isFulfillment_eq {now : Nat} {cancelled : Bool} {w : Watcher χ} {q : Queue}
    {o : Outcome χ σ (Watcher χ × Queue)} (h : w.Moves env now cancelled q nodes o)
    {e : Exchange χ} (he : .event (.exchange e) ∈ o.happenings) :
    e.request.isFulfillment = false := by
  have hline : ∀ {x : Happening χ}, x.IsLine → .event (.exchange e) = x → False := by
    rintro x ⟨level, target, text, rfl⟩ ⟨⟩
  cases h with
  | uninstalled phase answer_eq unbroken lines_eq =>
    rcases List.mem_cons.mp he with he | he
    · cases he
      rfl
    · exact (hline (lines_eq _ he) rfl).elim
  | broke asks =>
    cases List.mem_singleton.mp he
    rw [request?] at asks
    split at asks <;> cases asks <;> rfl
  | installed | polled | failed =>
    cases List.mem_singleton.mp he
    rfl
  | refused =>
    rcases List.mem_cons.mp he with he | he
    · cases he
      rfl
    · cases List.mem_singleton.mp he
  | stopped | interrupted => cases List.mem_singleton.mp he
  | paused => cases he
  | forwarded | refusedLog =>
    simp [announced, Happening.line] at he

/-- What a worker hands on comes from its queue. -/
theorem Worker.Moves.mem_items_of_handed {cancelled : Bool} {q : Queue} {w : Worker χ}
    {o : Outcome χ σ (Worker χ × Queue)} (h : w.Moves env r cancelled q nodes o) {s : Sighting}
    (hs : s ∈ o.happenings.filterMap Happening.handed?) : s ∈ q.items := by
  cases h with
  | took take =>
    rw [eq_of_take take]
    exact List.mem_singleton.mp hs ▸ List.mem_cons_self
  | closed | stopped | fulfilled | rejected | asked | broke | looked | noted => cases hs

/-- Every turn is proper. -/
theorem Turn.IsProper.of_changes {watches : List (Watch χ)} {s s' : System χ} {nodes' : σ}
    {turn : Turn χ} (hwired : s.Wired r topology capacity watches)
    (hchange : System.Changes env s nodes turn s' nodes') : turn.IsProper r topology := by
  have hhanded : ∀ s ∈ turn.handed, ∃ t, turn.task = some t ∧ t.IsWorker :=
    fun s hs => hchange.exists_isWorker_of_handed (List.ne_nil_of_mem hs)
  cases hchange with
  | aside kept lines =>
    constructor
    · intro s hs
      obtain ⟨t, ⟨⟩, -⟩ := hhanded s hs
    · intro e he
      obtain ⟨level, target, text, hline⟩ := lines _ (Turn.mem_exchanges_events.mp he)
      cases hline
  | stepped move =>
    cases move with
    | watcher hw step =>
      constructor
      · intro s hs
        obtain ⟨t, ⟨⟩, ⟨⟩⟩ := hhanded s hs
      · intro e he hfulfillment
        have hmoves := Watcher.moves_of_step step
        rw [hmoves.isFulfillment_eq (Turn.mem_exchanges_events.mp he)] at hfulfillment
        cases hfulfillment
    | router consumers move =>
      constructor
      · intro s hs
        obtain ⟨t, ⟨⟩, ⟨⟩⟩ := hhanded s hs
      · intro e he
        exact absurd (Turn.mem_exchanges_events.mp he) (move.quiet.2 e)
    | worker consumers move =>
      have hfits := hwired.consumers
      rw [consumers] at hfits
      cases hfits
      exact ⟨fun s hs i id hi hroute => rfl, fun e he hfulfillment => ⟨_, rfl, trivial⟩⟩
    | @laneWorker j router lanes lane o consumers lane_eq move =>
      have hfits := hwired.consumers
      rw [consumers] at hfits
      cases hfits with
      | perDestination ids inHand fits =>
        refine ⟨fun s hs i id hi hroute => ?_, fun e he hfulfillment => ⟨_, rfl, trivial⟩⟩
        have hlane := (fits lane (List.mem_of_getElem? lane_eq)).items s
          (move.mem_items_of_handed hs)
        rw [hroute] at hlane
        have hj : r.registry.ids[j]? = some id := by
          rw [← ids, List.getElem?_map, lane_eq, Option.map_some, ← hlane]
        rw [Registry.index_eq_of_getElem? hi hj]
        rfl

theorem isProper_of_reaches
    (h : Reaches env (launch r topology capacity period outboxes) nodes₀ turns s nodes) :
    ∀ turn ∈ turns, turn.IsProper r topology := by
  induction h with
  | start => simp
  | act before action ih =>
    intro turn hturn
    rcases List.mem_append.mp hturn with hturn | hturn
    · exact ih turn hturn
    · rw [List.mem_singleton.mp hturn]
      exact .of_changes (wired_of_reaches before) (changes_of_act action)

/-! ### The blocks at a client -/

/-- What a client was asked for the fulfillment of messages, in order. -/
def callsTo [DecidableEq χ] (client : χ) (turns : List (Turn χ)) : List (Exchange χ) :=
  (exchanges (eventsIn turns)).filter fun e => e.node = client ∧ e.request.isFulfillment

/-- A filter keeps only what comes from a part of a list, if it keeps nothing of the rest. -/
theorem filter_flatMap_filter {α β : Type} {f : α → List β} {p : β → Bool} {q : α → Bool}
    {as : List α} (h : ∀ a ∈ as, q a = false → ∀ b ∈ f a, p b = false) :
    (as.flatMap f).filter p = ((as.filter q).flatMap f).filter p := by
  induction as with
  | nil => rfl
  | cons a as ih =>
    have htail := ih fun a' ha' => h a' (List.mem_cons_of_mem _ ha')
    rw [List.flatMap_cons, List.filter_append, htail]
    cases hq : q a with
    | true => rw [List.filter_cons_of_pos hq, List.flatMap_cons, List.filter_append]
    | false =>
      have hnone : (f a).filter p = [] := by
        refine List.filter_eq_nil_iff.mpr fun b hb => ?_
        rw [h a List.mem_cons_self hq b hb]
        exact Bool.false_ne_true
      rw [List.filter_cons_of_neg (by rw [hq]; exact Bool.false_ne_true), hnone, List.nil_append]

/-- Whether a worker has a message in its hands. -/
def System.IsHandling (s : System χ) (sighting : Sighting) : Prop :=
  ∃ t rest, s.worker? t = some (.handling sighting rest)

/-- What the client of a chain was asked for the fulfillment of messages: block after block, for the
messages that were handed on for the chain, in their order. Every block is what is said in a whole
handling, but for the last one, as long as a worker has its message in its hands. Every transaction
directly follows the answer with the nonce that it carries. -/
structure Serialized [DecidableEq χ] (r : Relayer χ) (id : ChainId) (client : χ)
    (turns : List (Turn χ)) (s : System χ) (blocks : List (Block χ)) (current : Option (Block χ)) :
    Prop where
  calls : callsTo client turns = (blocks ++ current.toList).flatMap Block.calls
  handed : logsFor r id (handedIn turns) = (blocks ++ current.toList).map Block.sighting
  whole : ∀ b ∈ blocks, r.IsRun b.sighting b.calls
  underway : ∀ b ∈ current, s.IsHandling b.sighting ∧ ∃ more, r.IsRun b.sighting (b.calls ++ more)
  ended : (∀ t ∈ s.taskIds, s.isFinished t = true) → current = none
  nonces : r.SendsNext id (callsTo client turns)

/-- Whether the message of a block is for a chain. -/
def Block.isFor (r : Relayer χ) (id : ChainId) (b : Block χ) : Bool :=
  r.route? b.sighting.log = some id

theorem sendsNext_flatMap {id : ChainId} {blocks : List (Block χ)}
    (h : ∀ b ∈ blocks, r.SendsNext id b.calls) : r.SendsNext id (blocks.flatMap Block.calls) := by
  induction blocks with
  | nil => exact Relayer.sendsNext_of_quiet (by simp)
  | cons b blocks ih =>
    rw [List.flatMap_cons]
    exact (h b List.mem_cons_self).append (ih fun b' hb' => h b' (List.mem_cons_of_mem _ hb'))

/-- The turns of a worker are all that a client sees, if the worker is the one for its chain. -/
theorem callsTo_eq [DecidableEq χ] (hclients : (r.registry.chains.map (·.client)).Nodup)
    {id : ChainId} {client : χ} (hclient : IsClientOf r id client) {i : Nat}
    (hi : r.registry.ids[i]? = some id) (hproper : ∀ turn ∈ turns, turn.IsProper r topology)
    (hrecounts : ∀ {t : TaskId}, t.IsWorker →
      ∃ worker blocks current, Recounts r (turnsOf t turns) worker blocks current) :
    callsTo client turns =
      (exchanges (eventsIn (turnsOf (attendant topology i) turns))).filter
        fun e => e.node = client ∧ e.request.isFulfillment := by
  rw [callsTo, exchanges_eventsIn, exchanges_eventsIn, turnsOf]
  refine filter_flatMap_filter fun turn hturn hother e he => ?_
  rw [decide_eq_false_iff_not]
  rintro ⟨rfl, hfulfillment⟩
  obtain ⟨t, htask, hworker⟩ := (hproper turn hturn).calls e he hfulfillment
  obtain ⟨worker, blocks, current, h⟩ := hrecounts hworker
  -- The exchange is in a block of the worker, and the block's message is for the chain.
  have hmem : e ∈ exchanges (eventsIn (turnsOf t turns)) := by
    rw [exchanges_eventsIn]
    refine List.mem_flatMap.mpr ⟨turn, List.mem_filter.mpr ⟨hturn, ?_⟩, he⟩
    rw [htask]
    exact decide_eq_true rfl
  rw [h.calls] at hmem
  obtain ⟨b, hb, hmem⟩ := List.mem_flatMap.mp hmem
  obtain ⟨more, hrun⟩ := h.exists_isRun hb
  obtain ⟨-, id', hroute, hclient'⟩ := hrun.of_mem (List.mem_append_left _ hmem)
  obtain rfl := hclient.id_eq hclients hclient'
  -- So the worker is the one for the chain.
  have hhanded : b.sighting ∈ handedIn (turnsOf t turns) := by
    rw [h.handed]
    exact List.mem_map_of_mem hb
  obtain ⟨turn', hturn', hhanded⟩ := List.mem_flatMap.mp hhanded
  obtain ⟨hturn', htask'⟩ := List.mem_filter.mp hturn'
  have hattendant := (hproper turn' hturn').handed _ hhanded i id hi hroute
  rw [of_decide_eq_true htask'] at hattendant
  rw [htask, hattendant] at hother
  exact absurd rfl (of_decide_eq_false hother)

theorem logsFor_handedIn_eq {id : ChainId} {i : Nat} (hi : r.registry.ids[i]? = some id)
    (hproper : ∀ turn ∈ turns, turn.IsProper r topology) :
    logsFor r id (handedIn turns) =
      logsFor r id (handedIn (turnsOf (attendant topology i) turns)) := by
  rw [logsFor, logsFor, handedIn, handedIn, turnsOf]
  refine filter_flatMap_filter fun turn hturn hother s hs => ?_
  rw [decide_eq_false_iff_not]
  intro hroute
  exact of_decide_eq_false hother ((hproper turn hturn).handed s hs i id hi hroute)

/-- What the client of a chain was asked, in every state that a run reaches without a breakdown: for
any outboxes, in both topologies, for every capacity, and whenever the service is cancelled. -/
theorem serialized_of_reaches [DecidableEq χ]
    (h : Reaches env (launch r topology capacity period outboxes) nodes₀ turns s nodes)
    (hwhole : s.system.IsWhole) (hclients : (r.registry.chains.map (·.client)).Nodup)
    {id : ChainId} {client : χ} (hclient : IsClientOf r id client) :
    ∃ blocks current, Serialized r id client turns s.system blocks current := by
  have hid : id ∈ r.registry.ids := by
    obtain ⟨registration, hget, -⟩ := hclient
    exact Registry.isSome_get?_iff.mp (Option.isSome_iff_exists.mpr ⟨registration, hget⟩)
  obtain ⟨i, hi⟩ := List.mem_iff_getElem?.mp hid
  have hproper := isProper_of_reaches h
  obtain ⟨blocks, current, hrecounts⟩ :=
    exists_recounts h hwhole (isWorker_attendant topology i)
  -- The worker's blocks for the chain are the blocks at the client.
  have hsplit : (blocks ++ current.toList).filter (Block.isFor r id) =
      blocks.filter (Block.isFor r id) ++ (current.filter (Block.isFor r id)).toList := by
    rw [List.filter_append, Option.toList_filter]
  have hcalls : callsTo client turns =
      ((blocks ++ current.toList).filter (Block.isFor r id)).flatMap Block.calls := by
    rw [callsTo_eq hclients hclient hi hproper fun ht => ⟨_, exists_recounts h hwhole ht⟩,
      hrecounts.calls]
    refine filter_flatMap_eq fun b hb e he => ?_
    obtain ⟨more, hrun⟩ := hrecounts.exists_isRun hb
    obtain ⟨hfulfillment, id', hroute, hclient'⟩ := hrun.of_mem (List.mem_append_left _ he)
    simp only [Block.isFor, hroute, hfulfillment, and_true, decide_eq_decide, Option.some.injEq]
    constructor
    · rintro rfl
      exact hclient'.id_eq hclients hclient
    · rintro rfl
      exact hclient'.eq hclient
  refine ⟨blocks.filter (Block.isFor r id), current.filter (Block.isFor r id), ?_, ?_, ?_, ?_, ?_,
    ?_⟩
  · rw [hcalls, hsplit]
  · rw [logsFor_handedIn_eq hi hproper, hrecounts.handed, ← hsplit, logsFor, List.filter_map]
    rfl
  · exact fun b hb => hrecounts.whole b (List.mem_filter.mp hb).1
  · intro b hb
    obtain rfl := (Option.mem_filter_iff.mp hb).1
    obtain ⟨rest, hworker, hleads⟩ := hrecounts.holds
    exact ⟨⟨_, rest, hworker⟩, Relayer.exists_isRun_of_leads hleads⟩
  · intro hfinished
    rw [hrecounts.eq_none_of_isFinished hfinished]
    rfl
  · rw [hcalls]
    refine sendsNext_flatMap fun b hb => ?_
    obtain ⟨hmem, hroute⟩ := List.mem_filter.mp hb
    obtain ⟨more, hrun⟩ := hrecounts.exists_isRun hmem
    exact (hrun.sendsNext (of_decide_eq_true hroute)).of_append

/-! ### A run that is cancelled -/

namespace TwoChains

/-- The actions of a run that is cancelled when a worker has asked for the nonce. -/
def cancelledActions : List Service.Action :=
  steps 3 (.watcher 0) ++ steps 2 .router ++ steps 9 (.laneWorker 1) ++ [.cancel] ++
    steps 6 (.laneWorker 1)

/-- Whether a service was cancelled, and yet a client was asked all four questions. -/
def isServedThoughCancelled (turns : List (Turn Bool)) (s : Service Bool) : Bool :=
  s.system.cancelled && (s.system.watchers.all fun w => !w.isBroken) &&
    (s.system.consumers.workers.all fun w => !w.isBroken) && (callsTo true turns).length == 4

theorem serialized_of_cancelledActions :
    ∃ turns s nodes, Reaches polling pollingService 0 turns s nodes ∧ s.system.IsWhole ∧
      s.system.cancelled = true ∧ (callsTo true turns).length = 4 ∧
      ∃ blocks current, Serialized relayer 2 true turns s.system blocks current := by
  have hrun : ((pollingService.follow polling cancelledActions 0).any fun t =>
      isServedThoughCancelled t.1 t.2.1) = true := by decide +kernel
  obtain ⟨⟨turns, s, nodes⟩, hfollow, hserved⟩ := (Option.any_eq_true _ _).mp hrun
  have hreaches : Reaches polling pollingService 0 turns s nodes := by
    simpa using Reaches.start.of_follow hfollow
  simp only [isServedThoughCancelled, Bool.and_eq_true, beq_iff_eq, List.all_eq_true,
    Bool.not_eq_true'] at hserved
  obtain ⟨⟨⟨hcancelled, hwatchers⟩, hworkers⟩, hcalls⟩ := hserved
  have hwhole : s.system.IsWhole := System.isWhole_iff.mpr ⟨hwatchers, hworkers⟩
  have hclient : IsClientOf relayer 2 true := ⟨_, rfl, rfl⟩
  exact ⟨turns, s, nodes, hreaches, hwhole, hcancelled, hcalls,
    serialized_of_reaches hreaches hwhole (by decide) hclient⟩

end TwoChains

end Service

end CrossCall
