import Mathlib
import CrossCall.Proofs.Service.PerDestination
import CrossCall.Proofs.Service.SingleWorker

/-!
# The topologies agree

Whether one worker handles all logs or every destination has its own, each client is asked the same
in the same order, and the same is sent to each chain. The counters agree but for the logs that the
router drops, which the one worker takes in and rejects before it asks anybody.

Both are compared with handling the logs one after the other. A turn with an exchange or an outcome
belongs to one lane, so what happens at one client, or for one chain, is what happens in the turns of
one lane. The outcomes of all lanes together are those of the one worker in another order.

## Main definitions

* `Scene.Agree` — what two runs have in common

## Main results

* `Scene.agree_of_finishes` — every two runs to the end agree, one in each topology
-/

namespace CrossCall

variable {χ : Type}

/-- A log is for no registered chain if it cannot be read or names another chain. -/
theorem Relayer.route?_eq_none_iff {r : Relayer χ} {log : Log} :
    r.route? log = none ↔ ∀ m, PostedMessage.decodeLog log = .ok m →
      r.registry.get? m.destinationId = none := by
  rw [route?]
  cases PostedMessage.decodeLog log with
  | error e => simp
  | ok m => simp

namespace Service

/-! ### Turns and their lanes -/

/-- A filter keeps of what comes from a list what comes from the part that it keeps to. -/
theorem filter_flatMap_eq {α β : Type} {f : α → List β} {p : β → Bool} {q : α → Bool} {as : List α}
    (h : ∀ a ∈ as, ∀ b ∈ f a, p b = q a) : (as.flatMap f).filter p = (as.filter q).flatMap f := by
  induction as with
  | nil => rfl
  | cons a as ih =>
    have htail := ih fun a' ha' => h a' (List.mem_cons_of_mem _ ha')
    have hhead := h a List.mem_cons_self
    rw [List.flatMap_cons, List.filter_append, htail]
    by_cases hq : q a = true
    · rw [List.filter_cons_of_pos hq, List.flatMap_cons,
        List.filter_eq_self.mpr fun b hb => (hhead b hb).trans hq]
    · rw [List.filter_cons_of_neg hq, List.filter_eq_nil_iff.mpr fun b hb => by
        rwa [hhead b hb], List.nil_append]

theorem exchanges_eventsIn (turns : List (Turn χ)) :
    exchanges (eventsIn turns) = turns.flatMap fun turn => exchanges turn.events := by
  induction turns with
  | nil => rfl
  | cons turn turns ih =>
    rw [eventsIn, List.flatMap_cons, exchanges_append, List.flatMap_cons, ← ih, eventsIn]

theorem measured_eventsIn (series : Series) (turns : List (Turn χ)) :
    measured series (eventsIn turns) = (turns.map fun turn => measured series turn.events).sum := by
  induction turns with
  | nil => rfl
  | cons turn turns ih =>
    rw [eventsIn, List.flatMap_cons, measured_append, List.map_cons, List.sum_cons, ← ih, eventsIn]

theorem sum_handledIn (f : Handled → Nat) (turns : List (Turn χ)) :
    ((handledIn turns).map f).sum =
      (turns.map fun turn => (turn.handled.toList.map f).sum).sum := by
  induction turns with
  | nil => rfl
  | cons turn turns ih =>
    rw [handledIn, List.flatMap_cons, List.map_append, List.sum_append, List.map_cons,
      List.sum_cons, ← ih, handledIn]

/-- What is added up over the turns of the lanes is added up lane by lane. -/
theorem sum_turnsOf {n : Nat} {f : Turn χ → Nat} {turns : List (Turn χ)}
    (h : ∀ turn ∈ turns, f turn = 0 ∨ ∃ i < n, turn.task = some (.laneWorker i)) :
    (turns.map f).sum =
      ∑ i ∈ Finset.range n, ((turnsOf (.laneWorker i) turns).map f).sum := by
  induction turns with
  | nil => simp [turnsOf]
  | cons turn turns ih =>
    have htail := ih fun turn' hturn => h turn' (List.mem_cons_of_mem _ hturn)
    have hsplit : ∀ i, ((turnsOf (.laneWorker i) (turn :: turns)).map f).sum =
        (if turn.task = some (.laneWorker i) then f turn else 0) +
          ((turnsOf (.laneWorker i) turns).map f).sum := by
      intro i
      by_cases htask : turn.task = some (.laneWorker i)
      · simp [turnsOf, htask]
      · simp [turnsOf, htask]
    rw [List.map_cons, List.sum_cons, htail, Finset.sum_congr rfl fun i _ => hsplit i,
      Finset.sum_add_distrib]
    congr 1
    rcases h turn List.mem_cons_self with hzero | ⟨i, hi, htask⟩
    · simp [hzero]
    · simp [htask, hi]

/-! ### What a run with lanes comes to -/

namespace Scene.Sorted

variable {clients : Clients χ} {r : Relayer χ} {feed : List Sighting} {asked : χ → List Request}
  {turns : List (Turn χ)}

/-- An exchange takes place in the turn of a lane, with the client of its chain. -/
theorem of_mem_exchanges (h : Sorted clients r feed asked turns) {turn : Turn χ}
    (hturn : turn ∈ turns) {e : Exchange χ} (he : e ∈ exchanges turn.events) :
    ∃ i id, r.registry.ids[i]? = some id ∧ turn.task = some (.laneWorker i) ∧
      IsClientOf r id e.node := by
  rcases h.others turn hturn with ⟨-, hfacts⟩ | ⟨i, hi, htask⟩
  · rw [← exchanges_facts, hfacts] at he
    cases he
  · obtain ⟨id, hid⟩ : ∃ id, r.registry.ids[i]? = some id := ⟨_, List.getElem?_eq_getElem hi⟩
    obtain ⟨client, hclient⟩ := exists_isClientOf (List.mem_of_getElem? hid)
    have hmem : e ∈ exchanges (eventsIn (turnsOf (.laneWorker i) turns)) := by
      rw [exchanges_eventsIn, List.mem_flatMap]
      exact ⟨turn, List.mem_filter.mpr ⟨hturn, by simpa using htask⟩, he⟩
    rw [← exchanges_facts, h.facts i id client hid hclient, exchanges_facts] at hmem
    obtain ⟨s, hs, id', registration, hroute, hget, hnode⟩ := Relayer.isNodeOf_of_mem_drain hmem
    have hid' : r.route? s.log = some id := by simpa using (List.mem_filter.mp hs).2
    obtain rfl : id = id' := Option.some.inj (hid'.symm.trans hroute)
    exact ⟨i, id, hid, htask, registration, hget, hnode⟩

/-- An outcome comes about in the turn of a lane, for a log that is for its chain. -/
theorem of_mem_handled (h : Sorted clients r feed asked turns) {turn : Turn χ}
    (hturn : turn ∈ turns) {outcome : Handled} (houtcome : outcome ∈ turn.handled.toList) :
    ∃ i id, r.registry.ids[i]? = some id ∧ turn.task = some (.laneWorker i) ∧
      r.route? outcome.1.log = some id := by
  rcases h.others turn hturn with ⟨hnone, -⟩ | ⟨i, hi, htask⟩
  · rw [hnone] at houtcome
    cases houtcome
  · obtain ⟨id, hid⟩ : ∃ id, r.registry.ids[i]? = some id := ⟨_, List.getElem?_eq_getElem hi⟩
    obtain ⟨client, hclient⟩ := exists_isClientOf (List.mem_of_getElem? hid)
    have hmem : outcome ∈ handledIn (turnsOf (.laneWorker i) turns) :=
      List.mem_flatMap.mpr ⟨turn, List.mem_filter.mpr ⟨hturn, by simpa using htask⟩, houtcome⟩
    rw [h.handled i id client hid hclient] at hmem
    have hs := List.mem_map_of_mem (f := Prod.fst) hmem
    rw [Relayer.map_fst_drain] at hs
    exact ⟨i, id, hid, htask, by simpa using (List.mem_filter.mp hs).2⟩

/-- The outcomes for a chain are those of handling all logs one after the other. -/
theorem handled_filter [DecidableEq χ] (h : Sorted clients r feed asked turns)
    (hclients : (r.registry.chains.map (·.client)).Nodup) (id : ChainId) :
    (handledIn turns).filter (fun outcome => r.route? outcome.1.log = some id) =
      ((r.drain feed).run clients.environment asked).1.filter
        (fun outcome => r.route? outcome.1.log = some id) := by
  by_cases hmem : id ∈ r.registry.ids
  · -- The chain has a lane, and the outcomes for it are those of the lane's turns.
    obtain ⟨i, hid⟩ := List.getElem?_of_mem hmem
    obtain ⟨client, hclient⟩ := exists_isClientOf hmem
    have hlane : (handledIn turns).filter (fun outcome => r.route? outcome.1.log = some id) =
        handledIn (turnsOf (.laneWorker i) turns) := by
      refine filter_flatMap_eq fun turn hturn outcome houtcome => ?_
      obtain ⟨j, id', hid', htask, hroute⟩ := h.of_mem_handled hturn houtcome
      rw [hroute, htask, decide_eq_decide, Option.some_inj, Option.some_inj]
      constructor
      · rintro rfl
        rw [Registry.index_eq_of_getElem? hid' hid]
      · rintro ⟨⟩
        exact Option.some.inj (hid'.symm.trans hid)
    obtain ⟨registration, hget, rfl⟩ := hclient
    rw [hlane, h.handled i id _ hid ⟨registration, hget, rfl⟩]
    exact (Relayer.run_drain_alone hclients hget clients feed asked).1
  · -- No log is for the chain.
    have hnone : ∀ outcome : Handled, r.route? outcome.1.log ≠ some id := by
      intro outcome hroute
      exact hmem (mem_ids_of_route? hroute)
    simp [hnone]

/-- What happens at a client is what happens there while all logs are handled one after the other. -/
theorem exchanges_filter [DecidableEq χ] (h : Sorted clients r feed asked turns)
    (hclients : (r.registry.chains.map (·.client)).Nodup) (client : χ) :
    (exchanges (eventsIn turns)).filter (·.node = client) =
      (exchanges ((r.drain feed).run clients.environment asked).2.2).filter (·.node = client) := by
  by_cases hclient : ∃ id, IsClientOf r id client
  · -- The client's chain has a lane, and is asked in the lane's turns only.
    obtain ⟨id, registration, hget, rfl⟩ := hclient
    have hclient : IsClientOf r id registration.client := ⟨registration, hget, rfl⟩
    obtain ⟨i, hid⟩ := List.getElem?_of_mem
      (Registry.isSome_get?_iff.mp (Option.isSome_of_eq_some hget))
    have hlane : (exchanges (eventsIn turns)).filter (·.node = registration.client) =
        exchanges (eventsIn (turnsOf (.laneWorker i) turns)) := by
      rw [exchanges_eventsIn, exchanges_eventsIn]
      refine filter_flatMap_eq fun turn hturn e he => ?_
      obtain ⟨j, id', hid', htask, hnode⟩ := h.of_mem_exchanges hturn he
      rw [htask, decide_eq_decide, Option.some_inj]
      constructor
      · intro heq
        obtain rfl := (heq ▸ hnode).id_eq hclients hclient
        rw [Registry.index_eq_of_getElem? hid' hid]
      · rintro ⟨⟩
        obtain rfl := Option.some.inj (hid'.symm.trans hid)
        exact hnode.eq hclient
    rw [hlane, ← exchanges_facts, h.facts i id _ hid hclient, exchanges_facts]
    exact (Relayer.run_drain_alone hclients hget clients feed asked).2
  · -- Nobody asks what is no chain's client.
    have hleft : (exchanges (eventsIn turns)).filter (·.node = client) = [] := by
      refine List.filter_eq_nil_iff.mpr fun e he hnode => hclient ?_
      rw [exchanges_eventsIn, List.mem_flatMap] at he
      obtain ⟨turn, hturn, he⟩ := he
      obtain ⟨j, id, -, -, hclient⟩ := h.of_mem_exchanges hturn he
      exact ⟨id, of_decide_eq_true hnode ▸ hclient⟩
    have hright : (exchanges ((r.drain feed).run clients.environment asked).2.2).filter
        (·.node = client) = [] := by
      refine List.filter_eq_nil_iff.mpr fun e he hnode => hclient ?_
      obtain ⟨s, -, id, registration, -, hget, hclient⟩ := Relayer.isNodeOf_of_mem_drain he
      exact ⟨id, registration, hget, hclient.trans (of_decide_eq_true hnode)⟩
    rw [hleft, hright]

/-- All outcomes together are those of the logs for registered chains, in some order. -/
theorem handled_perm [DecidableEq χ] (h : Sorted clients r feed asked turns)
    (hclients : (r.registry.chains.map (·.client)).Nodup) :
    (handledIn turns).Perm (((r.drain feed).run clients.environment asked).1.filter
      fun outcome => r.route? outcome.1.log ≠ none) := by
  classical
  rw [List.perm_iff_count]
  intro outcome
  cases hroute : r.route? outcome.1.log with
  | none =>
    have hleft : outcome ∉ handledIn turns := by
      intro hmem
      obtain ⟨turn, hturn, houtcome⟩ := List.mem_flatMap.mp hmem
      obtain ⟨i, id, -, -, hroute'⟩ := h.of_mem_handled hturn houtcome
      rw [hroute] at hroute'
      cases hroute'
    rw [List.count_eq_zero_of_not_mem hleft, List.count_eq_zero_of_not_mem]
    simp [hroute]
  | some id =>
    -- Outcomes for one chain are compared with each other.
    have hcount : ∀ outcomes : List Handled, outcomes.count outcome =
        (outcomes.filter fun outcome => r.route? outcome.1.log = some id).count outcome :=
      fun outcomes => (List.count_filter (by simpa using hroute)).symm
    rw [List.count_filter (by simp [hroute]), hcount, h.handled_filter hclients, ← hcount]

/-- The handling of every log is counted in the lanes as it is elsewhere. -/
theorem measured_eq (h : Sorted clients r feed asked turns) (series : Series) :
    measured series (eventsIn turns) =
      ((handledIn turns).map fun outcome => Relayer.handlingAmount series outcome.2).sum := by
  have hlane : ∀ i ∈ Finset.range r.registry.ids.length,
      measured series (eventsIn (turnsOf (.laneWorker i) turns)) =
        ((handledIn (turnsOf (.laneWorker i) turns)).map fun outcome =>
          Relayer.handlingAmount series outcome.2).sum := by
    intro i hi
    obtain ⟨id, hid⟩ : ∃ id, r.registry.ids[i]? = some id :=
      ⟨_, List.getElem?_eq_getElem (Finset.mem_range.mp hi)⟩
    obtain ⟨client, hclient⟩ := exists_isClientOf (List.mem_of_getElem? hid)
    rw [← measured_facts, h.facts i id client hid hclient, measured_facts,
      h.handled i id client hid hclient, Relayer.measured_drain]
  have hevents : ∀ turn ∈ turns, measured series turn.events = 0 ∨
      ∃ i < r.registry.ids.length, turn.task = some (.laneWorker i) := by
    intro turn hturn
    refine (h.others turn hturn).imp ?_ id
    rintro ⟨-, hfacts⟩
    rw [← measured_facts, hfacts]
    rfl
  have houtcomes : ∀ turn ∈ turns, (turn.handled.toList.map fun outcome =>
      Relayer.handlingAmount series outcome.2).sum = 0 ∨
        ∃ i < r.registry.ids.length, turn.task = some (.laneWorker i) := by
    intro turn hturn
    refine (h.others turn hturn).imp ?_ id
    rintro ⟨hnone, -⟩
    rw [hnone]
    rfl
  calc measured series (eventsIn turns)
      = (turns.map fun turn => measured series turn.events).sum := measured_eventsIn series turns
    _ = ∑ i ∈ Finset.range r.registry.ids.length,
          ((turnsOf (.laneWorker i) turns).map fun turn => measured series turn.events).sum :=
        sum_turnsOf hevents
    _ = ∑ i ∈ Finset.range r.registry.ids.length,
          ((turnsOf (.laneWorker i) turns).map fun turn => (turn.handled.toList.map fun outcome =>
            Relayer.handlingAmount series outcome.2).sum).sum := by
        refine Finset.sum_congr rfl fun i hi => ?_
        rw [← measured_eventsIn, hlane i hi, sum_handledIn]
    _ = (turns.map fun turn => (turn.handled.toList.map fun outcome =>
          Relayer.handlingAmount series outcome.2).sum).sum := (sum_turnsOf houtcomes).symm
    _ = ((handledIn turns).map fun outcome => Relayer.handlingAmount series outcome.2).sum :=
        (sum_handledIn _ turns).symm

end Scene.Sorted

/-! ### Two runs -/

/-- What happens at a client in some turns: what it is asked, with its answers. -/
def exchangesWith [DecidableEq χ] (client : χ) (turns : List (Turn χ)) : List (Exchange χ) :=
  (exchanges (eventsIn turns)).filter (·.node = client)

/-- The counts after some turns, from those before. -/
def tallyAfter (t : Tally) (turns : List (Turn χ)) : Tally := t.addNotes (notes (eventsIn turns))

/-- What a run with one worker and a run with a lane for every destination have in common, and by
what the counters differ. -/
structure Scene.Agree [DecidableEq χ] (r : Relayer χ) (feed : List Sighting)
    (one many : List (Turn χ)) : Prop where
  exchanges : ∀ client, exchangesWith client one = exchangesWith client many
  submissions : ∀ destination,
    submissionsTo destination (handledIn one) = submissionsTo destination (handledIn many)
  submitted : ∀ (t : Tally) (destination : ChainId),
    (tallyAfter t one).count (.submitted destination) =
      (tallyAfter t many).count (.submitted destination)
  received : ∀ t : Tally, (tallyAfter t one).count .received =
    (tallyAfter t many).count .received + (droppedIn many).length
  dropped : droppedIn many = logsForNone r feed
  /-- The router drops what cannot be read or names no registered chain. -/
  unrouted : ∀ s, s ∈ droppedIn many ↔ s ∈ feed ∧ ∀ m, PostedMessage.decodeLog s.log = .ok m →
    r.registry.get? m.destinationId = none
  /-- The one worker rejects what the router drops, without asking anybody. -/
  rejected : ∀ s ∈ droppedIn many, ∃ e, (s, .error e) ∈ handledIn one ∧
    (e.stage = .decode ∨ e.stage = .validate) ∧
      ∀ {σ : Type} (env : Environment χ σ) (nodes : σ),
        (r.handle s.chain s.log).talk env nodes = (.error e, nodes, [])

/-- What is sent to a chain, is sent for the logs that are for it. -/
theorem submissionsTo_filter {destination : ChainId} {p : Handled → Bool} {handled : List Handled}
    (h : ∀ outcome ∈ handled, ∀ submission, outcome.2 = .ok submission →
      submission.destination = destination → p outcome = true) :
    submissionsTo destination (handled.filter p) = submissionsTo destination handled := by
  rw [submissionsTo, List.filterMap_filter]
  refine List.filterMap_congr fun outcome houtcome => ?_
  obtain ⟨s, result⟩ := outcome
  cases result with
  | error e => simp
  | ok submission =>
    by_cases hdestination : submission.destination = destination
    · simp [h _ houtcome submission rfl hdestination, hdestination]
    · simp [hdestination]

namespace Scene.Sorted

variable [DecidableEq χ] {clients : Clients χ} {r : Relayer χ} {feed : List Sighting}
  {asked : χ → List Request} {turns : List (Turn χ)}

/-- What is sent to a chain is what is sent while all logs are handled one after the other. -/
theorem submissionsTo_eq (h : Sorted clients r feed asked turns)
    (hclients : (r.registry.chains.map (·.client)).Nodup) (destination : ChainId) :
    submissionsTo destination (handledIn turns) =
      submissionsTo destination ((r.drain feed).run clients.environment asked).1 := by
  have hroute : ∀ outcome ∈ ((r.drain feed).run clients.environment asked).1,
      ∀ submission, outcome.2 = .ok submission → submission.destination = destination →
        decide (r.route? outcome.1.log = some destination) = true := by
    rintro outcome hmem submission hok rfl
    obtain ⟨nodes, hrun⟩ := Relayer.exists_run_of_mem_drain hmem
    exact decide_eq_true (Relayer.route?_of_handle_eq_ok (hrun.symm.trans hok))
  have hroute' : ∀ outcome ∈ handledIn turns,
      ∀ submission, outcome.2 = .ok submission → submission.destination = destination →
        decide (r.route? outcome.1.log = some destination) = true := by
    intro outcome hmem
    exact hroute outcome (List.mem_filter.mp ((h.handled_perm hclients).mem_iff.mp hmem)).1
  rw [← submissionsTo_filter hroute', h.handled_filter hclients, submissionsTo_filter hroute]

/-- Every log is handled in a lane or dropped. -/
theorem length_add_length (h : Sorted clients r feed asked turns)
    (hclients : (r.registry.chains.map (·.client)).Nodup) :
    (handledIn turns).length + (droppedIn turns).length = feed.length := by
  have hlength : (handledIn turns).length =
      (feed.filter fun s => r.route? s.log ≠ none).length := by
    rw [(h.handled_perm hclients).length_eq,
      ← Relayer.map_fst_drain (r := r) clients.environment feed asked, List.filter_map,
      List.length_map, Relayer.map_fst_drain]
    rfl
  rw [hlength, h.dropped, logsForNone,
    List.length_eq_length_filter_add (l := feed) fun s => decide (r.route? s.log ≠ none)]
  simp

end Scene.Sorted

/-- Runs to the end in the two topologies agree, if every chain has its own client and the clients
answer by what they were asked: whatever the capacities are, and in whatever order the tasks take
turns. -/
theorem Scene.agree_of_finishes [DecidableEq χ] {clients : Clients χ} {r : Relayer χ}
    (hclients : (r.registry.chains.map (·.client)).Nodup) {feed : List Sighting}
    {asked : χ → List Request} {capacity capacity' : Nat} {one many : List (Turn χ)}
    (hone : Finishes clients.environment r .single capacity feed asked one)
    (hmany : Finishes clients.environment r .perDestination capacity' feed asked many) :
    Agree r feed one many := by
  obtain ⟨hhandled, hfacts⟩ := follow_single (fun _ => ⟨rfl, rfl⟩) hone
  have hsorted := follow_perDestination hclients hmany
  have hmeasured : ∀ series, measured series (eventsIn one) =
      ((handledIn one).map fun h => Relayer.handlingAmount series h.2).sum := by
    intro series
    rw [← measured_facts, hfacts, measured_facts, hhandled, Relayer.measured_drain]
  have hcount : ∀ (t : Tally) (turns : List (Turn χ)) (series : Series),
      (tallyAfter t turns).count series = t.count series + measured series (eventsIn turns) :=
    fun t turns series => t.count_addNotes _ series
  have hsubmissions : ∀ destination,
      submissionsTo destination (handledIn one) = submissionsTo destination (handledIn many) := by
    intro destination
    rw [hhandled, hsorted.submissionsTo_eq hclients]
  have hlength : (handledIn one).length = (handledIn many).length + (droppedIn many).length := by
    rw [hsorted.length_add_length hclients, hhandled, Relayer.length_drain]
  refine ⟨?_, hsubmissions, ?_, ?_, hsorted.dropped, ?_, ?_⟩
  · intro client
    rw [exchangesWith, ← exchanges_facts, hfacts, exchanges_facts, exchangesWith,
      hsorted.exchanges_filter hclients]
  · intro t destination
    rw [hcount, hcount, hmeasured, hsorted.measured_eq, Relayer.sum_handlingAmount_submitted,
      Relayer.sum_handlingAmount_submitted, hsubmissions]
  · intro t
    rw [hcount, hcount, hmeasured, hsorted.measured_eq, Relayer.sum_handlingAmount_received,
      Relayer.sum_handlingAmount_received, hlength, Nat.add_assoc]
  · intro s
    rw [hsorted.dropped, logsForNone, List.mem_filter, decide_eq_true_eq,
      Relayer.route?_eq_none_iff]
  · intro s hs
    rw [hsorted.dropped] at hs
    obtain ⟨hfeed, hroute⟩ := List.mem_filter.mp hs
    obtain ⟨e, hstage, htalk⟩ :=
      Relayer.talk_handle_of_route?_eq_none s.chain (of_decide_eq_true hroute)
    refine ⟨e, ?_, hstage, htalk⟩
    -- The log was handled in some state of the nodes, and is rejected in every state.
    rw [← Relayer.map_fst_drain (r := r) clients.environment feed asked] at hfeed
    obtain ⟨⟨_, outcome⟩, hmem, rfl⟩ := List.mem_map.mp hfeed
    obtain ⟨nodes, hrun⟩ := Relayer.exists_run_of_mem_drain hmem
    obtain rfl : outcome = .error e := hrun.trans (congrArg Prod.fst (htalk _ nodes))
    rwa [hhandled]

/-! ### Two chains -/

namespace TwoChains

/-- A relayer for two chains, each with its own client. -/
def relayer : Relayer Bool where
  registry :=
    { chains := [⟨{ chainId := 1, nodeUrl := "" }, false⟩, ⟨{ chainId := 2, nodeUrl := "" }, true⟩] }
  account := SecretKey.account ⟨1, Nat.one_pos, Curve.one_lt_order⟩

/-- A message from the first chain to the second that asks for nothing. -/
def message : PostedMessage where
  sourceChain := 1
  destinationChain := 2
  payload := encodeCalls []
  attributes := [Attribute.encode (.reward nativeAsset 1)]

/-- A log that was seen on the first chain. -/
def sighting (topics : List Word) (data : Bytes) : Sighting where
  watcher := 0
  chain := 1
  log := { address := 0, topics, data, blockNumber := none }

/-- The message, and a log that cannot be read. -/
def feed : List Sighting := [sighting message.encodeLog.1 message.encodeLog.2, sighting [] []]

/-- Clients that ask for no fee and take every transaction. -/
def clients : Clients Bool := fun _ _ q => match q with
  | .estimateGas _ => .ok 0
  | .gasPrice => .ok 0
  | .pendingNonce _ => .ok 0
  | .sendRawTransaction _ => .ok 0
  | _ => .error (.transport "")

/-- The logs come in through a queue for one, while a task takes its first step. -/
def comingIn (t : TaskId) : List Move := [.arrive, .step t .later, .arrive, .close]

/-- The moves of the one worker. -/
def oneMoves : List Move := comingIn .worker ++ List.replicate 19 (.step .worker .later)

/-- The moves of the router and of the workers of two lanes. -/
def manyMoves : List Move :=
  comingIn .router ++ List.replicate 3 (.step .router .later) ++ [.step (.laneWorker 0) .later] ++
    List.replicate 15 (.step (.laneWorker 1) .later)

theorem agree_of_moves :
    ∃ one many, Scene.Finishes clients.environment relayer .single 1 feed (fun _ => []) one ∧
      Scene.Finishes clients.environment relayer .perDestination 1 feed (fun _ => []) many ∧
      (droppedIn many).length = 1 ∧ (submissionsTo 2 (handledIn many)).length = 1 ∧
      Scene.Agree relayer feed one many := by
  have hone : (((Scene.start relayer .single 1 feed fun _ => []).follow clients.environment
      oneMoves).any fun t => t.2.isOver) = true := by decide +kernel
  have hmany : (((Scene.start relayer .perDestination 1 feed fun _ => []).follow
      clients.environment manyMoves).any fun t => t.2.isOver && (droppedIn t.1).length == 1 &&
        (submissionsTo 2 (handledIn t.1)).length == 1) = true := by decide +kernel
  obtain ⟨⟨one, x⟩, hfollow, hover⟩ := (Option.any_eq_true _ _).mp hone
  obtain ⟨⟨many, y⟩, hfollow', hover'⟩ := (Option.any_eq_true _ _).mp hmany
  simp only [Bool.and_eq_true, beq_iff_eq] at hover'
  obtain ⟨⟨hover', hdropped⟩, hsubmitted⟩ := hover'
  have hfinishes : Scene.Finishes clients.environment relayer .single 1 feed (fun _ => []) one :=
    ⟨oneMoves, x, hfollow, hover⟩
  have hfinishes' : Scene.Finishes clients.environment relayer .perDestination 1 feed
      (fun _ => []) many := ⟨manyMoves, y, hfollow', hover'⟩
  exact ⟨one, many, hfinishes, hfinishes', hdropped, hsubmitted,
    Scene.agree_of_finishes (by decide) hfinishes hfinishes'⟩

end TwoChains

end Service

end CrossCall
