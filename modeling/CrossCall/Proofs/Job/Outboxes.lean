import Mathlib
import CrossCall.Proofs.Job.Starting
import CrossCall.Proofs.Message.RoundTrip
import CrossCall.Proofs.Service.Once

/-!
# Outboxes with two names

A configuration gives every outbox of a chain a name, and each name gets a watcher. An accepted
configuration has no chain twice, but nobody looks whether it has an outbox twice under different
names. If it has, two watchers see every message that is posted there, and each is handled twice.

## Main definitions

* `Configuration.NamesApart` — no outbox of a chain has two names
* `Configuration.WatchesApart` — no two watchers of the service watch one outbox of one chain
* `Configuration.HandlesOnce` — no log is handled twice in any run of the service

## Main results

* `Service.exists_not_handlesOnce` — two watchers of one outbox can have a log handled twice
* `Configuration.nodup_places_iff` — the outboxes are different places exactly if each has one name
* `Configuration.handlesOnce_iff` — so messages are handled once exactly if each outbox has one name
-/

namespace CrossCall

variable {χ σ : Type}

open Session

namespace Service

/-! ### Two watchers of one outbox -/

section

variable {env : Environment χ σ} {s₀ s : Service χ} {nodes₀ nodes : σ} {turns : List (Turn χ)}

/-- A run goes on with a step of a watcher. -/
theorem Reaches.step_watcher (h : Reaches env s₀ nodes₀ turns s nodes) {k : Nat} {w : Watcher χ}
    (hw : s.system.watchers[k]? = some w) {o : Outcome χ σ (Watcher χ × Queue)}
    (hstep : w.step env s.system.now s.system.cancelled .later s.system.shared nodes = some o) :
    ∃ handled, Reaches env s₀ nodes₀
      (turns ++ [{ task := some (.watcher k), handled, happenings := o.happenings }])
      { s with system :=
          { s.system with
            watchers := s.system.watchers.set k o.task.1
            shared := o.task.2 } } o.nodes := by
  have hact : s.act env (.step (.watcher k) .later) nodes =
      some
        { task :=
            { s with system :=
                { s.system with
                  watchers := s.system.watchers.set k o.task.1
                  shared := o.task.2 } }
          nodes := o.nodes, happenings := o.happenings } := by
    simp [Service.act, System.step, System.stepWatcher, hw, hstep]
  exact ⟨_, .act h hact⟩

/-- A run goes on with a step of the one worker. -/
theorem Reaches.step_worker (h : Reaches env s₀ nodes₀ turns s nodes) {w : Worker χ}
    (hw : s.system.consumers = .single w) {o : Outcome χ σ (Worker χ × Queue)}
    (hstep : w.step env s.system.relayer s.system.cancelled .later s.system.shared nodes =
      some o) :
    ∃ handled, Reaches env s₀ nodes₀
      (turns ++ [{ task := some .worker, handled, happenings := o.happenings }])
      { s with system :=
          { s.system with consumers := .single o.task.1, shared := o.task.2 } } o.nodes := by
  have hact : s.act env (.step .worker .later) nodes =
      some
        { task :=
            { s with system :=
                { s.system with consumers := .single o.task.1, shared := o.task.2 } }
          nodes := o.nodes, happenings := o.happenings } := by
    simp [Service.act, System.step, System.stepWorker, hw, hstep]
  exact ⟨_, .act h hact⟩

end

/-- Nodes that report one log to every watcher that asks. -/
def reporting (log : Log) : Environment χ Unit where
  answer _ _ request :=
    (match request with
      | .newFilter _ => .ok 0
      | .filterChanges _ => .ok [log]
      | _ => .error (.transport ""), ())

/-- A posted message that carries nothing at all. -/
def emptyLog (outbox : Address) : Log where
  address := outbox
  topics := PostedMessage.encodeLog {} |>.1
  data := PostedMessage.encodeLog {} |>.2
  blockNumber := none

/-- Nobody takes an empty message for a valid one. -/
theorem exists_parse_emptyLog (r : Relayer χ) (chain : ChainId) (outbox : Address) :
    ∃ e, r.parse chain (emptyLog outbox) = .error e := by
  have hlog : PostedMessage.decodeLog (emptyLog outbox) = .ok {} := by
    have hdecode := PostedMessage.decodeLog_encodeLog {} outbox none [] (by decide +kernel)
    rwa [List.append_nil] at hdecode
  have hread : Body.read {} = .error (.userOperation .overrun) := rfl
  rw [Relayer.parse]
  cases r.registry.endpoint? chain with
  | none => exact ⟨_, rfl⟩
  | some endpoint =>
    have hvalid : validate {} endpoint r.registry = .error (.decode (.userOperation .overrun)) := by
      rw [validate, hread]
      rfl
    rw [hlog]
    refine ⟨.validation (.decode (.userOperation .overrun)), ?_⟩
    change (validate {} endpoint r.registry).mapError FulfillmentError.validation = _
    rw [hvalid]
    rfl

/-- The handling of a log that is rejected early leaves three notes. -/
theorem exists_handle_eq {r : Relayer χ} {chain : ChainId} {log : Log} {e : FulfillmentError}
    (h : r.parse chain log = .error e) :
    ∃ n₁ n₂ n₃, r.handle chain log = .note n₁ (.note n₂ (.note n₃ (.done (.error e)))) := by
  rw [Relayer.handle, Relayer.attempt, h]
  exact ⟨_, _, _, rfl⟩

variable {r : Relayer χ} {s₀ s : Service χ} {turns : List (Turn χ)} {log : Log}
  {watches : List (Watch χ)}

/-- A watcher that has not begun can install its filter, poll a log, and put it into the queue. -/
theorem Reaches.exists_forwarded (h : Reaches (reporting log) s₀ () turns s ()) {k : Nat}
    {w : Watch χ} (hw : s.system.watchers[k]? = some { watch := w })
    (hwatch : watches[k]? = some w) (hperiod : w.period ≠ 0) (hgoing : s.system.cancelled = false)
    (hroom : s.system.shared.items.length < s.system.shared.capacity)
    (hreader : s.system.shared.hasReader = true) :
    ∃ turns' due, handedIn turns' = [] ∧ polledIn watches turns' = [w.sighting log] ∧
      Reaches (reporting log) s₀ () (turns ++ turns')
        { s with system :=
            { s.system with
              watchers := s.system.watchers.set k { watch := w, phase := .forwarding 0 due [] }
              shared :=
                { s.system.shared with
                  items := s.system.shared.items ++ [w.sighting log] } } } () := by
  have hself : ∀ phase : WatchPhase,
      (s.system.watchers.set k { watch := w, phase })[k]? = some { watch := w, phase } := fun _ =>
    List.getElem?_set_self (List.getElem?_eq_some_iff.mp hw).1
  -- The filter is installed, the log is polled, and put into the queue.
  obtain ⟨handled₁, h₁⟩ := h.step_watcher hw (o := {
      task := ({ watch := w, phase := .waiting 0 s.system.now }, s.system.shared), nodes := ()
      happenings := [.event (.exchange ⟨w.node, .newFilter w.filter, .ok 0⟩)] }) (by
    simp [Watcher.step, Watcher.install, ask, reporting, hperiod, Watcher.moved])
  obtain ⟨handled₂, h₂⟩ := h₁.step_watcher (hself _) (o := {
      task := ({ watch := w, phase := .forwarding 0 (w.nextDue s.system.now s.system.now) [log] },
        s.system.shared), nodes := ()
      happenings := [.event (.exchange ⟨w.node, .filterChanges 0, .ok [log]⟩)] }) (by
    simp [Watcher.step, Watcher.poll, ask, reporting, hgoing, Watcher.moved])
  simp only [List.set_set] at h₂
  obtain ⟨handled₃, h₃⟩ := h₂.step_watcher (hself _) (o := {
      task := ({ watch := w, phase := .forwarding 0 (w.nextDue s.system.now s.system.now) [] },
        { s.system.shared with items := s.system.shared.items ++ [w.sighting log] }), nodes := ()
      happenings :=
        [Watcher.announced, .queued (w.sighting log),
          .event (.note (.measure (.forwarded w.chain) 1))] }) (by
    simp [Watcher.step, Watcher.forward, Queue.put, hgoing, hroom, hreader, Watcher.moved])
  simp only [List.set_set, List.append_assoc] at h₃
  refine ⟨_, w.nextDue s.system.now s.system.now, ?_, ?_, h₃⟩
  · simp [handedIn, Turn.handed, Happening.handed?, Watcher.announced, Happening.line]
  · simp [polledIn, Turn.polled, Happening.polled, Watcher.announced, Happening.line, hwatch]

/-- The worker can take a log that it will reject, and come back for the next one. -/
theorem Reaches.exists_handed (watches : List (Watch χ))
    (h : Reaches (reporting log) s₀ () turns s ())
    (hworker : s.system.consumers = .single .waiting) (hgoing : s.system.cancelled = false)
    {x : Sighting} (hitems : s.system.shared.items = [x]) {e : FulfillmentError}
    (hparse : s.system.relayer.parse x.chain x.log = .error e) :
    ∃ turns', handedIn turns' = [x] ∧ polledIn watches turns' = [] ∧
      Reaches (reporting log) s₀ () (turns ++ turns')
        { s with system :=
            { s.system with
              consumers := .single .waiting
              shared := { s.system.shared with items := [] } } } () := by
  obtain ⟨n₁, n₂, n₃, hhandle⟩ := exists_handle_eq hparse
  obtain ⟨handled₁, h₁⟩ := h.step_worker hworker (o := {
      task := (.handling x (.note n₁ (.note n₂ (.note n₃ (.done (.error e))))),
        { s.system.shared with items := [] }), nodes := ()
      happenings := [.handed x] }) (by
    simp [Worker.step, Worker.fetch, Queue.take, hgoing, hitems, hhandle])
  -- Three notes and the end of the handling are all that is left to do.
  obtain ⟨handled₂, h₂⟩ := h₁.step_worker rfl rfl
  obtain ⟨handled₃, h₃⟩ := h₂.step_worker rfl rfl
  obtain ⟨handled₄, h₄⟩ := h₃.step_worker rfl rfl
  obtain ⟨handled₅, h₅⟩ := h₄.step_worker rfl rfl
  simp only [List.append_assoc] at h₅
  exact ⟨_, rfl, rfl, h₅⟩

/-- Two watchers of one outbox can see one log, and the worker then handles it twice. -/
theorem exists_handed_twice (r : Relayer χ) {capacity period : Nat}
    (outboxes : List (ChainId × Address × χ)) (hcapacity : 0 < capacity) (hperiod : period ≠ 0)
    {i j : Nat} (hne : i ≠ j) {w w' : Watch χ}
    (hw : (Service.watches period 0 outboxes)[i]? = some w)
    (hw' : (Service.watches period 0 outboxes)[j]? = some w') :
    ∃ turns s, Reaches (reporting (emptyLog w.outbox))
        (launch r .single capacity period outboxes) () turns s () ∧
      handedIn turns = [w.sighting (emptyLog w.outbox), w'.sighting (emptyLog w.outbox)] ∧
      polledIn (Service.watches period 0 outboxes) turns =
        [w.sighting (emptyLog w.outbox), w'.sighting (emptyLog w.outbox)] := by
  have hlaunched : ∀ {k : Nat} {v : Watch χ}, (Service.watches period 0 outboxes)[k]? = some v →
      (launch r .single capacity period outboxes).system.watchers[k]? = some { watch := v } := by
    intro k v hv
    rw [launch, List.getElem?_map, hv]
    rfl
  have hperiods : ∀ {k : Nat} {v : Watch χ}, (Service.watches period 0 outboxes)[k]? = some v →
      v.period ≠ 0 := by
    intro k v hv
    rw [period_of_mem_watches (List.mem_of_getElem? hv)]
    exact hperiod
  -- The first watcher sees the log, and the worker handles it.
  have h₀ : Reaches (reporting (emptyLog w.outbox)) (launch r .single capacity period outboxes) ()
      [] (launch r .single capacity period outboxes) () := .start
  obtain ⟨turns₁, due₁, hhanded₁, hpolled₁, h₁⟩ :=
    h₀.exists_forwarded (hlaunched hw) hw (hperiods hw) rfl hcapacity rfl
  obtain ⟨e, hparse⟩ := exists_parse_emptyLog r w.chain w.outbox
  obtain ⟨turns₂, hhanded₂, hpolled₂, h₂⟩ :=
    h₁.exists_handed (Service.watches period 0 outboxes) rfl rfl rfl hparse
  -- The second one sees it as well, and it is handled again.
  have hstill : (((launch r .single capacity period outboxes).system.watchers.set i
      { watch := w, phase := .forwarding 0 due₁ [] })[j]?) = some { watch := w' } := by
    rw [List.getElem?_set_ne hne]
    exact hlaunched hw'
  obtain ⟨turns₃, due₃, hhanded₃, hpolled₃, h₃⟩ :=
    h₂.exists_forwarded hstill hw' (hperiods hw') rfl hcapacity rfl
  obtain ⟨e', hparse'⟩ := exists_parse_emptyLog r w'.chain w.outbox
  obtain ⟨turns₄, hhanded₄, hpolled₄, h₄⟩ :=
    h₃.exists_handed (Service.watches period 0 outboxes) rfl rfl rfl hparse'
  refine ⟨_, _, h₄, ?_, ?_⟩
  · simp [handedIn_append, hhanded₁, hhanded₂, hhanded₃, hhanded₄]
  · simp [polledIn_append, hpolled₁, hpolled₂, hpolled₃, hpolled₄]

/-- The numbers of two watches of a service are their places in the list. -/
theorem id_of_getElem?_watches {period : Nat} {outboxes : List (ChainId × Address × χ)} {k : Nat}
    {w : Watch χ} (hw : (Service.watches period 0 outboxes)[k]? = some w) : w.id = k := by
  have hid : ((Service.watches period 0 outboxes).map (·.id))[k]? = some w.id := by
    rw [List.getElem?_map, hw, Option.map_some]
  rw [map_id_watches] at hid
  obtain ⟨hk, hget⟩ := List.getElem?_eq_some_iff.mp hid
  simpa using hget.symm

/-- If the watched outboxes are not all different, two of the watchers watch one outbox. -/
theorem exists_place_eq {watches : List (Watch χ)} (h : ¬ (watches.map Watch.place).Nodup) :
    ∃ (i j : Nat) (w w' : Watch χ), i ≠ j ∧ watches[i]? = some w ∧ watches[j]? = some w' ∧
      w.place = w'.place := by
  rw [List.nodup_iff_getElem?_ne_getElem?] at h
  push Not at h
  obtain ⟨i, j, hij, hj, hsame⟩ := h
  rw [List.length_map] at hj
  have hi := hij.trans hj
  refine ⟨i, j, _, _, hij.ne, List.getElem?_eq_getElem hi, List.getElem?_eq_getElem hj, ?_⟩
  simpa [List.getElem?_eq_getElem hi, List.getElem?_eq_getElem hj] using hsame

/-- If two watchers watch one outbox, there are nodes that report every log once to each of them,
and a run in which a log is handled twice. -/
theorem exists_not_handlesOnce (r : Relayer χ) {capacity period : Nat}
    (outboxes : List (ChainId × Address × χ)) (hcapacity : 0 < capacity) (hperiod : period ≠ 0)
    (hplaces : ¬ ((Service.watches period 0 outboxes).map Watch.place).Nodup) :
    ∃ (env : Environment χ Unit) (turns : List (Turn χ)) (s : Service χ)
      (history : ChainId → List Log),
      Reaches env (launch r .single capacity period outboxes) () turns s () ∧
        ReportsOnce history (Service.watches period 0 outboxes) turns ∧
        ¬ HandlesOnce history turns := by
  obtain ⟨i, j, w, w', hij, hw, hw', hplace⟩ := exists_place_eq hplaces
  obtain ⟨hchain, houtbox⟩ := Prod.ext_iff.mp hplace
  simp only [Watch.place] at hchain houtbox
  obtain ⟨turns, s, hrun, hhanded, hpolled⟩ :=
    exists_handed_twice r outboxes hcapacity hperiod hij hw hw'
  have hid := id_of_getElem?_watches hw
  have hid' := id_of_getElem?_watches hw'
  refine ⟨_, turns, s, fun chain => if chain = w.chain then [emptyLog w.outbox] else [], hrun, ?_,
    ?_⟩
  · -- Each of the two watchers polled the log once, and the others polled nothing.
    intro v hv
    obtain ⟨k, hk⟩ := List.mem_iff_getElem?.mp hv
    have hidv := id_of_getElem?_watches hk
    rw [polledBy, hpolled]
    by_cases hki : k = i
    · obtain rfl : w = v := by
        rw [hki, hw] at hk
        exact Option.some.inj hk
      simp [Watch.sighting, emptyLog, hid, hid', hij.symm]
    · by_cases hkj : k = j
      · obtain rfl : w' = v := by
          rw [hkj, hw'] at hk
          exact Option.some.inj hk
        simp [Watch.sighting, emptyLog, hid, hid', hij, hchain, houtbox]
      · have hnone : ([w.sighting (emptyLog w.outbox), w'.sighting (emptyLog w.outbox)].filter
            (·.watcher = v.id)) = [] := by
          simp [Watch.sighting, hid, hid', hidv, Ne.symm hki, Ne.symm hkj]
        rw [hnone]
        exact List.nil_subperm
  · intro h
    have hlength := (h w.chain).length_le
    simp [handedFrom, hhanded, Watch.sighting, hchain] at hlength

end Service

/-! ### From the names to the watchers -/

theorem Service.map_place_watches (period first : Nat) (outboxes : List (ChainId × Address × χ)) :
    (watches period first outboxes).map Watch.place = outboxes.map fun o => (o.1, o.2.1) := by
  induction outboxes generalizing first with
  | nil => rfl
  | cons o outboxes ih =>
    obtain ⟨chain, outbox, node⟩ := o
    rw [watches, List.map_cons, ih]
    rfl

theorem Service.map_watch_launch (r : Relayer χ) (topology : Topology) (capacity period : Nat)
    (outboxes : List (ChainId × Address × χ)) :
    (launch r topology capacity period outboxes).system.watchers.map (·.watch) =
      watches period 0 outboxes := by
  rw [launch, List.map_map]
  exact List.map_id _

/-- The outboxes of an endpoint with its chain. -/
def Endpoint.places (e : Endpoint) : List (ChainId × Address) :=
  e.outboxes.map fun o => (e.chainId, o.2)

theorem Endpoint.nodup_places_iff {e : Endpoint} :
    e.places.Nodup ↔ (e.outboxes.map (·.2)).Nodup := by
  have hplaces : e.places = (e.outboxes.map (·.2)).map fun address => (e.chainId, address) := by
    rw [List.map_map]
    rfl
  have hinjective : Function.Injective fun address : Address => (e.chainId, address) :=
    fun _ _ h => (Prod.ext_iff.mp h).2
  rw [hplaces, List.nodup_map_iff hinjective]

theorem Service.map_place_outboxes {registry : Registry NodeClient} {endpoints : List Endpoint}
    (h : List.Forall₂ Registration.IsOf registry.chains endpoints) :
    (outboxes registry).map (fun o => (o.1, o.2.1)) = endpoints.flatMap Endpoint.places := by
  rw [outboxes]
  generalize registry.chains = chains at h
  induction h with
  | nil => rfl
  | cons hof _ ih =>
    rw [List.flatMap_cons, List.map_append, ih, List.flatMap_cons, hof.1, List.map_map]
    rfl

namespace Configuration

variable {c : Configuration} {env : Environment NodeClient σ} {nodes : σ}

/-- No outbox of a chain has two names. -/
def NamesApart (c : Configuration) : Prop := ∀ e ∈ c.endpoints, (e.outboxes.map (·.2)).Nodup

/-- No two watchers of the service that a configuration starts watch one outbox of one chain. -/
def WatchesApart (c : Configuration) (env : Environment NodeClient σ) (nodes : σ) : Prop :=
  ∀ topology service,
    ((Job.startService c (some topology)).run.run env nodes).1 = .ok service →
      ((service.system.watchers.map (·.watch)).map Service.Watch.place).Nodup

/-- No log is handled twice in any run of the service that a configuration starts: in no topology
and in no order of its steps, if the nodes report every log at most once to every watcher. -/
def HandlesOnce (c : Configuration) (env : Environment NodeClient σ) (nodes : σ) : Prop :=
  ∀ topology service,
    ((Job.startService c (some topology)).run.run env nodes).1 = .ok service →
      ∀ (τ : Type) (env' : Environment NodeClient τ) nodes₀ turns s nodes',
        Service.Reaches env' service nodes₀ turns s nodes' →
          ∀ history, Service.ReportsOnce history (service.system.watchers.map (·.watch)) turns →
            Service.HandlesOnce history turns

/-- The outboxes of different chains are different places anyhow. -/
theorem nodup_places_iff (hdistinct : (c.endpoints.map (·.chainId)).Nodup) :
    (c.endpoints.flatMap Endpoint.places).Nodup ↔ c.NamesApart := by
  rw [List.nodup_flatMap]
  constructor
  · rintro ⟨hall, -⟩ e he
    exact Endpoint.nodup_places_iff.mp (hall e he)
  · intro h
    refine ⟨fun e he => Endpoint.nodup_places_iff.mpr (h e he), ?_⟩
    refine (List.pairwise_map.mp hdistinct).imp fun {e e'} hne => ?_
    intro place hplace hplace'
    obtain ⟨o, -, rfl⟩ := List.mem_map.mp hplace
    obtain ⟨o', -, hsame⟩ := List.mem_map.mp hplace'
    exact hne (Prod.ext_iff.mp hsame).1.symm

/-- What is started has its settings from the configuration, and watches the outboxes of the
endpoints. -/
theorem exists_launch_of_startService (hvalid : c.validate = .ok ()) {topology : Topology}
    {service : Service NodeClient}
    (h : ((Job.startService c (some topology)).run.run env nodes).1 = .ok service) :
    ∃ (relayer : Relayer NodeClient) (outboxes : List (ChainId × Address × NodeClient)),
      service = Service.launch relayer topology c.fulfillment.queueCapacity.toNat
        c.fulfillment.pollInterval.toNat outboxes ∧
      (((Service.watches c.fulfillment.pollInterval.toNat 0 outboxes).map
        Service.Watch.place).Nodup ↔ c.NamesApart) := by
  -- Of all that is done to start, the registry and the launch settle what is watched.
  have htalk : (Job.startService c (some topology)).run.talk env nodes =
      (.ok service, ((Job.startService c (some topology)).run.talk env nodes).2) :=
    Prod.ext h rfl
  rw [Job.startService] at htalk
  obtain ⟨registry, _, _, _, hconnect, htalk, -⟩ := exists_of_talk_bind htalk
  obtain ⟨account, _, _, _, -, htalk, -⟩ := exists_of_talk_bind htalk
  obtain ⟨service', _, _, _, hstart, htalk, -⟩ := exists_of_talk_bind htalk
  obtain ⟨_, _, _, _, -, htalk, -⟩ := exists_of_talk_bind htalk
  obtain ⟨rfl, -, -⟩ := of_talk_pure htalk
  have hchains := Registry.of_talk_connect (of_talk_adapt hconnect)
  have hstarted := mapError_eq_ok_iff.mp (of_talk_lift hstart).1
  refine ⟨{ registry, account }, _, (Service.start_eq_ok_iff.mp hstarted).2.2, ?_⟩
  rw [Service.map_place_watches, Service.map_place_outboxes hchains,
    nodup_places_iff (validate_eq_ok_iff.mp hvalid).distinct]

/-- With one name for every outbox, the watchers watch different outboxes, and no log is handled
twice. -/
theorem NamesApart.watches_and_handles (h : c.NamesApart) (hvalid : c.validate = .ok ())
    (env : Environment NodeClient σ) (nodes : σ) :
    c.WatchesApart env nodes ∧ c.HandlesOnce env nodes := by
  constructor
  · intro topology service hstart
    obtain ⟨relayer, outboxes, rfl, hplaces⟩ := exists_launch_of_startService hvalid hstart
    rw [Service.map_watch_launch]
    exact hplaces.mpr h
  · intro topology service hstart τ env' nodes₀ turns s nodes' hreaches history hreports
    obtain ⟨relayer, outboxes, rfl, hplaces⟩ := exists_launch_of_startService hvalid hstart
    rw [Service.map_watch_launch] at hreports
    exact Service.handlesOnce_of_nodup hreaches (hplaces.mpr h) hreports

section

variable (hvalid : c.validate = .ok ()) (hvouches : env.Vouches c.endpoints)
  (hcapacity : c.fulfillment.queueCapacity.toNat ≤ Service.maxCapacity)

include hvalid hvouches hcapacity

/-- An accepted configuration starts, if its nodes can be reached and no queue is too large. -/
theorem exists_startService (topology : Topology) (nodes : σ) :
    ∃ service, ((Job.startService c (some topology)).run.run env nodes).1 = .ok service := by
  obtain ⟨relayer, -, hresult⟩ := exists_result_startService hvalid hvouches topology nodes
  have hstart : Service.start { c.fulfillment with topology } relayer =
      .ok (Service.launch relayer topology c.fulfillment.queueCapacity.toNat
        c.fulfillment.pollInterval.toNat (Service.outboxes relayer.registry)) :=
    Service.start_eq_ok_iff.mpr ⟨(validate_eq_ok_iff.mp hvalid).capacity_pos, hcapacity, rfl⟩
  exact ⟨_, hresult.trans (mapError_eq_ok_iff.mpr hstart)⟩

theorem WatchesApart.namesApart (h : c.WatchesApart env nodes) : c.NamesApart := by
  obtain ⟨service, hstart⟩ := exists_startService hvalid hvouches hcapacity .single nodes
  have happart := h .single service hstart
  obtain ⟨relayer, outboxes, rfl, hplaces⟩ := exists_launch_of_startService hvalid hstart
  rw [Service.map_watch_launch] at happart
  exact hplaces.mp happart

/-- With two names for an outbox, a log can be handled twice, already in the single topology. -/
theorem HandlesOnce.namesApart (h : c.HandlesOnce env nodes)
    (hinterval : c.fulfillment.pollInterval ≠ 0) : c.NamesApart := by
  by_contra hnames
  obtain ⟨service, hstart⟩ := exists_startService hvalid hvouches hcapacity .single nodes
  have honce := h .single service hstart
  obtain ⟨relayer, outboxes, rfl, hplaces⟩ := exists_launch_of_startService hvalid hstart
  have hpositive := (validate_eq_ok_iff.mp hvalid).capacity_pos
  have hperiod : c.fulfillment.pollInterval.toNat ≠ 0 :=
    fun hzero => hinterval (BitVec.eq_of_toNat_eq hzero)
  obtain ⟨env', turns, s, history, hreaches, hreports, htwice⟩ :=
    Service.exists_not_handlesOnce relayer outboxes hpositive hperiod (hplaces.not.mpr hnames)
  -- The run that handles a log twice is one of those that the configuration rules out.
  refine htwice (honce Unit env' () turns s () hreaches history ?_)
  rw [Service.map_watch_launch]
  exact hreports

end

/-- The messages of an accepted configuration are handled once if every outbox has one name. If its
nodes can be reached, its queues are not too large and it polls at intervals, they are handled once
only then, and that is when no two watchers watch one outbox. -/
theorem handlesOnce_iff (hvalid : c.validate = .ok ()) :
    (c.NamesApart → ∀ (τ : Type) (env : Environment NodeClient τ) (nodes : τ),
      c.WatchesApart env nodes ∧ c.HandlesOnce env nodes) ∧
    ∀ (τ : Type) (env : Environment NodeClient τ) (nodes : τ), env.Vouches c.endpoints →
      c.fulfillment.queueCapacity.toNat ≤ Service.maxCapacity → c.fulfillment.pollInterval ≠ 0 →
        [c.HandlesOnce env nodes, c.WatchesApart env nodes, c.NamesApart].TFAE := by
  refine ⟨fun h τ env nodes => h.watches_and_handles hvalid env nodes, ?_⟩
  intro τ env nodes hvouches hcapacity hinterval
  tfae_have 1 → 3 := fun h => h.namesApart hvalid hvouches hcapacity hinterval
  tfae_have 2 → 3 := fun h => h.namesApart hvalid hvouches hcapacity
  tfae_have 3 → 1 := fun h => (h.watches_and_handles hvalid env nodes).2
  tfae_have 3 → 2 := fun h => (h.watches_and_handles hvalid env nodes).1
  tfae_finish

end Configuration

/-! ### One outbox with two names -/

namespace Loopback

/-- The configuration of the chain, with a second name for its outbox. -/
def twiceNamed : Configuration :=
  { configuration 10 2000 with
    chains := [("local", { endpoint with outboxes := [("main", 0x25), ("other", 0x25)] })] }

theorem validate_twiceNamed : twiceNamed.validate = .ok () :=
  Configuration.validate_eq_ok_iff.mpr
    { chains_ne := by simp [twiceNamed]
      distinct := by simp [twiceNamed, Configuration.endpoints]
      capacity_ne := by decide
      l1_configured := fun _ h => by cases h
      wallet := ⟨key.account, verifiedAccount_wallet⟩ }

theorem vouches_twiceNamed : node.Vouches twiceNamed.endpoints := by
  -- The client does not depend on the outboxes.
  obtain ⟨client, hclient, hanswer⟩ := vouches_node 10 2000 endpoint (by decide)
  intro e he
  obtain rfl : e = { endpoint with outboxes := [("main", 0x25), ("other", 0x25)] } := by
    simpa [twiceNamed, Configuration.endpoints] using he
  exact ⟨client, hclient, hanswer⟩

/-- An accepted configuration that names an outbox twice: two watchers watch the outbox, and a log of
it can be handled twice. -/
theorem not_handlesOnce_twiceNamed :
    twiceNamed.validate = .ok () ∧ node.Vouches twiceNamed.endpoints ∧
      ¬ twiceNamed.WatchesApart node () ∧ ¬ twiceNamed.HandlesOnce node () := by
  have hnames : ¬ twiceNamed.NamesApart := fun h =>
    absurd (h _ List.mem_cons_self) (by decide)
  refine ⟨validate_twiceNamed, vouches_twiceNamed, fun h => hnames ?_, fun h => hnames ?_⟩
  · exact h.namesApart validate_twiceNamed vouches_twiceNamed (by decide)
  · exact h.namesApart validate_twiceNamed vouches_twiceNamed (by decide) (by decide)

theorem handlesOnce_configuration :
    (configuration 10 2000).validate = .ok () ∧
      node.Vouches (configuration 10 2000).endpoints ∧
      (configuration 10 2000).WatchesApart node () ∧
      (configuration 10 2000).HandlesOnce node () := by
  have hvalid := validate_configuration (show (10 : BitVec 64) ≠ 0 by decide) 2000
  have hvouches := vouches_node 10 2000
  have hnames : (configuration 10 2000).NamesApart := by
    intro e he
    obtain rfl : e = endpoint := by simpa [configuration, Configuration.endpoints] using he
    decide
  have hiff := Configuration.handlesOnce_iff hvalid
  have htfae := hiff.2 Unit node () hvouches (by decide) (by decide)
  exact ⟨hvalid, hvouches, (hiff.1 hnames Unit node ()).1, (htfae.out 0 2).mpr hnames⟩

end Loopback

end CrossCall
