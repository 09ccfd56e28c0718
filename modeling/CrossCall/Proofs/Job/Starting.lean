import Mathlib
import CrossCall.Job.Run
import CrossCall.Proofs.Chain.Connecting
import CrossCall.Proofs.Config.Validation
import CrossCall.Proofs.Service.Runs

/-!
# Starting the service

An accepted configuration whose nodes can be reached connects. Whether the service then starts and
its watchers begin to poll depends on two numbers that are not checked: no queue can be larger than a
certain capacity, and nothing can be polled without an interval.

## Main definitions

* `Service.Sturdy` — no watcher breaks down unless a node makes it
* `Configuration.Starts` — the service starts in every topology, and its watchers stay

## Main results

* `Service.sturdy_launch_iff` — the watchers stay exactly if there is an interval or nothing to watch
* `Configuration.starts_iff` — when an accepted configuration with reachable nodes starts
-/

namespace CrossCall

variable {χ σ : Type}

open Session

namespace Service

/-- No watcher breaks down, whatever happens, unless a node makes it. -/
def Sturdy (service : Service χ) : Prop :=
  ∀ (τ : Type) (env : Environment χ τ), (∀ nodes, env.breaks nodes = false) →
    ∀ nodes₀ turns s nodes, Reaches env service nodes₀ turns s nodes →
      ∀ w ∈ s.system.watchers, w.isBroken = false

theorem Watcher.Moves.isBroken_eq {env : Environment χ σ} {now : Nat} {cancelled : Bool}
    {w : Watcher χ} {q : Queue} {nodes : σ} {o : Outcome χ σ (Watcher χ × Queue)}
    (h : w.Moves env now cancelled q nodes o) (henv : ∀ nodes, env.breaks nodes = false)
    (hperiod : w.watch.period ≠ 0) : o.task.1.isBroken = false := by
  cases h with
  | broke asks answer_eq breaks =>
    rcases breaks with hbreaks | ⟨-, hzero⟩
    · rw [henv] at hbreaks
      cases hbreaks
    · exact absurd hzero hperiod
  | installed | refused | stopped | polled | failed | paused | forwarded | refusedLog | interrupted
  | uninstalled => rfl

/-- Watchers with an interval stay as they are, or move and keep their interval. -/
theorem System.Changes.forall_watcher {env : Environment χ σ} {s s' : System χ} {nodes nodes' : σ}
    {turn : Turn χ} (henv : ∀ nodes, env.breaks nodes = false)
    (h : System.Changes env s nodes turn s' nodes')
    (hs : ∀ w ∈ s.watchers, w.watch.period ≠ 0 ∧ w.isBroken = false) :
    ∀ w ∈ s'.watchers, w.watch.period ≠ 0 ∧ w.isBroken = false := by
  cases h with
  | aside => exact hs
  | stepped move =>
    cases move with
    | router | worker | laneWorker => exact hs
    -- The watcher that moves is put back in its place, and the others stay in theirs.
    | watcher hw step =>
      intro w' hw'
      rcases List.mem_or_eq_of_mem_set hw' with hmem | rfl
      · exact hs w' hmem
      · have hmoves := Watcher.moves_of_step step
        have hperiod := (hs _ (List.mem_of_getElem? hw)).1
        exact ⟨by rw [hmoves.watch_eq]; exact hperiod, hmoves.isBroken_eq henv hperiod⟩

theorem period_of_mem_watches {period first : Nat} {outboxes : List (ChainId × Address × χ)}
    {w : Watch χ} (h : w ∈ watches period first outboxes) : w.period = period := by
  induction outboxes generalizing first with
  | nil => cases h
  | cons o outboxes ih =>
    rcases List.mem_cons.mp h with rfl | h
    · rfl
    · exact ih h

/-- Nodes that install every filter. -/
def obliging : Environment χ Unit where
  answer _ _ request :=
    (match request with
      | .newFilter _ => .ok 0
      | _ => .error (.transport ""), ())

/-- Without an interval the first watcher breaks down as soon as its filter is installed. -/
theorem not_sturdy_launch (r : Relayer χ) (topology : Topology) (capacity : Nat)
    (outbox : ChainId × Address × χ) (outboxes : List (ChainId × Address × χ)) :
    ¬ (launch r topology capacity 0 (outbox :: outboxes)).Sturdy := by
  intro h
  -- One step installs the filter and sets up the interval.
  obtain ⟨o, hact, w, hw, hbroken⟩ : ∃ o,
      (launch r topology capacity 0 (outbox :: outboxes)).act obliging
        (.step (.watcher 0) .now) () = some o ∧
      ∃ w ∈ o.task.system.watchers, w.isBroken = true :=
    ⟨_, rfl, _, List.mem_cons_self, rfl⟩
  have hstays := h Unit obliging (fun _ => rfl) () _ _ _ (.act .start hact) w hw
  rw [hbroken] at hstays
  cases hstays

/-- The watchers of a service stay exactly if there is an interval or nothing to watch. -/
theorem sturdy_launch_iff {r : Relayer χ} {topology : Topology} {capacity period : Nat}
    {outboxes : List (ChainId × Address × χ)} :
    (launch r topology capacity period outboxes).Sturdy ↔ (period = 0 → outboxes = []) := by
  constructor
  · rintro h rfl
    cases outboxes with
    | nil => rfl
    | cons outbox outboxes => exact absurd h (not_sturdy_launch r topology capacity outbox outboxes)
  · intro hperiod τ env henv nodes₀ turns s nodes hreaches
    -- A watcher keeps its interval, so no step of it can break on the lack of one.
    have hall := hreaches.induction
      (motive := fun _ s _ => ∀ w ∈ s.watchers, w.watch.period ≠ 0 ∧ w.isBroken = false) ?_
      (fun hs hchange => hchange.forall_watcher henv hs)
    · exact fun w hw => (hall w hw).2
    · intro w hw
      obtain ⟨watch, hwatch, rfl⟩ := List.mem_map.mp hw
      refine ⟨fun hzero => ?_, rfl⟩
      rw [period_of_mem_watches hwatch] at hzero
      rw [hperiod hzero] at hwatch
      cases hwatch

end Service

/-! ### From the configuration to the service -/

namespace Session

/-- Notes are left without a question. -/
theorem talk_leave_all (env : Environment χ σ) (ns : List Note) (s : σ) :
    (ns.forM leave : Session χ Unit).talk env s = ((), s, []) := by
  induction ns with
  | nil => rfl
  | cons n ns ih => exact ih

/-- A session that cannot fail, as a part of one that may. -/
theorem talk_exceptLift {ε α : Type} {env : Environment χ σ} {x : Session χ α} {a : α} {s s' : σ}
    {es : List (Exchange χ)} (h : x.talk env s = (a, s', es)) :
    (ExceptT.lift x : ExceptT ε (Session χ) α).run.talk env s = (.ok a, s', es) := by
  have hlift : (ExceptT.lift x : ExceptT ε (Session χ) α).run = x >>= fun a => pure (.ok a) :=
    map_eq_pure_bind _ x
  rw [hlift, talk_bind _ h]
  simp [after, talk, run, pure, exchanges]

end Session

namespace Configuration

/-- The service starts in every topology, and none of its watchers breaks down by itself. -/
def Starts (c : Configuration) (env : Environment NodeClient σ) (s : σ) : Prop :=
  ∀ topology, ∃ service, ((Job.startService c (some topology)).run.run env s).1 = .ok service ∧
    service.Sturdy

variable {c : Configuration} {env : Environment NodeClient σ} {s : σ}

/-- An accepted configuration connects to the nodes that vouch for it, and what becomes of it is up to
the start of the tasks. -/
theorem exists_result_startService (hvalid : c.validate = .ok ())
    (hvouches : env.Vouches c.endpoints) (topology : Topology) (s : σ) :
    ∃ relayer : Relayer NodeClient,
      List.Forall₂ Registration.IsOf relayer.registry.chains c.endpoints ∧
        ((Job.startService c (some topology)).run.run env s).1 =
          (Service.start { c.fulfillment with topology } relayer).mapError JobError.start := by
  have haccepted := validate_eq_ok_iff.mp hvalid
  obtain ⟨account, haccount⟩ := haccepted.wallet
  obtain ⟨registry, s', es, hconnect, hchains⟩ :=
    Registry.exists_talk_connect hvouches haccepted.distinct s
  refine ⟨{ registry, account }, hchains, ?_⟩
  have hadapt : ((Registry.connect c.endpoints).adapt JobError.connections).run.talk env s =
      (.ok registry, s', es) := by
    rw [talk_adapt, hconnect]
    rfl
  change ((Job.startService c (some topology)).run.talk env s).1 = _
  have hlift : (liftM (c.wallet.verifiedAccount.mapError JobError.wallet) :
      ExceptT JobError (Session NodeClient) Account).run.talk env s' = (.ok account, s', []) := by
    rw [talk_lift, haccount]
    rfl
  rw [Job.startService]
  dsimp only [Option.getD_some]
  rw [talk_bind_of_ok _ hadapt, talk_bind_of_silent _ hlift]
  -- From here on only the start of the tasks can fail.
  generalize (Service.start _ { registry, account }).mapError JobError.start = result
  cases result with
  | error e =>
    rw [talk_bind_of_error _ (talk_lift (.error e))]
    rfl
  | ok service =>
    have hnotes := talk_exceptLift (ε := JobError)
      (talk_leave_all env (Service.startNotes service.system) s')
    rw [talk_bind_of_silent _ (talk_lift (.ok service)), talk_bind_of_silent _ hnotes]
    rfl

theorem outboxes_eq_nil_iff {registry : Registry NodeClient} {endpoints : List Endpoint}
    (h : List.Forall₂ Registration.IsOf registry.chains endpoints) :
    Service.outboxes registry = [] ↔ ∀ e ∈ endpoints, e.outboxes = [] := by
  rw [Service.outboxes]
  generalize registry.chains = chains at h
  induction h with
  | nil => simp
  | cons hof _ ih =>
    rw [List.flatMap_cons, List.append_eq_nil_iff, ih, hof.1]
    simp

/-- What starts has queues that are not too large, and an interval if it has an outbox. -/
theorem Starts.bounds (h : c.Starts env s) (hvalid : c.validate = .ok ())
    (hvouches : env.Vouches c.endpoints) :
    c.fulfillment.queueCapacity.toNat ≤ Service.maxCapacity ∧
      (c.fulfillment.pollInterval = 0 → ∀ e ∈ c.endpoints, e.outboxes = []) := by
  obtain ⟨service, hservice, hsturdy⟩ := h .single
  obtain ⟨relayer, hchains, hresult⟩ := exists_result_startService hvalid hvouches .single s
  rw [hresult] at hservice
  obtain ⟨-, hcapacity, rfl⟩ := Service.start_eq_ok_iff.mp (mapError_eq_ok_iff.mp hservice)
  refine ⟨hcapacity, fun hzero => (outboxes_eq_nil_iff hchains).mp ?_⟩
  exact Service.sturdy_launch_iff.mp hsturdy (by rw [hzero]; rfl)

/-- An accepted configuration with reachable nodes starts exactly if its queues are not too large and
it does not poll without an interval, unless there is no outbox to be polled. -/
theorem starts_iff (hvalid : c.validate = .ok ()) (hvouches : env.Vouches c.endpoints) (s : σ) :
    c.Starts env s ↔
      c.fulfillment.queueCapacity.toNat ≤ Service.maxCapacity ∧
        (c.fulfillment.pollInterval = 0 → ∀ e ∈ c.endpoints, e.outboxes = []) := by
  have hpositive : 0 < c.fulfillment.queueCapacity.toNat :=
    Nat.pos_of_ne_zero fun hzero =>
      (validate_eq_ok_iff.mp hvalid).capacity_ne (BitVec.eq_of_toNat_eq hzero)
  refine ⟨fun h => h.bounds hvalid hvouches, ?_⟩
  rintro ⟨hcapacity, hinterval⟩ topology
  obtain ⟨relayer, hchains, hresult⟩ := exists_result_startService hvalid hvouches topology s
  have hstart : Service.start { c.fulfillment with topology } relayer =
      .ok (Service.launch relayer topology c.fulfillment.queueCapacity.toNat
        c.fulfillment.pollInterval.toNat (Service.outboxes relayer.registry)) :=
    Service.start_eq_ok_iff.mpr ⟨hpositive, hcapacity, rfl⟩
  rw [hstart] at hresult
  refine ⟨_, hresult, Service.sturdy_launch_iff.mpr fun hzero => ?_⟩
  exact (outboxes_eq_nil_iff hchains).mpr (hinterval (BitVec.eq_of_toNat_eq hzero))

end Configuration

/-! ### A chain on the same machine -/

namespace Loopback

/-- A chain with an outbox. -/
def endpoint : Endpoint :=
  { chainId := 1, nodeUrl := "http://[::1]:8545", outboxes := [("main", 0x25)] }

/-- The smallest key, and the wallet of its account. -/
def key : SecretKey := ⟨1, Nat.one_pos, Curve.one_lt_order⟩

def wallet : Wallet where
  fromAddress := key.account.address
  privateKey := "0000000000000000000000000000000000000000000000000000000000000001"

/-- A configuration of the chain. -/
def configuration (queueCapacity pollInterval : BitVec 64) : Configuration :=
  { chains := [("local", endpoint)], wallet, fulfillment := { queueCapacity, pollInterval } }

/-- The node of the chain. -/
def node : Environment NodeClient Unit where
  answer _ _ request :=
    (match request with
      | .chainId => .ok 1
      | .newFilter _ => .ok 0
      | _ => .error (.transport ""), ())

theorem verifiedAccount_wallet : wallet.verifiedAccount = .ok key.account := by
  have hdigits : Hex.decodeExactChars 32
      (Hex.dropLowerPrefix (Bytes.ofText (trimBlank wallet.privateKey))) =
        .ok (List.replicate 31 0 ++ [1]) := by decide +kernel
  have hnumber : Bytes.toNat (List.replicate 31 0 ++ [1]) = 1 := by decide
  have hofNat : SecretKey.ofNat? 1 = some key := dif_pos ⟨Nat.one_pos, Curve.one_lt_order⟩
  have hkey : SecretKey.ofText wallet.privateKey = .ok key := by
    refine bind_eq_ok_iff.mpr ⟨_, mapError_eq_ok_iff.mpr hdigits, ?_⟩
    rw [hnumber, hofNat]
    rfl
  refine Wallet.verifiedAccount_eq_ok_iff.mpr ⟨?_, rfl⟩
  rw [Wallet.account, hkey]

theorem validate_configuration {queueCapacity : BitVec 64} (h : queueCapacity ≠ 0)
    (pollInterval : BitVec 64) : (configuration queueCapacity pollInterval).validate = .ok () :=
  Configuration.validate_eq_ok_iff.mpr
    { chains_ne := by simp [configuration]
      distinct := by simp [configuration, Configuration.endpoints]
      capacity_ne := h
      l1_configured := fun _ h => by cases h
      wallet := ⟨key.account, verifiedAccount_wallet⟩ }

theorem vouches_node (queueCapacity pollInterval : BitVec 64) :
    node.Vouches (configuration queueCapacity pollInterval).endpoints := by
  have hclient : (NodeClient.ofEndpoint endpoint).isOk = true := rfl
  intro e he
  obtain rfl : e = endpoint := by simpa [configuration, Configuration.endpoints] using he
  cases hresult : NodeClient.ofEndpoint endpoint with
  | error cause =>
    rw [hresult] at hclient
    cases hclient
  | ok client => exact ⟨client, rfl, fun _ => rfl⟩

/-- Two accepted configurations that do not start: one polls without an interval, the other has
queues that are too large. -/
theorem not_starts_configuration :
    ((configuration 10 0).validate = .ok () ∧ node.Vouches (configuration 10 0).endpoints ∧
      ¬ (configuration 10 0).Starts node ()) ∧
    ((configuration 0x2000000000000000 2000).validate = .ok () ∧
      node.Vouches (configuration 0x2000000000000000 2000).endpoints ∧
      ¬ (configuration 0x2000000000000000 2000).Starts node ()) := by
  have hidle := validate_configuration (show (10 : BitVec 64) ≠ 0 by decide) 0
  have hlarge := validate_configuration (show (0x2000000000000000 : BitVec 64) ≠ 0 by decide) 2000
  refine ⟨⟨hidle, vouches_node 10 0, fun h => ?_⟩,
    ⟨hlarge, vouches_node 0x2000000000000000 2000, fun h => ?_⟩⟩
  · have hnone := (h.bounds hidle (vouches_node 10 0)).2 rfl endpoint (by decide)
    cases hnone
  · exact absurd (h.bounds hlarge (vouches_node _ _)).1 (by decide)

theorem starts_configuration :
    (configuration 10 2000).validate = .ok () ∧ node.Vouches (configuration 10 2000).endpoints ∧
      (configuration 10 2000).Starts node () := by
  have hvalid := validate_configuration (show (10 : BitVec 64) ≠ 0 by decide) 2000
  have hvouches := vouches_node 10 2000
  exact ⟨hvalid, hvouches,
    (Configuration.starts_iff hvalid hvouches ()).mpr ⟨by decide, fun h => by cases h⟩⟩

end Loopback

end CrossCall
