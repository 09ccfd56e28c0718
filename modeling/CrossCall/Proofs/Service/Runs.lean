import Mathlib
import CrossCall.Proofs.Service.Follow
import CrossCall.Proofs.Service.Watching

/-!
# Runs of the service

A run takes actions in any order: steps of tasks, time that passes, what the supervisor does, and a
cancellation. It is recorded turn by turn, so that what has happened up to a reachable state can be
read from the record. Of all actions only the steps change more of the tasks than their clock and
whether they are cancelled.

## Main definitions

* `Service.launch` — the service before its first action, with any outboxes
* `Service.Reaches` — a run of the service and its record
* `System.Changes` — the ways in which an action changes the tasks
* `handedIn` — the logs that were handed to the relayer in some turns

## Main results

* `Service.start_eq_ok_iff` — what is started is launched
* `Service.Reaches.induction` — what holds at first and is kept by every change holds in every run
* `Service.Reaches.of_follow` — a sequence of actions that are all possible is a run
-/

namespace CrossCall

variable {χ σ : Type}

namespace Service

/-! ### What a record says -/

/-- The log that a worker handed to the relayer. -/
def Happening.handed? : Happening χ → Option Sighting
  | handed s => some s
  | _ => none

theorem Happening.IsLine.handed?_eq {h : Happening χ} (hline : h.IsLine) : h.handed? = none := by
  obtain ⟨level, target, text, rfl⟩ := hline
  rfl

theorem Happening.IsLine.dropped?_eq {h : Happening χ} (hline : h.IsLine) : h.dropped? = none := by
  obtain ⟨level, target, text, rfl⟩ := hline
  rfl

/-- The logs that were handed to the relayer in a turn. -/
def Turn.handed (t : Turn χ) : List Sighting := t.happenings.filterMap Happening.handed?

/-- The logs that were handed to the relayer in some turns, in order. -/
def handedIn (turns : List (Turn χ)) : List Sighting := turns.flatMap Turn.handed

theorem handedIn_append (turns turns' : List (Turn χ)) :
    handedIn (turns ++ turns') = handedIn turns ++ handedIn turns' :=
  List.flatMap_append

theorem eventsIn_append (turns turns' : List (Turn χ)) :
    eventsIn (turns ++ turns') = eventsIn turns ++ eventsIn turns' :=
  List.flatMap_append

theorem droppedIn_append (turns turns' : List (Turn χ)) :
    droppedIn (turns ++ turns') = droppedIn turns ++ droppedIn turns' :=
  List.flatMap_append

/-! ### Changes of the tasks -/

/-- The ways in which an action changes the tasks: one of them takes a step, or nothing but their
clock and whether they are cancelled is touched. A cancellation is not taken back. -/
inductive System.Changes (env : Environment χ σ) (s : System χ) (nodes : σ) :
    Turn χ → System χ → σ → Prop
  | stepped {t : TaskId} {notice : Notice} {o : Outcome χ σ (System χ)}
      (move : System.Moves env notice s nodes t o) :
      Changes env s nodes
        { task := some t, handled := s.handled? t, happenings := o.happenings } o.task o.nodes
  | aside {now : Nat} {cancelled : Bool} {happenings : List (Happening χ)}
      (kept : s.cancelled = true → cancelled = true) (lines : ∀ h ∈ happenings, h.IsLine) :
      Changes env s nodes { happenings } { s with now, cancelled } nodes

end Service

open Service

namespace Service

/-- The task that takes a step in an action. -/
def Action.task? : Action → Option TaskId
  | step t _ => some t
  | _ => none

/-- The record of an action. -/
def turnOf (s : Service χ) (a : Action) (o : Outcome χ σ (Service χ)) : Turn χ where
  task := a.task?
  handled := a.task?.bind s.system.handled?
  happenings := o.happenings

/-- A run of the service and its record. -/
inductive Reaches (env : Environment χ σ) (s₀ : Service χ) (nodes₀ : σ) :
    List (Turn χ) → Service χ → σ → Prop
  | start : Reaches env s₀ nodes₀ [] s₀ nodes₀
  | act {turns : List (Turn χ)} {s : Service χ} {nodes : σ} {a : Action}
      {o : Outcome χ σ (Service χ)} (before : Reaches env s₀ nodes₀ turns s nodes)
      (action : s.act env a nodes = some o) :
      Reaches env s₀ nodes₀ (turns ++ [s.turnOf a o]) o.task o.nodes

variable {env : Environment χ σ} {s s₀ : Service χ} {nodes nodes₀ : σ} {turns : List (Turn χ)}

theorem system_join (s : Service χ) (t : TaskId) :
    ∃ cancelled, (s.system.cancelled = true → cancelled = true) ∧
      (s.join t).1.system = { s.system with cancelled } ∧ ∀ h ∈ (s.join t).2, h.IsLine := by
  have hline : ∀ level text, ∀ h ∈ [(.line level "filler::service" text : Happening χ)],
      h.IsLine := by
    intro level text h hmem
    rw [List.mem_singleton.mp hmem]
    exact Happening.isLine_line _ _ _
  rw [join]
  split
  · -- A task that broke down cancels all others.
    exact ⟨true, fun _ => rfl, rfl, hline _ _⟩
  · exact ⟨s.system.cancelled, id, rfl, hline _ _⟩
  · exact ⟨s.system.cancelled, id, rfl, hline _ _⟩
  · exact ⟨s.system.cancelled, id, rfl, hline _ _⟩

/-- An action changes the tasks in one of the ways. -/
theorem changes_of_act {a : Action} {o : Outcome χ σ (Service χ)}
    (h : s.act env a nodes = some o) :
    System.Changes env s.system nodes (s.turnOf a o) o.task.system o.nodes := by
  have haside : ∀ {o : Outcome χ σ (Service χ)} {a : Action} (now : Nat) (cancelled : Bool),
      a.task? = none → (s.system.cancelled = true → cancelled = true) →
      o.task.system = { s.system with now, cancelled } → o.nodes = nodes →
      (∀ h ∈ o.happenings, h.IsLine) →
      System.Changes env s.system nodes (s.turnOf a o) o.task.system o.nodes := by
    intro o a now cancelled ha hkept hsystem hnodes hlines
    rw [turnOf, ha, hsystem, hnodes]
    exact .aside hkept hlines
  cases a with
  | step t notice =>
    obtain ⟨o', hstep, rfl⟩ := Option.map_eq_some_iff.mp h
    exact .stepped (System.moves_of_step hstep)
  | elapse ms =>
    cases h
    exact haside (s.system.now + ms) s.system.cancelled rfl id rfl rfl (by simp)
  | cancel =>
    cases h
    exact haside s.system.now true rfl (fun _ => rfl) rfl rfl (by simp)
  | join t =>
    rw [act] at h
    split at h
    · cases h
      obtain ⟨cancelled, hkept, hsystem, hlines⟩ := s.system_join t
      exact haside s.system.now cancelled rfl hkept hsystem rfl hlines
    · cases h
  | finish =>
    rw [act] at h
    split at h
    · split at h
      · cases h
        refine haside s.system.now s.system.cancelled rfl id rfl rfl ?_
        intro x hx
        rw [List.mem_singleton.mp hx]
        exact Happening.isLine_line _ _ _
      · cases h
        exact haside s.system.now s.system.cancelled rfl id rfl rfl (by simp)
      · cases h
    · cases h
  | stop =>
    rw [act] at h
    split at h
    · cases h
      exact haside s.system.now true rfl (fun _ => rfl) rfl rfl (by simp)
    · cases h
      exact haside s.system.now true rfl (fun _ => rfl) rfl rfl (by simp)
    · cases h

/-- What holds of the tasks at first and is kept by every change holds in every run. -/
theorem Reaches.induction {motive : List (Turn χ) → System χ → σ → Prop}
    (start : motive [] s₀.system nodes₀)
    (change : ∀ {turns s nodes turn s' nodes'}, motive turns s nodes →
      System.Changes env s nodes turn s' nodes' → motive (turns ++ [turn]) s' nodes')
    (h : Reaches env s₀ nodes₀ turns s nodes) : motive turns s.system nodes := by
  induction h with
  | start => exact start
  | act before action ih => exact change ih (changes_of_act action)

/-! ### Sequences of actions -/

/-- The record of a sequence of actions and the service after it, if all of them are possible. -/
def follow (env : Environment χ σ) :
    List Action → Service χ → σ → Option (List (Turn χ) × Service χ × σ)
  | [], s, nodes => some ([], s, nodes)
  | a :: as, s, nodes => do
    let o ← s.act env a nodes
    let (turns, s', nodes') ← follow env as o.task o.nodes
    return (s.turnOf a o :: turns, s', nodes')

/-- A sequence of actions that are all possible is a run. -/
theorem Reaches.of_follow {as : List Action} {turns' : List (Turn χ)} {s' : Service χ} {nodes' : σ}
    (h : Reaches env s₀ nodes₀ turns s nodes)
    (hfollow : s.follow env as nodes = some (turns', s', nodes')) :
    Reaches env s₀ nodes₀ (turns ++ turns') s' nodes' := by
  induction as generalizing turns turns' s nodes with
  | nil =>
    cases hfollow
    rwa [List.append_nil]
  | cons a as ih =>
    obtain ⟨o, hact, hfollow⟩ := Option.bind_eq_some_iff.mp hfollow
    obtain ⟨⟨turns'', s'', nodes''⟩, hrest, ⟨⟩⟩ := Option.bind_eq_some_iff.mp hfollow
    have hlast := ih (.act h hact) hrest
    rwa [List.append_assoc] at hlast

/-! ### Before the first action -/

/-- The service before its first action: a watcher for every outbox, and the consumers of a
topology. -/
def launch (r : Relayer χ) (topology : Topology) (capacity period : Nat)
    (outboxes : List (ChainId × Address × χ)) : Service χ where
  system :=
    { relayer := r
      watchers := (watches period 0 outboxes).map fun watch => { watch }
      shared := { capacity, writers := (watches period 0 outboxes).length }
      consumers := consumers topology capacity r.registry.ids }

/-- What is started, is launched with the outboxes of the registered chains. -/
theorem start_eq_ok_iff {settings : FulfillmentSettings} {r : Relayer χ} {s : Service χ} :
    start settings r = .ok s ↔
      0 < settings.queueCapacity.toNat ∧ settings.queueCapacity.toNat ≤ maxCapacity ∧
        s = launch r settings.topology settings.queueCapacity.toNat settings.pollInterval.toNat
          (outboxes r.registry) := by
  have hlaunch : ∀ {s : Service χ}, (Except.ok (ε := StartError) (launch r settings.topology
      settings.queueCapacity.toNat settings.pollInterval.toNat (outboxes r.registry)) = .ok s) ↔
      s = launch r settings.topology settings.queueCapacity.toNat settings.pollInterval.toNat
        (outboxes r.registry) := by
    intro s
    rw [Except.ok.injEq, eq_comm]
  rw [start]
  by_cases hzero : settings.queueCapacity.toNat = 0
  · simp [hzero]
  · by_cases hlarge : maxCapacity < settings.queueCapacity.toNat
    · simp [hzero, hlarge]
    · rw [if_neg hzero, if_neg hlarge, ← hlaunch]
      have hpositive : 0 < settings.queueCapacity.toNat := Nat.pos_of_ne_zero hzero
      simp only [hpositive, Nat.le_of_not_lt hlarge, true_and, launch, List.length_map]

end Service

end CrossCall
