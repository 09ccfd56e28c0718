import Mathlib
import CrossCall.Proofs.Node.Traces

/-!
# Steps of one question

A longer session is made of steps that ask one question each and make something of the answer.
Between them the session may leave notes and look at what it was told before; such a step is silent.
What a step does is then said in one line, and a session of several steps is run by looking at one
answer after another.

The nodes change their state when they are asked, and with it a token may be cancelled. The states
that a session meets are those before and after its questions. A token that stays cancelled is
cancelled at the end of a session if it was in any of them.

## Main definitions

* `Session.Silent` — a step asks nothing
* `Session.AsksOnce` — a step asks one question and reads the answer
* `Session.states` — the states of the nodes that a session meets
* `Environment.StaysCancelled` — a token that is cancelled stays so

## Main results

* `Session.AsksOnce.exists_talk_bind` — a step of one question, and what comes after it
* `Session.Heedless.talk_eq` — a session that does not look at the token does not depend on it
* `Environment.StaysCancelled.of_mem_states` — what is cancelled on the way is so at the end
-/

namespace CrossCall

variable {χ σ α β ε ε' : Type}

namespace Session

/-- Whatever the nodes are, a step asks nothing and has this result. -/
def Silent (x : ExceptT ε (Session χ) α) (result : Except ε α) : Prop :=
  ∀ ⦃σ : Type⦄ (env : Environment χ σ) (s : σ), x.run.talk env s = (result, s, [])

/-- Whatever the nodes are, a step asks one question, and its result is what is read from the
answer. -/
def AsksOnce (x : ExceptT ε (Session χ) α) (node : χ) (request : Request)
    (read : Except ClientError request.Answer → Except ε α) : Prop :=
  ∀ ⦃σ : Type⦄ (env : Environment χ σ) (s : σ),
    x.run.talk env s =
      (read (env.answer s node request).1, (env.answer s node request).2,
        [⟨node, request, (env.answer s node request).1⟩])

section

variable {x : ExceptT ε (Session χ) α} {f : α → ExceptT ε (Session χ) β} {a : α}
variable {result : Except ε α} {node : χ} {request : Request}

/-! ### Silent steps -/

theorem silent_pure (a : α) : Silent (pure a : ExceptT ε (Session χ) α) (.ok a) := fun _ _ _ => rfl

theorem silent_throw (e : ε) : Silent (throw e : ExceptT ε (Session χ) α) (.error e) :=
  fun _ _ _ => rfl

theorem silent_lift (result : Except ε α) :
    Silent (liftM result : ExceptT ε (Session χ) α) result :=
  fun _ _ _ => talk_lift result

theorem silent_report (level : Journal.Level) (target text : String) :
    Silent (report level target text : ExceptT ε (Session χ) Unit) (.ok ()) := fun _ _ _ => rfl

theorem Silent.bind {g : α → Except ε β} (hx : Silent x result) (hf : ∀ a, Silent (f a) (g a)) :
    Silent (x >>= f) (result >>= g) := by
  intro σ env s
  cases result with
  | error e => exact talk_bind_of_error f (hx env s)
  | ok a => exact (talk_bind_of_silent f (hx env s)).trans (hf a env s)

/-- A silent step that goes well may come before another one. -/
theorem Silent.bind_of_ok {result' : Except ε β} (hx : Silent x (.ok a))
    (hf : Silent (f a) result') : Silent (x >>= f) result' :=
  fun _ env s => (talk_bind_of_silent f (hx env s)).trans (hf env s)

/-- The result of a silent step may be given back by another one. -/
theorem Silent.bind_same {f : α → ExceptT ε (Session χ) α} (hx : Silent x result)
    (hf : ∀ a, Silent (f a) (.ok a)) : Silent (x >>= f) result := by
  have hbind := hx.bind hf
  rwa [show (result >>= fun a => .ok a) = result by cases result <;> rfl] at hbind

/-! ### Steps of one question -/

theorem asksOnce_query (node : χ) (request : Request) (onError : ClientError → ε) :
    AsksOnce (query node request onError) node request (·.mapError onError) :=
  fun _ _ _ => talk_query onError rfl

variable {read : Except ClientError request.Answer → Except ε α}

/-- A step of one question, and what comes after it if the answer can be used. -/
theorem AsksOnce.talk_bind (hx : AsksOnce x node request read) (f : α → ExceptT ε (Session χ) β)
    (env : Environment χ σ) (s : σ) :
    (x >>= f).run.talk env s =
      match read (env.answer s node request).1 with
      | .error e =>
        (.error e, (env.answer s node request).2,
          [⟨node, request, (env.answer s node request).1⟩])
      | .ok a =>
        after [⟨node, request, (env.answer s node request).1⟩]
          ((f a).run.talk env (env.answer s node request).2) := by
  have htalk := hx env s
  cases hread : read (env.answer s node request).1 with
  | error e =>
    rw [hread] at htalk
    exact talk_bind_of_error f htalk
  | ok a =>
    rw [hread] at htalk
    exact talk_bind_of_ok f htalk

/-- Whatever comes after a step of one question, either nothing can be made of the answer, and it is
the last one, or it goes on from there. -/
theorem AsksOnce.exists_talk_bind (hx : AsksOnce x node request read) (env : Environment χ σ)
    (s : σ) :
    ∃ answer s',
      (∃ e, read answer = .error e ∧ ∀ {β : Type} (f : α → ExceptT ε (Session χ) β),
        (x >>= f).run.talk env s = (.error e, s', [⟨node, request, answer⟩])) ∨
      ∃ a, read answer = .ok a ∧ ∀ {β : Type} (f : α → ExceptT ε (Session χ) β),
        (x >>= f).run.talk env s = after [⟨node, request, answer⟩] ((f a).run.talk env s') := by
  refine ⟨(env.answer s node request).1, (env.answer s node request).2, ?_⟩
  rcases hread : read (env.answer s node request).1 with e | a
  · refine .inl ⟨e, rfl, fun f => ?_⟩
    rw [hx.talk_bind f env s, hread]
  · refine .inr ⟨a, rfl, fun f => ?_⟩
    rw [hx.talk_bind f env s, hread]

/-- What is made of the answer may be made in several steps. -/
theorem AsksOnce.bind_silent {g : α → Except ε β} (hx : AsksOnce x node request read)
    (hf : ∀ a, Silent (f a) (g a)) :
    AsksOnce (x >>= f) node request (fun answer => read answer >>= g) := by
  intro σ env s
  rw [hx.talk_bind f env s]
  dsimp only
  cases read (env.answer s node request).1 with
  | error e => rfl
  | ok a =>
    simp only [hf a env _]
    rfl

/-- A silent step may come before the question. -/
theorem Silent.bind_asksOnce {read : Except ClientError request.Answer → Except ε β}
    (hx : Silent x (.ok a)) (hf : AsksOnce (f a) node request read) :
    AsksOnce (x >>= f) node request read := by
  intro σ env s
  rw [talk_bind_of_silent f (hx env s)]
  exact hf env s

theorem AsksOnce.adapt (hx : AsksOnce x node request read) (onError : ε → ε') :
    AsksOnce (x.adapt onError) node request (fun answer => (read answer).mapError onError) := by
  intro σ env s
  rw [talk_adapt, hx env s]

end

/-! ### The token -/

/-- A session that never looks at the token goes the same way if that is cancelled elsewhere. -/
theorem Heedless.talk_eq {x : Session χ α} (hx : x.Heedless) (env : Environment χ σ)
    (cancelled : σ → Bool) (s : σ) : x.talk { env with cancelled } s = x.talk env s := by
  induction x generalizing s with
  | done a => rfl
  | ask node request next ih => rw [talk_ask, talk_ask, ih _ (hx _)]
  | cancelled next ih => exact hx.elim
  | note n next ih =>
    rw [talk_note, talk_note]
    exact ih hx s

/-- The states of the nodes that a session meets: the one it begins in, and the one after each
question. -/
def states (env : Environment χ σ) : Session χ α → σ → List σ
  | done _, s => [s]
  | ask node request next, s =>
    s :: (next (env.answer s node request).1).states env (env.answer s node request).2
  | cancelled next, s => (next (env.cancelled s)).states env s
  | note _ next, s => next.states env s

end Session

/-- Once the token is cancelled it stays so, whatever is asked. -/
def Environment.StaysCancelled (env : Environment χ σ) : Prop :=
  ∀ s node request, env.cancelled s → env.cancelled (env.answer s node request).2

/-- If the token is cancelled in any state that a session meets, it is so in the last one. -/
theorem Environment.StaysCancelled.of_mem_states {env : Environment χ σ} (h : env.StaysCancelled)
    {x : Session χ α} {s t : σ} (ht : t ∈ x.states env s) (hcancelled : env.cancelled t) :
    env.cancelled (x.talk env s).2.1 := by
  -- A token that is cancelled at first stays so through the whole session.
  have hfirst : ∀ (x : Session χ α) s, env.cancelled s → env.cancelled (x.talk env s).2.1 := by
    intro x
    induction x with
    | done a => exact fun s hs => hs
    | ask node request next ih => exact fun s hs => ih _ _ (h s node request hs)
    | cancelled next ih => exact fun s hs => ih _ s hs
    | note n next ih => exact fun s hs => ih s hs
  induction x generalizing s with
  | done a =>
    rw [List.mem_singleton.mp ht] at hcancelled
    exact hcancelled
  | ask node request next ih =>
    rcases List.mem_cons.mp ht with rfl | ht
    · exact hfirst _ _ hcancelled
    · rw [Session.talk_ask]
      exact ih _ ht
  | cancelled next ih => exact ih _ ht
  | note n next ih => exact ih ht

end CrossCall
