import Mathlib
import CrossCall.Job.Run
import CrossCall.Proofs.Settlement.Values

/-!
# What the job of proving prints

A job prints only at its end. Everything before that is quiet, so a job that fails before the proof is
composed prints nothing, and one that prints anything prints the bundle that was composed, as it is.

## Main definitions

* `printed` — the texts that were printed, in order
* `Session.Quiet` — a session that prints nothing, whatever the answers are
* `Session.outcome` — the result of a session and what it printed, for nodes without a memory
* `Job.Claims` — the texts of a claim
* `Job.Course` — how a job went that printed something

## Main results

* `Session.Quiet.printed_run` — nothing is printed in a run of a quiet session
* `Job.nonempty_course` — a job that printed something has such a course
-/

namespace CrossCall

variable {χ σ α β ε ε' : Type}

/-! ### Printing -/

/-- The text that a note prints. -/
def Note.printed? : Note → Option String
  | print text => some text
  | measure _ _ | journal _ => none

/-- The texts that were printed, in order. -/
def printed (events : List (Event χ)) : List String := (notes events).filterMap Note.printed?

@[simp] theorem printed_append (as bs : List (Event χ)) :
    printed (as ++ bs) = printed as ++ printed bs := by
  simp [printed, notes]

namespace Session

/-- A session prints nothing, whatever the answers are. -/
def Quiet (x : Session χ α) : Prop := x.Within (fun _ => True) (fun n => n.printed? = none)

theorem Quiet.printed_run {x : Session χ α} (hx : x.Quiet) (env : Environment χ σ) (s : σ) :
    printed (x.run env s).2.2 = [] := by
  rw [printed, List.filterMap_eq_nil_iff]
  intro n hn
  obtain ⟨e, he, hnote⟩ := List.mem_filterMap.mp hn
  cases e with
  | exchange e => cases hnote
  | note n' =>
    cases hnote
    exact Within.event_of_mem env hx s _ he

theorem quiet_pure (a : α) : (pure a : ExceptT ε (Session χ) α).run.Quiet := trivial

theorem quiet_throw (e : ε) : (throw e : ExceptT ε (Session χ) α).run.Quiet := trivial

theorem quiet_lift (x : Except ε α) : (liftM x : ExceptT ε (Session χ) α).run.Quiet := by
  cases x <;> trivial

theorem quiet_report (level : Journal.Level) (target text : String) :
    (report level target text : ExceptT ε (Session χ) Unit).run.Quiet :=
  within_report level target text fun _ => rfl

theorem quiet_query (node : χ) (request : Request) (onError : ClientError → ε) :
    (query node request onError).run.Quiet :=
  within_query request onError trivial

theorem Quiet.bind {x : ExceptT ε (Session χ) α} {f : α → ExceptT ε (Session χ) β}
    (hx : x.run.Quiet) (hf : ∀ a, (f a).run.Quiet) : (x >>= f).run.Quiet :=
  Within.bindExcept hx hf

theorem Quiet.map {x : ExceptT ε (Session χ) α} (f : α → β) (hx : x.run.Quiet) :
    (f <$> x).run.Quiet := by
  rw [map_eq_pure_bind]
  exact hx.bind fun _ => quiet_pure _

theorem Quiet.adapt {x : ExceptT ε (Session χ) α} (onError : ε → ε') (hx : x.run.Quiet) :
    (x.adapt onError).run.Quiet := by
  rw [adapt_eq_bind]
  exact Within.bind hx fun _ => trivial

/-- A run of two parts ends with the first, or goes through both. -/
theorem exists_of_run_bind {env : Environment χ σ} {s s' : σ} {events : List (Event χ)}
    {x : ExceptT ε (Session χ) α} {f : α → ExceptT ε (Session χ) β} {r : Except ε β}
    (h : (x >>= f).run.run env s = (r, s', events)) :
    (∃ e, x.run.run env s = (.error e, s', events)) ∨
      ∃ a t before after, x.run.run env s = (.ok a, t, before) ∧
        (f a).run.run env t = (r, s', after) ∧ events = before ++ after := by
  rw [ExceptT.run_bind, run_bind] at h
  rcases hx : x.run.run env s with ⟨e | a, t, before⟩
  · rw [hx] at h
    -- The second part of a run that failed is the error itself, and nothing happens in it.
    have hnil : ∀ y : Except ε β, (Pure.pure y : Session χ (Except ε β)).run env t = (y, t, []) :=
      fun _ => rfl
    simp only [hnil, List.append_nil, Prod.mk.injEq] at h
    obtain ⟨-, rfl, rfl⟩ := h
    exact .inl ⟨e, rfl⟩
  · rw [hx] at h
    cases h
    exact .inr ⟨a, t, before, _, rfl, rfl, rfl⟩

theorem of_run_map {env : Environment χ σ} {s s' : σ} {events : List (Event χ)}
    {x : ExceptT ε (Session χ) α} {f : α → β} {b : β}
    (h : (f <$> x).run.run env s = (.ok b, s', events)) :
    ∃ a, f a = b ∧ x.run.run env s = (.ok a, s', events) := by
  rw [map_eq_pure_bind, ExceptT.run_bind, run_bind] at h
  rcases hx : x.run.run env s with ⟨e | a, t, events'⟩ <;> rw [hx] at h <;> cases h
  exact ⟨a, rfl, by simp [run, Pure.pure, ExceptT.run, ExceptT.pure, ExceptT.mk]⟩

/-- A run that ends well is the same run with errors of another kind. -/
theorem of_run_adapt {env : Environment χ σ} {s s' : σ} {events : List (Event χ)}
    {x : ExceptT ε (Session χ) α} {onError : ε → ε'} {a : α}
    (h : (x.adapt onError).run.run env s = (.ok a, s', events)) :
    x.run.run env s = (.ok a, s', events) := by
  rw [run_adapt] at h
  rcases hx : x.run.run env s with ⟨b | b, t, events'⟩ <;> rw [hx] at h <;> cases h
  rfl

/-- If nothing was printed before a quiet part, then nothing was printed before what follows it, if
anything does. -/
theorem Quiet.of_run_bind {env : Environment χ σ} {s s' : σ} {past events : List (Event χ)}
    {x : ExceptT ε (Session χ) α} {f : α → ExceptT ε (Session χ) β} {r : Except ε β}
    (hx : x.run.Quiet) (hpast : printed past = [])
    (h : (x >>= f).run.run env s = (r, s', events)) :
    printed (past ++ events) = [] ∨
      ∃ a t here rest, x.run.run env s = (.ok a, t, here) ∧ (f a).run.run env t = (r, s', rest) ∧
        printed (past ++ here) = [] ∧ past ++ events = past ++ here ++ rest := by
  have hquiet := hx.printed_run env s
  rcases exists_of_run_bind h with ⟨e, hrun⟩ | ⟨a, t, here, rest, hrun, hrest, rfl⟩
  · rw [hrun] at hquiet
    exact .inl (by simp [hpast, hquiet])
  · rw [hrun] at hquiet
    exact .inr ⟨a, t, here, rest, hrun, hrest, by simp [hpast, hquiet], by simp⟩

/-- The result of a session with nodes that remember nothing, and what it printed. -/
def outcome (env : Environment χ Unit) (x : ExceptT ε (Session χ) α) : Except ε α × List String :=
  ((x.run.run env ()).1, printed (x.run.run env ()).2.2)

theorem of_outcome {env : Environment χ Unit} {x : ExceptT ε (Session χ) α} {r : Except ε α}
    {texts : List String} (h : outcome env x = (r, texts)) :
    (x.run.run env ()).1 = r ∧ printed (x.run.run env ()).2.2 = texts :=
  Prod.mk.inj h

theorem outcome_bind {env : Environment χ Unit} {x : ExceptT ε (Session χ) α} {a : α}
    {texts : List String} (f : α → ExceptT ε (Session χ) β) (h : outcome env x = (.ok a, texts)) :
    outcome env (x >>= f) = ((outcome env (f a)).1, texts ++ (outcome env (f a)).2) := by
  obtain ⟨hresult, rfl⟩ := of_outcome h
  simp only [outcome, ExceptT.run_bind, run_bind, hresult, printed_append]

/-- A step that succeeds and prints nothing is passed over. -/
theorem outcome_bind_of_silent {env : Environment χ Unit} {x : ExceptT ε (Session χ) α} {a : α}
    (f : α → ExceptT ε (Session χ) β) (h : outcome env x = (.ok a, [])) :
    outcome env (x >>= f) = outcome env (f a) := by
  rw [outcome_bind f h]
  rfl

theorem outcome_adapt {env : Environment χ Unit} {x : ExceptT ε (Session χ) α} {a : α}
    (onError : ε → ε') (h : outcome env x = (.ok a, [])) :
    outcome env (x.adapt onError) = (.ok a, []) := by
  obtain ⟨hresult, hprinted⟩ := of_outcome h
  rw [outcome, run_adapt, hresult, hprinted]
  rfl

theorem outcome_discard {env : Environment χ Unit} {x : ExceptT ε (Session χ) α} {a : α}
    (h : outcome env x = (.ok a, [])) : outcome env (discard x) = (.ok (), []) := by
  have hdiscard : discard x = x >>= fun _ => pure () := map_eq_pure_bind _ x
  rw [hdiscard, outcome_bind_of_silent _ h]
  rfl

end Session

open Session

/-! ### The quiet parts of the job -/

theorem Registry.quiet_addVerified (r : Registry χ) (e : Endpoint) (client : χ) :
    (r.addVerified e client).Quiet := by
  refine Within.bind (quiet_query _ _ _) fun report => ?_
  cases report with
  | error x => trivial
  | ok actual =>
    by_cases hid : actual = e.chainId
    · simp only [hid, ne_eq, not_true_eq_false, if_false]
      exact ⟨rfl, trivial⟩
    · simp only [hid, ne_eq, not_false_eq_true, if_true]
      trivial

theorem Registry.quiet_insertVerified (r : Registry χ) (e : Endpoint) (client : χ) :
    (r.insertVerified e client).run.Quiet := by
  rw [run_insertVerified]
  exact Within.bind (r.quiet_addVerified e client) fun _ => trivial

theorem Registry.quiet_connectTo (r : Registry NodeClient) (endpoints : List Endpoint) :
    (r.connectTo endpoints).run.Quiet := by
  induction endpoints generalizing r with
  | nil => exact quiet_pure r
  | cons e endpoints ih =>
    exact (quiet_lift _).bind fun client => (r.quiet_insertVerified e client).bind fun r => ih r

theorem FulfillmentRecord.quiet_read (node : χ) (inbox : Address) (messageId : Word)
    (block : BlockTag) : (read node inbox messageId block).run.Quiet := by
  refine (quiet_query _ _ _).bind fun answer => ?_
  refine (quiet_lift _).bind fun record => ?_
  dsimp only
  split
  · exact quiet_throw _
  · refine (quiet_report _ _ _).bind fun _ => ?_
    exact quiet_pure _

/-- A record that is read was answered, and it has a filler. -/
theorem FulfillmentRecord.of_talk_read {env : Environment χ σ} {s s' : σ} {es : List (Exchange χ)}
    {node : χ} {inbox : Address} {messageId : Word} {block : BlockTag} {record : FulfillmentRecord}
    (h : (read node inbox messageId block).run.talk env s = (.ok record, s', es)) :
    ∃ answer,
      Abi.decodeSingle ty answer = .ok (record.timestamp, record.filler, ()) ∧ record.filler ≠ 0 ∧
        es =
          [⟨node,
            .call
              { target := some inbox
                data := some (Abi.encodeCall selector [.word 256] (messageId, ())) }
              block,
            .ok answer⟩] := by
  obtain ⟨answer, t, es₁, es₂, hanswer, hrest, rfl⟩ := exists_of_talk_bind h
  obtain ⟨-, rfl⟩ := of_talk_query hanswer
  obtain ⟨⟨timestamp, filler, ⟨⟩⟩, t', es₁, es₂, hread, hfiller, rfl⟩ := exists_of_talk_bind hrest
  obtain ⟨hdecode, rfl, rfl⟩ := of_talk_lift hread
  dsimp only at hfiller
  split at hfiller
  next => cases hfiller
  next hne =>
    cases hfiller
    exact ⟨answer, mapError_eq_ok_iff.mp hdecode, hne, rfl⟩

theorem L1Snapshot.quiet_capture (node : χ) (devnet : Bool) (block : BlockTag) :
    (capture node devnet block).run.Quiet := by
  rw [capture]
  split
  · exact quiet_throw _
  · refine (quiet_query _ _ _).bind fun answer => ?_
    split
    · exact quiet_throw _
    · refine (quiet_report _ _ _).bind fun _ => ?_
      exact quiet_pure _

theorem SlotProof.quiet_prove (node : χ) (contract : Address) (slot : Word) (block : BlockTag) :
    (prove node contract slot block).run.Quiet := by
  refine (quiet_report _ _ _).bind fun _ => ?_
  refine (quiet_query _ _ _).bind fun answer => ?_
  split
  · exact quiet_throw _
  · refine (quiet_report _ _ _).bind fun _ => ?_
    refine (quiet_lift _).bind fun _ => ?_
    refine (quiet_report _ _ _).bind fun _ => ?_
    exact quiet_pure _

theorem Rollup.quiet_assertionCreated (r : Rollup) (l1 : χ) (hash : Word) (l1Block : BitVec 64) :
    (r.assertionCreated l1 hash l1Block).run.Quiet := by
  refine (quiet_query _ _ _).bind fun logs => ?_
  split
  · exact quiet_throw _
  · exact quiet_lift _

theorem Rollup.quiet_headerOf (l2 : χ) (hash : Word) : (headerOf l2 hash).run.Quiet := by
  refine (quiet_query _ _ _).bind fun answer => ?_
  split
  · exact quiet_throw _
  · split
    · exact quiet_throw _
    · exact quiet_pure _

theorem Rollup.quiet_capture (r : Rollup) (l1 l2 : χ) (l1Block : BitVec 64) :
    (r.capture l1 l2 l1Block).run.Quiet := by
  refine Quiet.bind ((quiet_query _ _ _).bind fun _ => quiet_lift _) fun hash => ?_
  refine (r.quiet_assertionCreated _ _ _).bind fun created => ?_
  refine (quiet_lift _).bind fun afterState => ?_
  refine (quiet_headerOf _ _).bind fun header => ?_
  refine ((SlotProof.quiet_prove _ _ _ _).adapt _).bind fun proof => ?_
  refine (quiet_report _ _ _).bind fun _ => ?_
  exact quiet_pure _

theorem ProofBundle.quiet_ensureActive :
    (ensureActive : ExceptT CompositionError (Session χ) Unit).run.Quiet := by
  rintro (_ | _) <;> trivial

theorem ProofBundle.quiet_compose (l1 l2 : χ) (devnet : Bool) (rollup : Rollup) (inbox : Address)
    (messageId : Word) (block : BlockTag) :
    (compose l1 l2 devnet rollup inbox messageId block).run.Quiet := by
  refine ((L1Snapshot.quiet_capture _ _ _).adapt _).bind fun l1State => ?_
  refine quiet_ensureActive.bind fun _ => ?_
  refine ((rollup.quiet_capture _ _ _).adapt _).bind fun snapshot => ?_
  refine quiet_ensureActive.bind fun _ => ?_
  refine ((SlotProof.quiet_prove _ _ _ _).adapt _).bind fun inboxProof => ?_
  refine (quiet_report _ _ _).bind fun _ => ?_
  exact quiet_pure _

theorem quiet_findPostedMessage (node : χ) (outboxes : List Address) (messageId : Word)
    (fromBlock : BitVec 64) : (findPostedMessage node outboxes messageId fromBlock).run.Quiet := by
  refine (quiet_query _ _ _).bind fun logs => ?_
  split
  · exact quiet_throw _
  · refine (quiet_lift _).bind fun _ => ?_
    refine (quiet_report _ _ _).bind fun _ => ?_
    exact quiet_pure _

namespace Job

theorem quiet_need (e : ε) (a : Option α) : (need e a : ExceptT ε (Session χ) α).run.Quiet := by
  cases a <;> trivial

theorem quiet_mapM_configured (c : Configuration) (id : Option ChainId) :
    (id.mapM (configured c) : ExceptT JobError (Session χ) (Option Endpoint)).run.Quiet := by
  cases id with
  | none => exact quiet_pure none
  | some id => exact (quiet_need _ _).map some

variable {env : Environment NodeClient σ} {s s' : σ} {events : List (Event NodeClient)}

/-- What is printed stands before what the rest prints. -/
theorem of_run_bind_print {text : String} {f : Unit → ExceptT ε (Session NodeClient) β}
    {r : Except ε β} (h : (print text >>= f).run.run env s = (r, s', events)) :
    ∃ rest, (f ()).run.run env s = (r, s', rest) ∧ printed events = text :: printed rest := by
  cases h
  exact ⟨_, rfl, rfl⟩

/-- The texts of a claim: none, or the call for the message that was found on the source chain. -/
inductive Claims (env : Environment NodeClient σ) (c : Configuration) (request : ProofRequest)
    (bundle : ProofBundle) : List String → Prop
  | none : Claims env c request bundle []
  | found {id : ChainId} {source : Endpoint} {node : NodeClient} {s : σ} {m : PostedMessage}
      (source_eq : request.source = some id) (source_configured : c.chain? id = some source)
      (message_eq : ((findPostedMessage node (source.outboxes.map (·.2)) request.messageId
        request.sourceFromBlock).run.run env s).1 = .ok m) :
      Claims env c request bundle [(claimData m bundle c.wallet.fromAddress).hex]

/-- The rollup of a destination. -/
def rollupOf (destination : Endpoint) (prover : ProverSettings) : Rollup :=
  { contract := destination.l2Oracle, assertionsSlot := destination.l2OracleStorageKey
    lookback := prover.lookback }

/-- How a job went that printed something. -/
structure Course (env : Environment NodeClient σ) (c : Configuration) (request : ProofRequest)
    (events : List (Event NodeClient)) where
  prover : ProverSettings
  prover_eq : c.prover = some prover
  destination : Endpoint
  destination_eq : c.chain? request.destination = some destination
  l1Node : NodeClient
  l2Node : NodeClient
  /-- What happened up to the composition, while the proof was composed, and afterwards. -/
  before : List (Event NodeClient)
  composing : List (Event NodeClient)
  closing : List (Event NodeClient)
  events_eq : events = before ++ composing ++ closing
  /-- The record of the message is in the inbox at the latest block. -/
  record : FulfillmentRecord
  recordAnswer : Bytes
  record_read :
    ⟨l2Node,
      .call
        { target := some destination.inbox
          data := some
            (Abi.encodeCall FulfillmentRecord.selector [.word 256] (request.messageId, ())) }
        .latest,
      .ok recordAnswer⟩ ∈ exchanges before
  record_eq :
    Abi.decodeSingle FulfillmentRecord.ty recordAnswer = .ok (record.timestamp, record.filler, ())
  filler_ne : record.filler ≠ 0
  /-- The states of the nodes at the composition. -/
  start : σ
  stop : σ
  bundle : ProofBundle
  composed :
    (ProofBundle.compose l1Node l2Node prover.devnet (rollupOf destination prover) destination.inbox
      request.messageId ((request.l1Block.map BlockTag.number).getD .latest)).run.run env start =
        (.ok bundle, stop, composing)
  claims : List String
  claims_are : Claims env c request bundle claims
  printed_eq : printed events = bundle.toData.pretty :: bundle.encode.hex :: claims

theorem claims_of_run_printClaim {registry : Registry NodeClient} {c : Configuration}
    {request : ProofRequest} {bundle : ProofBundle} {id : ChainId} {source : Endpoint}
    {r : Except JobError Unit} (hid : request.source = some id) (hsource : c.chain? id = some source)
    (h : (printClaim registry c request bundle source).run.run env s = (r, s', events)) :
    Claims env c request bundle (printed events) := by
  rw [printClaim] at h
  have hpast : printed ([] : List (Event NodeClient)) = [] := rfl
  rcases (quiet_need _ _).of_run_bind hpast h with
    hnil | ⟨node, s₁, e₁, rest, -, h, hpast, heq⟩
  · rw [List.nil_append] at hnil
    exact hnil ▸ .none
  rcases ((quiet_findPostedMessage _ _ _ _).adapt _).of_run_bind hpast h with
    hnil | ⟨m, s₂, e₂, rest, hm, h, hpast, heq'⟩
  · rw [List.nil_append] at heq
    rw [heq, hnil]
    exact .none
  -- The message was found, and all that is left is to print the call.
  cases h
  rw [List.nil_append] at heq
  rw [heq, heq', printed_append, hpast]
  exact .found hid hsource (congrArg Prod.fst (of_run_adapt hm))

theorem of_run_need {a? : Option α} {a : α} {e : ε}
    (h : (need e a? : ExceptT ε (Session NodeClient) α).run.run env s = (.ok a, s', events)) :
    a? = some a := by
  cases a? with
  | none => cases h
  | some b =>
    cases h
    rfl

/-- The source of a request is configured if the job gets beyond it. -/
theorem exists_of_run_mapM_configured {c : Configuration} {id? : Option ChainId}
    {source : Endpoint}
    (h : (id?.mapM (configured c) : ExceptT JobError (Session NodeClient) _).run.run env s =
      (.ok (some source), s', events)) :
    ∃ id, id? = some id ∧ c.chain? id = some source := by
  cases id? with
  | none => cases h
  | some id =>
    obtain ⟨found, hsome, hfound⟩ := of_run_map (f := some) h
    cases hsome
    exact ⟨id, rfl, of_run_need hfound⟩

/-- A job that printed something went like this. -/
theorem nonempty_course (c : Configuration) (request : ProofRequest) {r : Except JobError Unit}
    (h : (proveFulfillment c request).run.run env s = (r, s', events)) :
    printed events = [] ∨ Nonempty (Course env c request events) := by
  rw [proveFulfillment] at h
  -- What happened so far is kept in front of what is still to be looked at.
  have hpast : printed ([] : List (Event NodeClient)) = [] := rfl
  rw [← List.nil_append events]
  rcases (quiet_need _ _).of_run_bind hpast h with
    hnil | ⟨prover, _, e₁, _, hprover, h, hpast, heq⟩
  · exact .inl hnil
  rw [heq]
  rcases (quiet_need _ _).of_run_bind hpast h with hnil | ⟨l1, _, e₂, _, -, h, hpast, heq⟩
  · exact .inl hnil
  rw [heq]
  rcases (quiet_need _ _).of_run_bind hpast h with
    hnil | ⟨destination, _, e₃, _, hdestination, h, hpast, heq⟩
  · exact .inl hnil
  rw [heq]
  rcases (quiet_mapM_configured _ _).of_run_bind hpast h with
    hnil | ⟨source, _, e₄, _, hsource, h, hpast, heq⟩
  · exact .inl hnil
  rw [heq]
  rcases ((Registry.quiet_connectTo _ _).adapt _).of_run_bind hpast h with
    hnil | ⟨registry, _, e₅, _, -, h, hpast, heq⟩
  · exact .inl hnil
  rw [heq]
  rcases (quiet_need _ _).of_run_bind hpast h with hnil | ⟨l1Node, _, e₆, _, -, h, hpast, heq⟩
  · exact .inl hnil
  rw [heq]
  rcases (quiet_need _ _).of_run_bind hpast h with hnil | ⟨l2Node, _, e₇, _, -, h, hpast, heq⟩
  · exact .inl hnil
  rw [heq]
  rcases Quiet.of_run_bind (Quiet.map _ ((FulfillmentRecord.quiet_read _ _ _ _).adapt _)) hpast h
    with hnil | ⟨_, start, e₈, _, hread, h, hpast, heq⟩
  · exact .inl hnil
  rw [heq]
  rcases ((ProofBundle.quiet_compose _ _ _ _ _ _ _).adapt _).of_run_bind hpast h with
    hnil | ⟨bundle, stop, composing, _, hbundle, h, hpast, heq⟩
  · exact .inl hnil
  rw [heq]
  rcases (quiet_report _ _ _).of_run_bind hpast h with hnil | ⟨_, _, e₁₀, last, -, h, hpast, heq⟩
  · exact .inl hnil
  rw [heq]
  -- From here on the job prints.
  obtain ⟨e₁₁, h, hpretty⟩ := of_run_bind_print h
  obtain ⟨e₁₂, h, hhex⟩ := of_run_bind_print h
  obtain ⟨record, -, hrecord⟩ := of_run_map hread
  obtain ⟨answer, hdecode, hfiller, hexchanges⟩ := FulfillmentRecord.of_talk_read
    (congrArg (fun r => (r.1, r.2.1, exchanges r.2.2)) (of_run_adapt hrecord))
  have hclaims : Claims env c request bundle (printed e₁₂) := by
    cases source with
    | none =>
      cases h
      exact .none
    | some source =>
      obtain ⟨id, hid, hconfigured⟩ := exists_of_run_mapM_configured hsource
      exact claims_of_run_printClaim hid hconfigured h
  refine .inr ⟨{
    prover, prover_eq := of_run_need hprover, destination
    destination_eq := of_run_need hdestination, l1Node, l2Node
    before := [] ++ e₁ ++ e₂ ++ e₃ ++ e₄ ++ e₅ ++ e₆ ++ e₇ ++ e₈, composing, closing := e₁₀ ++ last
    events_eq := by simp only [List.append_assoc]
    record, recordAnswer := answer, record_read := ?_, record_eq := hdecode
    filler_ne := hfiller, start, stop, bundle, composed := of_run_adapt hbundle
    claims := printed e₁₂, claims_are := hclaims, printed_eq := ?_ }⟩
  · rw [exchanges_append]
    exact List.mem_append_right _ (by simp [hexchanges])
  · rw [printed_append, hpast, hpretty, hhex]
    rfl

end Job

end CrossCall
