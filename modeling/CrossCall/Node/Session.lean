import CrossCall.Journal.Line
import CrossCall.Metrics
import CrossCall.Node.Request

/-!
# Sessions with nodes

A session is a program that asks nodes, looks whether it has been cancelled, and leaves notes. It is
a tree: what comes after a question is a function of the answer, so that a session can be run
against any behaviour of the nodes, or step by step beside other sessions.

## Main definitions

* `Session` — programs that talk to nodes, a monad
* `Environment` — how nodes answer and when a session is cancelled
* `Session.run` — runs a session and records what happened
-/

namespace CrossCall

/-- What a session leaves behind besides its questions. -/
inductive Note
  | measure (series : Series) (amount : Nat)
  | journal (line : Journal.Line)
  | print (text : String)
deriving DecidableEq

/-- A program that talks to the nodes named by `χ` and ends with an `α`. -/
inductive Session (χ α : Type)
  | done (a : α)
  | ask (node : χ) (request : Request) (next : Except ClientError request.Answer → Session χ α)
  | cancelled (next : Bool → Session χ α)
  | note (n : Note) (next : Session χ α)

namespace Session

variable {χ α β : Type}

/-- Goes on with another session. -/
def bind : Session χ α → (α → Session χ β) → Session χ β
  | done a, f => f a
  | ask node request next, f => ask node request fun answer => (next answer).bind f
  | cancelled next, f => cancelled fun b => (next b).bind f
  | note n next, f => note n (next.bind f)

instance : Monad (Session χ) where
  pure := done
  bind := bind

private theorem bind_done (x : Session χ α) : x.bind done = x := by
  induction x with
  | done => rfl
  | ask _ _ _ ih => simp [bind, ih]
  | cancelled _ ih => simp [bind, ih]
  | note _ _ ih => simp [bind, ih]

private theorem bind_assoc {γ : Type} (x : Session χ α) (f : α → Session χ β)
    (g : β → Session χ γ) : (x.bind f).bind g = x.bind fun a => (f a).bind g := by
  induction x with
  | done => rfl
  | ask _ _ _ ih => simp [bind, ih]
  | cancelled _ ih => simp [bind, ih]
  | note _ _ ih => simp [bind, ih]

instance : LawfulMonad (Session χ) :=
  LawfulMonad.mk' (Session χ) bind_done (fun _ _ => rfl) bind_assoc

/-- Leaves a note. -/
def leave (n : Note) : Session χ Unit := note n (done ())

/-- Adds to a series. -/
def measure (series : Series) (amount : Nat) : Session χ Unit := leave (.measure series amount)

/-- Writes a line of the journal. -/
def journal (level : Journal.Level) (target text : String) : Session χ Unit :=
  leave (.journal { level, target, text })

/-- Whether the session has been cancelled. -/
def isCancelled : Session χ Bool := cancelled done

/-- Writes a line of the journal in a session that may fail. -/
def report {ε : Type} (level : Journal.Level) (target text : String) : ExceptT ε (Session χ) Unit :=
  ExceptT.lift (journal level target text)

/-- Whether the session has been cancelled, asked in a session that may fail. -/
def checkCancelled {ε : Type} : ExceptT ε (Session χ) Bool := ExceptT.lift isCancelled

/-- Asks a node; an error becomes the session's own. -/
def query {ε : Type} (node : χ) (request : Request) (onError : ClientError → ε) :
    ExceptT ε (Session χ) request.Answer :=
  ask node request fun answer => done (answer.mapError onError)

end Session

/-- A question with its answer. -/
structure Exchange (χ : Type) where
  node : χ
  request : Request
  answer : Except ClientError request.Answer

/-- What a session does that others can see. -/
inductive Event (χ : Type)
  | exchange (e : Exchange χ)
  | note (n : Note)

/-- The exchange of an event. -/
def Event.exchange? {χ : Type} : Event χ → Option (Exchange χ)
  | exchange e => some e
  | note _ => none

/-- The note of an event. -/
def Event.note? {χ : Type} : Event χ → Option Note
  | exchange _ => none
  | note n => some n

/-- The exchanges among some events. -/
def exchanges {χ : Type} (events : List (Event χ)) : List (Exchange χ) :=
  events.filterMap Event.exchange?

/-- The notes among some events. -/
def notes {χ : Type} (events : List (Event χ)) : List Note := events.filterMap Event.note?

/-- The counts after some notes. -/
def Tally.addNotes (t : Tally) (ns : List Note) : Tally :=
  ns.foldl (fun t n => match n with
    | .measure series amount => t.add series amount
    | .journal _ | .print _ => t) t

/-- How nodes with a state `σ` answer, when a session is cancelled, and whether the session that
asked last breaks down instead of going on. -/
structure Environment (χ σ : Type) where
  answer : σ → χ → (request : Request) → Except ClientError request.Answer × σ
  cancelled : σ → Bool := fun _ => false
  breaks : σ → Bool := fun _ => false

/-- Runs a session that does not break down from a state of the nodes: its result, the state
afterwards, and the events. -/
def Session.run {χ σ α : Type} (env : Environment χ σ) :
    Session χ α → σ → α × σ × List (Event χ)
  | done a, s => (a, s, [])
  | ask node request next, s =>
    let (answer, s') := env.answer s node request
    let (a, s'', events) := (next answer).run env s'
    (a, s'', .exchange ⟨node, request, answer⟩ :: events)
  | cancelled next, s => (next (env.cancelled s)).run env s
  | note n next, s =>
    let (a, s', events) := next.run env s
    (a, s', .note n :: events)

end CrossCall
