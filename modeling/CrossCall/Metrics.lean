import CrossCall.Word
import CrossCall.Fulfillment.Stage

/-!
# Metrics

What the service counts. A series is a counter, a histogram of which only the number of samples is
kept, or a gauge; it is listed from the first time it is touched, also if nothing was added to it.

## Main definitions

* `Series` — what is counted
* `Tally` — the touched series with their counts
* `Tally.initial` — the series that are listed from the start
* `Series.Family` — the descriptions of the series
-/

namespace CrossCall

/-- How the program was built. -/
structure BuildInfo where
  version : String
  timestamp : String
  features : String
  targetTriple : String
  profile : String
deriving DecidableEq

/-- What is counted. -/
inductive Series
  | forwarded (chain : ChainId)
  | received
  | rejected (stage : Stage)
  | submitted (chain : ChainId)
  | duration
  | build (info : BuildInfo)
deriving DecidableEq

namespace Series

/-- Series that share a name and a description. -/
inductive Family
  | forwarded
  | received
  | rejected
  | submitted
  | duration
  | build
deriving DecidableEq

/-- The name of a family. -/
def Family.name : Family → String
  | forwarded => "filler_logs_forwarded_total"
  | received => "filler_messages_received_total"
  | rejected => "filler_messages_rejected_total"
  | submitted => "filler_fulfillments_submitted_total"
  | duration => "filler_fulfillment_duration_seconds"
  | build => "filler_info"

/-- What kind of number a family holds. -/
def Family.kind : Family → String
  | forwarded | received | rejected | submitted => "counter"
  | duration => "histogram"
  | build => "gauge"

/-- The unit and the meaning of the families that are described. -/
def Family.description? : Family → Option (String × String)
  | forwarded =>
    some ("count", "Number of MessagePosted logs forwarded to the fulfillment pipeline")
  | received => some ("count", "Number of messages entering the fulfillment pipeline")
  | rejected => some ("count", "Number of messages rejected by the fulfillment pipeline")
  | submitted => some ("count", "Number of fulfillment transactions submitted")
  | duration => some ("seconds", "Time from receiving a message to submitting its fulfillment")
  | build => none

/-- All families. -/
def Family.all : List Family := [forwarded, received, rejected, submitted, duration, build]

/-- The family of a series. -/
def family : Series → Family
  | forwarded _ => .forwarded
  | received => .received
  | rejected _ => .rejected
  | submitted _ => .submitted
  | duration => .duration
  | build _ => .build

/-- The labels that tell a series from the others of its family, sorted by name. -/
def labels : Series → List (String × String)
  | forwarded chain => [("chain_id", toString chain.toNat)]
  | received => []
  | rejected stage => [("stage", stage.name)]
  | submitted chain => [("chain_id", toString chain.toNat)]
  | duration => []
  | build info =>
    [("build_profile", info.profile), ("build_timestamp", info.timestamp),
     ("cargo_features", info.features), ("target_triple", info.targetTriple),
     ("version", info.version)]

/-- The text of a series: its name and, in braces, its labels. -/
def text (s : Series) : String :=
  match s.labels with
  | [] => s.family.name
  | ls => s.family.name ++ "\x7b" ++ ",".intercalate (ls.map fun l => l.1 ++ "=" ++ l.2) ++ "\x7d"

/-- The series that are listed from the start for some chains. -/
def initial (chains : List ChainId) : List Series :=
  received :: Stage.all.map rejected ++ chains.flatMap fun c => [forwarded c, submitted c]

end Series

/-- The touched series with their counts. -/
abbrev Tally := List (Series × Nat)

namespace Tally

/-- Adds to a series, which is listed from then on. -/
def add : Tally → Series → Nat → Tally
  | [], s, amount => [(s, amount)]
  | (s', n) :: rest, s, amount =>
    if s' = s then (s, n + amount) :: rest else (s', n) :: add rest s amount

/-- The count of a series. -/
def count : Tally → Series → Nat
  | [], _ => 0
  | (s', n) :: rest, s => if s' = s then n else count rest s

/-- The series of the pipeline for some chains, all at zero. -/
def initial (chains : List ChainId) : Tally :=
  (Series.initial chains).foldl (fun t s => add t s 0) []

theorem count_add (t : Tally) (s s' : Series) (n : Nat) :
    count (add t s n) s' = count t s' + if s = s' then n else 0 := by
  induction t with
  | nil => by_cases h : s = s' <;> simp [add, count, h]
  | cons e t ih =>
    obtain ⟨a, m⟩ := e
    by_cases ha : a = s
    · subst ha
      by_cases h : a = s' <;> simp [add, count, h]
    · by_cases h : a = s'
      · subst h
        simp [add, count, ha, Ne.symm ha]
      · simp [add, count, ha, h, ih]

end Tally

end CrossCall
