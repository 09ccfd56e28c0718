import CrossCall.Journal.Directive

/-!
# Which lines of the journal are kept

A filter is a list of directives, each for a scope of its own.

## Main definitions

* `Journal.filter` — the directives for a threshold and the operator's own directives
* `Journal.keeps` — whether a filter keeps a line

## Main results

* `Journal.mem_put` — setting a directive replaces those of the same scope and no other
-/

namespace CrossCall.Journal

/-- Sets a directive in place of those of the same scope. -/
def put (ds : List Directive) (d : Directive) : List Directive :=
  ds.filter (fun e => !e.sameScope d) ++ [d]

/-- Parts whose lines are rarely of interest. -/
def quietTargets : List String :=
  ["hyper", "hyper_util", "reqwest", "alloy_transport_http", "alloy_rpc_client"]

/-- The operator's directives, if there are any, or else warnings at most from the quiet targets;
the threshold holds for everything else. -/
def filter (threshold : Threshold) (own : Option String) : List Directive :=
  let everything : Directive := { threshold }
  match own with
  | some s =>
    put (((splitAtEach ',' s.toList).filterMap fun cs => Directive.parse? (String.ofList cs)).foldl
      put []) everything
  | none =>
    quietTargets.foldl (fun ds target =>
      put ds { target := some target, threshold := threshold.quieter .warn })
      [everything]

/-- The threshold for a target: that of the longest target in front of it, or the general one. -/
def thresholdFor (ds : List Directive) (target : String) : Threshold :=
  let applies (d : Directive) : Bool :=
    d.span.isNone && d.field.isNone && target.startsWith (d.target.getD "")
  let longer (best : Option Directive) (d : Directive) : Option Directive :=
    match best with
    | none => some d
    | some b => if (b.target.getD "").length ≤ (d.target.getD "").length then some d else best
  ((ds.filter applies).foldl longer none).elim .off (·.threshold)

/-- Whether a filter keeps a line. -/
def keeps (ds : List Directive) (line : Line) : Bool :=
  (thresholdFor ds line.target).passes line.level

theorem mem_put {ds : List Directive} {d e : Directive} :
    e ∈ put ds d ↔ e = d ∨ e ∈ ds ∧ e.sameScope d = false := by
  simp [put, or_comm]

end CrossCall.Journal
