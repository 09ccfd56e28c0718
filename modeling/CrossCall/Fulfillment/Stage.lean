/-!
# Stages of the fulfillment pipeline

## Main definitions

* `Stage` — where on its way a message was rejected
-/

namespace CrossCall

/-- The stages that a message passes, in order. -/
inductive Stage
  | decode
  | validate
  | gas
  | reward
  | submit
deriving DecidableEq

namespace Stage

/-- The word for a stage. -/
def name : Stage → String
  | decode => "decode"
  | validate => "validate"
  | gas => "gas"
  | reward => "reward"
  | submit => "submit"

/-- All stages, in order. -/
def all : List Stage := [decode, validate, gas, reward, submit]

@[simp] theorem mem_all (s : Stage) : s ∈ all := by cases s <;> decide

end Stage

end CrossCall
