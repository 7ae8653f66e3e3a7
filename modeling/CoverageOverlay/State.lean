-- SUMMARY: The seven coverage states with their codes, labels and style tokens.
import CoverageOverlay.Text.Basic

/-!
# Coverage states

What a range of a document can be said to be. Every state has a numeric code
(the number used in state tables of instrumentation tools), a label for
people, a style token for programs that choose the appearance, and a name for
structured output.
-/

namespace CoverageOverlay

/-- The coverage of a range. The order of the constructors is the order of the states in summaries. -/
inductive State
  /-- Both arms of a conditional ran. -/
  | bothBranchesTaken
  /-- Left out when the document was read. -/
  | conditionalizedOut
  /-- The form ran. -/
  | executed
  /-- Neither arm of a conditional ran. -/
  | neitherBranchTaken
  /-- The form did not run. -/
  | notExecuted
  /-- Nothing was recorded about the range. -/
  | notInstrumented
  /-- One arm of a conditional ran. -/
  | oneBranchTaken
deriving DecidableEq, Repr, Inhabited

namespace State

/-- Every state, in the order of summaries. -/
def all : List State :=
  [.bothBranchesTaken, .conditionalizedOut, .executed, .neitherBranchTaken, .notExecuted,
   .notInstrumented, .oneBranchTaken]

/-- Every state, in the order in which a legend presents them. -/
def legend : List State :=
  [.executed, .notExecuted, .notInstrumented, .conditionalizedOut, .bothBranchesTaken,
   .oneBranchTaken, .neitherBranchTaken]

/-- The number of a state in state tables. -/
def code : State → Nat
  | notInstrumented => 0
  | executed => 1
  | notExecuted => 2
  | bothBranchesTaken => 5
  | oneBranchTaken => 6
  | neitherBranchTaken => 9
  | conditionalizedOut => 15

/-- The state with a number; every number that belongs to no state means that nothing was recorded. -/
def ofCode (n : Int) : State :=
  (all.find? fun s => (s.code : Int) = n).getD .notInstrumented

/-- The state that the flag of a record stands for. -/
def ofExecuted : Bool → State
  | true => executed
  | false => notExecuted

/-- The words that describe a state to people. -/
def label : State → String
  | bothBranchesTaken => "Both branches taken"
  | conditionalizedOut => "Conditionalized out"
  | executed => "Executed form"
  | neitherBranchTaken => "Neither branch taken"
  | notExecuted => "Unexecuted form"
  | notInstrumented => "Not instrumented"
  | oneBranchTaken => "One branch taken"

/-- The token by which a presentation chooses a style. -/
def style : State → String
  | bothBranchesTaken => "coverage-both-branches"
  | conditionalizedOut => "coverage-conditionalized-out"
  | executed => "coverage-executed"
  | neitherBranchTaken => "coverage-neither-branch"
  | notExecuted => "coverage-not-executed"
  | notInstrumented => "coverage-not-instrumented"
  | oneBranchTaken => "coverage-one-branch"

/-- The name of a state in structured output. -/
def name : State → String
  | bothBranchesTaken => "both_branches_taken"
  | conditionalizedOut => "conditionalized_out"
  | executed => "executed"
  | neitherBranchTaken => "neither_branch_taken"
  | notExecuted => "not_executed"
  | notInstrumented => "not_instrumented"
  | oneBranchTaken => "one_branch_taken"

theorem mem_all (s : State) : s ∈ all := by
  cases s <;> decide

@[simp] theorem ofCode_code (s : State) : ofCode s.code = s := by
  cases s <;> rfl

end State

end CoverageOverlay
