import TestReactor.Exec

namespace TestReactor

/-! An event that threads wait for.  Every method is cut where it lets go of the
mutex: each definition below is one section that runs under it.  A thread that waits
on the condition variable may be woken at any time, so it does not matter whom
`notify_all` wakes. -/

inductive CvStatus where
  | noTimeout
  | timeout
  deriving DecidableEq, Repr

structure CEvent where
  auto : Bool
  ready : Bool
  deriving DecidableEq, Repr

namespace CEvent

abbrev Method (α : Type) := Exec CEvent α

inductive EventType where
  | manualReset
  | autoReset
  deriving DecidableEq, Repr

def construct (type : EventType) : CEvent where
  auto := type = .autoReset
  ready := false

def set : Method Unit :=
  modify fun event => { event with ready := true }

def reset : Method Unit :=
  modify fun event => { event with ready := false }

/-- `wait`, from where it has the mutex: whether it returns, or waits once more. -/
def wait : Method Bool := do
  if (← get).ready then
    Exec.when (← get).auto (modify fun event => { event with ready := false })
    return true
  else return false

/-- `tryWait`, from where it has the mutex and `rc` is as given: what it returns, or
nothing when it waits once more. -/
def tryWait (rc : CvStatus) : Method (Option Bool) := do
  if rc ≠ .timeout ∧ ¬ (← get).ready then return none
  else
    Exec.when (rc = .noTimeout && (← get).auto)
      (modify fun event => { event with ready := false })
    return some (rc = .noTimeout)

/-- `wait(milliseconds)`: one more wait, or the return or the exception behind
`tryWait`. -/
def waitFor (rc : CvStatus) : Method (Option Unit) := do
  match ← tryWait rc with
  | none => return none
  | some true => return some ()
  | some false => throw (.throw "wait for event failed")

/-! The calls that threads make. -/

inductive Call where
  | set
  | reset
  | wait
  | waitFor (milliseconds : Int)
  | tryWait (milliseconds : Int)
  deriving DecidableEq, Repr

inductive Outcome where
  | set
  | reset
  | released
  | timedOut
  deriving DecidableEq, Repr

/-- The next section of a call, and the outcome if the call ends in it.  `rc` is what
the wait before it came back with; `wait` knows no timeout. -/
def attempt (rc : CvStatus) : Call → Method (Option Outcome)
  | .set => do
      set
      return some .set
  | .reset => do
      reset
      return some .reset
  | .wait => return if ← wait then some .released else none
  | .waitFor _ =>
      Exec.catching (Option.map (fun _ => .released) <$> waitFor rc)
        fun _ => return some .timedOut
  | .tryWait _ =>
      Option.map (fun success => if success then .released else .timedOut) <$> tryWait rc

end CEvent

end TestReactor
