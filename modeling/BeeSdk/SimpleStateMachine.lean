/-! `SimpleStateMachine`: a table with a row for each state and a column for each
input event. The classes that fill the table derive from it; indexing outside the
table is undefined. -/
namespace BeeSdk

def kInvalidSimpleState : Int := -1

structure SimpleStateMachine where
  stateMachine : List (List Int)
  stateCount : Int
  inputCount : Int
  currentState : Int := 0
  lastState : Int := 0
  deriving DecidableEq

namespace SimpleStateMachine

/-- The constructor resizes the table, which sets every entry to zero. -/
def constructed (stateCount inputCount : Int) : SimpleStateMachine where
  stateMachine := if stateCount > 0 ∧ inputCount > 0 then
    List.replicate stateCount.toNat (List.replicate inputCount.toNat 0) else []
  stateCount := stateCount
  inputCount := inputCount

/-- `state_machine_[state][ev]`. -/
def entry (machine : SimpleStateMachine) (state ev : Int) : Option Int :=
  if state < 0 ∨ ev < 0 then none
  else machine.stateMachine[state.toNat]?.bind fun row => row[ev.toNat]?

/-- `state_machine_[state][ev] = next`. -/
def assign (machine : SimpleStateMachine) (state ev next : Int) : SimpleStateMachine :=
  { machine with
    stateMachine := machine.stateMachine.modify state.toNat fun row => row.set ev.toNat next }

/-- Whether the event is taken, and the machine it leaves. -/
def switchState (machine : SimpleStateMachine) (ev : Int) : Option (Bool × SimpleStateMachine) :=
  if ev < 0 ∨ ev ≥ machine.inputCount then some (false, machine)
  else (machine.entry machine.currentState ev).map fun nextState =>
    if nextState = kInvalidSimpleState then (false, machine)
    else (true, { machine with lastState := machine.currentState, currentState := nextState })

def resetState (machine : SimpleStateMachine) : SimpleStateMachine :=
  { machine with currentState := 0, lastState := 0 }

end SimpleStateMachine
end BeeSdk
