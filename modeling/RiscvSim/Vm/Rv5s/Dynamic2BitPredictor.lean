import RiscvSim.Vm.Rv5s.BranchPrediction

/-!
# The two-bit predictor, call by call

`Dynamic2BitPredictor` with its map as the source uses it: `bht_[pc]` makes an
absent entry in the zero state, so that reading the map can change it.
-/

namespace RiscvSim

/-- `Dynamic2BitPredictor`. -/
structure Dynamic2BitPredictor where
  noMispredictions : BitVec 32 := 0#32
  bht : BitVec 64 → Option TwoBitState := fun _ => none

namespace Dynamic2BitPredictor

/-- `bht_[pc] = state`. -/
def setEntry (p : Dynamic2BitPredictor) (pc : BitVec 64) (state : TwoBitState) :
    Dynamic2BitPredictor :=
  { p with bht := fun i => if i = pc then some state else p.bht i }

/-- `bht_[pc]`, read: the state, and the map with an entry for `pc`. -/
def entry (p : Dynamic2BitPredictor) (pc : BitVec 64) : TwoBitState × Dynamic2BitPredictor :=
  match p.bht pc with
  | some state => (state, p)
  | none => (.twoNotTaken, p.setEntry pc .twoNotTaken)

def getPrediction (p : Dynamic2BitPredictor) (pc : BitVec 64) : Bool × Dynamic2BitPredictor :=
  if (p.bht pc).isNone then (false, p)
  else
    let (state, p) := p.entry pc
    (state == .twoTaken || state == .oneTaken, p)

/-- Reads the state before it looks whether there was one. -/
def updateState (p : Dynamic2BitPredictor) (pc : BitVec 64)
    (predictedOutcome actualOutcome : Bool) : Dynamic2BitPredictor :=
  let p :=
    if predictedOutcome != actualOutcome then
      { p with noMispredictions := p.noMispredictions + 1#32 }
    else p
  let (state, p) := p.entry pc
  let p := if (p.bht pc).isNone then p.setEntry pc .twoNotTaken else p
  p.setEntry pc (state.next actualOutcome)

def getMispredictions (p : Dynamic2BitPredictor) : BitVec 32 :=
  p.noMispredictions

/-- A call of one of the methods that use the map. -/
inductive Call where
  | getPrediction (pc : BitVec 64)
  | updateState (pc : BitVec 64) (predictedOutcome actualOutcome : Bool)
  deriving DecidableEq, Repr

def Call.run (p : Dynamic2BitPredictor) (call : Call) : Dynamic2BitPredictor :=
  match call with
  | .getPrediction pc => (p.getPrediction pc).2
  | .updateState pc predictedOutcome actualOutcome => p.updateState pc predictedOutcome actualOutcome

/-- A new predictor after a sequence of calls. -/
def after (calls : List Call) : Dynamic2BitPredictor :=
  calls.foldl Call.run {}

end Dynamic2BitPredictor

end RiscvSim
