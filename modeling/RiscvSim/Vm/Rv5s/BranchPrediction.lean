import RiscvSim.Config

/-!
# Branch predictors and the branch target buffer

The four predictors behind one interface, `getPrediction` and `updateState`.
The two static predictors answer the opposite of their names, as the source
has them.
-/

namespace RiscvSim

/-- The states of the two-bit counter. -/
inductive TwoBitState where
  | twoNotTaken | oneNotTaken | oneTaken | twoTaken
  deriving DecidableEq, Repr

/-- A predictor with its branch history table and its count of mispredictions. -/
inductive BranchPredictor where
  | staticTaken (mispredictions : BitVec 32)
  | staticNotTaken (mispredictions : BitVec 32)
  | dynamic1Bit (mispredictions : BitVec 32) (bht : BitVec 64 → Option Bool)
  | dynamic2Bit (mispredictions : BitVec 32) (bht : BitVec 64 → Option TwoBitState)

/-- The two-bit counter after an outcome. -/
def TwoBitState.next (state : TwoBitState) (actualOutcome : Bool) : TwoBitState :=
  if actualOutcome then
    match state with
    | .twoNotTaken => .oneNotTaken
    | .oneNotTaken => .oneTaken
    | .oneTaken => .twoTaken
    | .twoTaken => .twoTaken
  else
    match state with
    | .twoTaken => .oneTaken
    | .oneTaken => .oneNotTaken
    | .oneNotTaken => .twoNotTaken
    | .twoNotTaken => .twoNotTaken

namespace BranchPredictor

/-- The predictor `setBranchPredictorType` installs. -/
def ofType (type : BranchPredictorType) : BranchPredictor :=
  match type with
  | .staticTaken => .staticTaken 0#32
  | .dynamic1Bit => .dynamic1Bit 0#32 fun _ => none
  | .dynamic2Bit => .dynamic2Bit 0#32 fun _ => none
  | _ => .staticNotTaken 0#32

/-- Whether the branch at `pc` is predicted to be taken. -/
def getPrediction (p : BranchPredictor) (pc : BitVec 64) : Bool :=
  match p with
  | .staticTaken _ => false
  | .staticNotTaken _ => true
  | .dynamic1Bit _ bht => (bht pc).getD false
  | .dynamic2Bit _ bht =>
    match bht pc with
    | none => false
    | some state => state == .twoTaken || state == .oneTaken

/-- Records the outcome of the branch at `pc`. -/
def updateState (p : BranchPredictor) (pc : BitVec 64) (predictedOutcome actualOutcome : Bool) :
    BranchPredictor :=
  let count (n : BitVec 32) := if predictedOutcome != actualOutcome then n + 1 else n
  match p with
  | .staticTaken n => .staticTaken (count n)
  | .staticNotTaken n => .staticNotTaken (count n)
  | .dynamic1Bit n bht =>
    .dynamic1Bit (count n) fun i => if i = pc then some actualOutcome else bht i
  | .dynamic2Bit n bht =>
    -- an absent entry reads as the zero state, two-not-taken
    let state := ((bht pc).getD .twoNotTaken).next actualOutcome
    .dynamic2Bit (count n) fun i => if i = pc then some state else bht i

def getMispredictions (p : BranchPredictor) : BitVec 32 :=
  match p with
  | .staticTaken n => n
  | .staticNotTaken n => n
  | .dynamic1Bit n _ => n
  | .dynamic2Bit n _ => n

end BranchPredictor

/-- An entry of the branch target buffer. -/
structure BTBEntry where
  valid : Bool := false
  targetAddress : BitVec 64 := 0#64
  deriving DecidableEq, Repr

/-- The branch target buffer: targets by the address of the branch. -/
structure BranchTargetBuffer where
  table : BitVec 64 → Option BTBEntry

namespace BranchTargetBuffer

def empty : BranchTargetBuffer where
  table := fun _ => none

/-- The hit flag and the target. -/
def lookup (btb : BranchTargetBuffer) (pc : BitVec 64) : Bool × BitVec 64 :=
  match btb.table pc with
  | some entry => if entry.valid then (true, entry.targetAddress) else (false, 0#64)
  | none => (false, 0#64)

def update (btb : BranchTargetBuffer) (pc target : BitVec 64) : BranchTargetBuffer where
  table := fun i => if i = pc then some ⟨true, target⟩ else btb.table i

end BranchTargetBuffer

end RiscvSim
