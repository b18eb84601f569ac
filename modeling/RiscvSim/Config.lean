import RiscvSim.Lib.Numerals

/-!
# Configuration of the simulator

`VmConfig` is the global `vm_config::config` that the memory, the assembler,
the loader and the virtual machines read.  The global itself is passed as an
argument `cfg` to the functions that read it; `modifyConfig` is the command
that changes it.
-/

namespace RiscvSim

open Lib

/-- Top level choice of the machine. -/
inductive VmTypes where
  | singleStage
  | multiStage
  deriving DecidableEq, Repr

/-- How a pipelined machine resolves data hazards. -/
inductive DataHazardMode where
  | ideal
  | stallOnly
  | forwarding
  deriving DecidableEq, Repr

/-- Which branch predictor a pipelined machine uses. -/
inductive BranchPredictorType where
  | staticNotTaken
  | staticTaken
  | dynamic1Bit
  | dynamic2Bit
  | tournament
  deriving DecidableEq, Repr

/-- The stage in which a pipelined machine decides branches. -/
inductive BranchStage where
  | branchInEx
  | branchInId
  deriving DecidableEq, Repr

/-- The configuration record with the defaults of the source. -/
structure VmConfig where
  vmType : VmTypes := .singleStage
  dataHazardMode : DataHazardMode := .ideal
  branchPredictorType : BranchPredictorType := .staticNotTaken
  branchStage : BranchStage := .branchInEx
  runStepDelay : BitVec 64 := 300#64
  memorySize : BitVec 64 := 0xffffffffffffffff#64
  memoryBlockSize : BitVec 64 := 1024#64
  dataSectionStart : BitVec 64 := 0x10000000#64
  textSectionStart : BitVec 64 := 0x0#64
  bssSectionStart : BitVec 64 := 0x11000000#64
  instructionExecutionLimit : BitVec 64 := 100#64
  mExtensionEnabled : Bool := true
  fExtensionEnabled : Bool := true
  dExtensionEnabled : Bool := true
  deriving DecidableEq, Repr

/-- The exceptions of `modifyConfig`. -/
inductive ConfigError where
  | invalidArgument (message : String)
  | conversion (error : ConversionError)
  deriving DecidableEq, Repr

/-- A number in base `base`, as `std::stoull` reads it. -/
def configNumber (base : Nat) (value : String) : Except ConfigError (BitVec 64) :=
  (stoull base value.toList).mapError .conversion

namespace VmConfig

/-- `setVmType`: going back to the single-stage machine resets the options of the others. -/
def setVmType (cfg : VmConfig) (type : VmTypes) : VmConfig :=
  if type = cfg.vmType then cfg
  else if type = .singleStage then
    { cfg with
      vmType := type
      dataHazardMode := .ideal
      branchPredictorType := .staticNotTaken
      branchStage := .branchInEx }
  else { cfg with vmType := type }

/-- The keys of the section `Execution`. -/
def modifyExecution (cfg : VmConfig) (key value : String) : Except ConfigError VmConfig :=
  if key = "processor_type" then
    if value = "single_stage" then .ok (cfg.setVmType .singleStage)
    else if value = "multi_stage" then .ok (cfg.setVmType .multiStage)
    else .error (.invalidArgument ("Unknown VM type: " ++ value))
  else if key = "run_step_delay" then do
    let delay ← configNumber 10 value
    pure { cfg with runStepDelay := delay }
  else if key = "instruction_execution_limit" then do
    let limit ← configNumber 10 value
    pure { cfg with instructionExecutionLimit := limit }
  else if key = "data_hazard_mode" then
    if cfg.vmType = .singleStage then
      .error (.invalidArgument "Cannot set data_hazard_mode when processor_type is single_stage.")
    else if value = "ideal" then
      .ok { cfg with
        dataHazardMode := .ideal
        branchPredictorType := .staticNotTaken
        branchStage := .branchInEx }
    else if value = "stall" then
      .ok { cfg with dataHazardMode := .stallOnly, branchPredictorType := .staticNotTaken }
    else if value = "forwarding" then .ok { cfg with dataHazardMode := .forwarding }
    else .error (.invalidArgument ("Unknown data_hazard_mode: " ++ value))
  else if key = "branch_predictor" then
    if cfg.vmType = .singleStage then
      .error (.invalidArgument "Cannot set branch_predictor when processor_type is single_stage.")
    else if cfg.dataHazardMode = .ideal then
      .error (.invalidArgument "Cannot set branch_predictor when data_hazard_mode is 'ideal'.")
    else if value = "static_not_taken" then .ok { cfg with branchPredictorType := .staticNotTaken }
    else if value = "static_taken" then .ok { cfg with branchPredictorType := .staticTaken }
    else if value = "dynamic_1bit" then .ok { cfg with branchPredictorType := .dynamic1Bit }
    else if value = "dynamic_2bit" then .ok { cfg with branchPredictorType := .dynamic2Bit }
    else if value = "tournament" then .ok { cfg with branchPredictorType := .tournament }
    else .error (.invalidArgument ("Unknown branch_predictor: " ++ value))
  else if key = "branch_stage" then
    if cfg.vmType = .singleStage then
      .error (.invalidArgument "Cannot set branch_stage when processor_type is single_stage.")
    else if cfg.dataHazardMode = .ideal then
      .error (.invalidArgument "Cannot set branch_stage when data_hazard_mode is 'ideal'.")
    else if value = "ex" then .ok { cfg with branchStage := .branchInEx }
    else if value = "id" then .ok { cfg with branchStage := .branchInId }
    else .error (.invalidArgument ("Unknown branch_stage: " ++ value))
  else .error (.invalidArgument ("Unknown key in Execution section: " ++ key))

/-- The keys of the section `Memory`; no value is checked. -/
def modifyMemory (cfg : VmConfig) (key value : String) : Except ConfigError VmConfig :=
  if key = "memory_size" then do
    let size ← configNumber 10 value
    pure { cfg with memorySize := size }
  else if key = "memory_block_size" then do
    let size ← configNumber 10 value
    pure { cfg with memoryBlockSize := size }
  else if key = "data_section_start" then do
    let start ← configNumber 16 value
    pure { cfg with dataSectionStart := start }
  else if key = "text_section_start" then do
    let start ← configNumber 16 value
    pure { cfg with textSectionStart := start }
  else if key = "bss_section_start" then do
    let start ← configNumber 16 value
    pure { cfg with bssSectionStart := start }
  else .error (.invalidArgument ("Unknown key in Memory section: " ++ key))

/-- The keys of the section `Assembler`. -/
def modifyAssembler (cfg : VmConfig) (key value : String) : Except ConfigError VmConfig :=
  if key = "m_extension_enabled" then .ok { cfg with mExtensionEnabled := value == "true" }
  else if key = "f_extension_enabled" then .ok { cfg with fExtensionEnabled := value == "true" }
  else if key = "d_extension_enabled" then .ok { cfg with dExtensionEnabled := value == "true" }
  else .error (.invalidArgument ("Unknown key in Assembler section: " ++ key))

def modifyConfig (cfg : VmConfig) (sectionName key value : String) : Except ConfigError VmConfig :=
  if sectionName = "Execution" then cfg.modifyExecution key value
  else if sectionName = "Memory" then cfg.modifyMemory key value
  else if sectionName = "Assembler" then cfg.modifyAssembler key value
  else .error (.invalidArgument ("Unknown section: " ++ sectionName))

/-- A call of `modifyConfig`: the section, the key and the value. -/
structure Modification where
  sectionName : String
  key : String
  value : String
  deriving DecidableEq, Repr

/-- The configuration after a sequence of calls that all succeed. -/
def modifyAll (cfg : VmConfig) (calls : List Modification) : Except ConfigError VmConfig :=
  calls.foldlM (fun cfg call => cfg.modifyConfig call.sectionName call.key call.value) cfg

end VmConfig

end RiscvSim
