import RiscvSim.Vm.Rv5s.PipelineRegisters

/-!
# The hazard unit and the forwarding unit

`detectDataHazard` is the stall condition without forwarding,
`detectLoadUseHazard` the one with forwarding.  `getAluSrcA` and `getAluSrcB`
choose where an operand of the execute stage comes from.
-/

namespace RiscvSim

namespace RV5SHazardUnit

/-- Whether the instruction reads its second source register. -/
def rs2Required (signals : ControlSignals) : Bool :=
  if !signals.aluSrcB && signals.regWrite && signals.wbSrc == .fromAlu then true
  else if signals.memWrite then true
  else signals.branch && signals.branchOp != .jal && signals.branchOp != .jalr

/-- Without forwarding: a source register is the destination of an instruction
in the execute or memory stage. -/
def detectDataHazard (signals : ControlSignals) (rs1Index rs2Index : BitVec 5)
    (idExReg : IdExReg) (exMemReg : ExMemReg) : Bool :=
  let rs1Reqd := signals.aluSrcA == .rs1
  let rs2Reqd := rs2Required signals
  if idExReg.control.regWrite && idExReg.rdIndex != 0#5 &&
      ((rs1Reqd && idExReg.rdIndex == rs1Index) || (rs2Reqd && idExReg.rdIndex == rs2Index)) then
    true
  else if exMemReg.control.regWrite && exMemReg.rdIndex != 0#5 &&
      ((rs1Reqd && exMemReg.rdIndex == rs1Index) || (rs2Reqd && exMemReg.rdIndex == rs2Index)) then
    true
  else false

/-- With forwarding: a source register is the destination of a load in the
execute stage. -/
def detectLoadUseHazard (signals : ControlSignals) (rs1Index rs2Index : BitVec 5)
    (idExReg : IdExReg) : Bool :=
  if !idExReg.control.memRead then false
  else if idExReg.rdIndex == 0#5 then false
  else
    let rs1Reqd := signals.aluSrcA == .rs1 || signals.branchOp == .jalr
    let rs2Reqd := rs2Required signals
    if rs1Reqd && idExReg.rdIndex == rs1Index then true
    else if rs2Reqd && idExReg.rdIndex == rs2Index then true
    else false

end RV5SHazardUnit

/-- Where an operand of the execute stage comes from. -/
inductive ForwardSrc where
  | fromReg | fromExMem | fromMemWb
  deriving DecidableEq, Repr

namespace RV5SForwardingUnit

/-- The source of the operand read from register `index`. -/
def getAluSrc (index : BitVec 5) (exMemReg : ExMemReg) (memWbReg : MemWbReg) : ForwardSrc :=
  if index = 0#5 then .fromReg
  else if exMemReg.control.regWrite && exMemReg.rdIndex == index then .fromExMem
  else if memWbReg.control.regWrite && memWbReg.rdIndex == index then .fromMemWb
  else .fromReg

def getAluSrcA (idRs1Index : BitVec 5) (exMemReg : ExMemReg) (memWbReg : MemWbReg) :
    ForwardSrc :=
  getAluSrc idRs1Index exMemReg memWbReg

def getAluSrcB (idRs2Index : BitVec 5) (exMemReg : ExMemReg) (memWbReg : MemWbReg) :
    ForwardSrc :=
  getAluSrc idRs2Index exMemReg memWbReg

end RV5SForwardingUnit

end RiscvSim
