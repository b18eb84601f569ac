import RiscvSim.AssembledProgram
import RiscvSim.Assembler.Assembler
import RiscvSim.Assembler.CodeGenerator
import RiscvSim.Assembler.Equiv.Acceptance
import RiscvSim.Assembler.Equiv.Bookkeeping
import RiscvSim.Assembler.Equiv.CodeGenerator
import RiscvSim.Assembler.Equiv.DataItems
import RiscvSim.Assembler.Equiv.Emission
import RiscvSim.Assembler.Equiv.Errors
import RiscvSim.Assembler.Equiv.Exceptions
import RiscvSim.Assembler.Equiv.Failures
import RiscvSim.Assembler.Equiv.Files
import RiscvSim.Assembler.Equiv.Fitting
import RiscvSim.Assembler.Equiv.LabelAddresses
import RiscvSim.Assembler.Equiv.Labels
import RiscvSim.Assembler.Equiv.Lexer
import RiscvSim.Assembler.Equiv.LineMapping
import RiscvSim.Assembler.Equiv.Lines
import RiscvSim.Assembler.Equiv.LoadImmediate
import RiscvSim.Assembler.Equiv.Numbers
import RiscvSim.Assembler.Equiv.Operands
import RiscvSim.Assembler.Equiv.Passes
import RiscvSim.Assembler.Equiv.Patterns
import RiscvSim.Assembler.Equiv.Printing
import RiscvSim.Assembler.Equiv.StringLiterals
import RiscvSim.Assembler.Equiv.Termination
import RiscvSim.Assembler.Equiv.Units
import RiscvSim.Assembler.Lexer
import RiscvSim.Assembler.ParseFormats
import RiscvSim.Assembler.Parser
import RiscvSim.Assembler.ParserState
import RiscvSim.CommandLoop
import RiscvSim.Common.InstructionSets
import RiscvSim.Common.Instructions
import RiscvSim.Config
import RiscvSim.Equiv.CommandLoop
import RiscvSim.Equiv.Encoding
import RiscvSim.Equiv.ImageWrites
import RiscvSim.Equiv.Machines
import RiscvSim.Equiv.MemoryImage
import RiscvSim.Equiv.Programs
import RiscvSim.Lib.Bypass
import RiscvSim.Lib.Except
import RiscvSim.Lib.FlatMemory
import RiscvSim.Lib.Hex
import RiscvSim.Lib.Journal
import RiscvSim.Lib.Numerals
import RiscvSim.Lib.Programs
import RiscvSim.Lib.Run
import RiscvSim.Lib.Rv64i
import RiscvSim.Lib.SplitImmediate
import RiscvSim.Lib.WordArithmetic
import RiscvSim.MemoryImage
import RiscvSim.Vm.Alu
import RiscvSim.Vm.Equiv.Alu
import RiscvSim.Vm.Equiv.BlockAddressing
import RiscvSim.Vm.Equiv.Immediates
import RiscvSim.Vm.Equiv.Loader
import RiscvSim.Vm.Equiv.MainMemory
import RiscvSim.Vm.Equiv.MainMemoryFlat
import RiscvSim.Vm.Equiv.MemoryContents
import RiscvSim.Vm.Equiv.SameMemory
import RiscvSim.Vm.Equiv.TornWrites
import RiscvSim.Vm.Fault
import RiscvSim.Vm.MainMemory
import RiscvSim.Vm.RegisterNames
import RiscvSim.Vm.Registers
import RiscvSim.Vm.Rv5s.BranchPrediction
import RiscvSim.Vm.Rv5s.ControlUnit
import RiscvSim.Vm.Rv5s.Dynamic2BitPredictor
import RiscvSim.Vm.Rv5s.Equiv.BackEnd
import RiscvSim.Vm.Rv5s.Equiv.ControlUnit
import RiscvSim.Vm.Rv5s.Equiv.Cycle
import RiscvSim.Vm.Rv5s.Equiv.CycleCount
import RiscvSim.Vm.Rv5s.Equiv.DebugRun
import RiscvSim.Vm.Rv5s.Equiv.Dynamic2BitPredictor
import RiscvSim.Vm.Rv5s.Equiv.ExStages
import RiscvSim.Vm.Rv5s.Equiv.ExVm
import RiscvSim.Vm.Rv5s.Equiv.Frame
import RiscvSim.Vm.Rv5s.Equiv.Hazards
import RiscvSim.Vm.Rv5s.Equiv.IdStages
import RiscvSim.Vm.Rv5s.Equiv.IdVm
import RiscvSim.Vm.Rv5s.Equiv.IdealVm
import RiscvSim.Vm.Rv5s.Equiv.InFlight
import RiscvSim.Vm.Rv5s.Equiv.MemoryFault
import RiscvSim.Vm.Rv5s.Equiv.Reset
import RiscvSim.Vm.Rv5s.Equiv.StallVm
import RiscvSim.Vm.Rv5s.Equiv.StaticPrediction
import RiscvSim.Vm.Rv5s.Equiv.StraightLine
import RiscvSim.Vm.Rv5s.Equiv.Trace
import RiscvSim.Vm.Rv5s.ExVm
import RiscvSim.Vm.Rv5s.HazardUnit
import RiscvSim.Vm.Rv5s.IdVm
import RiscvSim.Vm.Rv5s.IdealVm
import RiscvSim.Vm.Rv5s.Isa
import RiscvSim.Vm.Rv5s.PipelineRegisters
import RiscvSim.Vm.Rv5s.Stages
import RiscvSim.Vm.Rv5s.StallVm
import RiscvSim.Vm.Rvss.ControlUnit
import RiscvSim.Vm.Rvss.Equiv.Agreement
import RiscvSim.Vm.Rvss.Equiv.AluInstructions
import RiscvSim.Vm.Rvss.Equiv.Breakpoints
import RiscvSim.Vm.Rvss.Equiv.ControlUnit
import RiscvSim.Vm.Rvss.Equiv.Delta
import RiscvSim.Vm.Rvss.Equiv.Frame
import RiscvSim.Vm.Rvss.Equiv.ProgramCounter
import RiscvSim.Vm.Rvss.Equiv.RunLimit
import RiscvSim.Vm.Rvss.Equiv.Rv64i
import RiscvSim.Vm.Rvss.Equiv.Sequence
import RiscvSim.Vm.Rvss.Equiv.Step
import RiscvSim.Vm.Rvss.Equiv.Undo
import RiscvSim.Vm.Rvss.Isa
import RiscvSim.Vm.Rvss.RvssVm
import RiscvSim.Vm.VmBase
