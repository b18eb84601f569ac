import RiscvSim.Vm.Rv5s.ExVm

/-!
# The command loop and the machine's thread

`main` reads commands and runs the machine in a thread of its own; the two
share the flag `stop_requested_`.  The actions of the two on that flag are
atomic and interleave in any order: `act` is one action, `acts` an interleaving.
-/

namespace RiscvSim

/-- Where the thread of a run is. -/
inductive ThreadPc where
  /-- There is no thread to join. -/
  | none
  /-- In front of `ClearStop`. -/
  | clearStop
  /-- In front of the test of the flag. -/
  | check
  /-- In front of `Step`. -/
  | step
  /-- The flag was set: in front of the assignment that clears it. -/
  | leave
  /-- The function has returned. -/
  | finished
  /-- An exception has ended the process. -/
  | crashed
  deriving DecidableEq, Repr

/-- What `main` does when the thread has been joined. -/
inductive AfterJoin where
  | launch
  | exit
  deriving DecidableEq, Repr

/-- Where `main` is. -/
inductive MainPc where
  /-- In front of the next command. -/
  | ready
  | joining (next : AfterJoin)
  | exited
  deriving DecidableEq, Repr

/-- The two threads, the machine they share, and the number of runs launched so far. -/
structure CommandLoop where
  vm : RV5SEXVM
  thread : ThreadPc := .none
  main : MainPc := .ready
  runs : Nat := 0

namespace CommandLoop

inductive Action where
  -- the commands RUN, STOP and EXIT
  | run
  | stop
  | exit
  | joined
  -- the actions of `Run`
  | clearStop
  | check
  | step
  | leave
  deriving DecidableEq, Repr

def requestStop (s : CommandLoop) : CommandLoop :=
  { s with vm := { s.vm with stopRequested := true } }

/-- Starts the thread of a run. -/
def launch (s : CommandLoop) : CommandLoop :=
  { s with thread := .clearStop, main := .ready, runs := s.runs + 1 }

/-- One action; `none` where the thread it belongs to is elsewhere. -/
def act (cfg : VmConfig) (s : CommandLoop) : Action → Option CommandLoop
  | .run =>
    if s.main = .ready then
      -- `launch_vm_thread` stops and joins the thread of the previous run
      if s.thread = .none then some s.launch
      else some { s.requestStop with main := .joining .launch }
    else none
  | .stop => if s.main = .ready then some s.requestStop else none
  | .exit =>
    if s.main = .ready then
      if s.thread = .none then some { s.requestStop with main := .exited }
      else some { s.requestStop with main := .joining .exit }
    else none
  | .joined =>
    if s.thread = .finished then
      match s.main with
      | .joining .launch => some s.launch
      | .joining .exit => some { s with thread := .none, main := .exited }
      | _ => none
    else none
  | .clearStop =>
    if s.thread = .clearStop then some { s with vm := RV5SEXVM.startRun s.vm, thread := .check }
    else none
  | .check =>
    if s.thread = .check then
      some { s with thread := if s.vm.stopRequested then .leave else .step }
    else none
  | .step =>
    if s.thread = .step then
      match RV5SEXVM.step cfg s.vm with
      | .ok vm => some { s with vm := vm, thread := .check }
      | .error (_, vm) => some { s with vm := vm, thread := .crashed }
    else none
  | .leave =>
    if s.thread = .leave then
      some { s with vm := { s.vm with stopRequested := false }, thread := .finished }
    else none

/-- An interleaving of actions. -/
def acts (cfg : VmConfig) (s : CommandLoop) (actions : List Action) : Option CommandLoop :=
  actions.foldlM (act cfg) s

/-- The actions that execute `RequestStop` while a run is launched. -/
def Action.Requests : Action → Prop
  | .run | .stop | .exit => True
  | _ => False

end CommandLoop

end RiscvSim
