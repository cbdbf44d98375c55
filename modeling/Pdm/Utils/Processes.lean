/-
`PdmUtils::runCommand`: how a child process ends, and the one integer that is made
of it.

The other modules take the integer from the environment.  Here it is computed from
what became of the program, through `timeout(1)` where the command line asks for it.
How `timeout` and the checkers report that is no part of pdm: a parameter says it, and
`Checkers.Manual` is what the manual has about it.
-/
import Mathlib.Algebra.GroupWithZero.Nat
import Pdm.Utils.FileSystems

namespace Pdm

/-- An exit status can be written as a number. -/
instance exitStatusNeZero : NeZero 256 := ⟨by decide⟩

/-- How a call of `fork`, `execvp` and `waitpid` ends. -/
inductive ChildEnd where
  /-- `fork` fails -/
  | notForked
  /-- `execvp` fails in the child -/
  | notExecuted
  /-- `waitpid` fails with something else than `EINTR` -/
  | notWaited
  /-- `WIFEXITED` -/
  | exited (status : Fin 256)
  /-- `WIFSIGNALED` -/
  | signaled (signal : Nat)
  deriving DecidableEq, Repr

/-- The integer `PdmUtils::runCommand` makes of it. -/
def ChildEnd.result : ChildEnd → Int
  | notForked => -1
  | notExecuted => 127
  | notWaited => -1
  | exited status => status.val
  | signaled signal => 128 + signal

/-- `PdmUtils::runCommand`, where a child with these arguments ends as `spawn` says. -/
def PdmUtils.runCommand (spawn : List String → ChildEnd) (argv : List String) : Int :=
  if argv = [] ∨ argv.head? = some "" then -1 else (spawn argv).result

/-! ### Checkers -/

/-- What becomes of a program that is to check a file system. -/
inductive CheckerRun where
  /-- no process could be made for it -/
  | notForked
  /-- its process was lost sight of -/
  | notWaited
  /-- there is no such program -/
  | notFound
  /-- there is one, and it cannot be executed -/
  | notExecutable
  /-- `timeout(1)` failed before it could be run -/
  | notLaunched
  /-- it ran to its end -/
  | exited (status : Fin 256)
  /-- it died of a signal -/
  | signaled (signal : Nat)
  /-- it was given up when its time was over -/
  | timedOut
  deriving DecidableEq, Repr

/-- How the checkers, and the `timeout` they are run under, report what happened. -/
structure Checkers where
  /-- Whether this exit status of the checker of this file system reports uncorrected
  or operational errors. -/
  reportsErrors : String → Fin 256 → Bool
  /-- What a checker exits with that keeps a time limit of its own. -/
  limitStatus : Fin 256
  /-- How `timeout` ends, by what becomes of the program it runs. -/
  timeout : CheckerRun → ChildEnd

/-- What the manual has about `timeout`: it exits with 124 when the time is over, with 125
when it fails itself, with 126 and 127 for a program it cannot execute or find, and
otherwise ends as the program. -/
structure Checkers.Manual (checkers : Checkers) : Prop where
  timedOut : checkers.timeout .timedOut = .exited 124
  notLaunched : checkers.timeout .notLaunched = .exited 125
  notExecutable : checkers.timeout .notExecutable = .exited 126
  notFound : checkers.timeout .notFound = .exited 127
  exited : ∀ status, checkers.timeout (.exited status) = .exited status
  signaled : ∀ signal, (checkers.timeout (.signaled signal)).result = 128 + signal

/-- `fsck(8)`: 4 stands for errors left uncorrected, 8 for an operational error, 16 for a
usage error, 32 for a check that was cancelled, 128 for a missing library. -/
def Checkers.fsck : Checkers where
  reportsErrors _ status := status.val &&& (4 ||| 8 ||| 16 ||| 32 ||| 128) ≠ 0
  limitStatus := 124
  timeout
    | .notForked => .notForked
    | .notWaited => .notWaited
    | .notFound => .exited 127
    | .notExecutable => .exited 126
    | .notLaunched => .exited 125
    | .exited status => .exited status
    | .signaled signal => .signaled signal
    | .timedOut => .exited 124

theorem Checkers.fsck_manual : Checkers.fsck.Manual where
  timedOut := rfl
  notLaunched := rfl
  notExecutable := rfl
  notFound := rfl
  exited _ := rfl
  signaled _ := rfl

/-- The command is run under `timeout(1)`. -/
def underTimeout (argv : List String) : Bool := argv.head? = some "timeout"

/-- How the child of pdm ends where it is the checker itself. -/
def CheckerRun.directEnd (limitStatus : Fin 256) : CheckerRun → ChildEnd
  | notForked => .notForked
  | notWaited => .notWaited
  | notFound => .notExecuted
  | notExecutable => .notExecuted
  | notLaunched => .notForked
  | exited status => .exited status
  | signaled signal => .signaled signal
  | timedOut => .exited limitStatus

/-- How the child of pdm ends.  Whether it could be forked and waited for is not
`timeout`'s to tell. -/
def CheckerRun.childEnd (checkers : Checkers) (argv : List String) (r : CheckerRun) :
    ChildEnd :=
  if underTimeout argv && r ≠ .notForked && r ≠ .notWaited then checkers.timeout r
  else r.directEnd checkers.limitStatus

/-- The environment in which a child process with these arguments comes to `run`. -/
def Env.running (env : Env) (checkers : Checkers) (run : List String → CheckerRun) : Env :=
  { env with
    runCommand := PdmUtils.runCommand fun argv => (run argv).childEnd checkers argv }

/-- What the daemon is answered is the integer of `PdmUtils::runCommand`. -/
theorem Sys.runCommand_running (env : Env) (checkers : Checkers)
    (run : List String → CheckerRun) (s : Sys) (argv : List String) :
    (s.runCommand (env.running checkers run) argv).1 =
      PdmUtils.runCommand (fun argv => (run argv).childEnd checkers argv) argv := by
  unfold Sys.runCommand PdmUtils.runCommand
  by_cases hempty : argv = [] ∨ argv.head? = some ""
  · rw [if_pos hempty, if_pos hempty]
  · rw [if_neg hempty, if_neg hempty]
    exact if_neg hempty

namespace PdmFsck

/-- What `fsck` makes of the exit status of the checker. -/
def verdict (result : Int) : PdmDevStatus :=
  if result = 1 ∨ result = 2 then .fsckFail
  else if result = COMMAND_TIMEOUT then .fsckTimeout
  else .success

theorem fsck_fst (env : Env) (s : Sys) (fsckMode driveType partitionName : String) :
    (fsck env s fsckMode driveType partitionName).1 =
      if fsckCommand fsckMode driveType partitionName = [] then .fsckFail
      else verdict (s.runCommand env (fsckCommand fsckMode driveType partitionName)).1 := by
  unfold fsck verdict
  by_cases hempty : fsckCommand fsckMode driveType partitionName = []
  · rw [if_pos hempty, if_pos hempty]
  · rw [if_neg hempty, if_neg hempty]
    dsimp only
    split
    · rfl
    · split <;> rfl

end PdmFsck

end Pdm
