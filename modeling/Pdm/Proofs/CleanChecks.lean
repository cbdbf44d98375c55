/-
Which outcomes of a checker lead to a mount.

`PdmFsck::fsck` compares the integer it gets from `PdmUtils::runCommand` with three
values: 1 and 2 are failures, 124 is the time-out, and all others are success.  So a
checker that could not be run at all (-1, 125, 126, 127), one that died of a signal
(128 and more) and one whose exit status is a mask with other bits than the first two
are reported as a success, and the partition is mounted.

The proof looks at the verdict alone: `fsckPartition` mounts exactly after the verdict
`success`, and leaves the verdict in the partition.
-/
import Pdm.Utils.Processes
import Pdm.Proofs.PartitionOutcomes

namespace Pdm

/-! ### The calls of `mount` -/

/-- A call of `mount(2)`. -/
def Call.isMount : Call → Bool
  | .mount _ => true
  | _ => false

/-- The calls of `mount` on record, oldest first. -/
def Sys.mountCalls (s : Sys) : List CallRecord := s.calls.filter (·.call.isMount)

@[simp] theorem Sys.record_mountCalls (s : Sys) (call : Call) (hcall : call.isMount = false) :
    (s.record call).mountCalls = s.mountCalls := by
  simp [Sys.mountCalls, Sys.record, List.filter_append, hcall]

@[simp] theorem handlerCb_mountCalls (s : Sys) (event : EventType) (device : Option Nat) :
    (handlerCb s event device).mountCalls = s.mountCalls := by
  unfold handlerCb Sys.notify
  split
  · exact Sys.record_mountCalls s _ rfl
  · exact Sys.record_mountCalls s _ rfl

theorem Sys.runCommand_mountCalls (env : Env) (s : Sys) (argv : List String) :
    (s.runCommand env argv).2.mountCalls = s.mountCalls := by
  unfold Sys.runCommand
  split
  · rfl
  · exact Sys.record_mountCalls s _ rfl

theorem PdmFsck.fsck_mountCalls (env : Env) (s : Sys)
    (fsckMode driveType partitionName : String) :
    (PdmFsck.fsck env s fsckMode driveType partitionName).2.mountCalls = s.mountCalls := by
  have hrun := Sys.runCommand_mountCalls env s (fsckCommand fsckMode driveType partitionName)
  unfold PdmFsck.fsck
  dsimp only
  split
  · rfl
  · split
    · exact hrun
    · split
      · exact hrun
      · exact hrun

/-! ### What `fsckPartition` does with the verdict -/

namespace StorageDevice

variable (env : Env) (s : Sys) (p : DiskPartitionInfo) (fsckMode : String)

theorem fsckFs_mountCalls :
    (PdmFs.fsck env s p fsckMode).state.mountCalls = s.mountCalls := by
  have hquiet := PdmFsck.fsck_mountCalls env (s.record (.fsck p.driveName p.mountName)) fsckMode
    p.fsType p.driveName
  rw [Sys.record_mountCalls s _ rfl] at hquiet
  unfold PdmFs.fsck
  dsimp only [DiskPartitionInfo.setFsckStatus]
  split
  · exact hquiet
  · exact hquiet

/-- A verdict other than `success` is the answer, and nothing is mounted. -/
theorem fsckPartition_of_failed (hfailed : env.checkStatus p fsckMode ≠ .success) :
    (fsckPartition env s p fsckMode).ret = env.checkStatus p fsckMode ∧
      (fsckPartition env s p fsckMode).state.mountCalls = s.mountCalls := by
  have hret : (PdmFs.fsck env (handlerCb s .fsckStarted none) p fsckMode).ret =
      env.checkStatus p fsckMode := (fsckFs_eq env (handlerCb s .fsckStarted none) p fsckMode).1
  have hquiet := fsckFs_mountCalls env (handlerCb s .fsckStarted none) p fsckMode
  rw [handlerCb_mountCalls] at hquiet
  unfold fsckPartition
  dsimp only
  rw [hret, if_neg hfailed]
  exact ⟨hret, by rw [handlerCb_mountCalls]; exact hquiet⟩

end StorageDevice

/-! ### The verdict on a run of the checker -/

namespace PdmFsck

theorem fsckCommand_head (fsckMode driveType partitionName : String) :
    (fsckCommand fsckMode driveType partitionName).head? ≠ some "" := by
  have htimeout : splitArgs "timeout 20 " = ["timeout", "20"] := by decide
  unfold fsckCommand
  split
  · simp
  · rename_i fsckbin fsckOption _
    split
    · simp
    · rename_i hbin
      rw [htimeout]
      split
      · simp
      · simpa using hbin

theorem verdict_success_iff (result : Int) :
    verdict result = .success ↔ result ≠ 1 ∧ result ≠ 2 ∧ result ≠ 124 := by
  unfold verdict COMMAND_TIMEOUT
  split
  · rename_i hfail
    simp only [reduceCtorEq, false_iff]
    omega
  · split
    · rename_i hlimit
      simp only [reduceCtorEq, false_iff]
      omega
    · simp only [true_iff]
      omega

theorem verdict_timeout_iff (result : Int) : verdict result = .fsckTimeout ↔ result = 124 := by
  unfold verdict COMMAND_TIMEOUT
  split
  · simp only [reduceCtorEq, false_iff]
    omega
  · split
    · rename_i hlimit
      exact iff_of_true rfl hlimit
    · rename_i hlimit
      simpa using hlimit

theorem verdict_fail_iff (result : Int) : verdict result = .fsckFail ↔ result = 1 ∨ result = 2 := by
  unfold verdict
  split
  · rename_i hfail
    exact iff_of_true rfl hfail
  · rename_i hfail
    split
    · simpa using hfail
    · simpa using hfail

end PdmFsck

section Verdicts

variable (checkers : Checkers) (env : Env) (run : List String → CheckerRun) (s : Sys)
  (p : DiskPartitionInfo) (fsckMode : String)

theorem checkStatus_running :
    (env.running checkers run).checkStatus p fsckMode =
      if PdmFsck.fsckCommand fsckMode p.fsType p.driveName = [] then .fsckFail
      else PdmFsck.verdict
        ((run (PdmFsck.fsckCommand fsckMode p.fsType p.driveName)).childEnd checkers
          (PdmFsck.fsckCommand fsckMode p.fsType p.driveName)).result := by
  have hhead := PdmFsck.fsckCommand_head fsckMode p.fsType p.driveName
  unfold Env.checkStatus
  rw [PdmFsck.fsck_fst]
  by_cases hempty : PdmFsck.fsckCommand fsckMode p.fsType p.driveName = []
  · rw [if_pos hempty, if_pos hempty]
  · rw [if_neg hempty, if_neg hempty, Sys.runCommand_running]
    unfold PdmUtils.runCommand
    rw [if_neg (fun h => h.elim hempty hhead)]

/-- The checker ran to its end, and its exit status reports no errors. -/
def CheckerRun.Clean (driveType : String) : CheckerRun → Prop
  | .exited status => checkers.reportsErrors driveType status = false
  | _ => False

/-- The run of the checker in a check of the partition; there is none for a file system
without a checker. -/
def checkerRun : Option CheckerRun :=
  if PdmFsck.fsckCommand fsckMode p.fsType p.driveName = [] then none
  else some (run (PdmFsck.fsckCommand fsckMode p.fsType p.driveName))

/-- Only a clean check is reported as a success and followed by a mount, one that timed out
is reported as that, and every other one as a failure. -/
structure MountsOnlyClean (ran : Option CheckerRun) (driveType : String) (s : Sys)
    (out : Out DiskPartitionInfo PdmDevStatus) : Prop where
  clean : out.obj.fsckStatus = PdmDevStatus.success.code ∨ out.state.mountCalls ≠ s.mountCalls →
    ∃ r ∈ ran, r.Clean checkers driveType
  timedOut : ran = some .timedOut →
    out.ret = .fsckTimeout ∧ out.state.mountCalls = s.mountCalls
  failed : (∀ r ∈ ran, ¬ r.Clean checkers driveType ∧ r ≠ .timedOut) →
    out.ret = .fsckFail ∧ out.state.mountCalls = s.mountCalls

/-- The runs the three comparisons of `PdmFsck::fsck` are right about: a time-out that is
seen as the exit status 124, the exit statuses 1 and 2, and those that report no errors. -/
def CheckerRun.WellJudged (driveType : String) (argv : List String) : CheckerRun → Prop
  | .timedOut => underTimeout argv = true ∨ checkers.limitStatus = 124
  | .exited status =>
    status = 1 ∨ status = 2 ∨ checkers.reportsErrors driveType status = false
  | _ => False

/-- The property speaks of the verdict alone. -/
theorem mountsOnlyClean_iff (ran : Option CheckerRun) :
    MountsOnlyClean checkers ran p.fsType s (StorageDevice.fsckPartition env s p fsckMode) ↔
      (env.checkStatus p fsckMode = .success → ∃ r ∈ ran, r.Clean checkers p.fsType) ∧
        (ran = some .timedOut → env.checkStatus p fsckMode = .fsckTimeout) ∧
        ((∀ r ∈ ran, ¬ r.Clean checkers p.fsType ∧ r ≠ .timedOut) →
          env.checkStatus p fsckMode = .fsckFail) := by
  have hstatus := StorageDevice.fsckPartition_fsckStatus env s p fsckMode
  have hfailed := StorageDevice.fsckPartition_of_failed env s p fsckMode
  constructor
  · intro h
    have hclean : env.checkStatus p fsckMode = .success → ∃ r ∈ ran, r.Clean checkers p.fsType := by
      intro hsuccess
      exact h.clean (Or.inl (by rw [hstatus, hsuccess]))
    refine ⟨hclean, fun htimed => ?_, fun hnone => ?_⟩
    · have hne : env.checkStatus p fsckMode ≠ .success := by
        intro hsuccess
        obtain ⟨r, hr, hrclean⟩ := hclean hsuccess
        rw [htimed] at hr
        cases hr
        exact hrclean
      exact (hfailed hne).1.symm.trans (h.timedOut htimed).1
    · have hne : env.checkStatus p fsckMode ≠ .success := by
        intro hsuccess
        obtain ⟨r, hr, hrclean⟩ := hclean hsuccess
        exact (hnone r hr).1 hrclean
      exact (hfailed hne).1.symm.trans (h.failed hnone).1
  · rintro ⟨hclean, htimed, hnone⟩
    refine ⟨fun hmounts => ?_, fun h => ?_, fun h => ?_⟩
    · apply hclean
      by_contra hne
      rcases hmounts with hcode | hcalls
      · rw [hstatus] at hcode
        exact hne (PdmDevStatus.code_injective hcode)
      · exact hcalls (hfailed hne).2
    · have hne : env.checkStatus p fsckMode ≠ .success := by rw [htimed h]; decide
      exact ⟨(hfailed hne).1.trans (htimed h), (hfailed hne).2⟩
    · have hne : env.checkStatus p fsckMode ≠ .success := by rw [hnone h]; decide
      exact ⟨(hfailed hne).1.trans (hnone h), (hfailed hne).2⟩

/-- Through `timeout` or not, all ends but three kinds are the same for pdm: those of a program
that is not executed, and the end of a program that was given up. -/
theorem childEnd_result (hmanual : checkers.Manual) (argv : List String) (r : CheckerRun) :
    (r.childEnd checkers argv).result =
      match r with
      | .notForked => -1
      | .notWaited => -1
      | .notFound => 127
      | .notExecutable => if underTimeout argv then 126 else 127
      | .notLaunched => if underTimeout argv then 125 else -1
      | .exited status => status.val
      | .signaled signal => 128 + signal
      | .timedOut => if underTimeout argv then 124 else checkers.limitStatus.val := by
  unfold CheckerRun.childEnd
  by_cases hwrapped : underTimeout argv = true
  · cases r with
    | notForked => simp [CheckerRun.directEnd, ChildEnd.result]
    | notWaited => simp [CheckerRun.directEnd, ChildEnd.result]
    | notFound =>
      simp only [hwrapped, hmanual.notFound, ChildEnd.result]
      rfl
    | notExecutable =>
      simp only [hwrapped, hmanual.notExecutable, ChildEnd.result]
      rfl
    | notLaunched =>
      simp only [hwrapped, hmanual.notLaunched, ChildEnd.result]
      rfl
    | exited status => simp [hwrapped, hmanual.exited, ChildEnd.result]
    | signaled signal => simp [hwrapped, hmanual.signaled]
    | timedOut =>
      simp only [hwrapped, hmanual.timedOut, ChildEnd.result]
      rfl
  · cases r <;> simp [hwrapped, CheckerRun.directEnd, ChildEnd.result]

/-- The verdict on a run is right exactly for the runs that are well judged. -/
theorem verdict_iff (hmanual : checkers.Manual) (driveType : String) (argv : List String)
    (r : CheckerRun) :
    ((PdmFsck.verdict (r.childEnd checkers argv).result = .success → r.Clean checkers driveType) ∧
        (r = .timedOut → PdmFsck.verdict (r.childEnd checkers argv).result = .fsckTimeout) ∧
        (¬ r.Clean checkers driveType ∧ r ≠ .timedOut →
          PdmFsck.verdict (r.childEnd checkers argv).result = .fsckFail)) ↔
      r.WellJudged checkers driveType argv := by
  rw [PdmFsck.verdict_success_iff, PdmFsck.verdict_timeout_iff, PdmFsck.verdict_fail_iff,
    childEnd_result checkers hmanual]
  cases r with
  | exited status =>
    have hlt := status.isLt
    by_cases herrors : checkers.reportsErrors driveType status = false
    · simp [CheckerRun.Clean, CheckerRun.WellJudged, herrors]
    · simp only [CheckerRun.Clean, CheckerRun.WellJudged, herrors, Fin.ext_iff]
      simp
      omega
  | timedOut =>
    have hlt := checkers.limitStatus.isLt
    by_cases hwrapped : underTimeout argv = true
    · simp [CheckerRun.Clean, CheckerRun.WellJudged, hwrapped]
    · simp only [CheckerRun.Clean, CheckerRun.WellJudged, hwrapped, Fin.ext_iff]
      simp
      omega
  | signaled signal =>
    simp only [CheckerRun.Clean, CheckerRun.WellJudged]
    simp
    omega
  | notForked => simp [CheckerRun.Clean, CheckerRun.WellJudged]
  | notWaited => simp [CheckerRun.Clean, CheckerRun.WellJudged]
  | notFound => simp [CheckerRun.Clean, CheckerRun.WellJudged]
  | notExecutable =>
    simp only [CheckerRun.Clean, CheckerRun.WellJudged]
    split <;> decide
  | notLaunched =>
    simp only [CheckerRun.Clean, CheckerRun.WellJudged]
    split <;> decide

/-- `fsckPartition` mounts only after a clean check, and reports the others as what they
were, exactly when there is no checker for the file system or its run is well judged. -/
theorem fsckPartition_clean_iff (hmanual : checkers.Manual) :
    MountsOnlyClean checkers (checkerRun run p fsckMode) p.fsType s
        (StorageDevice.fsckPartition (env.running checkers run) s p fsckMode) ↔
      ∀ r ∈ checkerRun run p fsckMode,
        r.WellJudged checkers p.fsType
          (PdmFsck.fsckCommand fsckMode p.fsType p.driveName) := by
  rw [mountsOnlyClean_iff, checkStatus_running]
  unfold checkerRun
  by_cases hempty : PdmFsck.fsckCommand fsckMode p.fsType p.driveName = []
  · simp [hempty]
  · rw [if_neg hempty, if_neg hempty]
    have hrun := verdict_iff checkers hmanual p.fsType
      (PdmFsck.fsckCommand fsckMode p.fsType p.driveName)
      (run (PdmFsck.fsckCommand fsckMode p.fsType p.driveName))
    simpa using hrun

end Verdicts

/-- The first partition of a stick, with an `ext4` file system. -/
def ext4Partition : DiskPartitionInfo :=
  { DiskPartitionInfo.new 1 "/devices/usb1/1-1/block/sda/sda1" "/tmp/usb" with
    driveName := "sda1", fsType := "ext4", mountName := "/tmp/usb/sda/sda1" }

/-- A checker that finds nothing is well judged. -/
theorem fsckPartition_clean_iff_ext4 :
    MountsOnlyClean .fsck
      (checkerRun (fun _ => .exited 0) ext4Partition PdmFsck.AUTO) ext4Partition.fsType {}
      (StorageDevice.fsckPartition (Env.running {} .fsck fun _ => .exited 0) {}
        ext4Partition PdmFsck.AUTO) :=
  (fsckPartition_clean_iff .fsck {} (fun _ => .exited 0) {} ext4Partition PdmFsck.AUTO
    Checkers.fsck_manual).mpr fun r hr => by
      have hrun : r = .exited 0 := by
        have hsome : checkerRun (fun _ => .exited 0) ext4Partition PdmFsck.AUTO =
            some (.exited 0) := by decide
        rw [hsome] at hr
        exact (Option.some.inj hr).symm
      rw [hrun]
      exact Or.inr (Or.inr (by decide))

/-- `fsck.ext4` dies of a `SIGSEGV`: the partition is reported as checked and is mounted. -/
theorem crashed_checker_mounts :
    ¬ MountsOnlyClean .fsck
      (checkerRun (fun _ => .signaled 11) ext4Partition PdmFsck.AUTO) ext4Partition.fsType {}
      (StorageDevice.fsckPartition (Env.running {} .fsck fun _ => .signaled 11) {}
        ext4Partition PdmFsck.AUTO) := by
  intro h
  obtain ⟨r, hr, hclean⟩ := h.clean (Or.inl (by decide))
  have hrun : r = .signaled 11 := by
    have hsome : checkerRun (fun _ => .signaled 11) ext4Partition PdmFsck.AUTO =
        some (.signaled 11) := by decide
    rw [hsome] at hr
    exact (Option.some.inj hr).symm
  rw [hrun] at hclean
  exact hclean

end Pdm
