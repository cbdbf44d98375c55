/-
The answer to the power manager before a suspend.

`HandlePluginEvent` asks every configured handler to unmount what it has and answers
with the conjunction of their answers.  Each handler is described as a step that gives
back mount points (`Lib/Release.lean`): the storage handler counts on every listed
partition being mounted, the MTP handler on every listed device, the PTP handler on the
ones that are flagged, and four handlers without a file system refuse whatever happens.
**The answer is true exactly when the handlers are willing and count on all that is
mounted and on nothing else, or when it is no and something stays mounted.**
-/
import Pdm.Lib.Release
import Pdm.Proofs.Devices
import Pdm.Framework.DeviceManager

namespace Pdm

open Visit (visit)
open Release (Step)

/-! ### Storage devices -/

section Storage

variable (env : Env) (lazyUnmount : Bool)

/-- A busy drive stands in the way of an unmount that is not lazy. -/
def Env.inTheWay (p : DiskPartitionInfo) : Bool := !lazyUnmount && env.busy p

/-- The device's partitions can all be unmounted. -/
def suspendWilling (d : StorageDevice) : Prop :=
  ∀ p ∈ d.diskPartitionList, env.inTheWay lazyUnmount p = false ∧ env.letsGo p lazyUnmount = true

/-- The mount points that the kernel lets go of before a busy drive ends the loop. -/
def suspendFrees (l : List DiskPartitionInfo) (m : String) : Prop :=
  ∃ p ∈ l.takeWhile (!env.inTheWay lazyUnmount ·), env.letsGo p lazyUnmount = true ∧
    p.mountName = m

theorem umount_step (s : Sys) (p : DiskPartitionInfo) :
    Step s.mounted (PdmFs.umount env s p lazyUnmount).2.mounted
      ((PdmFs.umount env s p lazyUnmount).1 = true) (env.letsGo p lazyUnmount = true)
      [p.mountName] (fun m => env.letsGo p lazyUnmount = true ∧ p.mountName = m) := by
  obtain ⟨hret, hm, -⟩ := StorageDevice.umount_eq env s p lazyUnmount
  refine ⟨fun m => ?_, ?_, fun hlets m => ?_⟩
  · rw [hm]
    by_cases hlets : env.letsGo p lazyUnmount = true
    · simp [hlets, eq_comm, and_comm]
    · simp [hlets]
  · rw [hret]
    simp [and_comm]
  · simp [hlets, eq_comm]

/-- The answer so far only joins the answers to come. -/
theorem suspendUmountLoop_eq (l : List DiskPartitionInfo) (s : Sys) (ret : Bool) :
    StorageDevice.suspendUmountLoop env lazyUnmount s ret l =
      (ret && (StorageDevice.suspendUmountLoop env lazyUnmount s true l).1,
        (StorageDevice.suspendUmountLoop env lazyUnmount s true l).2) := by
  induction l generalizing s ret with
  | nil => simp [StorageDevice.suspendUmountLoop]
  | cons p ps ih =>
      unfold StorageDevice.suspendUmountLoop
      dsimp only
      split
      · simp
      · rw [ih]
        generalize (PdmFs.umount env (StorageDevice.driveInTheWay env s p lazyUnmount).2 p
          lazyUnmount) = r
        cases r.1 with
        | true => simp
        | false =>
          simp only [Bool.false_eq_true, if_false]
          rw [ih r.2 false]
          simp

theorem suspendUmountLoop_step (l : List DiskPartitionInfo) (s : Sys) :
    Step s.mounted (StorageDevice.suspendUmountLoop env lazyUnmount s true l).2.mounted
      ((StorageDevice.suspendUmountLoop env lazyUnmount s true l).1 = true)
      (∀ p ∈ l, env.inTheWay lazyUnmount p = false ∧ env.letsGo p lazyUnmount = true)
      (l.map (·.mountName)) (suspendFrees env lazyUnmount l) := by
  induction l generalizing s with
  | nil =>
      refine (Step.idle s.mounted True).congr ?_ (by simp) (by simp [suspendFrees])
      simp [StorageDevice.suspendUmountLoop]
  | cons p ps ih =>
      have hway : (StorageDevice.driveInTheWay env s p lazyUnmount).1
          = env.inTheWay lazyUnmount p := StorageDevice.driveInTheWay_fst env s p lazyUnmount
      unfold StorageDevice.suspendUmountLoop
      dsimp only
      rw [hway]
      by_cases hbusy : env.inTheWay lazyUnmount p = true
      · rw [if_pos hbusy, StorageDevice.driveInTheWay_mounted]
        refine Step.refuse s.mounted (by simp) (fun hall => ?_) (fun m hm => ?_)
        · rw [(hall p (by simp)).1] at hbusy
          exact absurd hbusy (by simp)
        · simp [suspendFrees, hbusy] at hm
      · have hfree : env.inTheWay lazyUnmount p = false := by simpa using hbusy
        rw [if_neg hbusy]
        generalize ht : (StorageDevice.driveInTheWay env s p lazyUnmount).2 = t
        have htm : t.mounted = s.mounted := by
          rw [← ht, StorageDevice.driveInTheWay_mounted]
        have hp := umount_step env lazyUnmount t p
        rw [htm] at hp
        have hps := ih (PdmFs.umount env t p lazyUnmount).2
        rw [suspendUmountLoop_eq]
        refine (hp.comp hps).congr ?_ ?_ ?_
        · simp
        · simp [hfree]
        · intro m
          unfold suspendFrees
          rw [List.takeWhile_cons]
          simp [hfree]

theorem umountAllDriveLoop_eq (l : List StorageDevice) (s : Sys) (ret : Bool) :
    StorageDeviceHandler.umountAllDriveLoop env lazyUnmount s ret l =
      (ret && (StorageDeviceHandler.umountAllDriveLoop env lazyUnmount s true l).1,
        (StorageDeviceHandler.umountAllDriveLoop env lazyUnmount s true l).2) := by
  induction l generalizing s ret with
  | nil => simp [StorageDeviceHandler.umountAllDriveLoop]
  | cons d ds ih =>
      unfold StorageDeviceHandler.umountAllDriveLoop
      dsimp only
      rw [ih]
      generalize StorageDevice.suspendUmountAllPartitions env s d lazyUnmount = r
      cases r.1 with
      | true => simp
      | false =>
        simp only [if_true]
        rw [ih r.2 false]
        simp

theorem umountAllDriveLoop_step (l : List StorageDevice) (s : Sys) :
    Step s.mounted (StorageDeviceHandler.umountAllDriveLoop env lazyUnmount s true l).2.mounted
      ((StorageDeviceHandler.umountAllDriveLoop env lazyUnmount s true l).1 = true)
      (∀ d ∈ l, suspendWilling env lazyUnmount d)
      (l.flatMap fun d => d.diskPartitionList.map (·.mountName))
      (fun m => ∃ d ∈ l, suspendFrees env lazyUnmount d.diskPartitionList m) := by
  induction l generalizing s with
  | nil =>
      refine (Step.idle s.mounted True).congr ?_ (by simp) (by simp)
      simp [StorageDeviceHandler.umountAllDriveLoop]
  | cons d ds ih =>
      have hd := suspendUmountLoop_step env lazyUnmount d.diskPartitionList s
      have hds := ih (StorageDevice.suspendUmountAllPartitions env s d lazyUnmount).2
      unfold StorageDeviceHandler.umountAllDriveLoop
      dsimp only
      rw [umountAllDriveLoop_eq]
      refine (hd.comp hds).congr ?_ ?_ ?_
      · unfold StorageDevice.suspendUmountAllPartitions
        cases (StorageDevice.suspendUmountLoop env lazyUnmount s true d.diskPartitionList).1 with
        | true => simp
        | false => simp
      · simp [suspendWilling]
      · simp

end Storage

/-! ### Media players and cameras -/

section Streaming

variable (env : Env)

/-- `fusermount -u` of the path will exit with 0. -/
def Env.detaches (mountName : String) : Bool :=
  env.runCommand ["/usr/bin/fusermount", "-u", mountName] = 0

theorem fusermount_step (s : Sys) (target : String) :
    Step s.mounted (s.fusermount env target).2.mounted ((s.fusermount env target).1 = 0)
      (env.detaches target = true) [target]
      (fun m => env.detaches target = true ∧ target = m) := by
  obtain ⟨hret, hm⟩ := Sys.fusermount_eq env s target
  unfold Env.detaches
  refine ⟨fun m => ?_, ?_, fun hexit m => ?_⟩
  · rw [hm]
    by_cases hexit : env.runCommand ["/usr/bin/fusermount", "-u", target] = 0
    · simp [hexit, eq_comm, and_comm]
    · simp [hexit]
  · rw [hret]
    simp [and_comm]
  · rw [decide_eq_true_eq] at hexit
    simp [hexit, eq_comm]

/-- The MTP handler counts on every device, also on one that is not flagged. -/
theorem mtpUmount_step (s : Sys) (d : MTPDevice) :
    Step s.mounted (d.mtpUmount env s).state.mounted ((d.mtpUmount env s).ret ≠ .umountFail)
      (d.isMounted = true ∧ env.detaches d.mountName = true) [d.mountName]
      (fun m => d.isMounted = true ∧ env.detaches d.mountName = true ∧ d.mountName = m) := by
  unfold MTPDevice.mtpUmount MTPDevice.unmountDevice
  cases hflag : d.isMounted with
  | false => exact Step.refuse s.mounted (by simp) (by simp) (by simp)
  | true =>
    simp only [Bool.true_eq_false, if_false, decide_eq_true_eq, true_and]
    split
    · rename_i hret
      refine (fusermount_step env s d.mountName).congr ?_ Iff.rfl fun _ => Iff.rfl
      simp [hret]
    · rename_i hret
      refine (fusermount_step env s d.mountName).congr ?_ Iff.rfl fun _ => Iff.rfl
      simp [hret]

/-- The PTP handler counts on the devices that are flagged. -/
theorem umountDrive_step (s : Sys) (d : PTPDevice) :
    Step s.mounted (PTPDeviceHandler.umountDrive env s d).state.mounted
      ((PTPDeviceHandler.umountDrive env s d).ret = true)
      (d.isMounted = true → env.detaches d.mountName = true)
      (if d.isMounted then [d.mountName] else [])
      (fun m => d.isMounted = true ∧ env.detaches d.mountName = true ∧ d.mountName = m) := by
  unfold PTPDeviceHandler.umountDrive PTPDevice.unmountDevice
  cases hflag : d.isMounted with
  | false => exact (Step.idle s.mounted True).congr (by simp) (by simp) (by simp)
  | true =>
    refine (fusermount_step env s d.mountName).congr ?_ ?_ ?_
    · simp
    · simp
    · simp

end Streaming

/-! ### The handlers -/

namespace World

variable (env : Env) (lazyUnmount : Bool) (w : World)

/-- The two events that ask for an unmount; the one before the suspend itself is lazy. -/
def suspendEvent (lazyUnmount : Bool) : PluginEvent :=
  if lazyUnmount then .powerProcessPrepareSuspend else .powerProcessRequestUmountAll

/-- The handler can do its part: what it has can all be unmounted.  Four handlers
without a file system answer no to every plugin event. -/
def willing : HandlerKind → Prop
  | .storage => ∀ d ∈ w.storage.storageList, suspendWilling env lazyUnmount d
  | .mtp => ∀ d ∈ w.mtp.mtpList, d.isMounted = true ∧ env.detaches d.mountName = true
  | .ptp => ∀ d ∈ w.ptp.sList, d.isMounted = true → env.detaches d.mountName = true
  | .hid | .sound | .video | .cdc => False
  | .nfc | .gamepad | .bluetooth => True

/-- The mount points the handler counts on. -/
def counted : HandlerKind → List String
  | .storage => w.storage.storageList.flatMap fun d => d.diskPartitionList.map (·.mountName)
  | .mtp => w.mtp.mtpList.flatMap fun d => [d.mountName]
  | .ptp => w.ptp.sList.flatMap fun d => if d.isMounted then [d.mountName] else []
  | _ => []

/-- The mount points the handler gives back. -/
def freed : HandlerKind → String → Prop
  | .storage, m => ∃ d ∈ w.storage.storageList, suspendFrees env lazyUnmount d.diskPartitionList m
  | .mtp, m =>
    ∃ d ∈ w.mtp.mtpList, d.isMounted = true ∧ env.detaches d.mountName = true ∧ d.mountName = m
  | .ptp, m =>
    ∃ d ∈ w.ptp.sList, d.isMounted = true ∧ env.detaches d.mountName = true ∧ d.mountName = m
  | _, _ => False

theorem storage_suspend (s : Sys) (h : StorageDeviceHandler) :
    (h.HandlePluginEvent env s (suspendEvent lazyUnmount)).state =
        (StorageDeviceHandler.umountAllDriveLoop env lazyUnmount s true h.storageList).2 ∧
      (h.HandlePluginEvent env s (suspendEvent lazyUnmount)).obj = h ∧
      (h.HandlePluginEvent env s (suspendEvent lazyUnmount)).ret =
        (StorageDeviceHandler.umountAllDriveLoop env lazyUnmount s true h.storageList).1 := by
  cases lazyUnmount <;> exact ⟨rfl, rfl, rfl⟩

theorem mtp_suspend (s : Sys) (h : MTPDeviceHandler) :
    h.HandlePluginEvent env s (suspendEvent lazyUnmount) = h.umountAllDrive env s := by
  cases lazyUnmount <;> rfl

theorem ptp_suspend (s : Sys) (h : PTPDeviceHandler) :
    h.HandlePluginEvent env s (suspendEvent lazyUnmount) = h.umountAllDrive env s := by
  cases lazyUnmount <;> rfl

/-- **Each handler's answer is that of a step that gives back mount points.** -/
theorem handlerPluginEvent_step (kind : HandlerKind) :
    Step w.sys.mounted
      (w.handlerPluginEvent env kind (suspendEvent lazyUnmount)).1.sys.mounted
      ((w.handlerPluginEvent env kind (suspendEvent lazyUnmount)).2 = true)
      (w.willing env lazyUnmount kind) (w.counted kind) (w.freed env lazyUnmount kind) := by
  have hno : Step w.sys.mounted w.sys.mounted (false = true) False [] fun _ => False :=
    (Step.idle w.sys.mounted False).congr (by simp) (by simp) (by simp)
  have hyes : Step w.sys.mounted w.sys.mounted (true = true) True [] fun _ => False :=
    (Step.idle w.sys.mounted True).congr (by simp) (by simp) (by simp)
  cases kind with
  | storage =>
    have h := umountAllDriveLoop_step env lazyUnmount w.storage.storageList w.sys
    obtain ⟨hs, -, hr⟩ := storage_suspend env lazyUnmount w.sys w.storage
    unfold handlerPluginEvent
    dsimp only
    rw [hs, hr]
    exact h
  | mtp =>
    have h := Step.visit (f := fun s d => MTPDevice.mtpUmount env s d) (K := Sys.mounted)
      (· ≠ PdmDevStatus.umountFail) (mtpUmount_step env) w.mtp.mtpList w.sys
    unfold handlerPluginEvent
    dsimp only
    rw [mtp_suspend]
    exact h.congr (by simp [MTPDeviceHandler.umountAllDrive]) Iff.rfl fun _ => Iff.rfl
  | ptp =>
    have h := Step.visit (f := PTPDeviceHandler.umountDrive env) (K := Sys.mounted)
      (· = true) (umountDrive_step env) w.ptp.sList w.sys
    unfold handlerPluginEvent
    dsimp only
    rw [ptp_suspend]
    exact h.congr (by simp [PTPDeviceHandler.umountAllDrive]) Iff.rfl fun _ => Iff.rfl
  | hid => exact hno
  | sound => exact hno
  | nfc => exact hyes
  | gamepad => exact hyes
  | bluetooth => exact hyes
  | video => cases lazyUnmount <;> exact hno
  | cdc => cases lazyUnmount <;> exact hno

/-- A handler's event leaves what the other handlers have as it is. -/
theorem handlerPluginEvent_others {kind other : HandlerKind} (hne : other ≠ kind)
    (eventType : PluginEvent) :
    (w.handlerPluginEvent env kind eventType).1.willing env lazyUnmount other =
        w.willing env lazyUnmount other ∧
      (w.handlerPluginEvent env kind eventType).1.counted other = w.counted other ∧
      (w.handlerPluginEvent env kind eventType).1.freed env lazyUnmount other =
        w.freed env lazyUnmount other := by
  cases other <;> cases kind <;> first | exact absurd rfl hne | exact ⟨rfl, rfl, rfl⟩

/-! ### The answer of all handlers -/

theorem pluginLoop_eq (eventType : PluginEvent) (l : List HandlerKind) (w : World) (ret : Bool) :
    pluginLoop env eventType w ret l =
      ((pluginLoop env eventType w true l).1, ret && (pluginLoop env eventType w true l).2) := by
  induction l generalizing w ret with
  | nil => simp [pluginLoop]
  | cons kind kinds ih =>
      unfold pluginLoop
      dsimp only
      rw [ih]
      generalize w.handlerPluginEvent env kind eventType = r
      cases r.2 with
      | true => simp
      | false =>
        simp only [if_true]
        rw [ih r.1 false]
        simp

theorem pluginLoop_step {l : List HandlerKind} (hnodup : l.Nodup) (w : World) :
    Step w.sys.mounted
      (pluginLoop env (suspendEvent lazyUnmount) w true l).1.sys.mounted
      ((pluginLoop env (suspendEvent lazyUnmount) w true l).2 = true)
      (∀ kind ∈ l, w.willing env lazyUnmount kind) (l.flatMap w.counted)
      (fun m => ∃ kind ∈ l, w.freed env lazyUnmount kind m) := by
  induction l generalizing w with
  | nil =>
      exact (Step.idle w.sys.mounted True).congr (by simp [pluginLoop]) (by simp) (by simp)
  | cons kind kinds ih =>
      obtain ⟨hnew, hrest⟩ := List.nodup_cons.mp hnodup
      have hkind := handlerPluginEvent_step env lazyUnmount w kind
      have hkinds := ih hrest (w.handlerPluginEvent env kind (suspendEvent lazyUnmount)).1
      -- The rest of the handlers are asked in a state that differs only in this one.
      have hsame : ∀ other ∈ kinds, _ := fun other hother =>
        handlerPluginEvent_others env lazyUnmount w
          (show other ≠ kind from fun h => hnew (h ▸ hother)) (suspendEvent lazyUnmount)
      rw [List.flatMap_congr fun other hother => (hsame other hother).2.1] at hkinds
      unfold pluginLoop
      dsimp only
      rw [pluginLoop_eq]
      rw [List.flatMap_cons]
      refine (hkind.comp hkinds).congr ?_ ?_ ?_
      · cases (w.handlerPluginEvent env kind (suspendEvent lazyUnmount)).2 with
        | true => simp
        | false => simp
      · rw [List.forall_mem_cons]
        refine and_congr_right fun _ => forall₂_congr fun other hother => ?_
        rw [(hsame other hother).1]
      · intro m
        rw [List.exists_mem_cons_iff]
        refine or_congr_right (exists_congr fun other => and_congr_right fun hother => ?_)
        rw [(hsame other hother).2.2]

/-- The answer is true: yes exactly when nothing that pdm has mounted is left mounted. -/
def SuspendTrue (handlerList : List HandlerKind) : Prop :=
  (HandlePluginEvent env handlerList w (suspendEvent lazyUnmount)).2 = true ↔
    (HandlePluginEvent env handlerList w (suspendEvent lazyUnmount)).1.sys.mounted = ∅

/-- The handlers are willing and count on every mount point once and on nothing else, or
they cannot all say yes and some mount point is not given back. -/
def SuspendTold (handlerList : List HandlerKind) : Prop :=
  ((∀ kind ∈ handlerList, w.willing env lazyUnmount kind) ∧
      (handlerList.flatMap w.counted).Nodup ∧
      ∀ m, m ∈ handlerList.flatMap w.counted ↔ m ∈ w.sys.mounted) ∨
    (¬ ((∀ kind ∈ handlerList, w.willing env lazyUnmount kind) ∧
        (handlerList.flatMap w.counted).Nodup ∧
        ∀ m ∈ handlerList.flatMap w.counted, m ∈ w.sys.mounted) ∧
      ∃ m ∈ w.sys.mounted, ¬ ∃ kind ∈ handlerList, w.freed env lazyUnmount kind m)

/-- **In every state and for every list of handlers, the answer before a suspend is true
exactly when the handlers count on what is mounted.** -/
theorem suspendTrue_iff {handlerList : List HandlerKind} (hnodup : handlerList.Nodup) :
    w.SuspendTrue env lazyUnmount handlerList ↔ w.SuspendTold env lazyUnmount handlerList :=
  (pluginLoop_step env lazyUnmount hnodup w).truthful_iff

/-- A stick with one partition is attached, and the partition is mounted. -/
def stickAttached : World where
  toStorageSystem := StorageSystem.plugStick.foldl (StorageSystem.step .tmpUsb) {}

/-- The handlers count on the mounted partition, and the answer is true. -/
theorem suspendTrue_iff_streaming :
    stickAttached.sys.mounted = {"/tmp/usb/sda/sda1"} ∧
      stickAttached.SuspendTold {} true [.storage, .mtp, .ptp] :=
  ⟨by decide, (suspendTrue_iff {} true stickAttached (by decide)).mp (by
    unfold SuspendTrue
    decide)⟩

/-- With nothing attached, the HID handler alone makes the answer no. -/
theorem hid_refuses_suspend :
    ¬ ({} : World).SuspendTrue {} true [.hid, .storage, .mtp, .ptp] := by
  unfold SuspendTrue
  decide

end World

end Pdm
