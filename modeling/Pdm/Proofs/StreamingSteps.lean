/-
What the streaming handlers do in a step.

Media players and cameras differ in how they are mounted, not in what a step does to
their handler's list, so both lists are looked at as lists of `Storage`.  An add event
makes a device join (`Joining`): it is mounted and listed, or it is dropped at once and
its root path deleted.  A remove event makes one leave.  Commands and plugin events keep
the devices and can only unmount (`StreamKept`).
-/
import Pdm.Proofs.Additions
import Pdm.Proofs.Suspend

namespace Pdm

open Visit (visit)

instance : IDevice Storage := ⟨fun d => d.toDevice⟩

/-! ### Streaming devices as storage -/

namespace Storage

/-- Which device it is, what is deleted when it goes and where it is mounted. -/
def seat (d : Storage) : Nat × String × String := (d.address, d.rootPath, d.mountName)

/-- A removal tries to unmount the device. -/
def holds (d : Storage) : Bool := d.isMounted && decide (d.errorReason ≠ .ejected)

theorem seat_eq_iff {d e : Storage} :
    d.seat = e.seat ↔
      d.address = e.address ∧ d.rootPath = e.rootPath ∧ d.mountName = e.mountName := by
  simp [seat]

end Storage

/-- If the call deletes a directory, it is this one, under this mount table. -/
def Deletes (path : String) (K : Finset String) (r : CallRecord) : Prop :=
  ∀ p, r.call = .removeDirRecursive p → p = path ∧ r.mounted = K

theorem Deletes.root (path : String) (K : Finset String) :
    Deletes path K ⟨.removeDirRecursive path, K⟩ :=
  fun _ hp => ⟨(Call.removeDirRecursive.inj hp).symm, rfl⟩

theorem Sys.Adds.deletes {path : String} {s t : Sys}
    (h : t.notables = s.notables ++ [⟨.removeDirRecursive path, t.mounted⟩]) :
    Sys.Adds (Deletes path t.mounted) s t := by
  exact Sys.Adds.single h (Deletes.root path t.mounted)

/-- The call deletes no directory. -/
def DeletesNothing (r : CallRecord) : Prop := ∀ p, r.call ≠ .removeDirRecursive p

theorem DeletesNothing.deletes {r : CallRecord} (h : DeletesNothing r) (path : String)
    (K : Finset String) : Deletes path K r :=
  fun p hp => absurd hp (h p)

theorem Sys.Adds.notify (s : Sys) (deviceType : DeviceEventType) (event : EventType)
    (device : Option Nat) : Sys.Adds DeletesNothing s (s.notify deviceType event device) := by
  by_cases hnot : (Call.notify deviceType event device).notable = true
  · refine Sys.Adds.single (r := ⟨.notify deviceType event device, s.mounted⟩) ?_ fun p hp => ?_
    · rw [Sys.notify_notables, if_pos hnot]
    · exact absurd hp (by simp)
  · refine Sys.Adds.of_eq ?_
    rw [Sys.notify_notables, if_neg hnot]

/-- A streaming device that an add event makes its handler mount. -/
structure Joining where
  /-- The device at the moment its mount is tried. -/
  device : Storage
  /-- The mount helper mounts it. -/
  mounts : Bool
  /-- The handler lists it. -/
  listed : Bool

/-- What a uevent leaves of the system and of the list of a streaming handler. -/
inductive StreamOutcome (env : Env) (s : Sys) (l : List Storage) (joining : Option Joining)
    (leaving : Option Storage) (t : Sys) (l' : List Storage) : Prop
  | ignored (hjoin : joining = none) (hleave : leaving = none) (ht : t = s) (hl : l' = l)
  | joined (j : Joining) (e : Storage) (hjoin : joining = some j) (hup : j.listed = true)
      (haddr : j.device.address = s.next) (hseat : e.seat = j.device.seat) (he : e.holds = true)
      (hname : e.mountName ≠ "") (hm : t.mounted = insert e.mountName s.mounted)
      (hnot : t.notables = s.notables)
      (hnext : t.next = s.next + 1) (hl : l' = l ++ [e])
  | failed (j : Joining) (hjoin : joining = some j) (hdown : j.listed = false)
      (haddr : j.device.address = s.next)
      (hm : t.mounted = if j.mounts then insert j.device.mountName s.mounted else s.mounted)
      (hdel : Sys.Adds (Deletes j.device.rootPath t.mounted) s t) (hnext : t.next = s.next + 1)
      (hl : l' = l)
  | left (d : Storage) (hjoin : joining = none) (hleave : leaving = some d) (hd : d ∈ l)
      (hm : t.mounted = if d.holds && env.detaches d.mountName then s.mounted.erase d.mountName
        else s.mounted)
      (hdel : Sys.Adds (Deletes d.rootPath t.mounted) s t) (hnext : t.next = s.next)
      (hl : l' = removePointer l d)

/-- What a command or a plugin event does to one device: it can only unmount, and a device
whose flag it clears is not mounted any more. -/
structure StreamOp (s : Sys) (d : Storage) (t : Sys) (e : Storage) : Prop where
  seat : e.seat = d.seat
  next : t.next = s.next
  quiet : t.notables = s.notables
  shrunk : t.mounted ⊆ s.mounted
  holds : d.mountName ∈ t.mounted → d.holds = true → e.holds = true

/-- The same of a list of devices. -/
structure StreamKept (s : Sys) (l : List Storage) (t : Sys) (l' : List Storage) : Prop where
  seats : l'.map (·.seat) = l.map (·.seat)
  next : t.next = s.next
  quiet : Sys.Adds DeletesNothing s t
  shrunk : t.mounted ⊆ s.mounted
  holds : ∀ d ∈ l, d.mountName ∈ t.mounted → d.holds = true →
    ∃ e ∈ l', e.seat = d.seat ∧ e.holds = true

namespace StreamKept

variable {s t u : Sys} {l l' : List Storage} {d e : Storage}

theorem refl (s : Sys) (l : List Storage) : StreamKept s l s l :=
  ⟨rfl, rfl, Sys.Adds.of_eq rfl, Finset.Subset.refl _, fun d hd _ h => ⟨d, hd, rfl, h⟩⟩

theorem cons (h : StreamOp s d t e) (hl : StreamKept t l u l') :
    StreamKept s (d :: l) u (e :: l') := by
  refine ⟨?_, hl.next.trans h.next, (Sys.Adds.of_eq h.quiet).trans hl.quiet,
    hl.shrunk.trans h.shrunk, fun x hx hm hflag => ?_⟩
  · rw [List.map_cons, List.map_cons, h.seat, hl.seats]
  · rcases List.mem_cons.mp hx with rfl | hx
    · exact ⟨e, by simp, h.seat, h.holds (hl.shrunk hm) hflag⟩
    · obtain ⟨y, hy, hseat, hholds⟩ := hl.holds x hx hm hflag
      exact ⟨y, by simp [hy], hseat, hholds⟩

/-- A loop over all devices. -/
theorem loop {α ρ : Type} {f : α → Storage} {g : Sys → α → Out α ρ}
    (hg : ∀ s d, StreamOp s (f d) (g s d).state (f (g s d).obj)) (l : List α) :
    ∀ s : Sys, StreamKept s (l.map f) (visit g s l).state ((visit g s l).obj.map f) := by
  induction l with
  | nil => intro s; exact refl s []
  | cons d ds ih => intro s; exact cons (hg s d) (ih _)

/-- Changes that no unmount looks at. -/
theorem map {α : Type} {f : α → Storage} {g : α → α} (s : Sys) (l : List α)
    (hg : ∀ d, (f (g d)).seat = (f d).seat ∧ (f (g d)).holds = (f d).holds) :
    StreamKept s (l.map f) s ((l.map g).map f) := by
  refine ⟨?_, rfl, Sys.Adds.of_eq rfl, Finset.Subset.refl _, fun d hd _ h => ?_⟩
  · rw [List.map_map, List.map_map, List.map_map]
    exact List.map_congr_left fun d _ => (hg d).1
  · obtain ⟨x, hx, rfl⟩ := List.mem_map.mp hd
    exact ⟨f (g x), List.mem_map_of_mem (List.mem_map_of_mem hx), (hg x).1, (hg x).2.trans h⟩

/-- One device was acted on, and addresses are distinct. -/
theorem write (hnodup : (l.map (·.address)).Nodup) (hd : d ∈ l) (h : StreamOp s d t e) :
    StreamKept s l t (writeBack l e) := by
  have haddr := (Storage.seat_eq_iff.mp h.seat).1
  have hsame : ∀ x ∈ l, (base x).address = (base e).address → x = d := fun x hx hxe =>
    List.inj_on_of_nodup_map hnodup hx hd (hxe.trans haddr)
  refine ⟨?_, h.next, Sys.Adds.of_eq h.quiet, h.shrunk, fun x hx hm hflag => ?_⟩
  · exact Keyed.map_put (fun x : Storage => x.address) (·.seat) hnodup hd haddr h.seat
  · by_cases hxe : (base x).address = (base e).address
    · obtain rfl := hsame x hx hxe
      exact ⟨e, List.mem_map.mpr ⟨x, hx, if_pos hxe⟩, h.seat, h.holds hm hflag⟩
    · exact ⟨x, List.mem_map.mpr ⟨x, hx, if_neg hxe⟩, rfl, hflag⟩

theorem andThen (h : StreamKept s l t l') (deviceType : DeviceEventType) (event : EventType)
    (device : Option Nat) : StreamKept s l (t.notify deviceType event device) l' :=
  ⟨h.seats, h.next, h.quiet.trans (Sys.Adds.notify _ _ _ _), h.shrunk, h.holds⟩

end StreamKept

/-! ### Unmounting a device -/

/-- What is still mounted was not let go. -/
theorem fusermount_stays (env : Env) (s : Sys) {target : String}
    (hmem : target ∈ (s.fusermount env target).2.mounted) : (s.fusermount env target).1 ≠ 0 := by
  obtain ⟨hret, hmounted⟩ := Sys.fusermount_eq env s target
  intro hzero
  rw [hmounted, if_pos (hret.mp hzero).2] at hmem
  exact absurd rfl (Finset.mem_erase.mp hmem).1

namespace MTPDevice

variable (env : Env) (s : Sys) (d : MTPDevice)

theorem mtpUmount_mounted :
    (mtpUmount env s d).state.mounted =
      if d.isMounted && env.detaches d.mountName then s.mounted.erase d.mountName
      else s.mounted := by
  unfold mtpUmount unmountDevice Env.detaches
  cases d.isMounted with
  | false => rfl
  | true =>
    simp only [Bool.true_eq_false, if_false, Bool.true_and, decide_eq_true_eq]
    rw [← (Sys.fusermount_eq env s d.mountName).2]
    split <;> rfl

/-- The flag is cleared only when nothing is mounted any more. -/
theorem mtpUmount_flag (hmem : d.mountName ∈ (mtpUmount env s d).state.mounted) :
    (mtpUmount env s d).obj = d ∧ (mtpUmount env s d).ret ≠ .success := by
  unfold mtpUmount unmountDevice at hmem ⊢
  cases hflag : d.isMounted with
  | false => exact ⟨rfl, by simp⟩
  | true =>
    have hret : (s.fusermount env d.mountName).1 ≠ 0 := by
      refine fusermount_stays env s ?_
      simp only [hflag, Bool.true_eq_false, if_false] at hmem
      split at hmem
      · exact hmem
      · exact hmem
    simp [hret]

theorem onDeviceRemove_mounted :
    (onDeviceRemove env s d).state.mounted =
      if d.holds && env.detaches d.mountName then s.mounted.erase d.mountName
      else s.mounted := by
  have hannounced : (if d.isMounted = false then
      s.notify .mtpDevice .removeBeforeMount (some d.address) else s).mounted = s.mounted := by
    split <;> rfl
  unfold onDeviceRemove Storage.holds
  by_cases heject : d.errorReason ≠ .ejected
  · simp only [heject, ne_eq, not_false_eq_true, and_true, if_true, decide_true, Bool.and_true]
    rw [Sys.removeDirRecursive_mounted, mtpUmount_mounted, hannounced]
  · simp only [heject, and_false, if_false, decide_false, Bool.and_false, Bool.false_and,
      Bool.false_eq_true]
    rfl

end MTPDevice

namespace PTPDevice

variable (env : Env) (s : Sys) (d : PTPDevice)

theorem ptpUmount_mounted :
    (ptpUmount env s d).state.mounted =
      if d.isMounted && env.detaches d.mountName then s.mounted.erase d.mountName
      else s.mounted := by
  unfold ptpUmount unmountDevice Env.detaches
  cases hflag : d.isMounted with
  | false => simp [hflag]
  | true =>
    simp only [Bool.true_eq_false, if_false, Bool.true_and, decide_eq_true_eq, hflag]
    rw [← (Sys.fusermount_eq env s d.mountName).2]
    split <;> rfl

/-- The flag is cleared only when nothing is mounted any more. -/
theorem ptpUmount_flag (hmem : d.mountName ∈ (ptpUmount env s d).state.mounted) :
    (ptpUmount env s d).obj.isMounted = d.isMounted ∧ (ptpUmount env s d).ret ≠ .success := by
  unfold ptpUmount unmountDevice at hmem ⊢
  cases hflag : d.isMounted with
  | false => exact ⟨by simp [hflag], by simp [hflag]⟩
  | true =>
    have hret : (s.fusermount env d.mountName).1 ≠ 0 := by
      refine fusermount_stays env s ?_
      simp only [hflag, Bool.true_eq_false, if_false] at hmem
      split at hmem
      · exact hmem
      · exact hmem
    simp [hret, hflag]

theorem onDeviceRemove_mounted :
    (onDeviceRemove env s d).state.mounted =
      if d.holds && env.detaches d.mountName then s.mounted.erase d.mountName
      else s.mounted := by
  unfold onDeviceRemove Storage.holds
  by_cases heject : d.errorReason ≠ .ejected
  · simp only [heject, ne_eq, not_false_eq_true, if_true, decide_true, Bool.and_true]
    rw [Sys.removeDirRecursive_mounted, ptpUmount_mounted]
  · simp only [heject, if_false, decide_false, Bool.and_false, Bool.false_and,
      Bool.false_eq_true]
    rfl

end PTPDevice

/-! ### Uevents -/

/-- A removed device is unmounted if it can be, its root path deleted, and the handler
forgets it. -/
theorem StreamOutcome.removed {α : Type} [IDevice α] {f : α → Storage}
    (hf : ∀ d, base (f d) = base d) {env : Env} {s t : Sys} {l : List α} {joining : Option Joining}
    {devPath : String} {d e : α} (hjoin : joining = none)
    (hfind : getDeviceWithPath l devPath = some d) (haddr : (base e).address = (base d).address)
    (hm : t.mounted = if (f d).holds && env.detaches (f d).mountName then
      s.mounted.erase (f d).mountName else s.mounted)
    (hnext : t.next = s.next)
    (hnot : t.notables = s.notables ++ [⟨.removeDirRecursive (f d).rootPath, t.mounted⟩])
    (deviceType : DeviceEventType) (event : EventType) (device : Option Nat) :
    StreamOutcome env s (l.map f) joining (some (f d)) (t.notify deviceType event device)
      ((removePointer l e).map f) := by
  refine .left (f d) hjoin rfl (List.mem_map_of_mem (List.mem_of_find?_eq_some hfind)) hm ?_ hnext ?_
  · exact (Sys.Adds.deletes hnot).trans ((Sys.Adds.notify _ _ _ _).mono fun r hr => hr.deletes _ _)
  · rw [removePointer_congr l haddr]
    exact removePointer_map hf l d

/-- The device a remove event makes a streaming handler drop. -/
def leaving (l : List Storage) (devClass : DeviceClass) : Option Storage :=
  if devClass.action = "remove" then getDeviceWithPath l devClass.devPath else none

namespace MTPDeviceHandler

/-- The device that an event makes the handler mount. -/
def joining (cfg : Config) (env : Env) (devClass : DeviceClass) (address : Nat) : Option Joining :=
  if adds devClass && devClass.devName ≠ "" then
    let d := described cfg env devClass address
    some ⟨d.toStorage, d.comesUp env devClass.devName, d.comesUp env devClass.devName⟩
  else none

variable (cfg : Config) (env : Env) (s : Sys) (h : MTPDeviceHandler) (devClass : DeviceClass)

theorem described_isMounted (address : Nat) :
    (described cfg env devClass address).isMounted = false := by
  unfold described MTPDevice.setDeviceInfo
  dsimp only
  split
  · split <;> rfl
  · rfl

theorem addMTPDevice_outcome (hname : devClass.devName ≠ "") {l : Option Storage} {j : Joining}
    (hj : j = ⟨(described cfg env devClass s.next).toStorage,
      (described cfg env devClass s.next).comesUp env devClass.devName,
      (described cfg env devClass s.next).comesUp env devClass.devName⟩) :
    StreamOutcome env s (h.mtpList.map (·.toStorage)) (some j) l
      (h.addMTPDevice cfg env s devClass).state
      ((h.addMTPDevice cfg env s devClass).obj.mtpList.map (·.toStorage)) := by
  have haddr : (described cfg env devClass s.next).address = s.next :=
    MTPDevice.setDeviceInfo_address ..
  have hflag := described_isMounted cfg env devClass s.next
  unfold addMTPDevice
  rw [if_neg hname, show (MTPDevice.new s.next devClass.devPath cfg.rootPath).setDeviceInfo env
    devClass = described cfg env devClass s.next from rfl]
  generalize described cfg env devClass s.next = d at *
  dsimp only
  cases hup : d.comesUp env devClass.devName with
  | true =>
    obtain ⟨hobj, hret, hm, hnext, hnot⟩ := MTPDevice.mtpMount_up env s.alloc d hup
    rw [if_pos hret]
    refine .joined j { d.toStorage with errorReason := .nothing, isMounted := true } rfl
      (by rw [hj]; exact hup) (by rw [hj]; exact haddr) (by rw [hj]; rfl) rfl
      (d.comesUp_mountName hup) hm ?_ hnext ?_
    · rw [Sys.notify_notables, if_neg (by simp [Call.notable]), hnot, Sys.alloc_notables]
    · rw [hobj, List.map_append]
      rfl
  | false =>
    obtain ⟨hobj, hret, hm, hnext, hnot⟩ := MTPDevice.mtpMount_down env s.alloc d hup
    rw [if_neg (by rw [hret]; decide), hobj]
    obtain ⟨-, hnext', hnot'⟩ := MTPDevice.onDeviceRemove_keeps env
      (d.mtpMount env s.alloc devClass.devName).state d
    have hm' : (d.onDeviceRemove env (d.mtpMount env s.alloc devClass.devName).state).state.mounted
        = s.mounted := by
      rw [MTPDevice.onDeviceRemove_mounted, if_neg (by simp [Storage.holds, hflag]), hm,
        Sys.alloc_mounted]
    have hdel : Sys.Adds (Deletes d.rootPath s.mounted) s
        (d.mtpMount env s.alloc devClass.devName).state := by
      rcases hnot with hnot | hnot
      · exact Sys.Adds.of_eq hnot
      · refine Sys.Adds.single hnot fun p hp => ?_
        simp only [Call.removeDirRecursive.injEq] at hp
        exact ⟨hp.symm, rfl⟩
    rw [hup] at hj
    subst hj
    refine .failed _ rfl rfl haddr hm' ?_ (by rw [hnext', hnext, Sys.alloc_next]) rfl
    rw [← hm'] at hdel
    exact hdel.trans (Sys.Adds.deletes hnot')

/-- **What the MTP handler does with an event.** -/
theorem HandlerEvent_outcome :
    StreamOutcome env s (h.mtpList.map (·.toStorage)) (joining cfg env devClass s.next)
      (leaving (h.mtpList.map (·.toStorage)) devClass)
      (h.HandlerEvent cfg env s devClass).state
      ((h.HandlerEvent cfg env s devClass).obj.mtpList.map (·.toStorage)) := by
  unfold HandlerEvent leaving joining adds
  by_cases hremove : devClass.action = "remove"
  · have hmap := getDeviceWithPath_map (f := MTPDevice.toStorage) (fun _ => rfl) h.mtpList
      devClass.devPath
    simp only [hremove, true_or, if_true, ProcessMTPDevice, sMapDeviceActions_remove]
    rw [hmap]
    cases hfind : getDeviceWithPath h.mtpList devClass.devPath with
    | none => exact .ignored (by simp) rfl rfl rfl
    | some d =>
      obtain ⟨haddr, hnext, hnot⟩ := d.onDeviceRemove_keeps env s
      exact StreamOutcome.removed (f := MTPDevice.toStorage) (fun _ => rfl) (by simp) hfind haddr
        (d.onDeviceRemove_mounted env s) hnext hnot _ _ _
  · by_cases hplayer : devClass.mediaPlayerId = YES
    · rcases sMapDeviceActions_cases hremove with ⟨hact, hmap⟩ | ⟨hact, hmap, hmap'⟩
      · simp only [hplayer, hact, or_true, if_true, decide_true, Bool.and_self, Bool.true_and]
        rw [if_neg (show ¬ ("add" : String) = "remove" by decide)]
        unfold ProcessMTPDevice
        rw [hmap]
        by_cases hname : devClass.devName = ""
        · simp only [hname, ne_eq, not_true_eq_false, decide_false, Bool.false_eq_true, if_false,
            addMTPDevice, if_true]
          exact .ignored rfl rfl rfl rfl
        · rw [if_pos (by simpa using hname)]
          exact addMTPDevice_outcome cfg env s h devClass hname rfl
      · simp only [hplayer, hact, or_true, if_true, decide_true, decide_false, Bool.and_false,
          Bool.false_and, Bool.false_eq_true, if_false, hremove]
        unfold ProcessMTPDevice
        split
        · contradiction
        · contradiction
        · exact .ignored rfl rfl rfl rfl
    · simp only [hplayer, hremove, or_self, if_false, decide_false, Bool.false_and,
        Bool.false_eq_true]
      exact .ignored rfl rfl rfl rfl

end MTPDeviceHandler

namespace PTPDeviceHandler

/-- The device that an event makes the handler mount, or only delete the root path of. -/
def joining (cfg : Config) (env : Env) (devClass : DeviceClass) (address : Nat) : Option Joining :=
  if adds devClass then
    let d := described cfg env devClass address
    if d.isNumbered then some ⟨d.placed.toStorage, d.placed.helperMounts env, d.comesUp env⟩
    else some ⟨d.toStorage, false, false⟩
  else none

variable (cfg : Config) (env : Env) (s : Sys) (h : PTPDeviceHandler) (devClass : DeviceClass)

theorem described_new (address : Nat) :
    (described cfg env devClass address).address = address ∧
      (described cfg env devClass address).isMounted = false := by
  unfold described PTPDevice.described
  split
  · simp [PTPDevice.new]
  · exact ⟨rfl, rfl⟩

/-- A camera that is not flagged leaves nothing but its root path to delete. -/
theorem dropped_outcome {d : PTPDevice} {t : Sys} {mounts : Bool} {l : List Storage}
    {leave : Option Storage} (haddr : d.address = s.next) (hflag : d.isMounted = false)
    (hm : t.mounted = if mounts then insert d.mountName s.mounted else s.mounted)
    (hnext : t.next = s.next + 1) (hnot : t.notables = s.notables) :
    StreamOutcome env s l (some ⟨d.toStorage, mounts, false⟩) leave (d.onDeviceRemove env t).state
      l := by
  obtain ⟨-, hnext', hnot'⟩ := PTPDevice.onDeviceRemove_keeps env t d
  have hm' : (d.onDeviceRemove env t).state.mounted = t.mounted := by
    rw [PTPDevice.onDeviceRemove_mounted, if_neg (by simp [Storage.holds, hflag])]
  refine .failed _ rfl rfl haddr (hm'.trans hm) ?_ (hnext'.trans hnext) rfl
  exact (Sys.Adds.of_eq hnot).trans (Sys.Adds.deletes hnot')

theorem addPTPDevice_outcome {leave : Option Storage} :
    StreamOutcome env s (h.sList.map (·.toStorage))
      (let d := described cfg env devClass s.next
        if d.isNumbered then some ⟨d.placed.toStorage, d.placed.helperMounts env, d.comesUp env⟩
        else some ⟨d.toStorage, false, false⟩) leave
      (h.addPTPDevice cfg env s devClass).state
      ((h.addPTPDevice cfg env s devClass).obj.sList.map (·.toStorage)) := by
  obtain ⟨haddr, hflag⟩ := described_new cfg env devClass s.next
  unfold addPTPDevice
  dsimp only
  rw [PTPDevice.setDeviceInfo_eq, show (PTPDevice.new s.next devClass.devPath cfg.rootPath).described
    env devClass = described cfg env devClass s.next from rfl]
  generalize described cfg env devClass s.next = d at *
  by_cases hnum : d.isNumbered
  · obtain ⟨hobj, hm, hnext, hnot⟩ := PTPDevice.ptpMount_eq env s.alloc d hnum.2
    unfold PTPDevice.comesUp
    simp only [hnum, if_true, decide_true, Bool.true_and]
    rw [hobj]
    cases hup : d.placed.helperMounts env && PTPDevice.checkDirectory env d.placed.mountName with
    | true =>
      simp only [Bool.and_eq_true] at hup
      rw [if_pos hup.1] at hm
      have hdir : env.dirReady d.placed.mountName = true := by
        have hhelper := hup.1
        unfold PTPDevice.helperMounts at hhelper
        rw [Bool.and_eq_true] at hhelper
        exact hhelper.1
      simp only [if_true]
      refine .joined _ { d.placed.toStorage with isMounted := true, errorReason := .nothing } rfl rfl
        haddr rfl rfl (Env.dirReady_ne_empty hdir) hm ?_ hnext ?_
      · rw [Sys.notify_notables, if_neg (by simp [Call.notable]), hnot, Sys.alloc_notables]
      · rw [List.map_append]
        rfl
    | false =>
      have hdown : d.placed.isMounted = false := hflag
      simp only [Bool.false_eq_true, if_false, hdown]
      exact dropped_outcome env s (d := { d.placed with driveStatus := .mountNotOk }) haddr hflag hm
        hnext hnot
  · simp only [hnum, if_false, hflag, Bool.false_eq_true]
    exact dropped_outcome env s haddr hflag rfl s.alloc_next s.alloc_notables

/-- **What the PTP handler does with an event.** -/
theorem HandlerEvent_outcome :
    StreamOutcome env s (h.sList.map (·.toStorage)) (joining cfg env devClass s.next)
      (leaving (h.sList.map (·.toStorage)) devClass)
      (h.HandlerEvent cfg env s devClass).state
      ((h.HandlerEvent cfg env s devClass).obj.sList.map (·.toStorage)) := by
  have hquiet : adds devClass = false → devClass.action ≠ "remove" →
      StreamOutcome env s (h.sList.map (·.toStorage)) (joining cfg env devClass s.next)
        (leaving (h.sList.map (·.toStorage)) devClass) s (h.sList.map (·.toStorage)) := by
    intro hadds hremove
    exact .ignored (by simp [joining, hadds]) (by simp [leaving, hremove]) rfl rfl
  unfold HandlerEvent
  by_cases hremove : devClass.action = "remove"
  · have hmap := getDeviceWithPath_map (f := PTPDevice.toStorage) (fun _ => rfl) h.sList
      devClass.devPath
    have hjoin : joining cfg env devClass s.next = none := by simp [joining, adds, hremove]
    rw [if_pos hremove, hjoin]
    unfold leaving
    rw [if_pos hremove, hmap]
    unfold ProcessPTPDevice
    rw [hremove, sMapDeviceActions_remove]
    cases hfind : getDeviceWithPath h.sList devClass.devPath with
    | none => exact .ignored rfl rfl rfl rfl
    | some d =>
      obtain ⟨haddr, hnext, hnot⟩ := d.onDeviceRemove_keeps env s
      exact StreamOutcome.removed (f := PTPDevice.toStorage) (fun _ => rfl) rfl hfind haddr
        (d.onDeviceRemove_mounted env s) hnext hnot _ _ _
  · rw [if_neg hremove]
    by_cases hadds : adds devClass = true
    · have hprocess : h.ProcessPTPDevice cfg env s devClass = h.addPTPDevice cfg env s devClass := by
        unfold adds at hadds
        simp only [Bool.and_eq_true, decide_eq_true_eq] at hadds
        unfold ProcessPTPDevice
        rw [hadds.2, sMapDeviceActions_add]
      have hadd : StreamOutcome env s (h.sList.map (·.toStorage)) (joining cfg env devClass s.next)
          (leaving (h.sList.map (·.toStorage)) devClass) (h.addPTPDevice cfg env s devClass).state
          ((h.addPTPDevice cfg env s devClass).obj.sList.map (·.toStorage)) := by
        unfold joining
        rw [if_pos hadds]
        exact addPTPDevice_outcome cfg env s h devClass
      unfold adds at hadds
      simp only [Bool.and_eq_true, Bool.or_eq_true, decide_eq_true_eq] at hadds
      obtain ⟨⟨⟨hclass, hplayer⟩, hsub⟩, -⟩ := hadds
      rw [if_neg (by rw [hclass]; decide)]
      by_cases husb : devClass.devType = USB_DEVICE
      · rw [if_pos ⟨husb, hplayer⟩, hprocess]
        exact hadd
      · rw [if_neg fun h => husb h.1, if_pos ⟨hsub.resolve_left husb, hplayer⟩, hprocess]
        exact hadd
    · rw [Bool.not_eq_true] at hadds
      have hprocess : devClass.action ≠ "add" → h.ProcessPTPDevice cfg env s devClass = ⟨s, h, ()⟩ := by
        intro hact
        unfold ProcessPTPDevice
        split
        · exact absurd (sMapDeviceActions_eq_add.mp ‹_›) hact
        · exact absurd ‹_› (sMapDeviceActions_ne_remove hremove)
        · rfl
      split
      · exact hquiet hadds hremove
      · rename_i hclass
        rw [Bool.not_eq_false] at hclass
        split
        · rename_i husb
          rw [hprocess fun hact => by simp [adds, hclass, husb, hact] at hadds]
          exact hquiet hadds hremove
        · split
          · rename_i hsub
            rw [hprocess fun hact => by simp [adds, hclass, hsub, hact] at hadds]
            exact hquiet hadds hremove
          · exact hquiet hadds hremove

end PTPDeviceHandler

/-! ### Commands and plugin events -/

/-- An eject is the only command that these handlers have. -/
theorem streamingReply_kept {α : Type} [IDevice α] {f : α → Storage} (hf : ∀ d, base (f d) = base d)
    {eject : Sys → α → Out α PdmDevStatus}
    (heject : ∀ s d, StreamOp s (f d) (eject s d).state (f (eject s d).obj)) (s : Sys)
    {sList : List α} (hnodup : ((sList.map f).map (·.address)).Nodup) (deviceNumber : Int)
    (deviceType : DeviceEventType) :
    StreamKept s (sList.map f) (streamingReply s sList deviceNumber deviceType eject).state
      ((streamingReply s sList deviceNumber deviceType eject).obj.map f) := by
  unfold streamingReply
  cases hfind : getDeviceWithNum sList deviceNumber with
  | none => exact StreamKept.refl s _
  | some d =>
    dsimp only
    rw [writeBack_map hf]
    exact (StreamKept.write hnodup (List.mem_map_of_mem (List.mem_of_find?_eq_some hfind))
      (heject s d)).andThen _ _ _

theorem shrunk_of_erase {c : Bool} {K K' : Finset String} {m : String}
    (h : K' = if c then K.erase m else K) : K' ⊆ K := by
  rw [h]
  split
  · exact Finset.erase_subset _ _
  · exact Finset.Subset.refl _

namespace MTPDevice

variable (env : Env) (s : Sys) (d : MTPDevice)

theorem mtpUmount_op : StreamOp s d.toStorage (mtpUmount env s d).state
    (mtpUmount env s d).obj.toStorage := by
  obtain ⟨hobj, hnext, hnot⟩ := mtpUmount_keeps env s d
  refine ⟨?_, hnext, hnot, shrunk_of_erase (mtpUmount_mounted env s d), fun hm hflag => ?_⟩
  · rw [hobj]
    rfl
  · rw [(mtpUmount_flag env s d hm).1]
    exact hflag

theorem eject_op : StreamOp s d.toStorage (eject env s d).state (eject env s d).obj.toStorage := by
  have hop := mtpUmount_op env s d
  unfold eject
  dsimp only
  split
  · rename_i hret
    exact ⟨hop.seat, hop.next, hop.quiet, hop.shrunk,
      fun hm _ => absurd hret (mtpUmount_flag env s d hm).2⟩
  · exact hop

end MTPDevice

namespace PTPDevice

variable (env : Env) (s : Sys) (d : PTPDevice)

theorem ptpUmount_op : StreamOp s d.toStorage (ptpUmount env s d).state
    (ptpUmount env s d).obj.toStorage := by
  obtain ⟨hobj, hnext, hnot⟩ := ptpUmount_keeps env s d
  refine ⟨?_, hnext, hnot, shrunk_of_erase (ptpUmount_mounted env s d), fun hm hflag => ?_⟩
  · rw [hobj]
    rfl
  · have hkeep := (ptpUmount_flag env s d hm).1
    rw [hobj]
    unfold Storage.holds at hflag ⊢
    dsimp only
    rw [hkeep]
    exact hflag

theorem eject_op : StreamOp s d.toStorage (eject env s d).state (eject env s d).obj.toStorage := by
  have hop := ptpUmount_op env s d
  unfold eject
  dsimp only
  split
  · rename_i hret
    exact ⟨hop.seat, hop.next, hop.quiet, hop.shrunk,
      fun hm _ => absurd hret (ptpUmount_flag env s d hm).2⟩
  · exact hop

/-- The unmount before a suspend writes nothing to the device. -/
theorem umountDrive_op : StreamOp s d.toStorage (PTPDeviceHandler.umountDrive env s d).state
    (PTPDeviceHandler.umountDrive env s d).obj.toStorage := by
  unfold PTPDeviceHandler.umountDrive unmountDevice
  cases d.isMounted with
  | false => exact ⟨rfl, rfl, rfl, Finset.Subset.refl _, fun _ h => h⟩
  | true =>
    refine ⟨rfl, by simp, by simp, ?_, fun _ h => h⟩
    have hm := (Sys.fusermount_eq env s d.mountName).2
    dsimp only
    simp only [Bool.true_eq_false, if_false]
    rw [hm]
    split
    · exact Finset.erase_subset _ _
    · exact Finset.Subset.refl _

end PTPDevice

theorem MTPDeviceHandler.HandlerCommand_kept (env : Env) (s : Sys) {h : MTPDeviceHandler}
    (hnodup : ((h.mtpList.map (·.toStorage)).map (·.address)).Nodup) (cmdtypes : CommandType) :
    StreamKept s (h.mtpList.map (·.toStorage)) (h.HandlerCommand env s cmdtypes).state
      ((h.HandlerCommand env s cmdtypes).obj.mtpList.map (·.toStorage)) := by
  cases cmdtypes with
  | eject deviceNumber =>
    exact streamingReply_kept (f := MTPDevice.toStorage) (fun _ => rfl) (MTPDevice.eject_op env) s
      hnodup deviceNumber _
  | _ => exact StreamKept.refl s _

theorem PTPDeviceHandler.HandlerCommand_kept (env : Env) (s : Sys) {h : PTPDeviceHandler}
    (hnodup : ((h.sList.map (·.toStorage)).map (·.address)).Nodup) (cmdtypes : CommandType) :
    StreamKept s (h.sList.map (·.toStorage)) (h.HandlerCommand env s cmdtypes).state
      ((h.HandlerCommand env s cmdtypes).obj.sList.map (·.toStorage)) := by
  cases cmdtypes with
  | eject deviceNumber =>
    exact streamingReply_kept (f := PTPDevice.toStorage) (fun _ => rfl) (PTPDevice.eject_op env) s
      hnodup deviceNumber _
  | _ => exact StreamKept.refl s _

theorem MTPDeviceHandler.HandlePluginEvent_kept (env : Env) (s : Sys) (h : MTPDeviceHandler)
    (eventType : PluginEvent) :
    StreamKept s (h.mtpList.map (·.toStorage)) (h.HandlePluginEvent env s eventType).state
      ((h.HandlePluginEvent env s eventType).obj.mtpList.map (·.toStorage)) := by
  have hloop := StreamKept.loop (f := MTPDevice.toStorage) (MTPDevice.mtpUmount_op env) h.mtpList s
  cases eventType with
  | powerProcessRequestUmountAll => exact hloop
  | powerProcessPrepareSuspend => exact hloop
  | powerProcessRequestSuspend => exact StreamKept.map s _ fun d => ⟨rfl, rfl⟩
  | powerProcessPrepareResume => exact StreamKept.map s _ fun d => ⟨rfl, rfl⟩
  | _ => exact StreamKept.refl s _

theorem PTPDeviceHandler.HandlePluginEvent_kept (env : Env) (s : Sys) (h : PTPDeviceHandler)
    (eventType : PluginEvent) :
    StreamKept s (h.sList.map (·.toStorage)) (h.HandlePluginEvent env s eventType).state
      ((h.HandlePluginEvent env s eventType).obj.sList.map (·.toStorage)) := by
  have hloop := StreamKept.loop (f := PTPDevice.toStorage) (PTPDevice.umountDrive_op env) h.sList s
  cases eventType with
  | powerProcessRequestUmountAll => exact hloop
  | powerProcessPrepareSuspend => exact hloop
  | powerProcessRequestSuspend => exact StreamKept.map s _ fun d => ⟨rfl, rfl⟩
  | powerProcessPrepareResume => exact StreamKept.map s _ fun d => ⟨rfl, rfl⟩
  | _ => exact StreamKept.refl s _

end Pdm
