/-
The list is posted in the steps in which the handler notifies.

`StorageSystem.posts` follows each method to its last post.  That it does so where the
methods notify, and only there, is `posts_iff`: a step posts a list exactly when a
notification on its record does.
-/
import Pdm.Proofs.DeviceSignals
import Pdm.Proofs.ShownCommands

namespace Pdm

open Visit (visit)
open StorageDevice StorageDeviceHandler

namespace StorageDevice

variable (env : Env) (s : Sys) (d : StorageDevice)

theorem setDeviceInfoPosts_iff (devClass : DeviceClass) :
    (d.setDeviceInfoPosts env s devClass).isSome = true ↔ d.said env devClass ≠ [] := by
  have hsaid : d.said env devClass ≠ [] ↔
      d.announces env devClass = true ∨ d.DropsParts env devClass := by
    rw [said_eq, Ne, List.append_eq_nil_iff, not_and_or]
    refine or_congr ?_ ?_
    · unfold added
      cases d.announces env devClass <;> simp
    · by_cases hdrops : d.DropsParts env devClass <;> simp [hdrops]
  rw [hsaid]
  cases setDeviceInfo_shown env s d devClass with
  | dropped hdrops hposts hobj =>
    obtain ⟨e, he, -⟩ := hposts
    rw [he]
    exact iff_of_true rfl (Or.inr hdrops)
  | announced e hannounces hposts hparts hshown =>
    rw [hposts]
    exact iff_of_true rfl (Or.inl hannounces)
  | added hquiet hjoins hposts hlength =>
    rw [hposts]
    refine iff_of_false (by simp) (not_or.mpr ⟨by simp [hquiet], fun h => ?_⟩)
    exact not_joins_of_drops env d devClass h hjoins
  | kept hdrops hjoins hposts hlist hface =>
    rw [hposts]
    refine iff_of_false (by simp) (not_or.mpr ⟨fun h => ?_, hdrops⟩)
    exact hjoins (joins_of_announces env d devClass h)

/-- Formatting notifies once the partition is free. -/
theorem formatOn_posts_iff (p : DiskPartitionInfo) (fsType label : String) :
    (d.formatOnPosts env s p fsType label).isSome = true ↔
      (formatOn env s d p fsType label).state.posts ≠ s.posts := by
  have humount := umountPartition_posts env s p false
  have hadds : ∀ (t : Sys) (event : EventType) (device : Option Nat),
      ∃ bs, (handlerCb t event device).posts = t.posts ++ bs := fun t event device =>
    ⟨_, handlerCb_posts t event device⟩
  unfold formatOnPosts formatOn
  by_cases hreadOnly : d.isReadOnly = true
  · rw [if_pos hreadOnly, if_pos hreadOnly]
    exact iff_of_false (by simp) (not_not_intro rfl)
  · rw [if_neg hreadOnly, if_neg hreadOnly]
    dsimp only
    by_cases hfree : (umountPartition env s p false).ret = .success
    · rw [if_neg (not_not_intro hfree), if_neg (not_not_intro hfree)]
      have hstarted : (handlerCb (umountPartition env s p false).state .formatStarted
          (some p.address)).posts = s.posts ++ [(.formatStarted, some p.address)] := by
        rw [handlerCb_posts, if_pos (by decide), humount]
      have hformat := formatFs_posts env (handlerCb (umountPartition env s p false).state
        .formatStarted (some p.address)) (umountPartition env s p false).obj fsType label
      rw [hstarted] at hformat
      generalize PdmFs.format env _ (umountPartition env s p false).obj fsType label = f
        at hformat
      have hmount : (if f.ret = .success then mountPartition env f.state f.obj false
          else f).state.posts = s.posts ++ [(.formatStarted, some p.address)] := by
        split
        · rw [mountPartition_posts, hformat]
        · exact hformat
      generalize (if f.ret = .success then mountPartition env f.state f.obj false else f) = m
        at hmount
      have hlonger : ∀ event : EventType,
          (handlerCb m.state event (some p.address)).posts ≠ s.posts := by
        intro event heq
        obtain ⟨bs, hbs⟩ := hadds m.state event (some p.address)
        rw [hbs, hmount, List.append_assoc, List.append_right_eq_self] at heq
        exact absurd heq (by simp)
      split
      · exact iff_of_true rfl (hlonger .formatSuccess)
      · exact iff_of_true rfl (hlonger .formatFail)
    · rw [if_pos hfree, if_pos hfree]
      exact iff_of_false (by simp) (not_not_intro humount)

end StorageDevice

namespace StorageDeviceHandler

variable (cfg : Config) (env : Env) {s : Sys} (hclear : s.posts = []) (h : StorageDeviceHandler)

include hclear

theorem HandlerEventPosts_iff (devClass : DeviceClass) :
    (h.HandlerEventPosts cfg env s devClass).isSome = true ↔
      (h.HandlerEvent cfg env s devClass).state.posts ≠ [] := by
  by_cases hremove : devClass.action = "remove"
  · unfold HandlerEventPosts HandlerEvent deleteStorageDevice
    rw [if_pos hremove, if_pos hremove]
    cases hfound : removedDevice h devClass with
    | none => exact iff_of_false (by simp) (not_not_intro hclear)
    | some d =>
      have hsent := (onDeviceRemove_sends env s d).1.posts
      have hnotified := StorageSystem.onDeviceRemove_notified env s d
      dsimp only
      unfold dropStorageDevice removeDevice
      dsimp only
      rw [hclear, List.nil_append] at hsent
      by_cases hgone : (onDeviceRemove env s d).obj.isDevAddEventNotified = true
      · rw [if_pos hgone, if_pos hgone]
        refine iff_of_true rfl ?_
        rw [Sys.notify_posts, if_pos (by decide)]
        simp
      · rw [if_neg hgone, if_neg hgone, hsent]
        rw [hnotified, Bool.or_eq_true, not_or] at hgone
        refine iff_of_false (by simp) (not_not_intro ?_)
        unfold added
        rw [if_neg hgone.2]
  · have htold : ∀ (t : Sys) (d : StorageDevice), t.posts = [] →
        ((d.setDeviceInfoPosts env t devClass).isSome = true ↔
          (setDeviceInfo env t d devClass).state.posts ≠ []) := by
      intro t d ht
      rw [setDeviceInfoPosts_iff, (setDeviceInfo_sends env t d devClass).posts, ht, List.nil_append]
    unfold HandlerEventPosts
    rw [if_neg hremove]
    cases HandlerEvent_outcome cfg env s h devClass with
    | ignored htarget hs hl =>
      rw [htarget, HandlerEvent_nobody cfg env s h devClass htarget fun h => absurd h hremove]
      exact iff_of_false (by simp) (not_not_intro hclear)
    | handed d htarget hmem ht hl =>
      rw [htarget, ht]
      dsimp only
      rw [Option.isSome_map]
      exact htold s d hclear
    | created reader htarget ht hl =>
      rw [htarget, ht]
      dsimp only
      rw [Option.isSome_map]
      exact htold s.alloc _ hclear
    | dropped d hgone hfound ht hl => exact absurd hgone hremove

/-- A method that posts nothing, on the device a command finds. -/
theorem onDevice_quiet {found : Option StorageDevice}
    {method : Sys → StorageDevice → Out StorageDevice PdmDevStatus} {notFound : PdmDevStatus}
    (hmethod : ∀ d, (method s d).state.posts = s.posts) :
    (onDevice s h found method notFound).state.posts = [] := by
  unfold onDevice
  cases found with
  | none => exact hclear
  | some d => exact (hmethod d).trans hclear

theorem HandlerCommandPosts_iff (cmdtypes : CommandType) :
    (h.HandlerCommandPosts env s cmdtypes).isSome = true ↔
      (h.HandlerCommand env s cmdtypes).state.posts ≠ [] := by
  cases cmdtypes with
  | format driveName fsType volumeLabel =>
    show ((getDeviceWithName h.storageList driveName).bind _).isSome = true ↔
      (onDevice s h (getDeviceWithName h.storageList driveName) _ _).state.posts ≠ []
    unfold onDevice
    cases getDeviceWithName h.storageList driveName with
    | none => exact iff_of_false (by simp) (not_not_intro hclear)
    | some d =>
      dsimp only
      rw [Option.bind_some, Option.isSome_map]
      unfold formatDiskStartPosts formatDiskStart
      cases d.findPartition driveName with
      | none => exact iff_of_false (by simp) (not_not_intro hclear)
      | some p =>
        have hformat := formatOn_posts_iff env s d p fsType volumeLabel
        rw [hclear] at hformat
        exact hformat
  | eject deviceNumber =>
    show ((getDeviceWithNum h.storageList deviceNumber).bind _).isSome = true ↔
      (onDevice s h (getDeviceWithNum h.storageList deviceNumber) _ _).state.posts ≠ []
    unfold onDevice
    cases getDeviceWithNum h.storageList deviceNumber with
    | none => exact iff_of_false (by simp) (not_not_intro hclear)
    | some d =>
      refine iff_of_true rfl ?_
      dsimp only
      rw [Sys.notify_posts, if_pos (by decide)]
      simp
  | umountAllDrive =>
    show (if h.storageList = [] then none else some _ : Option (List StorageDevice)).isSome = true ↔
      (h.umountAllDrive env s).state.posts ≠ []
    unfold umountAllDrive
    by_cases hempty : h.storageList = []
    · rw [if_pos hempty, if_pos hempty]
      exact iff_of_false (by simp) (not_not_intro hclear)
    · rw [if_neg hempty, if_neg hempty]
      refine iff_of_true rfl ?_
      dsimp only
      rw [Sys.notify_posts, if_pos (by decide)]
      simp
  | fsck driveName =>
    refine iff_of_false (by simp [HandlerCommandPosts]) (not_not_intro ?_)
    refine onDevice_quiet hclear h fun d => ?_
    unfold StorageDevice.fsck
    cases d.findPartition (removeBlanks driveName) with
    | none => rfl
    | some p => exact fsckOn_posts env s p d
  | setVolumeLabel driveName volumeLabel =>
    refine iff_of_false (by simp [HandlerCommandPosts]) (not_not_intro ?_)
    refine onDevice_quiet hclear h fun d => ?_
    unfold setPartitionVolumeLabel
    cases d.findPartition driveName with
    | none => rfl
    | some p => exact setVolumeLabelFs_posts env s p volumeLabel
  | mountFsck needFsck mountName =>
    refine iff_of_false (by simp [HandlerCommandPosts]) (not_not_intro ?_)
    exact onDevice_quiet hclear h fun d => enforceFsckAndMount_posts env s d needFsck
  | isWritableDrive driveName =>
    refine iff_of_false (by simp [HandlerCommandPosts]) (not_not_intro ?_)
    show (h.isWritableDrive env s driveName).state.posts = []
    unfold isWritableDrive
    cases getDeviceWithName h.storageList driveName with
    | none => exact hclear
    | some d =>
      exact (StorageDevice.isWritable_posts env s d driveName).trans hclear
  | spaceInfo directCheck driveName =>
    refine iff_of_false (by simp [HandlerCommandPosts]) (not_not_intro ?_)
    show (h.getSpaceInfo env s directCheck driveName).state.posts = []
    unfold StorageDeviceHandler.getSpaceInfo
    cases getDeviceWithName h.storageList driveName with
    | none => exact hclear
    | some d =>
      dsimp only
      split
      · exact hclear
      · exact hclear
  | other => exact iff_of_false (by simp [HandlerCommandPosts]) (not_not_intro hclear)

theorem HandlePluginEventPosts_iff (eventType : PluginEvent) :
    (h.HandlePluginEventPosts env s eventType).isSome = true ↔
      (h.HandlePluginEvent env s eventType).state.posts ≠ [] := by
  have hloop : ∀ (lazyUnmount : Bool) (l : List StorageDevice) (t : Sys) (ret : Bool),
      (umountAllDriveLoop env lazyUnmount t ret l).2.posts = t.posts := by
    intro lazyUnmount l
    induction l with
    | nil => intro t ret; rfl
    | cons d ds ih =>
        intro t ret
        unfold umountAllDriveLoop
        dsimp only
        rw [ih]
        exact suspendUmountLoop_posts env lazyUnmount _ _ _
  cases eventType with
  | powerProcessPrepareResume =>
    refine iff_of_true rfl ?_
    show ((visit _ s h.storageList).state.notify .storageDevice .add none).posts ≠ []
    rw [Sys.notify_posts, if_pos (by decide)]
    simp
  | powerProcessRequestUmountAll =>
    exact iff_of_false (by simp [HandlePluginEventPosts])
      (not_not_intro ((hloop false h.storageList s true).trans hclear))
  | powerProcessPrepareSuspend =>
    exact iff_of_false (by simp [HandlePluginEventPosts])
      (not_not_intro ((hloop true h.storageList s true).trans hclear))
  | _ => exact iff_of_false (by simp [HandlePluginEventPosts]) (not_not_intro hclear)

theorem runFsckThreadPosts_iff (address partition : Nat) :
    (h.runFsckThreadPosts env s address partition).isSome = true ↔
      (h.runFsckThread env s address partition).state.posts ≠ [] := by
  unfold runFsckThreadPosts runFsckThread deviceTask
  cases h.storageList.find? (·.address = address) with
  | none => exact iff_of_false (by simp) (not_not_intro hclear)
  | some d =>
    dsimp only
    by_cases hmem : partition ∈ d.fsckThreadArray
    · rw [if_pos hmem, if_pos hmem, Option.isSome_map]
      have hannounced := (fsckOnDeviceAddThread_posted env s
        { d with fsckThreadArray := d.fsckThreadArray.erase partition } partition).announced
      have hsent := (fsckOnDeviceAddThread_sends env s
        { d with fsckThreadArray := d.fsckThreadArray.erase partition } partition).posts
      rw [hannounced, hsent, hclear, List.nil_append]
      unfold added
      split
      · rename_i hends
        exact iff_of_true hends (by simp)
      · rename_i hends
        exact iff_of_false hends (not_not_intro rfl)
    · rw [if_neg hmem, if_neg hmem]
      exact iff_of_false (by simp) (not_not_intro hclear)

end StorageDeviceHandler

/-- **A step posts a list exactly when a notification on its record does.** -/
theorem StorageSystem.posts_iff (cfg : Config) (w : StorageSystem) (i : Env × StorageInput) :
    (w.posts cfg i).isSome = true ↔ (w.step cfg i).sys.posts ≠ [] := by
  obtain ⟨env, input⟩ := i
  have hclear : w.clear.sys.posts = [] := rfl
  cases input with
  | uevent devClass => exact HandlerEventPosts_iff cfg env hclear w.storage devClass
  | command cmdtypes => exact HandlerCommandPosts_iff env hclear w.storage cmdtypes
  | pluginEvent eventType => exact HandlePluginEventPosts_iff env hclear w.storage eventType
  | fsckThread device partition => exact runFsckThreadPosts_iff env hclear w.storage device partition
  | timeout device =>
    refine iff_of_false (by simp [posts]) (not_not_intro ?_)
    show (w.storage.runTimeout w.clear.sys device).state.posts = []
    unfold runTimeout deviceTask
    cases w.storage.storageList.find? (·.address = device) with
    | none => rfl
    | some d =>
      dsimp only
      split
      · exact notifyStorageConnecting_posts ..
      · rfl

end Pdm
