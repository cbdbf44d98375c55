/-
A check in two halves.

Put together again the halves are the whole of `fsckOnDeviceAddThread`.  Taken apart, each
keeps the ties of the device, as long as the partition is not flagged when it begins; and
the outstanding checks stay in order when one begins and when one ends.  A command that is
between its unmount and its tool counts as one of them.
-/
import Pdm.Proofs.OutstandingChecks

namespace Pdm

namespace StorageDevice

variable (env : Env) (s : Sys) (d : StorageDevice) {p q : DiskPartitionInfo}

theorem partitionAt_of_mem (hp : p ∈ d.diskPartitionList) (hnodup : d.addresses.Nodup)
    (freed : DiskPartitionInfo) : d.partitionAt p.address freed = p := by
  unfold partitionAt
  rw [Keyed.find?_key (fun x : DiskPartitionInfo => x.address) hnodup hp]
  rfl

/-- A check that is called and answered at once is the whole of `fsckOnDeviceAddThread`. -/
theorem checkEnds_checkBegins (hp : p ∈ d.diskPartitionList) (hnodup : d.addresses.Nodup)
    (freed : DiskPartitionInfo) :
    checkEnds env (checkBegins s d p.address freed).1 (checkBegins s d p.address freed).2
        p.address freed =
      fsckOnDeviceAddThread env s d p.address := by
  have hcall : (PdmFs.fsckCall (handlerCb s .fsckStarted none) p).2.address = p.address := rfl
  have hmem : (PdmFs.fsckCall (handlerCb s .fsckStarted none) p).2 ∈
      (d.setPartition (PdmFs.fsckCall (handlerCb s .fsckStarted none) p).2).diskPartitionList := by
    rw [setPartition_list]
    exact List.mem_map.mpr ⟨p, hp, if_pos hcall.symm⟩
  have hset : Quiet [] d (d.setPartition (PdmFs.fsckCall (handlerCb s .fsckStarted none) p).2) :=
    Quiet.set hp hcall fun h _ => h
  have hat := partitionAt_of_mem _ hmem (by rw [hset.addresses]; exact hnodup) freed
  rw [hcall] at hat
  have haddr := address_of_ident (fsckPartition_op env s p PdmFsck.AUTO).ident
  unfold fsckOnDeviceAddThread fsckPartitionAt checkEnds checkBegins
  rw [partitionAt_of_mem d hp hnodup,
    Keyed.find?_key (fun x : DiskPartitionInfo => x.address) hnodup hp]
  dsimp only
  rw [hat]
  exact congrArg (storageDeviceFsckNotification _)
    (setPartition_setPartition d (haddr.trans hcall.symm))

/-! ### Ties -/

/-- What the checker's answer makes of a partition. -/
theorem fsckAnswer_keeps {x g : Prop} (htie : Tie x s.mounted p) (hflag : p.mounted = false)
    (fsckMode : String) :
    KeepsTie x g s p (PdmFs.fsckAnswer env s p fsckMode).state
        (PdmFs.fsckAnswer env s p fsckMode).obj ∧
      (PdmFs.fsckAnswer env s p fsckMode).obj.mounted = false := by
  have hstate := fsck_state env s fsckMode p.fsType p.driveName
  have hs : Untouched s (PdmFsck.fsck env s fsckMode p.fsType p.driveName).2 :=
    ⟨hstate.1, hstate.2.1, hstate.2.2⟩
  unfold PdmFs.fsckAnswer
  dsimp only
  split
  · exact ⟨KeepsTie.of_untouched hs rfl hflag.symm htie, rfl⟩
  · exact ⟨KeepsTie.of_untouched hs rfl rfl htie, hflag⟩

section Threads

variable {x g : Prop} {d} (hr : Ready x s d) (hp : p ∈ d.diskPartitionList)
include hr hp

/-- A thread calls the checker for a partition that is not flagged. -/
theorem checkBegins_keeps (hflag : p.mounted = false) (freed : DiskPartitionInfo) :
    Keeps x g s d (checkBegins s d p.address freed).1 (checkBegins s d p.address freed).2 := by
  have htie := hr.ties p hp
  have hstart : KeepsTie x g s p (handlerCb s .fsckStarted none) p :=
    KeepsTie.of_untouched (handlerCb_untouched s .fsckStarted none (Or.inr rfl)) rfl rfl htie
  have hcall : (PdmFs.fsckCall (handlerCb s .fsckStarted none) p).1.notables =
      (handlerCb s .fsckStarted none).notables ++
        [⟨.fsck p.driveName p.mountName, (handlerCb s .fsckStarted none).mounted⟩] := by
    unfold PdmFs.fsckCall
    simp [Sys.record_notables, Call.notable]
  unfold checkBegins
  rw [partitionAt_of_mem d hp hr.nodup]
  refine Keeps.part hr (hstart.trans ⟨⟨rfl, rfl, Sys.SameOutside.of_eq rfl, ?_⟩, ?_, fun _ => ?_⟩) hp
  · exact Sys.Adds.single hcall (Or.inr rfl)
  · exact hstart.tie.congr rfl rfl Iff.rfl
  · refine Sys.Adds.single hcall ?_
    rintro driveName mountName (heq | heq)
    · exact absurd heq (by simp)
    · obtain ⟨-, rfl⟩ : p.driveName = driveName ∧ p.mountName = mountName := by simpa using heq
      intro hmem
      rw [hstart.tie.seen hmem] at hflag
      exact absurd hflag (by decide)

/-- A thread has its answer for a partition that is not flagged. -/
theorem checkEnds_keeps (hflag : p.mounted = false) (freed : DiskPartitionInfo) :
    Keeps x g s d (checkEnds env s d p.address freed).state
      (checkEnds env s d p.address freed).obj := by
  obtain ⟨hanswer, hdown⟩ := fsckAnswer_keeps (g := g) env s (hr.ties p hp) hflag PdmFsck.AUTO
  unfold checkEnds
  rw [partitionAt_of_mem d hp hr.nodup]
  dsimp only
  generalize PdmFs.fsckAnswer env s p PdmFsck.AUTO = f at hanswer hdown ⊢
  generalize hm : (if f.ret = .success then mountPartition env f.state f.obj false else f) = m
  have hmkeep : KeepsTie x g s p m.state m.obj := by
    rw [← hm]
    split
    · refine hanswer.trans (mountPartition_keeps env f.state f.obj fun hmem => ?_)
      rw [hanswer.tie.seen hmem] at hdown
      exact absurd hdown (by decide)
    · exact hanswer
  have hpart := Keeps.part hr (hmkeep.trans (KeepsTie.of_untouched
    (handlerCb_untouched m.state .fsckFinished none (Or.inr rfl)) rfl rfl hmkeep.tie)) hp
  exact hpart.trans (Keeps.of_untouched (hpart.ready hr) ⟨by simp, by simp, by simp⟩ (by simp)
    (by simp))

end Threads

/-! ### What is outstanding -/

section Outstanding

variable {d} {checking checking' : List (Nat × Nat)} {a : Nat} (h : Orderly checking d)
include h

/-- Checks of other devices begin and end. -/
theorem Orderly.others (hmem : ∀ b, (d.address, b) ∈ checking' ↔ (d.address, b) ∈ checking) :
    Orderly checking' d := by
  have hiff : ∀ b, d.Outstanding checking' b ↔ d.Outstanding checking b :=
    fun b => or_congr_right (hmem b)
  exact ⟨fun p hp hout => h.idle p hp ((hiff _).mp hout), fun b hout => h.known b ((hiff b).mp hout),
    h.nodup, fun b hb => fun hunder => h.apart b hb ((hmem b).mp hunder)⟩

/-- A thread that was started calls the checker. -/
theorem Orderly.begins (ha : a ∈ d.fsckThreadArray)
    (hmem : ∀ c, c ∈ checking' ↔ c ∈ checking ∨ c = (d.address, a)) :
    Orderly checking' { d with fsckThreadArray := d.fsckThreadArray.erase a } := by
  have hout : ∀ b, ({ d with fsckThreadArray := d.fsckThreadArray.erase a } : StorageDevice).Outstanding
      checking' b → d.Outstanding checking b := by
    rintro b (hb | hb)
    · exact Or.inl (List.mem_of_mem_erase hb)
    · rcases (hmem _).mp hb with hb | heq
      · exact Or.inr hb
      · obtain rfl : b = a := (Prod.mk.inj heq).2
        exact Or.inl ha
  refine ⟨fun p hp hp' => h.idle p hp (hout _ hp'), fun b hb => h.known b (hout b hb),
    h.nodup.erase a, fun b hb hunder => ?_⟩
  rcases (hmem _).mp hunder with hold | heq
  · exact h.apart b (List.mem_of_mem_erase hb) hold
  · obtain rfl : b = a := (Prod.mk.inj heq).2
    exact h.nodup.not_mem_erase hb

/-- A partition that is not flagged is taken to be worked on. -/
theorem Orderly.takes (hp : p ∈ d.diskPartitionList) (hnodup : d.addresses.Nodup)
    (hflag : p.mounted = false) (hnot : ¬ d.Outstanding checking p.address)
    (hmem : ∀ c, c ∈ checking' ↔ c ∈ checking ∨ c = (d.address, p.address)) :
    Orderly checking' d := by
  have hout : ∀ b, d.Outstanding checking' b → d.Outstanding checking b ∨ b = p.address := by
    rintro b (hb | hb)
    · exact Or.inl (Or.inl hb)
    · exact ((hmem _).mp hb).imp Or.inr fun heq => (Prod.mk.inj heq).2
  refine ⟨fun q hq hq' => ?_, fun b hb => ?_, h.nodup, fun b hb hunder => ?_⟩
  · rcases hout _ hq' with hold | heq
    · exact h.idle q hq hold
    · rw [List.inj_on_of_nodup_map hnodup hq hp heq]
      exact hflag
  · rcases hout b hb with hold | rfl
    · exact h.known b hold
    · exact List.mem_map_of_mem hp
  · rcases (hmem _).mp hunder with hold | heq
    · exact h.apart b hb hold
    · obtain rfl : b = p.address := (Prod.mk.inj heq).2
      exact hnot (Or.inl hb)

/-- A check ends. -/
theorem Orderly.ends (hunder : (d.address, a) ∈ checking)
    (hmem : ∀ c, c ∈ checking' ↔ c ∈ checking ∧ c ≠ (d.address, a)) :
    Orderly checking' d ∧ ¬ d.Outstanding checking' a := by
  have hout : ∀ b, d.Outstanding checking' b → d.Outstanding checking b :=
    fun b hb => hb.imp_right fun hb => ((hmem _).mp hb).1
  refine ⟨⟨fun p hp hp' => h.idle p hp (hout _ hp'), fun b hb => h.known b (hout b hb), h.nodup,
    fun b hb hb' => h.apart b hb ((hmem _).mp hb').1⟩, ?_⟩
  rintro (hb | hb)
  · exact h.apart a hb hunder
  · exact ((hmem _).mp hb).2 rfl

end Outstanding

/-- The mount that follows a success is of the same partition. -/
theorem mountAfter_address (f : Out DiskPartitionInfo PdmDevStatus) (hf : f.obj.address = p.address) :
    (if f.ret = .success then mountPartition env f.state f.obj false else f).obj.address =
      p.address := by
  split
  · exact (address_of_ident (mountPartition_op env f.state f.obj false).ident).trans hf
  · exact hf

theorem storageDeviceFsckNotification_quiet {checking : List (Nat × Nat)} :
    Quiet checking d (storageDeviceFsckNotification s d).obj := by
  refine Quiet.of_list (address_of_core (storageDeviceFsckNotification_core s d)) ?_
    (storageDeviceFsckNotification_list s d)
  unfold storageDeviceFsckNotification
  dsimp only
  split
  · exact (storageDeviceNotification_same _ _).2
  · rfl

section Halves

variable {d} {checking : List (Nat × Nat)} (hp : p ∈ d.diskPartitionList)
include hp

theorem unmount_quiet (lazyUnmount : Bool) :
    Quiet checking d (d.setPartition (umountPartition env s p lazyUnmount).obj) :=
  Quiet.set hp (address_of_ident (umountPartition_ident env s p lazyUnmount))
    fun hflag _ => umountPartition_flag env s p hflag

theorem checkBegins_quiet (hnodup : d.addresses.Nodup) (freed : DiskPartitionInfo) :
    Quiet checking d (checkBegins s d p.address freed).2 := by
  unfold checkBegins
  rw [partitionAt_of_mem d hp hnodup]
  exact Quiet.set hp rfl fun hflag _ => hflag

variable (hnot : ¬ d.Outstanding checking p.address)
include hnot

/-- A partition is put back for which no check is outstanding. -/
theorem Quiet.set_free (haddr : q.address = p.address) : Quiet checking d (d.setPartition q) :=
  Quiet.set hp haddr fun _ hout => absurd hout hnot

theorem checkEnds_quiet (hnodup : d.addresses.Nodup) (freed : DiskPartitionInfo) :
    Quiet checking d (checkEnds env s d p.address freed).obj := by
  have hanswer : (PdmFs.fsckAnswer env s p PdmFsck.AUTO).obj.address = p.address := by
    unfold PdmFs.fsckAnswer
    dsimp only
    split <;> rfl
  unfold checkEnds
  rw [partitionAt_of_mem d hp hnodup]
  exact (Quiet.set_free hp hnot (mountAfter_address env _ hanswer)).trans
    (storageDeviceFsckNotification_quiet _ _)

theorem runTool_quiet (tool : Tool) : Quiet checking d (runTool env s d p tool).obj := by
  cases tool with
  | format fsType volumeLabel =>
    have hformat := address_of_ident (formatFs_op env (handlerCb s .formatStarted (some p.address))
      p fsType volumeLabel).ident
    unfold runTool formatUnmounted
    dsimp only
    generalize PdmFs.format env (handlerCb s .formatStarted (some p.address)) p fsType volumeLabel = f
      at hformat ⊢
    have hset := Quiet.set_free hp hnot (mountAfter_address env f hformat)
    generalize (if f.ret = .success then mountPartition env f.state f.obj false else f) = m
      at hset ⊢
    split
    · exact hset.trans (Quiet.of_list rfl rfl rfl)
    · exact hset
  | fsck =>
    unfold runTool fsckUnmounted
    dsimp only
    exact Quiet.set_free hp hnot (address_of_ident (fsckPartition_op env s p PdmFsck.AUTO).ident)

end Halves

end StorageDevice

/-! ### Steps that nothing comes between -/

namespace StorageDeviceHandler

/-- The drive is found, and can be written to. -/
theorem writableDrive_some {h : StorageDeviceHandler} {driveName : String} {d : StorageDevice}
    {p : DiskPartitionInfo} (hdrive : h.writableDrive driveName = some (d, p)) :
    getDeviceWithName h.storageList driveName = some d ∧ d.findPartition driveName = some p ∧
      d.isReadOnly = false := by
  unfold writableDrive at hdrive
  obtain ⟨e, he, hdrive⟩ := Option.bind_eq_some_iff.mp hdrive
  obtain ⟨q, hq, hdrive⟩ := Option.bind_eq_some_iff.mp hdrive
  split at hdrive
  · exact absurd hdrive (by simp)
  · rename_i hro
    obtain ⟨rfl, rfl⟩ : e = d ∧ q = p := by simpa using hdrive
    exact ⟨he, hq, Bool.not_eq_true _ ▸ hro⟩

/-- What stops between its unmount and a tool is FORMAT or FSCK. -/
theorem toolOf_some {h : StorageDeviceHandler} {cmdtypes : CommandType} {tool : Tool}
    {drive : StorageDevice × DiskPartitionInfo} (htool : h.toolOf cmdtypes = some (drive, tool)) :
    ∃ driveName, h.writableDrive driveName = some drive ∧
      ((∃ fsType volumeLabel, cmdtypes = .format driveName fsType volumeLabel ∧
          tool = .format fsType volumeLabel) ∨
        ∃ name, cmdtypes = .fsck name ∧ driveName = removeBlanks name ∧ tool = .fsck) := by
  cases cmdtypes with
  | format driveName fsType volumeLabel =>
    obtain ⟨_, hdrive, heq⟩ := Option.map_eq_some_iff.mp htool
    obtain ⟨rfl, rfl⟩ := Prod.mk.inj heq
    exact ⟨driveName, hdrive, Or.inl ⟨fsType, volumeLabel, rfl, rfl⟩⟩
  | fsck name =>
    obtain ⟨_, hdrive, heq⟩ := Option.map_eq_some_iff.mp htool
    obtain ⟨rfl, rfl⟩ := Prod.mk.inj heq
    exact ⟨removeBlanks name, hdrive, Or.inr ⟨name, rfl, rfl, rfl⟩⟩
  | eject | umountAllDrive | mountFsck | setVolumeLabel | isWritableDrive | spaceInfo | other =>
    exact absurd htool (by simp [toolOf])

end StorageDeviceHandler

namespace StorageThreads

open StorageDevice StorageDeviceHandler

variable {cfg : Config} {env : Env} {t : StorageThreads}

/-- A device that is written back is found under its address. -/
theorem find?_setDevice {h : StorageDeviceHandler} {s : Sys} (hwf : WellFormed s h.storageList)
    {d e : StorageDevice} (hd : d ∈ h.storageList) (he : e.address = d.address) :
    (h.setDevice e).storageList.find? (·.address = d.address) = some e := by
  have hmem : e ∈ (h.setDevice e).storageList :=
    Keyed.put_mem (fun x : StorageDevice => x.address) hd he
  rw [← he]
  refine Keyed.find?_key (fun x : StorageDevice => x.address) ?_ hmem
  exact (WellFormed.writeBack_addresses h.storageList e).symm ▸ hwf.nodup

theorem setDevice_setDevice (h : StorageDeviceHandler) {d e : StorageDevice}
    (he : e.address = d.address) : (h.setDevice d).setDevice e = h.setDevice e :=
  congrArg (fun l => { h with storageList := l })
    (Keyed.put_put (fun x : StorageDevice => x.address) he)

/-- A check that is called and answered at once is the thread as one step. -/
theorem deliver_whole_check (hvalid : t.system.Valid) {d : StorageDevice} {p : DiskPartitionInfo}
    (hd : d ∈ t.devices) (hp : p ∈ d.diskPartitionList) (hpending : p.address ∈ d.fsckThreadArray)
    (hnew : (d.address, p.address) ∉ t.checking) (freed : DiskPartitionInfo) :
    ((t.deliver cfg env (.checkBegins d.address p.address freed)).bind fun u =>
        u.deliver cfg env (.checkEnds d.address p.address freed)) =
      some { t with system := t.system.deliver cfg env (.fsckThread d.address p.address) } := by
  have hfind : t.devices.find? (·.address = d.address) = some d :=
    Keyed.find?_key (fun x : StorageDevice => x.address) hvalid.nodup hd
  have hbegun : ((StorageDevice.checkBegins t.system.sys
      { d with fsckThreadArray := d.fsckThreadArray.erase p.address } p.address freed).2).address =
        d.address := rfl
  have hwhole := checkEnds_checkBegins env t.system.sys
    { d with fsckThreadArray := d.fsckThreadArray.erase p.address } hp (hvalid.parts d hd).nodup freed
  have hended : (fsckOnDeviceAddThread env t.system.sys
      { d with fsckThreadArray := d.fsckThreadArray.erase p.address } p.address).obj.address =
        d.address :=
    address_of_core (fsckOnDeviceAddThread_within env t.system.sys
      { d with fsckThreadArray := d.fsckThreadArray.erase p.address } p.address).core
  unfold deliver
  simp only [hfind, Option.bind_some, if_pos hpending]
  rw [if_pos (List.mem_append_right _ (List.mem_singleton_self _))]
  unfold devices at hfind ⊢
  rw [find?_setDevice hvalid hd hbegun, Option.map_some, List.erase_append_right _ hnew]
  unfold acted
  rw [hwhole, setDevice_setDevice _ (hended.trans hbegun.symm)]
  have hthread : t.system.storage.runFsckThread env t.system.sys d.address p.address =
      ⟨(fsckOnDeviceAddThread env t.system.sys
          { d with fsckThreadArray := d.fsckThreadArray.erase p.address } p.address).state,
        t.system.storage.setDevice (fsckOnDeviceAddThread env t.system.sys
          { d with fsckThreadArray := d.fsckThreadArray.erase p.address } p.address).obj, ()⟩ := by
    unfold runFsckThread deviceTask
    rw [hfind]
    dsimp only
    rw [if_pos hpending]
  unfold StorageSystem.deliver StorageSystem.after
  dsimp only
  rw [hthread]
  simp

theorem runTool_address (s : Sys) (d : StorageDevice) (p : DiskPartitionInfo) (tool : Tool) :
    (runTool env s d p tool).obj.address = d.address := by
  cases tool with
  | format fsType volumeLabel =>
    unfold runTool formatUnmounted
    dsimp only
    generalize PdmFs.format env (handlerCb s .formatStarted (some p.address)) p fsType volumeLabel = f
    generalize (if f.ret = .success then mountPartition env f.state f.obj false else f) = m
    split
    · rfl
    · rfl
  | fsck => rfl

/-- FORMAT and FSCK as one step: an unmount, and the tool where that has succeeded. -/
theorem deliver_command_of_tool {w : StorageSystem} {cmdtypes : CommandType} {d : StorageDevice}
    {p : DiskPartitionInfo} {tool : Tool}
    (htool : w.storage.toolOf cmdtypes = some ((d, p), tool)) :
    w.deliver cfg env (.command cmdtypes) =
      (let u := umountPartition env w.sys p false
      if u.ret ≠ .success then ⟨u.state, w.storage.setDevice (d.setPartition u.obj)⟩
      else
        let r := runTool env u.state (d.setPartition u.obj) u.obj tool
        ⟨r.state, w.storage.setDevice r.obj⟩) := by
  obtain ⟨driveName, hdrive, hcommand⟩ := toolOf_some htool
  obtain ⟨hfound, hpart, hro⟩ := writableDrive_some hdrive
  rcases hcommand with ⟨fsType, volumeLabel, rfl, rfl⟩ | ⟨name, rfl, rfl, rfl⟩
  · unfold StorageSystem.deliver StorageSystem.after HandlerCommand format onDevice
    dsimp only
    rw [hfound]
    unfold formatDiskStart
    dsimp only
    rw [hpart]
    dsimp only
    rw [formatOn_split env w.sys d p fsType volumeLabel hro]
    dsimp only
    split
    · rfl
    · rfl
  · unfold StorageSystem.deliver StorageSystem.after HandlerCommand StorageDeviceHandler.fsck onDevice
    dsimp only
    rw [hfound]
    unfold StorageDevice.fsck
    dsimp only
    rw [hpart]
    dsimp only
    rw [fsckOn_split env w.sys d p hro]
    dsimp only
    split
    · rfl
    · rfl

/-- FORMAT and FSCK with nothing before their tool are commands as one step. -/
theorem deliver_whole_command (hvalid : t.system.Valid) (hwork : t.work = none)
    (cmdtypes : CommandType) :
    ((t.deliver cfg env (.command cmdtypes)).bind fun u =>
        if u.work = none then some u else u.deliver cfg env .tool) =
      some { t with system := t.system.deliver cfg env (.command cmdtypes) } := by
  have hidle : ¬ t.work.isSome = true := by simp [hwork]
  unfold deliver
  dsimp only
  rw [if_neg hidle]
  cases htool : t.system.storage.toolOf cmdtypes with
  | none => simp [hwork]
  | some drive =>
    obtain ⟨⟨d, p⟩, tool⟩ := drive
    obtain ⟨driveName, hdrive, -⟩ := toolOf_some htool
    obtain ⟨hfound, hpart, -⟩ := writableDrive_some hdrive
    have hd : d ∈ t.system.storage.storageList := mem_of_name t.system.storage d hfound
    have hp := (d.findPartition_mem hpart).1
    have haddr := address_of_ident (umountPartition_ident env t.system.sys p false)
    rw [deliver_command_of_tool htool]
    dsimp only
    generalize umountPartition env t.system.sys p false = r at haddr ⊢
    by_cases hret : r.ret = .success
    · have hkeys : (d.setPartition r.obj).addresses = d.addresses :=
        Keyed.put_keys (fun x : DiskPartitionInfo => x.address) d.diskPartitionList r.obj
      have hnodup : (d.setPartition r.obj).addresses.Nodup := by
        rw [hkeys]
        exact (hvalid.parts d hd).nodup
      have hmem : r.obj ∈ (d.setPartition r.obj).diskPartitionList :=
        Keyed.put_mem (fun x : DiskPartitionInfo => x.address) hp haddr
      have hpart' : (d.setPartition r.obj).diskPartitionList.find? (·.address = p.address) =
          some r.obj := by
        rw [← haddr]
        exact Keyed.find?_key (fun x : DiskPartitionInfo => x.address) hnodup hmem
      have hfind := find?_setDevice hvalid hd (e := d.setPartition r.obj) rfl
      simp only [hret, if_true, Option.bind_some, devices, hfind, hpart']
      rw [if_neg (by simp), Option.map_some, if_neg (by simp), ← hwork]
      unfold acted
      rw [setDevice_setDevice _ (runTool_address r.state _ r.obj tool)]
    · simp [hret, hwork]

end StorageThreads

end Pdm
