/-
What is still mounted where something is deleted.

Every mounted file system is somebody's (`Accounted`): a storage device has a partition
with that mount point, or a streaming device that a removal would unmount has it.  When a
device goes, its own file systems are unmounted first and its root path is deleted after
that.  `KeepsMounts` says of an input that no flag of a mounted partition is cleared
before its time, that the kernel lets go of what goes, that a camera the helper has
mounted also comes up, and that no other device has a file system mounted in the root
path that is deleted.

**In every run of such inputs nothing is mounted at or below a path when it is deleted.**
-/
import Pdm.Proofs.MountFlags
import Pdm.Proofs.Mountpoints
import Pdm.Proofs.RootPaths

namespace Pdm

open PathOrder Territory
open StorageDevice (ThreadsKept LetsGoAll)
open StorageDeviceHandler (target removedDevice newDevice EventOutcome)

/-- The input as one of the storage handler, if it is. -/
def Input.storageInput : Input → Option StorageInput
  | .uevent .storage devClass => some (.uevent devClass)
  | .command .storage cmdtypes => some (.command cmdtypes)
  | .pluginEvent .storage eventType => some (.pluginEvent eventType)
  | .fsckThread device partition => some (.fsckThread device partition)
  | .timeout device => some (.timeout device)
  | _ => none

@[simp] theorem StorageInput.storageInput_toInput (i : StorageInput) :
    i.toInput.storageInput = some i := by
  cases i <;> rfl

namespace World

/-! ### The condition -/

section Conditions

variable (cfg : Config) (env : Env) (w : World) (devClass : DeviceClass)

/-- Nobody but the device with this key has a file system mounted in the root path. -/
def Vacant (key : HandlerKind × Nat) (rootPath : String) : Prop :=
  Spares (fun root m => m ∈ w.sys.mounted ∧ AtOrBelow root m) w.parties key rootPath

instance (key : HandlerKind × Nat) (rootPath : String) : Decidable (w.Vacant key rootPath) :=
  inferInstanceAs (Decidable (Spares _ _ _ _))

/-- What the storage handler forgets is let go of, and what it deletes is vacant. -/
def StorageLetsGo : Prop :=
  (∀ d ∈ (target cfg w.sys.next w.storage devClass).told, d.DropsParts env devClass →
    ∀ p ∈ d.diskPartitionList, p.mountName ∈ w.sys.mounted → env.letsGo p true = true) ∧
  (devClass.action = "remove" → ∀ d ∈ removedDevice w.storage devClass,
    ThreadsKept env w.sys.mounted d d.fsckThreadArray ∧
      LetsGoAll env w.sys.mounted d d.fsckThreadArray ∧ w.Vacant (.storage, d.address) d.rootPath)

/-- The same of a streaming handler.  A camera that its helper has mounted must come up,
and a device that comes up takes no partition's mount point. -/
def StreamLetsGo (kind : HandlerKind) : Prop :=
  (∀ j ∈ w.joining cfg env devClass kind,
    if j.listed then ∀ d ∈ w.storage.storageList, ¬ d.Owns j.device.mountName
    else j.mounts = false ∧ w.Vacant (kind, j.device.address) j.device.rootPath) ∧
  ∀ d ∈ leaving (w.streams kind) devClass,
    (d.holds = true → d.mountName ∈ w.sys.mounted → env.detaches d.mountName = true) ∧
      w.Vacant (kind, d.address) d.rootPath

/-- What goes in a step is let go of. -/
def LetsGo (i : Env × Input) : Prop :=
  match i.2 with
  | .uevent .storage devClass => StorageLetsGo cfg i.1 w devClass
  | .uevent kind devClass => StreamLetsGo cfg i.1 w devClass kind
  | _ => True

/-- **The condition on an input.** -/
def KeepsMounts (cfg : Config) (w : World) (i : Env × Input) : Prop :=
  (∀ input ∈ i.2.storageInput, w.toStorageSystem.KeepsFlags False False cfg (i.1, input)) ∧
    w.LetsGo cfg i

instance (K : Finset String) (d : StorageDevice) (ts : List Nat) :
    Decidable (ThreadsKept env K d ts) :=
  inferInstanceAs (Decidable (∀ p ∈ d.diskPartitionList, _ → _))

instance (K : Finset String) (d : StorageDevice) (ts : List Nat) :
    Decidable (LetsGoAll env K d ts) :=
  inferInstanceAs (Decidable (∀ p ∈ d.diskPartitionList, _ → _))

instance : Decidable (StorageLetsGo cfg env w devClass) :=
  inferInstanceAs (Decidable ((∀ d ∈ (target cfg w.sys.next w.storage devClass).told, _ → _) ∧
    (_ → ∀ d ∈ removedDevice w.storage devClass, _)))

instance (kind : HandlerKind) : Decidable (StreamLetsGo cfg env w devClass kind) :=
  inferInstanceAs (Decidable ((∀ j ∈ w.joining cfg env devClass kind, _) ∧
    ∀ d ∈ leaving (w.streams kind) devClass, _))

theorem letsGo_stream {kind : HandlerKind} (hkind : kind ≠ .storage) :
    StreamLetsGo cfg env w devClass kind ↔ w.LetsGo cfg (env, .uevent kind devClass) := by
  cases kind <;> first | rfl | contradiction

instance LetsGo.decidable : (i : Env × Input) → Decidable (w.LetsGo cfg i)
  | (env, .uevent kind devClass) =>
    if h : kind = .storage then
      decidable_of_iff (StorageLetsGo cfg env w devClass) (by subst h; rfl)
    else decidable_of_iff (StreamLetsGo cfg env w devClass kind) (letsGo_stream cfg env w devClass h)
  | (_, .command ..) => .isTrue trivial
  | (_, .pluginEvent ..) => .isTrue trivial
  | (_, .fsckThread ..) => .isTrue trivial
  | (_, .timeout ..) => .isTrue trivial

instance (i : Env × Input) : Decidable (KeepsMounts cfg w i) :=
  inferInstanceAs (Decidable ((∀ input ∈ i.2.storageInput, _) ∧ _))

end Conditions

/-! ### Whose a file system is -/

variable {cfg : Config} {env : Env} {w t : World}

/-- A storage device has a partition with this mount point. -/
def Stored (w : World) (m : String) : Prop := ∃ d ∈ w.storage.storageList, d.Owns m

/-- A streaming device that a removal would unmount has this mount point. -/
def Streamed (w : World) (kind : HandlerKind) (m : String) : Prop :=
  ∃ d ∈ w.streams kind, d.holds = true ∧ d.mountName = m

/-- Addresses are distinct, mounted partitions are flagged, and every mounted file system
is somebody's. -/
structure Accounted (w : World) : Prop where
  addressed : w.Addressed
  tied : Tied False w.sys w.storage.storageList
  owned : ∀ m ∈ w.sys.mounted, w.Stored m ∨ ∃ kind, w.Streamed kind m

/-- A deletion on record was made under this mount table, with nothing mounted there. -/
def DeletesUnmounted (K : Finset String) (r : CallRecord) : Prop :=
  ∀ path, r.call = .removeDirRecursive path → r.mounted = K ∧ ∀ m ∈ K, ¬ AtOrBelow path m

theorem deletesUnmounted_of_nothing {K : Finset String} {r : CallRecord} (h : DeletesNothing r) :
    DeletesUnmounted K r :=
  fun path hcall => absurd hcall (h path)

theorem deletesUnmounted_of_deletes {K : Finset String} {path : String} {r : CallRecord}
    (h : Deletes path K r) (hfree : ∀ m ∈ K, ¬ AtOrBelow path m) : DeletesUnmounted K r := by
  intro p hcall
  obtain ⟨rfl, hK⟩ := h p hcall
  exact ⟨hK, hfree⟩

/-- What a step leaves. -/
structure StaysAccounted (w t : World) : Prop where
  tied : Tied False t.sys t.storage.storageList
  owned : ∀ m ∈ t.sys.mounted, t.Stored m ∨ ∃ kind, t.Streamed kind m
  deletes : Sys.Adds (DeletesUnmounted t.sys.mounted) w.sys t.sys

/-- A file system of somebody who has not the key is not in a vacant root path. -/
theorem Vacant.of_stored {key : HandlerKind × Nat} {root m : String} (h : w.Vacant key root)
    (hm : m ∈ w.sys.mounted) {d : StorageDevice} (hd : d ∈ w.storage.storageList)
    (howns : d.Owns m) (hne : (HandlerKind.storage, d.address) ≠ key) : ¬ AtOrBelow root m :=
  fun hin => h d.party (storage_party hd) hne m (StorageDevice.mem_spots.mpr howns) ⟨hm, hin⟩

theorem Vacant.of_streamed {key : HandlerKind × Nat} {root m : String} (h : w.Vacant key root)
    (hm : m ∈ w.sys.mounted) {kind : HandlerKind} {d : Storage} (hd : d ∈ w.streams kind)
    (hname : d.mountName = m) (hne : (kind, d.address) ≠ key) : ¬ AtOrBelow root m :=
  fun hin => h (d.party kind) (stream_party hd) hne m (by simp [Storage.party, hname]) ⟨hm, hin⟩

/-! ### Inputs of the storage handler -/

/-- The storage handler accounts for its own mounts, and the streaming devices are the
same. -/
theorem owned_of_accounts (hw : w.Accounted) (hs : ∀ kind, t.streams kind = w.streams kind)
    (hacc : AccountsAll w.sys w.storage.storageList t.sys t.storage.storageList) :
    ∀ m ∈ t.sys.mounted, t.Stored m ∨ ∃ kind, t.Streamed kind m := by
  intro m hm
  rcases hacc m hm with howns | ⟨hmem, hfree⟩
  · exact Or.inl howns
  · rcases hw.owned m hmem with ⟨d, hd, howns⟩ | ⟨kind, hkind⟩
    · exact absurd howns (hfree d hd)
    · refine Or.inr ⟨kind, ?_⟩
      unfold Streamed
      rw [hs]
      exact hkind

/-- The uevent leaves no mount behind, and what it deletes is free. -/
theorem storageEvent_accounts (hw : w.Accounted) {devClass : DeviceClass}
    (hgo : StorageLetsGo cfg env w devClass)
    (ho : EventOutcome cfg env w.sys w.storage devClass t.sys t.storage.storageList) :
    AccountsAll w.sys w.storage.storageList t.sys t.storage.storageList ∧
      Sys.Adds (DeletesUnmounted t.sys.mounted) w.sys t.sys := by
  obtain ⟨hdrops, hremoved⟩ := hgo
  have hwf := hw.addressed.storage
  cases ho with
  | ignored _ hsys hl =>
    refine ⟨?_, Sys.Adds.of_eq hsys.notables⟩
    rw [hl]
    exact AccountsAll.within hwf (WithinList.of_untouched hsys)
  | handed d htarget hmem ht hl =>
    have hacc := StorageDevice.setDeviceInfo_accounts env devClass (hw.tied.ready hwf hmem)
      (hdrops d (by rw [htarget]; rfl))
    rw [← ht] at hacc
    refine ⟨AccountsAll.settle hacc ?_ fun c hc => ?_, ?_⟩
    · rw [hl]
      exact List.mem_map.mpr ⟨d, hmem, if_pos (d.setDeviceInfo_address env w.sys devClass).symm⟩
    · by_cases haddr : c.address = d.address
      · exact Or.inl (hwf.eq_of_address hc hmem haddr)
      · refine Or.inr ?_
        rw [hl]
        refine List.mem_map.mpr ⟨c, hc, if_neg fun h => haddr (h.trans ?_)⟩
        exact d.setDeviceInfo_address env w.sys devClass
    · rw [ht]
      exact Sys.Adds.of_eq (d.setDeviceInfo_notables env w.sys devClass)
  | created reader htarget ht hl =>
    have hready : StorageDevice.Ready False w.sys.alloc
        (newDevice cfg w.sys.next devClass reader) :=
      ⟨hw.tied.empty, by simp, by simp, by simp [StorageDevice.addresses]⟩
    have hacc := StorageDevice.setDeviceInfo_accounts env devClass hready fun _ => by simp
    rw [← ht] at hacc
    refine ⟨AccountsAll.settle (hacc.congr w.sys.alloc_mounted rfl rfl) ?_ fun c hc => ?_, ?_⟩
    · rw [hl]
      simp
    · rw [hl]
      exact Or.inr (List.mem_append_left _ hc)
    · rw [ht]
      exact (Sys.Adds.of_eq w.sys.alloc_notables).trans
        (Sys.Adds.of_eq (StorageDevice.setDeviceInfo_notables env w.sys.alloc _ devClass))
  | dropped d haction hfound ht hl =>
    have hmem := StorageDeviceHandler.removedDevice_mem hfound
    obtain ⟨hkept, hall, hvacant⟩ := hremoved haction d hfound
    have hleft : ∀ m ∈ t.sys.mounted, m ∈ w.sys.mounted ∧ ¬ d.Owns m := by
      intro m hm
      rw [ht, w.storage.dropStorageDevice_mounted] at hm
      exact StorageDevice.onDeviceRemove_leaves env (hw.tied.ready hwf hmem) hkept hall hm
    refine ⟨fun m hm => ?_, ?_⟩
    · obtain ⟨hin, hfree⟩ := hleft m hm
      by_cases hother : ∃ c ∈ w.storage.storageList, c.Owns m
      · obtain ⟨c, hc, howns⟩ := hother
        refine Or.inl ⟨c, ?_, howns⟩
        rw [hl]
        refine List.mem_filter.mpr ⟨hc, decide_eq_true fun haddr => hfree ?_⟩
        rwa [← hwf.eq_of_address hc hmem haddr]
      · exact Or.inr ⟨hin, fun c hc howns => hother ⟨c, hc, howns⟩⟩
    · have hdel := dropStorageDevice_deletes env w.sys w.storage d
      rw [← ht] at hdel
      refine hdel.mono fun r hr => ?_
      rcases hr with hquiet | ⟨rfl, -⟩
      · exact deletesUnmounted_of_nothing hquiet
      · refine deletesUnmounted_of_deletes (Deletes.root d.rootPath t.sys.mounted) fun m hm => ?_
        obtain ⟨hin, hfree⟩ := hleft m hm
        rcases hw.owned m hin with ⟨c, hc, howns⟩ | ⟨kind, c, hc, -, hname⟩
        · refine hvacant.of_stored hin hc howns fun hkey => hfree ?_
          rwa [← hwf.eq_of_address hc hmem (congrArg Prod.snd hkey)]
        · exact hvacant.of_streamed hin hc hname fun hkey => stream_kind hc (congrArg Prod.fst hkey)

/-! ### Inputs of the streaming handlers -/

/-- The storage handler's list is the same, and of its mount points none is mounted that
was not before. -/
theorem tied_of_shrunk (hw : w.Accounted) (hst : t.storage = w.storage)
    (hempty : "" ∉ t.sys.mounted)
    (hsub : ∀ m ∈ t.sys.mounted, w.Stored m → m ∈ w.sys.mounted) :
    Tied False t.sys t.storage.storageList := by
  rw [hst]
  exact ⟨hempty, fun d hd p hp => ⟨fun hm => (hw.tied.ties d hd p hp).seen
    (hsub _ hm ⟨d, hd, p, hp, rfl⟩), fun h => absurd h (by simp)⟩, hw.tied.apart⟩

/-- The devices of the other handlers still own what they owned. -/
theorem owned_of_stream (hw : w.Accounted) (kind : HandlerKind) (hst : t.storage = w.storage)
    (hs : ∀ other, other ≠ kind → t.streams other = w.streams other) {m : String}
    (hm : m ∈ w.sys.mounted) (hkind : w.Streamed kind m → t.Streamed kind m) :
    t.Stored m ∨ ∃ kind, t.Streamed kind m := by
  rcases hw.owned m hm with hstored | ⟨other, hother⟩
  · unfold Stored
    rw [hst]
    exact Or.inl hstored
  · refine Or.inr ⟨other, ?_⟩
    by_cases hsame : other = kind
    · rw [hsame] at hother ⊢
      exact hkind hother
    · unfold Streamed
      rw [hs other hsame]
      exact hother

/-- A device that is not listed yet has no file system that is mounted. -/
theorem Vacant.of_next (hw : w.Accounted) {kind : HandlerKind} {root : String}
    (h : w.Vacant (kind, w.sys.next) root) : ∀ m ∈ w.sys.mounted, ¬ AtOrBelow root m := by
  intro m hm
  rcases hw.owned m hm with ⟨d, hd, howns⟩ | ⟨other, d, hd, -, hname⟩
  · exact h.of_stored hm hd howns fun hkey =>
      Nat.ne_of_lt (hw.addressed.storage.given d hd) (congrArg Prod.snd hkey)
  · exact h.of_streamed hm hd hname fun hkey =>
      Nat.ne_of_lt (hw.addressed.given other d hd) (congrArg Prod.snd hkey)

theorem streamEvent_accounted (hw : w.Accounted) {devClass : DeviceClass} {kind : HandlerKind}
    (hgo : StreamLetsGo cfg env w devClass kind)
    (ho : StreamOutcome env w.sys (w.streams kind) (w.joining cfg env devClass kind)
      (leaving (w.streams kind) devClass) t.sys (t.streams kind))
    (hs : ∀ other, other ≠ kind → t.streams other = w.streams other)
    (hst : t.storage = w.storage) : StaysAccounted w t := by
  obtain ⟨hjoins, hleaves⟩ := hgo
  cases ho with
  | ignored _ _ ht hl =>
    refine ⟨tied_of_shrunk hw hst (by rw [ht]; exact hw.tied.empty) fun m hm _ => by rwa [← ht],
      fun m hm => owned_of_stream hw kind hst hs (by rwa [← ht]) fun h => ?_, ?_⟩
    · unfold Streamed
      rwa [hl]
    · rw [ht]
      exact Sys.Adds.of_eq rfl
  | joined j e hjoin hup _ hseat he hname hm hnot _ hl =>
    have hfresh := hjoins j hjoin
    rw [if_pos hup, ← (Storage.seat_eq_iff.mp hseat).2.2] at hfresh
    refine ⟨tied_of_shrunk hw hst ?_ fun m hmem hstored => ?_, fun m hmem => ?_,
      Sys.Adds.of_eq hnot⟩
    · rw [hm, Finset.mem_insert, not_or]
      exact ⟨hname.symm, hw.tied.empty⟩
    · rw [hm, Finset.mem_insert] at hmem
      refine hmem.resolve_left ?_
      rintro rfl
      obtain ⟨d, hd, howns⟩ := hstored
      exact hfresh d hd howns
    · rw [hm, Finset.mem_insert] at hmem
      rcases hmem with rfl | hmem
      · exact Or.inr ⟨kind, e, by rw [hl]; simp, he, rfl⟩
      · refine owned_of_stream hw kind hst hs hmem ?_
        rintro ⟨d, hd, hholds, hdm⟩
        exact ⟨d, by rw [hl]; exact List.mem_append_left _ hd, hholds, hdm⟩
  | failed j hjoin hdown haddr hm hdel _ hl =>
    have hquiet := hjoins j hjoin
    rw [if_neg (by simp [hdown])] at hquiet
    obtain ⟨hmounts, hvacant⟩ := hquiet
    rw [hmounts, if_neg (by decide)] at hm
    rw [haddr] at hvacant
    refine ⟨tied_of_shrunk hw hst (by rw [hm]; exact hw.tied.empty) fun m hmem _ => by rwa [← hm],
      fun m hmem => owned_of_stream hw kind hst hs (by rwa [← hm]) fun h => ?_,
      hdel.mono fun r hr => deletesUnmounted_of_deletes hr (by rw [hm]; exact hvacant.of_next hw)⟩
    unfold Streamed
    rwa [hl]
  | left d hjoin hleave hd hm hdel _ hl =>
    obtain ⟨hdetach, hvacant⟩ := hleaves d hleave
    have hsub := shrunk_of_erase hm
    -- What the device holds is gone.
    have hgone : d.holds = true → d.mountName ∉ t.sys.mounted := by
      intro hholds hin
      have hgoes : (d.holds && env.detaches d.mountName) = true := by
        rw [hholds, hdetach hholds (hsub hin)]
        rfl
      rw [hm, if_pos hgoes] at hin
      exact absurd rfl (Finset.mem_erase.mp hin).1
    have hother : ∀ c ∈ w.streams kind, c.holds = true → c.mountName ∈ t.sys.mounted →
        c.address ≠ d.address := by
      intro c hc hholds hin haddr
      obtain rfl : c = d := List.inj_on_of_nodup_map (hw.addressed.nodup kind) hc hd haddr
      exact hgone hholds hin
    refine ⟨tied_of_shrunk hw hst (fun h => hw.tied.empty (hsub h)) fun m hmem _ => hsub hmem,
      fun m hmem => owned_of_stream hw kind hst hs (hsub hmem) ?_,
      hdel.mono fun r hr => deletesUnmounted_of_deletes hr fun m hmem => ?_⟩
    · rintro ⟨c, hc, hholds, rfl⟩
      refine ⟨c, ?_, hholds, rfl⟩
      rw [hl]
      exact List.mem_filter.mpr ⟨hc, decide_eq_true (hother c hc hholds hmem)⟩
    · rcases hw.owned m (hsub hmem) with ⟨c, hc, howns⟩ | ⟨other, c, hc, hholds, rfl⟩
      · exact hvacant.of_stored (hsub hmem) hc howns fun hkey =>
          stream_kind hd (congrArg Prod.fst hkey).symm
      · refine hvacant.of_streamed (hsub hmem) hc rfl fun hkey => ?_
        obtain rfl : other = kind := congrArg Prod.fst hkey
        exact hother c hc hholds hmem (congrArg Prod.snd hkey)

/-! ### Every step -/

/-- **A step leaves every mounted file system accounted for.** -/
theorem deliver_accounted (hw : w.Accounted) {input : Input}
    (hkeep : KeepsMounts cfg w (env, input)) :
    StaysAccounted w (w.deliver cfg env input) := by
  have ho : StepOutcome cfg env w input (w.deliver cfg env input) :=
    deliver_outcome hw.addressed input
  generalize w.deliver cfg env input = t at ho
  obtain ⟨hflags, hgo⟩ := hkeep
  cases ho with
  | storage i hi ht hs =>
    have htied := StorageSystem.deliver_tied hw.addressed.storage hw.tied
      (hflags i (by rw [hi]; exact i.storageInput_toInput))
    rw [← ht] at htied
    have hacc : AccountsAll w.sys w.storage.storageList t.sys t.storage.storageList ∧
        Sys.Adds (DeletesUnmounted t.sys.mounted) w.sys t.sys := by
      by_cases hevent : ∃ devClass, i = .uevent devClass
      · obtain ⟨devClass, rfl⟩ := hevent
        rw [hi] at hgo
        have ho : EventOutcome cfg env w.sys w.storage devClass
            (w.toStorageSystem.deliver cfg env (.uevent devClass)).sys
            (w.toStorageSystem.deliver cfg env (.uevent devClass)).storage.storageList :=
          w.storage.HandlerEvent_outcome cfg env w.sys devClass
        rw [← ht] at ho
        exact storageEvent_accounts hw hgo ho
      · have hrest : ∀ devClass, i ≠ .uevent devClass := fun devClass hd => hevent ⟨devClass, hd⟩
        have hin := w.toStorageSystem.deliver_within cfg env hrest
        rw [← ht] at hin
        exact ⟨AccountsAll.within hw.addressed.storage hin, hin.quiet.mono fun r hr =>
          deletesUnmounted_of_nothing (deletesNothing_of_worked hr)⟩
    exact ⟨htied.tied, owned_of_accounts hw hs hacc.1, hacc.2⟩
  | streamEvent kind devClass hi ho hs hst =>
    rw [hi] at hgo
    have hgo' : StreamLetsGo cfg env w devClass kind := by
      cases kind with
      | storage => exact ⟨fun j hj => by simp [joining] at hj, fun d hd => by
          simp [streams, leaving, getDeviceWithPath] at hd⟩
      | _ => exact hgo
    exact streamEvent_accounted hw hgo' ho hs hst
  | streamRest kind hk hs hst =>
    refine ⟨tied_of_shrunk hw hst (fun h => hw.tied.empty (hk.shrunk h))
      fun m hmem _ => hk.shrunk hmem, fun m hmem => owned_of_stream hw kind hst hs (hk.shrunk hmem) ?_,
      hk.quiet.mono fun r hr => deletesUnmounted_of_nothing hr⟩
    rintro ⟨d, hd, hholds, rfl⟩
    obtain ⟨e, he, hseat, heholds⟩ := hk.holds d hd hmem hholds
    exact ⟨e, he, heholds, (Storage.seat_eq_iff.mp hseat).2.2⟩
  | chatter hc hs hst =>
    refine ⟨tied_of_shrunk hw hst (by rw [hc.mounted]; exact hw.tied.empty)
      fun m hmem _ => by rwa [← hc.mounted], fun m hmem => ?_,
      hc.quiet.mono fun r hr => deletesUnmounted_of_nothing hr⟩
    rw [hc.mounted] at hmem
    exact owned_of_stream hw .hid hst (fun other _ => hs other) hmem
      fun h => by unfold Streamed; rwa [hs]

/-- Nothing is mounted at or below a path when it is deleted. -/
def DeletesClear (cfg : Config) (w : World) (i : Env × Input) : Prop :=
  ∀ r ∈ (w.step cfg i).sys.calls, ∀ path, r.call = .removeDirRecursive path →
    ∀ m ∈ r.mounted, ¬ AtOrBelow path m

theorem step_accounted {i : Env × Input} (hw : w.Accounted) (hkeep : KeepsMounts cfg w i) :
    (w.step cfg i).Accounted ∧ StaysAccounted w.clear (w.step cfg i) := by
  have hclear : w.clear.Accounted :=
    ⟨hw.addressed.clear, ⟨hw.tied.empty, hw.tied.ties, hw.tied.apart⟩, hw.owned⟩
  have hstay : StaysAccounted w.clear (w.step cfg i) := deliver_accounted hclear hkeep
  exact ⟨⟨deliver_addressed hclear.addressed i.2, hstay.tied, hstay.owned⟩, hstay⟩

theorem StaysAccounted.clear (h : StaysAccounted w.clear t) :
    ∀ r ∈ t.sys.calls, DeletesUnmounted t.sys.mounted r :=
  fun r hr path hpath => h.deletes.forall_of_nil rfl r hr (by rw [hpath]; rfl) path hpath

theorem init_accounted : ({} : World).Accounted :=
  ⟨init_addressed, StorageSystem.init_tiedState.tied, by simp⟩

/-- **No deletion reaches into a mounted file system.** -/
theorem deletes_clear (cfg : Config) (inputs : List (Env × Input))
    (hkeep : Runs.StepsAll (step cfg) (KeepsMounts cfg) {} inputs) :
    Runs.StepsAll (step cfg) (DeletesClear cfg) {} inputs := by
  refine Runs.stepsAll_of_keeps (I := Accounted) (fun _ _ hw hkeep => (step_accounted hw hkeep).1)
    (fun w i hw hkeep r hr path hpath => ?_) init_accounted hkeep
  obtain ⟨hK, hfree⟩ := (step_accounted hw hkeep).2.clear r hr path hpath
  rwa [hK]

theorem deletes_clear_plugAndPull :
    Runs.StepsAll (step .tmpUsb) (KeepsMounts .tmpUsb) {} plugAndPull ∧
      Runs.StepsAll (step .tmpUsb) (DeletesClear .tmpUsb) {} plugAndPull := by
  have hkeep : Runs.StepsAll (step .tmpUsb) (KeepsMounts .tmpUsb) {} plugAndPull := by decide
  exact ⟨hkeep, deletes_clear .tmpUsb plugAndPull hkeep⟩

/-- A camera is plugged whose first folder is empty. -/
def plugEmptyCamera : List (Env × Input) :=
  [(({ readdir := fun _ => none } : Env), .uevent .ptp
    { action := "add"
      devType := "usb_device"
      interfaceClass := ":060101:"
      devPath := "/devices/usb1/1-3"
      busNum := "1"
      devNumber := "5" })]

/-- The helper has mounted the camera, and its root path is deleted with the file system
in it. -/
theorem plugEmptyCamera_deletes_mounted :
    ¬ Runs.StepsAll (step .tmpUsb) (DeletesClear .tmpUsb) {} plugEmptyCamera := by
  intro h
  have hlast := h.1 ⟨.removeDirRecursive "/tmp/usb/PTP-1-5", {"/tmp/usb/PTP-1-5/PTP-1-5"}⟩
    (by decide) "/tmp/usb/PTP-1-5" rfl "/tmp/usb/PTP-1-5/PTP-1-5" (by decide)
  exact hlast (by decide)

end World

end Pdm
