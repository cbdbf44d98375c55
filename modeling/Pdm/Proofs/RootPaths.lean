/-
What is deleted when a device goes.

A device starts out with the shared directory as its root path, and later events give it
one of its own.  The devices are parties that live in that directory (`parties`): the
root path is a party's home, the mount points of its partitions are its spots.
`KeepsRoots` says of a uevent that a root path it gives a device is strictly below the
shared directory and leads to no other device's mount point, that a mount point it gives
one is in no other device's root path, and that it removes no device that still has the
shared directory as its root path.

**In every run of such events whatever is deleted is strictly below the shared directory,
and no attached device has a mount point there.**
-/
import Pdm.Lib.PathOrder
import Pdm.Lib.Territory
import Pdm.Proofs.WorldSteps

namespace Pdm

open PathOrder Territory
open StorageDevice (informed)
open StorageDeviceHandler (target removedDevice newDevice EventOutcome)

/-! ### Devices as parties -/

def StorageDevice.party (d : StorageDevice) : Party (HandlerKind × Nat) String where
  key := (.storage, d.address)
  home := d.rootPath
  spots := d.diskPartitionList.map (·.mountName)

def Storage.party (kind : HandlerKind) (d : Storage) : Party (HandlerKind × Nat) String where
  key := (kind, d.address)
  home := d.rootPath
  spots := [d.mountName]

theorem StorageDevice.mem_spots {d : StorageDevice} {m : String} :
    m ∈ d.party.spots ↔ d.Owns m :=
  List.mem_map

namespace World

/-- Everyone who has a root path. -/
def parties (w : World) : List (Party (HandlerKind × Nat) String) :=
  w.storage.storageList.map (·.party) ++
    [HandlerKind.mtp, .ptp].flatMap fun kind => (w.streams kind).map (·.party kind)

theorem mem_parties {w : World} {a : Party (HandlerKind × Nat) String} :
    a ∈ w.parties ↔
      (∃ d ∈ w.storage.storageList, d.party = a) ∨ ∃ kind, ∃ d ∈ w.streams kind, d.party kind = a := by
  unfold parties
  rw [List.mem_append, List.mem_map, List.mem_flatMap]
  refine or_congr_right ⟨?_, ?_⟩
  · rintro ⟨kind, -, ha⟩
    exact ⟨kind, List.mem_map.mp ha⟩
  · rintro ⟨kind, d, hd, ha⟩
    refine ⟨kind, ?_, List.mem_map.mpr ⟨d, hd, ha⟩⟩
    cases kind with
    | mtp => simp
    | ptp => simp
    | _ => simp [streams] at hd

theorem storage_party {w : World} {d : StorageDevice} (hd : d ∈ w.storage.storageList) :
    d.party ∈ w.parties :=
  mem_parties.mpr (Or.inl ⟨d, hd, rfl⟩)

theorem stream_party {w : World} {kind : HandlerKind} {d : Storage} (hd : d ∈ w.streams kind) :
    d.party kind ∈ w.parties :=
  mem_parties.mpr (Or.inr ⟨kind, d, hd, rfl⟩)

/-! ### The condition -/

section Conditions

variable (cfg : Config) (env : Env) (w : World) (devClass : DeviceClass)

/-- What the storage handler gives out is nobody else's, and whom it removes has a root
path of its own. -/
def StorageKeepsRoots : Prop :=
  (∀ d ∈ (target cfg w.sys.next w.storage devClass).told,
    ((informed env d devClass).rootPath = d.rootPath ∨
      Own AtOrBelow (Below cfg.rootPath) w.parties (.storage, d.address)
        (informed env d devClass).rootPath) ∧
    ∀ m, d.Gains env devClass m →
      Avoids AtOrBelow cfg.rootPath w.parties (.storage, d.address) m) ∧
  (devClass.action = "remove" →
    ∀ d ∈ removedDevice w.storage devClass, d.rootPath ≠ cfg.rootPath)

/-- The same of a streaming handler, which deletes the root path of a device that does
not come up at once. -/
def StreamKeepsRoots (kind : HandlerKind) : Prop :=
  (∀ j ∈ w.joining cfg env devClass kind,
    (j.listed = true ∧ j.device.rootPath = cfg.rootPath ∨
      Own AtOrBelow (Below cfg.rootPath) w.parties (kind, j.device.address) j.device.rootPath) ∧
    (j.listed = true →
      Avoids AtOrBelow cfg.rootPath w.parties (kind, j.device.address) j.device.mountName)) ∧
  ∀ d ∈ leaving (w.streams kind) devClass, d.rootPath ≠ cfg.rootPath

/-- **The condition on an input**: only uevents give root paths and mount points out. -/
def KeepsRoots (cfg : Config) (w : World) (i : Env × Input) : Prop :=
  match i.2 with
  | .uevent .storage devClass => StorageKeepsRoots cfg i.1 w devClass
  | .uevent kind devClass => StreamKeepsRoots cfg i.1 w devClass kind
  | _ => True

instance (d : StorageDevice) (Q : String → Prop) [DecidablePred Q] :
    Decidable (∀ m, d.Gains env devClass m → Q m) :=
  decidable_of_iff _ (d.forall_gains env devClass).symm

instance : Decidable (StorageKeepsRoots cfg env w devClass) :=
  inferInstanceAs (Decidable ((∀ d ∈ (target cfg w.sys.next w.storage devClass).told, _ ∧ _) ∧
    (_ → ∀ d ∈ removedDevice w.storage devClass, _)))

instance (kind : HandlerKind) : Decidable (StreamKeepsRoots cfg env w devClass kind) :=
  inferInstanceAs (Decidable ((∀ j ∈ w.joining cfg env devClass kind, _) ∧
    ∀ d ∈ leaving (w.streams kind) devClass, _))

instance KeepsRoots.decidable (i : Env × Input) : Decidable (KeepsRoots cfg w i) := by
  unfold KeepsRoots
  split <;> infer_instance

end Conditions

/-! ### What a step deletes -/

/-- Addresses are distinct, and every device lives in the shared directory or in a root
path of its own. -/
structure Rooted (R : String) (w : World) : Prop where
  addressed : w.Addressed
  separate : Separate AtOrBelow (Below R) R w.parties

/-- If the call deletes a directory, it is one strictly below the shared one that has no
mount point of these parties in it. -/
def DeletesFreely (R : String) (ps : List (Party (HandlerKind × Nat) String))
    (r : CallRecord) : Prop :=
  ∀ path, r.call = .removeDirRecursive path →
    Below R path ∧ ∀ a ∈ ps, ∀ m ∈ a.spots, ¬ AtOrBelow path m

theorem deletesFreely_of_nothing {R : String} {ps : List (Party (HandlerKind × Nat) String)}
    {r : CallRecord} (h : DeletesNothing r) : DeletesFreely R ps r :=
  fun path hcall => absurd hcall (h path)

theorem deletesFreely_of_deletes {R : String} {ps : List (Party (HandlerKind × Nat) String)}
    {K : Finset String} {path : String} {r : CallRecord} (h : Deletes path K r)
    (hfree : Below R path ∧ ∀ a ∈ ps, ∀ m ∈ a.spots, ¬ AtOrBelow path m) :
    DeletesFreely R ps r := by
  intro p hcall
  obtain ⟨rfl, -⟩ := h p hcall
  exact hfree

/-- What a step leaves: everyone is settled, and what it deletes is free. -/
structure StaysRooted (R : String) (s : Sys) (t : World) : Prop where
  separate : Separate AtOrBelow (Below R) R t.parties
  deletes : Sys.Adds (DeletesFreely R t.parties) s t.sys

section Steps

variable {cfg : Config} {env : Env} {w t : World} {R : String}

theorem stream_kind {kind : HandlerKind} {d : Storage} (hd : d ∈ w.streams kind) :
    kind ≠ .storage := by
  rintro rfl
  exact absurd hd (by simp [streams])

/-- Where the streaming lists are the same, whoever is no storage device was there before. -/
theorem parties_of_storage (hs : ∀ kind, t.streams kind = w.streams kind)
    {a : Party (HandlerKind × Nat) String} (ha : a ∈ t.parties) :
    (∃ c ∈ t.storage.storageList, c.party = a) ∨ (a.key.1 ≠ .storage ∧ a ∈ w.parties) := by
  rcases mem_parties.mp ha with hc | ⟨kind, d, hd, rfl⟩
  · exact Or.inl hc
  · rw [hs kind] at hd
    exact Or.inr ⟨stream_kind hd, stream_party hd⟩

/-- The same of the devices that are not in a streaming handler's list. -/
theorem parties_of_stream {kind : HandlerKind} (hkind : kind ≠ .storage)
    (hst : t.storage = w.storage) (hs : ∀ other, other ≠ kind → t.streams other = w.streams other)
    {a : Party (HandlerKind × Nat) String} (ha : a ∈ t.parties) :
    (∃ c ∈ t.streams kind, c.party kind = a) ∨ (a.key.1 ≠ kind ∧ a ∈ w.parties) := by
  rcases mem_parties.mp ha with ⟨d, hd, rfl⟩ | ⟨other, d, hd, rfl⟩
  · rw [hst] at hd
    exact Or.inr ⟨hkind.symm, storage_party hd⟩
  · by_cases hother : other = kind
    · subst hother
      exact Or.inl ⟨d, hd, rfl⟩
    · rw [hs other hother] at hd
      exact Or.inr ⟨hother, stream_party hd⟩

/-- Devices that were there before, with the mount points they had. -/
theorem parties_comeFrom
    (hst : ∀ e ∈ t.storage.storageList, ∃ d ∈ w.storage.storageList,
      e.core = d.core ∧ e.idents ⊆ d.idents)
    (hs : ∀ kind, ∀ e ∈ t.streams kind, ∃ d ∈ w.streams kind, e.seat = d.seat) :
    ∀ a ∈ t.parties, ComesFrom w.parties a := by
  intro a ha
  rcases mem_parties.mp ha with ⟨e, he, rfl⟩ | ⟨kind, e, he, rfl⟩
  · obtain ⟨d, hd, hcore, hidents⟩ := hst e he
    refine ⟨d.party, storage_party hd, ?_, StorageDevice.rootPath_of_core hcore, fun m hm => ?_⟩
    · exact congrArg (Prod.mk HandlerKind.storage) (StorageDevice.address_of_core hcore)
    · exact StorageDevice.mem_spots.mpr
        (StorageDevice.Owns.mono hidents m (StorageDevice.mem_spots.mp hm))
  · obtain ⟨d, hd, hseat⟩ := hs kind e he
    obtain ⟨haddr, hroot, hmount⟩ := Storage.seat_eq_iff.mp hseat
    refine ⟨d.party kind, stream_party hd, congrArg (Prod.mk kind) haddr, hroot, ?_⟩
    unfold Storage.party
    rw [hmount]
    exact List.Subset.refl _

/-! ### Uevents of the storage handler -/

/-- A device is told of an event, and has its place among the others afterwards. -/
theorem told_separate (hw : Rooted R w) (hs : ∀ kind, t.streams kind = w.streams kind)
    {d e : StorageDevice} (haddr : e.address = d.address)
    (hroot : e.rootPath = R ∨
      Own AtOrBelow (Below R) w.parties (.storage, d.address) e.rootPath)
    (hspots : ∀ m, e.Owns m → Avoids AtOrBelow R w.parties (.storage, d.address) m)
    (hlist : ∀ c ∈ t.storage.storageList,
      c = e ∨ (c ∈ w.storage.storageList ∧ c.address ≠ e.address)) :
    Separate AtOrBelow (Below R) R t.parties := by
  have hkey : e.party.key = (.storage, d.address) := congrArg (Prod.mk HandlerKind.storage) haddr
  refine hw.separate.settle (e := e.party) (fun a ha => ?_) (by rw [hkey]; exact hroot)
    fun m hm => by rw [hkey]; exact hspots m (StorageDevice.mem_spots.mp hm)
  rcases parties_of_storage hs ha with ⟨c, hc, rfl⟩ | ⟨hkind, ha⟩
  · rcases hlist c hc with rfl | ⟨hc, hne⟩
    · exact Or.inl rfl
    · exact Or.inr ⟨fun h => hne (congrArg Prod.snd h), storage_party hc⟩
  · exact Or.inr ⟨fun h => hkind (congrArg Prod.fst h), ha⟩

/-- What is put on record when a storage device is dropped. -/
theorem dropStorageDevice_deletes (env : Env) (s : Sys) (h : StorageDeviceHandler)
    (d : StorageDevice) :
    Sys.Adds (fun r => DeletesNothing r ∨
      d.DeletesRoot (h.dropStorageDevice env s d).state.mounted r) s
      (h.dropStorageDevice env s d).state := by
  rw [h.dropStorageDevice_mounted]
  refine ((d.onDeviceRemove_keeps env s).2.2.mono fun r hr => hr.imp_left ?_).trans ?_
  · rintro ⟨i, -, hi⟩ path hcall
    rw [hi] at hcall
    exact absurd hcall (by simp)
  · unfold StorageDeviceHandler.dropStorageDevice StorageDeviceHandler.removeDevice
    dsimp only
    split
    · exact (Sys.Adds.notify _ _ _ _).mono fun r hr => Or.inl hr
    · exact Sys.Adds.of_eq rfl

theorem storageEvent_rooted (hw : Rooted cfg.rootPath w) {devClass : DeviceClass}
    (hkeep : StorageKeepsRoots cfg env w devClass)
    (ho : EventOutcome cfg env w.sys w.storage devClass t.sys t.storage.storageList)
    (hs : ∀ kind, t.streams kind = w.streams kind) : StaysRooted cfg.rootPath w.sys t := by
  obtain ⟨htold, hremoved⟩ := hkeep
  cases ho with
  | ignored _ hsys hl =>
    refine ⟨hw.separate.of_comesFrom (parties_comeFrom (fun e he => ?_) fun kind e he => ?_),
      Sys.Adds.of_eq hsys.notables⟩
    · rw [hl] at he
      exact ⟨e, he, rfl, List.Subset.refl _⟩
    · rw [hs kind] at he
      exact ⟨e, he, rfl⟩
  | handed d htarget hmem ht hl =>
    have haddr := d.setDeviceInfo_address env w.sys devClass
    have hroot := StorageDevice.rootPath_of_core (d.setDeviceInfo_core env w.sys devClass)
    obtain ⟨hhome, hspots⟩ := htold d (by rw [htarget]; rfl)
    refine ⟨told_separate hw hs haddr ?_ (fun m hm => ?_) fun c hc => ?_, ?_⟩
    · rw [hroot]
      rcases hhome with hsame | hown
      · rw [hsame]
        exact hw.separate d.party (storage_party hmem)
      · exact Or.inr hown
    · rcases d.setDeviceInfo_owns env w.sys devClass hm with howns | hgain
      · exact hw.separate.avoids (storage_party hmem) (StorageDevice.mem_spots.mpr howns)
      · exact hspots m hgain
    · rw [hl] at hc
      exact WellFormed.mem_writeBack hc
    · rw [ht]
      exact Sys.Adds.of_eq (d.setDeviceInfo_notables env w.sys devClass)
  | created reader htarget ht hl =>
    have haddr := (newDevice cfg w.sys.next devClass reader).setDeviceInfo_address env w.sys.alloc
      devClass
    have hroot := StorageDevice.rootPath_of_core
      ((newDevice cfg w.sys.next devClass reader).setDeviceInfo_core env w.sys.alloc devClass)
    obtain ⟨hhome, hspots⟩ := htold _ (by rw [htarget]; rfl)
    refine ⟨told_separate hw hs haddr ?_ (fun m hm => ?_) fun c hc => ?_, ?_⟩
    · rw [hroot]
      exact hhome.imp_left fun hsame => hsame.trans (StorageDeviceHandler.newDevice_rootPath ..)
    · rcases (newDevice cfg w.sys.next devClass reader).setDeviceInfo_owns env w.sys.alloc devClass
        hm with ⟨p, hp, -⟩ | hgain
      · exact absurd hp (by simp)
      · exact hspots m hgain
    · rw [hl] at hc
      rw [haddr, StorageDeviceHandler.newDevice_address]
      exact hw.addressed.storage.mem_created.mp hc
    · rw [ht]
      exact (Sys.Adds.of_eq w.sys.alloc_notables).trans
        (Sys.Adds.of_eq (StorageDevice.setDeviceInfo_notables env w.sys.alloc _ devClass))
  | dropped d haction hfound ht hl =>
    have hmem := StorageDeviceHandler.removedDevice_mem hfound
    have hstay : ∀ b ∈ t.parties, b.key ≠ d.party.key ∧ b ∈ w.parties := by
      intro b hb
      rcases parties_of_storage hs hb with ⟨c, hc, rfl⟩ | ⟨hkind, hb⟩
      · rw [hl] at hc
        obtain ⟨hc, hne⟩ := List.mem_filter.mp hc
        exact ⟨fun h => of_decide_eq_true hne (congrArg Prod.snd h), storage_party hc⟩
      · exact ⟨fun h => hkind (congrArg Prod.fst h), hb⟩
    have hfree := hw.separate.leave (storage_party hmem) (hremoved haction d hfound) hstay
    refine ⟨hw.separate.of_comesFrom fun a ha => ComesFrom.refl (hstay a ha).2, ?_⟩
    have hdel := dropStorageDevice_deletes env w.sys w.storage d
    rw [← ht] at hdel
    refine hdel.mono fun r hr => ?_
    rcases hr with hquiet | ⟨rfl, -⟩
    · exact deletesFreely_of_nothing hquiet
    · exact deletesFreely_of_deletes (Deletes.root d.rootPath t.sys.mounted) hfree

/-! ### Uevents of a streaming handler -/

theorem streamEvent_rooted (hw : Rooted cfg.rootPath w) {devClass : DeviceClass}
    {kind : HandlerKind} (hkeep : StreamKeepsRoots cfg env w devClass kind)
    (ho : StreamOutcome env w.sys (w.streams kind) (w.joining cfg env devClass kind)
      (leaving (w.streams kind) devClass) t.sys (t.streams kind))
    (hs : ∀ other, other ≠ kind → t.streams other = w.streams other)
    (hst : t.storage = w.storage) : StaysRooted cfg.rootPath w.sys t := by
  obtain ⟨hjoins, hleaves⟩ := hkeep
  have hcome : (∀ e ∈ t.streams kind, e ∈ w.streams kind) →
      ∀ a ∈ t.parties, ComesFrom w.parties a := by
    intro hsub
    refine parties_comeFrom (fun e he => ⟨e, by rwa [← hst], rfl, List.Subset.refl _⟩)
      fun other e he => ⟨e, ?_, rfl⟩
    by_cases hother : other = kind
    · subst hother
      exact hsub e he
    · rwa [← hs other hother]
  cases ho with
  | ignored _ _ ht hl =>
    refine ⟨hw.separate.of_comesFrom (hcome fun e he => by rwa [← hl]), ?_⟩
    rw [ht]
    exact Sys.Adds.of_eq rfl
  | joined j e hjoin hup haddr hseat _ _ _ hnot _ hl =>
    obtain ⟨hhome, hspots⟩ := hjoins j hjoin
    obtain ⟨headdr, heroot, hemount⟩ := Storage.seat_eq_iff.mp hseat
    have hkey : (e.party kind).key = (kind, j.device.address) := congrArg (Prod.mk kind) headdr
    have hkind : kind ≠ .storage := stream_kind (w := t) (d := e) (by rw [hl]; simp)
    refine ⟨hw.separate.settle (e := e.party kind) (fun a ha => ?_) ?_ fun m hm => ?_,
      Sys.Adds.of_eq hnot⟩
    · rcases parties_of_stream hkind hst hs ha with ⟨c, hc, rfl⟩ | ⟨hne, ha⟩
      · rw [hl] at hc
        rcases List.mem_append.mp hc with hc | hc
        · refine Or.inr ⟨fun h => ?_, stream_party hc⟩
          have hlt := hw.addressed.given kind c hc
          have hsame : c.address = e.address := congrArg Prod.snd h
          omega
        · exact Or.inl (congrArg (Storage.party kind) (List.mem_singleton.mp hc))
      · exact Or.inr ⟨fun h => hne (congrArg Prod.fst h), ha⟩
    · rw [hkey]
      show e.rootPath = _ ∨ Own _ _ _ _ e.rootPath
      rw [heroot]
      exact hhome.imp_left And.right
    · rw [hkey, List.mem_singleton.mp hm]
      show Avoids _ _ _ _ e.mountName
      rw [hemount]
      exact hspots hup
  | failed j hjoin hdown haddr _ hdel _ hl =>
    obtain ⟨hhome, -⟩ := hjoins j hjoin
    have hown := hhome.resolve_left fun h => by simp [hdown] at h
    have hcome := hcome fun e he => by rwa [← hl]
    refine ⟨hw.separate.of_comesFrom hcome, hdel.mono fun r hr =>
      deletesFreely_of_deletes hr ⟨hown.fit, fun a ha m hm => ?_⟩⟩
    -- The device has not been listed, so whoever is listed is another one.
    refine hown.spares.of_comesFrom hcome a ha (fun hkey => ?_) m hm
    have hnext : a.key.2 = w.sys.next := (congrArg Prod.snd hkey).trans haddr
    obtain ⟨b, hb, hba, -⟩ := hcome a ha
    rcases mem_parties.mp hb with ⟨d, hd, rfl⟩ | ⟨other, d, hd, rfl⟩
    · have hlt := hw.addressed.storage.given d hd
      have hsame : a.key.2 = d.address := congrArg Prod.snd hba
      omega
    · have hlt := hw.addressed.given other d hd
      have hsame : a.key.2 = d.address := congrArg Prod.snd hba
      omega
  | left d hjoin hleave hd _ hdel _ hl =>
    have hkind := stream_kind hd
    have hstay : ∀ b ∈ t.parties, b.key ≠ (d.party kind).key ∧ b ∈ w.parties := by
      intro b hb
      rcases parties_of_stream hkind hst hs hb with ⟨c, hc, rfl⟩ | ⟨hne, hb⟩
      · rw [hl] at hc
        obtain ⟨hc, hne⟩ := List.mem_filter.mp hc
        exact ⟨fun h => of_decide_eq_true hne (congrArg Prod.snd h), stream_party hc⟩
      · exact ⟨fun h => hne (congrArg Prod.fst h), hb⟩
    have hfree := hw.separate.leave (stream_party hd) (hleaves d hleave) hstay
    exact ⟨hw.separate.of_comesFrom fun a ha => ComesFrom.refl (hstay a ha).2,
      hdel.mono fun r hr => deletesFreely_of_deletes hr hfree⟩

/-! ### Every step -/

/-- A check or a format is no deletion. -/
theorem deletesNothing_of_worked {l : List StorageDevice} {r : CallRecord}
    (h : ∃ d ∈ l, d.Worked r) : DeletesNothing r := by
  obtain ⟨d, -, p, -, hcall⟩ := h
  intro path hpath
  rw [DiskPartitionInfo.Worked, hpath] at hcall
  rcases hcall with hcall | hcall
  · exact absurd hcall (by simp)
  · exact absurd hcall (by simp)

/-- **A step keeps everyone settled and deletes freely.** -/
theorem deliver_rooted (hw : Rooted cfg.rootPath w) {input : Input}
    (hkeep : KeepsRoots cfg w (env, input)) :
    StaysRooted cfg.rootPath w.sys (w.deliver cfg env input) := by
  have ho : StepOutcome cfg env w input (w.deliver cfg env input) :=
    deliver_outcome hw.addressed input
  generalize w.deliver cfg env input = t at ho
  have hcome : (∀ e ∈ t.storage.storageList, ∃ d ∈ w.storage.storageList,
      e.core = d.core ∧ e.idents ⊆ d.idents) →
      (∀ kind, ∀ e ∈ t.streams kind, ∃ d ∈ w.streams kind, e.seat = d.seat) →
      Sys.Adds DeletesNothing w.sys t.sys → StaysRooted cfg.rootPath w.sys t :=
    fun hst hs hquiet => ⟨hw.separate.of_comesFrom (parties_comeFrom hst hs),
      hquiet.mono fun r hr => deletesFreely_of_nothing hr⟩
  have hsame : t.storage = w.storage → ∀ e ∈ t.storage.storageList, ∃ d ∈ w.storage.storageList,
      e.core = d.core ∧ e.idents ⊆ d.idents :=
    fun hst e he => ⟨e, by rwa [← hst], rfl, List.Subset.refl _⟩
  cases ho with
  | storage i hi ht hs =>
    by_cases hevent : ∃ devClass, i = .uevent devClass
    · obtain ⟨devClass, rfl⟩ := hevent
      rw [hi] at hkeep
      have ho : EventOutcome cfg env w.sys w.storage devClass
          (w.toStorageSystem.deliver cfg env (.uevent devClass)).sys
          (w.toStorageSystem.deliver cfg env (.uevent devClass)).storage.storageList :=
        w.storage.HandlerEvent_outcome cfg env w.sys devClass
      rw [← ht] at ho
      exact storageEvent_rooted hw hkeep ho hs
    · have hrest : ∀ devClass, i ≠ .uevent devClass := fun devClass hd => hevent ⟨devClass, hd⟩
      have hin := w.toStorageSystem.deliver_within cfg env hrest
      rw [← ht] at hin
      refine hcome (fun e he => ?_) (fun kind e he => ⟨e, by rwa [← hs kind], rfl⟩) ?_
      · obtain ⟨d, hd, hcore, -, hidents⟩ := hin.each e he
        exact ⟨d, hd, hcore, hidents⟩
      · exact hin.quiet.mono fun r hr => deletesNothing_of_worked hr
  | streamEvent kind devClass hi ho hs hst =>
    rw [hi] at hkeep
    have hkeep' : StreamKeepsRoots cfg env w devClass kind := by
      cases kind with
      | storage => exact ⟨fun j hj => by simp [joining] at hj, fun d hd => by
          simp [streams, leaving, getDeviceWithPath] at hd⟩
      | _ => exact hkeep
    exact streamEvent_rooted hw hkeep' ho hs hst
  | streamRest kind hk hs hst =>
    refine hcome (hsame hst) (fun other e he => ?_) hk.quiet
    by_cases hother : other = kind
    · subst hother
      have hmem : e.seat ∈ (w.streams other).map (·.seat) := by
        rw [← hk.seats]
        exact List.mem_map_of_mem he
      obtain ⟨d, hd, hde⟩ := List.mem_map.mp hmem
      exact ⟨d, hd, hde.symm⟩
    · exact ⟨e, by rwa [← hs other hother], rfl⟩
  | chatter hc hs hst =>
    exact hcome (hsame hst) (fun kind e he => ⟨e, by rwa [← hs kind], rfl⟩) hc.quiet

/-- Whatever the step deletes is strictly below the shared directory, and no device that
is attached has a mount point there. -/
def SafeDeletes (cfg : Config) (w : World) (i : Env × Input) : Prop :=
  ∀ r ∈ (w.step cfg i).sys.calls, ∀ path, r.call = .removeDirRecursive path →
    Below cfg.rootPath path ∧
      ∀ a ∈ (w.step cfg i).parties, ∀ m ∈ a.spots, ¬ AtOrBelow path m

theorem step_rooted {i : Env × Input} (hw : Rooted cfg.rootPath w) (hkeep : KeepsRoots cfg w i) :
    Rooted cfg.rootPath (w.step cfg i) ∧ StaysRooted cfg.rootPath w.clear.sys (w.step cfg i) := by
  have hclear : Rooted cfg.rootPath w.clear := ⟨hw.addressed.clear, hw.separate⟩
  have hstay : StaysRooted cfg.rootPath w.clear.sys (w.step cfg i) := deliver_rooted hclear hkeep
  exact ⟨⟨deliver_addressed hclear.addressed i.2, hstay.separate⟩, hstay⟩

/-- A deletion is notable. -/
theorem StaysRooted.free (h : StaysRooted R w.clear.sys t) :
    ∀ r ∈ t.sys.calls, DeletesFreely R t.parties r :=
  fun r hr path hpath => h.deletes.forall_of_nil rfl r hr (by rw [hpath]; rfl) path hpath

theorem init_rooted : Rooted R {} :=
  ⟨init_addressed, fun a ha => absurd ha (by simp [parties, streams])⟩

end Steps

/-- **No deletion reaches the shared directory or a mount point of a device that stays.** -/
theorem deletes_safe (cfg : Config) (inputs : List (Env × Input))
    (hkeep : Runs.StepsAll (step cfg) (KeepsRoots cfg) {} inputs) :
    Runs.StepsAll (step cfg) (SafeDeletes cfg) {} inputs := by
  refine Runs.stepsAll_of_keeps (I := Rooted cfg.rootPath)
    (fun _ _ hw hkeep => (step_rooted hw hkeep).1) (fun w i hw hkeep r hr path hpath => ?_)
    init_rooted hkeep
  exact (step_rooted hw hkeep).2.free r hr path hpath

/-- The add event of a media player. -/
def playerEvent (devPath devName devLinks : String) : DeviceClass where
  action := "add"
  devType := "usb_device"
  mediaPlayerId := "1"
  devPath := devPath
  devName := devName
  devLinks := devLinks

/-- A stick and a media player are plugged, and the stick is pulled. -/
def plugAndPull : List (Env × Input) :=
  StorageSystem.plugStick.map (fun i => (i.1, i.2.toInput)) ++
    [(({} : Env), .uevent .mtp (playerEvent "/devices/usb1/1-2" "bus/usb/001/004" "/dev/libmtp")),
      ({}, .uevent .storage
        { StorageSystem.stickEvent "/devices/usb1/1-1" with action := "remove" })]

theorem deletes_safe_plugAndPull :
    Runs.StepsAll (step .tmpUsb) (KeepsRoots .tmpUsb) {} plugAndPull ∧
      Runs.StepsAll (step .tmpUsb) (SafeDeletes .tmpUsb) {} plugAndPull := by
  have hkeep : Runs.StepsAll (step .tmpUsb) (KeepsRoots .tmpUsb) {} plugAndPull := by decide
  exact ⟨hkeep, deletes_safe .tmpUsb plugAndPull hkeep⟩

/-- A stick is pulled before its disk was announced. -/
def pullEarly : List (Env × Input) :=
  [(({} : Env), .uevent .storage (StorageSystem.stickEvent "/devices/usb1/1-1")),
    ({}, .uevent .storage
      { StorageSystem.stickEvent "/devices/usb1/1-1" with action := "remove" })]

/-- The shared directory itself is deleted. -/
theorem pullEarly_deletes_shared :
    ¬ Runs.StepsAll (step .tmpUsb) (SafeDeletes .tmpUsb) {} pullEarly := by
  intro h
  have hlast := h.2.1 ⟨.removeDirRecursive "/tmp/usb/", ∅⟩ (by decide) "/tmp/usb/" rfl
  exact absurd hlast.1 (by decide)

end World

end Pdm
