/-
No two objects have one address.

Every object gets the next free address, so two devices of the list never share one,
and neither do two partitions of a device.  This is what makes writing an object back
at its address a change of that object alone.
-/
import Pdm.Lib.Runs
import Pdm.Proofs.Methods

namespace Pdm

/-! ### The partitions of a device after an event -/

namespace StorageDevice

variable (env : Env) (s : Sys) (d : StorageDevice) (devClass : DeviceClass)

/-- `setPartitionInfo` lists a new partition last, unless one has the name already. -/
theorem setPartitionInfo_cases :
    ((d.findPartition devClass.devName).isSome = true ∧
        setPartitionInfo env s d devClass = ⟨s, d, ()⟩) ∨
      (d.findPartition devClass.devName = none ∧
        (setPartitionInfo env s d devClass).state.next = s.next + 1 ∧
        (setPartitionInfo env s d devClass).obj.idents =
          (addPartition env s d devClass).obj.idents) := by
  unfold setPartitionInfo
  cases hfind : d.findPartition devClass.devName with
  | some p => exact Or.inl ⟨rfl, by simp⟩
  | none =>
    refine Or.inr ⟨rfl, ?_⟩
    simp only [Option.isSome_none, Bool.false_eq_true, if_false]
    split
    · exact ⟨by simp, by simp⟩
    · exact ⟨by simp, rfl⟩

theorem addresses_eq_idents (d : StorageDevice) : d.addresses = d.idents.map (·.1) := by
  unfold addresses idents
  rw [List.map_map]
  rfl

theorem addPartition_addresses :
    (addPartition env s d devClass).obj.addresses = d.addresses ++ [s.next] := by
  unfold addresses
  rw [addPartition_list, List.map_append]
  rfl

/-- An event does not change which device a device is. -/
theorem informed_keeps :
    (informed env d devClass).address = d.address ∧ (informed env d devClass).node = d.node ∧
      (informed env d devClass).isExtraSdCard = d.isExtraSdCard ∧
      (informed env d devClass).configRootPath = d.configRootPath := by
  unfold informed
  split
  · exact ⟨rfl, rfl, rfl, rfl⟩
  · split
    · unfold updateDeviceInfo
      dsimp only
      split <;> simp
    · exact ⟨rfl, rfl, rfl, rfl⟩
    · split
      · unfold updateMultiSdCard
        split <;> exact ⟨rfl, rfl, rfl, rfl⟩
      · unfold updateMultiSdCard
        split <;> exact ⟨rfl, rfl, rfl, rfl⟩

theorem setDeviceInfo_address :
    (setDeviceInfo env s d devClass).obj.address = d.address :=
  (address_of_core (setDeviceInfo_core env s d devClass)).trans (informed_keeps env d devClass).1

/-- An event gives out an address to the partition it adds, if any. -/
theorem setDeviceInfo_next : s.next ≤ (setDeviceInfo env s d devClass).state.next := by
  rcases setDeviceInfo_cases env s d devClass with ⟨d₀, s₀, -, hs₀, hr⟩ | ⟨-, hr⟩ | ⟨-, -, -, t, ht, hr⟩
  · rw [hr.next, ← hs₀.next]
    rcases setPartitionInfo_cases env s₀ d₀ devClass with ⟨-, hsame⟩ | ⟨-, hnext, -⟩
    · rw [hsame]
    · omega
  · exact Nat.le_of_eq hr.next.symm
  · rw [hr.next, umountAllPartition_next, ht.next]

/-- The device a partition is added to has the partitions of the device it is. -/
theorem receiver_list {d₀ : StorageDevice} (h : receiver env d devClass = some d₀) :
    d₀.diskPartitionList = d.diskPartitionList ∧ d₀.address = d.address ∧
      d₀.fsckThreadArray = d.fsckThreadArray := by
  unfold receiver at h
  split at h
  · exact absurd h (by simp)
  · split at h
    · exact absurd h (by simp)
    · simp only [Option.some.injEq] at h
      rw [← h]
      exact ⟨rfl, rfl, rfl⟩
    · split at h
      · dsimp only at h
        split at h
        · simp only [Option.some.injEq] at h
          rw [← h]
          exact ⟨rfl, rfl, rfl⟩
        · exact absurd h (by simp)
      · split at h
        · simp only [Option.some.injEq] at h
          rw [← h]
          exact ⟨rfl, rfl, rfl⟩
        · exact absurd h (by simp)
      · exact absurd h (by simp)

/-- The mount point that an event gives the device, with a partition. -/
def Gains (env : Env) (d : StorageDevice) (devClass : DeviceClass) (m : String) : Prop :=
  ∃ d₀, receiver env d devClass = some d₀ ∧ d.findPartition devClass.devName = none ∧
    d₀.newMountName devClass = m

/-- The mount point gained is that of the partition added. -/
theorem forall_gains {Q : String → Prop} :
    (∀ m, d.Gains env devClass m → Q m) ↔
      ∀ d₀ ∈ receiver env d devClass, d.findPartition devClass.devName = none →
        Q (d₀.newMountName devClass) := by
  refine ⟨fun h d₀ hd₀ hnew => h _ ⟨d₀, hd₀, hnew, rfl⟩, ?_⟩
  rintro h m ⟨d₀, hd₀, hnew, rfl⟩
  exact h d₀ hd₀ hnew

theorem findPartition_congr {d e : StorageDevice} (h : d.diskPartitionList = e.diskPartitionList)
    {driveName : String} : d.findPartition driveName = e.findPartition driveName := by
  unfold findPartition
  rw [h]

theorem Owns.congr {d e : StorageDevice} (h : e.diskPartitionList = d.diskPartitionList)
    {m : String} : e.Owns m ↔ d.Owns m := by
  unfold Owns
  rw [h]

/-- A device has no mount point after an event that it did not have or gain. -/
theorem setDeviceInfo_owns {m : String} (h : (setDeviceInfo env s d devClass).obj.Owns m) :
    d.Owns m ∨ d.Gains env devClass m := by
  rcases setDeviceInfo_cases env s d devClass with
    ⟨d₀, s₀, hd₀, -, hr⟩ | ⟨-, hr⟩ | ⟨-, -, -, t, -, hr⟩
  · have hlist := (receiver_list env d devClass hd₀).1
    rcases setPartitionInfo_cases env s₀ d₀ devClass with ⟨-, hsame⟩ | ⟨hnew, -, hidents⟩
    · rw [hsame] at hr
      exact Or.inl ((Owns.congr (hr.parts.trans hlist)).mp h)
    · obtain ⟨p, hp, hpm⟩ := (Owns.congr hr.parts).mp h
      have hmem := mem_idents hp
      rw [hidents] at hmem
      obtain ⟨q, hq, hqp⟩ := List.mem_map.mp hmem
      have hname := (DiskPartitionInfo.ident_eq_iff.mp hqp).2.2.2.1
      rw [addPartition_list, hlist, List.mem_append, List.mem_singleton] at hq
      rcases hq with hq | rfl
      · exact Or.inl ⟨q, hq, hname.trans hpm⟩
      · exact Or.inr ⟨d₀, hd₀, (findPartition_congr hlist).symm.trans hnew, hname.trans hpm⟩
  · exact Or.inl ((Owns.congr hr.parts).mp h)
  · obtain ⟨p, hp, -⟩ := (Owns.congr (e := _) (d := { d with diskPartitionList := [] }) hr.parts).mp h
    exact absurd hp (by simp)

/-- An event makes a device check, format and delete nothing. -/
theorem setDeviceInfo_notables :
    (setDeviceInfo env s d devClass).state.notables = s.notables := by
  rcases setDeviceInfo_cases env s d devClass with
    ⟨d₀, s₀, -, hs₀, hr⟩ | ⟨-, hr⟩ | ⟨-, -, -, t, ht, hr⟩
  · rw [hr.notables, setPartitionInfo_notables, hs₀.notables]
  · exact hr.notables
  · rw [hr.notables, umountAllPartition_notables, ht.notables]

/-- The partitions' addresses are distinct, and all have been given. -/
structure Distinct (next : Nat) (d : StorageDevice) : Prop where
  nodup : d.addresses.Nodup
  given : ∀ a ∈ d.addresses, a < next

theorem Distinct.mono {next next' : Nat} {d e : StorageDevice} (h : Distinct next d)
    (hnext : next ≤ next') (haddr : e.addresses = d.addresses) : Distinct next' e := by
  refine ⟨by rw [haddr]; exact h.nodup, fun a ha => ?_⟩
  rw [haddr] at ha
  exact Nat.lt_of_lt_of_le (h.given a ha) hnext

theorem setPartitionInfo_distinct (h : Distinct s.next d) :
    s.next ≤ (setPartitionInfo env s d devClass).state.next ∧
      Distinct (setPartitionInfo env s d devClass).state.next
        (setPartitionInfo env s d devClass).obj := by
  rcases setPartitionInfo_cases env s d devClass with ⟨-, hsame⟩ | ⟨-, hnext, hidents⟩
  · rw [hsame]
    exact ⟨Nat.le_refl _, h⟩
  · have haddr : (setPartitionInfo env s d devClass).obj.addresses = d.addresses ++ [s.next] := by
      rw [addresses_eq_idents, hidents, ← addresses_eq_idents, addPartition_addresses]
    refine ⟨by omega, ?_, fun a ha => ?_⟩
    · rw [haddr]
      refine List.nodup_append'.mpr ⟨h.nodup, by simp, fun a ha ha' => ?_⟩
      have hlt := h.given a ha
      rw [List.mem_singleton] at ha'
      omega
    · rw [haddr] at ha
      rcases List.mem_append.mp ha with ha | ha
      · have hlt := h.given a ha
        omega
      · rw [List.mem_singleton] at ha
        omega

theorem setDeviceInfo_distinct (h : Distinct s.next d) :
    s.next ≤ (setDeviceInfo env s d devClass).state.next ∧
      Distinct (setDeviceInfo env s d devClass).state.next
        (setDeviceInfo env s d devClass).obj := by
  rcases setDeviceInfo_cases env s d devClass with
    ⟨d₀, s₀, hd₀, hs₀, hr⟩ | ⟨-, hr⟩ | ⟨-, -, -, t, ht, hr⟩
  · have haddr : d₀.addresses = d.addresses := by
      unfold addresses
      rw [(receiver_list env d devClass hd₀).1]
    have hadd := setPartitionInfo_distinct env s₀ d₀ devClass
      (h.mono (Nat.le_of_eq hs₀.next.symm) haddr)
    rw [hr.next]
    refine ⟨hs₀.next ▸ hadd.1, hadd.2.mono (Nat.le_refl _) ?_⟩
    unfold addresses
    rw [hr.parts]
  · refine ⟨Nat.le_of_eq hr.next.symm, h.mono (Nat.le_of_eq hr.next.symm) ?_⟩
    unfold addresses
    rw [hr.parts]
  · refine ⟨?_, ?_, ?_⟩
    · rw [hr.next, umountAllPartition_next, ht.next]
    · unfold addresses
      rw [hr.parts]
      exact List.nodup_nil
    · intro a ha
      unfold addresses at ha
      rw [hr.parts] at ha
      exact absurd ha (by simp)

end StorageDevice

/-! ### The list of devices -/

open StorageDevice

/-- An event takes no address back. -/
theorem StorageDeviceHandler.EventOutcome.next {cfg : Config} {env : Env} {s t : Sys}
    {hdl : StorageDeviceHandler} {devClass : DeviceClass} {l : List StorageDevice}
    (ho : EventOutcome cfg env s hdl devClass t l) : s.next ≤ t.next := by
  cases ho with
  | ignored _ hs _ => exact Nat.le_of_eq hs.next.symm
  | handed d _ _ ht _ =>
    rw [ht]
    exact setDeviceInfo_next env s d devClass
  | created reader _ ht _ =>
    have hnext := setDeviceInfo_next env s.alloc (newDevice cfg s.next devClass reader) devClass
    rw [Sys.alloc_next] at hnext
    rw [ht]
    omega
  | dropped d _ _ ht _ =>
    rw [ht]
    exact Nat.le_of_eq (dropStorageDevice_next env s hdl d).symm

/-- The addresses of the devices, and of each device's partitions, are distinct, and all
have been given. -/
structure WellFormed (s : Sys) (l : List StorageDevice) : Prop where
  nodup : (l.map (·.address)).Nodup
  given : ∀ d ∈ l, d.address < s.next
  parts : ∀ d ∈ l, Distinct s.next d

namespace WellFormed

variable {s t : Sys} {l l' : List StorageDevice}

/-- Two entries with one address are one device. -/
theorem eq_of_address (h : WellFormed s l) {d e : StorageDevice} (hd : d ∈ l) (he : e ∈ l)
    (haddr : d.address = e.address) : d = e :=
  List.inj_on_of_nodup_map h.nodup hd he haddr

theorem within (h : WellFormed s l) (hw : WithinList s l t l') : WellFormed t l' := by
  refine ⟨by rw [hw.listed]; exact h.nodup, fun e he => ?_, fun e he => ?_⟩
  · obtain ⟨d, hd, hcore, -, -⟩ := hw.each e he
    rw [hw.next, address_of_core hcore]
    exact h.given d hd
  · obtain ⟨d, hd, -, haddr, -⟩ := hw.each e he
    exact (h.parts d hd).mono (Nat.le_of_eq hw.next.symm) haddr

theorem later (h : WellFormed s l) (hnext : s.next ≤ t.next) : WellFormed t l :=
  ⟨h.nodup, fun d hd => Nat.lt_of_lt_of_le (h.given d hd) hnext,
    fun d hd => (h.parts d hd).mono hnext rfl⟩

theorem writeBack_addresses (l : List StorageDevice) (e : StorageDevice) :
    (writeBack l e).map (·.address) = l.map (·.address) :=
  Keyed.put_keys (fun x : StorageDevice => x.address) l e

/-- What is in a list after one device was written back. -/
theorem mem_writeBack {x e : StorageDevice} (hx : x ∈ writeBack l e) :
    x = e ∨ (x ∈ l ∧ x.address ≠ e.address) :=
  Keyed.mem_put (fun x : StorageDevice => x.address) hx

/-- What is in the list after a listed device was told of an event. -/
theorem mem_handed {x d e : StorageDevice} (hd : d ∈ l) (haddr : e.address = d.address) :
    x ∈ writeBack l e ↔ x = e ∨ (x ∈ l ∧ x.address ≠ d.address) := by
  rw [← haddr]
  constructor
  · exact mem_writeBack
  · rintro (rfl | ⟨hx, hne⟩)
    · exact List.mem_map.mpr ⟨d, hd, if_pos haddr.symm⟩
    · exact List.mem_map.mpr ⟨x, hx, if_neg hne⟩

/-- What is in the list after a device was added: no other has the address that is given out
next. -/
theorem mem_created (h : WellFormed s l) {x e : StorageDevice} :
    x ∈ l ++ [e] ↔ x = e ∨ (x ∈ l ∧ x.address ≠ s.next) := by
  rw [List.mem_append, List.mem_singleton]
  constructor
  · rintro (hx | hx)
    · exact Or.inr ⟨hx, Nat.ne_of_lt (h.given x hx)⟩
    · exact Or.inl hx
  · rintro (hx | ⟨hx, -⟩)
    · exact Or.inr hx
    · exact Or.inl hx

theorem event (h : WellFormed s l) {cfg : Config} {env : Env} {devClass : DeviceClass}
    {hdl : StorageDeviceHandler} (hl : hdl.storageList = l)
    (ho : StorageDeviceHandler.EventOutcome cfg env s hdl devClass t l') : WellFormed t l' := by
  subst hl
  cases ho with
  | ignored _ hs hl =>
    subst hl
    exact h.later (Nat.le_of_eq hs.next.symm)
  | handed d _ hmem ht hl =>
    obtain ⟨hnext, hdist⟩ := setDeviceInfo_distinct env s d devClass (h.parts d hmem)
    have haddr := setDeviceInfo_address env s d devClass
    rw [← ht] at hnext hdist
    have hlater := h.later hnext
    subst hl
    refine ⟨by rw [writeBack_addresses]; exact h.nodup, fun e he => ?_, fun e he => ?_⟩
    · rcases mem_writeBack he with rfl | ⟨he, -⟩
      · rw [haddr]
        exact hlater.given d hmem
      · exact hlater.given e he
    · rcases mem_writeBack he with rfl | ⟨he, -⟩
      · exact hdist
      · exact hlater.parts e he
  | created reader _ ht hl =>
    have hempty : Distinct s.alloc.next
        (StorageDeviceHandler.newDevice cfg s.next devClass reader) := by
      refine ⟨?_, ?_⟩
      · simp [addresses]
      · simp [addresses]
    obtain ⟨hnext, hdist⟩ := setDeviceInfo_distinct env s.alloc _ devClass hempty
    have haddr := setDeviceInfo_address env s.alloc
      (StorageDeviceHandler.newDevice cfg s.next devClass reader) devClass
    rw [StorageDeviceHandler.newDevice_address] at haddr
    rw [← ht, Sys.alloc_next] at hnext
    rw [← ht] at hdist
    have hlater := h.later (show s.next ≤ t.next by omega)
    subst hl
    refine ⟨?_, fun e he => ?_, fun e he => ?_⟩
    · rw [List.map_append, List.map_singleton, haddr]
      refine List.nodup_append'.mpr ⟨h.nodup, by simp, fun a ha ha' => ?_⟩
      obtain ⟨d, hd, rfl⟩ := List.mem_map.mp ha
      have hlt := h.given d hd
      rw [List.mem_singleton] at ha'
      omega
    · rcases List.mem_append.mp he with he | he
      · exact hlater.given e he
      · rw [List.mem_singleton.mp he, haddr]
        omega
    · rcases List.mem_append.mp he with he | he
      · exact hlater.parts e he
      · rw [List.mem_singleton.mp he]
        exact hdist
  | dropped d _ _ ht hl =>
    have hnext : t.next = s.next := by
      rw [ht]
      exact StorageDeviceHandler.dropStorageDevice_next env s hdl d
    have hlater := h.later (Nat.le_of_eq hnext.symm)
    subst hl
    exact ⟨h.nodup.sublist (List.filter_sublist.map _),
      fun e he => hlater.given e (List.mem_filter.mp he).1,
      fun e he => hlater.parts e (List.mem_filter.mp he).1⟩

end WellFormed

namespace StorageSystem

/-- The addresses of the storage devices and their partitions are distinct. -/
def Valid (w : StorageSystem) : Prop := WellFormed w.sys w.storage.storageList

theorem deliver_valid {cfg : Config} {env : Env} {w : StorageSystem} (h : w.Valid)
    (input : StorageInput) : (w.deliver cfg env input).Valid := by
  by_cases hevent : ∃ devClass, input = .uevent devClass
  · obtain ⟨devClass, rfl⟩ := hevent
    exact WellFormed.event h rfl (w.storage.HandlerEvent_outcome cfg env w.sys devClass)
  · exact WellFormed.within h (w.deliver_within cfg env fun devClass hd => hevent ⟨devClass, hd⟩)

theorem deliver_next (cfg : Config) (env : Env) (w : StorageSystem) (input : StorageInput) :
    w.sys.next ≤ (w.deliver cfg env input).sys.next := by
  by_cases hevent : ∃ devClass, input = .uevent devClass
  · obtain ⟨devClass, rfl⟩ := hevent
    exact (w.storage.HandlerEvent_outcome cfg env w.sys devClass).next
  · exact Nat.le_of_eq (w.deliver_within cfg env fun devClass hd => hevent ⟨devClass, hd⟩).next.symm

theorem step_valid {cfg : Config} {w : StorageSystem} (h : w.Valid) (i : Env × StorageInput) :
    (w.step cfg i).Valid :=
  deliver_valid (w := w.clear) ⟨h.nodup, h.given, h.parts⟩ i.2

theorem init_valid : ({} : StorageSystem).Valid := ⟨by simp, by simp, by simp⟩

end StorageSystem

end Pdm
