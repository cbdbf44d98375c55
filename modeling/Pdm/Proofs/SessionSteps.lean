/-
What the parts of a `setDeviceForSession` request leave.

The service only ever appends to its acts, so a part of a request shows an observer a list
of its own, and parts that follow each other show their lists one after the other.  An
observer here overlooks the mounts, the toasts of connected devices and the lists of one
kind, so that what is left to see of a device is what is undone of it.

A device keeps its path, its set and its kind while it is stored and mounted.  So what the
records say of the sets of devices changes once in each step, where the device is stored.
-/
import Pdm.Framework.DeviceSessions

namespace Pdm

open SessionService

/-! ### Sets on record -/

/-- A device on this path has a record with this set. -/
def History.sets (h : History) (hubPortPath deviceSetId : String) : Prop :=
  ∃ d ∈ h.entries, d.hubPortPath = hubPortPath ∧ d.deviceSetId = deviceSetId

namespace History

variable {h : History} {d : SessionDevice} {p x y : String}

theorem sets_unique (hx : h.sets p x) (hy : h.sets p y) : x = y := by
  obtain ⟨d, hd, hdp, rfl⟩ := hx
  obtain ⟨e, he, hep, rfl⟩ := hy
  rw [h.eq_of_key hd he (hdp.trans hep.symm)]

theorem sets_put : History.sets (h.put d) p x ↔
    (p = d.hubPortPath ∧ x = d.deviceSetId) ∨ (p ≠ d.hubPortPath ∧ h.sets p x) := by
  constructor
  · rintro ⟨e, he, rfl, rfl⟩
    rcases KeyedStore.mem_put.mp he with rfl | ⟨he, hne⟩
    · exact Or.inl ⟨rfl, rfl⟩
    · exact Or.inr ⟨hne, e, he, rfl, rfl⟩
  · rintro (⟨rfl, rfl⟩ | ⟨hne, e, he, rfl, rfl⟩)
    · exact ⟨d, KeyedStore.mem_put.mpr (Or.inl rfl), rfl, rfl⟩
    · exact ⟨e, KeyedStore.mem_put.mpr (Or.inr ⟨he, hne⟩), rfl, rfl⟩

theorem sets_remove {k : String} : History.sets (h.remove k) p x ↔ p ≠ k ∧ h.sets p x := by
  constructor
  · rintro ⟨e, he, rfl, rfl⟩
    obtain ⟨he, hne⟩ := KeyedStore.mem_remove.mp he
    exact ⟨hne, e, he, rfl, rfl⟩
  · rintro ⟨hne, e, he, rfl, rfl⟩
    exact ⟨e, KeyedStore.mem_remove.mpr ⟨he, hne⟩, rfl, rfl⟩

/-- Storing a device again leaves the sets as they are. -/
theorem sets_put_again (hd : h.sets d.hubPortPath d.deviceSetId) :
    History.sets (h.put d) p x ↔ h.sets p x := by
  rw [sets_put]
  constructor
  · rintro (⟨rfl, rfl⟩ | ⟨-, hx⟩)
    · exact hd
    · exact hx
  · intro hx
    by_cases hp : p = d.hubPortPath
    · subst hp
      exact Or.inl ⟨rfl, sets_unique hx hd⟩
    · exact Or.inr ⟨hp, hx⟩

end History

namespace SessionService

/-! ### Observers -/

section Shows

variable {β : Type} {f : SessionAct → Option β} {s t u : SessionService} {seen more : List β}

/-- What `t` has done since `s`, as `f` sees it. -/
def Shows (f : SessionAct → Option β) (s t : SessionService) (seen : List β) : Prop :=
  ∃ acts, t.acts = s.acts ++ acts ∧ acts.filterMap f = seen

theorem Shows.refl : Shows f s s [] := ⟨[], by simp, rfl⟩

theorem Shows.trans (h : Shows f s t seen) (h' : Shows f t u more) : Shows f s u (seen ++ more) := by
  obtain ⟨acts, hacts, rfl⟩ := h
  obtain ⟨acts', hacts', rfl⟩ := h'
  exact ⟨acts ++ acts', by rw [hacts', hacts, List.append_assoc], List.filterMap_append⟩

theorem Shows.act (f : SessionAct → Option β) (s : SessionService) (acts : List SessionAct) :
    Shows f s (s.act acts) (acts.filterMap f) := ⟨acts, rfl, rfl⟩

theorem Shows.drop (h : Shows f s t seen) : (t.acts.drop s.acts.length).filterMap f = seen := by
  obtain ⟨acts, hacts, rfl⟩ := h
  rw [hacts, List.drop_left]

/-- The events that tell a display of one kind of its devices. -/
theorem mem_notifyToDisplay {payload : SessionPayload} {deviceSetId deviceType : String}
    {a : SessionAct} (ha : a ∈ notifyToDisplay payload deviceSetId deviceType) :
    ∃ event, a = .subscriptionReply event payload ∧
      ((∃ d : Display, d.name = deviceSetId ∧
          (event = .autoDevices d ∨ event = .autoNonStorageDevices d)) ∨
        event = .autoStorageDevicesHost ∨ event = .autoNonStorageDevicesHost) := by
  unfold notifyToDisplay at ha
  split at ha <;> rcases List.mem_append.mp ha with ha | ha
  · obtain ⟨d, hd, rfl⟩ := List.mem_map.mp ha
    exact ⟨_, rfl, Or.inl ⟨d, of_decide_eq_true (List.mem_filter.mp hd).2, Or.inl rfl⟩⟩
  · split at ha
    · rw [List.mem_singleton.mp ha]
      exact ⟨_, rfl, Or.inr (Or.inl rfl)⟩
    · cases ha
  · obtain ⟨d, hd, rfl⟩ := List.mem_map.mp ha
    exact ⟨_, rfl, Or.inl ⟨d, of_decide_eq_true (List.mem_filter.mp hd).2, Or.inr rfl⟩⟩
  · split at ha
    · rw [List.mem_singleton.mp ha]
      exact ⟨_, rfl, Or.inr (Or.inr rfl)⟩
    · cases ha

/-- An observer of what is undone of devices and of the lists of all devices. -/
structure Overlooks (f : SessionAct → Option β) : Prop where
  mounts : ∀ mountName driveName deviceSetId fsType,
    f (.mountDeviceToSession mountName driveName deviceSetId fsType) = none
  connected : ∀ device deviceSetId, f (.displayConnectedToast device deviceSetId) = none
  lists : ∀ event payload, (∀ d, event ≠ .autoAttachedAllDevices d) →
    f (.subscriptionReply event payload) = none

theorem Overlooks.notifyToDisplay (hf : Overlooks f) (payload : SessionPayload)
    (deviceSetId deviceType : String) :
    (Pdm.notifyToDisplay payload deviceSetId deviceType).filterMap f = [] := by
  refine List.filterMap_eq_nil_iff.mpr fun a ha => ?_
  obtain ⟨event, rfl, hevent⟩ := mem_notifyToDisplay ha
  refine hf.lists _ _ fun d heq => ?_
  rcases hevent with ⟨d', -, rfl | rfl⟩ | rfl | rfl <;> cases heq

theorem Overlooks.notifyDisplays (hf : Overlooks f) (payload : List SessionDevice → SessionPayload)
    (deviceType : String) (devices : List SessionDevice) :
    (SessionService.notifyDisplays payload deviceType devices).filterMap f = [] := by
  unfold SessionService.notifyDisplays
  rw [List.filterMap_append, hf.notifyToDisplay, List.append_nil, List.filterMap_flatMap]
  refine List.flatMap_eq_nil_iff.mpr fun d _ => ?_
  split
  · exact hf.notifyToDisplay _ _ _
  · rfl

end Shows

/-! ### Storing and mounting -/

@[simp] theorem updateGetAllDevicePayload_path (d : SessionDevice) :
    (updateGetAllDevicePayload d).hubPortPath = d.hubPortPath := by
  unfold updateGetAllDevicePayload; split <;> rfl

@[simp] theorem updateGetAllDevicePayload_set (d : SessionDevice) :
    (updateGetAllDevicePayload d).deviceSetId = d.deviceSetId := by
  unfold updateGetAllDevicePayload; split <;> rfl

@[simp] theorem withMountNames_path (d : SessionDevice) :
    (withMountNames d).hubPortPath = d.hubPortPath := by
  unfold withMountNames; split <;> rfl

@[simp] theorem withMountNames_set (d : SessionDevice) :
    (withMountNames d).deviceSetId = d.deviceSetId := by
  unfold withMountNames; split <;> rfl

/-- `te` comes from `sd` by storing the device again, with other mounts. -/
structure Mounts (sd te : SessionService × SessionDevice) : Prop where
  path : te.2.hubPortPath = sd.2.hubPortPath
  set : te.2.deviceSetId = sd.2.deviceSetId
  display : te.1.portDisplayMap = sd.1.portDisplayMap
  session : te.1.hubPortPathSessionIdMap = sd.1.hubPortPathSessionIdMap
  sets : (sd.2.deviceSetId ≠ "" → sd.1.history.sets sd.2.hubPortPath sd.2.deviceSetId) →
    ∀ p x, te.1.history.sets p x ↔ sd.1.history.sets p x
  shows : ∀ {β : Type} {f : SessionAct → Option β}, Overlooks f → Shows f sd.1 te.1 []

theorem Mounts.refl (sd : SessionService × SessionDevice) : Mounts sd sd :=
  ⟨rfl, rfl, rfl, rfl, fun _ _ _ => Iff.rfl, fun _ => Shows.refl⟩

theorem Mounts.trans {sd te uf : SessionService × SessionDevice} (h : Mounts sd te)
    (h' : Mounts te uf) : Mounts sd uf where
  path := h'.path.trans h.path
  set := h'.set.trans h.set
  display := h'.display.trans h.display
  session := h'.session.trans h.session
  sets := by
    intro hstored p x
    refine (h'.sets ?_ p x).trans (h.sets hstored p x)
    rw [h.set, h.path]
    intro hset
    exact (h.sets hstored _ _).mpr (hstored hset)
  shows := fun hf => (h.shows hf).trans (h'.shows hf)

/-- A device with a set is stored once more. -/
theorem mounts_of_put (s : SessionService) {d e : SessionDevice} (acts : List SessionAct)
    (hpath : e.hubPortPath = d.hubPortPath) (hset : e.deviceSetId = d.deviceSetId)
    (hsome : d.deviceSetId ≠ "")
    (hacts : ∀ {β : Type} {f : SessionAct → Option β}, Overlooks f → acts.filterMap f = []) :
    Mounts (s, d) ((s.act acts).mergePut e, e) where
  path := hpath
  set := hset
  display := rfl
  session := rfl
  sets := by
    intro hstored p x
    refine History.sets_put_again ?_
    rw [hpath, hset]
    exact hstored hsome
  shows := fun hf => ⟨acts, rfl, hacts hf⟩

theorem mountDrive_mounts (sd : SessionService × SessionDevice) (drive : SessionDrive) :
    Mounts sd (mountDrive sd drive) := by
  unfold mountDrive
  split
  case isTrue h =>
    refine mounts_of_put _ _ ?_ ?_ h.2 ?_
    · rfl
    · rfl
    · intro β f hf
      rw [List.filterMap_cons_none (hf.mounts _ _ _ _), List.filterMap_nil]
  case isFalse => exact Mounts.refl sd

theorem mountDrive_loop (drives : List SessionDrive) (sd : SessionService × SessionDevice) :
    Mounts sd (drives.foldl mountDrive sd) := by
  induction drives generalizing sd with
  | nil => exact Mounts.refl sd
  | cons drive drives ih => exact (mountDrive_mounts sd drive).trans (ih _)

/-- The record that a device is connected changes nothing else. -/
theorem mounts_of_connected {sd te : SessionService × SessionDevice} (h : Mounts sd te)
    (device deviceSetId : String) :
    Mounts sd (te.1.act [.displayConnectedToast device deviceSetId], te.2) where
  path := h.path
  set := h.set
  display := h.display
  session := h.session
  sets := h.sets
  shows := by
    intro β f hf
    refine (h.shows hf).trans ?_
    have hshown := Shows.act f te.1 [.displayConnectedToast device deviceSetId]
    rwa [List.filterMap_cons_none (hf.connected _ _), List.filterMap_nil] at hshown

theorem updateErrorReason_mounts (s : SessionService) {d : SessionDevice} (hset : d.deviceSetId ≠ "") :
    Mounts (s, d) (s.updateErrorReason d) := by
  have hput : ∀ e : SessionDevice, e.hubPortPath = d.hubPortPath → e.deviceSetId = d.deviceSetId →
      Mounts (s, d) (s.mergePut e, e) := by
    intro e hpath hset'
    have h := mounts_of_put s [] hpath hset' hset fun _ => rfl
    simpa [act] using h
  unfold updateErrorReason
  split
  · exact hput _ rfl rfl
  · exact hput _ rfl rfl

theorem mountDrives_mounts (s : SessionService) (d : SessionDevice) :
    Mounts (s, d) (s.mountDrives d) := by
  have hloop := mountDrive_loop d.storageDriveList (s, d)
  unfold mountDrives
  split
  case isFalse => exact Mounts.refl _
  case isTrue =>
    by_cases hset : d.deviceSetId = ""
    · rw [if_neg (by simpa using hset)]
      exact hloop
    · rw [if_pos hset]
      refine mounts_of_connected (hloop.trans ?_) _ _
      exact updateErrorReason_mounts _ (by rw [hloop.set]; exact hset)

/-! ### What is undone of a device -/

/-- The acts of `releaseStorageDevice`. -/
def releaseActs (s : SessionService) (sessionId last : String) (d : SessionDevice) :
    List SessionAct :=
  let previous := s.findPreviousSessionId d.hubPortPath
  if (previous ≠ "" ∧ previous ≠ sessionId) ∨ leaves last d.deviceSetId = true then
    [.deletePreviousMountName d.hubPortPath (s.previousMountNames d.hubPortPath),
      .deletePreviousPayload d.hubPortPath] ++
    if leaves last d.deviceSetId then [.displayDisconnectedToast d.hubPortPath "Storage" last] else []
  else []

/-- The acts of a device of the other list. -/
def moveActs (last : String) (d : SessionDevice) : List SessionAct :=
  if leaves last d.deviceSetId then
    [.deletePreviousPayload d.hubPortPath, .displayDisconnectedToast d.hubPortPath d.deviceType last]
  else []

/-- What one device of a request changes, where `acts` is what is undone of it, `undone`
says whether its record goes, and `stored` whether it is stored. -/
structure DeviceStep (loop loop' : Loop) (d : SessionDevice) (acts : List SessionAct)
    (undone stored : Prop) : Prop where
  last : loop'.last = loop.lastDeviceSetId d.hubPortPath
  done : ∃ e, loop'.done = loop.done ++ [e] ∧ e.hubPortPath = d.hubPortPath ∧
    e.deviceSetId = d.deviceSetId
  display : loop'.service.portDisplayMap =
    (loop.service.setDisplay d.hubPortPath d.deviceSetId).portDisplayMap
  sets : ∀ p x, loop'.service.history.sets p x ↔
    if p = d.hubPortPath then
      (stored ∧ x = d.deviceSetId) ∨ (¬ stored ∧ ¬ undone ∧ loop.service.history.sets p x)
    else loop.service.history.sets p x
  shows : ∀ {β : Type} {f : SessionAct → Option β}, Overlooks f →
    Shows f loop.service loop'.service (acts.filterMap f)

/-- Whether a storage device is undone. -/
def Released (s : SessionService) (sessionId last : String) (d : SessionDevice) : Prop :=
  (s.findPreviousSessionId d.hubPortPath ≠ "" ∧ s.findPreviousSessionId d.hubPortPath ≠ sessionId) ∨
    leaves last d.deviceSetId = true

structure Releases (s : SessionService) (sessionId last : String) (d : SessionDevice)
    (te : SessionService × SessionDevice) : Prop where
  path : te.2.hubPortPath = d.hubPortPath
  set : te.2.deviceSetId = d.deviceSetId
  display : te.1.portDisplayMap = s.portDisplayMap
  session : te.1.hubPortPathSessionIdMap = s.hubPortPathSessionIdMap
  acts : te.1.acts = s.acts ++ releaseActs s sessionId last d
  sets : ∀ p x, te.1.history.sets p x ↔
    s.history.sets p x ∧ (Released s sessionId last d → p ≠ d.hubPortPath)

theorem releaseStorageDevice_releases (s : SessionService) (sessionId last : String)
    (d : SessionDevice) : Releases s sessionId last d (s.releaseStorageDevice sessionId last d) := by
  have hundone : ∀ p x, History.sets (s.history.remove d.hubPortPath) p x ↔
      s.history.sets p x ∧ (True → p ≠ d.hubPortPath) := by
    intro p x
    rw [History.sets_remove, forall_const, and_comm]
  by_cases hreleased : Released s sessionId last d
  · have hcond := hreleased
    unfold Released at hcond
    simp only [releaseStorageDevice]
    rw [if_pos hcond]
    refine ⟨by simp, by simp, ?_, ?_, ?_, ?_⟩
    · split <;> rfl
    · split <;> rfl
    · simp only [releaseActs]
      rw [if_pos hcond]
      split <;> simp [act, deletePreviousMountName, deletePreviousPayload]
    · intro p x
      simp only [hreleased]
      split <;> exact hundone p x
  · have hcond := hreleased
    unfold Released at hcond
    simp only [releaseStorageDevice]
    rw [if_neg hcond]
    refine ⟨rfl, rfl, rfl, rfl, ?_, fun p x => ?_⟩
    · simp only [releaseActs]
      rw [if_neg hcond, List.append_nil]
    · simp [hreleased]

/-- Storing a device where `stores` says so. -/
theorem sets_of_store (s : SessionService) (d : SessionDevice) (stores : Prop) [Decidable stores]
    (p x : String) :
    History.sets (if stores then s.storeDeviceInfo d else (s, d)).1.history p x ↔
      if p = d.hubPortPath then
        (stores ∧ x = d.deviceSetId) ∨ (¬ stores ∧ s.history.sets p x)
      else s.history.sets p x := by
  by_cases hstores : stores
  · rw [if_pos hstores]
    refine History.sets_put.trans ?_
    by_cases hp : p = d.hubPortPath
    · simp [hp, hstores]
    · simp [hp]
  · simp [hstores]

theorem store_keeps (s : SessionService) (d : SessionDevice) (stores : Prop) [Decidable stores] :
    (if stores then s.storeDeviceInfo d else (s, d)).1.portDisplayMap = s.portDisplayMap ∧
    (if stores then s.storeDeviceInfo d else (s, d)).1.hubPortPathSessionIdMap =
      s.hubPortPathSessionIdMap ∧
    (if stores then s.storeDeviceInfo d else (s, d)).1.acts = s.acts ∧
    (if stores then s.storeDeviceInfo d else (s, d)).2.hubPortPath = d.hubPortPath ∧
    (if stores then s.storeDeviceInfo d else (s, d)).2.deviceSetId = d.deviceSetId := by
  split
  · exact ⟨rfl, rfl, rfl, withMountNames_path d, withMountNames_set d⟩
  · exact ⟨rfl, rfl, rfl, rfl, rfl⟩

/-- A part of a step that only lets others know of lists and connected devices. -/
structure Quietly (s t : SessionService) : Prop where
  display : t.portDisplayMap = s.portDisplayMap
  session : t.hubPortPathSessionIdMap = s.hubPortPathSessionIdMap
  history : t.history = s.history
  shows : ∀ {β : Type} {f : SessionAct → Option β}, Overlooks f → Shows f s t []

/-- A list sent to the display that a loop carries along. -/
theorem quietly_of_notify (s : SessionService) (carried : Prop) [Decidable carried]
    (payload : SessionPayload) (deviceSetId deviceType : String) :
    Quietly s (if carried then s.act (notifyToDisplay payload deviceSetId deviceType) else s) := by
  split
  · refine ⟨rfl, rfl, rfl, fun {β f} hf => ?_⟩
    have hshown := Shows.act f s (notifyToDisplay payload deviceSetId deviceType)
    rwa [hf.notifyToDisplay] at hshown
  · exact ⟨rfl, rfl, rfl, fun _ => Shows.refl⟩

/-- A record that is not replaced stays unless it is taken out. -/
theorem sets_of_undone {h t : History} {path deviceSetId : String} {stores undone : Prop}
    (hsets : ∀ p x, t.sets p x ↔ h.sets p x ∧ (undone → p ≠ path)) (p x : String) :
    (if p = path then (stores ∧ x = deviceSetId) ∨ (¬ stores ∧ t.sets p x) else t.sets p x) ↔
      if p = path then (stores ∧ x = deviceSetId) ∨ (¬ stores ∧ ¬ undone ∧ h.sets p x)
      else h.sets p x := by
  by_cases hp : p = path
  · rw [if_pos hp, if_pos hp, hsets p x]
    refine or_congr_right (and_congr_right fun _ => ?_)
    rw [and_comm]
    exact and_congr_left' ⟨fun hkept hundone => hkept hundone hp, fun hkept hundone => absurd hundone hkept⟩
  · rw [if_neg hp, if_neg hp, hsets p x]
    exact and_iff_left fun _ => hp

theorem setStorageDevice_step (sessionId : String) (loop : Loop) (d : SessionDevice) :
    DeviceStep loop (setStorageDevice sessionId loop d) d
      (releaseActs loop.service sessionId (loop.lastDeviceSetId d.hubPortPath) d)
      (Released loop.service sessionId (loop.lastDeviceSetId d.hubPortPath) d)
      (d.deviceSetId ≠ "") ∧
    (setStorageDevice sessionId loop d).service.hubPortPathSessionIdMap =
      (loop.service.setSession d.hubPortPath sessionId).hubPortPathSessionIdMap := by
  have hrel := releaseStorageDevice_releases loop.service sessionId
    (loop.lastDeviceSetId d.hubPortPath) d
  simp only [setStorageDevice]
  generalize loop.service.releaseStorageDevice sessionId (loop.lastDeviceSetId d.hubPortPath) d =
    te at hrel
  obtain ⟨t, e⟩ := te
  obtain ⟨hpath, hset, hdisplay, hsession, hacts, hsets⟩ := hrel
  simp only at hpath hset hdisplay hsession hacts hsets ⊢
  rw [hpath, hset]
  have hkept := store_keeps ((t.setDisplay d.hubPortPath d.deviceSetId).setSession d.hubPortPath
    sessionId) e (d.deviceSetId ≠ "")
  have hstored := sets_of_store ((t.setDisplay d.hubPortPath d.deviceSetId).setSession d.hubPortPath
    sessionId) e (d.deviceSetId ≠ "")
  generalize (if d.deviceSetId ≠ "" then
      ((t.setDisplay d.hubPortPath d.deviceSetId).setSession d.hubPortPath sessionId).storeDeviceInfo e
    else ((t.setDisplay d.hubPortPath d.deviceSetId).setSession d.hubPortPath sessionId, e)) =
    uf at hkept hstored
  obtain ⟨u, g⟩ := uf
  obtain ⟨hudisplay, husession, huacts, hgpath, hgset⟩ := hkept
  simp only at hudisplay husession huacts hgpath hgset hstored ⊢
  have hquiet := quietly_of_notify u (loop.lastDeviceSetId d.hubPortPath ≠ "")
    { storageDeviceList := displayArray? (loop.lastDeviceSetId d.hubPortPath) (loop.done ++ [g]) }
    (loop.lastDeviceSetId d.hubPortPath) "USB_STORAGE"
  generalize (if loop.lastDeviceSetId d.hubPortPath ≠ "" then _ else u) = v at hquiet ⊢
  have hmounts := mountDrives_mounts v g
  generalize v.mountDrives g = wi at hmounts ⊢
  refine ⟨⟨rfl, ⟨wi.2, rfl, ?_, ?_⟩, ?_, ?_, ?_⟩, ?_⟩
  · exact hmounts.path.trans (hgpath.trans hpath)
  · exact hmounts.set.trans (hgset.trans hset)
  · rw [hmounts.display, hquiet.display, hudisplay]
    simp [setSession, setDisplay, hdisplay]
  · rw [hpath, hset] at hstored
    have hmounted : ∀ p x, wi.1.history.sets p x ↔ u.history.sets p x := by
      intro p x
      rw [hmounts.sets ?_ p x, hquiet.history]
      rw [hquiet.history, hgset, hgpath, hset, hpath]
      intro hsome
      refine (hstored _ _).mpr ?_
      rw [if_pos rfl]
      exact Or.inl ⟨hsome, rfl⟩
    intro p x
    rw [hmounted p x, hstored p x]
    exact sets_of_undone hsets p x
  · intro β f hf
    have hfirst : Shows f loop.service u
        ((releaseActs loop.service sessionId (loop.lastDeviceSetId d.hubPortPath) d).filterMap f) :=
      ⟨_, huacts.trans hacts, rfl⟩
    have hrest := (hquiet.shows hf).trans (hmounts.shows hf)
    simpa using hfirst.trans hrest
  · rw [hmounts.session, hquiet.session, husession]
    simp [setSession, setDisplay, hsession]

theorem setNonStorageDevice_step (loop : Loop) (d : SessionDevice) :
    DeviceStep loop (setNonStorageDevice loop d) d (moveActs (loop.lastDeviceSetId d.hubPortPath) d)
      (leaves (loop.lastDeviceSetId d.hubPortPath) d.deviceSetId = true)
      (d.deviceSetId ≠ "" ∧ d.deviceSetId ≠ "Select") := by
  simp only [setNonStorageDevice]
  have hmove : ∃ t : SessionService, t = (if leaves (loop.lastDeviceSetId d.hubPortPath) d.deviceSetId
      then (loop.service.deletePreviousPayload d.hubPortPath).act
        [.displayDisconnectedToast d.hubPortPath d.deviceType (loop.lastDeviceSetId d.hubPortPath)]
      else loop.service) ∧ t.portDisplayMap = loop.service.portDisplayMap ∧
      t.acts = loop.service.acts ++ moveActs (loop.lastDeviceSetId d.hubPortPath) d ∧
      ∀ p x, t.history.sets p x ↔ loop.service.history.sets p x ∧
        (leaves (loop.lastDeviceSetId d.hubPortPath) d.deviceSetId = true → p ≠ d.hubPortPath) := by
    refine ⟨_, rfl, ?_⟩
    unfold moveActs
    split
    case isTrue hleaves =>
      refine ⟨rfl, by simp [act, deletePreviousPayload], fun p x => ?_⟩
      refine History.sets_remove.trans ?_
      rw [forall_prop_of_true hleaves, and_comm]
    case isFalse hstays =>
      exact ⟨rfl, by simp, fun p x => (and_iff_left fun h => absurd h hstays).symm⟩
  obtain ⟨t, ht, hdisplay, hacts, hsets⟩ := hmove
  rw [← ht]
  have hkept := store_keeps (t.setDisplay d.hubPortPath d.deviceSetId) d
    (d.deviceSetId ≠ "" ∧ d.deviceSetId ≠ "Select")
  have hstored := sets_of_store (t.setDisplay d.hubPortPath d.deviceSetId) d
    (d.deviceSetId ≠ "" ∧ d.deviceSetId ≠ "Select")
  generalize (if d.deviceSetId ≠ "" ∧ d.deviceSetId ≠ "Select" then
      (t.setDisplay d.hubPortPath d.deviceSetId).storeDeviceInfo d
    else (t.setDisplay d.hubPortPath d.deviceSetId, d)) = ug at hkept hstored
  obtain ⟨u, g⟩ := ug
  obtain ⟨hudisplay, husession, huacts, hgpath, hgset⟩ := hkept
  simp only at hudisplay husession huacts hgpath hgset hstored ⊢
  have hquiet := quietly_of_notify u (loop.lastDeviceSetId d.hubPortPath ≠ "")
    { nonStorageDeviceList := displayArray? (loop.lastDeviceSetId d.hubPortPath) (loop.done ++ [g]) }
    (loop.lastDeviceSetId d.hubPortPath) "USB_NONSTORAGE"
  generalize (if loop.lastDeviceSetId d.hubPortPath ≠ "" then _ else u) = v at hquiet ⊢
  refine ⟨rfl, ⟨g, rfl, hgpath, hgset⟩, ?_, ?_, ?_⟩
  · refine (hquiet.display.trans hudisplay).trans ?_
    simp [setDisplay, hdisplay]
  · intro p x
    show History.sets v.history p x ↔ _
    rw [hquiet.history, hstored p x]
    exact sets_of_undone hsets p x
  · intro β f hf
    have hfirst : Shows f loop.service u
        ((moveActs (loop.lastDeviceSetId d.hubPortPath) d).filterMap f) :=
      ⟨_, huacts.trans hacts, rfl⟩
    have hlast : Shows f v (v.act [.displayConnectedToast g.deviceType g.deviceSetId]) [] := by
      have hshown := Shows.act f v [.displayConnectedToast g.deviceType g.deviceSetId]
      rwa [List.filterMap_cons_none (hf.connected _ _), List.filterMap_nil] at hshown
    simpa using (hfirst.trans (hquiet.shows hf)).trans hlast

end SessionService

end Pdm
