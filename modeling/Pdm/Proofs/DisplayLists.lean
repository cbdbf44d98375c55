/-
The lists of a display and the records of db8.

An eject and a removal read the list of a display off the records.  A request to set devices
builds it from the devices that it names, and posts it where it names one for the display
or where a loop ended at the display.  So a list and the records come apart in two ways: the
list is posted and a device of the display is not named, or a device of the display is named
for another one and the list is not posted.

What carries the proof is that the display map knows every device with a record at a
display.  Then a device that is named for no display loses the record that it had at one,
and after a request the records of its devices are those that it asks for.
-/
import Pdm.Lib.Runs
import Pdm.Proofs.SessionDecisions

namespace Pdm

open SessionService

/-! ### Runs of whole operations -/

/-- A request that names each of its devices once. -/
structure SubsetRequest extends SetDeviceRequest where
  nodup : ((storageDeviceList ++ nonStorageDeviceList).map SessionDevice.hubPortPath).Nodup

def SubsetRequest.all (r : SubsetRequest) : List SessionDevice :=
  r.storageDeviceList ++ r.nonStorageDeviceList

inductive SessionOp where
  | setDeviceForSession (request : SubsetRequest)
  | eject (facts : SessionFacts) (deviceNum : Int)
  | removal (hubPortPath : String)

namespace SessionService

def perform (s : SessionService) : SessionOp → SessionService
  | .setDeviceForSession r => s.cbSetDeviceForSession r.toSetDeviceRequest
  | .eject facts deviceNum => s.eject facts deviceNum
  | .removal hubPortPath => s.removal hubPortPath

/-- The service as it starts, with the records that are left in db8. -/
def start (h : History) : SessionService := { history := h }

/-- What is posted for all devices of a display. -/
def post? (d : Display) : SessionAct → Option SessionPayload
  | .subscriptionReply (.autoAttachedAllDevices e) payload => if e = d then some payload else none
  | _ => none

/-- The list that the subscribers of a display have; they have none to begin with. -/
def lastPosted (s : SessionService) (d : Display) : List SessionDevice :=
  (((s.acts.filterMap (post? d)).getLast?).getD {}).devices

/-- The list of the display has the devices with a record at it. -/
def Listed (s : SessionService) (d : Display) : Prop :=
  ∀ p, p ∈ (s.lastPosted d).map SessionDevice.hubPortPath ↔ s.history.sets p d.name

/-- Every device with a record at a display is at it in the display map. -/
def Tracks (s : SessionService) : Prop :=
  ∀ p (d : Display), s.history.sets p d.name → s.portDisplayMap p = some d.name

/-! ### When a list is posted -/

/-- The display on record for the last of the devices that has one. -/
def lastRecorded (s : SessionService) (ds : List SessionDevice) : Option String :=
  (ds.filterMap fun d => s.portDisplayMap d.hubPortPath).getLast?

/-- A request names a device for the display, or the last device of a list that has a
display on record was at it. -/
def Posts (s : SessionService) (r : SubsetRequest) (d : Display) : Prop :=
  (∃ e ∈ r.all, e.deviceSetId = d.name) ∨ s.lastRecorded r.storageDeviceList = some d.name ∨
    s.lastRecorded r.nonStorageDeviceList = some d.name

/-- A request names the devices of the displays that it posts lists of, and no others. -/
def Covers (s : SessionService) : SessionOp → Prop
  | .setDeviceForSession r => ∀ (d : Display) p, s.history.sets p d.name →
      (p ∈ r.all.map SessionDevice.hubPortPath ↔ s.Posts r d)
  | _ => True

/-! ### What is posted -/

theorem overlooks_post (d : Display) : Overlooks (post? d) := by
  refine ⟨fun _ _ _ _ => rfl, fun _ _ => rfl, ?_⟩
  intro event payload hevent
  cases event with
  | autoAttachedAllDevices e => exact absurd rfl (hevent e)
  | _ => rfl

theorem display_name_injective {d e : Display} (h : d.name = e.name) : d = e := by
  cases d <;> cases e <;> first | rfl | exact absurd h (by decide)

theorem display_name_ne_empty (d : Display) : d.name ≠ "" := by cases d <;> decide

theorem display_name_ne_select (d : Display) : d.name ≠ "Select" := by cases d <;> decide

theorem display_mem (d : Display) : d ∈ displays := by cases d <;> decide

theorem posts_of_notifyAll (d : Display) (deviceSetId : String) (payload : SessionPayload) :
    (notifyAllDeviceToDisplay deviceSetId payload).filterMap (post? d) =
      if deviceSetId = d.name then [payload] else [] := by
  unfold notifyAllDeviceToDisplay displays
  by_cases h : deviceSetId = d.name
  · rw [if_pos h, h]
    cases d <;> rfl
  · rw [if_neg h]
    refine List.filterMap_eq_nil_iff.mpr fun a ha => ?_
    obtain ⟨e, he, rfl⟩ := List.mem_map.mp ha
    have hname : e.name = deviceSetId := by simpa using (List.mem_filter.mp he).2
    refine if_neg ?_
    rintro rfl
    exact h hname.symm

/-- The list that a request posts for a display. -/
def sessionPayload (d : Display) (devices : List SessionDevice) : SessionPayload :=
  allDevicePayload (sessionArray d.name devices)

theorem posts_of_notifyLast (d : Display) (last : String) (devices : List SessionDevice) :
    (notifyLast last devices).filterMap (post? d) =
      if last = d.name then [sessionPayload d devices] else [] := by
  unfold notifyLast
  by_cases h : last = d.name
  · have hmem : d.name ∈ displays.map Display.name := List.mem_map_of_mem (display_mem d)
    rw [h, if_pos (display_name_ne_empty d), posts_of_notifyAll, if_pos rfl]
    unfold displayArray? sessionPayload
    rw [if_pos hmem, if_pos rfl]
    rfl
  · rw [if_neg h]
    split
    · rw [posts_of_notifyAll, if_neg h]
    · rfl

theorem posts_of_notifyConnected (d e : Display) (devices : List SessionDevice) :
    (notifyConnected devices e).filterMap (post? d) =
      if e = d ∧ sessionArray d.name devices ≠ [] then [sessionPayload d devices] else [] := by
  unfold notifyConnected
  by_cases hed : e = d
  · subst hed
    by_cases hdevices : sessionArray e.name devices = []
    · simp [hdevices]
    · rw [if_pos hdevices, posts_of_notifyAll, if_pos rfl, if_pos ⟨rfl, hdevices⟩]
      rfl
  · have hother : ¬ (e = d ∧ sessionArray d.name devices ≠ []) := fun h => hed h.1
    rw [if_neg hother]
    split
    · rw [posts_of_notifyAll, if_neg (fun h => hed (display_name_injective h))]
    · rfl

/-- Posts of one payload: the last one is that payload, if there is any. -/
theorem lastPosted_of_shows {s t : SessionService} {d : Display} {posts : List SessionPayload}
    {payload : SessionPayload} (h : Shows (post? d) s t posts) (hall : ∀ q ∈ posts, q = payload) :
    t.lastPosted d = if posts = [] then s.lastPosted d else payload.devices := by
  obtain ⟨acts, hacts, rfl⟩ := h
  unfold lastPosted
  rw [hacts, List.filterMap_append, List.getLast?_append]
  split
  case isTrue hnil => simp [hnil]
  case isFalse hsome =>
    rw [List.getLast?_eq_getLast_of_ne_nil hsome, hall _ (List.getLast_mem hsome)]
    rfl

theorem mem_allDevicePayload {devices : List SessionDevice} {e : SessionDevice} :
    e ∈ (allDevicePayload devices).devices ↔ e ∈ devices := by
  unfold allDevicePayload SessionPayload.devices
  cases he : e.isStorage <;> simp [he]

/-! ### Records and the display map -/

/-- What a device of a request makes of the records at the displays. -/
theorem DeviceStep.records {loop loop' : Loop} {e : SessionDevice} {acts : List SessionAct}
    {undone stored : Prop} (hstep : DeviceStep loop loop' e acts undone stored)
    (htracks : loop.service.Tracks) (hstored : ∀ d : Display, e.deviceSetId = d.name → stored)
    (hundone : leaves (loop.lastDeviceSetId e.hubPortPath) e.deviceSetId = true → undone)
    (p : String) (d : Display) :
    loop'.service.history.sets p d.name ↔
      if p = e.hubPortPath then e.deviceSetId = d.name else loop.service.history.sets p d.name := by
  rw [hstep.sets]
  by_cases hp : p = e.hubPortPath
  · rw [if_pos hp, if_pos hp]
    constructor
    · rintro (⟨-, hset⟩ | ⟨-, hkept, hset⟩)
      · exact hset.symm
      · by_contra hother
        have hlast : loop.lastDeviceSetId e.hubPortPath = d.name := by
          unfold Loop.lastDeviceSetId
          rw [← hp, htracks p d hset]
          rfl
        refine hkept (hundone ?_)
        rw [hlast]
        simp [leaves, display_name_ne_empty d, Ne.symm hother]
    · intro hset
      exact Or.inl ⟨hstored d hset, hset.symm⟩
  · rw [if_neg hp, if_neg hp]

theorem DeviceStep.tracks {loop loop' : Loop} {e : SessionDevice} {acts : List SessionAct}
    {undone stored : Prop} (hstep : DeviceStep loop loop' e acts undone stored)
    (htracks : loop.service.Tracks) (hstored : ∀ d : Display, e.deviceSetId = d.name → stored)
    (hundone : leaves (loop.lastDeviceSetId e.hubPortPath) e.deviceSetId = true → undone) :
    loop'.service.Tracks := by
  intro p d hset
  rw [hstep.records htracks hstored hundone] at hset
  rw [hstep.display]
  by_cases hp : p = e.hubPortPath
  · rw [if_pos hp] at hset
    simp [setDisplay, hp, hset]
  · rw [if_neg hp] at hset
    simp [setDisplay, hp, htracks p d hset]

/-- What a loop over `ds` has made of the records at the displays, and what it has been
through. -/
structure LoopRecords (before loop : Loop) (ds : List SessionDevice) : Prop where
  tracks : loop.service.Tracks
  sets : ∀ p (d : Display), loop.service.history.sets p d.name ↔
    (∃ e ∈ ds, e.hubPortPath = p ∧ e.deviceSetId = d.name) ∨
      (p ∉ ds.map SessionDevice.hubPortPath ∧ before.service.history.sets p d.name)
  done : loop.done.map (fun e => (e.hubPortPath, e.deviceSetId)) =
    before.done.map (fun e => (e.hubPortPath, e.deviceSetId)) ++
      ds.map fun e => (e.hubPortPath, e.deviceSetId)
  posts : ∀ d, Shows (post? d) before.service loop.service []

theorem LoopRecords.nil {loop : Loop} (htracks : loop.service.Tracks) : LoopRecords loop loop [] :=
  ⟨htracks, fun p d => by simp, by simp, fun d => Shows.refl⟩

/-- One more device, on a path that no device before it has. -/
theorem LoopRecords.concat {before loop loop' : Loop} {ds : List SessionDevice} {e : SessionDevice}
    {acts : List SessionAct} {undone stored : Prop} (h : LoopRecords before loop ds)
    (hstep : DeviceStep loop loop' e acts undone stored)
    (hnew : e.hubPortPath ∉ ds.map SessionDevice.hubPortPath)
    (hstored : ∀ d : Display, e.deviceSetId = d.name → stored)
    (hundone : leaves (loop.lastDeviceSetId e.hubPortPath) e.deviceSetId = true → undone)
    (hacts : ∀ d, acts.filterMap (post? d) = []) : LoopRecords before loop' (ds ++ [e]) where
  tracks := hstep.tracks h.tracks hstored hundone
  sets := by
    intro p d
    rw [hstep.records h.tracks hstored hundone, h.sets]
    by_cases hp : p = e.hubPortPath
    · subst hp
      have hnone : ∀ x ∈ ds, x.hubPortPath ≠ e.hubPortPath := by
        intro x hx hxe
        exact hnew (List.mem_map.mpr ⟨x, hx, hxe⟩)
      rw [if_pos rfl]
      constructor
      · intro hset
        exact Or.inl ⟨e, by simp, rfl, hset⟩
      · rintro (⟨x, hx, hxe, hset⟩ | ⟨hnot, -⟩)
        · rcases List.mem_append.mp hx with hx | hx
          · exact absurd hxe (hnone x hx)
          · rwa [List.mem_singleton.mp hx] at hset
        · exact absurd (by simp) hnot
    · rw [if_neg hp]
      simp only [List.map_append, List.mem_append, List.map_cons, List.map_nil, List.mem_singleton,
        hp, or_false]
      refine or_congr_left ⟨?_, ?_⟩
      · rintro ⟨x, hx, hxp, hset⟩
        exact ⟨x, Or.inl hx, hxp, hset⟩
      · rintro ⟨x, hx | rfl, hxp, hset⟩
        · exact ⟨x, hx, hxp, hset⟩
        · exact absurd hxp.symm hp
  done := by
    obtain ⟨f, hdone, hpath, hset⟩ := hstep.done
    rw [hdone, List.map_append, h.done, List.map_append, List.append_assoc]
    simp [hpath, hset]
  posts := by
    intro d
    have hshown := hstep.shows (overlooks_post d)
    rw [hacts] at hshown
    exact (h.posts d).trans hshown

theorem releaseActs_posts_nothing (s : SessionService) (sessionId last : String) (e : SessionDevice)
    (d : Display) : (releaseActs s sessionId last e).filterMap (post? d) = [] := by
  simp only [releaseActs]
  split
  · split <;> rfl
  · rfl

theorem moveActs_posts_nothing (last : String) (e : SessionDevice) (d : Display) :
    (moveActs last e).filterMap (post? d) = [] := by
  unfold moveActs
  split <;> rfl

/-- The paths of a list without its last device. -/
theorem nodup_concat {ds : List SessionDevice} {e : SessionDevice}
    (h : ((ds ++ [e]).map SessionDevice.hubPortPath).Nodup) :
    (ds.map SessionDevice.hubPortPath).Nodup ∧
      e.hubPortPath ∉ ds.map SessionDevice.hubPortPath := by
  rw [List.map_append, List.nodup_append'] at h
  exact ⟨h.1, fun hmem => h.2.2 hmem (by simp)⟩

theorem storageLoop_records (sessionId : String) {loop : Loop} (htracks : loop.service.Tracks)
    {ds : List SessionDevice} (hnodup : (ds.map SessionDevice.hubPortPath).Nodup) :
    LoopRecords loop (ds.foldl (setStorageDevice sessionId) loop) ds := by
  induction ds using List.reverseRecOn with
  | nil => exact LoopRecords.nil htracks
  | append_singleton ds e ih =>
    obtain ⟨hds, hnew⟩ := nodup_concat hnodup
    rw [List.foldl_concat]
    refine (ih hds).concat (setStorageDevice_step sessionId _ e).1 hnew ?_ Or.inr
      (releaseActs_posts_nothing _ _ _ _)
    intro d hset
    rw [hset]
    exact display_name_ne_empty d

theorem nonStorageLoop_records (loop : Loop) (htracks : loop.service.Tracks)
    {ds : List SessionDevice} (hnodup : (ds.map SessionDevice.hubPortPath).Nodup) :
    LoopRecords loop (ds.foldl setNonStorageDevice loop) ds := by
  induction ds using List.reverseRecOn with
  | nil => exact LoopRecords.nil htracks
  | append_singleton ds e ih =>
    obtain ⟨hds, hnew⟩ := nodup_concat hnodup
    rw [List.foldl_concat]
    refine (ih hds).concat (setNonStorageDevice_step _ e) hnew ?_ id (moveActs_posts_nothing _ _)
    intro d hset
    rw [hset]
    exact ⟨display_name_ne_empty d, display_name_ne_select d⟩

theorem recordedDisplay_of_missing (map : String → Option String) {earlier : List SessionDevice}
    {p : String} (h : ∀ d ∈ earlier, d.hubPortPath ≠ p) :
    recordedDisplay map earlier p = map p := by
  unfold recordedDisplay
  rw [List.find?_eq_none.mpr (by simpa using h)]
  rfl

/-- With each device named once, what is on record for a device is on record when its
request starts. -/
theorem inherited_of_nodup {map : String → Option String} {listed ds : List SessionDevice}
    (hnodup : (ds.map SessionDevice.hubPortPath).Nodup)
    (hlisted : ∀ x ∈ listed, x.hubPortPath ∉ ds.map SessionDevice.hubPortPath) :
    inherited map listed ds.reverse =
      ((ds.filterMap fun e => map e.hubPortPath).getLast?).getD "" := by
  induction ds using List.reverseRecOn with
  | nil => rfl
  | append_singleton ds e ih =>
    obtain ⟨hds, hnew⟩ := nodup_concat hnodup
    have hrest : ∀ x ∈ listed, x.hubPortPath ∉ ds.map SessionDevice.hubPortPath := by
      intro x hx hmem
      refine hlisted x hx ?_
      rw [List.map_append, List.mem_append]
      exact Or.inl hmem
    have hmissing : ∀ x ∈ ds.reverse ++ listed, x.hubPortPath ≠ e.hubPortPath := by
      intro x hx hxe
      rcases List.mem_append.mp hx with hx | hx
      · exact hnew (List.mem_map.mpr ⟨x, List.mem_reverse.mp hx, hxe⟩)
      · exact hlisted x hx (by simp [hxe])
    rw [List.reverse_concat]
    unfold inherited
    rw [recordedDisplay_of_missing _ hmissing, ih hds hrest, List.filterMap_append]
    cases hmap : map e.hubPortPath with
    | none => simp [hmap]
    | some x => simp [hmap]

end SessionService

/-! ### A request -/

namespace SubsetRequest

variable (r : SubsetRequest)

theorem storage_nodup : (r.storageDeviceList.map SessionDevice.hubPortPath).Nodup := by
  have h := r.nodup
  rw [List.map_append, List.nodup_append'] at h
  exact h.1

theorem nonStorage_nodup : (r.nonStorageDeviceList.map SessionDevice.hubPortPath).Nodup := by
  have h := r.nodup
  rw [List.map_append, List.nodup_append'] at h
  exact h.2.1

theorem lists_disjoint {x : SessionDevice} (hx : x ∈ r.storageDeviceList) :
    x.hubPortPath ∉ r.nonStorageDeviceList.map SessionDevice.hubPortPath := by
  have h := r.nodup
  rw [List.map_append, List.nodup_append'] at h
  exact h.2.2 (List.mem_map_of_mem hx)

end SubsetRequest

namespace SessionService

variable {s : SessionService} {r : SubsetRequest} {d : Display}

/-- The devices that a request has been through. -/
def requestDone (s : SessionService) (r : SetDeviceRequest) : List SessionDevice :=
  (s.storageLoop r).done ++ (s.nonStorageLoop r).done

theorem storage_records (htracks : s.Tracks) : LoopRecords { service := s }
    (s.storageLoop r.toSetDeviceRequest) r.storageDeviceList :=
  storageLoop_records r.sessionId htracks r.storage_nodup

theorem nonStorage_records (htracks : s.Tracks) :
    LoopRecords { service := nonStorageStart s r.toSetDeviceRequest }
      (s.nonStorageLoop r.toSetDeviceRequest) r.nonStorageDeviceList := by
  have hstart : (nonStorageStart s r.toSetDeviceRequest).Tracks :=
    (storage_records (r := r) htracks).tracks
  exact nonStorageLoop_records { service := nonStorageStart s r.toSetDeviceRequest } hstart
    r.nonStorage_nodup

/-- The devices in the lists of a request are those that it names. -/
theorem mem_sessionPayload (htracks : s.Tracks) {p : String} :
    p ∈ ((sessionPayload d (s.requestDone r.toSetDeviceRequest)).devices).map
        SessionDevice.hubPortPath ↔
      ∃ e ∈ r.all, e.hubPortPath = p ∧ e.deviceSetId = d.name := by
  have hdone : (s.requestDone r.toSetDeviceRequest).map (fun e => (e.hubPortPath, e.deviceSetId)) =
      r.all.map fun e => (e.hubPortPath, e.deviceSetId) := by
    unfold requestDone SubsetRequest.all
    rw [List.map_append, (storage_records htracks).done, (nonStorage_records htracks).done,
      List.map_append]
    simp
  have hmem : ∀ l : List SessionDevice, (∃ e ∈ l, e.hubPortPath = p ∧ e.deviceSetId = d.name) ↔
      (p, d.name) ∈ l.map fun e => (e.hubPortPath, e.deviceSetId) := by
    intro l
    simp
  rw [hmem, ← hdone, ← hmem, List.mem_map]
  refine exists_congr fun e => ?_
  unfold sessionPayload
  rw [mem_allDevicePayload]
  simp [sessionArray, and_assoc, and_comm]

/-- The displays that the loops end at. -/
theorem storage_last : (s.storageLoop r.toSetDeviceRequest).last =
    (s.lastRecorded r.storageDeviceList).getD "" := by
  have hat := (storageLoop_at r.sessionId (rfl : s.portDisplayMap = _) r.storageDeviceList).last
  rw [inherited_of_nodup r.storage_nodup (by simp)] at hat
  exact hat

theorem nonStorage_last : (s.nonStorageLoop r.toSetDeviceRequest).last =
    (s.lastRecorded r.nonStorageDeviceList).getD "" := by
  have hstart : ∀ p, (nonStorageStart s r.toSetDeviceRequest).portDisplayMap p =
      recordedDisplay s.portDisplayMap r.storageDeviceList.reverse p := by
    intro p
    have hat := (storageLoop_at r.sessionId (rfl : s.portDisplayMap = _) r.storageDeviceList).display p
    rwa [List.append_nil] at hat
  have hat := (nonStorageLoop_at hstart r.nonStorageDeviceList).last
  rw [inherited_of_nodup r.nonStorage_nodup
    fun x hx => r.lists_disjoint (List.mem_reverse.mp hx)] at hat
  exact hat

theorem last_eq_iff {x : Option String} : x.getD "" = d.name ↔ x = some d.name := by
  cases x with
  | none => exact iff_of_false (fun h => display_name_ne_empty d h.symm) (by simp)
  | some x => simp

theorem posts_of_connected (d : Display) (devices : List SessionDevice) :
    ([Display.avn, .rseL, .rseR].flatMap (notifyConnected devices)).filterMap (post? d) =
      if sessionArray d.name devices ≠ [] then [sessionPayload d devices] else [] := by
  rw [List.filterMap_flatMap]
  simp only [posts_of_notifyConnected]
  cases d <;> simp

/-- A request posts the list of a display, once or more, exactly when `Posts` says so. -/
theorem request_posts (htracks : s.Tracks) (d : Display) :
    ∃ posts, Shows (post? d) s (s.cbSetDeviceForSession r.toSetDeviceRequest) posts ∧
      (∀ q ∈ posts, q = sessionPayload d (s.requestDone r.toSetDeviceRequest)) ∧
      (posts = [] ↔ ¬ s.Posts r d) := by
  have hbetween : Shows (post? d) (s.storageLoop r.toSetDeviceRequest).service
      (nonStorageStart s r.toSetDeviceRequest) [] :=
    ⟨_, rfl, (overlooks_post d).notifyDisplays _ _ _⟩
  have hloops := (((storage_records (r := r) htracks).posts d).trans hbetween).trans
    ((nonStorage_records (r := r) htracks).posts d)
  have hlists := Shows.act (post? d) (s.nonStorageLoop r.toSetDeviceRequest).service
    (notifyDisplays (fun l => { nonStorageDeviceList := some l }) "USB_NONSTORAGE"
        (s.nonStorageLoop r.toSetDeviceRequest).done ++
      notifyLast (s.nonStorageLoop r.toSetDeviceRequest).last (s.requestDone r.toSetDeviceRequest) ++
      notifyLast (s.storageLoop r.toSetDeviceRequest).last (s.requestDone r.toSetDeviceRequest) ++
      [Display.avn, .rseL, .rseR].flatMap (notifyConnected (s.requestDone r.toSetDeviceRequest)))
  refine ⟨_, hloops.trans hlists, ?_, ?_⟩
  · intro q hq
    simp only [List.filterMap_append, (overlooks_post d).notifyDisplays, posts_of_notifyLast,
      posts_of_connected, List.nil_append, List.mem_append] at hq
    rcases hq with (hq | hq) | hq <;> split at hq
    all_goals first | exact List.mem_singleton.mp hq | cases hq
  · have harray : sessionArray d.name (s.requestDone r.toSetDeviceRequest) ≠ [] ↔
        ∃ e ∈ r.all, e.deviceSetId = d.name := by
      constructor
      · intro hne
        obtain ⟨e, he⟩ := List.exists_mem_of_ne_nil _ hne
        obtain ⟨x, hx, -, hset⟩ := (mem_sessionPayload htracks).mp
          (List.mem_map_of_mem (mem_allDevicePayload.mpr he))
        exact ⟨x, hx, hset⟩
      · rintro ⟨e, he, hset⟩
        obtain ⟨x, hx, -⟩ := List.mem_map.mp
          ((mem_sessionPayload htracks).mpr ⟨e, he, rfl, hset⟩)
        exact List.ne_nil_of_mem (mem_allDevicePayload.mp hx)
    simp only [List.filterMap_append, (overlooks_post d).notifyDisplays, posts_of_notifyLast,
      posts_of_connected, List.nil_append, List.append_eq_nil_iff, storage_last, nonStorage_last,
      last_eq_iff, Posts, ← harray]
    by_cases hns : s.lastRecorded r.nonStorageDeviceList = some d.name
    · simp [hns]
    · by_cases hst : s.lastRecorded r.storageDeviceList = some d.name
      · simp [hst]
      · simp [hns, hst]

/-- After a request the list of a display is that of the request, if it is posted. -/
theorem request_lastPosted (htracks : s.Tracks) (d : Display) :
    (s.Posts r d → (s.cbSetDeviceForSession r.toSetDeviceRequest).lastPosted d =
      (sessionPayload d (s.requestDone r.toSetDeviceRequest)).devices) ∧
    (¬ s.Posts r d → (s.cbSetDeviceForSession r.toSetDeviceRequest).lastPosted d = s.lastPosted d) := by
  obtain ⟨posts, hshows, hall, hnil⟩ := request_posts (r := r) htracks d
  have hlast := lastPosted_of_shows hshows hall
  refine ⟨fun hposts => ?_, fun hposts => ?_⟩
  · rwa [if_neg (mt hnil.mp (not_not_intro hposts))] at hlast
  · rwa [if_pos (hnil.mpr hposts)] at hlast

theorem request_tracks (htracks : s.Tracks) : (s.cbSetDeviceForSession r.toSetDeviceRequest).Tracks :=
  (nonStorage_records (r := r) htracks).tracks

/-- After a request the records at the displays are those it asks for and those of devices
that it does not name. -/
theorem request_sets (htracks : s.Tracks) (p : String) (d : Display) :
    (s.cbSetDeviceForSession r.toSetDeviceRequest).history.sets p d.name ↔
      (∃ e ∈ r.all, e.hubPortPath = p ∧ e.deviceSetId = d.name) ∨
        (p ∉ r.all.map SessionDevice.hubPortPath ∧ s.history.sets p d.name) := by
  have hfirst := (storage_records (r := r) htracks).sets p d
  have hsecond := (nonStorage_records (r := r) htracks).sets p d
  refine hsecond.trans ?_
  show (_ ∨ (_ ∧ (s.storageLoop r.toSetDeviceRequest).service.history.sets p d.name)) ↔ _
  rw [hfirst]
  unfold SubsetRequest.all
  constructor
  · rintro (⟨e, he, hep, hset⟩ | ⟨hnot, ⟨e, he, hep, hset⟩ | ⟨hnot', hset⟩⟩)
    · exact Or.inl ⟨e, by simp [he], hep, hset⟩
    · exact Or.inl ⟨e, by simp [he], hep, hset⟩
    · refine Or.inr ⟨?_, hset⟩
      rw [List.map_append, List.mem_append]
      exact not_or.mpr ⟨hnot', hnot⟩
  · rintro (⟨e, he, hep, hset⟩ | ⟨hnot, hset⟩)
    · rcases List.mem_append.mp he with he | he
      · refine Or.inr ⟨?_, Or.inl ⟨e, he, hep, hset⟩⟩
        rw [← hep]
        exact r.lists_disjoint he
      · exact Or.inl ⟨e, he, hep, hset⟩
    · rw [List.map_append, List.mem_append, not_or] at hnot
      exact Or.inr ⟨hnot.2, Or.inr ⟨hnot.1, hset⟩⟩

/-- The step lemma of a request: lists that agree with the records agree with them again
exactly when it names the devices of the displays it posts lists of, and no others. -/
theorem request_listed_iff (htracks : s.Tracks) (hlisted : ∀ d, s.Listed d) :
    (∀ d, (s.cbSetDeviceForSession r.toSetDeviceRequest).Listed d) ↔
      s.Covers (.setDeviceForSession r) := by
  unfold Covers
  refine forall_congr' fun d => forall_congr' fun p => ?_
  obtain ⟨hposted, hkept⟩ := request_lastPosted (r := r) htracks d
  rw [request_sets htracks]
  by_cases hposts : s.Posts r d
  · rw [hposted hposts, mem_sessionPayload htracks]
    constructor
    · intro h hset
      refine iff_of_true ?_ hposts
      by_contra hnot
      obtain ⟨e, he, hep, -⟩ := h.mpr (Or.inr ⟨hnot, hset⟩)
      exact hnot (List.mem_map.mpr ⟨e, he, hep⟩)
    · intro h
      refine ⟨Or.inl, ?_⟩
      rintro (hnamed | ⟨hnot, hset⟩)
      · exact hnamed
      · exact absurd ((h hset).mpr hposts) hnot
  · rw [hkept hposts, hlisted d p]
    have hnone : ¬ ∃ e ∈ r.all, e.hubPortPath = p ∧ e.deviceSetId = d.name := by
      rintro ⟨e, he, -, hset⟩
      exact hposts (Or.inl ⟨e, he, hset⟩)
    constructor
    · intro h hset
      refine iff_of_false ?_ hposts
      rcases h.mp hset with hnamed | ⟨hnot, -⟩
      · exact absurd hnamed hnone
      · exact hnot
    · intro h
      refine ⟨fun hset => Or.inr ⟨fun hmem => hposts ((h hset).mp hmem), hset⟩, ?_⟩
      rintro (hnamed | ⟨-, hset⟩)
      · exact absurd hnamed hnone
      · exact hset

/-! ### An eject and a removal -/

theorem mem_find {h : History} {query : List HistoryClause} {e : SessionDevice} :
    e ∈ h.find query ↔ e ∈ h.entries ∧ ∀ c ∈ query, c.holds e = true := by
  simp [History.find]

/-- A list read off the records. -/
theorem mem_listFound {h : History} {p : String} (d : Display) :
    p ∈ ((allDevicePayload (h.find [.deviceSetIdIs d.name])).devices).map
      SessionDevice.hubPortPath ↔ h.sets p d.name := by
  rw [List.mem_map]
  refine exists_congr fun e => ?_
  have hholds : (∀ c ∈ [HistoryClause.deviceSetIdIs d.name], c.holds e = true) ↔
      e.deviceSetId = d.name := by simp [HistoryClause.holds]
  rw [mem_allDevicePayload, mem_find, hholds, and_assoc]
  exact and_congr_right fun _ => and_comm

/-- What tells a state that agrees with its records from the one before. -/
theorem listed_of_posts {t : SessionService} {posts : List SessionPayload}
    (hshows : Shows (post? d) s t posts)
    (hfound : ∀ q ∈ posts, q = allDevicePayload (t.history.find [.deviceSetIdIs d.name]))
    (hkept : posts = [] → s.Listed d ∧ ∀ p, t.history.sets p d.name ↔ s.history.sets p d.name) :
    t.Listed d := by
  intro p
  rw [lastPosted_of_shows hshows hfound]
  by_cases hnil : posts = []
  · obtain ⟨hlisted, hsets⟩ := hkept hnil
    rw [if_pos hnil, hlisted p, hsets p]
  · rw [if_neg hnil]
    exact mem_listFound d

theorem tracks_of_sets {t : SessionService} (htracks : s.Tracks)
    (hmap : t.portDisplayMap = s.portDisplayMap)
    (hsets : ∀ p x, t.history.sets p x ↔ s.history.sets p x) : t.Tracks := by
  intro p d hset
  rw [hmap]
  exact htracks p d ((hsets p _).mp hset)

theorem umounts_post_nothing (d : Display) (drives : List SessionDrive) :
    (drives.map fun drive => SessionAct.umount drive.mountName).filterMap (post? d) = [] := by
  refine List.filterMap_eq_nil_iff.mpr fun a ha => ?_
  obtain ⟨drive, -, rfl⟩ := List.mem_map.mp ha
  rfl

/-- An eject up to the lists that it posts. -/
def ejectStored (s : SessionService) (facts : SessionFacts) (e : SessionDevice) : SessionService :=
  (if e.isStorage then
      ({ s with m_ejectedDeviceSetId := e.deviceSetId } : SessionService).act
        (e.storageDriveList.map fun drive => .umount drive.mountName)
    else { s with m_ejectedDeviceSetId := e.deviceSetId }).mergePut (ejected facts e)

theorem ejectDevice_eq (s : SessionService) (facts : SessionFacts) (e : SessionDevice) :
    s.ejectDevice facts e =
      if e.errorReason = "Ejected" then s
      else if partitionsUnmounted facts e then
        ((s.ejectStored facts e).updateDeviceList e.deviceSetId).updateStorageDeviceList e.deviceSetId
      else s.ejectStored facts e := by
  unfold ejectDevice
  rfl

theorem ejectStored_set (s : SessionService) (facts : SessionFacts) (e : SessionDevice) :
    (s.ejectStored facts e).m_ejectedDeviceSetId = e.deviceSetId := by
  unfold ejectStored
  split <;> rfl

theorem ejectStored_shows (s : SessionService) (facts : SessionFacts) (e : SessionDevice)
    (d : Display) : Shows (post? d) s (s.ejectStored facts e) [] := by
  unfold ejectStored
  split
  · exact ⟨_, rfl, umounts_post_nothing d _⟩
  · exact ⟨[], by simp [mergePut], rfl⟩

theorem ejectStored_map (s : SessionService) (facts : SessionFacts) (e : SessionDevice) :
    (s.ejectStored facts e).portDisplayMap = s.portDisplayMap := by
  unfold ejectStored
  split <;> rfl

theorem ejectStored_sets {facts : SessionFacts} {e : SessionDevice} (he : e ∈ s.history.entries)
    (p x : String) : (s.ejectStored facts e).history.sets p x ↔ s.history.sets p x := by
  have hsame : (ejected facts e).hubPortPath = e.hubPortPath ∧
      (ejected facts e).deviceSetId = e.deviceSetId := by
    unfold ejected
    split <;> exact ⟨rfl, rfl⟩
  have hput : History.sets (s.history.put (ejected facts e)) p x ↔ s.history.sets p x := by
    refine History.sets_put_again ?_
    rw [hsame.1, hsame.2]
    exact ⟨e, he, rfl, rfl⟩
  unfold ejectStored
  split
  · exact hput
  · exact hput

theorem ejectDevice_keeps {facts : SessionFacts} {e : SessionDevice} (he : e ∈ s.history.entries)
    (htracks : s.Tracks) (hlisted : ∀ d, s.Listed d) :
    (s.ejectDevice facts e).Tracks ∧ ∀ d, (s.ejectDevice facts e).Listed d := by
  have hstored : (s.ejectStored facts e).Tracks :=
    tracks_of_sets htracks (ejectStored_map s facts e) (ejectStored_sets he)
  rw [ejectDevice_eq]
  split
  · exact ⟨htracks, hlisted⟩
  split
  · refine ⟨hstored, fun d => ?_⟩
    have hlist : Shows (post? d) (s.ejectStored facts e)
        ((s.ejectStored facts e).updateDeviceList e.deviceSetId)
        (if e.deviceSetId = d.name then
          [allDevicePayload ((s.ejectStored facts e).history.find [.deviceSetIdIs e.deviceSetId])]
        else []) := by
      refine ⟨_, rfl, ?_⟩
      rw [posts_of_notifyAll, ejectStored_set]
    have hstorage : Shows (post? d) ((s.ejectStored facts e).updateDeviceList e.deviceSetId)
        (((s.ejectStored facts e).updateDeviceList e.deviceSetId).updateStorageDeviceList
          e.deviceSetId) [] :=
      ⟨_, rfl, (overlooks_post d).notifyToDisplay _ _ _⟩
    refine listed_of_posts (((ejectStored_shows s facts e d).trans hlist).trans hstorage) ?_ ?_
    · intro q hq
      rw [List.nil_append, List.append_nil] at hq
      split at hq
      case isTrue hset =>
        rw [List.mem_singleton.mp hq, hset]
        rfl
      case isFalse => cases hq
    · intro _
      exact ⟨hlisted d, fun p => ejectStored_sets he p _⟩
  · refine ⟨hstored, fun d => ?_⟩
    refine listed_of_posts (ejectStored_shows s facts e d) (by simp) fun _ => ?_
    exact ⟨hlisted d, fun p => ejectStored_sets he p _⟩

theorem eject_keeps (facts : SessionFacts) (deviceNum : Int) (htracks : s.Tracks)
    (hlisted : ∀ d, s.Listed d) :
    (s.eject facts deviceNum).Tracks ∧ ∀ d, (s.eject facts deviceNum).Listed d := by
  unfold eject
  cases hfind : s.history.find [.deviceNumIs deviceNum] with
  | nil => exact ⟨htracks, hlisted⟩
  | cons e es =>
    have he : e ∈ s.history.find [.deviceNumIs deviceNum] := by rw [hfind]; simp
    exact ejectDevice_keeps (mem_find.mp he).1 htracks hlisted

/-- A removal up to the lists that it posts. -/
def removalDeleted (s : SessionService) (e : SessionDevice) : SessionService :=
  let s := (({ s with m_deviceSetId := e.deviceSetId, m_deviceType := e.deviceType } :
      SessionService).act (umountRemoved e)).act
    [.displayDisconnectedToast e.hubPortPath
      (if e.isStorage then "Storage" else e.deviceType) e.deviceSetId]
  { s with history := s.history.remove e.hubPortPath }

theorem removal_eq (s : SessionService) {hubPortPath : String} (hsome : hubPortPath ≠ "") :
    s.removal hubPortPath =
      match s.history.find [.hubPortPathIs hubPortPath] with
      | [] => s.removeHubPortPathFromMap hubPortPath
      | e :: _ =>
        let t := (s.removeHubPortPathFromMap hubPortPath).removalDeleted e
        let u := (t.cbPayloadResponse
          (t.history.find [.deviceSetIdIs e.deviceSetId, typeClause e.deviceType]))
        (u.cbHostPayloadResponse (u.history.find [typeClause e.deviceType])).cbAllDeviceSessionResponse
          (t.history.find [.deviceSetIdIs e.deviceSetId]) := by
  unfold removal
  rw [if_neg hsome]
  rfl

theorem umountRemoved_posts_nothing (d : Display) (e : SessionDevice) :
    (umountRemoved e).filterMap (post? d) = [] := by
  unfold umountRemoved
  split
  · exact umounts_post_nothing d _
  · rfl

theorem removalDeleted_shows (s : SessionService) (e : SessionDevice) (d : Display) :
    Shows (post? d) s (s.removalDeleted e) [] := by
  refine ⟨_, List.append_assoc _ _ _, ?_⟩
  rw [List.filterMap_append, umountRemoved_posts_nothing]
  rfl

/-- The lists that a removal posts of a display. -/
theorem removal_shows {e : SessionDevice} (t : SessionService) (hset : t.m_deviceSetId = e.deviceSetId)
    (results host all : List SessionDevice) (d : Display) :
    Shows (post? d) t
      (((t.cbPayloadResponse results).cbHostPayloadResponse host).cbAllDeviceSessionResponse all)
      (if e.deviceSetId = d.name then [allDevicePayload all] else []) := by
  have hfirst : Shows (post? d) t (t.cbPayloadResponse results) [] :=
    ⟨_, rfl, (overlooks_post d).notifyToDisplay _ _ _⟩
  have hhost : Shows (post? d) (t.cbPayloadResponse results)
      ((t.cbPayloadResponse results).cbHostPayloadResponse host) [] :=
    ⟨_, rfl, (overlooks_post d).notifyToDisplay _ _ _⟩
  have hall : Shows (post? d) ((t.cbPayloadResponse results).cbHostPayloadResponse host)
      (((t.cbPayloadResponse results).cbHostPayloadResponse host).cbAllDeviceSessionResponse all)
      (if e.deviceSetId = d.name then [allDevicePayload all] else []) := by
    refine ⟨_, rfl, ?_⟩
    rw [posts_of_notifyAll]
    show (if t.m_deviceSetId = d.name then _ else _) = _
    rw [hset]
  simpa using (hfirst.trans hhost).trans hall

theorem removal_keeps (hubPortPath : String) (htracks : s.Tracks) (hlisted : ∀ d, s.Listed d) :
    (s.removal hubPortPath).Tracks ∧ ∀ d, (s.removal hubPortPath).Listed d := by
  by_cases hsome : hubPortPath = ""
  · unfold removal
    rw [if_pos hsome]
    exact ⟨htracks, hlisted⟩
  rw [removal_eq s hsome]
  cases hfind : s.history.find [.hubPortPathIs hubPortPath] with
  | nil =>
    refine ⟨fun p d hset => ?_, hlisted⟩
    have hne : p ≠ hubPortPath := by
      rintro rfl
      obtain ⟨e, he, hep, -⟩ := hset
      have hmem : e ∈ s.history.find [.hubPortPathIs p] :=
        mem_find.mpr ⟨he, by simpa [HistoryClause.holds] using hep⟩
      rw [hfind] at hmem
      cases hmem
    show (if p = hubPortPath then none else s.portDisplayMap p) = _
    rw [if_neg hne]
    exact htracks p d hset
  | cons e es =>
    have he : e ∈ s.history.find [.hubPortPathIs hubPortPath] := by rw [hfind]; simp
    obtain ⟨hentry, hpath⟩ := mem_find.mp he
    have hep : e.hubPortPath = hubPortPath := by simpa [HistoryClause.holds] using hpath
    have hsets : ∀ p x, History.sets (s.history.remove e.hubPortPath) p x ↔
        p ≠ hubPortPath ∧ s.history.sets p x := by
      intro p x
      rw [History.sets_remove, hep]
    refine ⟨fun p d hset => ?_, fun d => ?_⟩
    · obtain ⟨hne, hset⟩ := (hsets p d.name).mp hset
      show (if p = hubPortPath then none else s.portDisplayMap p) = _
      rw [if_neg hne]
      exact htracks p d hset
    · refine listed_of_posts (s := s.removeHubPortPathFromMap hubPortPath)
        ((removalDeleted_shows _ e d).trans (removal_shows (e := e) _ rfl _ _ _ d)) ?_ ?_
      · intro q hq
        rw [List.nil_append] at hq
        split at hq
        case isTrue hset =>
          rw [List.mem_singleton.mp hq, ← hset]
          rfl
        case isFalse => cases hq
      · intro hnil
        have hother : e.deviceSetId ≠ d.name := by
          intro hset
          simp [hset] at hnil
        refine ⟨hlisted d, fun p => (hsets p d.name).trans ?_⟩
        refine and_iff_right_of_imp fun hset hp => hother ?_
        refine History.sets_unique (h := s.history) (p := p) ⟨e, hentry, ?_, rfl⟩ hset
        rw [hep, hp]

/-! ### Runs -/

/-- The step lemma of the operations. -/
theorem perform_listed_iff (htracks : s.Tracks) (hlisted : ∀ d, s.Listed d) (op : SessionOp) :
    (∀ d, (s.perform op).Listed d) ↔ s.Covers op := by
  cases op with
  | setDeviceForSession r => exact request_listed_iff htracks hlisted
  | eject facts deviceNum =>
    exact iff_of_true (eject_keeps facts deviceNum htracks hlisted).2 trivial
  | removal hubPortPath => exact iff_of_true (removal_keeps hubPortPath htracks hlisted).2 trivial

theorem perform_tracks (htracks : s.Tracks) (hlisted : ∀ d, s.Listed d) (op : SessionOp) :
    (s.perform op).Tracks := by
  cases op with
  | setDeviceForSession r => exact request_tracks htracks
  | eject facts deviceNum => exact (eject_keeps facts deviceNum htracks hlisted).1
  | removal hubPortPath => exact (removal_keeps hubPortPath htracks hlisted).1

/-- The lists of the displays agree with the records after every operation exactly when no
record at a display was left when the service started, and every request names the devices of
the displays that it posts lists of and of no others. -/
theorem lists_agree_iff (h : History) (ops : List SessionOp) :
    ((∀ d, (start h).Listed d) ∧
        Runs.StepsAll perform (fun s op => ∀ d, (s.perform op).Listed d) (start h) ops) ↔
      (∀ p (d : Display), ¬ h.sets p d.name) ∧ Runs.StepsAll perform Covers (start h) ops := by
  have hstart : (∀ d, (start h).Listed d) ↔ ∀ p (d : Display), ¬ h.sets p d.name := by
    constructor
    · intro hlisted p d hset
      have hmem := (hlisted d p).mpr hset
      cases hmem
    · intro hnone d p
      exact iff_of_false (by rintro ⟨⟩) (hnone p d)
  rw [hstart]
  refine and_congr_right fun hnone => ?_
  have htracks : (start h).Tracks := fun p d hset => absurd hset (hnone p d)
  refine Runs.stepsAll_congr (I := fun s => s.Tracks ∧ ∀ d, s.Listed d) ?_ ?_
    ⟨htracks, hstart.mpr hnone⟩
  · intro s op hs hlisted
    exact ⟨perform_tracks hs.1 hs.2 op, hlisted⟩
  · intro s op hs
    exact perform_listed_iff hs.1 hs.2 op

/-- A second stick at the head unit's display. -/
def otherFrontStick : SessionDevice :=
  { hubPortPath := "1-3", deviceSetId := "AVN", deviceType := "USB_STORAGE" }

def bothSticks : SubsetRequest :=
  { sessionId := "guest", storageDeviceList := [frontStick, otherFrontStick], nodup := by decide }

def oneStick : SubsetRequest :=
  { sessionId := "guest", storageDeviceList := [otherFrontStick], nodup := by decide }

/-- The second request names one stick of the two at the display, and the list loses the
other. -/
theorem front_list_loses_stick :
    ¬ ∀ (h : History) (ops : List SessionOp), (∀ p (d : Display), ¬ h.sets p d.name) →
      Runs.StepsAll perform (fun s op => ∀ d, (s.perform op).Listed d) (start h) ops := by
  intro h
  obtain ⟨-, hlisted, -⟩ := h KeyedStore.empty
    [.setDeviceForSession bothSticks, .setDeviceForSession oneStick]
    (by rintro p d ⟨e, he, -⟩; cases he)
  have hposted : ((((start KeyedStore.empty).perform (.setDeviceForSession bothSticks)).perform
      (.setDeviceForSession oneStick)).lastPosted .avn).map SessionDevice.hubPortPath = ["1-3"] := by
    decide
  have hrecord : { frontStick with errorReason := "nothing" } ∈
      (((start KeyedStore.empty).perform (.setDeviceForSession bothSticks)).perform
        (.setDeviceForSession oneStick)).history.entries := by decide
  have hmem := (hlisted .avn "1-1").mpr ⟨_, hrecord, rfl, rfl⟩
  rw [hposted] at hmem
  simp at hmem

end SessionService

end Pdm
