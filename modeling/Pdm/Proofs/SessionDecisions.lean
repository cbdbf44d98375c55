/-
Devices of one request that reach into each other.

The loops of `setDeviceForSession` keep the display a device was set to last in a variable
that outlives the device.  A device with an entry in the display map overwrites it; a device
without one finds what the nearest device before it, with an entry, has left.  The devices
of one composite device share a path, and a device also finds what an earlier one of its
path has just put into the maps.  What is undone of a device in its turn is a function of its
own entry and of what it finds, so two requests treat it alike exactly when what it finds
makes no difference (`decisions_agree_iff`).
-/
import Mathlib.Data.List.Induction
import Pdm.Proofs.SessionSteps

namespace Pdm

open SessionService

/-! ### Decisions -/

inductive SessionDecision where
  | unmountsPrevious
  | deletesRecord
  | toastsDisconnected (deviceSetId : String)
  deriving DecidableEq, Repr

/-- What an act decides for the device on a path. -/
def decision? (hubPortPath : String) : SessionAct → Option SessionDecision
  | .deletePreviousMountName p _ => if p = hubPortPath then some .unmountsPrevious else none
  | .deletePreviousPayload p => if p = hubPortPath then some .deletesRecord else none
  | .displayDisconnectedToast p _ deviceSetId =>
    if p = hubPortPath then some (.toastsDisconnected deviceSetId) else none
  | _ => none

theorem overlooks_decision (p : String) : Overlooks (decision? p) :=
  ⟨fun _ _ _ _ => rfl, fun _ _ => rfl, fun _ _ _ => rfl⟩

/-- The decisions for a storage device, of the display it was set to `last`. -/
def storageDecisions (previous sessionId last deviceSetId : String) : List SessionDecision :=
  if (previous ≠ "" ∧ previous ≠ sessionId) ∨ leaves last deviceSetId = true then
    [.unmountsPrevious, .deletesRecord] ++
      if leaves last deviceSetId then [.toastsDisconnected last] else []
  else []

def nonStorageDecisions (last deviceSetId : String) : List SessionDecision :=
  if leaves last deviceSetId then [.deletesRecord, .toastsDisconnected last] else []

theorem decisions_releaseActs (s : SessionService) (sessionId last : String) (d : SessionDevice)
    (p : String) : (releaseActs s sessionId last d).filterMap (decision? p) =
      if d.hubPortPath = p then
        storageDecisions (s.findPreviousSessionId d.hubPortPath) sessionId last d.deviceSetId
      else [] := by
  simp only [releaseActs, storageDecisions]
  by_cases hp : d.hubPortPath = p
  · split
    · split <;> simp [decision?, hp]
    · simp
  · split
    · split <;> simp [decision?, hp]
    · simp

theorem decisions_moveActs (last : String) (d : SessionDevice) (p : String) :
    (moveActs last d).filterMap (decision? p) =
      if d.hubPortPath = p then nonStorageDecisions last d.deviceSetId else [] := by
  unfold moveActs nonStorageDecisions
  by_cases hp : d.hubPortPath = p
  · split <;> simp [decision?, hp]
  · split <;> simp [decision?, hp]

/-! ### What a device finds -/

/-- The display on record for a path, after the devices `earlier`, the nearest first. -/
def recordedDisplay (map : String → Option String) (earlier : List SessionDevice)
    (hubPortPath : String) : Option String :=
  ((earlier.find? (·.hubPortPath = hubPortPath)).map (·.deviceSetId)).or (map hubPortPath)

/-- The display of the nearest device before, among those of its own list, that has one on
record.  The devices of `listed` came before them all. -/
def inherited (map : String → Option String) (listed : List SessionDevice) :
    List SessionDevice → String
  | [] => ""
  | d :: earlier =>
    (recordedDisplay map (earlier ++ listed) d.hubPortPath).getD (inherited map listed earlier)

theorem recordedDisplay_cons (map : String → Option String) (d : SessionDevice)
    (earlier : List SessionDevice) (p : String) :
    recordedDisplay map (d :: earlier) p =
      if p = d.hubPortPath then some d.deviceSetId else recordedDisplay map earlier p := by
  unfold recordedDisplay
  by_cases hp : d.hubPortPath = p
  · rw [List.find?_cons_of_pos (by simpa using hp), if_pos hp.symm]
    rfl
  · rw [List.find?_cons_of_neg (by simpa using hp), if_neg (Ne.symm hp)]

/-- What a loop over `ds` has come to. -/
structure LoopAt (map : String → Option String) (listed ds : List SessionDevice) (loop : Loop) :
    Prop where
  display : ∀ p, loop.service.portDisplayMap p = recordedDisplay map (ds.reverse ++ listed) p
  last : loop.last = inherited map listed ds.reverse

/-- One more device: a step lemma for both loops. -/
theorem LoopAt.concat {map : String → Option String} {listed ds : List SessionDevice}
    {loop loop' : Loop} {d : SessionDevice} {acts : List SessionAct} {undone stored : Prop}
    (h : LoopAt map listed ds loop) (hstep : DeviceStep loop loop' d acts undone stored) :
    LoopAt map listed (ds ++ [d]) loop' where
  display := by
    intro p
    rw [hstep.display, List.reverse_concat, List.cons_append, recordedDisplay_cons, ← h.display p]
    rfl
  last := by
    rw [hstep.last, List.reverse_concat]
    unfold Loop.lastDeviceSetId
    rw [h.display, h.last]
    rfl

theorem storageLoop_at (sessionId : String) {map : String → Option String} {s : SessionService}
    (hmap : s.portDisplayMap = map) (ds : List SessionDevice) :
    LoopAt map [] ds (ds.foldl (setStorageDevice sessionId) { service := s }) := by
  induction ds using List.reverseRecOn with
  | nil => exact ⟨fun p => by simp [recordedDisplay, hmap], rfl⟩
  | append_singleton ds d ih =>
    rw [List.foldl_concat]
    exact ih.concat (setStorageDevice_step sessionId _ d).1

theorem nonStorageLoop_at {map : String → Option String} {listed : List SessionDevice}
    {s : SessionService} (hmap : ∀ p, s.portDisplayMap p = recordedDisplay map listed p)
    (ds : List SessionDevice) :
    LoopAt map listed ds (ds.foldl setNonStorageDevice { service := s }) := by
  induction ds using List.reverseRecOn with
  | nil => exact ⟨hmap, rfl⟩
  | append_singleton ds d ih =>
    rw [List.foldl_concat]
    exact ih.concat (setNonStorageDevice_step _ d)

/-- The state the second loop starts in. -/
def nonStorageStart (s : SessionService) (r : SetDeviceRequest) : SessionService :=
  (s.storageLoop r).service.act
    (notifyDisplays (fun l => { storageDeviceList := some l }) "USB_STORAGE" (s.storageLoop r).done)

/-! ### A device named in a request -/

/-- The two lists of a request. -/
inductive ListKind where
  | storage
  | nonStorage
  deriving DecidableEq, Repr

namespace SetDeviceRequest

def devices (r : SetDeviceRequest) : ListKind → List SessionDevice
  | .storage => r.storageDeviceList
  | .nonStorage => r.nonStorageDeviceList

/-- The devices of the list that came first. -/
def listed (r : SetDeviceRequest) : ListKind → List SessionDevice
  | .storage => []
  | .nonStorage => r.storageDeviceList

/-- One turn of the loop over a list. -/
def turn (r : SetDeviceRequest) : ListKind → Loop → SessionDevice → Loop
  | .storage => setStorageDevice r.sessionId
  | .nonStorage => setNonStorageDevice

/-- The state the loop over a list starts in. -/
def start (r : SetDeviceRequest) (s : SessionService) : ListKind → SessionService
  | .storage => s
  | .nonStorage => nonStorageStart s r

end SetDeviceRequest

/-- `d` stands in a list of the request. -/
structure Named (r : SetDeviceRequest) (kind : ListKind) (d : SessionDevice) where
  before : List SessionDevice
  after : List SessionDevice
  split : r.devices kind = before ++ d :: after

namespace Named

variable {r : SetDeviceRequest} {kind : ListKind} {d : SessionDevice}

/-- The loop as it comes to the device. -/
def arrived (n : Named r kind d) (s : SessionService) : Loop :=
  n.before.foldl (r.turn kind) { service := r.start s kind }

/-- The loop as it leaves the device. -/
def left (n : Named r kind d) (s : SessionService) : Loop := r.turn kind (n.arrived s) d

/-- What is decided for the device in its turn. -/
def decisions (n : Named r kind d) (s : SessionService) : List SessionDecision :=
  ((n.left s).service.acts.drop (n.arrived s).service.acts.length).filterMap
    (decision? d.hubPortPath)

/-! ### The turn as a part of the request -/

/-- From one state to another acts are only added. -/
def Adds (s t : SessionService) : Prop := Shows (fun _ => (none : Option Unit)) s t []

theorem turn_adds (r : SetDeviceRequest) (kind : ListKind) (loop : Loop) (d : SessionDevice) :
    Adds loop.service (r.turn kind loop d).service := by
  have hnone : Overlooks (fun _ => (none : Option Unit)) :=
    ⟨fun _ _ _ _ => rfl, fun _ _ => rfl, fun _ _ _ => rfl⟩
  have hnil : ∀ acts : List SessionAct, acts.filterMap (fun _ => (none : Option Unit)) = [] :=
    fun acts => List.filterMap_eq_nil_iff.mpr fun _ _ => rfl
  cases kind with
  | storage =>
    have h := (setStorageDevice_step r.sessionId loop d).1.shows hnone
    rwa [hnil] at h
  | nonStorage =>
    have h := (setNonStorageDevice_step loop d).shows hnone
    rwa [hnil] at h

theorem turns_add (r : SetDeviceRequest) (kind : ListKind) (ds : List SessionDevice) (loop : Loop) :
    Adds loop.service (ds.foldl (r.turn kind) loop).service := by
  induction ds generalizing loop with
  | nil => exact Shows.refl
  | cons d ds ih => exact (turn_adds r kind loop d).trans (ih _)

theorem adds_act (s : SessionService) (acts : List SessionAct) : Adds s (s.act acts) :=
  ⟨acts, rfl, List.filterMap_eq_nil_iff.mpr fun _ _ => rfl⟩

/-- **What the device's turn adds is a part of what the request adds.** -/
theorem left_part (n : Named r kind d) (s : SessionService) :
    Adds (n.arrived s).service (n.left s).service ∧
      Adds (n.left s).service (s.cbSetDeviceForSession r) := by
  refine ⟨turn_adds r kind _ d, ?_⟩
  have hrest : Adds (n.left s).service
      ((r.devices kind).foldl (r.turn kind) { service := r.start s kind }).service := by
    rw [n.split, List.foldl_append, List.foldl_cons]
    exact turns_add r kind n.after _
  have hend : Adds (s.nonStorageLoop r).service (s.cbSetDeviceForSession r) := adds_act _ _
  cases kind with
  | nonStorage => exact Shows.trans hrest hend
  | storage =>
    have hbetween : Adds (s.storageLoop r).service (nonStorageStart s r) := adds_act _ _
    have hsecond : Adds (nonStorageStart s r) (s.nonStorageLoop r).service :=
      turns_add r .nonStorage r.nonStorageDeviceList { service := nonStorageStart s r }
    exact Shows.trans (Shows.trans (Shows.trans hrest hbetween) hsecond) hend

/-! ### What a device finds and what is decided -/

/-- The display of the nearest device before it, with one on record, among those of its
list. -/
def inherited (n : Named r kind d) (s : SessionService) : String :=
  Pdm.inherited s.portDisplayMap (r.listed kind).reverse n.before.reverse

/-- The display that a device finds: the one that the nearest device of its path before it
was set to, or else the one on record, or else the inherited one. -/
def found (n : Named r kind d) (s : SessionService) : String :=
  (recordedDisplay s.portDisplayMap (n.before.reverse ++ (r.listed kind).reverse)
    d.hubPortPath).getD (n.inherited s)

/-- A device of its path comes before it in its list. -/
def Follows (n : Named r kind d) : Prop := ∃ e ∈ n.before, e.hubPortPath = d.hubPortPath

instance (n : Named r kind d) : Decidable n.Follows :=
  inferInstanceAs (Decidable (∃ e ∈ n.before, e.hubPortPath = d.hubPortPath))

theorem arrived_at (n : Named r kind d) (s : SessionService) :
    LoopAt s.portDisplayMap (r.listed kind).reverse n.before (n.arrived s) := by
  cases kind with
  | storage => exact storageLoop_at r.sessionId rfl n.before
  | nonStorage =>
    refine nonStorageLoop_at (s := nonStorageStart s r) (fun p => ?_) n.before
    have hat :=
      (storageLoop_at r.sessionId (rfl : s.portDisplayMap = _) r.storageDeviceList).display p
    rwa [List.append_nil] at hat

theorem arrived_found (n : Named r kind d) (s : SessionService) :
    (n.arrived s).lastDeviceSetId d.hubPortPath = n.found s := by
  have hat := n.arrived_at s
  unfold Loop.lastDeviceSetId
  rw [hat.display, hat.last]
  rfl

/-- A storage device finds the session of the request where one of its path came before. -/
theorem arrived_session (n : Named r .storage d) (s : SessionService) :
    (n.arrived s).service.findPreviousSessionId d.hubPortPath =
      if n.Follows then r.sessionId else s.findPreviousSessionId d.hubPortPath := by
  have hloop : ∀ ds : List SessionDevice,
      (ds.foldl (setStorageDevice r.sessionId) { service := s }).service.findPreviousSessionId
          d.hubPortPath =
        if ∃ e ∈ ds, e.hubPortPath = d.hubPortPath then r.sessionId
        else s.findPreviousSessionId d.hubPortPath := by
    intro ds
    induction ds using List.reverseRecOn with
    | nil => simp
    | append_singleton ds e ih =>
      rw [List.foldl_concat]
      generalize ds.foldl (setStorageDevice r.sessionId) { service := s } = loop at ih ⊢
      have hmap := (setStorageDevice_step r.sessionId loop e).2
      unfold findPreviousSessionId at ih ⊢
      rw [hmap]
      by_cases he : e.hubPortPath = d.hubPortPath
      · rw [if_pos ⟨e, by simp, he⟩]
        simp [setSession, he]
      · have hsame : (∃ x ∈ ds ++ [e], x.hubPortPath = d.hubPortPath) ↔
            ∃ x ∈ ds, x.hubPortPath = d.hubPortPath := by
          simp [he]
        rw [if_congr hsame rfl rfl, ← ih]
        simp [setSession, Ne.symm he]
  exact hloop n.before

theorem storage_decisions (n : Named r .storage d) (s : SessionService) :
    n.decisions s =
      storageDecisions (if n.Follows then r.sessionId else s.findPreviousSessionId d.hubPortPath)
        r.sessionId (n.found s) d.deviceSetId := by
  have hshows := (setStorageDevice_step r.sessionId (n.arrived s) d).1.shows
    (overlooks_decision d.hubPortPath)
  rw [decisions_releaseActs, if_pos rfl, n.arrived_found, n.arrived_session] at hshows
  exact hshows.drop

theorem nonStorage_decisions (n : Named r .nonStorage d) (s : SessionService) :
    n.decisions s = nonStorageDecisions (n.found s) d.deviceSetId := by
  have hshows := (setNonStorageDevice_step (n.arrived s) d).shows (overlooks_decision d.hubPortPath)
  rw [decisions_moveActs, if_pos rfl, n.arrived_found] at hshows
  exact hshows.drop

end Named

/-! ### Two requests -/

/-- Two displays between which a device set to `deviceSetId` sees no difference. -/
def Alike (deviceSetId last last' : String) : Prop :=
  last = last' ∨ (last ∈ ["", deviceSetId] ∧ last' ∈ ["", deviceSetId])

theorem leaves_eq_false {last deviceSetId : String} :
    leaves last deviceSetId = false ↔ last ∈ ["", deviceSetId] := by
  simp [leaves, or_iff_not_imp_left]

/-- Only the display that a device leaves is seen in what is decided. -/
theorem alike_iff {last last' deviceSetId : String} :
    Alike deviceSetId last last' ↔
      (if leaves last deviceSetId then some last else none) =
        (if leaves last' deviceSetId then some last' else none) := by
  unfold Alike
  rw [← leaves_eq_false, ← leaves_eq_false]
  cases h : leaves last deviceSetId <;> cases h' : leaves last' deviceSetId
  · simp
  · simp only [Bool.false_eq_true, if_false, if_true, reduceCtorEq, iff_false]
    rintro (rfl | ⟨-, h''⟩)
    · rw [h] at h'; cases h'
    · cases h''
  · simp only [Bool.false_eq_true, if_false, if_true, reduceCtorEq, iff_false]
    rintro (rfl | ⟨h'', -⟩)
    · rw [h] at h'; cases h'
    · cases h''
  · simp

theorem nonStorageDecisions_eq_iff {last last' deviceSetId : String} :
    nonStorageDecisions last deviceSetId = nonStorageDecisions last' deviceSetId ↔
      Alike deviceSetId last last' := by
  rw [alike_iff]
  unfold nonStorageDecisions
  cases leaves last deviceSetId <;> cases leaves last' deviceSetId <;> simp

/-- Another session than the request's has set the device. -/
def Changes (previous sessionId : String) : Prop := previous ≠ "" ∧ previous ≠ sessionId

/-- A device that leaves no display is undone for its session alone. -/
theorem storageDecisions_eq_iff {previous previous' sessionId last last' deviceSetId : String} :
    storageDecisions previous sessionId last deviceSetId =
        storageDecisions previous' sessionId last' deviceSetId ↔
      Alike deviceSetId last last' ∧ (leaves last deviceSetId = false →
        (Changes previous sessionId ↔ Changes previous' sessionId)) := by
  rw [alike_iff]
  unfold storageDecisions Changes
  cases leaves last deviceSetId <;> cases leaves last' deviceSetId
  · by_cases h : previous ≠ "" ∧ previous ≠ sessionId <;>
      by_cases h' : previous' ≠ "" ∧ previous' ≠ sessionId <;> simp [h, h']
  · simp
    split <;> simp
  · simp
    split <;> simp
  · simp

/-- What two states and requests agree on for the device. -/
structure SameDevice (d : SessionDevice) (s s' : SessionService) (r r' : SetDeviceRequest) :
    Prop where
  sessionId : r.sessionId = r'.sessionId
  display : s.portDisplayMap d.hubPortPath = s'.portDisplayMap d.hubPortPath
  session : s.findPreviousSessionId d.hubPortPath = s'.findPreviousSessionId d.hubPortPath

/-- What stands before the device in the two requests makes no difference to it: the
displays it finds are alike, and where it leaves no display, another session set it neither
time or a device of its path comes before it in both requests or in neither. -/
structure SeesAlike {r r' : SetDeviceRequest} {kind : ListKind} {d : SessionDevice}
    (n : Named r kind d) (n' : Named r' kind d) (s s' : SessionService) : Prop where
  display : Alike d.deviceSetId (n.found s) (n'.found s')
  session : kind = .storage → leaves (n.found s) d.deviceSetId = false →
    Changes (s.findPreviousSessionId d.hubPortPath) r.sessionId → (n.Follows ↔ n'.Follows)

/-- Two requests decide alike for a device exactly when what it finds in them makes no
difference to it. -/
theorem decisions_agree_iff {kind : ListKind} {d : SessionDevice} {s s' : SessionService}
    {r r' : SetDeviceRequest} (n : Named r kind d) (n' : Named r' kind d)
    (hsame : SameDevice d s s' r r') :
    n.decisions s = n'.decisions s' ↔ SeesAlike n n' s s' := by
  have hchanges : ∀ {previous sessionId : String} {P : Prop} [Decidable P],
      Changes (if P then sessionId else previous) sessionId ↔
        ¬ P ∧ Changes previous sessionId := by
    intro previous sessionId P _
    by_cases hP : P
    · simp [hP, Changes]
    · simp [hP]
  cases kind with
  | storage =>
    rw [n.storage_decisions, n'.storage_decisions, ← hsame.sessionId, ← hsame.session,
      storageDecisions_eq_iff, hchanges, hchanges]
    constructor
    · intro h
      refine ⟨h.1, fun _ hstays hother => ?_⟩
      have hiff := h.2 hstays
      rw [and_iff_left hother, and_iff_left hother] at hiff
      exact not_iff_not.mp hiff
    · intro h
      refine ⟨h.display, fun hstays => and_congr_left fun hother => ?_⟩
      exact not_congr (h.session rfl hstays hother)
  | nonStorage =>
    rw [n.nonStorage_decisions, n'.nonStorage_decisions, nonStorageDecisions_eq_iff]
    exact ⟨fun h => ⟨h, fun hkind => absurd hkind (by decide)⟩, fun h => h.display⟩

/-- A stick at the head unit's display, and one that was never set to a display. -/
def frontStick : SessionDevice :=
  { hubPortPath := "1-1", deviceSetId := "AVN", deviceType := "USB_STORAGE" }

def newStick : SessionDevice :=
  { hubPortPath := "1-2", deviceSetId := "RSE-L", deviceType := "USB_STORAGE" }

def frontStickSet : SessionService := ({} : SessionService).setDisplay "1-1" "AVN"

def newStickAlone : SetDeviceRequest := { sessionId := "guest", storageDeviceList := [newStick] }

def newStickSecond : SetDeviceRequest :=
  { sessionId := "guest", storageDeviceList := [frontStick, newStick] }

def newStickAlone_named : Named newStickAlone .storage newStick := ⟨[], [], rfl⟩

def newStickSecond_named : Named newStickSecond .storage newStick := ⟨[frontStick], [], rfl⟩

theorem decisions_agree_iff_sticks :
    SameDevice newStick frontStickSet frontStickSet newStickAlone newStickSecond ∧
    (newStickAlone_named.decisions frontStickSet = newStickSecond_named.decisions frontStickSet ↔
      SeesAlike newStickAlone_named newStickSecond_named frontStickSet frontStickSet) :=
  ⟨⟨rfl, rfl, rfl⟩, decisions_agree_iff newStickAlone_named newStickSecond_named ⟨rfl, rfl, rfl⟩⟩

/-- The new stick is unmounted, and the head unit told that it is gone, because the other
stick stands before it. -/
theorem new_stick_leaves_front_display :
    ¬ ∀ (kind : ListKind) (d : SessionDevice) (s s' : SessionService) (r r' : SetDeviceRequest)
      (n : Named r kind d) (n' : Named r' kind d), SameDevice d s s' r r' →
        n.decisions s = n'.decisions s' := by
  intro h
  have hdecisions := h .storage newStick frontStickSet frontStickSet newStickAlone newStickSecond
    newStickAlone_named newStickSecond_named ⟨rfl, rfl, rfl⟩
  have halone : newStickAlone_named.decisions frontStickSet = [] := by decide
  have hsecond : newStickSecond_named.decisions frontStickSet =
      [.unmountsPrevious, .deletesRecord, .toastsDisconnected "AVN"] := by decide
  rw [halone, hsecond] at hdecisions
  cases hdecisions

end Pdm
