/-
What the streaming devices say of themselves.

A device is flagged as mounted, a camera has a drive status too, and one that was ejected
has that as its error reason.  All of it is true as long as whatever a step mounts or
unmounts is the mount point of the one device it is about, and the step writes to the
device what it has done.  The suspend of the cameras does not write, and an eject writes the
drive status before it knows the outcome.
-/
import Pdm.Proofs.Suspend
import Pdm.Proofs.WorldSteps

namespace Pdm

open Visit (visit)

/-! ### One device and the mount table -/

/-- The device's flag and its error reason are true, with `K` the mount points in use. -/
structure Storage.StatusTrue (K : Finset String) (d : Storage) : Prop where
  flag : d.isMounted = true ↔ d.mountName ∈ K
  ejected : d.errorReason = .ejected → d.mountName ∉ K

namespace Storage.StatusTrue

variable {K : Finset String} {d : Storage} {m : String}

theorem not_ejected (h : d.StatusTrue K) (hmounted : d.isMounted = true) :
    d.errorReason ≠ .ejected :=
  fun heject => h.ejected heject (h.flag.mp hmounted)

/-- Nothing else of the device is looked at. -/
theorem congr {e : Storage} (h : d.StatusTrue K) (hflag : e.isMounted = d.isMounted)
    (hmount : e.mountName = d.mountName) (hreason : e.errorReason = d.errorReason) :
    e.StatusTrue K := by
  refine ⟨?_, ?_⟩
  · rw [hflag, hmount]
    exact h.flag
  · rw [hreason, hmount]
    exact h.ejected

theorem holds_eq (h : d.StatusTrue K) : d.holds = d.isMounted := by
  unfold Storage.holds
  cases hmounted : d.isMounted with
  | false => rfl
  | true => rw [Bool.true_and, decide_eq_true (h.not_ejected hmounted)]

/-- Something is mounted at `m`. -/
theorem insert_iff (h : d.StatusTrue K) :
    d.StatusTrue (insert m K) ↔ (d.mountName = m → d.isMounted = true) := by
  constructor
  · intro hafter hname
    exact hafter.flag.mpr (Finset.mem_insert.mpr (Or.inl hname))
  · intro hflag
    refine ⟨⟨fun hmounted => ?_, fun hmem => ?_⟩, fun heject hmem => ?_⟩
    · exact Finset.mem_insert_of_mem (h.flag.mp hmounted)
    · rcases Finset.mem_insert.mp hmem with hname | hmem
      · exact hflag hname
      · exact h.flag.mpr hmem
    · rcases Finset.mem_insert.mp hmem with hname | hmem
      · exact h.not_ejected (hflag hname) heject
      · exact h.ejected heject hmem

/-- What was mounted at some places is unmounted. -/
theorem shrink_iff {K' : Finset String} {F : String → Prop}
    (hK : ∀ m, m ∈ K' ↔ m ∈ K ∧ ¬ F m) (h : d.StatusTrue K) :
    d.StatusTrue K' ↔ (F d.mountName → d.isMounted = false) := by
  constructor
  · intro hafter hfreed
    rw [Bool.eq_false_iff]
    intro hmounted
    exact ((hK d.mountName).mp (hafter.flag.mp hmounted)).2 hfreed
  · intro hflag
    refine ⟨⟨fun hmounted => ?_, fun hmem => ?_⟩, fun heject hmem => ?_⟩
    · refine (hK d.mountName).mpr ⟨h.flag.mp hmounted, fun hfreed => ?_⟩
      rw [hflag hfreed] at hmounted
      exact absurd hmounted (by simp)
    · exact h.flag.mpr ((hK d.mountName).mp hmem).1
    · exact h.ejected heject ((hK d.mountName).mp hmem).1

theorem erase_iff (h : d.StatusTrue K) :
    d.StatusTrue (K.erase m) ↔ (d.mountName = m → d.isMounted = false) :=
  h.shrink_iff (F := (· = m)) fun _ => by rw [Finset.mem_erase, and_comm]

end Storage.StatusTrue

/-- A write to a device of the list: the others are those that stay when it is removed. -/
theorem forall_writeBack_iff {α : Type} [IDevice α] {l : List α} {d e : α} {P : α → Prop}
    (hd : d ∈ l) (he : (base e).address = (base d).address) :
    (∀ x ∈ writeBack l e, P x) ↔ P e ∧ ∀ x ∈ removePointer l d, P x := by
  constructor
  · intro h
    refine ⟨h e (List.mem_map.mpr ⟨d, hd, if_pos he.symm⟩), fun x hx => ?_⟩
    obtain ⟨hx, haddress⟩ := List.mem_filter.mp hx
    have hne : (base x).address ≠ (base d).address := by simpa using haddress
    exact h x (List.mem_map.mpr ⟨x, hx, if_neg fun h => hne (h.trans he)⟩)
  · rintro ⟨hself, hothers⟩ y hy
    obtain ⟨x, hx, rfl⟩ := List.mem_map.mp hy
    by_cases haddress : (base x).address = (base e).address
    · rw [if_pos haddress]
      exact hself
    · rw [if_neg haddress]
      refine hothers x (List.mem_filter.mpr ⟨hx, ?_⟩)
      simpa using fun h : (base x).address = (base d).address => haddress (h.trans he.symm)

/-! ### The two handlers -/

/-- The handlers of streaming devices. -/
inductive StreamingKind where
  | mtp
  | ptp
  deriving DecidableEq, Repr

namespace StreamingKind

def kind : StreamingKind → HandlerKind
  | .mtp => .mtp
  | .ptp => .ptp

def other : StreamingKind → StreamingKind
  | .mtp => .ptp
  | .ptp => .mtp

end StreamingKind

/-- An input of a streaming handler. -/
inductive StreamingInput where
  | uevent (handler : StreamingKind) (devClass : DeviceClass)
  | command (handler : StreamingKind) (cmdtypes : CommandType)
  | pluginEvent (handler : StreamingKind) (eventType : PluginEvent)
  deriving DecidableEq, Repr

def StreamingInput.toInput : StreamingInput → Input
  | .uevent handler devClass => .uevent handler.kind devClass
  | .command handler cmdtypes => .command handler.kind cmdtypes
  | .pluginEvent handler eventType => .pluginEvent handler.kind eventType

namespace World

variable (cfg : Config) (env : Env) (w : World)

/-- One step of a streaming handler. -/
def streamingStep (w : World) (i : Env × StreamingInput) : World := w.step cfg (i.1, i.2.toInput)

/-- What all streaming devices say of themselves is true. -/
structure TellsTruth (w : World) : Prop where
  mtp : ∀ d ∈ w.mtp.mtpList, d.toStorage.StatusTrue w.sys.mounted
  ptp : ∀ d ∈ w.ptp.sList, d.toStorage.StatusTrue w.sys.mounted
  drives : ∀ d ∈ w.ptp.sList, d.driveStatus = .mountOk ↔ d.isMounted = true

/-- The devices of both handlers but for `d`, of the one given. -/
def companions (handler : StreamingKind) (d : Storage) : List Storage :=
  removePointer (w.streams handler.kind) d ++ w.streams handler.other.kind

/-- No other device with the mount point of `d` is flagged as mounted. -/
def Alone (handler : StreamingKind) (d : Storage) : Prop :=
  ∀ e ∈ w.companions handler d, e.mountName = d.mountName → e.isMounted = false

/-- An event mounts nothing at the mount point of a device that is not flagged, and a removal
unmounts nothing another device is flagged for. -/
def StreamEventFits (handler : StreamingKind) (devClass : DeviceClass) : Prop :=
  (∀ j ∈ w.joining cfg env devClass handler.kind, j.mounts = true →
      ∀ d ∈ w.streams handler.kind ++ w.streams handler.other.kind,
        d.mountName = j.device.mountName → d.isMounted = true) ∧
    ∀ d ∈ leaving (w.streams handler.kind) devClass,
      d.isMounted = true → env.detaches d.mountName = true → w.Alone handler d

/-- An eject unmounts nothing another device is flagged for, and that of a mounted camera
succeeds. -/
def EjectFits (handler : StreamingKind) (deviceNumber : Int) : Prop :=
  ∀ d ∈ getDeviceWithNum (w.streams handler.kind) deviceNumber, d.isMounted = true →
    (env.detaches d.mountName = true → w.Alone handler d) ∧
      (handler = .ptp → env.detaches d.mountName = true)

/-- Unmounting everything fits the players when no two devices share what it unmounts, and the
cameras when it unmounts nothing. -/
def UmountAllFits : StreamingKind → Prop
  | .mtp =>
    ∀ d ∈ w.streams .mtp, d.isMounted = true → env.detaches d.mountName = true → w.Alone .mtp d
  | .ptp => ∀ d ∈ w.streams .ptp, d.isMounted = true → env.detaches d.mountName = false

/-- The step keeps what the devices say of themselves true. -/
def StepFits (w : World) (i : Env × StreamingInput) : Prop :=
  match i.2 with
  | .uevent handler devClass => w.StreamEventFits cfg i.1 handler devClass
  | .command handler (.eject deviceNumber) => w.EjectFits i.1 handler deviceNumber
  | .pluginEvent handler .powerProcessRequestUmountAll => w.UmountAllFits i.1 handler
  | .pluginEvent handler .powerProcessPrepareSuspend => w.UmountAllFits i.1 handler
  | _ => True

end World

/-! ### Events -/

/-- A device is only listed when its helper has mounted it, and an event that mounts one
removes none. -/
theorem World.joining_facts {cfg : Config} {env : Env} {w : World} (handler : StreamingKind)
    {devClass : DeviceClass} {j : Joining}
    (hj : w.joining cfg env devClass handler.kind = some j) :
    (j.listed = true → j.mounts = true) ∧ leaving (w.streams handler.kind) devClass = none := by
  have hstays : devClass.action = "add" → leaving (w.streams handler.kind) devClass = none := by
    intro hadd
    unfold leaving
    rw [if_neg (by rw [hadd]; decide)]
  cases handler with
  | mtp =>
    change MTPDeviceHandler.joining cfg env devClass w.sys.next = some j at hj
    unfold MTPDeviceHandler.joining MTPDeviceHandler.adds at hj
    split at hj
    · rename_i hadds
      simp only [Bool.and_eq_true, decide_eq_true_eq] at hadds
      rw [← Option.some.inj hj]
      exact ⟨fun h => h, hstays hadds.1.2⟩
    · exact absurd hj (by simp)
  | ptp =>
    change PTPDeviceHandler.joining cfg env devClass w.sys.next = some j at hj
    unfold PTPDeviceHandler.joining PTPDeviceHandler.adds at hj
    split at hj
    · rename_i hadds
      simp only [Bool.and_eq_true, decide_eq_true_eq] at hadds
      refine ⟨?_, hstays hadds.2⟩
      dsimp only at hj
      split at hj
      · rw [← Option.some.inj hj]
        intro hlisted
        unfold PTPDevice.comesUp at hlisted
        rw [Bool.and_eq_true, Bool.and_eq_true] at hlisted
        exact hlisted.1.2
      · rw [← Option.some.inj hj]
        exact fun h => absurd h (by simp)
    · exact absurd hj (by simp)

/-- What an event leaves of a handler's own list `l` and of the other's, `r`. -/
theorem StreamOutcome.true_iff {env : Env} {s t : Sys} {l l' r : List Storage}
    {joining : Option Joining} {leave : Option Storage}
    (ho : StreamOutcome env s l joining leave t l')
    (hl : ∀ d ∈ l, d.StatusTrue s.mounted) (hr : ∀ d ∈ r, d.StatusTrue s.mounted)
    (hjoins : ∀ j, joining = some j → (j.listed = true → j.mounts = true) ∧ leave = none) :
    ((∀ d ∈ l', d.StatusTrue t.mounted) ∧ ∀ d ∈ r, d.StatusTrue t.mounted) ↔
      (∀ j ∈ joining, j.mounts = true →
          ∀ d ∈ l ++ r, d.mountName = j.device.mountName → d.isMounted = true) ∧
        ∀ d ∈ leave, d.isMounted = true → env.detaches d.mountName = true →
          ∀ e ∈ removePointer l d ++ r, e.mountName = d.mountName → e.isMounted = false := by
  have hall : ∀ d ∈ l ++ r, d.StatusTrue s.mounted := by
    intro d hd
    rcases List.mem_append.mp hd with hd | hd
    · exact hl d hd
    · exact hr d hd
  -- A mount at `m`, for a device that is then listed or is not.
  have hinsert : ∀ m : String,
      (∀ d ∈ l ++ r, d.StatusTrue (insert m s.mounted)) ↔
        ∀ d ∈ l ++ r, d.mountName = m → d.isMounted = true := fun m =>
    forall₂_congr fun d hd => (hall d hd).insert_iff
  have hjoined : ∀ {j : Joining}, joining = some j → ∀ {P : Joining → Prop},
      (((∀ j ∈ joining, P j) ∧ ∀ d ∈ leave, d.isMounted = true → env.detaches d.mountName = true →
          ∀ e ∈ removePointer l d ++ r, e.mountName = d.mountName → e.isMounted = false) ↔ P j) := by
    intro j hj P
    rw [hj, (hjoins j hj).2]
    refine ⟨fun h => h.1 j rfl, fun h => ⟨fun k hk => Option.some.inj hk ▸ h, fun d hd => ?_⟩⟩
    exact absurd hd (by simp)
  cases ho with
  | ignored hjoin hleave ht hl' =>
    rw [ht, hl', hjoin, hleave]
    exact iff_of_true ⟨hl, hr⟩ ⟨fun j hj => absurd hj (by simp), fun d hd => absurd hd (by simp)⟩
  | joined j e hjoin hup haddr hseat he hname hm hnot hnext hl' =>
    have hmount : e.mountName = j.device.mountName := (Storage.seat_eq_iff.mp hseat).2.2
    have hflag : e.isMounted = true ∧ e.errorReason ≠ .ejected := by
      unfold Storage.holds at he
      simpa using he
    have hself : e.StatusTrue (insert e.mountName s.mounted) :=
      ⟨iff_of_true hflag.1 (Finset.mem_insert_self _ _), fun heject => absurd heject hflag.2⟩
    rw [hjoined hjoin, hm, hl']
    refine Iff.trans ?_ ((hinsert e.mountName).trans ?_)
    · simp only [List.forall_mem_append, List.forall_mem_singleton]
      exact ⟨fun h => ⟨h.1.1, h.2⟩, fun h => ⟨⟨h.1, hself⟩, h.2⟩⟩
    · rw [hmount]
      exact ⟨fun h _ => h, fun h => h ((hjoins j hjoin).1 hup)⟩
  | failed j hjoin hdown haddr hm hdel hnext hl' =>
    rw [hjoined hjoin, hm, hl', ← List.forall_mem_append]
    by_cases hmounts : j.mounts = true
    · rw [if_pos hmounts]
      exact (hinsert j.device.mountName).trans ⟨fun h _ => h, fun h => h hmounts⟩
    · rw [if_neg hmounts]
      exact iff_of_true hall fun h => absurd h hmounts
  | left d hjoin hleave hd hm hdel hnext hl' =>
    have hstay : ∀ e ∈ removePointer l d ++ r, e.StatusTrue s.mounted := by
      intro e he
      refine hall e ?_
      rcases List.mem_append.mp he with he | he
      · exact List.mem_append_left _ (List.mem_filter.mp he).1
      · exact List.mem_append_right _ he
    rw [hjoin, hleave, hm, hl', (hl d hd).holds_eq, ← List.forall_mem_append]
    have hone : ∀ P : Storage → Prop, (∀ e ∈ some d, P e) ↔ P d := fun P =>
      ⟨fun h => h d rfl, fun h e he => Option.some.inj he ▸ h⟩
    rw [and_iff_right fun j hj => absurd hj (by simp), hone]
    by_cases hfrees : (d.isMounted && env.detaches d.mountName) = true
    · rw [if_pos hfrees]
      rw [Bool.and_eq_true] at hfrees
      refine (forall₂_congr fun e he => (hstay e he).erase_iff).trans ?_
      exact ⟨fun h _ _ => h, fun h => h hfrees.1 hfrees.2⟩
    · rw [if_neg hfrees]
      refine iff_of_true hstay fun hmounted hdetaches => absurd ?_ hfrees
      rw [hmounted, hdetaches]
      rfl

/-! ### Ejects -/

/-- What is mounted is let go exactly when `fusermount` will exit with 0. -/
theorem fusermount_ret_iff (env : Env) {s : Sys} {target : String} (hin : target ∈ s.mounted) :
    (s.fusermount env target).1 = 0 ↔ env.detaches target = true := by
  rw [(Sys.fusermount_eq env s target).1, and_iff_right hin]
  exact decide_eq_true_iff.symm

/-- What an eject makes of a device: it is unmounted if it was mounted and will detach. -/
structure Ejects (env : Env) (s : Sys) (d : Storage) (t : Sys) (e : Storage) : Prop where
  seat : e.seat = d.seat
  flag : e.isMounted = (d.isMounted && !env.detaches d.mountName)
  reason : e.errorReason =
    if d.isMounted && env.detaches d.mountName then .ejected else d.errorReason
  mounted : t.mounted =
    if d.isMounted && env.detaches d.mountName then s.mounted.erase d.mountName else s.mounted

/-- An eject is an unmount that gives the reason when it succeeds. -/
theorem Ejects.of_umount {env : Env} {s t : Sys} {d u e : Storage} {success : Prop}
    [Decidable success]
    (hu : u = { d with isMounted := d.isMounted && !env.detaches d.mountName })
    (hsuccess : success ↔ (d.isMounted && env.detaches d.mountName) = true)
    (hm : t.mounted =
      if d.isMounted && env.detaches d.mountName then s.mounted.erase d.mountName else s.mounted)
    (he : e = if success then { u with errorReason := .ejected } else u) : Ejects env s d t e := by
  by_cases hok : success
  · rw [if_pos hok, hu] at he
    rw [he]
    exact ⟨rfl, rfl, (if_pos (hsuccess.mp hok)).symm, hm⟩
  · rw [if_neg hok, hu] at he
    rw [he]
    exact ⟨rfl, rfl, (if_neg (mt hsuccess.mpr hok)).symm, hm⟩

theorem Ejects.true_iff {env : Env} {s t : Sys} {l r : List Storage} {d e : Storage} (hd : d ∈ l)
    (hl : ∀ x ∈ l, x.StatusTrue s.mounted) (hr : ∀ x ∈ r, x.StatusTrue s.mounted)
    (he : Ejects env s d t e) :
    ((∀ x ∈ writeBack l e, x.StatusTrue t.mounted) ∧ ∀ x ∈ r, x.StatusTrue t.mounted) ↔
      (d.isMounted = true → env.detaches d.mountName = true →
        ∀ x ∈ removePointer l d ++ r, x.mountName = d.mountName → x.isMounted = false) := by
  obtain ⟨haddress, -, hmount⟩ := Storage.seat_eq_iff.mp he.seat
  have hstay : ∀ x ∈ removePointer l d ++ r, x.StatusTrue s.mounted := by
    intro x hx
    rcases List.mem_append.mp hx with hx | hx
    · exact hl x (List.mem_filter.mp hx).1
    · exact hr x hx
  rw [forall_writeBack_iff (α := Storage) hd haddress, and_assoc, ← List.forall_mem_append]
  have hflag := he.flag
  have hreason := he.reason
  rw [he.mounted]
  by_cases hfrees : (d.isMounted && env.detaches d.mountName) = true
  · rw [if_pos hfrees] at hreason ⊢
    rw [Bool.and_eq_true] at hfrees
    rw [hfrees.1, hfrees.2] at hflag
    have hself : e.StatusTrue (s.mounted.erase d.mountName) := by
      refine ⟨iff_of_false (by simp [hflag]) ?_, fun _ => ?_⟩ <;>
      · rw [hmount]
        exact fun h => (Finset.mem_erase.mp h).1 rfl
    rw [and_iff_right hself]
    refine (forall₂_congr fun x hx => (hstay x hx).erase_iff).trans ?_
    exact ⟨fun h _ _ => h, fun h => h hfrees.1 hfrees.2⟩
  · rw [if_neg hfrees] at hreason ⊢
    have hsame : e.isMounted = d.isMounted := by
      rw [hflag]
      cases hmounted : d.isMounted with
      | false => rfl
      | true =>
        rw [hmounted, Bool.true_and, Bool.not_eq_true] at hfrees
        rw [hfrees]
        rfl
    have hself : e.StatusTrue s.mounted := (hl d hd).congr hsame hmount hreason
    refine iff_of_true ⟨hself, hstay⟩ fun hmounted hdetaches => absurd ?_ hfrees
    rw [hmounted, hdetaches]
    rfl

namespace MTPDevice

variable (env : Env) (s : Sys) {d : MTPDevice}

theorem mtpUmount_outcome (hin : d.isMounted = true → d.mountName ∈ s.mounted) :
    (mtpUmount env s d).obj = { d with isMounted := d.isMounted && !env.detaches d.mountName } ∧
      ((mtpUmount env s d).ret = .success ↔
        (d.isMounted && env.detaches d.mountName) = true) := by
  unfold mtpUmount unmountDevice
  cases hflag : d.isMounted with
  | false =>
    refine ⟨?_, by simp⟩
    show d = { d with isMounted := false }
    rw [← hflag]
  | true =>
    have hret := fusermount_ret_iff env (hin hflag)
    simp only [Bool.true_eq_false, if_false, Bool.true_and]
    by_cases hexit : (s.fusermount env d.mountName).1 = 0
    · have hdetaches := hret.mp hexit
      rw [if_pos (decide_eq_true hexit), hdetaches]
      exact ⟨rfl, by simp⟩
    · have hdetaches : env.detaches d.mountName = false := by simpa using mt hret.mpr hexit
      rw [if_neg (by simpa using hexit), hdetaches]
      refine ⟨?_, by simp⟩
      show d = { d with isMounted := true }
      rw [← hflag]

theorem eject_ejects (hd : d.toStorage.StatusTrue s.mounted) :
    Ejects env s d.toStorage (eject env s d).state (eject env s d).obj.toStorage := by
  obtain ⟨hobj, hret⟩ := mtpUmount_outcome env s fun h => hd.flag.mp h
  have hstate : (eject env s d).state = (mtpUmount env s d).state := by
    unfold eject
    dsimp only
    split
    · rfl
    · rfl
  have hm := mtpUmount_mounted env s d
  rw [← hstate] at hm
  refine Ejects.of_umount (congrArg (·.toStorage) hobj) hret hm ?_
  unfold eject
  dsimp only
  split
  · rfl
  · rfl

end MTPDevice

namespace PTPDevice

variable (env : Env) (s : Sys) {d : PTPDevice}

theorem ptpUmount_outcome (hin : d.isMounted = true → d.mountName ∈ s.mounted) :
    (ptpUmount env s d).obj = { d with
        isMounted := d.isMounted && !env.detaches d.mountName
        driveStatus := if d.isMounted && env.detaches d.mountName then .umountOk
          else .umountNotOk } ∧
      ((ptpUmount env s d).ret = .success ↔
        (d.isMounted && env.detaches d.mountName) = true) := by
  unfold ptpUmount unmountDevice
  cases hflag : d.isMounted with
  | false =>
    simp only [hflag, if_true, Bool.false_and, Bool.false_eq_true, if_false]
    refine ⟨?_, by simp⟩
    rw [← hflag]
  | true =>
    have hret := fusermount_ret_iff env (hin hflag)
    simp only [hflag, Bool.true_eq_false, if_false, Bool.true_and]
    by_cases hexit : (s.fusermount env d.mountName).1 = 0
    · have hdetaches := hret.mp hexit
      rw [if_pos (decide_eq_true hexit), hdetaches]
      exact ⟨rfl, by simp⟩
    · have hdetaches : env.detaches d.mountName = false := by simpa using mt hret.mpr hexit
      rw [if_neg (by simpa using hexit), hdetaches]
      refine ⟨?_, by simp⟩
      simp only [Bool.false_eq_true, if_false, Bool.not_false]
      rw [← hflag]

theorem eject_ejects (hd : d.toStorage.StatusTrue s.mounted) :
    Ejects env s d.toStorage (eject env s d).state (eject env s d).obj.toStorage := by
  obtain ⟨hobj, hret⟩ := ptpUmount_outcome env s fun h => hd.flag.mp h
  have hstate : (eject env s d).state = (ptpUmount env s d).state := by
    unfold eject
    dsimp only
    split
    · rfl
    · rfl
  have hm := ptpUmount_mounted env s d
  rw [← hstate] at hm
  refine Ejects.of_umount (congrArg (·.toStorage) hobj) hret hm ?_
  unfold eject
  dsimp only
  split
  · rfl
  · rfl

/-- The drive status that an eject leaves is true unless the camera stays mounted. -/
theorem eject_drive_iff (hd : d.toStorage.StatusTrue s.mounted) :
    ((eject env s d).obj.driveStatus = .mountOk ↔ (eject env s d).obj.isMounted = true) ↔
      (d.isMounted = true → env.detaches d.mountName = true) := by
  obtain ⟨hobj, hret⟩ := ptpUmount_outcome env s fun h => hd.flag.mp h
  have hleft : (eject env s d).obj.driveStatus = (ptpUmount env s d).obj.driveStatus ∧
      (eject env s d).obj.isMounted = (ptpUmount env s d).obj.isMounted := by
    unfold eject
    dsimp only
    split <;> exact ⟨rfl, rfl⟩
  rw [hleft.1, hleft.2, hobj]
  cases d.isMounted <;> cases env.detaches d.mountName <;> simp

end PTPDevice

/-- The reply to an eject. -/
theorem streamingReply_true_iff {α : Type} [IDevice α] {f : α → Storage}
    (hf : ∀ d, base (f d) = base d) {env : Env} {s : Sys} {sList : List α} {r : List Storage}
    {eject : Sys → α → Out α PdmDevStatus}
    (heject : ∀ d, (f d).StatusTrue s.mounted →
      Ejects env s (f d) (eject s d).state (f (eject s d).obj))
    (hl : ∀ d ∈ sList.map f, d.StatusTrue s.mounted) (hr : ∀ d ∈ r, d.StatusTrue s.mounted)
    (deviceNumber : Int) (deviceType : DeviceEventType) :
    ((∀ x ∈ (streamingReply s sList deviceNumber deviceType eject).obj.map f,
        x.StatusTrue (streamingReply s sList deviceNumber deviceType eject).state.mounted) ∧
      ∀ x ∈ r, x.StatusTrue
        (streamingReply s sList deviceNumber deviceType eject).state.mounted) ↔
      ∀ d ∈ getDeviceWithNum (sList.map f) deviceNumber, d.isMounted = true →
        env.detaches d.mountName = true →
          ∀ x ∈ removePointer (sList.map f) d ++ r, x.mountName = d.mountName →
            x.isMounted = false := by
  rw [getDeviceWithNum_map hf]
  unfold streamingReply
  cases hfind : getDeviceWithNum sList deviceNumber with
  | none => exact iff_of_true ⟨hl, hr⟩ fun d hd => absurd hd (by simp)
  | some d =>
    have hd : f d ∈ sList.map f := List.mem_map_of_mem (List.mem_of_find?_eq_some hfind)
    dsimp only
    rw [writeBack_map hf, Sys.notify_mounted]
    refine ((heject d (hl _ hd)).true_iff hd hl hr).trans ?_
    exact ⟨fun h e he => Option.some.inj he ▸ h, fun h => h (f d) rfl⟩

/-! ### Unmounting everything -/

namespace MTPDeviceHandler

variable (env : Env)

/-- One turn of the loop unmounts the player if it can be unmounted. -/
def freed (env : Env) (l : List MTPDevice) (m : String) : Prop :=
  ∃ d ∈ l, d.isMounted = true ∧ env.detaches d.mountName = true ∧ d.mountName = m

theorem umountLoop_mounted (l : List MTPDevice) (s : Sys) (m : String) :
    m ∈ (visit (fun s d => MTPDevice.mtpUmount env s d) s l).state.mounted ↔
      m ∈ s.mounted ∧ ¬ freed env l m :=
  (Release.Step.visit (f := fun s d => MTPDevice.mtpUmount env s d) (K := Sys.mounted)
    (· ≠ PdmDevStatus.umountFail) (mtpUmount_step env) l s).left m

/-- A player whose file system is gone keeps its flag. -/
theorem umountLoop_gone {d : MTPDevice} (hmounted : d.isMounted = true) :
    ∀ (l : List MTPDevice) (s : Sys), d.mountName ∉ s.mounted → d ∈ l →
      d ∈ (visit (fun s d => MTPDevice.mtpUmount env s d) s l).obj := by
  intro l
  induction l with
  | nil => intro s _ hd; exact absurd hd (by simp)
  | cons e rest ih =>
    intro s hgone hd
    rw [Visit.visit_cons]
    rcases List.mem_cons.mp hd with rfl | hd
    · have hkeep : (MTPDevice.mtpUmount env s d).obj = d := by
        have hret : (s.fusermount env d.mountName).1 ≠ 0 := fun hret =>
          hgone ((Sys.fusermount_eq env s d.mountName).1.mp hret).1
        unfold MTPDevice.mtpUmount MTPDevice.unmountDevice
        simp [hmounted, hret]
      exact List.mem_cons.mpr (Or.inl hkeep.symm)
    · refine List.mem_cons_of_mem _ (ih _ (fun hmem => hgone ?_) hd)
      rw [MTPDevice.mtpUmount_mounted] at hmem
      split at hmem
      · exact (Finset.mem_erase.mp hmem).2
      · exact hmem

/-- Two players are not unmounted from one place. -/
def Apart (env : Env) (d e : MTPDevice) : Prop :=
  d.isMounted = true → env.detaches d.mountName = true → e.mountName = d.mountName →
    e.isMounted = false

/-- Every player that the loop leaves flagged is mounted exactly when no two of them share a
mount point. -/
theorem umountLoop_flags_iff (l : List MTPDevice) :
    ∀ s : Sys, (∀ d ∈ l, d.isMounted = true → d.mountName ∈ s.mounted) →
      ((∀ e ∈ (visit (fun s d => MTPDevice.mtpUmount env s d) s l).obj, e.isMounted = true →
          e.mountName ∈ (visit (fun s d => MTPDevice.mtpUmount env s d) s l).state.mounted) ↔
        l.Pairwise (Apart env)) := by
  induction l with
  | nil => intro s _; exact iff_of_true (fun e he => absurd he (by simp)) List.Pairwise.nil
  | cons d rest ih =>
    intro s hin
    have hself := hin d List.mem_cons_self
    have hobj := (MTPDevice.mtpUmount_outcome env s hself).1
    have hm := MTPDevice.mtpUmount_mounted env s d
    rw [Visit.visit_cons, List.pairwise_cons]
    dsimp only
    rw [List.forall_mem_cons, hobj]
    by_cases hfrees : (d.isMounted && env.detaches d.mountName) = true
    · rw [if_pos hfrees] at hm
      rw [Bool.and_eq_true] at hfrees
      rw [and_iff_right fun h : (d.isMounted && !env.detaches d.mountName) = true => by
        simp [hfrees.2] at h]
      by_cases hshared : ∃ e ∈ rest, e.isMounted = true ∧ e.mountName = d.mountName
      · obtain ⟨e, he, hflag, hname⟩ := hshared
        have hgone : e.mountName ∉ (MTPDevice.mtpUmount env s d).state.mounted := by
          rw [hm, hname]
          exact fun h => (Finset.mem_erase.mp h).1 rfl
        refine iff_of_false (fun h => ?_) fun h => ?_
        · have hmem := h e (umountLoop_gone env hflag rest _ hgone he) hflag
          exact hgone ((umountLoop_mounted env rest _ _).mp hmem).1
        · rw [h.1 e he hfrees.1 hfrees.2 hname] at hflag
          exact absurd hflag (by simp)
      · have hapart : ∀ e ∈ rest, Apart env d e := by
          intro e he _ _ hname
          rw [Bool.eq_false_iff]
          exact fun hflag => hshared ⟨e, he, hflag, hname⟩
        rw [and_iff_right hapart]
        refine ih _ fun e he hflag => ?_
        rw [hm]
        exact Finset.mem_erase.mpr ⟨fun hname => hshared ⟨e, he, hflag, hname⟩,
          hin e (List.mem_cons_of_mem d he) hflag⟩
    · rw [if_neg hfrees] at hm
      have hapart : ∀ e ∈ rest, Apart env d e := fun e _ hflag hdetaches => by
        refine absurd ?_ hfrees
        rw [hflag, hdetaches]
        rfl
      rw [and_iff_right hapart, and_iff_right]
      · refine ih _ fun e he hflag => ?_
        rw [hm]
        exact hin e (List.mem_cons_of_mem d he) hflag
      · intro hflag
        rw [Bool.and_eq_true, Bool.not_eq_true'] at hflag
        refine (umountLoop_mounted env rest _ _).mpr ⟨?_, ?_⟩
        · rw [hm]
          exact hself hflag.1
        · rintro ⟨e, -, -, hdetaches, hname⟩
          rw [hname, hflag.2] at hdetaches
          exact absurd hdetaches (by simp)

/-- Addresses tell the players apart. -/
theorem pairwise_apart_iff {l : List MTPDevice} (hnodup : (l.map (·.address)).Nodup) :
    l.Pairwise (Apart env) ↔ ∀ d ∈ l, ∀ e ∈ l, e.address ≠ d.address → Apart env d e := by
  have hsymm : Std.Symm (Apart env) := by
    refine ⟨fun d e h hflag hdetaches hname => ?_⟩
    rw [Bool.eq_false_iff]
    intro hmounted
    rw [h hmounted (hname ▸ hdetaches) hname.symm] at hflag
    exact absurd hflag (by simp)
  constructor
  · intro hpair d hd e he hne
    exact hpair.forall hd he fun h => hne (by rw [h])
  · intro hall
    refine (List.Nodup.of_map _ hnodup).pairwise_of_forall_ne fun d hd e he hne => ?_
    exact hall d hd e he fun h => hne (List.inj_on_of_nodup_map hnodup hd he h.symm)

/-- What `umountAllDrive` leaves of the players and of the cameras `r`. -/
theorem umountAllDrive_true_iff (s : Sys) (h : MTPDeviceHandler) {r : List Storage}
    (hnodup : (h.mtpList.map (·.address)).Nodup)
    (hl : ∀ d ∈ h.mtpList, d.toStorage.StatusTrue s.mounted)
    (hr : ∀ d ∈ r, d.StatusTrue s.mounted) :
    ((∀ d ∈ (h.umountAllDrive env s).obj.mtpList,
        d.toStorage.StatusTrue (h.umountAllDrive env s).state.mounted) ∧
      ∀ d ∈ r, d.StatusTrue (h.umountAllDrive env s).state.mounted) ↔
      ∀ d ∈ h.mtpList.map (·.toStorage), d.isMounted = true → env.detaches d.mountName = true →
        ∀ e ∈ removePointer (h.mtpList.map (·.toStorage)) d ++ r, e.mountName = d.mountName →
          e.isMounted = false := by
  have hin : ∀ d ∈ h.mtpList, d.isMounted = true → d.mountName ∈ s.mounted := fun d hd =>
    (hl d hd).flag.mp
  have hK := umountLoop_mounted env h.mtpList s
  have hflags := umountLoop_flags_iff env h.mtpList s hin
  -- Beyond the flags that stay, nothing can go wrong.
  have hown : (∀ d ∈ (h.umountAllDrive env s).obj.mtpList,
      d.toStorage.StatusTrue (h.umountAllDrive env s).state.mounted) ↔
        h.mtpList.Pairwise (Apart env) := by
    refine Iff.trans ?_ hflags
    constructor
    · intro hall e he
      exact (hall e he).flag.mp
    · intro hall e he
      obtain ⟨d, hd, hkeep⟩ := Visit.visit_mem (R := fun d e : MTPDevice =>
          e.mountName = d.mountName ∧ e.errorReason = d.errorReason ∧
            (d.isMounted = true → env.detaches d.mountName = false → e.isMounted = true))
        (fun t d => by
          have hobj := (MTPDevice.mtpUmount_keeps env t d).1
          refine ⟨?_, ?_, fun hflag hdetaches => ?_⟩
          · rw [hobj]
          · rw [hobj]
          · unfold MTPDevice.mtpUmount MTPDevice.unmountDevice
            have hret : (t.fusermount env d.mountName).1 ≠ 0 := by
              intro hret
              have hexit := ((Sys.fusermount_eq env t d.mountName).1.mp hret).2
              exact absurd (decide_eq_true hexit)
                (by rw [show decide _ = env.detaches d.mountName from rfl, hdetaches]; simp)
            simp [hflag, hret]) h.mtpList s e he
      have hold := hl d hd
      refine ⟨⟨hall e he, fun hmem => ?_⟩, fun heject hmem => ?_⟩
      · have hsplit := (hK e.mountName).mp hmem
        have hflag : d.isMounted = true := hold.flag.mpr (hkeep.1 ▸ hsplit.1)
        refine hkeep.2.2 hflag ?_
        rw [Bool.eq_false_iff]
        exact fun hdetaches => hsplit.2 ⟨d, hd, hflag, hdetaches, hkeep.1.symm⟩
      · refine hold.ejected (hkeep.2.1 ▸ heject) ?_
        rw [show d.toStorage.mountName = e.mountName from hkeep.1.symm]
        exact ((hK e.mountName).mp hmem).1
  have hother : (∀ d ∈ r, d.StatusTrue (h.umountAllDrive env s).state.mounted) ↔
      ∀ e ∈ r, freed env h.mtpList e.mountName → e.isMounted = false :=
    forall₂_congr fun e he => (hr e he).shrink_iff hK
  rw [hown, hother, pairwise_apart_iff env hnodup]
  constructor
  · rintro ⟨hpair, hcameras⟩ d hd hflag hdetaches e he hname
    obtain ⟨x, hx, rfl⟩ := List.mem_map.mp hd
    rcases List.mem_append.mp he with he | he
    · obtain ⟨he, haddress⟩ := List.mem_filter.mp he
      obtain ⟨y, hy, rfl⟩ := List.mem_map.mp he
      have hne : (base y.toStorage).address ≠ (base x.toStorage).address := by simpa using haddress
      exact hpair x hx y hy hne hflag hdetaches hname
    · exact hcameras e he ⟨x, hx, hflag, hdetaches, hname.symm⟩
  · intro hall
    refine ⟨fun d hd e he hne hflag hdetaches hname => ?_, ?_⟩
    · refine hall d.toStorage (List.mem_map_of_mem hd) hflag hdetaches e.toStorage ?_ hname
      refine List.mem_append_left _ (List.mem_filter.mpr ⟨List.mem_map_of_mem he, ?_⟩)
      simpa using show (base e.toStorage).address ≠ (base d.toStorage).address from hne
    · rintro e he ⟨d, hd, hflag, hdetaches, hname⟩
      exact hall d.toStorage (List.mem_map_of_mem hd) hflag hdetaches e (List.mem_append_right _ he)
        hname.symm

end MTPDeviceHandler

namespace PTPDeviceHandler

variable (env : Env)

/-- The loop over the cameras writes nothing to them. -/
theorem umountLoop_same (l : List PTPDevice) :
    ∀ s : Sys, (visit (umountDrive env) s l).obj = l := by
  induction l with
  | nil => intro s; rfl
  | cons d rest ih =>
    intro s
    rw [Visit.visit_cons]
    exact congrArg (d :: ·) (ih _)

/-- What `umountAllDrive` leaves of the cameras and of the players `r`: a camera that it unmounts
is still flagged. -/
theorem umountAllDrive_true_iff (s : Sys) (h : PTPDeviceHandler) {r : List Storage}
    (hl : ∀ d ∈ h.sList, d.toStorage.StatusTrue s.mounted)
    (hr : ∀ d ∈ r, d.StatusTrue s.mounted) :
    ((∀ d ∈ (h.umountAllDrive env s).obj.sList,
        d.toStorage.StatusTrue (h.umountAllDrive env s).state.mounted) ∧
      ∀ d ∈ r, d.StatusTrue (h.umountAllDrive env s).state.mounted) ↔
      ∀ d ∈ h.sList.map (·.toStorage), d.isMounted = true → env.detaches d.mountName = false := by
  have hsame : (h.umountAllDrive env s).obj.sList = h.sList := umountLoop_same env h.sList s
  have hK : ∀ m, m ∈ (h.umountAllDrive env s).state.mounted ↔ m ∈ s.mounted ∧
      ¬ ∃ d ∈ h.sList, d.isMounted = true ∧ env.detaches d.mountName = true ∧ d.mountName = m :=
    (Release.Step.visit (f := umountDrive env) (K := Sys.mounted) (· = true)
      (umountDrive_step env) h.sList s).left
  rw [hsame]
  constructor
  · rintro ⟨hown, -⟩ d hd hflag
    obtain ⟨x, hx, rfl⟩ := List.mem_map.mp hd
    rw [Bool.eq_false_iff]
    intro hdetaches
    exact ((hK x.mountName).mp ((hown x hx).flag.mp hflag)).2 ⟨x, hx, hflag, hdetaches, rfl⟩
  · intro hall
    have hsteady : ∀ d : Storage, d.StatusTrue s.mounted →
        d.StatusTrue (h.umountAllDrive env s).state.mounted := by
      intro d hd
      refine (hd.shrink_iff hK).mpr ?_
      rintro ⟨x, hx, hflag, hdetaches, -⟩
      rw [hall x.toStorage (List.mem_map_of_mem hx) hflag] at hdetaches
      exact absurd hdetaches (by simp)
    exact ⟨fun d hd => hsteady d.toStorage (hl d hd), fun d hd => hsteady d (hr d hd)⟩

/-- The drive statuses of the cameras are true. -/
def DrivesTrue (h : PTPDeviceHandler) : Prop :=
  ∀ d ∈ h.sList, d.driveStatus = .mountOk ↔ d.isMounted = true

/-- A camera is listed only when it is mounted, and says so. -/
theorem HandlerEvent_drives (cfg : Config) (s : Sys) {h : PTPDeviceHandler} (hdrives : h.DrivesTrue)
    (devClass : DeviceClass) : (h.HandlerEvent cfg env s devClass).obj.DrivesTrue := by
  have hadd : (h.addPTPDevice cfg env s devClass).obj.DrivesTrue := by
    have hnew := (described_new cfg env devClass s.next).2
    unfold addPTPDevice
    dsimp only
    rw [PTPDevice.setDeviceInfo_eq, show (PTPDevice.new s.next devClass.devPath cfg.rootPath).described
      env devClass = described cfg env devClass s.next from rfl]
    generalize described cfg env devClass s.next = d at *
    by_cases hnum : d.isNumbered
    · have hobj := (PTPDevice.ptpMount_eq env s.alloc d hnum.2).1
      rw [if_pos hnum]
      dsimp only
      generalize PTPDevice.ptpMount env s.alloc d = m at *
      by_cases hlisted : m.obj.isMounted = true
      · rw [if_pos hlisted]
        intro x hx
        rcases List.mem_append.mp hx with hx | hx
        · exact hdrives x hx
        · rw [List.mem_singleton.mp hx]
          rw [hobj] at hlisted ⊢
          split at hlisted
          · rename_i hup
            rw [if_pos hup]
            exact iff_of_true rfl rfl
          · exact absurd (hnew.symm.trans hlisted) (by simp)
      · rw [if_neg hlisted]
        exact hdrives
    · rw [if_neg hnum]
      dsimp only
      rw [if_neg (by simp [hnew])]
      exact hdrives
  have hprocess : (h.ProcessPTPDevice cfg env s devClass).obj.DrivesTrue := by
    unfold ProcessPTPDevice
    split
    · exact hadd
    · split
      · exact hdrives
      · exact fun x hx => hdrives x (List.mem_filter.mp hx).1
    · exact hdrives
  unfold HandlerEvent
  split
  · exact hprocess
  · split
    · exact hdrives
    · split
      · exact hprocess
      · split
        · exact hprocess
        · exact hdrives

theorem eject_drives_iff (s : Sys) {h : PTPDeviceHandler} (hdrives : h.DrivesTrue)
    (hl : ∀ d ∈ h.sList, d.toStorage.StatusTrue s.mounted) (deviceNumber : Int) :
    (h.HandlerCommand env s (.eject deviceNumber)).obj.DrivesTrue ↔
      ∀ d ∈ getDeviceWithNum (h.sList.map (·.toStorage)) deviceNumber, d.isMounted = true →
        env.detaches d.mountName = true := by
  rw [getDeviceWithNum_map (f := PTPDevice.toStorage) fun _ => rfl]
  unfold DrivesTrue
  show (∀ d ∈ (streamingReply s h.sList deviceNumber .ptpDevice fun s d => d.eject env s).obj, _) ↔ _
  unfold streamingReply
  cases hfind : getDeviceWithNum h.sList deviceNumber with
  | none => exact iff_of_true hdrives fun d hd => absurd hd (by simp)
  | some d =>
    have hd := List.mem_of_find?_eq_some hfind
    have haddress : (d.eject env s).obj.address = d.address :=
      (Storage.seat_eq_iff.mp (d.eject_op env s).seat).1
    dsimp only
    rw [forall_writeBack_iff (α := PTPDevice) hd haddress]
    refine (and_iff_left fun x hx => hdrives x (List.mem_filter.mp hx).1).trans ?_
    refine (PTPDevice.eject_drive_iff env s (hl d hd)).trans ?_
    exact ⟨fun h e he => Option.some.inj he ▸ h, fun h => h d.toStorage rfl⟩

end PTPDeviceHandler

/-! ### Steps and runs -/

namespace World

variable {cfg : Config} {env : Env} {w : World}

theorem tellsTruth_iff (handler : StreamingKind) :
    w.TellsTruth ↔
      ((∀ d ∈ w.streams handler.kind, d.StatusTrue w.sys.mounted) ∧
        ∀ d ∈ w.streams handler.other.kind, d.StatusTrue w.sys.mounted) ∧ w.ptp.DrivesTrue := by
  have hmtp : (∀ d ∈ w.streams .mtp, d.StatusTrue w.sys.mounted) ↔
      ∀ d ∈ w.mtp.mtpList, d.toStorage.StatusTrue w.sys.mounted := List.forall_mem_map
  have hptp : (∀ d ∈ w.streams .ptp, d.StatusTrue w.sys.mounted) ↔
      ∀ d ∈ w.ptp.sList, d.toStorage.StatusTrue w.sys.mounted := List.forall_mem_map
  cases handler with
  | mtp =>
    exact ⟨fun h => ⟨⟨hmtp.mpr h.mtp, hptp.mpr h.ptp⟩, h.drives⟩,
      fun h => ⟨hmtp.mp h.1.1, hptp.mp h.1.2, h.2⟩⟩
  | ptp =>
    exact ⟨fun h => ⟨⟨hptp.mpr h.ptp, hmtp.mpr h.mtp⟩, h.drives⟩,
      fun h => ⟨hmtp.mp h.1.2, hptp.mp h.1.1, h.2⟩⟩

theorem event_true_iff (htrue : w.TellsTruth) (handler : StreamingKind) (devClass : DeviceClass) :
    (w.HandlerEvent cfg env handler.kind devClass).1.TellsTruth ↔
      w.StreamEventFits cfg env handler devClass := by
  obtain ⟨⟨hl, hr⟩, hdrives⟩ := (tellsTruth_iff handler).mp htrue
  rw [tellsTruth_iff handler]
  cases handler with
  | mtp =>
    have ho := w.mtp.HandlerEvent_outcome cfg env w.sys devClass
    refine (and_iff_left (show w.ptp.DrivesTrue from hdrives)).trans ?_
    exact ho.true_iff hl hr fun j hj => joining_facts .mtp hj
  | ptp =>
    have ho := w.ptp.HandlerEvent_outcome cfg env w.sys devClass
    refine (and_iff_left
      (PTPDeviceHandler.HandlerEvent_drives env cfg w.sys hdrives devClass)).trans ?_
    exact ho.true_iff hl hr fun j hj => joining_facts .ptp hj

theorem eject_true_iff (htrue : w.TellsTruth) (handler : StreamingKind) (deviceNumber : Int) :
    (w.HandlerCommand env handler.kind (.eject deviceNumber)).1.TellsTruth ↔
      w.EjectFits env handler deviceNumber := by
  obtain ⟨⟨hl, hr⟩, hdrives⟩ := (tellsTruth_iff handler).mp htrue
  rw [tellsTruth_iff handler]
  cases handler with
  | mtp =>
    refine (and_iff_left (show w.ptp.DrivesTrue from hdrives)).trans ?_
    refine (streamingReply_true_iff (f := MTPDevice.toStorage) (fun _ => rfl)
      (fun d hd => d.eject_ejects env w.sys hd) hl hr deviceNumber .mtpDevice).trans ?_
    exact forall₂_congr fun d _ => forall_congr' fun _ => (and_iff_left (by simp)).symm
  | ptp =>
    have hreply := streamingReply_true_iff (f := PTPDevice.toStorage) (fun _ => rfl)
      (fun d hd => d.eject_ejects env w.sys hd) hl hr deviceNumber .ptpDevice
    have hdrive := PTPDeviceHandler.eject_drives_iff env w.sys hdrives htrue.ptp deviceNumber
    refine (and_congr hreply hdrive).trans ?_
    constructor
    · rintro ⟨hothers, hdetaches⟩ d hd hflag
      exact ⟨hothers d hd hflag, fun _ => hdetaches d hd hflag⟩
    · intro h
      exact ⟨fun d hd hflag => (h d hd hflag).1, fun d hd hflag => (h d hd hflag).2 rfl⟩

theorem umountAll_true_iff (hw : w.Addressed) (htrue : w.TellsTruth) (handler : StreamingKind)
    {eventType : PluginEvent} (hevent : eventType = .powerProcessRequestUmountAll ∨
      eventType = .powerProcessPrepareSuspend) :
    (w.handlerPluginEvent env handler.kind eventType).1.TellsTruth ↔
      w.UmountAllFits env handler := by
  obtain ⟨⟨hl, hr⟩, hdrives⟩ := (tellsTruth_iff handler).mp htrue
  rw [tellsTruth_iff handler]
  cases handler with
  | mtp =>
    have hall := MTPDeviceHandler.umountAllDrive_true_iff env w.sys w.mtp hw.mtp_nodup htrue.mtp hr
    have hstep : (w.handlerPluginEvent env .mtp eventType).1 =
        { w with
          sys := (w.mtp.umountAllDrive env w.sys).state
          mtp := (w.mtp.umountAllDrive env w.sys).obj } := by
      rcases hevent with rfl | rfl <;> rfl
    rw [show StreamingKind.mtp.kind = .mtp from rfl, hstep]
    refine (and_iff_left (show w.ptp.DrivesTrue from hdrives)).trans ?_
    refine Iff.trans (and_congr_left fun _ => ?_) hall
    exact List.forall_mem_map
  | ptp =>
    have hall := PTPDeviceHandler.umountAllDrive_true_iff env w.sys w.ptp htrue.ptp hr
    have hsame : (w.ptp.umountAllDrive env w.sys).obj.sList = w.ptp.sList :=
      PTPDeviceHandler.umountLoop_same env w.ptp.sList w.sys
    have hstep : (w.handlerPluginEvent env .ptp eventType).1 =
        { w with
          sys := (w.ptp.umountAllDrive env w.sys).state
          ptp := (w.ptp.umountAllDrive env w.sys).obj } := by
      rcases hevent with rfl | rfl <;> rfl
    have hkept : (w.ptp.umountAllDrive env w.sys).obj.DrivesTrue := by
      unfold PTPDeviceHandler.DrivesTrue
      rw [hsame]
      exact hdrives
    rw [show StreamingKind.ptp.kind = .ptp from rfl, hstep]
    refine (and_iff_left hkept).trans ?_
    refine Iff.trans (and_congr_left fun _ => ?_) hall
    exact List.forall_mem_map

/-- The other plugin events write the power status alone. -/
theorem plugin_keeps_truth (htrue : w.TellsTruth) (handler : StreamingKind) {eventType : PluginEvent}
    (hall : eventType ≠ .powerProcessRequestUmountAll)
    (hsuspend : eventType ≠ .powerProcessPrepareSuspend) :
    (w.handlerPluginEvent env handler.kind eventType).1.TellsTruth := by
  have hmtp : ∀ f : MTPDevice → MTPDevice, (∀ d, (f d).toStorage.isMounted = d.isMounted ∧
      (f d).mountName = d.mountName ∧ (f d).errorReason = d.errorReason) →
        ({ w with mtp := { mtpList := w.mtp.mtpList.map f } } : World).TellsTruth := by
    intro f hf
    refine ⟨fun d hd => ?_, htrue.ptp, htrue.drives⟩
    obtain ⟨x, hx, rfl⟩ := List.mem_map.mp hd
    obtain ⟨hflag, hmount, hreason⟩ := hf x
    exact (htrue.mtp x hx).congr hflag hmount hreason
  have hptp : ∀ f : PTPDevice → PTPDevice, (∀ d, (f d).toStorage.isMounted = d.isMounted ∧
      (f d).mountName = d.mountName ∧ (f d).errorReason = d.errorReason ∧
        (f d).driveStatus = d.driveStatus) →
        ({ w with ptp := { sList := w.ptp.sList.map f } } : World).TellsTruth := by
    intro f hf
    refine ⟨htrue.mtp, fun d hd => ?_, fun d hd => ?_⟩
    · obtain ⟨x, hx, rfl⟩ := List.mem_map.mp hd
      obtain ⟨hflag, hmount, hreason, -⟩ := hf x
      exact (htrue.ptp x hx).congr hflag hmount hreason
    · obtain ⟨x, hx, rfl⟩ := List.mem_map.mp hd
      obtain ⟨hflag, -, -, hstatus⟩ := hf x
      rw [hflag, hstatus]
      exact htrue.drives x hx
  cases handler with
  | mtp =>
    cases eventType with
    | powerProcessRequestUmountAll => exact absurd rfl hall
    | powerProcessPrepareSuspend => exact absurd rfl hsuspend
    | powerProcessRequestSuspend => exact hmtp _ fun d => ⟨rfl, rfl, rfl⟩
    | powerProcessPrepareResume => exact hmtp _ fun d => ⟨rfl, rfl, rfl⟩
    | _ => exact htrue
  | ptp =>
    cases eventType with
    | powerProcessRequestUmountAll => exact absurd rfl hall
    | powerProcessPrepareSuspend => exact absurd rfl hsuspend
    | powerProcessRequestSuspend => exact hptp _ fun d => ⟨rfl, rfl, rfl, rfl⟩
    | powerProcessPrepareResume => exact hptp _ fun d => ⟨rfl, rfl, rfl, rfl⟩
    | _ => exact htrue

theorem clear_tellsTruth (htrue : w.TellsTruth) : w.clear.TellsTruth :=
  ⟨htrue.mtp, htrue.ptp, htrue.drives⟩

/-- **One step.** -/
theorem streamingStep_true_iff (hw : w.Addressed) (htrue : w.TellsTruth)
    (i : Env × StreamingInput) : (w.streamingStep cfg i).TellsTruth ↔ w.StepFits cfg i := by
  obtain ⟨env, input⟩ := i
  have hclear := clear_tellsTruth htrue
  cases input with
  | uevent handler devClass => exact event_true_iff hclear handler devClass
  | command handler cmdtypes =>
    cases cmdtypes with
    | eject deviceNumber => exact eject_true_iff hclear handler deviceNumber
    | _ => cases handler <;> exact iff_of_true hclear trivial
  | pluginEvent handler eventType =>
    cases eventType with
    | powerProcessRequestUmountAll => exact umountAll_true_iff hw.clear hclear handler (Or.inl rfl)
    | powerProcessPrepareSuspend => exact umountAll_true_iff hw.clear hclear handler (Or.inr rfl)
    | _ => exact iff_of_true (plugin_keeps_truth hclear handler (by simp) (by simp)) trivial

/-- **The status of the streaming devices.**  Along a run of the streaming handlers, what the
devices say of themselves is true at every step exactly when every step fits. -/
theorem streaming_status_iff (cfg : Config) (is : List (Env × StreamingInput)) :
    Runs.StepsAll (streamingStep cfg)
        (fun w i =>
          (∀ d ∈ (w.streamingStep cfg i).mtp.mtpList,
            (d.isMounted = true ↔ d.mountName ∈ (w.streamingStep cfg i).sys.mounted) ∧
              (d.errorReason = .ejected → d.mountName ∉ (w.streamingStep cfg i).sys.mounted)) ∧
          ∀ d ∈ (w.streamingStep cfg i).ptp.sList,
            (d.isMounted = true ↔ d.mountName ∈ (w.streamingStep cfg i).sys.mounted) ∧
              (d.driveStatus = .mountOk ↔ d.isMounted = true) ∧
              (d.errorReason = .ejected → d.mountName ∉ (w.streamingStep cfg i).sys.mounted))
        {} is ↔
      Runs.StepsAll (streamingStep cfg) (StepFits cfg) {} is := by
  refine Runs.stepsAll_congr (I := fun w => w.Addressed ∧ w.TellsTruth) (fun w i hw hP => ?_)
    (fun w i hw => ?_) ⟨init_addressed, ⟨fun d hd => absurd hd (by simp), fun d hd => absurd hd
      (by simp), fun d hd => absurd hd (by simp)⟩⟩
  · exact ⟨deliver_addressed hw.1.clear i.2.toInput,
      fun d hd => ⟨(hP.1 d hd).1, (hP.1 d hd).2⟩, fun d hd => ⟨(hP.2 d hd).1, (hP.2 d hd).2.2⟩,
      fun d hd => (hP.2 d hd).2.1⟩
  · refine Iff.trans ?_ (streamingStep_true_iff hw.1 hw.2 i)
    exact ⟨fun hP => ⟨fun d hd => ⟨(hP.1 d hd).1, (hP.1 d hd).2⟩,
        fun d hd => ⟨(hP.2 d hd).1, (hP.2 d hd).2.2⟩, fun d hd => (hP.2 d hd).2.1⟩,
      fun h => ⟨fun d hd => ⟨(h.mtp d hd).flag, (h.mtp d hd).ejected⟩,
        fun d hd => ⟨(h.ptp d hd).flag, h.drives d hd, (h.ptp d hd).ejected⟩⟩⟩

/-- A camera is plugged in, and the daemon is told to unmount everything before a suspend. -/
def suspendCamera : List (Env × StreamingInput) :=
  [({ readdir := fun _ => some ["DCIM"] }, .uevent .ptp
      { action := "add"
        devType := "usb_device"
        interfaceClass := ":060101:"
        devPath := "/devices/usb1/1-3"
        busNum := "1"
        devNumber := "5" }),
    ({}, .pluginEvent .ptp .powerProcessPrepareSuspend)]

/-- The camera is unmounted then, and still flagged. -/
theorem suspended_camera_flagged :
    ¬ Runs.StepsAll (streamingStep .tmpUsb)
        (fun w i =>
          (∀ d ∈ (w.streamingStep .tmpUsb i).mtp.mtpList,
            (d.isMounted = true ↔ d.mountName ∈ (w.streamingStep .tmpUsb i).sys.mounted) ∧
              (d.errorReason = .ejected →
                d.mountName ∉ (w.streamingStep .tmpUsb i).sys.mounted)) ∧
          ∀ d ∈ (w.streamingStep .tmpUsb i).ptp.sList,
            (d.isMounted = true ↔ d.mountName ∈ (w.streamingStep .tmpUsb i).sys.mounted) ∧
              (d.driveStatus = .mountOk ↔ d.isMounted = true) ∧
              (d.errorReason = .ejected →
                d.mountName ∉ (w.streamingStep .tmpUsb i).sys.mounted)) {} suspendCamera := by
  intro h
  have hlast := h.2.1.2
  revert hlast
  decide

end World

end Pdm
