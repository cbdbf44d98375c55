/-
Which device a step of the storage handler sends signals about.

The signals about a device are those that name it and, of those that name none, the ones
sent while an event is handed to it.  A step has signals about one device at most: the one
an event is handed to, the one that leaves, or the one a thread checks a partition of.
-/
import Pdm.Lib.Alternation
import Pdm.Proofs.Signals

namespace Pdm

open StorageDevice StorageDeviceHandler
open Alternation (Alternates)

namespace StorageSystem

variable (cfg : Config) (env : Env) (w : StorageSystem)

/-! ### Signals about a device -/

/-- The device an event is handed to. -/
def subject : StorageInput → Option Nat
  | .uevent devClass => (target cfg w.sys.next w.storage devClass).told.map (·.address)
  | _ => none

/-- The signals of a step about the device at `a`. -/
def signals (i : Env × StorageInput) (a : Nat) : List Bool :=
  ((w.step cfg i).sys.signals.filter fun x => (x.2 <|> w.subject cfg i.2) = some a).map (·.1)

/-- The signals of a run about the device at `a`. -/
def history (a : Nat) : StorageSystem → List (Env × StorageInput) → List Bool
  | _, [] => []
  | w, i :: is => w.signals cfg i a ++ history a (w.step cfg i) is

/-- The device that leaves the list. -/
def leaving (w : StorageSystem) : StorageInput → Option StorageDevice
  | .uevent devClass =>
    if devClass.action = "remove" then removedDevice w.storage devClass else none
  | _ => none

end StorageSystem

/-! ### What each step says -/

namespace StorageDeviceHandler

variable (cfg : Config) (env : Env) (s : Sys) (h : StorageDeviceHandler) (devClass : DeviceClass)

/-- An event that is handed to nobody posts nothing. -/
theorem createStorageDevice_full (reader : Option StorageDevice)
    (hfull : h.storageList.length ≥ cfg.maxUsbStorageDevices) :
    (createStorageDevice cfg env s h devClass reader).state.posts = s.posts := by
  unfold createStorageDevice
  rw [if_pos hfull, Sys.notify_posts, if_neg (by decide), List.append_nil]

theorem checkStorageDevice_nobody (htakes : takes devClass = true)
    (htarget : target cfg s.next h devClass = .nobody) :
    (checkStorageDevice cfg env s h devClass).state.posts = s.posts := by
  rcases checkStorageDevice_cases cfg env s h devClass htakes with
    ⟨d, -, hlisted, -⟩ | ⟨reader, hnew, heq⟩ | ⟨-, heq⟩
  · rw [htarget] at hlisted
    exact absurd hlisted (by simp)
  · rw [htarget] at hnew
    unfold newTarget at hnew
    split at hnew
    · rename_i hfull
      rw [heq]
      exact createStorageDevice_full cfg env s h devClass reader hfull
    · exact absurd hnew (by simp)
  · rw [heq]

theorem HandlerEvent_nobody (htarget : target cfg s.next h devClass = .nobody)
    (hstays : devClass.action = "remove" → removedDevice h devClass = none) :
    (HandlerEvent cfg env s h devClass).state.posts = s.posts := by
  rcases HandlerEvent_cases cfg env s h devClass with
    ⟨hremove, heq⟩ | ⟨htakes, hstate, -⟩ | ⟨-, -, hstate, -⟩
  · rw [heq]
    unfold deleteStorageDevice
    rw [hstays hremove]
  · rw [hstate]
    exact checkStorageDevice_nobody cfg env s h devClass htakes htarget
  · rw [hstate]

end StorageDeviceHandler

/-! ### Which device a step is about -/

namespace StorageSystem

variable (cfg : Config) (env : Env) (w : StorageSystem)

/-- A step with signals about one device only; if that device stays in the list, it
remembers an ADD. -/
structure About (i : Env × StorageInput) (d : StorageDevice) (bs : List Bool) : Prop where
  said : ∀ a, w.signals cfg i a = if a = d.address then bs else []
  given : d.address < (w.step cfg i).sys.next
  listed : ∀ e ∈ (w.step cfg i).storage.storageList,
    (e.address = d.address ∧
      (d.isDevAddEventNotified = true ∨ true ∈ bs → e.isDevAddEventNotified = true)) ∨
    (e ∈ w.storage.storageList ∧ e.address ≠ d.address)

/-- A step without signals. -/
structure Silent (i : Env × StorageInput) : Prop where
  said : ∀ a, w.signals cfg i a = []
  listed : ∀ e ∈ (w.step cfg i).storage.storageList, ∃ d ∈ w.storage.storageList,
    e.address = d.address ∧ (d.isDevAddEventNotified = true → e.isDevAddEventNotified = true)

variable {cfg env w}

theorem signals_of_owned {i : Env × StorageInput} {bs : List (Bool × Option Nat)} {b : Nat}
    (h : (w.step cfg i).sys.signals = bs)
    (hown : ∀ x ∈ bs, (x.2 <|> w.subject cfg i.2) = some b) (a : Nat) :
    w.signals cfg i a = if a = b then bs.map (·.1) else [] := by
  unfold StorageSystem.signals
  rw [h]
  by_cases hab : a = b
  · rw [if_pos hab, List.filter_eq_self.mpr fun x hx => ?_]
    rw [hown x hx, hab]
    exact decide_eq_true rfl
  · rw [if_neg hab, List.filter_eq_nil_iff.mpr fun x hx => ?_]
    · rfl
    · rw [hown x hx, decide_eq_true_eq, Option.some.injEq]
      exact fun hba => hab hba.symm

/-- At most one signal that the device has come and one that it goes. -/
theorem signals_of_pair {i : Env × StorageInput} {P Q : Prop} [Decidable P] [Decidable Q]
    {came gone : Option Nat} {b : Nat}
    (h : (w.step cfg i).sys.signals =
      (if P then [(true, came)] else []) ++ if Q then [(false, gone)] else [])
    (hcame : (came <|> w.subject cfg i.2) = some b) (hgone : (gone <|> w.subject cfg i.2) = some b)
    (a : Nat) :
    w.signals cfg i a =
      if a = b then (if P then [true] else []) ++ if Q then [false] else [] else [] := by
  rw [signals_of_owned h (b := b) (fun x hx => ?_) a, List.map_append]
  · refine congrArg (if a = b then · else []) (congrArg₂ (· ++ ·) ?_ ?_)
    · split <;> rfl
    · split <;> rfl
  · rcases List.mem_append.mp hx with hx | hx
    · split at hx
      · rw [List.mem_singleton.mp hx]
        exact hcame
      · exact absurd hx (by simp)
    · split at hx
      · rw [List.mem_singleton.mp hx]
        exact hgone
      · exact absurd hx (by simp)

theorem signals_of_nobody {i : Env × StorageInput}
    (h : ∀ x ∈ (w.step cfg i).sys.signals, (x.2 <|> w.subject cfg i.2) = none) (a : Nat) :
    w.signals cfg i a = [] := by
  unfold StorageSystem.signals
  rw [List.filter_eq_nil_iff.mpr fun x hx => ?_]
  · rfl
  · rw [h x hx]
    simp

end StorageSystem

namespace StorageDevice

variable (env : Env) (d : StorageDevice) (devClass : DeviceClass)

/-- The signals of an event about the device it is handed to. -/
def eventSignals (env : Env) (d : StorageDevice) (devClass : DeviceClass) : List Bool :=
  (if d.announces env devClass then [true] else []) ++
    if d.DropsParts env devClass then [false] else []

/-- The signals of a removal about the device that goes. -/
def removalSignals (env : Env) (d : StorageDevice) : List Bool :=
  (if d.announcesLate env then [true] else []) ++
    if (d.isDevAddEventNotified || d.announcesLate env) = true then [false] else []

/-- The signals of a thread about the device it checks a partition of. -/
def threadSignals (env : Env) (d : StorageDevice) (partition : Nat) : List Bool :=
  if partition ∈ d.fsckThreadArray ∧
      { d with fsckThreadArray := d.fsckThreadArray.erase partition }.endsRound env partition = true
  then [true] else []

theorem alternates_eventSignals (on : Bool) :
    Alternates on (d.eventSignals env devClass) ↔
      (d.announces env devClass = true → on = false) ∧
      (d.DropsParts env devClass → on = true) := by
  unfold eventSignals
  by_cases hdrops : d.DropsParts env devClass
  · have hsilent : ¬ d.announces env devClass = true := by
      unfold announces
      rw [receiver_of_dropsParts env d devClass hdrops]
      simp
    rw [if_neg hsilent, if_pos hdrops]
    cases on <;> simp [Alternates, hsilent, hdrops]
  · rw [if_neg hdrops, List.append_nil]
    by_cases hannounces : d.announces env devClass = true
    · rw [if_pos hannounces]
      cases on <;> simp [Alternates, hannounces, hdrops]
    · rw [if_neg hannounces]
      simp [hannounces, hdrops]

theorem alternates_removalSignals (on : Bool) :
    Alternates on (d.removalSignals env) ↔
      (d.announcesLate env = true → on = false) ∧
      (d.isDevAddEventNotified = true → on = true ∨ d.announcesLate env = true) := by
  unfold removalSignals
  cases hlate : d.announcesLate env with
  | true => cases on <;> simp [Alternates]
  | false =>
    cases hnotified : d.isDevAddEventNotified with
    | true => cases on <;> simp [Alternates]
    | false => simp

theorem alternates_threadSignals (partition : Nat) (on : Bool) :
    Alternates on (d.threadSignals env partition) ↔ (partition ∈ d.fsckThreadArray →
      { d with fsckThreadArray := d.fsckThreadArray.erase partition }.endsRound env partition =
        true → on = false) := by
  unfold threadSignals
  by_cases hends : partition ∈ d.fsckThreadArray ∧
      { d with fsckThreadArray := d.fsckThreadArray.erase partition }.endsRound env partition = true
  · rw [if_pos hends]
    cases on <;> simp [Alternates, hends]
  · rw [if_neg hends]
    exact iff_of_true trivial fun hin hlast => absurd ⟨hin, hlast⟩ hends

theorem true_mem_eventSignals :
    true ∈ d.eventSignals env devClass ↔ d.announces env devClass = true := by
  unfold eventSignals
  split <;> split <;> simp_all

theorem mem_removalSignals :
    (true ∈ d.removalSignals env ↔ d.announcesLate env = true) ∧
      (false ∈ d.removalSignals env ↔
        d.isDevAddEventNotified = true ∨ d.announcesLate env = true) := by
  unfold removalSignals
  cases d.announcesLate env with
  | true => simp
  | false => cases d.isDevAddEventNotified <;> simp

end StorageDevice

namespace StorageSystem

variable (cfg : Config) (env : Env) (w : StorageSystem)

/-- What a device says while an event is handed to it is said of it, named or not. -/
theorem signals_of_said {devClass : DeviceClass} {d : StorageDevice}
    (hd : d ∈ (target cfg w.sys.next w.storage devClass).told)
    (hsignals : (w.step cfg (env, .uevent devClass)).sys.signals =
      (d.said env devClass).filterMap signalOf) (a : Nat) :
    w.signals cfg (env, .uevent devClass) a =
      if a = d.address then d.eventSignals env devClass else [] := by
  have hsubject : w.subject cfg (.uevent devClass) = some d.address := by
    show (target cfg w.sys.next w.storage devClass).told.map (·.address) = _
    rw [Option.mem_def.mp hd]
    rfl
  have hbits : (d.said env devClass).filterMap signalOf =
      (if d.announces env devClass then [(true, some d.address)] else []) ++
        if d.DropsParts env devClass then [(false, none)] else [] := by
    rw [said_eq, List.filterMap_append]
    refine congrArg₂ (· ++ ·) ?_ ?_
    · unfold added
      split <;> rfl
    · split <;> rfl
  rw [hbits] at hsignals
  exact signals_of_pair hsignals rfl hsubject a

/-- An event is about the device it is handed to. -/
theorem about_event (hvalid : w.Valid) {devClass : DeviceClass} {d : StorageDevice}
    (hd : d ∈ (target cfg w.sys.next w.storage devClass).told) :
    w.About cfg (env, .uevent devClass) d (d.eventSignals env devClass) := by
  have hsaid := signals_of_said cfg env w hd
  have hvalid' : (w.step cfg (env, .uevent devClass)).Valid := step_valid hvalid _
  have hnotified : ∀ t : Sys, d.isDevAddEventNotified = true ∨ true ∈ d.eventSignals env devClass →
      (setDeviceInfo env t d devClass).obj.isDevAddEventNotified = true := by
    intro t hor
    rw [(setDeviceInfo_sends env t d devClass).notified, Bool.or_eq_true]
    refine hor.imp_right fun hmem => ?_
    rw [true_mem_eventSignals] at hmem
    rw [said_eq, List.any_append]
    unfold added
    rw [if_pos hmem]
    rfl
  have hempty : ∀ t : Sys, t.posts = [] → (setDeviceInfo env t d devClass).state.signals =
      (d.said env devClass).filterMap signalOf := by
    intro t ht
    rw [Sys.signals_append (setDeviceInfo_sends env t d devClass).posts]
    unfold Sys.signals
    rw [ht]
    rfl
  cases w.storage.HandlerEvent_outcome cfg env w.clear.sys devClass with
  | ignored htarget _ _ =>
    rw [show target cfg w.sys.next w.storage devClass = .nobody from htarget] at hd
    exact absurd hd (by simp [Target.told])
  | dropped e hremove _ _ _ =>
    have hnot : takes devClass = false := by simp [takes, hremove]
    rw [show target cfg w.sys.next w.storage devClass = .nobody by simp [target, hnot]] at hd
    exact absurd hd (by simp [Target.told])
  | handed e htarget hmem ht hl =>
    rw [show target cfg w.sys.next w.storage devClass = .listed e from htarget] at hd
    obtain rfl : e = d := Option.some.inj hd
    have hobj := setDeviceInfo_address env w.clear.sys e devClass
    refine ⟨hsaid ((congrArg Sys.signals ht).trans (hempty w.clear.sys rfl)), ?_, fun f hf => ?_⟩
    · exact Nat.lt_of_lt_of_le (hvalid.given e hmem) (deliver_next cfg env w.clear (.uevent devClass))
    · rw [show (w.step cfg (env, .uevent devClass)).storage.storageList = _ from hl] at hf
      rcases WellFormed.mem_writeBack hf with rfl | ⟨hf, hother⟩
      · exact Or.inl ⟨hobj, hnotified w.clear.sys⟩
      · exact Or.inr ⟨hf, fun haddress => hother (haddress.trans hobj.symm)⟩
  | created reader htarget ht hl =>
    rw [show target cfg w.sys.next w.storage devClass = .new _ from htarget] at hd
    obtain rfl := Option.some.inj hd
    have hobj := setDeviceInfo_address env w.clear.sys.alloc
      (newDevice cfg w.clear.sys.next devClass reader) devClass
    have hlist : (w.step cfg (env, .uevent devClass)).storage.storageList = _ := hl
    refine ⟨hsaid ((congrArg Sys.signals ht).trans (hempty w.clear.sys.alloc rfl)), ?_, fun f hf => ?_⟩
    · rw [← hobj]
      exact hvalid'.given _ (by rw [hlist]; simp)
    · rw [hlist] at hf
      rcases List.mem_append.mp hf with hf | hf
      · refine Or.inr ⟨hf, fun haddress => ?_⟩
        have hlt := hvalid.given f hf
        rw [haddress, newDevice_address] at hlt
        exact absurd hlt (Nat.lt_irrefl _)
      · rw [List.mem_singleton.mp hf]
        exact Or.inl ⟨hobj, hnotified w.clear.sys.alloc⟩

/-- The device that goes remembers the ADD that a late check sends. -/
theorem onDeviceRemove_notified (s : Sys) (d : StorageDevice) :
    (onDeviceRemove env s d).obj.isDevAddEventNotified =
      (d.isDevAddEventNotified || d.announcesLate env) := by
  rw [(onDeviceRemove_sends env s d).1.notified]
  refine congrArg (_ || ·) ?_
  unfold added
  split
  · rename_i hlate
    exact hlate.symm
  · rename_i hlate
    exact (Bool.eq_false_iff.mpr hlate).symm

/-- Its handler sends the REMOVE. -/
theorem dropStorageDevice_signals (s : Sys) (h : StorageDeviceHandler) (d : StorageDevice) :
    (dropStorageDevice env s h d).state.signals = s.signals ++
      ((if d.announcesLate env then [(true, some d.address)] else []) ++
        if (d.isDevAddEventNotified || d.announcesLate env) = true then [(false, some d.address)]
        else []) := by
  have haddress := (d.onDeviceRemove_keeps env s).1
  have hjoined : (onDeviceRemove env s d).state.signals =
      s.signals ++ if d.announcesLate env then [(true, some d.address)] else [] := by
    rw [Sys.signals_append (onDeviceRemove_sends env s d).1.posts]
    refine congrArg (_ ++ ·) ?_
    unfold added
    split <;> rfl
  unfold dropStorageDevice removeDevice
  dsimp only
  rw [onDeviceRemove_notified, ← List.append_assoc, ← hjoined]
  by_cases hsent : (d.isDevAddEventNotified || d.announcesLate env) = true
  · rw [if_pos hsent, if_pos hsent]
    dsimp only
    rw [Sys.signals_append (Sys.notify_posts _ _ _ _), haddress]
    rfl
  · rw [if_neg hsent, if_neg hsent, List.append_nil]

/-- A removal is about the device that goes. -/
theorem about_removal (hvalid : w.Valid) {devClass : DeviceClass} {d : StorageDevice}
    (hd : d ∈ w.leaving (.uevent devClass)) :
    w.About cfg (env, .uevent devClass) d (d.removalSignals env) ∧
      (d.isDevAddEventNotified = false → d.announcesLate env = false →
        ∃ r ∈ (w.step cfg (env, .uevent devClass)).sys.calls,
          r.call = .notify .storageDevice .removeBeforeMount (some d.address)) := by
  have hremove : devClass.action = "remove" ∧ removedDevice w.storage devClass = some d := by
    unfold leaving at hd
    dsimp only at hd
    split at hd
    · rename_i h
      exact ⟨h, hd⟩
    · exact absurd hd (by simp)
  obtain ⟨hremove, hfound⟩ := hremove
  have hstate : (w.step cfg (env, .uevent devClass)) =
      ⟨(dropStorageDevice env w.clear.sys w.storage d).state,
        (dropStorageDevice env w.clear.sys w.storage d).obj⟩ := by
    show StorageSystem.after (HandlerEvent cfg env w.clear.sys w.storage devClass) = _
    unfold HandlerEvent deleteStorageDevice
    rw [if_pos hremove, hfound]
    rfl
  have hsignals : (w.step cfg (env, .uevent devClass)).sys.signals =
      (if d.announcesLate env then [(true, some d.address)] else []) ++
        if (d.isDevAddEventNotified || d.announcesLate env) = true then [(false, some d.address)]
        else [] := by
    rw [hstate]
    exact dropStorageDevice_signals env w.clear.sys w.storage d
  refine ⟨⟨fun a => ?_, ?_, fun e he => ?_⟩, fun hnot hlate => ?_⟩
  · exact signals_of_pair hsignals rfl rfl a
  · exact Nat.lt_of_lt_of_le (hvalid.given d (removedDevice_mem hfound))
      (deliver_next cfg env w.clear (.uevent devClass))
  · rw [hstate] at he
    rw [dropStorageDevice_list] at he
    obtain ⟨he, hother⟩ := List.mem_filter.mp he
    have hne : (base e).address ≠ (base d).address := by simpa using hother
    exact Or.inr ⟨he, hne⟩
  · have hquiet : (onDeviceRemove env w.clear.sys d).obj.isDevAddEventNotified = false := by
      rw [onDeviceRemove_notified, hnot, hlate]
      rfl
    obtain ⟨r, hr, hcall⟩ := (onDeviceRemove_sends env w.clear.sys d).2 hquiet
    refine ⟨r, ?_, hcall⟩
    rw [hstate]
    unfold dropStorageDevice removeDevice
    dsimp only
    rw [if_neg (by simp [hquiet])]
    exact hr

/-- A thread is about the device it checks a partition of. -/
theorem about_thread (hvalid : w.Valid) {device partition : Nat} {d : StorageDevice}
    (hd : w.storage.storageList.find? (·.address = device) = some d) :
    w.About cfg (env, .fsckThread device partition) d (d.threadSignals env partition) := by
  have hmem := List.mem_of_find?_eq_some hd
  have hgiven := Nat.lt_of_lt_of_le (hvalid.given d hmem)
    (deliver_next cfg env w.clear (.fsckThread device partition))
  have hsilent : partition ∉ d.fsckThreadArray →
      w.step cfg (env, .fsckThread device partition) =
        ⟨w.clear.sys, w.storage.setDevice d⟩ := by
    intro hnot
    show StorageSystem.after (runFsckThread env w.clear.sys w.storage device partition) = _
    unfold runFsckThread deviceTask
    rw [hd]
    dsimp only
    rw [if_neg hnot]
    rfl
  have hruns : partition ∈ d.fsckThreadArray →
      w.step cfg (env, .fsckThread device partition) =
        ⟨(fsckOnDeviceAddThread env w.clear.sys
            { d with fsckThreadArray := d.fsckThreadArray.erase partition } partition).state,
          w.storage.setDevice (fsckOnDeviceAddThread env w.clear.sys
            { d with fsckThreadArray := d.fsckThreadArray.erase partition } partition).obj⟩ := by
    intro hin
    show StorageSystem.after (runFsckThread env w.clear.sys w.storage device partition) = _
    unfold runFsckThread deviceTask
    rw [hd]
    dsimp only
    rw [if_pos hin]
    rfl
  by_cases hin : partition ∈ d.fsckThreadArray
  · have hsends := fsckOnDeviceAddThread_sends env w.clear.sys
      { d with fsckThreadArray := d.fsckThreadArray.erase partition } partition
    have haddress := address_of_core (fsckOnDeviceAddThread_within env w.clear.sys
      { d with fsckThreadArray := d.fsckThreadArray.erase partition } partition).core
    have hstate := hruns hin
    generalize hstarted : { d with fsckThreadArray := d.fsckThreadArray.erase partition } = d'
      at hsends haddress hstate
    have hbits : d.threadSignals env partition =
        if d'.endsRound env partition = true then [true] else [] := by
      unfold threadSignals
      rw [hstarted]
      exact if_congr (and_iff_right hin) rfl rfl
    have haddr : d'.address = d.address := by rw [← hstarted]
    have hnotified' : d'.isDevAddEventNotified = d.isDevAddEventNotified := by rw [← hstarted]
    have hsignals : (w.step cfg (env, .fsckThread device partition)).sys.signals =
        if d'.endsRound env partition = true then [(true, some d.address)] else [] := by
      rw [hstate]
      dsimp only
      rw [Sys.signals_append hsends.posts]
      unfold added
      rw [haddr]
      split <;> rfl
    refine ⟨fun a => ?_, hgiven, fun e he => ?_⟩
    · rw [signals_of_owned hsignals (b := d.address) (fun x hx => ?_) a, hbits]
      · refine congrArg (if a = d.address then · else []) ?_
        split <;> rfl
      · split at hx
        · rw [List.mem_singleton.mp hx]
          rfl
        · exact absurd hx (by simp)
    · rw [hstate] at he
      rcases WellFormed.mem_writeBack he with rfl | ⟨he, hother⟩
      · refine Or.inl ⟨haddress.trans haddr, fun hor => ?_⟩
        rw [hsends.notified, hnotified', Bool.or_eq_true]
        refine hor.imp_right fun hsent => ?_
        rw [hbits] at hsent
        unfold added
        split
        · rfl
        · rename_i hnot
          rw [if_neg hnot] at hsent
          exact absurd hsent (by simp)
      · exact Or.inr ⟨he, fun h => hother (h.trans (haddress.trans haddr).symm)⟩
  · have hbits : d.threadSignals env partition = [] := if_neg fun h => hin h.1
    refine ⟨fun a => ?_, hgiven, fun e he => ?_⟩
    · rw [signals_of_nobody (by rw [hsilent hin]; simp [Sys.signals, Sys.posts, clear]) a, hbits]
      split <;> rfl
    · rw [hsilent hin] at he
      rcases WellFormed.mem_writeBack he with rfl | ⟨he, hother⟩
      · exact Or.inl ⟨rfl, fun hor => hor.elim id fun hsent => by rw [hbits] at hsent; simp at hsent⟩
      · exact Or.inr ⟨he, hother⟩

/-! ### Steps without a signal -/

theorem silent_of_hushed {i : Env × StorageInput}
    (h : HushedList w.clear.sys w.storage.storageList (w.step cfg i).sys
      (w.step cfg i).storage.storageList) : w.Silent cfg i := by
  refine ⟨fun a => signals_of_nobody ?_ a, fun e he => ?_⟩
  · rw [h.signals]
    exact fun x hx => absurd hx (by simp [Sys.signals, Sys.posts, clear])
  · obtain ⟨d, hd, haddress, hnotified⟩ := h.each e he
    exact ⟨d, hd, haddress, fun hd => hnotified.trans hd⟩

/-- An event that no device is told of, and that makes none leave. -/
theorem silent_event {devClass : DeviceClass}
    (htold : (target cfg w.sys.next w.storage devClass).told = none)
    (hstays : w.leaving (.uevent devClass) = none) : w.Silent cfg (env, .uevent devClass) := by
  have hremoved : devClass.action = "remove" → removedDevice w.storage devClass = none := by
    intro hremove
    unfold leaving at hstays
    dsimp only at hstays
    rw [if_pos hremove] at hstays
    exact hstays
  have htarget : target cfg w.sys.next w.storage devClass = .nobody := by
    cases htarget : target cfg w.sys.next w.storage devClass with
    | nobody => rfl
    | listed d => rw [htarget] at htold; exact absurd htold (by simp [Target.told])
    | new d => rw [htarget] at htold; exact absurd htold (by simp [Target.told])
  refine silent_of_hushed cfg w ⟨?_, fun e he => ?_⟩
  · exact Sys.signals_of_posts
      (HandlerEvent_nobody cfg env w.clear.sys w.storage devClass htarget hremoved)
  · cases w.storage.HandlerEvent_outcome cfg env w.clear.sys devClass with
    | ignored _ _ hl =>
      rw [show (w.step cfg (env, .uevent devClass)).storage.storageList = _ from hl] at he
      exact ⟨e, he, rfl, rfl⟩
    | handed d hlisted _ _ _ =>
      rw [show target cfg w.sys.next w.storage devClass = .listed d from hlisted] at htarget
      exact absurd htarget (by simp)
    | created reader hnew _ _ =>
      rw [show target cfg w.sys.next w.storage devClass = .new _ from hnew] at htarget
      exact absurd htarget (by simp)
    | dropped d hremove hfound _ _ =>
      exact absurd ((hremoved hremove).symm.trans hfound) (by simp)

theorem silent_command (cmdtypes : CommandType) : w.Silent cfg (env, .command cmdtypes) :=
  silent_of_hushed cfg w (HandlerCommand_hushed env w.clear.sys w.storage cmdtypes)

theorem silent_pluginEvent (eventType : PluginEvent) :
    w.Silent cfg (env, .pluginEvent eventType) := by
  obtain ⟨⟨bs, hsignals, hnone⟩, heach⟩ :=
    HandlePluginEvent_signals env w.clear.sys w.storage eventType
  refine ⟨fun a => signals_of_nobody (fun x hx => ?_) a, fun e he => ?_⟩
  · have hmem : x ∈ bs := by
      rw [show (w.step cfg (env, .pluginEvent eventType)).sys.signals = _ from hsignals] at hx
      exact hx
    rw [hnone x hmem]
    rfl
  · obtain ⟨d, hd, haddress, hnotified⟩ := heach e he
    exact ⟨d, hd, haddress, fun hd => hnotified.trans hd⟩

theorem silent_thread {device partition : Nat}
    (hnone : w.storage.storageList.find? (·.address = device) = none) :
    w.Silent cfg (env, .fsckThread device partition) := by
  refine silent_of_hushed cfg w ?_
  show HushedList _ _ (runFsckThread env w.clear.sys w.storage device partition).state
    (runFsckThread env w.clear.sys w.storage device partition).obj.storageList
  unfold runFsckThread deviceTask
  rw [hnone]
  exact HushedList.refl _ _

theorem silent_timeout (device : Nat) : w.Silent cfg (env, .timeout device) := by
  refine silent_of_hushed cfg w ?_
  show HushedList _ _ (runTimeout w.clear.sys w.storage device).state
    (runTimeout w.clear.sys w.storage device).obj.storageList
  unfold runTimeout deviceTask
  cases hd : w.storage.storageList.find? (·.address = device) with
  | none => exact HushedList.refl _ _
  | some d =>
    refine HushedList.write (d := d) ?_ (List.mem_of_find?_eq_some hd)
    dsimp only
    split
    · exact Hushed.of_posts (notifyStorageConnecting_posts w.clear.sys d) rfl rfl
    · exact Hushed.refl _ _

end StorageSystem

end Pdm
