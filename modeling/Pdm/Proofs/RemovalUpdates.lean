/-
Removals that overlap.

A removal finds its device's record, deletes it, and asks db8 for what is left at the
display.  Between its callbacks the service keeps the display and the type of the device in
two members, which the record found for the next removal overwrites.

What db8 says of a call was true at some time after the call was made, and during removals
records only go, so every answer lies between the records of the start and those of now.
What carries the proof is that a removed device always has one thing on its way: a look at
its record or its deletion as long as it has a record, and from then on the answer to the
deletion or the look at what is left, until the list is sent.  Each is followed by the next
when the callback finds the members as its own removal left them.
-/
import Pdm.Lib.Schedules
import Pdm.Proofs.DisplayLists

namespace Pdm

open SessionService

/-! ### Elements at a place of a list -/

section Places

variable {α : Type} {l : List α} {i : Nat} {x y z : α}

/-- What is not at the place stays when the place is written. -/
theorem mem_set_of_ne (hi : l[i]? = some x) (hy : y ∈ l) (hne : y ≠ x) : y ∈ l.set i z := by
  obtain ⟨j, hj⟩ := List.mem_iff_getElem?.mp hy
  have hij : i ≠ j := by
    rintro rfl
    rw [hi] at hj
    exact hne (Option.some.inj hj).symm
  refine List.mem_iff_getElem?.mpr ⟨j, ?_⟩
  rwa [List.getElem?_set_ne hij]

theorem mem_set_self (hi : l[i]? = some x) : z ∈ l.set i z := by
  obtain ⟨hlt, -⟩ := List.getElem?_eq_some_iff.mp hi
  exact List.mem_set hlt z

/-- What is not at the place stays when the place is taken out. -/
theorem mem_eraseIdx_of_ne (hi : l[i]? = some x) (hy : y ∈ l) (hne : y ≠ x) : y ∈ l.eraseIdx i := by
  obtain ⟨j, hj⟩ := List.mem_iff_getElem?.mp hy
  refine List.mem_eraseIdx_iff_getElem?.mpr ⟨j, ?_, hj⟩
  rintro rfl
  rw [hi] at hj
  exact hne (Option.some.inj hj).symm

end Places

/-! ### The calls of a removal -/

def queryCall (hubPortPath : String) (answer : Option HistoryAnswer) : HistoryCall :=
  { callback := .cbQueryResponse
    request := .find [.hubPortPathIs hubPortPath]
    answer := answer }

def deleteCall (e : SessionDevice) (answer : Option HistoryAnswer) : HistoryCall :=
  { callback := .cbDeleteResponse
    request := .del e.hubPortPath
    removed := some e
    answer := answer }

/-- The lists that are asked for once the record of `e` is gone. -/
inductive ListCallback where
  | payload
  | hostPayload
  | allDeviceSession
  deriving DecidableEq, Repr

def ListCallback.callback : ListCallback → HistoryCallback
  | .payload => .cbPayloadResponse
  | .hostPayload => .cbHostPayloadResponse
  | .allDeviceSession => .cbAllDeviceSessionResponse

def ListCallback.query (e : SessionDevice) : ListCallback → List HistoryClause
  | .payload => [.deviceSetIdIs e.deviceSetId, typeClause e.deviceType]
  | .hostPayload => [typeClause e.deviceType]
  | .allDeviceSession => [.deviceSetIdIs e.deviceSetId]

def listCall (kind : ListCallback) (e : SessionDevice) (answer : Option HistoryAnswer) :
    HistoryCall :=
  { callback := kind.callback
    request := .find (kind.query e)
    removed := some e
    answer := answer }

section Calls

variable {p q : String} {e e' : SessionDevice} {answer answer' : Option HistoryAnswer}
  {kind kind' : ListCallback}

theorem queryCall_inj (h : queryCall p answer = queryCall q answer') : p = q ∧ answer = answer' := by
  simpa [queryCall] using h

theorem deleteCall_inj (h : deleteCall e answer = deleteCall e' answer') :
    e = e' ∧ answer = answer' := by
  unfold deleteCall at h
  rw [HistoryCall.mk.injEq] at h
  exact ⟨Option.some.inj h.2.2.1, h.2.2.2⟩

theorem listCall_inj (h : listCall kind e answer = listCall kind' e' answer') :
    kind = kind' ∧ e = e' ∧ answer = answer' := by
  unfold listCall at h
  rw [HistoryCall.mk.injEq] at h
  refine ⟨?_, Option.some.inj h.2.2.1, h.2.2.2⟩
  cases kind <;> cases kind' <;> first | rfl | cases h.1

@[simp] theorem query_ne_delete : queryCall p answer ≠ deleteCall e answer' := by
  simp [queryCall, deleteCall]

@[simp] theorem query_ne_list : queryCall p answer ≠ listCall kind e answer' := by
  cases kind <;> simp [queryCall, listCall, ListCallback.callback]

@[simp] theorem delete_ne_list : deleteCall e answer ≠ listCall kind e' answer' := by
  cases kind <;> simp [deleteCall, listCall, ListCallback.callback]

end Calls

/-- Every record of the first is one of the second. -/
def Fewer (h h' : History) : Prop := ∀ e ∈ h.entries, e ∈ h'.entries

theorem Fewer.refl (h : History) : Fewer h h := fun _ he => he

theorem Fewer.trans {h h' h'' : History} (hab : Fewer h h') (hbc : Fewer h' h'') : Fewer h h'' :=
  fun e he => hbc e (hab e he)

theorem fewer_remove (h : History) (p : String) : Fewer (h.remove p) h :=
  fun _ he => (KeyedStore.mem_remove.mp he).1

/-- What is known of a call, where `h₀` are the records of the start and `h` those of now. -/
inductive Sound (h₀ h : History) : HistoryCall → Prop
  | query (p : String) (answer : Option HistoryAnswer)
      (hanswer : ∀ a, answer = some a → ∃ h', Fewer h h' ∧ Fewer h' h₀ ∧
        a = .results (h'.find [.hubPortPathIs p])) :
      Sound h₀ h (queryCall p answer)
  | delete (e : SessionDevice) (he : e ∈ h₀.entries) (answer : Option HistoryAnswer)
      (hanswer : ∀ a, answer = some a → e ∉ h.entries ∧ ∃ n, a = .count n) :
      Sound h₀ h (deleteCall e answer)
  | list (kind : ListCallback) (e : SessionDevice) (he : e ∈ h₀.entries) (hgone : e ∉ h.entries)
      (answer : Option HistoryAnswer)
      (hanswer : ∀ a, answer = some a → ∃ h', Fewer h h' ∧ Fewer h' h₀ ∧ e ∉ h'.entries ∧
        a = .results (h'.find (kind.query e))) :
      Sound h₀ h (listCall kind e answer)

/-- What is known of a call stays known while records go. -/
theorem Sound.mono {h₀ h h' : History} {c : HistoryCall} (hc : Sound h₀ h c) (hle : Fewer h' h) :
    Sound h₀ h' c := by
  cases hc with
  | query p answer hanswer =>
    refine Sound.query p answer fun a ha => ?_
    obtain ⟨u, hu, hu', hresults⟩ := hanswer a ha
    exact ⟨u, hle.trans hu, hu', hresults⟩
  | delete e he answer hanswer =>
    refine Sound.delete e he answer fun a ha => ?_
    obtain ⟨hgone, hcount⟩ := hanswer a ha
    exact ⟨fun hmem => hgone (hle e hmem), hcount⟩
  | list kind e he hgone answer hanswer =>
    refine Sound.list kind e he (fun hmem => hgone (hle e hmem)) answer fun a ha => ?_
    obtain ⟨u, hu, hu', hmissing, hresults⟩ := hanswer a ha
    exact ⟨u, hle.trans hu, hu', hmissing, hresults⟩

namespace SessionService

/-! ### What the displays are sent -/

/-- The display whose subscribers see an event. -/
def eventDisplay? : SessionEvent → Option Display
  | .autoDevices d | .autoNonStorageDevices d | .autoAttachedAllDevices d => some d
  | .autoStorageDevicesHost | .autoNonStorageDevicesHost => none

/-- The lists of one kind of a display. -/
def kindEvent (storage : Bool) (d : Display) : SessionEvent :=
  if storage then .autoDevices d else .autoNonStorageDevices d

/-- Every list sent to a display has records of that display alone. -/
def OwnRecords (acts : List SessionAct) : Prop :=
  ∀ event payload d, .subscriptionReply event payload ∈ acts → eventDisplay? event = some d →
    ∀ x ∈ payload.devices, x.deviceSetId = d.name

/-- The display of a removed device has been sent a list of the device's kind: the device is
not in it, and every device of this kind that still has a record at the display is. -/
def Updated (s : SessionService) (e : SessionDevice) : Prop :=
  ∀ d : Display, e.deviceSetId = d.name →
    ∃ payload, .subscriptionReply (kindEvent e.isStorage d) payload ∈ s.acts ∧
      (∀ x ∈ payload.devices, x.hubPortPath ≠ e.hubPortPath) ∧
      ∀ x ∈ s.history.entries, x.deviceSetId = e.deviceSetId → x.isStorage = e.isStorage →
        x ∈ payload.devices

/-- A service between removals, whose acts are counted from here on. -/
def idle (s : SessionService) : SessionService := { s with calls := [], acts := [] }

/-- The callback of the call finds the members that it looks at as the removal of the call
left them. -/
def FindsOwn (s : SessionService) (c : HistoryCall) : Prop :=
  match c.callback, c.removed with
  | .cbDeleteResponse, some e =>
    c.answer = some (.count 0) ∨
      (s.m_deviceSetId = e.deviceSetId ∧
        (s.m_deviceType = "USB_STORAGE" ↔ e.deviceType = "USB_STORAGE"))
  | .cbPayloadResponse, some e =>
    s.m_deviceSetId = e.deviceSetId ∧
      (c.answer = some (.results []) →
        (s.m_deviceType = "USB_STORAGE" ↔ e.deviceType = "USB_STORAGE"))
  | .cbAllDeviceSessionResponse, some e =>
    c.answer = some (.results []) ∨ s.m_deviceSetId = e.deviceSetId
  | _, _ => True

instance (s : SessionService) (c : HistoryCall) : Decidable (s.FindsOwn c) := by
  unfold FindsOwn
  split <;> infer_instance

/-- No other removal has overwritten what the step looks at. -/
def Undisturbed (s : SessionService) : RemovalStep → Prop
  | .deliver i => ∀ c ∈ s.calls[i]?, s.FindsOwn c
  | _ => True

instance (s : SessionService) : (i : RemovalStep) → Decidable (s.Undisturbed i)
  | .deliver i => inferInstanceAs (Decidable (∀ c ∈ s.calls[i]?, s.FindsOwn c))
  | .removed _ => inferInstanceAs (Decidable True)
  | .serve _ => inferInstanceAs (Decidable True)

/-! ### Steps -/

section Steps

variable {s u : SessionService} {i : Nat}

theorem step_removed {hubPortPath : String} (hstep : s.step (.removed hubPortPath) = some u) :
    u = s.notifyRemoved hubPortPath := by
  simp only [step] at hstep
  split at hstep
  case isTrue => cases hstep
  case isFalse => exact (Option.some.inj hstep).symm

theorem step_serve (hstep : s.step (.serve i) = some u) :
    ∃ c, s.calls[i]? = some c ∧ c.answer = none ∧
      u.calls = s.calls.set i { c with answer := some (s.execute c.request).2 } ∧
      u.history = (s.execute c.request).1.history ∧ u.acts = s.acts := by
  unfold step at hstep
  cases hc : s.calls[i]? with
  | none => simp [hc] at hstep
  | some c =>
    simp only [hc] at hstep
    split at hstep
    case isTrue hnone =>
      refine ⟨c, rfl, hnone, ?_⟩
      rw [← Option.some.inj hstep]
      cases c.request <;> exact ⟨rfl, rfl, rfl⟩
    case isFalse => cases hstep

theorem step_deliver (hstep : s.step (.deliver i) = some u) :
    ∃ c a, s.calls[i]? = some c ∧ c.answer = some a ∧
      u = ({ s with calls := s.calls.eraseIdx i } : SessionService).callback c a := by
  unfold step at hstep
  cases hc : s.calls[i]? with
  | none => simp [hc] at hstep
  | some c =>
    simp only [hc, Option.map_eq_some_iff] at hstep
    obtain ⟨a, ha, hu⟩ := hstep
    exact ⟨c, a, rfl, ha, hu.symm⟩

end Steps

/-! ### Nothing overlaps -/

/-- db8 serves the oldest call and its answer is delivered. -/
def answerOldest : List RemovalStep := [.serve 0, .deliver 0]

/-- The oldest call is answered. -/
theorem run_answerOldest (s : SessionService) (c : HistoryCall) (rest : List HistoryCall)
    (hcalls : s.calls = c :: rest) (hnone : c.answer = none) :
    Schedules.run step s answerOldest =
      some (({ (s.execute c.request).1 with calls := rest } : SessionService).callback c
        (s.execute c.request).2) := by
  have hsame : (s.execute c.request).1.calls = s.calls := by cases c.request <;> rfl
  have hserve : s.step (.serve 0) = some { (s.execute c.request).1 with
      calls := { c with answer := some (s.execute c.request).2 } :: rest } := by
    simp [step, hsame, hcalls, hnone]
  have hdeliver : ∀ t : SessionService, ∀ a,
      ({ t with calls := { c with answer := some a } :: rest } : SessionService).step (.deliver 0) =
        some (({ t with calls := rest } : SessionService).callback c a) := by
    intro t a
    cases a <;> rfl
  unfold answerOldest
  rw [Schedules.run_cons, hserve, Option.bind_some, Schedules.run_cons, hdeliver, Option.bind_some,
    Schedules.run_nil]

/-- A whole removal is a schedule in which nothing overlaps. -/
theorem removal_is_run {s : SessionService} (hcalls : s.calls = []) {p : String} (hp : p ≠ "") :
    ∃ steps, Schedules.run step s (.removed p :: steps) = some (s.removal p) := by
  have hstep : s.step (.removed p) = some (s.notifyRemoved p) := if_neg hp
  have hquery : (s.notifyRemoved p).calls = [queryCall p none] := by
    show s.calls ++ _ = _
    rw [hcalls]
    rfl
  have hfirst := run_answerOldest _ _ _ hquery rfl
  have hrest : ({ ((s.notifyRemoved p).execute (queryCall p none).request).1 with calls := [] } :
      SessionService) = s.removeHubPortPathFromMap p := by
    rw [← hcalls]
    rfl
  rw [hrest] at hfirst
  cases hfind : s.history.find [.hubPortPathIs p] with
  | nil =>
    refine ⟨answerOldest, ?_⟩
    rw [Schedules.run_cons, hstep, Option.bind_some]
    refine hfirst.trans ?_
    show some ((s.removeHubPortPathFromMap p).cbQueryResponse (s.history.find [.hubPortPathIs p])) = _
    rw [removal_eq s hp, hfind]
    rfl
  | cons d rest =>
    have hpath : d.hubPortPath = p := by
      have hd : d ∈ s.history.find [.hubPortPathIs p] := by rw [hfind]; simp
      simpa [HistoryClause.holds] using (mem_find.mp hd).2
    have hsecond : Schedules.run step (s.notifyRemoved p) answerOldest =
        some ((s.removeHubPortPathFromMap p).deleteAndUpdatePayload d) := by
      refine hfirst.trans ?_
      show some ((s.removeHubPortPathFromMap p).cbQueryResponse (s.history.find [.hubPortPathIs p])) = _
      rw [hfind]
      rfl
    have hdelete : ((s.removeHubPortPathFromMap p).deleteAndUpdatePayload d).calls =
        [deleteCall d none] := by
      show s.calls ++ _ = _
      rw [hcalls]
      rfl
    have hthird := run_answerOldest _ _ _ hdelete rfl
    have hcount : (s.history.find [.hubPortPathIs d.hubPortPath]).length ≠ 0 := by
      rw [hpath, hfind]
      simp
    have hfourth : Schedules.run step ((s.removeHubPortPathFromMap p).deleteAndUpdatePayload d)
        answerOldest = some (((s.removeHubPortPathFromMap p).removalDeleted d).updatePayload (some d)
          d.deviceSetId d.deviceType) := by
      refine hthird.trans ?_
      show some (cbDeleteResponse _ (some d)
        (s.history.find [.hubPortPathIs d.hubPortPath]).length) = _
      unfold cbDeleteResponse
      rw [if_neg hcount]
      simp [removalDeleted, deleteAndUpdatePayload, SessionDevice.isStorage, execute, act, call,
        deleteCall, removeHubPortPathFromMap, hcalls]
    have hlists : (((s.removeHubPortPathFromMap p).removalDeleted d).updatePayload (some d)
        d.deviceSetId d.deviceType).calls =
        [listCall .payload d none, listCall .hostPayload d none, listCall .allDeviceSession d none] := by
      show ((s.calls ++ _) ++ _) ++ _ = _
      rw [hcalls]
      rfl
    have hpayload := run_answerOldest _ _ _ hlists rfl
    refine ⟨(List.replicate 5 answerOldest).flatten, ?_⟩
    rw [Schedules.run_cons, hstep, Option.bind_some]
    show Schedules.run step (s.notifyRemoved p)
      (answerOldest ++ (answerOldest ++ (answerOldest ++ (answerOldest ++ (answerOldest ++ []))))) = _
    rw [Schedules.run_append, hsecond, Option.bind_some, Schedules.run_append, hfourth,
      Option.bind_some, Schedules.run_append, hpayload, Option.bind_some, Schedules.run_append,
      run_answerOldest _ (listCall .hostPayload d none) [listCall .allDeviceSession d none] rfl rfl,
      Option.bind_some, Schedules.run_append,
      run_answerOldest _ (listCall .allDeviceSession d none) [] rfl rfl,
      Option.bind_some, Schedules.run_nil, removal_eq s hp, hfind]
    show some _ = some _
    congr 1
    rw [← hcalls]
    rfl

/-! ### What is on its way -/

theorem Updated.mono {s t : SessionService} {e : SessionDevice} (h : s.Updated e)
    (hacts : ∀ a ∈ s.acts, a ∈ t.acts) (hle : Fewer t.history s.history) : t.Updated e := by
  intro d hd
  obtain ⟨payload, hpayload, hmissing, hrest⟩ := h d hd
  exact ⟨payload, hacts _ hpayload, hmissing, fun x hx => hrest x (hle x hx)⟩

theorem OwnRecords.append {acts more : List SessionAct} (h : OwnRecords acts)
    (h' : OwnRecords more) : OwnRecords (acts ++ more) := by
  intro event payload d hmem
  rcases List.mem_append.mp hmem with hmem | hmem
  · exact h event payload d hmem
  · exact h' event payload d hmem

/-- The record of `e` is looked at, or `e` is being deleted. -/
def Looked (calls : List HistoryCall) (e : SessionDevice) : Prop :=
  (∃ answer, queryCall e.hubPortPath answer ∈ calls) ∨ deleteCall e none ∈ calls

/-- `e` is deleted, what is left at its display is looked at, or the list is sent. -/
def Leaving (s : SessionService) (e : SessionDevice) : Prop :=
  (∃ n, n ≠ 0 ∧ deleteCall e (some (.count n)) ∈ s.calls) ∨
    (∃ answer, listCall .payload e answer ∈ s.calls) ∨ s.Updated e

/-- Where the removals of a schedule stand: `recorded` of devices that have a record and
whose removal was asked for, `gone` of those that have none any more. -/
structure Pending (h₀ : History) (steps : List RemovalStep) (t : SessionService) : Prop where
  fewer : Fewer t.history h₀
  sound : ∀ c ∈ t.calls, Sound h₀ t.history c
  recorded : ∀ e ∈ t.history.entries, .removed e.hubPortPath ∈ steps → Looked t.calls e
  gone : ∀ e ∈ h₀.entries, e ∉ t.history.entries → t.Leaving e
  own : OwnRecords t.acts

section Pending

variable {h₀ : History} {steps : List RemovalStep} {t u : SessionService} {i : Nat}
  {c : HistoryCall} {e : SessionDevice}

theorem idle_pending (s : SessionService) : Pending s.history [] s.idle where
  fewer := Fewer.refl _
  sound := by rintro c ⟨⟩
  recorded := by rintro e - ⟨⟩
  gone := fun e he hgone => absurd he hgone
  own := by rintro event payload d ⟨⟩

theorem Looked.keep {calls calls' : List HistoryCall} (h : Looked calls e)
    (hkeep : ∀ y ∈ calls, y ≠ c → y ∈ calls')
    (hc : (∃ answer, c = queryCall e.hubPortPath answer) ∨ c = deleteCall e none → Looked calls' e) :
    Looked calls' e := by
  rcases h with ⟨answer, hcall⟩ | hcall
  · by_cases heq : queryCall e.hubPortPath answer = c
    · exact hc (Or.inl ⟨answer, heq.symm⟩)
    · exact Or.inl ⟨answer, hkeep _ hcall heq⟩
  · by_cases heq : deleteCall e none = c
    · exact hc (Or.inr heq.symm)
    · exact Or.inr (hkeep _ hcall heq)

theorem Leaving.keep (h : t.Leaving e) (hkeep : ∀ y ∈ t.calls, y ≠ c → y ∈ u.calls)
    (hacts : ∀ a ∈ t.acts, a ∈ u.acts) (hle : Fewer u.history t.history)
    (hc : (∃ n, n ≠ 0 ∧ c = deleteCall e (some (.count n))) ∨
      (∃ answer, c = listCall .payload e answer) → u.Leaving e) : u.Leaving e := by
  rcases h with ⟨n, hn, hcall⟩ | ⟨answer, hcall⟩ | hupdated
  · by_cases heq : deleteCall e (some (.count n)) = c
    · exact hc (Or.inl ⟨n, hn, heq.symm⟩)
    · exact Or.inl ⟨n, hn, hkeep _ hcall heq⟩
  · by_cases heq : listCall .payload e answer = c
    · exact hc (Or.inr ⟨answer, heq.symm⟩)
    · exact Or.inr (Or.inl ⟨answer, hkeep _ hcall heq⟩)
  · exact Or.inr (Or.inr (hupdated.mono hacts hle))

/-- A removal is asked for. -/
theorem Pending.removed (h : Pending h₀ steps t) (p : String) :
    Pending h₀ (steps ++ [.removed p]) (t.notifyRemoved p) where
  fewer := h.fewer
  sound := by
    intro c hc
    rcases List.mem_append.mp hc with hc | hc
    · exact h.sound c hc
    · rw [List.mem_singleton.mp hc]
      exact Sound.query p none (by simp)
  recorded := by
    intro e he hasked
    have hnew : queryCall p none ∈ (t.notifyRemoved p).calls :=
      List.mem_append.mpr (Or.inr (List.mem_singleton.mpr rfl))
    by_cases hp : e.hubPortPath = p
    · exact Or.inl ⟨none, by rwa [hp]⟩
    · have hbefore : .removed e.hubPortPath ∈ steps := by
        rcases List.mem_append.mp hasked with hasked | hasked
        · exact hasked
        · simp [hp] at hasked
      have hkeep : ∀ y ∈ t.calls, y ≠ queryCall p none → y ∈ (t.notifyRemoved p).calls :=
        fun y hy _ => List.mem_append.mpr (Or.inl hy)
      refine (h.recorded e he hbefore).keep hkeep ?_
      rintro (⟨answer, heq⟩ | heq)
      · exact Or.inl ⟨answer, heq ▸ hnew⟩
      · exact Or.inr (heq ▸ hnew)
  gone := by
    intro e he hgone
    have hnew : queryCall p none ∈ (t.notifyRemoved p).calls :=
      List.mem_append.mpr (Or.inr (List.mem_singleton.mpr rfl))
    refine (h.gone e he hgone).keep (c := queryCall p none)
      (fun y hy _ => List.mem_append.mpr (Or.inl hy)) (fun a ha => ha) (Fewer.refl _) ?_
    rintro (⟨n, hn, heq⟩ | ⟨answer, heq⟩)
    · exact Or.inl ⟨n, hn, heq ▸ hnew⟩
    · exact Or.inr (Or.inl ⟨answer, heq ▸ hnew⟩)
  own := h.own

/-- The record under a path of a known device is the device itself. -/
theorem find_path {h : History} {e : SessionDevice} (he : e ∈ h.entries) :
    h.find [.hubPortPathIs e.hubPortPath] = [e] := by
  have hfilter := KeyedStore.filter_key he
  unfold History.find
  rw [← hfilter]
  refine List.filter_congr fun x _ => ?_
  simp [HistoryClause.holds]

/-- db8 answers a call: what was on its way for other devices stays on its way. -/
theorem Pending.serve_of (h : Pending h₀ steps t) {c' : HistoryCall} (hc : t.calls[i]? = some c)
    (hcalls : u.calls = t.calls.set i c') (hacts : u.acts = t.acts)
    (hle : Fewer u.history t.history) (hserved : Sound h₀ u.history c')
    (hlooked : ∀ e ∈ u.history.entries,
      (∃ answer, c = queryCall e.hubPortPath answer) ∨ c = deleteCall e none → Looked u.calls e)
    (hleaving : ∀ e ∈ h₀.entries, e ∉ u.history.entries →
      e ∈ t.history.entries ∨ (∃ n, n ≠ 0 ∧ c = deleteCall e (some (.count n))) ∨
        (∃ answer, c = listCall .payload e answer) → u.Leaving e) :
    Pending h₀ (steps ++ [.serve i]) u := by
  have hkeep : ∀ y ∈ t.calls, y ≠ c → y ∈ u.calls := by
    intro y hy hne
    rw [hcalls]
    exact mem_set_of_ne hc hy hne
  have hacts' : ∀ a ∈ t.acts, a ∈ u.acts := by
    intro a ha
    rwa [hacts]
  refine ⟨hle.trans h.fewer, ?_, ?_, ?_, ?_⟩
  · intro y hy
    rw [hcalls] at hy
    rcases List.mem_or_eq_of_mem_set hy with hy | rfl
    · exact (h.sound y hy).mono hle
    · exact hserved
  · intro e he hp
    have hbefore : .removed e.hubPortPath ∈ steps := by simpa using hp
    exact (h.recorded e (hle e he) hbefore).keep hkeep (hlooked e he)
  · intro e he hgone
    by_cases hold : e ∈ t.history.entries
    · exact hleaving e he hgone (Or.inl hold)
    · refine (h.gone e he hold).keep hkeep hacts' hle fun hown => ?_
      exact hleaving e he hgone (Or.inr hown)
  · rw [hacts]
    exact h.own

/-- db8 serves a call: a look tells of the records of now, and a deletion takes one out. -/
theorem Pending.serve (h : Pending h₀ steps t) (hstep : t.step (.serve i) = some u) :
    Pending h₀ (steps ++ [.serve i]) u := by
  obtain ⟨c, hc, hnone, hcalls, hhistory, hacts⟩ := step_serve hstep
  have hnew : { c with answer := some (t.execute c.request).2 } ∈ u.calls := by
    rw [hcalls]
    exact mem_set_self hc
  have hle : Fewer u.history t.history := by
    rw [hhistory]
    cases c.request with
    | find query => exact Fewer.refl _
    | del p => exact fewer_remove _ _
  cases h.sound c (List.mem_of_getElem? hc) with
  | query p answer hanswer =>
    obtain rfl : answer = none := hnone
    have hsame : u.history = t.history := hhistory
    have hserved : queryCall p (some (.results (t.history.find [.hubPortPathIs p]))) ∈ u.calls := hnew
    refine h.serve_of hc hcalls hacts hle ?_ ?_ ?_
    · refine Sound.query p _ fun a ha => ⟨t.history, hle, h.fewer, ?_⟩
      exact (Option.some.inj ha).symm
    · rintro e - (⟨answer, heq⟩ | heq)
      · exact Or.inl ⟨_, (queryCall_inj heq).1 ▸ hserved⟩
      · exact absurd heq query_ne_delete
    · rintro e - hgone (hold | ⟨n, -, heq⟩ | ⟨answer, heq⟩)
      · rw [hsame] at hgone
        exact absurd hold hgone
      · exact absurd heq query_ne_delete
      · exact absurd heq query_ne_list
  | delete e' he' answer hanswer =>
    obtain rfl : answer = none := hnone
    have htaken : u.history = t.history.remove e'.hubPortPath := hhistory
    have hserved : deleteCall e' (some (.count
        (t.history.find [.hubPortPathIs e'.hubPortPath]).length)) ∈ u.calls := hnew
    have hmissing : e' ∉ u.history.entries := by
      rw [htaken]
      exact fun hmem => (KeyedStore.mem_remove.mp hmem).2 rfl
    refine h.serve_of hc hcalls hacts hle ?_ ?_ ?_
    · exact Sound.delete e' he' _ fun a ha => ⟨hmissing, _, (Option.some.inj ha).symm⟩
    · rintro e he (⟨answer, heq⟩ | heq)
      · exact absurd heq.symm query_ne_delete
      · rw [(deleteCall_inj heq).1] at hmissing
        exact absurd he hmissing
    · rintro e he hgone (hold | ⟨n, -, heq⟩ | ⟨answer, heq⟩)
      · have hpath : e.hubPortPath = e'.hubPortPath := by
          by_contra hne
          rw [htaken] at hgone
          exact hgone (KeyedStore.mem_remove.mpr ⟨hold, hne⟩)
        obtain rfl : e = e' := h₀.eq_of_key he he' hpath
        rw [find_path hold] at hserved
        exact Or.inl ⟨1, by decide, hserved⟩
      · cases (deleteCall_inj heq).2
      · exact absurd heq delete_ne_list
  | list kind e' he' hgone' answer hanswer =>
    obtain rfl : answer = none := hnone
    have hsame : u.history = t.history := hhistory
    have hserved : listCall kind e' (some (.results (t.history.find (kind.query e')))) ∈ u.calls :=
      hnew
    refine h.serve_of hc hcalls hacts hle ?_ ?_ ?_
    · refine Sound.list kind e' he' (by rwa [hsame]) _ fun a ha => ?_
      exact ⟨t.history, hle, h.fewer, hgone', (Option.some.inj ha).symm⟩
    · rintro e - (⟨answer, heq⟩ | heq)
      · exact absurd heq.symm query_ne_list
      · exact absurd heq.symm delete_ne_list
    · rintro e - hgone (hold | ⟨n, -, heq⟩ | ⟨answer, heq⟩)
      · rw [hsame] at hgone
        exact absurd hold hgone
      · exact absurd heq.symm delete_ne_list
      · obtain ⟨rfl, rfl, -⟩ := listCall_inj heq
        exact Or.inr (Or.inl ⟨_, hserved⟩)

/-! ### Lists that are sent -/

theorem holds_typeClause {x : SessionDevice} :
    (typeClause e.deviceType).holds x = true ↔ x.isStorage = e.isStorage := by
  unfold typeClause SessionDevice.isStorage
  by_cases he : e.deviceType = "USB_STORAGE" <;> by_cases hx : x.deviceType = "USB_STORAGE" <;>
    simp [he, hx, HistoryClause.holds]

theorem typeClause_congr {deviceType : String}
    (h : deviceType = "USB_STORAGE" ↔ e.deviceType = "USB_STORAGE") :
    typeClause deviceType = typeClause e.deviceType := by
  unfold typeClause
  simp only [h]

theorem mem_kindPayload {storage : Bool} {devices : List SessionDevice} {x : SessionDevice} :
    x ∈ (kindPayload storage devices).devices ↔ x ∈ devices ∧ x.isStorage = storage := by
  unfold kindPayload SessionPayload.devices
  cases storage <;> simp

theorem own_of_notifyToDisplay {payload : SessionPayload} {deviceSetId deviceType : String}
    (h : ∀ d : Display, deviceSetId = d.name → ∀ x ∈ payload.devices, x.deviceSetId = d.name) :
    OwnRecords (notifyToDisplay payload deviceSetId deviceType) := by
  intro event payload' d hmem hevent
  obtain ⟨event', heq, hcase⟩ := mem_notifyToDisplay hmem
  cases heq
  rcases hcase with ⟨d', hd', rfl | rfl⟩ | rfl | rfl
  · cases hevent
    exact h _ hd'.symm
  · cases hevent
    exact h _ hd'.symm
  · cases hevent
  · cases hevent

theorem own_of_notifyAll {payload : SessionPayload} {deviceSetId : String}
    (h : ∀ d : Display, deviceSetId = d.name → ∀ x ∈ payload.devices, x.deviceSetId = d.name) :
    OwnRecords (notifyAllDeviceToDisplay deviceSetId payload) := by
  intro event payload' d hmem hevent
  obtain ⟨d', hd', heq⟩ := List.mem_map.mp hmem
  cases heq
  cases hevent
  exact h _ (of_decide_eq_true (List.mem_filter.mp hd').2).symm

/-- Acts that send no list. -/
theorem own_of_no_reply {acts : List SessionAct}
    (h : ∀ a ∈ acts, ∀ event payload, a ≠ .subscriptionReply event payload) : OwnRecords acts :=
  fun event payload _ hmem => absurd rfl (h _ hmem event payload)

theorem reply_mem (storage : Bool) (payload : SessionPayload) (d : Display) :
    .subscriptionReply (kindEvent storage d) payload ∈
      notifyToDisplay payload d.name (kindName storage) := by
  have hd : d ∈ displays.filter (·.name = d.name) := List.mem_filter.mpr ⟨display_mem d, by simp⟩
  unfold notifyToDisplay
  cases storage
  · rw [if_neg (by decide)]
    exact List.mem_append.mpr (Or.inl (List.mem_map_of_mem hd))
  · rw [if_pos (by decide)]
    exact List.mem_append.mpr (Or.inl (List.mem_map_of_mem hd))

/-! ### The callbacks -/

/-- An answer is delivered: what its callback adds to the calls and the acts takes the device
of the call one step further. -/
theorem Pending.deliver_of (h : Pending h₀ steps t) (new : List HistoryCall)
    (acts : List SessionAct) (hc : t.calls[i]? = some c) (hanswered : c.answer ≠ none)
    (hhistory : u.history = t.history) (hcalls : u.calls = t.calls.eraseIdx i ++ new)
    (hacts : u.acts = t.acts ++ acts) (hsound : ∀ y ∈ new, Sound h₀ t.history y)
    (hown : OwnRecords acts)
    (hrecorded : ∀ e ∈ t.history.entries, ∀ answer, c = queryCall e.hubPortPath answer →
      deleteCall e none ∈ new)
    (hgone : ∀ e ∈ h₀.entries, e ∉ t.history.entries →
      (∃ n, n ≠ 0 ∧ c = deleteCall e (some (.count n))) ∨
        (∃ answer, c = listCall .payload e answer) → u.Leaving e) :
    Pending h₀ (steps ++ [.deliver i]) u := by
  have hkeep : ∀ y ∈ t.calls, y ≠ c → y ∈ u.calls := by
    intro y hy hne
    rw [hcalls]
    exact List.mem_append.mpr (Or.inl (mem_eraseIdx_of_ne hc hy hne))
  have hle : Fewer u.history t.history := by rw [hhistory]; exact Fewer.refl _
  refine ⟨hle.trans h.fewer, ?_, ?_, ?_, ?_⟩
  · intro y hy
    rw [hcalls] at hy
    rw [hhistory]
    rcases List.mem_append.mp hy with hy | hy
    · exact h.sound y (List.mem_of_mem_eraseIdx hy)
    · exact hsound y hy
  · intro e he hp
    rw [hhistory] at he
    refine (h.recorded e he (by simpa using hp)).keep hkeep ?_
    rintro (⟨answer, heq⟩ | heq)
    · rw [hcalls]
      exact Or.inr (List.mem_append.mpr (Or.inr (hrecorded e he answer heq)))
    · rw [heq] at hanswered
      exact absurd rfl hanswered
  · intro e he hmissing
    rw [hhistory] at hmissing
    have hacts' : ∀ a ∈ t.acts, a ∈ u.acts := by
      intro a ha
      rw [hacts]
      exact List.mem_append.mpr (Or.inl ha)
    exact (h.gone e he hmissing).keep hkeep hacts' hle (hgone e he hmissing)
  · rw [hacts]
    exact h.own.append hown

/-- `cbQueryResponse` -/
theorem Pending.deliver_query (h : Pending h₀ steps t) {p : String} {h' : History}
    (hc : t.calls[i]? = some (queryCall p (some (.results (h'.find [.hubPortPathIs p])))))
    (hle : Fewer t.history h') (hle' : Fewer h' h₀) :
    Pending h₀ (steps ++ [.deliver i])
      (({ t with calls := t.calls.eraseIdx i } : SessionService).cbQueryResponse
        (h'.find [.hubPortPathIs p])) := by
  have hfound : ∀ e ∈ t.history.entries, e.hubPortPath = p → h'.find [.hubPortPathIs p] = [e] := by
    rintro e he rfl
    exact find_path (hle e he)
  cases hresults : h'.find [.hubPortPathIs p] with
  | nil =>
    refine h.deliver_of [] [] hc (by simp [queryCall]) rfl (by simp [cbQueryResponse])
      (by simp [cbQueryResponse]) (by simp) (own_of_no_reply (by simp)) ?_ ?_
    · intro e he answer heq
      have := hfound e he (queryCall_inj heq).1.symm
      rw [hresults] at this
      cases this
    · rintro e - - (⟨n, -, heq⟩ | ⟨answer, heq⟩)
      · exact absurd heq query_ne_delete
      · exact absurd heq query_ne_list
  | cons d rest =>
    have hd : d ∈ h'.find [.hubPortPathIs p] := by rw [hresults]; simp
    have hd₀ := hle' d (mem_find.mp hd).1
    refine h.deliver_of [deleteCall d none] (umountRemoved d ++ [.displayDisconnectedToast d.hubPortPath
        (if d.deviceType = "USB_STORAGE" then "Storage" else d.deviceType) d.deviceSetId]) hc
      (by simp [queryCall]) rfl rfl ?_ ?_ ?_ ?_ ?_
    · exact List.append_assoc _ _ _
    · intro y hy
      rw [List.mem_singleton.mp hy]
      exact Sound.delete d hd₀ none (by simp)
    · refine own_of_no_reply fun a ha event payload => ?_
      rcases List.mem_append.mp ha with ha | ha
      · unfold umountRemoved at ha
        split at ha
        · obtain ⟨drive, -, rfl⟩ := List.mem_map.mp ha
          simp
        · cases ha
      · rw [List.mem_singleton.mp ha]
        simp
    · intro e he answer heq
      have hsingle := hfound e he (queryCall_inj heq).1.symm
      rw [hresults] at hsingle
      rw [(List.cons.inj hsingle).1]
      simp
    · rintro e - - (⟨n, -, heq⟩ | ⟨answer, heq⟩)
      · exact absurd heq query_ne_delete
      · exact absurd heq query_ne_list

/-- `cbDeleteResponse` -/
theorem Pending.deliver_delete (h : Pending h₀ steps t) {e' : SessionDevice} {n : Nat}
    (hc : t.calls[i]? = some (deleteCall e' (some (.count n)))) (he' : e' ∈ h₀.entries)
    (hmissing : e' ∉ t.history.entries) (hown : t.FindsOwn (deleteCall e' (some (.count n)))) :
    Pending h₀ (steps ++ [.deliver i])
      (({ t with calls := t.calls.eraseIdx i } : SessionService).cbDeleteResponse (some e') n) := by
  have hquery : ∀ e ∈ t.history.entries, ∀ answer,
      deleteCall e' (some (.count n)) = queryCall e.hubPortPath answer →
        ∀ new : List HistoryCall, deleteCall e none ∈ new :=
    fun e _ answer heq => absurd heq.symm query_ne_delete
  unfold cbDeleteResponse
  by_cases hn : n = 0
  · rw [if_pos hn]
    refine h.deliver_of [] [] hc (by simp [deleteCall]) rfl (by simp) (by simp)
      (by simp) (own_of_no_reply (by simp)) (fun e he answer heq => hquery e he answer heq _) ?_
    rintro e - - (⟨m, hm, heq⟩ | ⟨answer, heq⟩)
    · have hcount := (deleteCall_inj heq).2
      rw [hn] at hcount
      cases hcount
      exact absurd rfl hm
    · exact absurd heq delete_ne_list
  · rw [if_neg hn]
    obtain ⟨hset, hkind⟩ : t.m_deviceSetId = e'.deviceSetId ∧
        (t.m_deviceType = "USB_STORAGE" ↔ e'.deviceType = "USB_STORAGE") := by
      rcases hown with hzero | hfinds
      · cases hzero
        exact absurd rfl hn
      · exact hfinds
    have hcalls : (({ t with calls := t.calls.eraseIdx i } : SessionService).updatePayload (some e')
        t.m_deviceSetId t.m_deviceType).calls = t.calls.eraseIdx i ++
          [listCall .payload e' none, listCall .hostPayload e' none,
            listCall .allDeviceSession e' none] := by
      rw [hset]
      simp [updatePayload, updateHostPayload, updateAllDeviceSessionPayload, call, listCall,
        ListCallback.callback, ListCallback.query, typeClause_congr hkind]
    refine h.deliver_of _ [] hc (by simp [deleteCall]) rfl hcalls ?_ ?_
      (own_of_no_reply (by simp)) (fun e he answer heq => hquery e he answer heq _) ?_
    · simp [updatePayload, updateHostPayload, updateAllDeviceSessionPayload, call]
    · intro y hy
      have hkinds : ∃ kind, y = listCall kind e' none := by
        simp only [List.mem_cons, List.not_mem_nil, or_false] at hy
        rcases hy with rfl | rfl | rfl
        · exact ⟨_, rfl⟩
        · exact ⟨_, rfl⟩
        · exact ⟨_, rfl⟩
      obtain ⟨kind, rfl⟩ := hkinds
      exact Sound.list kind e' he' hmissing none (by simp)
    · rintro e - - (⟨m, -, heq⟩ | ⟨answer, heq⟩)
      · obtain ⟨rfl, -⟩ := deleteCall_inj heq
        refine Or.inr (Or.inl ⟨none, ?_⟩)
        rw [hcalls]
        simp
      · exact absurd heq delete_ne_list

/-- The records of a list that is answered. -/
theorem mem_payloadQuery {h' : History} {e' x : SessionDevice} :
    x ∈ h'.find (ListCallback.query e' .payload) ↔
      x ∈ h'.entries ∧ x.deviceSetId = e'.deviceSetId ∧ x.isStorage = e'.isStorage := by
  have hset : (HistoryClause.deviceSetIdIs e'.deviceSetId).holds x = true ↔
      x.deviceSetId = e'.deviceSetId := by simp [HistoryClause.holds]
  unfold ListCallback.query
  rw [mem_find, List.forall_mem_cons, List.forall_mem_singleton, holds_typeClause, hset]

/-- The kind of the answer is that of the removed device. -/
theorem payloadKind_own {h' : History} {e' : SessionDevice}
    (hown : t.FindsOwn (listCall .payload e'
      (some (.results (h'.find (ListCallback.query e' .payload)))))) :
    t.payloadKind (h'.find (ListCallback.query e' .payload)) = e'.isStorage := by
  unfold payloadKind
  cases hresults : h'.find (ListCallback.query e' .payload) with
  | nil =>
    have hkind := hown.2 (by simp [listCall, hresults])
    unfold SessionDevice.isStorage
    simp only [hkind]
  | cons x rest =>
    have hx : x ∈ h'.find (ListCallback.query e' .payload) := by rw [hresults]; simp
    exact (mem_payloadQuery.mp hx).2.2

/-- `cbPayloadResponse` -/
theorem Pending.deliver_payload (h : Pending h₀ steps t) {e' : SessionDevice} {h' : History}
    (hc : t.calls[i]? = some (listCall .payload e'
      (some (.results (h'.find (ListCallback.query e' .payload))))))
    (he' : e' ∈ h₀.entries) (hle : Fewer t.history h') (hle' : Fewer h' h₀)
    (hmissing : e' ∉ h'.entries)
    (hown : t.FindsOwn (listCall .payload e'
      (some (.results (h'.find (ListCallback.query e' .payload)))))) :
    Pending h₀ (steps ++ [.deliver i])
      (({ t with calls := t.calls.eraseIdx i } : SessionService).cbPayloadResponse
        (h'.find (ListCallback.query e' .payload))) := by
  have hset : t.m_deviceSetId = e'.deviceSetId := hown.1
  have hkind := payloadKind_own hown
  have hacts : (({ t with calls := t.calls.eraseIdx i } : SessionService).cbPayloadResponse
      (h'.find (ListCallback.query e' .payload))).acts = t.acts ++
        notifyToDisplay (kindPayload e'.isStorage (h'.find (ListCallback.query e' .payload)))
          e'.deviceSetId (kindName e'.isStorage) := by
    rw [← hkind, ← hset]
    rfl
  refine h.deliver_of [] _ hc (by simp [listCall]) rfl (by simp [cbPayloadResponse, act]) hacts
    (by simp) ?_ (fun e _ answer heq => absurd heq.symm query_ne_list) ?_
  · refine own_of_notifyToDisplay fun d hd x hx => ?_
    rw [← hd]
    exact (mem_payloadQuery.mp (mem_kindPayload.mp hx).1).2.1
  · rintro e - - (⟨n, -, heq⟩ | ⟨answer, heq⟩)
    · exact absurd heq.symm delete_ne_list
    · obtain ⟨-, rfl, -⟩ := listCall_inj heq
      refine Or.inr (Or.inr fun d hd => ?_)
      refine ⟨kindPayload e'.isStorage (h'.find (ListCallback.query e' .payload)), ?_, ?_, ?_⟩
      · rw [hacts, hd]
        exact List.mem_append.mpr (Or.inr (reply_mem _ _ d))
      · intro x hx hpath
        have hmem := (mem_payloadQuery.mp (mem_kindPayload.mp hx).1).1
        rw [h₀.eq_of_key (hle' x hmem) he' hpath] at hmem
        exact hmissing hmem
      · intro x hx hsame hstorage
        exact mem_kindPayload.mpr ⟨mem_payloadQuery.mpr ⟨hle x hx, hsame, hstorage⟩, hstorage⟩

/-- The other two lists are none of the removed device's kind, but have their own records. -/
theorem Pending.deliver_other (h : Pending h₀ steps t) {e' : SessionDevice} {kind : ListCallback}
    {answer : Option HistoryAnswer} {acts : List SessionAct} (hkind : kind ≠ .payload)
    (hc : t.calls[i]? = some (listCall kind e' answer)) (hanswered : answer ≠ none)
    (hown : OwnRecords acts) :
    Pending h₀ (steps ++ [.deliver i])
      (({ t with calls := t.calls.eraseIdx i } : SessionService).act acts) := by
  refine h.deliver_of [] acts hc hanswered rfl (by simp [act]) rfl (by simp) hown
    (fun e _ answer heq => absurd heq.symm query_ne_list) ?_
  rintro e - - (⟨n, -, heq⟩ | ⟨answer', heq⟩)
  · exact absurd heq.symm delete_ne_list
  · exact absurd (listCall_inj heq).1 hkind

/-- The step lemma of a delivery: one case for each callback. -/
theorem Pending.deliver (h : Pending h₀ steps t) (hundisturbed : t.Undisturbed (.deliver i))
    (hstep : t.step (.deliver i) = some u) : Pending h₀ (steps ++ [.deliver i]) u := by
  obtain ⟨c, a, hc, ha, rfl⟩ := step_deliver hstep
  have hfinds : t.FindsOwn c := hundisturbed c hc
  cases h.sound c (List.mem_of_getElem? hc) with
  | query p answer hanswer =>
    obtain rfl : answer = some a := ha
    obtain ⟨h', hle, hle', rfl⟩ := hanswer a rfl
    exact h.deliver_query hc hle hle'
  | delete e' he' answer hanswer =>
    obtain rfl : answer = some a := ha
    obtain ⟨hmissing, n, rfl⟩ := hanswer a rfl
    exact h.deliver_delete hc he' hmissing hfinds
  | list kind e' he' hgone answer hanswer =>
    obtain rfl : answer = some a := ha
    obtain ⟨h', hle, hle', hmissing, rfl⟩ := hanswer a rfl
    cases kind with
    | payload => exact h.deliver_payload hc he' hle hle' hmissing hfinds
    | hostPayload =>
      refine h.deliver_other (by decide) hc (by simp) (own_of_notifyToDisplay fun d hd => ?_)
      exact absurd hd (by cases d <;> decide)
    | allDeviceSession =>
      refine h.deliver_other (by decide) hc (by simp) (own_of_notifyAll fun d hd x hx => ?_)
      have hset : t.m_deviceSetId = e'.deviceSetId := by
        rcases hfinds with hempty | hset
        · have hnil : h'.find (ListCallback.query e' .allDeviceSession) = [] := by
            simpa [listCall] using hempty
          rw [mem_allDevicePayload, hnil] at hx
          cases hx
        · exact hset
      have hx' := (mem_find.mp (mem_allDevicePayload.mp hx)).2 _ (List.mem_singleton.mpr rfl)
      have hdisplay : t.m_deviceSetId = d.name := hd
      rw [← hdisplay, hset]
      exact of_decide_eq_true hx'

theorem step_pending (h : Pending h₀ steps t) {step' : RemovalStep} (hundisturbed : t.Undisturbed step')
    (hstep : t.step step' = some u) : Pending h₀ (steps ++ [step']) u := by
  cases step' with
  | removed p =>
    rw [step_removed hstep]
    exact h.removed p
  | serve i => exact h.serve hstep
  | deliver i => exact h.deliver hundisturbed hstep

/-- The run lemma. -/
theorem run_pending {s : SessionService} (hrun : Schedules.run step s.idle steps = some t)
    (hall : Schedules.StepsAll step Undisturbed s.idle steps) : Pending s.history steps t :=
  Schedules.run_history_of (idle_pending s) (fun _ _ _ _ h hq hstep => step_pending h hq hstep)
    hrun hall

end Pending

/-- Where no callback finds another removal's members, every list sent to a display has
records of that display alone, and once nothing is on its way the display of every device
that was removed has been sent the list of the device's kind without it. -/
theorem removals_update_displays {s t : SessionService} {steps : List RemovalStep}
    (hrun : Schedules.run step s.idle steps = some t)
    (hall : Schedules.StepsAll step Undisturbed s.idle steps) :
    OwnRecords t.acts ∧
      (t.calls = [] → ∀ e ∈ s.history.entries, .removed e.hubPortPath ∈ steps → t.Updated e) := by
  have h := run_pending hrun hall
  refine ⟨h.own, fun hdone e he hremoved => ?_⟩
  have hgone : e ∉ t.history.entries := by
    intro hmem
    rcases h.recorded e hmem hremoved with ⟨answer, hc⟩ | hc
    · rw [hdone] at hc
      cases hc
    · rw [hdone] at hc
      cases hc
  rcases h.gone e he hgone with ⟨n, -, hc⟩ | ⟨answer, hc⟩ | hupdated
  · rw [hdone] at hc
    cases hc
  · rw [hdone] at hc
    cases hc
  · exact hupdated

def backStick : SessionDevice :=
  { hubPortPath := "2-1", deviceSetId := "RSE-L", deviceType := "USB_STORAGE" }

/-- Two sticks at the head unit's display, one at the back. -/
def threeSticks : SessionService :=
  { history := ⟨[frontStick, otherFrontStick, backStick], by decide⟩ }

/-- The second removal starts when the first one is through. -/
def oneByOne : List RemovalStep :=
  .removed "1-1" :: (List.replicate 5 answerOldest).flatten ++
    .removed "2-1" :: (List.replicate 5 answerOldest).flatten

theorem removals_update_displays_one_by_one :
    ∃ t, Schedules.run step threeSticks.idle oneByOne = some t ∧ OwnRecords t.acts ∧
      t.Updated frontStick ∧ t.Updated backStick := by
  have hrun : (Schedules.run step threeSticks.idle oneByOne).map SessionService.calls = some [] := by
    decide
  obtain ⟨t, ht, hcalls⟩ := Option.map_eq_some_iff.mp hrun
  obtain ⟨hown, hupdated⟩ := removals_update_displays ht (by decide)
  exact ⟨t, ht, hown, hupdated hcalls frontStick (by decide) (by decide),
    hupdated hcalls backStick (by decide) (by decide)⟩

/-- The hub is unplugged: the record of the second stick is found while the first one's list
is on its way. -/
def unplugged : List RemovalStep :=
  [.removed "1-1", .removed "2-1", .serve 0, .deliver 0, .serve 0, .serve 1, .deliver 1, .serve 1,
    .deliver 0, .deliver 0]

/-- The list of the head unit's display goes to the back. -/
theorem front_list_sent_to_back :
    ¬ ∀ (s t : SessionService) (steps : List RemovalStep),
      Schedules.run step s.idle steps = some t → OwnRecords t.acts ∧
        (t.calls = [] → ∀ e ∈ s.history.entries, .removed e.hubPortPath ∈ steps → t.Updated e) := by
  intro h
  have hrun : (Schedules.run step threeSticks.idle unplugged).map (fun t => decide
      (SessionAct.subscriptionReply (.autoDevices .rseL)
        { storageDeviceList := some [otherFrontStick] } ∈ t.acts)) = some true := by decide
  obtain ⟨t, ht, hmem⟩ := Option.map_eq_some_iff.mp hrun
  have hset := (h threeSticks t unplugged ht).1 _ _ .rseL (of_decide_eq_true hmem) rfl
    otherFrontStick (by decide)
  exact absurd hset (by decide)

end SessionService

end Pdm
