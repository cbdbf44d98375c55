/-
When requests that ask db8 get their own replies.

The callback of an answer sends to `replyMsg`, which is the message of the latest request,
and reads the members that requests have left.  **So every request has exactly one reply,
made from its own parameters and from the answer to its own find call, if and only if no
other request comes between a request and its answer, every answer is of a kind that is
replied to at all and every message is still there when its answer comes.**

An answer that comes after another request leaves its own client without a reply for good:
`replyMsg` never comes back to an earlier message.  That is the necessary direction; it
takes the first such answer, before which everything has gone right (`Served`).
-/
import Mathlib.Data.List.Nodup
import Mathlib.Tactic.Push
import Pdm.Framework.PdmLunaService

namespace Pdm

namespace LunaService

/-! ### What a request is owed -/

/-- The request goes to db8. -/
def AsksDb8 (r : LunaRequest) : Prop :=
  ∀ category, r.method = .getAttachedNonStorageDeviceList category → category ∈ categories

/-- What a request is to ask db8 for, by its own kind, number and session. -/
def ownQuery (r : LunaRequest) : List WhereClause :=
  match r.method with
  | .getSpaceInfo _ => [.deviceTypeIs "USB_STORAGE"]
  | .isWritableDrive _ => [.deviceTypeIs "USB_STORAGE"]
  | .eject deviceNum => [.deviceNumIs deviceNum]
  | .getAttachedDeviceList =>
    [.deviceSetIdIs (if r.sessionId = "host" then "" else deviceSetId r.sessionMap r.sessionId)]
  | .getAttachedStorageDeviceList => ofSession r ++ [.deviceTypeIs "USB_STORAGE"]
  | .getAttachedNonStorageDeviceList _ => ofSession r ++ [.deviceTypeIsNot "USB_STORAGE"]
where
  ofSession (r : LunaRequest) : List WhereClause :=
    if r.sessionId = "host" then [] else [.deviceSetIdIs (deviceSetId r.sessionMap r.sessionId)]

/-- The reply to a request by itself, from its own parameters and its own answer. -/
def ownReply (r : LunaRequest) (payload : Option DbPayload) (facts : DriveFacts) :
    Option LunaReply :=
  match r.method with
  | .getSpaceInfo driveName => cbFindDriveName driveName true payload facts
  | .isWritableDrive driveName => cbFindDriveName driveName false payload facts
  | .eject _ => cbEjectDevice payload facts
  | .getAttachedDeviceList => cbDbResponse payload
  | .getAttachedStorageDeviceList => cbDb8FindResponse true payload
  | .getAttachedNonStorageDeviceList _ => cbDb8FindResponse false payload

/-- The replies that a message has got. -/
def repliesTo (s : LunaService) (message : Nat) : List LunaReply :=
  (s.replies.filter (·.1 = message)).map Prod.snd

/-- The request has made one find call, for what it is to ask. -/
def AsksOnce (s : LunaService) (r : LunaRequest) : Prop :=
  ∃ call, s.sent.filter (·.request = r) = [call] ∧ call.query = ownQuery r

/-- Every request has got its one reply, from the answer to its own find call. -/
structure Routed (steps : List LunaStep) (s : LunaService) : Prop where
  asks : ∀ r ∈ s.asked, AsksDb8 r → AsksOnce s r ∧ ∃ payload facts json,
    .answer r.message payload facts ∈ steps ∧ ownReply r payload facts = some json ∧
      s.repliesTo r.message = [json]
  mismatch : ∀ r ∈ s.asked, ¬ AsksDb8 r → s.repliesTo r.message = [categoryMismatch]

/-! ### The condition on a schedule -/

/-- The message of the latest request. -/
def latest (steps : List LunaStep) : Option Nat :=
  (steps.filterMap fun i =>
    match i with
    | .request r => some r.message
    | .answer _ _ _ => none).getLast?

/-- Every answer comes before the next request. -/
def Straight (steps : List LunaStep) : Prop :=
  ∀ message payload facts,
    ¬ Schedules.At (fun before => latest before ≠ some message)
      (.answer message payload facts) steps

/-- The answer is of a kind that the method replies to: no payload is never replied to, an
error only for drives and ejection, and the ejection of a device that was not ejected
already only when its last drive can be unmounted. -/
def RepliesTo (method : LunaMethod) (payload : Option DbPayload) (facts : DriveFacts) : Prop :=
  ∃ db, payload = some db ∧
    match method with
    | .getSpaceInfo _ => True
    | .isWritableDrive _ => True
    | .eject _ => db.returnValue = false ∨ ∃ results, db.results = some results ∧
        ∀ device ∈ results.head?, device.errorReason = "Ejected" ∨
          device.deviceType = "USB_STORAGE" ∧
            ∃ drive ∈ device.storageDriveList.getLast?, facts.umount drive.mountName = true
    | .getAttachedDeviceList => db.returnValue = true
    | .getAttachedStorageDeviceList => db.returnValue = true
    | .getAttachedNonStorageDeviceList _ => db.returnValue = true

/-- The message outlives its callback.  For a list of storage devices or of the others it
takes a subscription, by the host or by a session with a display. -/
def Kept (r : LunaRequest) : Prop :=
  match r.method with
  | .getAttachedStorageDeviceList => Subscribed r
  | .getAttachedNonStorageDeviceList _ => Subscribed r
  | _ => True
where
  Subscribed (r : LunaRequest) : Prop :=
    r.isSubscription = true ∧ (r.sessionId = "host" ∨
      deviceSetId r.sessionMap r.sessionId ∈ ["AVN", "RSE-L", "RSE-R"])

/-- The answers to all requests are of such a kind and find the message. -/
def Answerable (steps : List LunaStep) : Prop :=
  ∀ r payload facts, .request r ∈ steps → .answer r.message payload facts ∈ steps →
    Kept r ∧ RepliesTo r.method payload facts

theorem allPartitionUnmounted_iff {facts : DriveFacts} {device : DbDevice} :
    allPartitionUnmounted facts device = true ↔ device.deviceType = "USB_STORAGE" ∧
      ∃ drive ∈ device.storageDriveList.getLast?, facts.umount drive.mountName = true := by
  unfold allPartitionUnmounted
  by_cases hstorage : device.deviceType = "USB_STORAGE"
  · rw [if_pos hstorage, and_iff_right hstorage]
    rcases List.eq_nil_or_concat device.storageDriveList with hnil | ⟨drives, last, hlast⟩
    · rw [hnil]
      simp
    · rw [hlast, List.concat_eq_append, List.foldl_append]
      simp
  · rw [if_neg hstorage]
    simp [hstorage]

theorem ownReply_isSome {r : LunaRequest} {payload : Option DbPayload} {facts : DriveFacts} :
    (ownReply r payload facts).isSome = true ↔ RepliesTo r.method payload facts := by
  unfold ownReply RepliesTo
  cases payload with
  | none =>
    cases r.method <;> simp [cbFindDriveName, cbEjectDevice, cbDbResponse, cbDb8FindResponse]
  | some db =>
    cases r.method with
    | getSpaceInfo driveName => simp [cbFindDriveName]
    | isWritableDrive driveName => simp [cbFindDriveName]
    | eject deviceNum =>
      obtain ⟨returnValue, results⟩ := db
      rcases returnValue with - | -
      · simp [cbEjectDevice]
      · rcases results with - | - | ⟨device, rest⟩
        · simp [cbEjectDevice]
        · simp [cbEjectDevice]
        · have heject : (ejectDevice device facts).isSome = true ↔
              device.errorReason = "Ejected" ∨ allPartitionUnmounted facts device = true := by
            unfold ejectDevice
            by_cases hdone : device.errorReason = "Ejected"
            · simp [hdone]
            · by_cases hall : allPartitionUnmounted facts device = true <;> simp [hdone, hall]
          rw [allPartitionUnmounted_iff] at heject
          simpa [cbEjectDevice] using heject
    | getAttachedDeviceList => cases hdb : db.returnValue <;> simp [cbDbResponse, hdb]
    | getAttachedStorageDeviceList => cases hdb : db.returnValue <;> simp [cbDb8FindResponse, hdb]
    | getAttachedNonStorageDeviceList category =>
      cases hdb : db.returnValue <;> simp [cbDb8FindResponse, hdb]

/-! ### What a request's callback does -/

theorem subscribes_iff {r : LunaRequest} : subscribes r = true ↔ Kept.Subscribed r := by
  unfold subscribes Kept.Subscribed
  simp only [Bool.and_eq_true, Bool.or_eq_true, decide_eq_true_eq]

/-- What the callback of a request that goes to db8 leaves. -/
structure Asks (s t : LunaService) (r : LunaRequest) (call : FindCall) : Prop where
  request : call.request = r
  query : call.query = ownQuery r
  calls : t.calls = s.calls ++ [call]
  sent : t.sent = s.sent ++ [call]
  replies : t.replies = s.replies
  kept : ∀ message, message ∈ t.kept ↔ message ∈ s.kept ∨ message = r.message ∧ Kept r
  reply : ∀ payload facts, t.reply call.callback payload facts = ownReply r payload facts

theorem mem_lsMessageRef {s : LunaService} {r : LunaRequest} (hkept : Kept r) (message : Nat) :
    message ∈ (s.lsMessageRef r).kept ↔ message ∈ s.kept ∨ message = r.message ∧ Kept r := by
  rw [and_iff_left hkept]
  exact List.mem_append.trans (or_congr Iff.rfl List.mem_singleton)

theorem mem_subscriptionAdd {s : LunaService} {r : LunaRequest} (message : Nat) :
    message ∈ (s.subscriptionAdd r).kept ↔
      message ∈ s.kept ∨ message = r.message ∧ Kept.Subscribed r := by
  unfold subscriptionAdd
  by_cases hsubscribes : subscribes r = true
  · rw [if_pos hsubscribes, and_iff_left (subscribes_iff.mp hsubscribes)]
    exact List.mem_append.trans (or_congr Iff.rfl List.mem_singleton)
  · rw [if_neg hsubscribes]
    simp [mt subscribes_iff.mpr hsubscribes]

theorem subscriptionAdd_same (s : LunaService) (r : LunaRequest) :
    (s.subscriptionAdd r).calls = s.calls ∧ (s.subscriptionAdd r).sent = s.sent ∧
      (s.subscriptionAdd r).replies = s.replies ∧ (s.subscriptionAdd r).replyMsg = s.replyMsg ∧
      (s.subscriptionAdd r).asked = s.asked ∧ (s.subscriptionAdd r).reply = s.reply := by
  unfold subscriptionAdd
  split <;> exact ⟨rfl, rfl, rfl, rfl, rfl, rfl⟩

/-- The two lists that go through `getDevicesFromDB`. -/
theorem getDevicesFromDB_asks (s : LunaService) {r : LunaRequest} (storage : Bool)
    (hquery : ownQuery r = ownQuery.ofSession r ++
      [if storage then WhereClause.deviceTypeIs "USB_STORAGE" else .deviceTypeIsNot "USB_STORAGE"])
    (hkept : Kept r ↔ Kept.Subscribed r)
    (hreply : ∀ payload facts, cbDb8FindResponse storage payload = ownReply r payload facts) :
    ∃ call, Asks s
      (({ s with replyMsg := some r.message }.getDevicesFromDB r storage).subscriptionAdd r)
      r call := by
  obtain ⟨hcalls, hsent, hreplies, -, -, hanswers⟩ :=
    subscriptionAdd_same ({ s with replyMsg := some r.message }.getDevicesFromDB r storage) r
  refine ⟨_, rfl, ?_, hcalls, hsent, hreplies, fun message => ?_, fun payload facts => ?_⟩
  · rw [hquery]
    unfold ownQuery.ofSession
    by_cases hhost : r.sessionId = "host"
    · simp [hhost]
    · simp [hhost]
  · rw [mem_subscriptionAdd, hkept]
    rfl
  · rw [hanswers]
    exact hreply payload facts

theorem callback_asks (s : LunaService) {r : LunaRequest} (h : AsksDb8 r) :
    ∃ call, Asks s (s.callback r) r call := by
  unfold callback
  cases hmethod : r.method with
  | getSpaceInfo driveName =>
    refine ⟨_, rfl, by simp [ownQuery, hmethod], rfl, rfl, rfl,
      mem_lsMessageRef (by simp [Kept, hmethod]), fun payload facts => ?_⟩
    rw [ownReply, hmethod]
    rfl
  | isWritableDrive driveName =>
    refine ⟨_, rfl, by simp [ownQuery, hmethod], rfl, rfl, rfl,
      mem_lsMessageRef (by simp [Kept, hmethod]), fun payload facts => ?_⟩
    rw [ownReply, hmethod]
    rfl
  | eject deviceNum =>
    refine ⟨_, rfl, by simp [ownQuery, hmethod], rfl, rfl, rfl,
      mem_lsMessageRef (by simp [Kept, hmethod]), fun payload facts => ?_⟩
    rw [ownReply, hmethod]
    rfl
  | getAttachedDeviceList =>
    refine ⟨_, rfl, by simp [ownQuery, hmethod], rfl, rfl, rfl,
      mem_lsMessageRef (by simp [Kept, hmethod]), fun payload facts => ?_⟩
    rw [ownReply, hmethod]
    rfl
  | getAttachedStorageDeviceList =>
    refine s.getDevicesFromDB_asks true ?_ ?_ fun payload facts => ?_
    · simp [ownQuery, hmethod]
    · simp [Kept, hmethod]
    · rw [ownReply, hmethod]
  | getAttachedNonStorageDeviceList category =>
    dsimp only
    unfold cbGetAttachedNonStorageDeviceList
    rw [if_pos (h category hmethod)]
    refine s.getDevicesFromDB_asks false ?_ ?_ fun payload facts => ?_
    · simp [ownQuery, hmethod]
    · simp [Kept, hmethod]
    · rw [ownReply, hmethod]

/-- The callback of a request with a category that does not exist. -/
theorem callback_mismatch (s : LunaService) {r : LunaRequest} (h : ¬ AsksDb8 r) :
    (s.callback r).calls = s.calls ∧ (s.callback r).sent = s.sent ∧
      (s.callback r).kept = s.kept ∧
      (s.callback r).replies = s.replies ++ [(r.message, categoryMismatch)] := by
  unfold AsksDb8 at h
  push Not at h
  obtain ⟨category, hmethod, hcategory⟩ := h
  unfold callback
  rw [hmethod]
  dsimp only
  unfold cbGetAttachedNonStorageDeviceList
  rw [if_neg hcategory]
  exact ⟨rfl, rfl, rfl, rfl⟩

theorem callback_fields (s : LunaService) (r : LunaRequest) :
    (s.callback r).replyMsg = some r.message ∧ (s.callback r).asked = s.asked := by
  unfold callback
  cases r.method with
  | getAttachedStorageDeviceList =>
    dsimp only
    unfold cbGetAttachedStorageDeviceList
    obtain ⟨-, -, -, hmsg, hasked, -⟩ :=
      subscriptionAdd_same ({ s with replyMsg := some r.message }.getDevicesFromDB r true) r
    exact ⟨hmsg, hasked⟩
  | getAttachedNonStorageDeviceList category =>
    dsimp only
    unfold cbGetAttachedNonStorageDeviceList
    split
    · obtain ⟨-, -, -, hmsg, hasked, -⟩ :=
        subscriptionAdd_same ({ s with replyMsg := some r.message }.getDevicesFromDB r false) r
      exact ⟨hmsg, hasked⟩
    · exact ⟨rfl, rfl⟩
  | _ => exact ⟨rfl, rfl⟩

@[simp] theorem callback_replyMsg (s : LunaService) (r : LunaRequest) :
    (s.callback r).replyMsg = some r.message :=
  (s.callback_fields r).1

@[simp] theorem callback_asked (s : LunaService) (r : LunaRequest) :
    (s.callback r).asked = s.asked :=
  (s.callback_fields r).2

theorem getReplyMsg_eq_some {s : LunaService} {message : Nat} :
    s.getReplyMsg = some message ↔ s.replyMsg = some message ∧ message ∈ s.kept := by
  unfold getReplyMsg
  rw [Option.filter_eq_some_iff, decide_eq_true_eq]

/-! ### What a schedule says of the service -/

theorem step_request {s t : LunaService} {r : LunaRequest} (hstep : s.step (.request r) = some t) :
    r.message ∉ s.asked.map LunaRequest.message ∧
      t = { s.callback r with asked := s.asked ++ [r] } := by
  unfold step at hstep
  dsimp only at hstep
  split at hstep
  · exact absurd hstep (by simp)
  · rename_i hnew
    exact ⟨hnew, (Option.some.inj hstep).symm⟩

theorem step_answer {s t : LunaService} {message : Nat} {payload : Option DbPayload}
    {facts : DriveFacts} (hstep : s.step (.answer message payload facts) = some t) :
    ∃ call ∈ s.calls, call.request.message = message ∧ t = { s with
      calls := s.calls.erase call
      replies := s.replies ++
        ((s.getReplyMsg.bind fun msg =>
          (s.reply call.callback payload facts).map fun json => (msg, json)).toList) } := by
  unfold step at hstep
  dsimp only at hstep
  split at hstep
  · exact absurd hstep (by simp)
  · rename_i call hcall
    refine ⟨call, List.mem_of_find?_eq_some hcall, ?_, (Option.some.inj hstep).symm⟩
    simpa using List.find?_some hcall

/-- The state tells what the schedule was. -/
structure Told (steps : List LunaStep) (s : LunaService) : Prop where
  asked : ∀ r, r ∈ s.asked ↔ .request r ∈ steps
  messages : (s.asked.map LunaRequest.message).Nodup
  replyMsg : s.replyMsg = latest steps
  calls : ∀ call ∈ s.calls, call.request ∈ s.asked ∧ AsksDb8 call.request
  waiting : (s.calls.map (·.request.message)).Nodup
  pending : ∀ r ∈ s.asked, AsksDb8 r → (∃ call ∈ s.calls, call.request = r) ∨
    ∃ payload facts, .answer r.message payload facts ∈ steps
  answered : ∀ message payload facts, .answer message payload facts ∈ steps →
    (∀ call ∈ s.calls, call.request.message ≠ message) ∧
      ∃ r ∈ s.asked, AsksDb8 r ∧ r.message = message
  once : ∀ message payload facts payload' facts', .answer message payload facts ∈ steps →
    .answer message payload' facts' ∈ steps → payload = payload' ∧ facts = facts'

theorem init_told : Told [] {} :=
  ⟨by simp, List.nodup_nil, rfl, by simp, List.nodup_nil, by simp, by simp, by simp⟩

theorem latest_request (steps : List LunaStep) (r : LunaRequest) :
    latest (steps ++ [.request r]) = some r.message := by
  unfold latest
  rw [List.filterMap_append]
  simp

theorem latest_answer (steps : List LunaStep) (message : Nat) (payload : Option DbPayload)
    (facts : DriveFacts) : latest (steps ++ [.answer message payload facts]) = latest steps := by
  unfold latest
  rw [List.filterMap_append]
  simp

/-- Requests are told apart by their messages. -/
theorem Told.unique {steps : List LunaStep} {s : LunaService} (h : Told steps s)
    {r r' : LunaRequest} (hr : r ∈ s.asked) (hr' : r' ∈ s.asked)
    (hmessage : r.message = r'.message) : r = r' :=
  List.inj_on_of_nodup_map h.messages hr hr' hmessage

theorem Told.request {steps : List LunaStep} {s : LunaService} {r : LunaRequest}
    (h : Told steps s) (hnew : r.message ∉ s.asked.map LunaRequest.message) :
    Told (steps ++ [.request r]) { s.callback r with asked := s.asked ++ [r] } := by
  have hcalls : ∀ call ∈ (s.callback r).calls, call ∈ s.calls ∨ call.request = r ∧ AsksDb8 r := by
    intro call hcall
    by_cases hasks : AsksDb8 r
    · obtain ⟨own, hown⟩ := s.callback_asks hasks
      rw [hown.calls, List.mem_append, List.mem_singleton] at hcall
      rcases hcall with hold | rfl
      · exact Or.inl hold
      · exact Or.inr ⟨hown.request, hasks⟩
    · rw [(s.callback_mismatch hasks).1] at hcall
      exact Or.inl hcall
  have hfresh : ∀ call ∈ s.calls, call.request.message ≠ r.message := by
    intro call hcall heq
    exact hnew (heq ▸ List.mem_map_of_mem (h.calls call hcall).1)
  refine ⟨fun r' => ?_, ?_, ?_, fun call hcall => ?_, ?_, fun r' hr' hasks => ?_,
    fun message payload facts hin => ?_, fun message payload facts payload' facts' hin hin' => ?_⟩
  · show r' ∈ s.asked ++ [r] ↔ _
    rw [List.mem_append, List.mem_append, h.asked, List.mem_singleton, List.mem_singleton,
      LunaStep.request.injEq]
  · show ((s.asked ++ [r]).map LunaRequest.message).Nodup
    rw [List.map_append]
    refine List.nodup_append'.mpr ⟨h.messages, List.nodup_singleton _, ?_⟩
    intro message hmessage hin
    obtain rfl : message = r.message := List.mem_singleton.mp hin
    exact hnew hmessage
  · rw [latest_request]
    exact s.callback_replyMsg r
  · rcases hcalls call hcall with hold | ⟨hcall, hasks⟩
    · exact ⟨List.mem_append_left _ (h.calls call hold).1, (h.calls call hold).2⟩
    · rw [hcall]
      exact ⟨List.mem_append_right _ (List.mem_singleton.mpr rfl), hasks⟩
  · by_cases hasks : AsksDb8 r
    · obtain ⟨own, hown⟩ := s.callback_asks hasks
      show ((s.callback r).calls.map (·.request.message)).Nodup
      rw [hown.calls, List.map_append]
      refine List.nodup_append'.mpr ⟨h.waiting, List.nodup_singleton _, ?_⟩
      intro message hmessage hin
      obtain ⟨call, hcall, rfl⟩ := List.mem_map.mp hmessage
      have hsame : call.request.message = own.request.message := List.mem_singleton.mp hin
      exact hfresh call hcall (by rw [hsame, hown.request])
    · show ((s.callback r).calls.map (·.request.message)).Nodup
      rw [(s.callback_mismatch hasks).1]
      exact h.waiting
  · show (∃ call ∈ (s.callback r).calls, _) ∨ _
    rcases List.mem_append.mp hr' with hold | hin
    · rcases h.pending r' hold hasks with ⟨call, hcall, hreq⟩ | ⟨payload, facts, hin⟩
      · refine Or.inl ⟨call, ?_, hreq⟩
        by_cases hr : AsksDb8 r
        · obtain ⟨own, hown⟩ := s.callback_asks hr
          rw [hown.calls]
          exact List.mem_append_left _ hcall
        · rw [(s.callback_mismatch hr).1]
          exact hcall
      · exact Or.inr ⟨payload, facts, List.mem_append_left _ hin⟩
    · obtain rfl : r' = r := List.mem_singleton.mp hin
      obtain ⟨own, hown⟩ := s.callback_asks hasks
      exact Or.inl ⟨own, by rw [hown.calls]; simp, hown.request⟩
  · have hold : .answer message payload facts ∈ steps := by simpa using hin
    obtain ⟨hgone, other, hother, hasks, rfl⟩ := h.answered message payload facts hold
    refine ⟨fun call hcall => ?_, other, List.mem_append_left _ hother, hasks, rfl⟩
    rcases hcalls call hcall with hcall | ⟨hcall, -⟩
    · exact hgone call hcall
    · rw [hcall]
      exact fun heq => hnew (heq ▸ List.mem_map_of_mem hother)
  · exact h.once message payload facts payload' facts' (by simpa using hin) (by simpa using hin')

theorem Told.answer {steps : List LunaStep} {s : LunaService} {call : FindCall}
    {payload : Option DbPayload} {facts : DriveFacts} {replies : List (Nat × LunaReply)}
    (h : Told steps s) (hcall : call ∈ s.calls) :
    Told (steps ++ [.answer call.request.message payload facts])
      { s with calls := s.calls.erase call, replies := replies } := by
  have hdistinct : ∀ other ∈ s.calls.erase call,
      other.request.message ≠ call.request.message := by
    intro other hother heq
    have hnodup : s.calls.Nodup := List.Nodup.of_map _ h.waiting
    obtain ⟨hne, hmem⟩ := (hnodup.mem_erase_iff).mp hother
    exact hne (List.inj_on_of_nodup_map h.waiting hmem hcall heq)
  have hnow : ∀ message payload' facts',
      LunaStep.answer message payload' facts' ∈
          steps ++ [.answer call.request.message payload facts] →
        .answer message payload' facts' ∈ steps ∨
          message = call.request.message ∧ payload' = payload ∧ facts' = facts := by
    intro message payload' facts' hin
    rcases List.mem_append.mp hin with hold | hin
    · exact Or.inl hold
    · exact Or.inr (LunaStep.answer.inj (List.mem_singleton.mp hin))
  have hfirst : ∀ payload' facts', LunaStep.answer call.request.message payload' facts' ∉ steps :=
    fun payload' facts' hin => (h.answered _ payload' facts' hin).1 call hcall rfl
  refine ⟨fun r => ?_, h.messages, ?_, fun other hother => ?_, ?_, fun r hr hasks => ?_,
    fun message payload' facts' hin => ?_,
    fun message payload₁ facts₁ payload₂ facts₂ hin₁ hin₂ => ?_⟩
  · rw [List.mem_append, List.mem_singleton]
    exact (h.asked r).trans (or_iff_left (by simp)).symm
  · rw [latest_answer]
    exact h.replyMsg
  · exact h.calls other (List.mem_of_mem_erase hother)
  · exact h.waiting.sublist (List.erase_sublist.map _)
  · rcases h.pending r hr hasks with ⟨other, hother, hreq⟩ | ⟨payload', facts', hin⟩
    · by_cases heq : other = call
      · refine Or.inr ⟨payload, facts, ?_⟩
        rw [← hreq, heq]
        exact List.mem_append_right _ (List.mem_singleton.mpr rfl)
      · exact Or.inl ⟨other, (List.mem_erase_of_ne heq).mpr hother, hreq⟩
    · exact Or.inr ⟨payload', facts', List.mem_append_left _ hin⟩
  · rcases hnow message payload' facts' hin with hold | ⟨rfl, -, -⟩
    · obtain ⟨hgone, hasked⟩ := h.answered message payload' facts' hold
      exact ⟨fun other hother => hgone other (List.mem_of_mem_erase hother), hasked⟩
    · exact ⟨hdistinct, call.request, (h.calls call hcall).1, (h.calls call hcall).2, rfl⟩
  · rcases hnow message payload₁ facts₁ hin₁ with hold₁ | ⟨hmessage₁, rfl, rfl⟩
    · rcases hnow message payload₂ facts₂ hin₂ with hold₂ | ⟨hmessage₂, -, -⟩
      · exact h.once message payload₁ facts₁ payload₂ facts₂ hold₁ hold₂
      · exact absurd (hmessage₂ ▸ hold₁) (hfirst payload₁ facts₁)
    · rcases hnow message payload₂ facts₂ hin₂ with hold₂ | ⟨-, rfl, rfl⟩
      · exact absurd (hmessage₁ ▸ hold₂) (hfirst payload₂ facts₂)
      · exact ⟨rfl, rfl⟩

theorem step_told {steps : List LunaStep} {s t : LunaService} {i : LunaStep}
    (h : Told steps s) (hstep : s.step i = some t) : Told (steps ++ [i]) t := by
  cases i with
  | request r =>
    obtain ⟨hnew, rfl⟩ := step_request hstep
    exact h.request hnew
  | answer message payload facts =>
    obtain ⟨call, hcall, rfl, rfl⟩ := step_answer hstep
    exact h.answer hcall

theorem run_told {steps : List LunaStep} {s : LunaService}
    (hrun : Schedules.run step {} steps = some s) : Told steps s :=
  Schedules.run_history init_told (fun _ _ _ _ h hstep => step_told h hstep) hrun

/-! ### The records -/

/-- What the records say of the requests. -/
structure Recorded (s : LunaService) : Prop where
  known : ∀ call ∈ s.sent, call.request ∈ s.asked
  sent : ∀ r ∈ s.asked, AsksDb8 r → AsksOnce s r
  keeps : ∀ message ∈ s.kept, message ∈ s.asked.map LunaRequest.message
  kept : ∀ r ∈ s.asked, AsksDb8 r → (r.message ∈ s.kept ↔ Kept r)

theorem init_recorded : Recorded {} := ⟨by simp, by simp, by simp, by simp⟩

/-- A request that goes to db8. -/
theorem Recorded.asks {s : LunaService} {r : LunaRequest} {call : FindCall} (h : Recorded s)
    (hnew : r.message ∉ s.asked.map LunaRequest.message) (hcall : Asks s (s.callback r) r call) :
    Recorded { s.callback r with asked := s.asked ++ [r] } := by
  have hne : ∀ r' ∈ s.asked, r'.message ≠ r.message := fun r' hr' heq =>
    hnew (heq ▸ List.mem_map_of_mem hr')
  have hsent : ∀ r', (s.callback r).sent.filter (·.request = r') =
      s.sent.filter (·.request = r') ++ [call].filter (·.request = r') := by
    intro r'
    rw [hcall.sent, List.filter_append]
  refine ⟨fun other hother => ?_, fun r' hr' hasks => ?_, fun message hmessage => ?_,
    fun r' hr' hasks => ?_⟩
  · have hin : other ∈ s.sent ++ [call] := hcall.sent ▸ hother
    show other.request ∈ s.asked ++ [r]
    rcases List.mem_append.mp hin with hin | hin
    · exact List.mem_append_left _ (h.known other hin)
    · rw [List.mem_singleton.mp hin, hcall.request]
      simp
  · rcases List.mem_append.mp hr' with hr' | hr'
    · obtain ⟨own, hown, hquery⟩ := h.sent r' hr' hasks
      refine ⟨own, (hsent r').trans ?_, hquery⟩
      have hother : r ≠ r' := fun heq => hne r' hr' (heq ▸ rfl)
      rw [hown, List.filter_cons_of_neg (by simpa [hcall.request] using hother)]
      rfl
    · obtain rfl : r' = r := List.mem_singleton.mp hr'
      have hnone : s.sent.filter (·.request = r') = [] := by
        rw [List.filter_eq_nil_iff]
        intro other hother heq
        rw [← of_decide_eq_true heq] at hnew
        exact hnew (List.mem_map_of_mem (h.known other hother))
      refine ⟨call, (hsent r').trans ?_, hcall.query⟩
      rw [hnone, List.filter_cons_of_pos (by simpa using hcall.request)]
      rfl
  · show message ∈ (s.asked ++ [r]).map _
    rw [List.map_append, List.mem_append]
    rcases (hcall.kept message).mp hmessage with hold | ⟨rfl, -⟩
    · exact Or.inl (h.keeps message hold)
    · exact Or.inr (by simp)
  · show r'.message ∈ (s.callback r).kept ↔ _
    rw [hcall.kept]
    rcases List.mem_append.mp hr' with hr' | hr'
    · rw [h.kept r' hr' hasks]
      exact or_iff_left fun hr => hne r' hr' hr.1
    · obtain rfl : r' = r := List.mem_singleton.mp hr'
      rw [or_iff_right (fun hold => hnew (h.keeps _ hold)), and_iff_right rfl]

/-- A request that does not. -/
theorem Recorded.mismatch {s : LunaService} {r : LunaRequest} (h : Recorded s)
    (hmis : ¬ AsksDb8 r) : Recorded { s.callback r with asked := s.asked ++ [r] } := by
  obtain ⟨-, hsent, hkept, -⟩ := s.callback_mismatch hmis
  have hold : ∀ r' ∈ s.asked ++ [r], AsksDb8 r' → r' ∈ s.asked := by
    intro r' hr' hasks
    rcases List.mem_append.mp hr' with hr' | hr'
    · exact hr'
    · exact absurd (List.mem_singleton.mp hr' ▸ hasks) hmis
  refine ⟨fun call hcall => ?_, fun r' hr' hasks => ?_, fun message hmessage => ?_,
    fun r' hr' hasks => ?_⟩
  · exact List.mem_append_left _ (h.known call (hsent ▸ hcall))
  · obtain ⟨call, hcall, hquery⟩ := h.sent r' (hold r' hr' hasks) hasks
    exact ⟨call, (congrArg _ hsent).trans hcall, hquery⟩
  · show message ∈ (s.asked ++ [r]).map _
    rw [List.map_append]
    exact List.mem_append_left _ (h.keeps message (hkept ▸ hmessage))
  · show r'.message ∈ (s.callback r).kept ↔ _
    rw [hkept]
    exact h.kept r' (hold r' hr' hasks) hasks

theorem step_recorded {s t : LunaService} {i : LunaStep} (h : Recorded s)
    (hstep : s.step i = some t) : Recorded t := by
  cases i with
  | request r =>
    obtain ⟨hnew, rfl⟩ := step_request hstep
    by_cases hasks : AsksDb8 r
    · obtain ⟨call, hcall⟩ := s.callback_asks hasks
      exact h.asks hnew hcall
    · exact h.mismatch hasks
  | answer message payload facts =>
    obtain ⟨call, -, -, rfl⟩ := step_answer hstep
    exact ⟨h.known, h.sent, h.keeps, h.kept⟩

theorem run_recorded {steps : List LunaStep} {s : LunaService}
    (hrun : Schedules.run step {} steps = some s) : Recorded s :=
  Schedules.run_keeps init_recorded (fun _ _ _ h hstep => step_recorded h hstep) hrun

/-! ### Replies while every answer comes in time -/

theorem repliesTo_append (s : LunaService) (more : List (Nat × LunaReply)) (message : Nat) :
    { s with replies := s.replies ++ more }.repliesTo message =
      s.repliesTo message ++ (more.filter (·.1 = message)).map Prod.snd := by
  unfold repliesTo
  rw [List.filter_append, List.map_append]

theorem repliesTo_congr {s t : LunaService} (h : t.replies = s.replies) (message : Nat) :
    t.repliesTo message = s.repliesTo message := by
  unfold repliesTo
  rw [h]

/-- What has been sent as long as every answer has come in time. -/
structure Served (steps : List LunaStep) (s : LunaService) : Prop where
  unasked : ∀ message, message ∉ s.asked.map LunaRequest.message → s.repliesTo message = []
  waiting : ∀ call ∈ s.calls, s.repliesTo call.request.message = []
  /-- The members are those that the latest request has left. -/
  members : ∀ call ∈ s.calls, s.replyMsg = some call.request.message →
    ∀ payload facts, s.reply call.callback payload facts = ownReply call.request payload facts
  settled : ∀ r ∈ s.asked, ∀ payload facts, .answer r.message payload facts ∈ steps → Kept r →
    s.repliesTo r.message = (ownReply r payload facts).toList
  lost : ∀ r ∈ s.asked, AsksDb8 r → ¬ Kept r → s.repliesTo r.message = []
  mismatch : ∀ r ∈ s.asked, ¬ AsksDb8 r → s.repliesTo r.message = [categoryMismatch]

theorem init_served : Served [] {} :=
  ⟨fun _ _ => rfl, by simp, by simp, by simp, by simp, by simp⟩

theorem Served.request {steps : List LunaStep} {s : LunaService} {r : LunaRequest}
    (h : Told steps s) (hs : Served steps s)
    (hnew : r.message ∉ s.asked.map LunaRequest.message) :
    Served (steps ++ [.request r]) { s.callback r with asked := s.asked ++ [r] } := by
  have hold : ∀ message, message ≠ r.message →
      { s.callback r with asked := s.asked ++ [r] }.repliesTo message = s.repliesTo message := by
    intro message hne
    by_cases hasks : AsksDb8 r
    · obtain ⟨own, hown⟩ := s.callback_asks hasks
      exact repliesTo_congr (s := s) (t := { s.callback r with asked := s.asked ++ [r] })
        hown.replies _
    · obtain ⟨-, -, -, hreplies⟩ := s.callback_mismatch hasks
      unfold repliesTo
      show ((s.callback r).replies.filter _).map _ = _
      rw [hreplies, List.filter_append]
      simp [Ne.symm hne]
  have hother : ∀ r' ∈ s.asked, r'.message ≠ r.message := fun r' hr' heq =>
    hnew (heq ▸ List.mem_map_of_mem hr')
  have hown : AsksDb8 r →
      { s.callback r with asked := s.asked ++ [r] }.repliesTo r.message = [] := by
    intro hasks
    obtain ⟨own, hcall⟩ := s.callback_asks hasks
    exact (repliesTo_congr (s := s) (t := { s.callback r with asked := s.asked ++ [r] })
      hcall.replies _).trans (hs.unasked _ hnew)
  refine ⟨fun message hmessage => ?_, fun call hcall => ?_, fun call hcall hlatest => ?_,
    fun r' hr' payload facts hin hkept => ?_, fun r' hr' hasks hkept => ?_,
    fun r' hr' hmis => ?_⟩
  · have hmem : message ∉ s.asked.map LunaRequest.message ∧ message ≠ r.message := by
      simpa [not_or] using hmessage
    rw [hold message hmem.2]
    exact hs.unasked message hmem.1
  · by_cases hasks : AsksDb8 r
    · obtain ⟨own, hasked⟩ := s.callback_asks hasks
      have hcall' : call ∈ s.calls ++ [own] := hasked.calls ▸ hcall
      rcases List.mem_append.mp hcall' with hin | hin
      · rw [hold _ (hother _ (h.calls call hin).1)]
        exact hs.waiting call hin
      · rw [List.mem_singleton.mp hin, hasked.request]
        exact hown hasks
    · have hin : call ∈ s.calls := (s.callback_mismatch hasks).1 ▸ hcall
      rw [hold _ (hother _ (h.calls call hin).1)]
      exact hs.waiting call hin
  · have hmessage : call.request.message = r.message := by
      have hmsg : some r.message = some call.request.message :=
        (s.callback_replyMsg r).symm.trans hlatest
      exact (Option.some.inj hmsg).symm
    by_cases hasks : AsksDb8 r
    · obtain ⟨own, hasked⟩ := s.callback_asks hasks
      have hcall' : call ∈ s.calls ++ [own] := hasked.calls ▸ hcall
      rcases List.mem_append.mp hcall' with hin | hin
      · exact absurd hmessage (hother _ (h.calls call hin).1)
      · rw [List.mem_singleton.mp hin, hasked.request]
        exact hasked.reply
    · have hin : call ∈ s.calls := (s.callback_mismatch hasks).1 ▸ hcall
      exact absurd hmessage (hother _ (h.calls call hin).1)
  · have hin' : .answer r'.message payload facts ∈ steps := by simpa using hin
    rcases List.mem_append.mp hr' with hold' | hnow
    · rw [hold _ (hother r' hold')]
      exact hs.settled r' hold' payload facts hin' hkept
    · obtain rfl : r' = r := List.mem_singleton.mp hnow
      obtain ⟨-, other, hin, -, heq⟩ := h.answered _ payload facts hin'
      exact absurd (heq ▸ List.mem_map_of_mem hin) hnew
  · rcases List.mem_append.mp hr' with hold' | hnow
    · rw [hold _ (hother r' hold')]
      exact hs.lost r' hold' hasks hkept
    · rw [List.mem_singleton.mp hnow] at hasks ⊢
      exact hown hasks
  · rcases List.mem_append.mp hr' with hold' | hnow
    · rw [hold _ (hother r' hold')]
      exact hs.mismatch r' hold' hmis
    · obtain rfl : r' = r := List.mem_singleton.mp hnow
      obtain ⟨-, -, -, hreplies⟩ := s.callback_mismatch hmis
      have hnone := hs.unasked r'.message hnew
      unfold repliesTo at hnone ⊢
      show ((s.callback r').replies.filter _).map _ = _
      rw [hreplies, List.filter_append, List.map_append, hnone]
      simp

theorem Served.answer {steps : List LunaStep} {s : LunaService} {call : FindCall}
    {payload : Option DbPayload} {facts : DriveFacts} (h : Told steps s) (hrec : Recorded s)
    (hs : Served steps s) (hcall : call ∈ s.calls)
    (hlatest : s.replyMsg = some call.request.message) :
    Served (steps ++ [.answer call.request.message payload facts]) { s with
      calls := s.calls.erase call
      replies := s.replies ++
        ((s.getReplyMsg.bind fun msg =>
          (s.reply call.callback payload facts).map fun json => (msg, json)).toList) } := by
  have hreply : s.reply call.callback payload facts = ownReply call.request payload facts :=
    hs.members call hcall hlatest payload facts
  have hmember : call.request ∈ s.asked := (h.calls call hcall).1
  have hkept : call.request.message ∈ s.kept ↔ Kept call.request :=
    hrec.kept _ hmember (h.calls call hcall).2
  have hto : ∀ message, ({ s with
      calls := s.calls.erase call
      replies := s.replies ++ ((s.getReplyMsg.bind fun msg =>
        (s.reply call.callback payload facts).map fun json => (msg, json)).toList) } :
          LunaService).repliesTo message = s.repliesTo message ++
            if message = call.request.message ∧ message ∈ s.kept then
              (ownReply call.request payload facts).toList else [] := by
    intro message
    have happend := repliesTo_append s ((s.getReplyMsg.bind fun msg =>
      (s.reply call.callback payload facts).map fun json => (msg, json)).toList) message
    refine Eq.trans (repliesTo_congr rfl message) (happend.trans ?_)
    rw [hreply]
    congr 1
    by_cases hm : message = call.request.message ∧ message ∈ s.kept
    · obtain ⟨rfl, hin⟩ := hm
      rw [if_pos ⟨rfl, hin⟩, getReplyMsg_eq_some.mpr ⟨hlatest, hin⟩]
      cases ownReply call.request payload facts <;> simp
    · rw [if_neg hm]
      cases hmsg : s.getReplyMsg with
      | none => rfl
      | some msg =>
        obtain ⟨hsame, hin⟩ := getReplyMsg_eq_some.mp hmsg
        obtain rfl : call.request.message = msg := Option.some.inj (hlatest.symm.trans hsame)
        have hne : call.request.message ≠ message := fun heq => hm ⟨heq.symm, heq ▸ hin⟩
        cases ownReply call.request payload facts <;> simp [hne]
  have hothers : ∀ message, message ≠ call.request.message → ({ s with
      calls := s.calls.erase call
      replies := s.replies ++ ((s.getReplyMsg.bind fun msg =>
        (s.reply call.callback payload facts).map fun json => (msg, json)).toList) } :
          LunaService).repliesTo message = s.repliesTo message := by
    intro message hne
    rw [hto, if_neg (fun hm => hne hm.1), List.append_nil]
  have htold : Told (steps ++ [.answer call.request.message payload facts])
      { s with calls := s.calls.erase call } := h.answer hcall
  have hgone := htold.answered call.request.message payload facts (by simp)
  refine ⟨fun message hmessage => ?_, fun other hother => ?_, fun other hother heq => ?_,
    fun r hr payload' facts' hin hkeeps => ?_, fun r hr hasks hlost => ?_, fun r hr hmis => ?_⟩
  · have hne : message ≠ call.request.message := fun heq =>
      hmessage (heq ▸ List.mem_map_of_mem hmember)
    rw [hothers _ hne]
    exact hs.unasked message hmessage
  · rw [hothers _ (hgone.1 other hother)]
    exact hs.waiting other (List.mem_of_mem_erase hother)
  · have hsame : call.request.message = other.request.message :=
      Option.some.inj (hlatest.symm.trans heq)
    exact absurd hsame.symm (hgone.1 other hother)
  · rcases List.mem_append.mp hin with hold | hnow
    · have hne : r.message ≠ call.request.message := fun heq =>
        (h.answered _ payload' facts' hold).1 call hcall heq.symm
      rw [hothers _ hne]
      exact hs.settled r hr payload' facts' hold hkeeps
    · obtain ⟨hmessage, rfl, rfl⟩ := LunaStep.answer.inj (List.mem_singleton.mp hnow)
      obtain rfl : r = call.request := h.unique hr hmember hmessage
      rw [hto, if_pos ⟨rfl, hkept.mpr hkeeps⟩, hs.waiting call hcall]
      rfl
  · by_cases hr' : r = call.request
    · subst hr'
      rw [hto, if_neg (fun hm => hlost (hkept.mp hm.2)), List.append_nil]
      exact hs.waiting call hcall
    · rw [hothers _ (fun heq => hr' (h.unique hr hmember heq))]
      exact hs.lost r hr hasks hlost
  · have hne : r.message ≠ call.request.message := fun heq =>
      hmis (h.unique hr hmember heq ▸ (h.calls call hcall).2)
    rw [hothers _ hne]
    exact hs.mismatch r hr hmis

theorem run_served {steps : List LunaStep} {s : LunaService}
    (hrun : Schedules.run step {} steps = some s) (hstraight : Straight steps) :
    Told steps s ∧ Served steps s := by
  refine Schedules.run_history
    (P := fun steps s => Told steps s ∧ Recorded s ∧ (Straight steps → Served steps s))
    ⟨init_told, init_recorded, fun _ => init_served⟩
    (fun steps s i t h hstep => ?_) hrun |>.imp_right fun hs => hs.2 hstraight
  refine ⟨step_told h.1 hstep, step_recorded h.2.1 hstep, fun hstraight => ?_⟩
  have hbefore : Straight steps := fun message payload facts hat =>
    hstraight message payload facts (Schedules.at_concat.mpr (Or.inl hat))
  cases i with
  | request r =>
    obtain ⟨hnew, rfl⟩ := step_request hstep
    exact Served.request h.1 (h.2.2 hbefore) hnew
  | answer message payload facts =>
    obtain ⟨call, hcall, rfl, rfl⟩ := step_answer hstep
    refine Served.answer h.1 h.2.1 (h.2.2 hbefore) hcall ?_
    rw [h.1.replyMsg]
    by_contra hne
    exact hstraight _ payload facts (Schedules.at_concat.mpr (Or.inr ⟨rfl, hne⟩))

/-! ### Replies that have gone elsewhere -/

/-- A message that is not the latest gets nothing any more. -/
theorem run_forgotten {message : Nat} {steps : List LunaStep} {s t : LunaService}
    (hasked : message ∈ s.asked.map LunaRequest.message) (hreplyMsg : s.replyMsg ≠ some message)
    (hreplies : s.repliesTo message = []) (hrun : Schedules.run step s steps = some t) :
    t.repliesTo message = [] := by
  have hkept : message ∈ t.asked.map LunaRequest.message ∧ t.replyMsg ≠ some message ∧
      t.repliesTo message = [] := by
    refine Schedules.run_keeps (I := fun s : LunaService =>
      message ∈ s.asked.map LunaRequest.message ∧ s.replyMsg ≠ some message ∧
        s.repliesTo message = []) ⟨hasked, hreplyMsg, hreplies⟩ (fun s i t h hstep => ?_) hrun
    obtain ⟨hasked, hreplyMsg, hreplies⟩ := h
    cases i with
    | request r =>
      obtain ⟨hnew, rfl⟩ := step_request hstep
      have hne : r.message ≠ message := fun heq => hnew (heq ▸ hasked)
      refine ⟨?_, ?_, ?_⟩
      · show message ∈ (s.asked ++ [r]).map _
        rw [List.map_append]
        exact List.mem_append_left _ hasked
      · show (s.callback r).replyMsg ≠ _
        rw [callback_replyMsg]
        simpa using hne
      · by_cases hasks : AsksDb8 r
        · obtain ⟨own, hown⟩ := s.callback_asks hasks
          exact (repliesTo_congr hown.replies message).trans hreplies
        · obtain ⟨-, -, -, heq⟩ := s.callback_mismatch hasks
          unfold repliesTo at hreplies ⊢
          show ((s.callback r).replies.filter _).map _ = _
          rw [heq, List.filter_append, List.map_append, hreplies]
          simp [hne]
    | answer message' payload facts =>
      obtain ⟨call, -, -, rfl⟩ := step_answer hstep
      refine ⟨hasked, hreplyMsg, ?_⟩
      refine Eq.trans (repliesTo_congr rfl message) ((repliesTo_append s _ message).trans ?_)
      rw [hreplies]
      cases hmsg : s.getReplyMsg with
      | none => rfl
      | some msg =>
        have hne : msg ≠ message := fun heq =>
          hreplyMsg ((getReplyMsg_eq_some.mp hmsg).1.trans (congrArg some heq))
        cases s.reply call.callback payload facts <;> simp [hne]
  exact hkept.2.2

/-- Where all requests are served, every answer has come in time. -/
theorem straight_of_routed {steps : List LunaStep} {s : LunaService}
    (hrun : Schedules.run step {} steps = some s) (hrouted : Routed steps s) : Straight steps := by
  have hpre : ∀ before after, steps = before ++ after → Straight before := by
    intro before
    induction before using List.reverseRecOn with
    | nil => exact fun _ _ _ _ _ hat => Schedules.not_at_nil hat
    | append_singleton before i ih =>
      intro after heq message payload facts hat
      have hbefore : Straight before := ih (i :: after) (by rw [heq, List.append_assoc]; rfl)
      rcases Schedules.at_concat.mp hat with hold | ⟨rfl, hlatest⟩
      · exact hbefore message payload facts hold
      · -- the first answer that comes too late: its message never gets a reply
        rw [heq, Schedules.run_append] at hrun
        obtain ⟨u, hu, hafter⟩ := Option.bind_eq_some_iff.mp hrun
        obtain ⟨t, ht, hstep⟩ := Schedules.run_concat hu
        obtain ⟨h, hs⟩ := run_served ht hbefore
        have hnever : u.repliesTo message = [] := by
          obtain ⟨call, hcall, rfl, rfl⟩ := step_answer hstep
          refine Eq.trans (repliesTo_congr rfl _) ((repliesTo_append t _ _).trans ?_)
          rw [hs.waiting call hcall]
          rw [← h.replyMsg] at hlatest
          cases hmsg : t.getReplyMsg with
          | none => rfl
          | some msg =>
            have hne : msg ≠ call.request.message := fun heq =>
              hlatest ((getReplyMsg_eq_some.mp hmsg).1.trans (congrArg some heq))
            cases t.reply call.callback payload facts <;> simp [hne]
        obtain ⟨call, hcall, hmessage, hsucc⟩ := step_answer hstep
        have hasked : call.request ∈ t.asked := (h.calls call hcall).1
        have hnone : s.repliesTo message = [] := by
          refine run_forgotten ?_ ?_ hnever hafter
          · rw [hsucc, ← hmessage]
            exact List.mem_map_of_mem hasked
          · rw [hsucc]
            show t.replyMsg ≠ some message
            rw [h.replyMsg]
            exact hlatest
        have hlater : call.request ∈ s.asked := by
          have hin := (h.asked call.request).mp hasked
          have hwhole : Schedules.run step {} steps = some s := by
            rw [heq, Schedules.run_append, hu]
            exact hafter
          rw [(run_told hwhole).asked, heq]
          simp [hin]
        obtain ⟨-, -, -, json, -, -, hone⟩ :=
          hrouted.asks call.request hlater (h.calls call hcall).2
        rw [hmessage, hnone] at hone
        exact absurd hone (by simp)
  exact hpre steps [] (by simp)

/-! ### The result -/

/-- **Once db8 has answered every find call, every request has had exactly one reply, made
from its own parameters and the answer to its own find call, if and only if every answer
came before the next request, was of a kind that is replied to and found the message.** -/
theorem routed_iff {steps : List LunaStep} {s : LunaService}
    (hrun : Schedules.run step {} steps = some s) (hanswered : s.calls = []) :
    Routed steps s ↔ Straight steps ∧ Answerable steps := by
  have h : Told steps s := run_told hrun
  constructor
  · intro hrouted
    have hstraight := straight_of_routed hrun hrouted
    obtain ⟨-, hs⟩ := run_served hrun hstraight
    refine ⟨hstraight, fun r payload facts hreq hin => ?_⟩
    have hasked : r ∈ s.asked := (h.asked r).mpr hreq
    obtain ⟨-, own, hown, hasks, hmessage⟩ := h.answered _ _ _ hin
    rw [h.unique hown hasked hmessage] at hasks
    obtain ⟨-, -, -, json, -, -, hjson⟩ := hrouted.asks r hasked hasks
    have hkept : Kept r := by
      by_contra hlost
      rw [hs.lost r hasked hasks hlost] at hjson
      exact absurd hjson (by simp)
    refine ⟨hkept, ?_⟩
    rw [hs.settled r hasked payload facts hin hkept] at hjson
    rw [← ownReply_isSome]
    cases hreply : ownReply r payload facts with
    | none =>
      rw [hreply] at hjson
      exact absurd hjson (by simp)
    | some json => rfl
  · rintro ⟨hstraight, hanswerable⟩
    obtain ⟨-, hs⟩ := run_served hrun hstraight
    refine ⟨fun r hasked hasks => ⟨(run_recorded hrun).sent r hasked hasks, ?_⟩, hs.mismatch⟩
    rcases h.pending r hasked hasks with ⟨call, hcall, -⟩ | ⟨payload, facts, hin⟩
    · rw [hanswered] at hcall
      exact absurd hcall List.not_mem_nil
    · obtain ⟨hkept, hreplies⟩ := hanswerable r payload facts ((h.asked r).mp hasked) hin
      obtain ⟨json, hown⟩ := Option.isSome_iff_exists.mp (ownReply_isSome.mpr hreplies)
      refine ⟨payload, facts, json, hin, hown, ?_⟩
      rw [hs.settled r hasked payload facts hin hkept, hown]
      rfl

/-- Two sticks, one with the drive sda1 and one with sdb1. -/
def twoDrives : Option DbPayload :=
  some ⟨true, some
    [{ deviceType := "USB_STORAGE", storageDriveList := [⟨"sda1", "/tmp/usb/sda/sda1"⟩] },
      { deviceType := "USB_STORAGE", storageDriveList := [⟨"sdb1", "/tmp/usb/sdb/sdb1"⟩] }]⟩

/-- Three clients, one after the other; the last subscribes to the list of storage devices. -/
def inTurn : List LunaStep :=
  [.request { message := 1, method := .getSpaceInfo "sda1" }, .answer 1 twoDrives {},
    .request { message := 2, method := .isWritableDrive "sdb1" }, .answer 2 twoDrives {},
    .request { message := 3, method := .getAttachedStorageDeviceList, isSubscription := true },
    .answer 3 twoDrives {}]

theorem routed_iff_in_turn :
    ∃ s, Schedules.run step {} inTurn = some s ∧ s.calls = [] ∧
      (Routed inTurn s ↔ Straight inTurn ∧ Answerable inTurn) := by
  have hanswered : ((Schedules.run step {} inTurn).get (by decide)).calls = [] := by decide
  exact ⟨_, by simp, hanswered, routed_iff (by simp) hanswered⟩

/-- The first two, the second of them before db8 has answered the first. -/
def overlapping : List LunaStep :=
  [.request { message := 1, method := .getSpaceInfo "sda1" },
    .request { message := 2, method := .isWritableDrive "sdb1" },
    .answer 1 twoDrives {}, .answer 2 twoDrives {}]

/-- A microphone is to be ejected. -/
def notStorage : List LunaStep :=
  [.request { message := 1, method := .eject 1 },
    .answer 1 (some ⟨true, some [{ deviceType := "AUDIO" }]⟩) {}]

/-- The list of storage devices, once. -/
def unsubscribed : List LunaStep :=
  [.request { message := 1, method := .getAttachedStorageDeviceList }, .answer 1 twoDrives {}]

/-- The second client gets both replies, and the first none; nor is there one for a device
that cannot be ejected, nor on a message that nothing keeps. -/
theorem replies_misrouted :
    (∃ s, Schedules.run step {} overlapping = some s ∧ s.calls = [] ∧
      s.repliesTo 1 = [] ∧ (s.repliesTo 2).length = 2 ∧ ¬ Routed overlapping s) ∧
    (∃ s, Schedules.run step {} notStorage = some s ∧ s.calls = [] ∧
      s.repliesTo 1 = [] ∧ ¬ Routed notStorage s) ∧
    ∃ s, Schedules.run step {} unsubscribed = some s ∧ s.calls = [] ∧
      s.repliesTo 1 = [] ∧ ¬ Routed unsubscribed s := by
  have hnever : ∀ {steps : List LunaStep} {s : LunaService} {r : LunaRequest}, r ∈ s.asked →
      (∀ category, r.method ≠ .getAttachedNonStorageDeviceList category) →
        s.repliesTo r.message = [] → ¬ Routed steps s := by
    intro steps s r hasked hmethod hnone hrouted
    obtain ⟨-, -, -, json, -, -, hone⟩ :=
      hrouted.asks r hasked fun category heq => absurd heq (hmethod category)
    rw [hnone] at hone
    exact absurd hone (by simp)
  refine ⟨⟨(Schedules.run step {} overlapping).get (by decide), by simp, by decide, by decide,
    by decide, ?_⟩, ⟨(Schedules.run step {} notStorage).get (by decide), by simp, by decide,
      by decide, ?_⟩, ⟨(Schedules.run step {} unsubscribed).get (by decide), by simp, by decide,
      by decide, ?_⟩⟩
  · exact hnever (r := { message := 1, method := .getSpaceInfo "sda1" }) (by decide) (by simp)
      (by decide)
  · exact hnever (r := { message := 1, method := .eject 1 }) (by decide) (by simp) (by decide)
  · exact hnever (r := { message := 1, method := .getAttachedStorageDeviceList }) (by decide)
      (by simp) (by decide)

end LunaService

end Pdm
