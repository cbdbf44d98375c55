/-
Which session, which user and which client belong to a display.

The three are found in different ways, all among the first three sessions of each answer.  The
session of a display is the last one that was ever named with it; its user is that of the first
session in the last answer that named it; and a client is taken for the least display, in the
order of names, whose session is the client's, be the answer that said so long overtaken.
-/
import Pdm.Framework.AccountSessions

namespace Pdm

open KeysOfValues

/-! ### What the answers say -/

/-- The sessions of an answer that are read: the first three, and empty ones where the first or
the second is missing. -/
def heard (sessions : List (Option AccountSession)) : List AccountSession :=
  [AccountSessions.session sessions 0, AccountSessions.session sessions 1] ++
    sessions[2]?.join.toList

/-- The sessions that an input names among those that are read. -/
def AccountInput.named : AccountInput → List AccountSession
  | .answer sessions => heard sessions
  | .toast _ => []

/-- The last session that was named with a display. -/
def lastSession (inputs : List AccountInput) (deviceSetId : String) : Option String :=
  (((inputs.flatMap AccountInput.named).filter (·.deviceSetId = deviceSetId)).getLast?).map
    AccountSession.sessionId

/-- The session of a display: an empty one if there has only been a toast for it. -/
def knownSession (inputs : List AccountInput) (deviceSetId : String) : Option String :=
  (lastSession inputs deviceSetId).or
    (if AccountInput.toast deviceSetId ∈ inputs then some "" else none)

/-- The user that an input names with a display: that of the first session. -/
def AccountInput.user (deviceSetId : String) (input : AccountInput) : Option String :=
  (input.named.find? (·.deviceSetId = deviceSetId)).map AccountSession.accountId

/-- The user named with a display by the last input that names one. -/
def lastUser (inputs : List AccountInput) (deviceSetId : String) : Option String :=
  (inputs.filterMap (AccountInput.user deviceSetId)).getLast?

namespace AccountSessions

variable (s : AccountSessions) (sessions : List (Option AccountSession)) (deviceSetId : String)

/-! ### One input -/

theorem putSession_get (m : Std.TreeMap String String) (session : AccountSession) :
    (putSession m session)[deviceSetId]? =
      if session.deviceSetId = deviceSetId then some session.sessionId else m[deviceSetId]? := by
  unfold putSession
  rw [Std.TreeMap.getElem?_insert]
  simp only [Std.LawfulEqCmp.compare_eq_iff_eq]

/-- Sessions are put in one after the other. -/
theorem foldl_putSession_get (l : List AccountSession) (m : Std.TreeMap String String) :
    (l.foldl putSession m)[deviceSetId]? =
      (((l.filter (·.deviceSetId = deviceSetId)).getLast?).map AccountSession.sessionId).or
        m[deviceSetId]? := by
  induction l generalizing m with
  | nil => rfl
  | cons session l ih =>
    rw [List.foldl_cons, ih, putSession_get, List.filter_cons]
    by_cases hname : session.deviceSetId = deviceSetId
    · rw [if_pos hname, if_pos (decide_eq_true hname)]
      cases hlast : (l.filter (·.deviceSetId = deviceSetId)).getLast? with
      | none => rw [List.getLast?_eq_none_iff.mp hlast]; rfl
      | some last => rw [List.getLast?_cons, hlast]; rfl
    · rw [if_neg hname, if_neg (by simpa using hname)]

theorem queryForSession_sessionMap :
    (s.queryForSession sessions).sessionMap = (heard sessions).foldl putSession s.sessionMap := by
  unfold queryForSession heard session
  rw [List.foldl_append]
  cases sessions[2]?.join with
  | none => rfl
  | some third => rfl

/-- **The session of a display after an input is the last one named, or stays.** -/
theorem step_get (input : AccountInput) :
    (s.step input).sessionMap[deviceSetId]? =
      (((input.named.filter (·.deviceSetId = deviceSetId)).getLast?).map
        AccountSession.sessionId).or
        (s.sessionMap[deviceSetId]?.or (if input = .toast deviceSetId then some "" else none)) := by
  cases input with
  | answer sessions =>
    change (s.queryForSession sessions).sessionMap[deviceSetId]? = _
    rw [queryForSession_sessionMap, foldl_putSession_get, if_neg nofun, Option.or_none]
    rfl
  | toast display =>
    change (s.sessionMap.insertIfNew display "")[deviceSetId]? = _
    rw [Std.TreeMap.getElem?_insertIfNew]
    simp only [Std.LawfulEqCmp.compare_eq_iff_eq, AccountInput.toast.injEq]
    change _ = s.sessionMap[deviceSetId]?.or _
    by_cases hname : display = deviceSetId
    · subst hname
      rw [if_pos rfl]
      by_cases hmem : display ∈ s.sessionMap
      · rw [if_neg fun h => h.2 hmem, Std.TreeMap.getElem?_eq_some_getElem hmem]
        rfl
      · rw [if_pos ⟨rfl, hmem⟩, Std.TreeMap.getElem?_eq_none hmem]
        rfl
    · rw [if_neg fun h => hname h.1, if_neg hname, Option.or_none]

theorem userId_eq (hname : deviceSetId ≠ "") (user : String) :
    userId sessions deviceSetId user =
      ((AccountInput.answer sessions).user deviceSetId).getD user := by
  unfold userId AccountInput.user AccountInput.named heard
  dsimp only
  rw [List.cons_append, List.cons_append, List.nil_append, List.find?_cons, List.find?_cons]
  by_cases h₀ : (session sessions 0).deviceSetId = deviceSetId
  · rw [if_pos h₀, decide_eq_true h₀]
    rfl
  rw [if_neg h₀, decide_eq_false h₀]
  by_cases h₁ : (session sessions 1).deviceSetId = deviceSetId
  · rw [if_pos h₁, decide_eq_true h₁]
    rfl
  rw [if_neg h₁, decide_eq_false h₁]
  have hsecond : session sessions 2 = (sessions[2]?.join).getD {} := rfl
  cases hthird : sessions[2]?.join with
  | none =>
    rw [hthird] at hsecond
    rw [hsecond, if_neg fun h => h.1 rfl]
    rfl
  | some third =>
    rw [hthird] at hsecond
    rw [hsecond]
    by_cases h₂ : third.deviceSetId = deviceSetId
    · rw [if_pos ⟨fun h => hname (h₂.symm.trans h), h₂⟩]
      simp [h₂]
    · rw [if_neg fun h => h₂ h.2]
      simp [h₂]

theorem step_user (input : AccountInput) (d : Display) :
    (s.step input).user d = (input.user d.name).getD (s.user d) := by
  cases input with
  | toast display => cases d <;> rfl
  | answer sessions =>
    cases d with
    | avn => exact userId_eq sessions "AVN" (by decide) s.avnUserId
    | rseL => exact userId_eq sessions "RSE-L" (by decide) s.rselUserId
    | rseR => exact userId_eq sessions "RSE-R" (by decide) s.rserUserId

/-! ### Runs -/

theorem lastSession_cons (input : AccountInput) (inputs : List AccountInput) :
    lastSession (input :: inputs) deviceSetId =
      (lastSession inputs deviceSetId).or
        (((input.named.filter (·.deviceSetId = deviceSetId)).getLast?).map
          AccountSession.sessionId) := by
  unfold lastSession
  rw [List.flatMap_cons, List.filter_append, List.getLast?_append, Option.map_or]

theorem run_get (inputs : List AccountInput) :
    (Runs.run step s inputs).sessionMap[deviceSetId]? =
      (lastSession inputs deviceSetId).or (s.sessionMap[deviceSetId]?.or
        (if AccountInput.toast deviceSetId ∈ inputs then some "" else none)) := by
  induction inputs generalizing s with
  | nil => exact Option.or_none.symm
  | cons input inputs ih =>
    have htoast : ((if input = .toast deviceSetId then some "" else none).or
        (if AccountInput.toast deviceSetId ∈ inputs then some "" else none) : Option String) =
          if AccountInput.toast deviceSetId ∈ input :: inputs then some "" else none := by
      by_cases hinput : input = .toast deviceSetId
      · rw [if_pos hinput, if_pos (List.mem_cons.mpr (Or.inl hinput.symm))]
        rfl
      · have hrest : AccountInput.toast deviceSetId ∈ input :: inputs ↔
            AccountInput.toast deviceSetId ∈ inputs :=
          List.mem_cons.trans (or_iff_right (Ne.symm hinput))
        rw [if_neg hinput, Option.none_or]
        exact (if_congr hrest rfl rfl).symm
    rw [Runs.run_cons, ih, step_get, lastSession_cons, ← htoast]
    simp only [Option.or_assoc]

theorem lastUser_cons (input : AccountInput) (inputs : List AccountInput) :
    lastUser (input :: inputs) deviceSetId =
      (lastUser inputs deviceSetId).or (input.user deviceSetId) := by
  unfold lastUser
  rw [List.filterMap_cons]
  cases input.user deviceSetId with
  | none => rw [Option.or_none]
  | some user => rw [List.getLast?_cons]; cases List.getLast? _ <;> rfl

theorem run_user (inputs : List AccountInput) (d : Display) :
    (Runs.run step s inputs).user d = (lastUser inputs d.name).getD (s.user d) := by
  induction inputs generalizing s with
  | nil => rfl
  | cons input inputs ih =>
    rw [Runs.run_cons, ih, step_user, lastUser_cons]
    cases lastUser inputs d.name with
    | none => rfl
    | some user => rfl

/-- A client is taken for the least display that has its session. -/
theorem clientDisplay_eq_iff (sessionId : String) (hname : deviceSetId ≠ "") :
    s.clientDisplay sessionId = deviceSetId ↔ sessionId ≠ "host" ∧
      s.sessionMap[deviceSetId]? = some sessionId ∧
        ∀ k, k < deviceSetId → s.sessionMap[k]? ≠ some sessionId := by
  have hlt : ∀ k, compare k deviceSetId = .lt ↔ k < deviceSetId :=
    fun k => compareOfLessAndEq_eq_lt
  have hkey := keyOf_eq_some_iff (m := s.sessionMap) (a := deviceSetId) (b := sessionId)
  simp only [hlt] at hkey
  rw [← hkey]
  unfold clientDisplay
  by_cases hhost : sessionId = "host"
  · rw [if_neg (not_not_intro hhost)]
    exact iff_of_false (fun h => hname h.symm) fun h => h.1 hhost
  · rw [if_pos hhost, and_iff_right hhost]
    change (keyOf s.sessionMap sessionId).getD "" = deviceSetId ↔ _
    cases keyOf s.sessionMap sessionId with
    | none => exact iff_of_false (fun h => hname h.symm) nofun
    | some k => exact Option.some_inj.symm

/-- **What is known of the sessions.**  After any answers of the account service and any
toasts, of which the first three sessions are read: the session of a display is the last one ever
named with it; the user of a display is that of the first session in the last answer that names
it; and a client is taken for a display exactly if it is not the host and the display's session
is the client's and that of no lesser display is. -/
theorem sessions_known (inputs : List AccountInput) :
    let s := Runs.run step {} inputs
    (∀ deviceSetId, s.sessionMap[deviceSetId]? = knownSession inputs deviceSetId) ∧
      (∀ d : Display, s.user d = (lastUser inputs d.name).getD (({} : AccountSessions).user d)) ∧
      ∀ sessionId deviceSetId, deviceSetId ≠ "" →
        (s.clientDisplay sessionId = deviceSetId ↔ sessionId ≠ "host" ∧
          knownSession inputs deviceSetId = some sessionId ∧
            ∀ k, k < deviceSetId → knownSession inputs k ≠ some sessionId) := by
  intro s
  have hknown : ∀ deviceSetId, s.sessionMap[deviceSetId]? = knownSession inputs deviceSetId := by
    intro deviceSetId
    refine (run_get {} deviceSetId inputs).trans ?_
    unfold knownSession
    rw [Std.TreeMap.getElem?_emptyc, Option.none_or]
  refine ⟨hknown, run_user {} inputs, fun sessionId deviceSetId hname => ?_⟩
  rw [clientDisplay_eq_iff s deviceSetId sessionId hname]
  simp only [hknown]

end AccountSessions

end Pdm
