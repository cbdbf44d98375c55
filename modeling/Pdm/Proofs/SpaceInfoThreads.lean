/-
When the thread that keeps the space up to date is started once, and when its start hangs.

Between the look at the status and the assignment of the thread a caller is in the section
that starts the thread.  As long as no two callers are in it at a time (`Serial`) there is
one thread at most and nothing calls `std::terminate` (`Orderly`).  But the status tells of
the thread only from its first statement on: a caller that looks before that takes it for
over and joins it, and a thread whose device stays mounted is never over.  In the same way
a caller that looks before the thread's last statement takes it for one that goes on.
-/
import Pdm.Handlers.SpaceInfoThread

namespace Pdm

/-- The caller has found the status false, and has not assigned the thread yet. -/
def NotifierPhase.starting : NotifierPhase → Bool
  | .outside => false
  | .statusTest => false
  | _ => true

/-- The caller is on its way to the join of the thread. -/
def NotifierPhase.headed : NotifierPhase → Bool
  | .mountedTest => true
  | .joinableTest => true
  | .join => true
  | .joining _ => true
  | _ => false

/-- The thread has raised the status, and has not taken it back. -/
def SpacePhase.raised : SpacePhase → Bool
  | .loopTest => true
  | .computing => true
  | .sleeping => true
  | .leaving => true
  | _ => false

/-- The thread has statements to come. -/
def SpacePhase.live : SpacePhase → Bool
  | .unstarted => false
  | .returned => false
  | _ => true

/-- The thread stays for as long as a device is mounted. -/
def SpacePhase.staying : SpacePhase → Bool
  | .spawned => true
  | .loopTest => true
  | .computing => true
  | .sleeping => true
  | _ => false

/-- The step is not one that another caller than `k` takes. -/
def SpaceStep.OnlyBy (k : Nat) : SpaceStep → Prop
  | .notify i => i = k
  | .advance i => i = k
  | _ => True

namespace SpaceInfoThreads

variable {s t : SpaceInfoThreads} {i j n : Nat} {x : SpaceStep}

section fields

variable (s : SpaceInfoThreads) (i : Nat) (p : NotifierPhase) (q : SpacePhase)

@[simp] theorem moveTo_storageList : (s.moveTo i p).storageList = s.storageList := rfl
@[simp] theorem moveTo_status :
    (s.moveTo i p).spaceInfoThreadStatus = s.spaceInfoThreadStatus := rfl
@[simp] theorem moveTo_spaceInfoThread : (s.moveTo i p).spaceInfoThread = s.spaceInfoThread := rfl
@[simp] theorem moveTo_started : (s.moveTo i p).started = s.started := rfl
@[simp] theorem moveTo_thread : (s.moveTo i p).thread = s.thread := rfl
@[simp] theorem moveTo_terminated : (s.moveTo i p).terminated = s.terminated := rfl
@[simp] theorem moveTo_mounted : (s.moveTo i p).mounted = s.mounted := rfl
@[simp] theorem runTo_storageList : (s.runTo i q).storageList = s.storageList := rfl
@[simp] theorem runTo_status :
    (s.runTo i q).spaceInfoThreadStatus = s.spaceInfoThreadStatus := rfl
@[simp] theorem runTo_spaceInfoThread : (s.runTo i q).spaceInfoThread = s.spaceInfoThread := rfl
@[simp] theorem runTo_started : (s.runTo i q).started = s.started := rfl
@[simp] theorem runTo_notifier : (s.runTo i q).notifier = s.notifier := rfl
@[simp] theorem runTo_terminated : (s.runTo i q).terminated = s.terminated := rfl

theorem moveTo_notifier (j : Nat) :
    (s.moveTo i p).notifier j = if j = i then p else s.notifier j :=
  Function.update_apply s.notifier i p j

theorem runTo_thread (j : Nat) : (s.runTo i q).thread j = if j = i then q else s.thread j :=
  Function.update_apply s.thread i q j

end fields

/-! ### What a step does -/

/-- The steps that can be taken, with what each leaves. -/
inductive Stepped (s : SpaceInfoThreads) : SpaceStep → SpaceInfoThreads → Prop
  | notify (i : Nat) (hi : s.notifier i = .outside) : Stepped s (.notify i) (s.moveTo i .statusTest)
  | change (i : Nat) (storageList : List StorageDevice) (hi : s.notifier i = .outside) :
      Stepped s (.change i storageList) { s with storageList := storageList }
  | found (i : Nat) (hi : s.notifier i = .statusTest) (hstatus : s.spaceInfoThreadStatus = true) :
      Stepped s (.advance i) (s.moveTo i .outside)
  | missed (i : Nat) (hi : s.notifier i = .statusTest) (hstatus : s.spaceInfoThreadStatus = false) :
      Stepped s (.advance i) (s.moveTo i .mountedTest)
  | needless (i : Nat) (hi : s.notifier i = .mountedTest) (hmounted : s.mounted = false) :
      Stepped s (.advance i) (s.moveTo i .outside)
  | needed (i : Nat) (hi : s.notifier i = .mountedTest) (hmounted : s.mounted = true) :
      Stepped s (.advance i) (s.moveTo i .joinableTest)
  | joinable (i n : Nat) (hi : s.notifier i = .joinableTest) (hthread : s.spaceInfoThread = some n) :
      Stepped s (.advance i) (s.moveTo i .join)
  | fresh (i : Nat) (hi : s.notifier i = .joinableTest) (hthread : s.spaceInfoThread = none) :
      Stepped s (.advance i) (s.moveTo i .start)
  | join (i n : Nat) (hi : s.notifier i = .join) (hthread : s.spaceInfoThread = some n) :
      Stepped s (.advance i) (s.moveTo i (.joining n))
  | joinNone (i : Nat) (hi : s.notifier i = .join) (hthread : s.spaceInfoThread = none) :
      Stepped s (.advance i) { s with terminated := true }
  | joined (i n : Nat) (hi : s.notifier i = .joining n) (hover : s.thread n = .returned)
      (hthread : s.spaceInfoThread = some n) :
      Stepped s (.advance i) { s.moveTo i .start with spaceInfoThread := none }
  | joinedTwice (i n : Nat) (hi : s.notifier i = .joining n) (hover : s.thread n = .returned)
      (hthread : s.spaceInfoThread ≠ some n) :
      Stepped s (.advance i) { s with terminated := true }
  | start (i : Nat) (hi : s.notifier i = .start) :
      Stepped s (.advance i)
        { (s.runTo s.started .spawned).moveTo i (.assign s.started) with started := s.started + 1 }
  | assign (i n : Nat) (hi : s.notifier i = .assign n) (hthread : s.spaceInfoThread = none) :
      Stepped s (.advance i) { s.moveTo i .outside with spaceInfoThread := some n }
  | assignOver (i n : Nat) (hi : s.notifier i = .assign n) (hthread : s.spaceInfoThread ≠ none) :
      Stepped s (.advance i) { s with terminated := true }
  | raise (n : Nat) (env : Env) (hn : s.thread n = .spawned) :
      Stepped s (.run n env) { s.runTo n .loopTest with spaceInfoThreadStatus := true }
  | goOn (n : Nat) (env : Env) (hn : s.thread n = .loopTest)
      (hstatus : s.spaceInfoThreadStatus = true) : Stepped s (.run n env) (s.runTo n .computing)
  | stop (n : Nat) (env : Env) (hn : s.thread n = .loopTest)
      (hstatus : s.spaceInfoThreadStatus = false) : Stepped s (.run n env) (s.runTo n .leaving)
  | compute (n : Nat) (env : Env) (hn : s.thread n = .computing) (hmounted : s.mounted = true) :
      Stepped s (.run n env)
        { s.runTo n .sleeping with storageList := computeSpaceInfo env s.storageList }
  | breakOff (n : Nat) (env : Env) (hn : s.thread n = .computing) (hmounted : s.mounted = false) :
      Stepped s (.run n env) (s.runTo n .leaving)
  | wake (n : Nat) (env : Env) (hn : s.thread n = .sleeping) :
      Stepped s (.run n env) (s.runTo n .loopTest)
  | lower (n : Nat) (env : Env) (hn : s.thread n = .leaving) :
      Stepped s (.run n env) { s.runTo n .returned with spaceInfoThreadStatus := false }

theorem commandNotification_cases (hstep : s.commandNotification i = some t) :
    Stepped s (.advance i) t := by
  unfold commandNotification at hstep
  cases hi : s.notifier i with
  | outside => simp [hi] at hstep
  | statusTest =>
    rw [hi] at hstep
    rw [← Option.some.inj hstep]
    cases hstatus : s.spaceInfoThreadStatus with
    | true => exact .found i hi hstatus
    | false => exact .missed i hi hstatus
  | mountedTest =>
    rw [hi] at hstep
    rw [← Option.some.inj hstep]
    cases hmounted : s.mounted with
    | true => exact .needed i hi hmounted
    | false => exact .needless i hi hmounted
  | joinableTest =>
    rw [hi] at hstep
    rw [← Option.some.inj hstep]
    cases hthread : s.spaceInfoThread with
    | none => exact .fresh i hi hthread
    | some n => exact .joinable i n hi hthread
  | join =>
    rw [hi] at hstep
    dsimp only at hstep
    split at hstep
    case h_1 n hthread =>
      rw [← Option.some.inj hstep]
      exact .join i n hi hthread
    case h_2 hthread =>
      rw [← Option.some.inj hstep]
      exact .joinNone i hi hthread
  | joining n =>
    rw [hi] at hstep
    obtain ⟨hover, hstep⟩ := Option.ite_none_right_eq_some.mp hstep
    split at hstep
    case isTrue hthread =>
      rw [← Option.some.inj hstep]
      exact .joined i n hi hover hthread
    case isFalse hthread =>
      rw [← Option.some.inj hstep]
      exact .joinedTwice i n hi hover hthread
  | start =>
    rw [hi] at hstep
    rw [← Option.some.inj hstep]
    exact .start i hi
  | assign n =>
    rw [hi] at hstep
    dsimp only at hstep
    split at hstep
    case isTrue hthread =>
      rw [← Option.some.inj hstep]
      exact .assign i n hi hthread
    case isFalse hthread =>
      rw [← Option.some.inj hstep]
      exact .assignOver i n hi hthread

theorem computeSpaceInfoThread_cases {env : Env}
    (hstep : s.computeSpaceInfoThread n env = some t) : Stepped s (.run n env) t := by
  unfold computeSpaceInfoThread at hstep
  cases hn : s.thread n with
  | unstarted => simp [hn] at hstep
  | returned => simp [hn] at hstep
  | spawned =>
    rw [hn] at hstep
    rw [← Option.some.inj hstep]
    exact .raise n env hn
  | loopTest =>
    rw [hn] at hstep
    rw [← Option.some.inj hstep]
    cases hstatus : s.spaceInfoThreadStatus with
    | true => exact .goOn n env hn hstatus
    | false => exact .stop n env hn hstatus
  | computing =>
    rw [hn] at hstep
    dsimp only at hstep
    cases hmounted : s.mounted with
    | true =>
      have hlist : s.storageList ≠ [] := by
        intro hempty
        simp [mounted, hempty] at hmounted
      rw [if_neg hlist, if_pos hmounted] at hstep
      rw [← Option.some.inj hstep]
      exact .compute n env hn hmounted
    | false =>
      rw [hmounted] at hstep
      rw [if_neg Bool.false_ne_true, ite_self] at hstep
      rw [← Option.some.inj hstep]
      exact .breakOff n env hn hmounted
  | sleeping =>
    rw [hn] at hstep
    rw [← Option.some.inj hstep]
    exact .wake n env hn
  | leaving =>
    rw [hn] at hstep
    rw [← Option.some.inj hstep]
    exact .lower n env hn

theorem step_cases (hstep : s.step x = some t) : s.terminated = false ∧ Stepped s x t := by
  unfold step at hstep
  obtain ⟨halive, hstep⟩ := Option.ite_none_left_eq_some.mp hstep
  refine ⟨Bool.eq_false_iff.mpr halive, ?_⟩
  cases x with
  | notify i =>
    obtain ⟨hi, hstep⟩ := Option.ite_none_right_eq_some.mp hstep
    rw [← Option.some.inj hstep]
    exact .notify i hi
  | change i storageList =>
    obtain ⟨hi, hstep⟩ := Option.ite_none_right_eq_some.mp hstep
    rw [← Option.some.inj hstep]
    exact .change i storageList hi
  | advance i => exact commandNotification_cases hstep
  | run n env => exact computeSpaceInfoThread_cases hstep

/-- A caller moves by its own steps only. -/
theorem Stepped.notifier_other (h : Stepped s x t) (hnotify : x ≠ .notify j)
    (hadvance : x ≠ .advance j) : t.notifier j = s.notifier j := by
  have hmove : ∀ (i : Nat) (p : NotifierPhase), i ≠ j →
      (s.moveTo i p).notifier j = s.notifier j := by
    intro i p hij
    rw [moveTo_notifier, if_neg (Ne.symm hij)]
  cases h with
  | notify i hi => exact hmove i _ fun hij => hnotify (congrArg _ hij)
  | change i storageList hi => rfl
  | joinNone i hi hthread => rfl
  | joinedTwice i n hi hover hthread => rfl
  | assignOver i n hi hthread => rfl
  | raise n env hn => rfl
  | goOn n env hn hstatus => rfl
  | stop n env hn hstatus => rfl
  | compute n env hn hmounted => rfl
  | breakOff n env hn hmounted => rfl
  | wake n env hn => rfl
  | lower n env hn => rfl
  | _ => exact hmove _ _ fun hij => hadvance (congrArg _ hij)

/-! ### One thread at most -/

/-- No one looks at the status, and finds it false, while another caller is starting a thread. -/
def Serial (s : SpaceInfoThreads) (x : SpaceStep) : Prop :=
  ∀ i, x = .advance i → s.notifier i = .statusTest → s.spaceInfoThreadStatus = false →
    ∀ j, (s.notifier j).starting = false

/-- The thread started last is the only one that may have statements to come, and
`mSpaceInfoThread` stands for it unless it is about to. -/
structure Orderly (s : SpaceInfoThreads) : Prop where
  alone : ∀ i j, (s.notifier i).starting = true → (s.notifier j).starting = true → i = j
  past : ∀ n, (s.thread n).live = true → n + 1 = s.started
  begun : ∀ n, n < s.started → s.thread n ≠ .unstarted
  handle : ∀ n, s.spaceInfoThread = some n → n + 1 = s.started
  held : ∀ n, (s.thread n).live = true →
    s.spaceInfoThread = some n ∨ ∃ i, s.notifier i = .assign n
  join : ∀ i, s.notifier i = .join → s.spaceInfoThread ≠ none
  joining : ∀ i n, s.notifier i = .joining n → s.spaceInfoThread = some n
  start : ∀ i, s.notifier i = .start → s.spaceInfoThread = none
  assign : ∀ i n, s.notifier i = .assign n → s.spaceInfoThread = none ∧ n + 1 = s.started
  status : s.spaceInfoThreadStatus = true ↔ ∃ n, (s.thread n).raised = true

theorem init_orderly : Orderly {} where
  alone := by simp [NotifierPhase.starting]
  past := by simp [SpacePhase.live]
  begun := by simp
  handle := by simp
  held := by simp [SpacePhase.live]
  join := by simp
  joining := by simp
  start := by simp
  assign := by simp
  status := by simp [SpacePhase.raised]

/-- A caller moves on, within the section or out of it or in where nobody is. -/
theorem Orderly.moveTo {p : NotifierPhase} (h : Orderly s)
    (halone : p.starting = true → (s.notifier i).starting = true ∨
      ∀ j, (s.notifier j).starting = false)
    (hheld : ∀ n, s.notifier i ≠ .assign n) (hjoin : p = .join → s.spaceInfoThread ≠ none)
    (hjoining : ∀ n, p = .joining n → s.spaceInfoThread = some n)
    (hstart : p = .start → s.spaceInfoThread = none) (hassign : ∀ n, p ≠ .assign n) :
    Orderly (s.moveTo i p) where
  alone := by
    intro j k hj hk
    rw [moveTo_notifier] at hj hk
    split at hj
    case isTrue hji =>
      split at hk
      case isTrue hki => rw [hji, hki]
      case isFalse hki =>
        rcases halone hj with hi | hnone
        · rw [hji]
          exact h.alone i k hi hk
        · simp [hnone k] at hk
    case isFalse hji =>
      split at hk
      case isTrue hki =>
        rcases halone hk with hi | hnone
        · rw [hki]
          exact h.alone j i hj hi
        · simp [hnone j] at hj
      case isFalse hki => exact h.alone j k hj hk
  past := h.past
  begun := h.begun
  handle := h.handle
  held := by
    intro n hn
    rcases h.held n hn with hhandle | ⟨j, hj⟩
    · exact Or.inl hhandle
    · have hji : j ≠ i := by
        intro hji
        exact hheld n (hji ▸ hj)
      exact Or.inr ⟨j, by rw [moveTo_notifier, if_neg hji]; exact hj⟩
  join := by
    intro j hj
    rw [moveTo_notifier] at hj
    split at hj
    · exact hjoin hj
    · exact h.join j hj
  joining := by
    intro j n hj
    rw [moveTo_notifier] at hj
    split at hj
    · exact hjoining n hj
    · exact h.joining j n hj
  start := by
    intro j hj
    rw [moveTo_notifier] at hj
    split at hj
    · exact hstart hj
    · exact h.start j hj
  assign := by
    intro j n hj
    rw [moveTo_notifier] at hj
    split at hj
    · exact absurd hj (hassign n)
    · exact h.assign j n hj
  status := h.status

/-- The thread started last moves on, and the status with it. -/
theorem Orderly.runTo {q : SpacePhase} {status : Bool} (h : Orderly s)
    (hn : (s.thread n).live = true) (hbegun : q ≠ .unstarted) (hq : status = q.raised) :
    Orderly { s.runTo n q with spaceInfoThreadStatus := status } where
  alone := h.alone
  past := by
    intro k hk
    rw [runTo_thread] at hk
    split at hk
    case isTrue hkn => exact hkn ▸ h.past n hn
    case isFalse => exact h.past k hk
  begun := by
    intro k hk
    rw [runTo_thread]
    split
    · intro hunstarted
      exact hbegun hunstarted
    · exact h.begun k hk
  handle := h.handle
  held := by
    intro k hk
    rw [runTo_thread] at hk
    split at hk
    case isTrue hkn => exact hkn ▸ h.held n hn
    case isFalse => exact h.held k hk
  join := h.join
  joining := h.joining
  start := h.start
  assign := h.assign
  status := by
    constructor
    · intro hraised
      exact ⟨n, by rw [runTo_thread, if_pos rfl, ← hq]; exact hraised⟩
    · intro hany
      obtain ⟨k, hk⟩ := hany
      rw [runTo_thread] at hk
      split at hk
      case isTrue => exact hq.trans hk
      case isFalse hkn =>
        -- another thread with the status raised would be the last one as well
        have hlive : (s.thread k).live = true := by
          cases hphase : s.thread k <;> simp_all [SpacePhase.raised, SpacePhase.live]
        have hlast := h.past k hlive
        have hlastn := h.past n hn
        omega

/-- What the thread computes does not matter to its start. -/
theorem Orderly.withList (h : Orderly s) (storageList : List StorageDevice) :
    Orderly { s with storageList := storageList } :=
  ⟨h.alone, h.past, h.begun, h.handle, h.held, h.join, h.joining, h.start, h.assign, h.status⟩

/-- While someone is at the start of a thread, all threads are over. -/
theorem Orderly.over_of_start (h : Orderly s) (hi : s.notifier i = .start) (n : Nat) :
    (s.thread n).live = false := by
  rw [← Bool.not_eq_true]
  intro hn
  rcases h.held n hn with hhandle | ⟨j, hj⟩
  · rw [h.start i hi] at hhandle
    cases hhandle
  · have hji : j = i := h.alone j i (by rw [hj]; rfl) (by rw [hi]; rfl)
    rw [hji, hi] at hj
    cases hj

/-- Behind a move within the section, whoever is in it is the one that moved. -/
theorem Orderly.mover {q : NotifierPhase} (h : Orderly s) (hi : (s.notifier i).starting = true)
    (hj : ((s.moveTo i q).notifier j).starting = true) : j = i := by
  by_contra hji
  rw [moveTo_notifier, if_neg hji] at hj
  exact hji (h.alone j i hj hi)

theorem Orderly.moved {p q : NotifierPhase} (h : Orderly s)
    (hi : (s.notifier i).starting = true) (hp : p.starting = true)
    (hj : (s.moveTo i q).notifier j = p) : q = p := by
  have hji : j = i := h.mover hi (q := q) (by rw [hj]; exact hp)
  rwa [moveTo_notifier, if_pos hji] at hj

/-- The thread that was joined was the only one. -/
theorem Orderly.joined (h : Orderly s) (hi : s.notifier i = .joining n)
    (hover : s.thread n = .returned) :
    Orderly { s.moveTo i .start with spaceInfoThread := none } := by
  have hin : (s.notifier i).starting = true := by rw [hi]; rfl
  have hdone : ∀ k, (s.thread k).live = false := by
    intro k
    rw [← Bool.not_eq_true]
    intro hk
    have hlast := h.past k hk
    have hhandle := h.handle n (h.joining i n hi)
    obtain rfl : k = n := by omega
    rw [hover] at hk
    cases hk
  exact {
    alone := fun j k hj hk => (h.mover hin hj).trans (h.mover hin hk).symm
    past := h.past
    begun := h.begun
    handle := by simp
    held := fun k hk => absurd hk (by simp [hdone k])
    join := fun j hj => absurd (h.moved hin rfl hj) (by simp)
    joining := fun j k hj => absurd (h.moved hin rfl hj) (by simp)
    start := by simp
    assign := fun j k hj => absurd (h.moved hin rfl hj) (by simp)
    status := h.status }

/-- The new thread has yet to raise the status. -/
theorem Orderly.started (h : Orderly s) (hi : s.notifier i = .start) :
    Orderly { (s.runTo s.started .spawned).moveTo i (.assign s.started) with
      started := s.started + 1 } := by
  have hin : (s.notifier i).starting = true := by rw [hi]; rfl
  have hover := h.over_of_start hi
  have hlive : ∀ k, ((s.runTo s.started .spawned).thread k).live = true → k = s.started := by
    intro k hk
    by_contra hks
    rw [runTo_thread, if_neg hks, hover k] at hk
    cases hk
  have hraised : ∀ k, (s.thread k).raised = false := by
    intro k
    have hk := hover k
    cases hphase : s.thread k <;> simp_all [SpacePhase.raised, SpacePhase.live]
  exact {
    alone := fun j k hj hk => (h.mover hin hj).trans (h.mover hin hk).symm
    past := fun k hk => congrArg (· + 1) (hlive k hk)
    begun := by
      intro k hk
      change (s.runTo s.started .spawned).thread k ≠ .unstarted
      rw [runTo_thread]
      split
      · simp
      · rename_i hks
        exact h.begun k (by dsimp only at hk; omega)
    handle := fun k hk => by simp [h.start i hi] at hk
    held := by
      intro k hk
      refine Or.inr ⟨i, ?_⟩
      rw [hlive k hk]
      exact Function.update_self i (NotifierPhase.assign s.started) s.notifier
    join := fun j hj => absurd (h.moved hin rfl hj) (by simp)
    joining := fun j k hj => absurd (h.moved hin rfl hj) (by simp)
    start := fun j hj => absurd (h.moved hin rfl hj) (by simp)
    assign := by
      intro j k hj
      have hk := h.moved hin rfl hj
      exact ⟨h.start i hi, congrArg (· + 1) (NotifierPhase.assign.inj hk).symm⟩
    status := by
      have hoff : s.spaceInfoThreadStatus = false := by
        rw [← Bool.not_eq_true, h.status]
        rintro ⟨k, hk⟩
        rw [hraised k] at hk
        cases hk
      refine iff_of_false (by simp [hoff]) ?_
      rintro ⟨k, hk⟩
      by_cases hks : k = s.started
      · simp [runTo_thread, hks, SpacePhase.raised] at hk
      · simp [runTo_thread, hks, hraised k] at hk }

/-- `mSpaceInfoThread` takes the new thread over. -/
theorem Orderly.assigned (h : Orderly s) (hi : s.notifier i = .assign n) :
    Orderly { s.moveTo i .outside with spaceInfoThread := some n } := by
  have hin : (s.notifier i).starting = true := by rw [hi]; rfl
  obtain ⟨hnone, hlast⟩ := h.assign i n hi
  have hout : ∀ j, ((s.moveTo i .outside).notifier j).starting = false := by
    intro j
    rw [← Bool.not_eq_true]
    intro hj
    rw [h.mover hin hj, moveTo_notifier, if_pos rfl] at hj
    cases hj
  exact {
    alone := fun j k hj => absurd hj (by simp [hout j])
    past := h.past
    begun := h.begun
    handle := fun k hk => Option.some.inj hk ▸ hlast
    held := by
      intro k hk
      refine Or.inl (congrArg some ?_)
      have hkn := h.past k hk
      omega
    join := fun j hj => absurd (h.moved hin rfl hj) (by simp)
    joining := fun j k hj => absurd (h.moved hin rfl hj) (by simp)
    start := fun j hj => absurd (h.moved hin rfl hj) (by simp)
    assign := fun j k hj => absurd (h.moved hin rfl hj) (by simp)
    status := h.status }

theorem Orderly.step (h : Orderly s) (halive : s.terminated = false) (hserial : Serial s x)
    (hstep : s.step x = some t) : Orderly t ∧ t.terminated = false := by
  cases (step_cases hstep).2 with
  | notify i hi =>
    exact ⟨h.moveTo (by simp [NotifierPhase.starting]) (by simp [hi]) (by simp) (by simp) (by simp)
      (by simp), halive⟩
  | change i storageList hi => exact ⟨h.withList storageList, halive⟩
  | found i hi hstatus =>
    exact ⟨h.moveTo (by simp [NotifierPhase.starting]) (by simp [hi]) (by simp) (by simp) (by simp)
      (by simp), halive⟩
  | missed i hi hstatus =>
    exact ⟨h.moveTo (fun _ => Or.inr (hserial i rfl hi hstatus)) (by simp [hi]) (by simp) (by simp)
      (by simp) (by simp), halive⟩
  | needless i hi hmounted =>
    exact ⟨h.moveTo (by simp [NotifierPhase.starting]) (by simp [hi]) (by simp) (by simp) (by simp)
      (by simp), halive⟩
  | needed i hi hmounted =>
    exact ⟨h.moveTo (fun _ => Or.inl (by rw [hi]; rfl)) (by simp [hi]) (by simp) (by simp)
      (by simp) (by simp), halive⟩
  | joinable i n hi hthread =>
    exact ⟨h.moveTo (fun _ => Or.inl (by rw [hi]; rfl)) (by simp [hi]) (by simp [hthread]) (by simp)
      (by simp) (by simp), halive⟩
  | fresh i hi hthread =>
    exact ⟨h.moveTo (fun _ => Or.inl (by rw [hi]; rfl)) (by simp [hi]) (by simp) (by simp)
      (fun _ => hthread) (by simp), halive⟩
  | join i n hi hthread =>
    exact ⟨h.moveTo (fun _ => Or.inl (by rw [hi]; rfl)) (by simp [hi]) (by simp)
      (by simp [hthread]) (by simp) (by simp), halive⟩
  | joinNone i hi hthread => exact absurd hthread (h.join i hi)
  | joined i n hi hover hthread => exact ⟨h.joined hi hover, halive⟩
  | joinedTwice i n hi hover hthread => exact absurd (h.joining i n hi) hthread
  | start i hi => exact ⟨h.started hi, halive⟩
  | assign i n hi hthread => exact ⟨h.assigned hi, halive⟩
  | assignOver i n hi hthread => exact absurd (h.assign i n hi).1 hthread
  | raise n env hn => exact ⟨h.runTo (by rw [hn]; rfl) (by simp) rfl, halive⟩
  | goOn n env hn hstatus => exact ⟨h.runTo (by rw [hn]; rfl) (by simp) hstatus, halive⟩
  | stop n env hn hstatus =>
    -- whoever is in the loop has raised the status
    have hraised := h.status.mpr ⟨n, by rw [hn]; rfl⟩
    rw [hstatus] at hraised
    cases hraised
  | compute n env hn hmounted =>
    have hraised := h.status.mpr ⟨n, by rw [hn]; rfl⟩
    exact ⟨(h.runTo (by rw [hn]; rfl) (by simp) hraised).withList _, halive⟩
  | breakOff n env hn hmounted =>
    have hraised := h.status.mpr ⟨n, by rw [hn]; rfl⟩
    exact ⟨h.runTo (by rw [hn]; rfl) (by simp) hraised, halive⟩
  | wake n env hn =>
    have hraised := h.status.mpr ⟨n, by rw [hn]; rfl⟩
    exact ⟨h.runTo (by rw [hn]; rfl) (by simp) hraised, halive⟩
  | lower n env hn => exact ⟨h.runTo (by rw [hn]; rfl) (by simp) rfl, halive⟩

/-- Every run in which one caller at a time starts a thread is orderly. -/
theorem run_orderly {steps : List SpaceStep} (hrun : Schedules.run step {} steps = some s)
    (hserial : Schedules.StepsAll step Serial {} steps) : Orderly s ∧ s.terminated = false := by
  refine Schedules.run_history_of (P := fun _ s => Orderly s ∧ s.terminated = false)
    ⟨init_orderly, rfl⟩ ?_ hrun hserial
  intro _ s x t hs hx hstep
  exact hs.1.step hs.2 hx hstep

/-- In every run in which no two callers of `commandNotification` are in the section between the
look at the status and the assignment at once, no `std::terminate` is called, there is one thread
at most that is not over, `mSpaceInfoThread` stands for it or its starter is about to assign it,
and the status is true exactly while it is between its first and its last statement. -/
theorem one_thread_at_a_time {steps : List SpaceStep}
    (hrun : Schedules.run step {} steps = some s)
    (hserial : Schedules.StepsAll step Serial {} steps) :
    s.terminated = false ∧
      (∀ m n, (s.thread m).live = true → (s.thread n).live = true → m = n) ∧
      (∀ n, (s.thread n).live = true →
        s.spaceInfoThread = some n ∨ ∃ i, s.notifier i = .assign n) ∧
      (s.spaceInfoThreadStatus = true ↔ ∃ n, (s.thread n).raised = true) := by
  obtain ⟨horderly, halive⟩ := run_orderly hrun hserial
  refine ⟨halive, ?_, horderly.held, horderly.status⟩
  intro m n hm hn
  have hlastm := horderly.past m hm
  have hlastn := horderly.past n hn
  omega

/-! ### A single caller -/

/-- Where only one caller moves, no two are in the section. -/
theorem serial_of_onlyBy (k : Nat) {steps : List SpaceStep} (hsteps : ∀ x ∈ steps, x.OnlyBy k) :
    ∀ {s : SpaceInfoThreads}, (∀ j, j ≠ k → s.notifier j = .outside) →
      Schedules.StepsAll step Serial s steps := by
  induction steps with
  | nil => intro s _; trivial
  | cons x steps ih =>
    intro s hs
    have hx := hsteps x (List.mem_cons_self ..)
    refine ⟨?_, fun t ht => ih (fun y hy => hsteps y (List.mem_cons_of_mem _ hy)) ?_⟩
    · intro i hxi hi hstatus j
      rw [hxi] at hx
      by_cases hj : j = k
      · rw [hj, ← show i = k from hx, hi]
        rfl
      · rw [hs j hj]
        rfl
    · intro j hj
      rw [(step_cases ht).2.notifier_other, hs j hj]
      · intro hxj
        rw [hxj] at hx
        exact hj hx
      · intro hxj
        rw [hxj] at hx
        exact hj hx

/-- A stick that is mounted. -/
def mountedStick : StorageDevice :=
  { StorageDevice.new 0 "/devices/usb1/1-1" "/tmp/usb/" with deviceIsMounted := true }

/-- A call that starts a thread for the stick. -/
def firstCall : List SpaceStep :=
  [.change 0 [mountedStick], .notify 0, .advance 0, .advance 0, .advance 0, .advance 0, .advance 0]

theorem one_thread_at_a_time_first_call :
    ∃ s, Schedules.run step {} firstCall = some s ∧ s.terminated = false ∧
      ∀ m n, (s.thread m).live = true → (s.thread n).live = true → m = n := by
  refine ⟨_, rfl, ?_⟩
  have h := one_thread_at_a_time (rfl : Schedules.run step {} firstCall = some _)
    (serial_of_onlyBy 0 (by simp [firstCall, SpaceStep.OnlyBy]) fun _ _ => rfl)
  exact ⟨h.1, h.2.1⟩

-- Two callers in the section at a time.
example : (Schedules.run step {}
    [.change 0 [mountedStick], .notify 0, .notify 1, .advance 0, .advance 1, .advance 0, .advance 1,
      .advance 0, .advance 1, .advance 0, .advance 1, .advance 0, .advance 1]).map
    (·.terminated) = some true := rfl

/-! ### A call while some device is mounted -/

theorem computeSpaceInfo_deviceIsMounted (env : Env) (d : StorageDevice) :
    (d.computeSpaceInfo env).deviceIsMounted = d.deviceIsMounted := by
  have hone : ∀ (e : StorageDevice) (p : DiskPartitionInfo),
      (e.getSpaceInfo env p.driveName true).1.deviceIsMounted = e.deviceIsMounted := by
    intro e p
    unfold StorageDevice.getSpaceInfo
    split
    · rfl
    · dsimp only [StorageDevice.getSpaceInfoOn]
      split
      · split
        · rfl
        · rfl
      · rfl
  unfold StorageDevice.computeSpaceInfo
  generalize d.diskPartitionList = l
  induction l generalizing d with
  | nil => rfl
  | cons p l ih => exact (ih _).trans (hone d p)

theorem computeSpaceInfo_mounted (env : Env) (l : List StorageDevice) :
    (computeSpaceInfo env l).any (·.deviceIsMounted) = l.any (·.deviceIsMounted) := by
  unfold computeSpaceInfo
  rw [List.any_map]
  refine congrArg (List.any l) (funext fun d => ?_)
  dsimp only [Function.comp_apply]
  split
  · exact computeSpaceInfo_deviceIsMounted env d
  · rfl

/-- The step leaves some device mounted. -/
def KeepsMounted (x : SpaceStep) : Prop :=
  ∀ i storageList, x = .change i storageList →
    storageList.any (·.deviceIsMounted) = true

/-- What may go on besides a call: one caller at a time starts a thread, and some device stays
mounted. -/
def Undisturbed (s : SpaceInfoThreads) (x : SpaceStep) : Prop := Serial s x ∧ KeepsMounted x

/-- The states from which a call is looked at. -/
structure Watched (s : SpaceInfoThreads) : Prop where
  orderly : Orderly s
  alive : s.terminated = false
  mounted : s.mounted = true

theorem Watched.step (h : Watched s) (hx : Undisturbed s x) (hstep : s.step x = some t) :
    Watched t := by
  obtain ⟨horderly, halive⟩ := h.orderly.step h.alive hx.1 hstep
  refine ⟨horderly, halive, ?_⟩
  have hmounted := h.mounted
  cases (step_cases hstep).2 with
  | change i storageList hi => exact hx.2 i storageList rfl
  | compute n env hn hm => exact (computeSpaceInfo_mounted env s.storageList).trans hm
  | _ => exact hmounted

/-- A thread that stays goes on staying. -/
theorem Watched.staying (h : Watched s) (hn : (s.thread n).staying = true)
    (hstep : s.step x = some t) : (t.thread n).staying = true := by
  have hlive : (s.thread n).live = true := by
    cases hphase : s.thread n <;> simp_all [SpacePhase.staying, SpacePhase.live]
  have hrun : ∀ (m : Nat) (q : SpacePhase), (m = n → q.staying = true) →
      ((s.runTo m q).thread n).staying = true := by
    intro m q hq
    rw [runTo_thread]
    split
    case isTrue hnm => exact hq hnm.symm
    case isFalse => exact hn
  cases (step_cases hstep).2 with
  | start i hi => exact hrun s.started .spawned fun _ => rfl
  | raise m env hm => exact hrun m .loopTest fun _ => rfl
  | goOn m env hm hstatus => exact hrun m .computing fun _ => rfl
  | stop m env hm hstatus =>
    have hraised := h.orderly.status.mpr ⟨m, by rw [hm]; rfl⟩
    rw [hstatus] at hraised
    cases hraised
  | compute m env hm hmounted => exact hrun m .sleeping fun _ => rfl
  | breakOff m env hm hmounted =>
    have hmounted' := h.mounted
    rw [hmounted] at hmounted'
    cases hmounted'
  | wake m env hm => exact hrun m .loopTest fun _ => rfl
  | lower m env hm =>
    refine hrun m .returned fun hmn => ?_
    rw [← hmn, hm] at hn
    cases hn
  | _ => exact hn

/-- The caller has taken a thread that stays for one that is over. -/
structure Overtaken (i n : Nat) (s : SpaceInfoThreads) : Prop where
  handle : s.spaceInfoThread = some n
  staying : (s.thread n).staying = true
  headed : (s.notifier i).headed = true

theorem Overtaken.step (h : Overtaken i n s) (hs : Watched s) (hstep : s.step x = some t) :
    Overtaken i n t := by
  have hover : s.thread n ≠ .returned := by
    intro hn
    have hstaying := h.staying
    rw [hn] at hstaying
    cases hstaying
  have hhandle : t.spaceInfoThread = some n := by
    cases (step_cases hstep).2 with
    | joined j m hj hm hthread =>
      rw [h.handle] at hthread
      rw [← Option.some.inj hthread] at hm
      exact absurd hm hover
    | assign j m hj hthread =>
      rw [h.handle] at hthread
      cases hthread
    | _ => exact h.handle
  refine ⟨hhandle, hs.staying h.staying hstep, ?_⟩
  have hheaded := h.headed
  by_cases hadvance : x = .advance i
  · subst hadvance
    cases (step_cases hstep).2 with
    | found _ hi hstatus => simp [hi, NotifierPhase.headed] at hheaded
    | missed _ hi hstatus => simp [hi, NotifierPhase.headed] at hheaded
    | needless _ hi hmounted =>
      have hmounted' := hs.mounted
      rw [hmounted] at hmounted'
      cases hmounted'
    | needed _ hi hmounted => simp [moveTo_notifier, NotifierPhase.headed]
    | joinable _ m hi hthread => simp [moveTo_notifier, NotifierPhase.headed]
    | fresh _ hi hthread =>
      rw [h.handle] at hthread
      cases hthread
    | join _ m hi hthread => simp [moveTo_notifier, NotifierPhase.headed]
    | joinNone _ hi hthread => exact hheaded
    | joined _ m hi hm hthread =>
      rw [h.handle] at hthread
      rw [← Option.some.inj hthread] at hm
      exact absurd hm hover
    | joinedTwice _ m hi hm hthread => exact hheaded
    | start _ hi => simp [hi, NotifierPhase.headed] at hheaded
    | assign _ m hi hthread => simp [hi, NotifierPhase.headed] at hheaded
    | assignOver _ m hi hthread => exact hheaded
  · by_cases hnotify : x = .notify i
    · subst hnotify
      cases (step_cases hstep).2 with
      | notify _ hi => simp [hi, NotifierPhase.headed] at hheaded
    · rw [(step_cases hstep).2.notifier_other hnotify hadvance]
      exact hheaded

/-- An overtaken caller stays in the call for as long as a device is mounted. -/
theorem Overtaken.run (h : Overtaken i n s) (hs : Watched s) {after : List SpaceStep}
    (hrun : Schedules.run SpaceInfoThreads.step s after = some t)
    (hall : Schedules.StepsAll SpaceInfoThreads.step Undisturbed s after) :
    t.notifier i ≠ .outside := by
  have hkept := Schedules.run_history_of (P := fun _ t => Watched t ∧ Overtaken i n t) ⟨hs, h⟩
    (fun _ t x u ht hx hstep => ⟨ht.1.step hx hstep, ht.2.step ht.1 hstep⟩) hrun hall
  intro hout
  have hheaded := hkept.2.headed
  rw [hout] at hheaded
  cases hheaded

/-- The caller can get out of the call by its own steps. -/
def Returns (i : Nat) (s : SpaceInfoThreads) : Prop :=
  ∃ after t, Schedules.run step s after = some t ∧
    Schedules.StepsAll step Undisturbed s after ∧ t.notifier i = .outside

theorem returns_of_outside (hi : s.notifier i = .outside) : Returns i s :=
  ⟨[], s, rfl, trivial, hi⟩

theorem Returns.before (halive : s.terminated = false) (hx : Serial s (.advance i))
    (hstep : s.commandNotification i = some t) (h : Returns i t) : Returns i s := by
  have hone : s.step (.advance i) = some t := by simp [SpaceInfoThreads.step, halive, hstep]
  obtain ⟨after, u, hrun, hall, hout⟩ := h
  refine ⟨.advance i :: after, u, by simp [hone, hrun], ⟨⟨hx, by simp [KeepsMounted]⟩, ?_⟩, hout⟩
  intro v hv
  rw [hone] at hv
  rwa [← Option.some.inj hv]

theorem serial_of_starting (hi : (s.notifier i).starting = true) : Serial s (.advance i) := by
  intro j hj htest
  rw [← SpaceStep.advance.inj hj] at htest
  rw [htest] at hi
  cases hi

theorem returns_of_start (halive : s.terminated = false) (hi : s.notifier i = .start)
    (hthread : s.spaceInfoThread = none) : Returns i s := by
  refine .before halive (serial_of_starting (by rw [hi]; rfl))
    (by simp only [commandNotification, hi]; rfl) ?_
  refine .before halive (serial_of_starting (by simp [moveTo_notifier, NotifierPhase.starting]))
    (by simp [commandNotification, moveTo_notifier, hthread]; rfl) ?_
  exact returns_of_outside (by simp [moveTo_notifier])

theorem returns_of_joinableTest (halive : s.terminated = false)
    (hi : s.notifier i = .joinableTest)
    (hover : ∀ n, s.spaceInfoThread = some n → s.thread n = .returned) : Returns i s := by
  cases hthread : s.spaceInfoThread with
  | none =>
    refine .before halive (serial_of_starting (by rw [hi]; rfl))
      (by simp [commandNotification, hi, hthread]; rfl) ?_
    exact returns_of_start halive (by simp [moveTo_notifier]) hthread
  | some n =>
    refine .before halive (serial_of_starting (by rw [hi]; rfl))
      (by simp [commandNotification, hi, hthread]; rfl) ?_
    refine .before halive (serial_of_starting (by simp [moveTo_notifier, NotifierPhase.starting]))
      (by simp [commandNotification, moveTo_notifier, hthread]; rfl) ?_
    refine .before halive (serial_of_starting (by simp [moveTo_notifier, NotifierPhase.starting]))
      (by simp [commandNotification, moveTo_notifier, hthread, hover n hthread]; rfl) ?_
    exact returns_of_start halive (by simp [moveTo_notifier]) rfl

/-- A caller that does not look at the wrong moment gets out. -/
theorem returns_of_statusTest (hs : Watched s) (hi : s.notifier i = .statusTest)
    (hnot : ∀ n, s.thread n ≠ .spawned) :
    ∃ t, s.step (.advance i) = some t ∧ Returns i t := by
  cases hstatus : s.spaceInfoThreadStatus with
  | true =>
    refine ⟨s.moveTo i .outside, ?_, returns_of_outside (by simp [moveTo_notifier])⟩
    simp [SpaceInfoThreads.step, hs.alive, commandNotification, hi, hstatus]
  | false =>
    refine ⟨s.moveTo i .mountedTest, ?_, ?_⟩
    · simp [SpaceInfoThreads.step, hs.alive, commandNotification, hi, hstatus]
    refine .before hs.alive (serial_of_starting (by simp [moveTo_notifier, NotifierPhase.starting]))
      (by simp [commandNotification, moveTo_notifier, hs.mounted]; rfl) ?_
    refine returns_of_joinableTest hs.alive (by simp [moveTo_notifier]) ?_
    intro n hn
    have hlast := hs.orderly.handle n hn
    have hbegun := hs.orderly.begun n (by omega)
    have hraised : ¬ ∃ k, (s.thread k).raised = true := by
      rw [← hs.orderly.status, hstatus]
      exact Bool.false_ne_true
    cases hphase : s.thread n with
    | unstarted => exact absurd hphase hbegun
    | spawned => exact absurd hphase (hnot n)
    | returned => exact hphase
    | _ => exact absurd ⟨n, by rw [hphase]; rfl⟩ hraised

/-- A caller that finds the status false while the thread has yet to raise it is overtaken. -/
theorem overtaken_of_spawned (hs : Watched s) (hi : s.notifier i = .statusTest)
    (hx : Serial s (.advance i)) (hn : s.thread n = .spawned) :
    ∃ t, s.step (.advance i) = some t ∧ Overtaken i n t := by
  have hlast := hs.orderly.past n (by rw [hn]; rfl)
  have hstatus : s.spaceInfoThreadStatus = false := by
    rw [← Bool.not_eq_true, hs.orderly.status]
    rintro ⟨k, hk⟩
    have hkn : k = n := by
      have hlastk := hs.orderly.past k (by
        cases hphase : s.thread k <;> simp_all [SpacePhase.raised, SpacePhase.live])
      omega
    rw [hkn, hn] at hk
    cases hk
  have hhandle : s.spaceInfoThread = some n := by
    rcases hs.orderly.held n (by rw [hn]; rfl) with hhandle | ⟨j, hj⟩
    · exact hhandle
    · have hnone := hx i rfl hi hstatus j
      rw [hj] at hnone
      cases hnone
  refine ⟨s.moveTo i .mountedTest, ?_, hhandle, by rw [moveTo_thread, hn]; rfl,
    by simp [moveTo_notifier, NotifierPhase.headed]⟩
  simp [SpaceInfoThreads.step, hs.alive, commandNotification, hi, hstatus]

/-- In every run in which no two callers are in the section at once, a call made while some device
is mounted hangs for as long as one is, whatever the threads do, exactly if it looks at the status
between the start of the thread and its first statement. -/
theorem call_hangs_iff {before : List SpaceStep} (hbefore : Schedules.run step {} before = some s)
    (hserial : Schedules.StepsAll step Serial {} before) (hi : s.notifier i = .statusTest)
    (hmounted : s.mounted = true) (hx : Serial s (.advance i)) :
    (∀ after t, Schedules.run step s (.advance i :: after) = some t →
      Schedules.StepsAll step Undisturbed s (.advance i :: after) → t.notifier i ≠ .outside) ↔
    ∃ n, s.thread n = .spawned := by
  obtain ⟨horderly, halive⟩ := run_orderly hbefore hserial
  have hs : Watched s := ⟨horderly, halive, hmounted⟩
  constructor
  · intro hhangs
    by_contra hnone
    have hnot : ∀ n, s.thread n ≠ .spawned := fun n hn => hnone ⟨n, hn⟩
    obtain ⟨u, hstep, after, t, hrun, hall, hout⟩ := returns_of_statusTest hs hi hnot
    refine hhangs after t (by simp [hstep, hrun]) ⟨⟨hx, by simp [KeepsMounted]⟩, ?_⟩ hout
    intro v hv
    rw [hstep] at hv
    rwa [← Option.some.inj hv]
  · rintro ⟨n, hn⟩ after t hrun hall
    obtain ⟨u, hstep, hover⟩ := overtaken_of_spawned hs hi hx hn
    rw [Schedules.run_cons, hstep] at hrun
    exact hover.run (hs.step hall.1 hstep) hrun (hall.2 u hstep)

theorem call_hangs_iff_second_call :
    ∃ s, Schedules.run step {} (firstCall ++ [.notify 0]) = some s ∧
      ∀ after t, Schedules.run step s (.advance 0 :: after) = some t →
        Schedules.StepsAll step Undisturbed s (.advance 0 :: after) → t.notifier 0 ≠ .outside := by
  refine ⟨_, rfl, ?_⟩
  have honly : ∀ x ∈ firstCall ++ [SpaceStep.notify 0], x.OnlyBy 0 := by
    simp [firstCall, SpaceStep.OnlyBy]
  refine (call_hangs_iff (rfl : Schedules.run step {} (firstCall ++ [.notify 0]) = some _)
    (serial_of_onlyBy 0 honly fun _ _ => rfl) rfl rfl ?_).mpr ⟨0, rfl⟩
  intro i _ _ _ j
  cases j with
  | zero => rfl
  | succ j => rfl

/-! ### What a call leaves -/

/-- Where all threads are over, they stay over or a new one is started. -/
theorem Stepped.idle (h : Stepped s x t) (hidle : ∀ n, (s.thread n).live = false) :
    t.thread = s.thread ∨ ∃ n, (t.thread n).staying = true := by
  have hnot : ∀ n, (s.thread n).live ≠ true := by
    intro n
    rw [hidle n]
    exact Bool.false_ne_true
  cases h with
  | start i hi => exact Or.inr ⟨s.started, by simp [runTo_thread, SpacePhase.staying]⟩
  | raise n env hn => exact absurd (by rw [hn]; rfl) (hnot n)
  | goOn n env hn hstatus => exact absurd (by rw [hn]; rfl) (hnot n)
  | stop n env hn hstatus => exact absurd (by rw [hn]; rfl) (hnot n)
  | compute n env hn hmounted => exact absurd (by rw [hn]; rfl) (hnot n)
  | breakOff n env hn hmounted => exact absurd (by rw [hn]; rfl) (hnot n)
  | wake n env hn => exact absurd (by rw [hn]; rfl) (hnot n)
  | lower n env hn => exact absurd (by rw [hn]; rfl) (hnot n)
  | _ => exact Or.inl rfl

/-- The caller is about to start a thread, all others being over. -/
structure Due (i : Nat) (s : SpaceInfoThreads) : Prop where
  idle : ∀ n, (s.thread n).live = false
  ahead : (s.notifier i).headed = true ∨ s.notifier i = .start

theorem Due.step (h : Due i s) (hs : Watched s) (hstep : s.step x = some t) :
    Due i t ∨ ∃ n, (t.thread n).staying = true := by
  rcases (step_cases hstep).2.idle h.idle with hsame | hstaying
  swap
  · exact Or.inr hstaying
  have hidle : ∀ n, (t.thread n).live = false := by
    rw [hsame]
    exact h.idle
  have hnot : ∀ p : NotifierPhase, p.headed = false → p ≠ .start → s.notifier i ≠ p := by
    intro p hp hstart hi
    rcases h.ahead with hheaded | hstart'
    · rw [hi, hp] at hheaded
      cases hheaded
    · exact hstart (hi.symm.trans hstart')
  refine Or.inl ⟨hidle, ?_⟩
  by_cases hadvance : x = .advance i
  · subst hadvance
    cases (step_cases hstep).2 with
    | found _ hi hstatus => exact absurd hi (hnot _ rfl (by simp))
    | missed _ hi hstatus => exact absurd hi (hnot _ rfl (by simp))
    | needless _ hi hmounted =>
      have hmounted' := hs.mounted
      rw [hmounted] at hmounted'
      cases hmounted'
    | fresh _ hi hthread => exact Or.inr (by simp [moveTo_notifier])
    | joined _ m hi hm hthread => exact Or.inr (by simp [moveTo_notifier])
    | start _ hi =>
      have hnew := hidle s.started
      simp [runTo_thread, SpacePhase.live] at hnew
    | assign _ m hi hthread => exact absurd hi (hnot _ rfl (by simp))
    | needed _ hi hmounted => exact Or.inl (by simp [moveTo_notifier, NotifierPhase.headed])
    | joinable _ m hi hthread => exact Or.inl (by simp [moveTo_notifier, NotifierPhase.headed])
    | join _ m hi hthread => exact Or.inl (by simp [moveTo_notifier, NotifierPhase.headed])
    | _ => exact h.ahead
  · by_cases hnotify : x = .notify i
    · subst hnotify
      cases (step_cases hstep).2 with
      | notify _ hi => exact absurd hi (hnot _ rfl (by simp))
    · rw [(step_cases hstep).2.notifier_other hnotify hadvance]
      exact h.ahead

/-- A thread that is on its way out, or was never there, does not come back. -/
theorem Stepped.gone (h : Stepped s x t) (hgone : ∀ n, n < i → (s.thread n).staying = false)
    (hi : i ≤ s.started) :
    (∀ n, n < i → (t.thread n).staying = false) ∧ i ≤ t.started := by
  have hrun : ∀ (m : Nat) (q : SpacePhase), (m < i → q.staying = false) →
      ∀ n, n < i → ((s.runTo m q).thread n).staying = false := by
    intro m q hq n hn
    rw [runTo_thread]
    split
    case isTrue hnm => exact hq (hnm ▸ hn)
    case isFalse => exact hgone n hn
  have hnot : ∀ m, (s.thread m).staying = true → ∀ q : SpacePhase, m < i → q.staying = false := by
    intro m hm q hmi
    rw [hgone m hmi] at hm
    cases hm
  cases h with
  | start j hj =>
    refine ⟨hrun s.started .spawned (fun hlt => ?_), Nat.le_succ_of_le hi⟩
    omega
  | raise m env hm => exact ⟨hrun m _ (hnot m (by rw [hm]; rfl) _), hi⟩
  | goOn m env hm hstatus => exact ⟨hrun m _ (hnot m (by rw [hm]; rfl) _), hi⟩
  | stop m env hm hstatus => exact ⟨hrun m _ (fun _ => rfl), hi⟩
  | compute m env hm hmounted => exact ⟨hrun m _ (hnot m (by rw [hm]; rfl) _), hi⟩
  | breakOff m env hm hmounted => exact ⟨hrun m _ (fun _ => rfl), hi⟩
  | wake m env hm => exact ⟨hrun m _ (hnot m (by rw [hm]; rfl) _), hi⟩
  | lower m env hm => exact ⟨hrun m _ (fun _ => rfl), hi⟩
  | _ => exact ⟨hgone, hi⟩

/-- What a call that has returned leaves behind, while some device stays mounted and no two callers
are in the section at once: a thread that goes on, unless the call looked at the status while the
thread was on its way out.  It then started none, and only one that a later call started goes
on. -/
theorem thread_behind_call {before after : List SpaceStep}
    (hbefore : Schedules.run step {} before = some s)
    (hserial : Schedules.StepsAll step Serial {} before) (hi : s.notifier i = .statusTest)
    (hmounted : s.mounted = true) (hrun : Schedules.run step s (.advance i :: after) = some t)
    (hall : Schedules.StepsAll step Undisturbed s (.advance i :: after))
    (hout : t.notifier i = .outside) :
    ((∀ n, s.thread n ≠ .leaving) → ∃ n, (t.thread n).staying = true) ∧
      ∀ n, s.thread n = .leaving → ∀ m, (t.thread m).staying = true → s.started ≤ m := by
  obtain ⟨horderly, halive⟩ := run_orderly hbefore hserial
  have hs : Watched s := ⟨horderly, halive, hmounted⟩
  constructor
  · intro hleaving
    by_cases hstaying : ∃ n, (s.thread n).staying = true
    · have hkept := Schedules.run_history_of
        (P := fun _ t => Watched t ∧ ∃ n, (t.thread n).staying = true) ⟨hs, hstaying⟩
        (fun _ t x u ht hx hstep =>
          ⟨ht.1.step hx hstep, ht.2.imp fun n hn => ht.1.staying hn hstep⟩) hrun hall
      exact hkept.2
    -- all threads are over, so the call finds the status false
    · have hidle : ∀ n, (s.thread n).live = false := by
        intro n
        have hn : (s.thread n).staying ≠ true := fun hn => hstaying ⟨n, hn⟩
        have hl := hleaving n
        cases hphase : s.thread n <;> simp_all [SpacePhase.staying, SpacePhase.live]
      obtain ⟨u, hstep, hrest⟩ := Option.bind_eq_some_iff.mp hrun
      have hdue : Due i u := by
        cases (step_cases hstep).2 with
        | missed _ _ hstatus =>
          exact ⟨hidle, Or.inl (by simp [moveTo_notifier, NotifierPhase.headed])⟩
        | found _ _ hstatus =>
          obtain ⟨n, hn⟩ := horderly.status.mp hstatus
          have hover := hidle n
          cases hphase : s.thread n <;> simp_all [SpacePhase.raised, SpacePhase.live]
        | _ => simp_all
      have hkept := Schedules.run_history_of
        (P := fun _ t => Watched t ∧ (Due i t ∨ ∃ n, (t.thread n).staying = true))
        ⟨hs.step hall.1 hstep, Or.inl hdue⟩ (by
          intro _ t x u ht hx hstep
          refine ⟨ht.1.step hx hstep, ?_⟩
          rcases ht.2 with hdue | hstaying
          · exact hdue.step ht.1 hstep
          · exact Or.inr (hstaying.imp fun n hn => ht.1.staying hn hstep)) hrest (hall.2 u hstep)
      rcases hkept.2 with hdue | hstaying
      · rcases hdue.ahead with hheaded | hstart
        · rw [hout] at hheaded
          cases hheaded
        · rw [hout] at hstart
          cases hstart
      · exact hstaying
  · intro n hn m hm
    have hlast := horderly.past n (by rw [hn]; rfl)
    have hgone : ∀ k, k < s.started → (s.thread k).staying = false := by
      intro k _
      rw [← Bool.not_eq_true]
      intro hk
      have hlastk := horderly.past k (by
        cases hphase : s.thread k <;> simp_all [SpacePhase.staying, SpacePhase.live])
      obtain rfl : k = n := by omega
      rw [hn] at hk
      cases hk
    have hkept := Schedules.run_keeps
      (I := fun t => (∀ k, k < s.started → (t.thread k).staying = false) ∧ s.started ≤ t.started)
      ⟨hgone, Nat.le_refl _⟩
      (fun t x u ht hstep => (step_cases hstep).2.gone ht.1 ht.2) hrun
    by_contra hlt
    rw [hkept.1 m (by omega)] at hm
    cases hm

/-- The stick is unmounted, the thread notices, and another file system is mounted. -/
def remounted : List SpaceStep :=
  firstCall ++ [.run 0 {}, .run 0 {}, .change 0 [], .run 0 {}, .change 0 [mountedStick], .notify 0]

theorem thread_behind_call_remounted :
    ∃ s t, Schedules.run step {} remounted = some s ∧
      Schedules.run step s [.advance 0, .run 0 {}] = some t ∧ t.notifier 0 = .outside ∧
      ∀ m, (t.thread m).staying = true → 1 ≤ m := by
  refine ⟨_, _, rfl, rfl, rfl, ?_⟩
  have honly : ∀ x ∈ remounted, x.OnlyBy 0 := by
    simp [remounted, firstCall, SpaceStep.OnlyBy]
  refine (thread_behind_call (rfl : Schedules.run step {} remounted = some _)
    (serial_of_onlyBy 0 honly fun _ _ => rfl) rfl rfl
    (rfl : Schedules.run step _ [.advance 0, .run 0 {}] = some _) ?_ rfl).2 0 rfl
  refine ⟨⟨?_, by simp [KeepsMounted]⟩, fun u _ => ⟨⟨by simp [Serial], by simp [KeepsMounted]⟩,
    fun _ _ => trivial⟩⟩
  intro i _ _ _ j
  cases j with
  | zero => rfl
  | succ j => rfl

end SpaceInfoThreads

end Pdm
