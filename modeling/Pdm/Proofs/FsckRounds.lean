/-
When a round of checks is announced once.

`Told` reads a state off the schedule that led to it: the counter is what has been counted
up less what has been counted down, the threads that announce are those whose test stands
where both were equal, and the timer is pending when it was armed and none cancelled it
since.  **So a round is announced exactly once, with all checks over and no timer left, if
and only if exactly one thread tests where the counts are equal, notifies behind the last
check and cancels behind the arming.**
-/
import Mathlib.Data.List.Nodup
import Mathlib.Tactic.Push
import Pdm.Devices.FsckRound

namespace Pdm

namespace FsckRound

/-! ### What a schedule says of a round -/

/-- Thread `i` makes its test where as many threads have counted down as were counted. -/
def TestsAtZero (steps : List RoundStep) (i : Nat) : Prop :=
  Schedules.At (fun before => before.count .count = before.countP RoundStep.countsDown)
    (.test i) steps

/-- Thread `i` notifies with `k` checks over. -/
def NotifiesAfter (steps : List RoundStep) (k i : Nat) : Prop :=
  Schedules.At (fun before => before.countP RoundStep.finishes = k) (.notify i) steps

/-- Thread `i` cancels the timer after it was armed. -/
def CancelsArmed (steps : List RoundStep) (i : Nat) : Prop :=
  Schedules.At (fun before => .arm ∈ before) (.cancel i) steps

/-- One thread, and no other, tests at zero, and it notifies and cancels late enough. -/
def Settles (n : Nat) (steps : List RoundStep) : Prop :=
  ∃ i, (∀ j, TestsAtZero steps j ↔ j = i) ∧ NotifiesAfter steps n i ∧ CancelsArmed steps i

/-- One notification, when all checks were over, and no timer left. -/
def AnnouncedOnce (n : Nat) (s : FsckRound) : Prop :=
  s.notified.map Prod.snd = [n] ∧ s.connecting = false

/-- The threads that have notified. -/
def notifiers (s : FsckRound) : List Nat :=
  s.notified.map Prod.fst

/-- The state tells what the schedule was. -/
structure Told (n : Nat) (steps : List RoundStep) (s : FsckRound) : Prop where
  begun : ∀ i, s.phase i ≠ .unstarted → i < s.started
  started : s.started ≤ n
  count : s.fsckThreadCount = (steps.count .count : Int) - steps.countP RoundStep.countsDown
  finished : s.finished = steps.countP RoundStep.finishes
  armed : s.armed = true ↔ .arm ∈ steps
  connecting : s.connecting = true ↔ .arm ∈ steps ∧ ∀ i, ¬ CancelsArmed steps i
  zero : ∀ i, TestsAtZero steps i ↔ s.phase i = .announcing ∨ i ∈ s.notifiers
  notified : ∀ i k, (i, k) ∈ s.notified ↔ NotifiesAfter steps k i
  once : s.notifiers.Nodup
  cancelled : ∀ i, .cancel i ∈ steps → i ∈ s.notifiers
  cancelling : ∀ i, s.phase i = .cancelling → i ∈ s.notifiers
  passed : ∀ i ∈ s.notifiers, s.phase i = .cancelling ∨ s.phase i = .returned

theorem init_told (n : Nat) : Told n [] {} := by
  refine ⟨by simp, Nat.zero_le n, by simp, by simp, by simp, by simp, fun i => ?_, fun i k => ?_,
    List.nodup_nil, by simp, by simp, by simp [notifiers]⟩
  · exact iff_of_false Schedules.not_at_nil (by simp [notifiers])
  · exact iff_of_false (by simp) Schedules.not_at_nil

/-- A step of the loop, or of a thread that has not come to its test. -/
theorem Told.early {n : Nat} {steps : List RoundStep} {s t : FsckRound} {i : RoundStep}
    (h : Told n steps s) (hbegun : ∀ j, t.phase j ≠ .unstarted → j < t.started)
    (hstarted : t.started ≤ n)
    (hcount : t.fsckThreadCount = ((steps ++ [i]).count .count : Int) -
      (steps ++ [i]).countP RoundStep.countsDown)
    (hfinished : t.finished = (steps ++ [i]).countP RoundStep.finishes)
    (harmed : t.armed = s.armed) (hconnecting : t.connecting = s.connecting)
    (hnotified : t.notified = s.notified)
    (hphase : ∀ j, t.phase j = s.phase j ∨
      (s.phase j ∉ [.announcing, .cancelling, .returned] ∧ t.phase j ∉ [.announcing, .cancelling]))
    (hstep : i ≠ .arm ∧ ∀ j, i ≠ .test j ∧ i ≠ .notify j ∧ i ≠ .cancel j) :
    Told n (steps ++ [i]) t := by
  have hsame : t.notifiers = s.notifiers := by
    unfold notifiers
    rw [hnotified]
  have hcancels : ∀ j, CancelsArmed (steps ++ [i]) j ↔ CancelsArmed steps j := fun j =>
    Schedules.at_concat.trans (or_iff_left fun hi => (hstep.2 j).2.2 hi.1)
  have htests : ∀ j, TestsAtZero (steps ++ [i]) j ↔ TestsAtZero steps j := fun j =>
    Schedules.at_concat.trans (or_iff_left fun hi => (hstep.2 j).1 hi.1)
  have hnotifies : ∀ k j, NotifiesAfter (steps ++ [i]) k j ↔ NotifiesAfter steps k j := fun k j =>
    Schedules.at_concat.trans (or_iff_left fun hi => (hstep.2 j).2.1 hi.1)
  have harm : .arm ∈ steps ++ [i] ↔ .arm ∈ steps := by
    rw [List.mem_append, List.mem_singleton]
    exact or_iff_left fun hi => hstep.1 hi.symm
  refine ⟨hbegun, hstarted, hcount, hfinished, ?_, ?_, fun j => ?_, fun j k => ?_, ?_,
    fun j hj => ?_, fun j hj => ?_, fun j hj => ?_⟩
  · rw [harmed, h.armed, harm]
  · rw [hconnecting, h.connecting, harm]
    simp only [hcancels]
  · rw [htests, h.zero, hsame]
    rcases hphase j with heq | ⟨hs, ht⟩
    · rw [heq]
    · simp only [List.mem_cons, List.not_mem_nil, or_false, not_or] at hs ht
      simp [hs.1, ht.1]
  · rw [hnotified, h.notified, hnotifies]
  · rw [hsame]
    exact h.once
  · rw [hsame]
    rcases List.mem_append.mp hj with hold | hnew
    · exact h.cancelled j hold
    · exact absurd (List.mem_singleton.mp hnew).symm (hstep.2 j).2.2
  · rw [hsame]
    rcases hphase j with heq | ⟨-, ht⟩
    · exact h.cancelling j (heq ▸ hj)
    · exact absurd hj (by simp at ht; exact ht.2)
  · rw [hsame] at hj
    rcases hphase j with heq | ⟨hs, -⟩
    · rw [heq]
      exact h.passed j hj
    · simp only [List.mem_cons, List.not_mem_nil, or_false, not_or] at hs
      rcases h.passed j hj with hp | hp
      · exact absurd hp hs.2.1
      · exact absurd hp hs.2.2

/-- A thread that moves on towards its test. -/
theorem moveTo_early {s : FsckRound} {i : Nat} {p : CheckPhase}
    (hi : s.phase i ∉ [.announcing, .cancelling, .returned]) (hp : p ∉ [.announcing, .cancelling])
    (j : Nat) :
    (s.moveTo i p).phase j = s.phase j ∨
      (s.phase j ∉ [.announcing, .cancelling, .returned] ∧
        (s.moveTo i p).phase j ∉ [.announcing, .cancelling]) := by
  rw [moveTo_phase]
  by_cases hji : j = i
  · rw [if_pos hji, hji]
    exact Or.inr ⟨hi, hp⟩
  · exact Or.inl (if_neg hji)

/-- A thread that has moved on was begun before. -/
theorem Told.moveTo_begun {n : Nat} {steps : List RoundStep} {s : FsckRound}
    (h : Told n steps s) {i : Nat} (hi : s.phase i ≠ .unstarted) (p : CheckPhase) (j : Nat)
    (hj : (s.moveTo i p).phase j ≠ .unstarted) : j < s.started := by
  rw [moveTo_phase] at hj
  by_cases hji : j = i
  · rw [hji]
    exact h.begun i hi
  · rw [if_neg hji] at hj
    exact h.begun j hj

/-- The test of thread `i`. -/
theorem Told.test {n : Nat} {steps : List RoundStep} {s : FsckRound} {i : Nat}
    (h : Told n steps s) (hi : s.phase i = .countedDown) :
    Told n (steps ++ [.test i])
      (s.moveTo i (if s.fsckThreadCount = 0 then .announcing else .returned)) := by
  have hnot : i ∉ s.notifiers := by
    intro hin
    rcases h.passed i hin with hp | hp
    · exact absurd (hi.symm.trans hp) (by simp)
    · exact absurd (hi.symm.trans hp) (by simp)
  refine ⟨h.moveTo_begun (by rw [hi]; simp) _, h.started, ?_, ?_, ?_, ?_, fun j => ?_,
    fun j k => ?_, h.once, fun j hj => ?_, fun j hj => ?_, fun j hj => ?_⟩
  · simpa [RoundStep.countsDown] using h.count
  · simpa [RoundStep.finishes] using h.finished
  · simpa using h.armed
  · simpa [CancelsArmed, Schedules.at_concat] using h.connecting
  · show Schedules.At _ _ (steps ++ [.test i]) ↔ _
    rw [Schedules.at_concat, moveTo_phase]
    show TestsAtZero steps j ∨ _ ↔ _ ∨ j ∈ s.notifiers
    have hzero : s.fsckThreadCount = 0 ↔
        steps.count .count = steps.countP RoundStep.countsDown := by
      rw [h.count]
      omega
    rw [h.zero, ← hzero]
    by_cases hji : j = i
    · subst hji
      by_cases hc : s.fsckThreadCount = 0 <;> simp [hc, hi, hnot]
    · simp [hji, Ne.symm hji]
  · simpa [NotifiesAfter, Schedules.at_concat] using h.notified j k
  · exact h.cancelled j (by simpa using hj)
  · rw [moveTo_phase] at hj
    by_cases hji : j = i
    · rw [if_pos hji] at hj
      split at hj <;> exact absurd hj (by simp)
    · rw [if_neg hji] at hj
      exact h.cancelling j hj
  · have hji : j ≠ i := fun heq => hnot (heq ▸ hj)
    rw [moveTo_phase, if_neg hji]
    exact h.passed j hj

/-- Thread `i` notifies. -/
theorem Told.notify {n : Nat} {steps : List RoundStep} {s : FsckRound} {i : Nat}
    (h : Told n steps s) (hi : s.phase i = .announcing) :
    Told n (steps ++ [.notify i])
      { s.moveTo i .cancelling with notified := s.notified ++ [(i, s.finished)] } := by
  have hnot : i ∉ s.notifiers := by
    intro hin
    rcases h.passed i hin with hp | hp
    · exact absurd (hi.symm.trans hp) (by simp)
    · exact absurd (hi.symm.trans hp) (by simp)
  have hnotifiers : ∀ j, j ∈ ({ s.moveTo i .cancelling with
      notified := s.notified ++ [(i, s.finished)] } : FsckRound).notifiers ↔
        j ∈ s.notifiers ∨ j = i := by
    intro j
    unfold notifiers
    simp
  refine ⟨h.moveTo_begun (by rw [hi]; simp) _, h.started, ?_, ?_, ?_, ?_, fun j => ?_,
    fun j k => ?_, ?_, fun j hj => ?_, fun j hj => ?_, fun j hj => ?_⟩
  · simpa [RoundStep.countsDown] using h.count
  · simpa [RoundStep.finishes] using h.finished
  · simpa using h.armed
  · simpa [CancelsArmed, Schedules.at_concat] using h.connecting
  · rw [hnotifiers]
    show Schedules.At _ _ (steps ++ [.notify i]) ↔ (s.moveTo i .cancelling).phase j = _ ∨ _
    rw [Schedules.at_concat, moveTo_phase]
    show TestsAtZero steps j ∨ _ ↔ _
    rw [h.zero]
    by_cases hji : j = i
    · subst hji
      simp [hi]
    · simp [hji]
  · show (j, k) ∈ s.notified ++ [(i, s.finished)] ↔ Schedules.At _ _ (steps ++ [.notify i])
    rw [Schedules.at_concat, List.mem_append, h.notified, List.mem_singleton, Prod.mk.injEq,
      RoundStep.notify.injEq, h.finished, @eq_comm _ j, @eq_comm _ k]
    exact Iff.rfl
  · show (List.map Prod.fst (s.notified ++ [(i, s.finished)])).Nodup
    rw [List.map_append]
    refine List.nodup_append'.mpr ⟨h.once, List.nodup_singleton i, ?_⟩
    intro j hj hji
    have heq : j = i := List.mem_singleton.mp hji
    exact hnot (heq ▸ hj)
  · exact (hnotifiers j).mpr (Or.inl (h.cancelled j (by simpa using hj)))
  · rw [hnotifiers]
    by_cases hji : j = i
    · exact Or.inr hji
    · have hj' := (moveTo_phase s i .cancelling j).symm.trans hj
      rw [if_neg hji] at hj'
      exact Or.inl (h.cancelling j hj')
  · show (s.moveTo i .cancelling).phase j = _ ∨ _
    rw [moveTo_phase]
    by_cases hji : j = i
    · rw [if_pos hji]
      exact Or.inl rfl
    · rw [if_neg hji]
      exact h.passed j (((hnotifiers j).mp hj).resolve_right hji)

/-- Thread `i` cancels the timer. -/
theorem Told.cancel {n : Nat} {steps : List RoundStep} {s : FsckRound} {i : Nat}
    (h : Told n steps s) (hi : s.phase i = .cancelling) :
    Told n (steps ++ [.cancel i]) { s.moveTo i .returned with connecting := false } := by
  have hin : i ∈ s.notifiers := h.cancelling i hi
  refine ⟨h.moveTo_begun (by rw [hi]; simp) _, h.started, ?_, ?_, ?_, ?_, fun j => ?_,
    fun j k => ?_, h.once, fun j hj => ?_, fun j hj => ?_, fun j hj => ?_⟩
  · simpa [RoundStep.countsDown] using h.count
  · simpa [RoundStep.finishes] using h.finished
  · simpa using h.armed
  · refine iff_of_false Bool.false_ne_true fun hnone => hnone.2 i ?_
    exact Schedules.at_concat.mpr (Or.inr ⟨rfl, by simpa using hnone.1⟩)
  · show Schedules.At _ _ (steps ++ [.cancel i]) ↔ (s.moveTo i .returned).phase j = _ ∨ j ∈ s.notifiers
    rw [Schedules.at_concat, moveTo_phase]
    show TestsAtZero steps j ∨ _ ↔ _
    rw [h.zero]
    by_cases hji : j = i
    · subst hji
      simp [hin]
    · simp [hji]
  · simpa [NotifiesAfter, Schedules.at_concat] using h.notified j k
  · rcases List.mem_append.mp hj with hold | hnew
    · exact h.cancelled j hold
    · obtain rfl : j = i := by simpa using hnew
      exact hin
  · have hj' := (moveTo_phase s i .returned j).symm.trans hj
    by_cases hji : j = i
    · rw [if_pos hji] at hj'
      exact absurd hj' (by simp)
    · rw [if_neg hji] at hj'
      exact h.cancelling j hj'
  · show (s.moveTo i .returned).phase j = _ ∨ _
    rw [moveTo_phase]
    by_cases hji : j = i
    · rw [if_pos hji]
      exact Or.inr rfl
    · rw [if_neg hji]
      exact h.passed j hj

/-- The loop arms the timer. -/
theorem Told.arm {n : Nat} {steps : List RoundStep} {s : FsckRound} (h : Told n steps s)
    (harmed : s.armed = false) :
    Told n (steps ++ [.arm]) { s with armed := true, connecting := true } := by
  have hnew : .arm ∉ steps := fun hin => absurd (h.armed.mpr hin) (by simp [harmed])
  refine ⟨h.begun, h.started, ?_, ?_, by simp, ?_, fun j => ?_, fun j k => ?_, h.once,
    fun j hj => ?_, h.cancelling, h.passed⟩
  · simpa [RoundStep.countsDown] using h.count
  · simpa [RoundStep.finishes] using h.finished
  · refine iff_of_true rfl ⟨by simp, fun j hj => ?_⟩
    rcases Schedules.at_concat.mp hj with ⟨before, after, rfl, hin⟩ | ⟨heq, -⟩
    · exact hnew (List.mem_append_left _ hin)
    · exact absurd heq (by simp)
  · exact Schedules.at_concat.trans ((or_iff_left (by simp)).trans (h.zero j))
  · simpa [NotifiesAfter, Schedules.at_concat] using h.notified j k
  · exact h.cancelled j (by simpa using hj)

theorem step_told {n : Nat} {steps : List RoundStep} {s t : FsckRound} {i : RoundStep}
    (h : Told n steps s) (hstep : step n s i = some t) : Told n (steps ++ [i]) t := by
  unfold step at hstep
  cases i with
  | start =>
    dsimp only at hstep
    split at hstep
    · rename_i hok
      rw [← Option.some.inj hstep]
      have hnew : s.phase s.started = .unstarted := by
        by_contra hne
        exact absurd (h.begun _ hne) (Nat.lt_irrefl _)
      refine h.early (fun j hj => ?_) hok.1 ?_ ?_ rfl rfl rfl
        (moveTo_early (by simp [hnew]) (by simp)) (by simp)
      · have hj' : (s.moveTo s.started .checking).phase j ≠ .unstarted := hj
        rw [moveTo_phase] at hj'
        show j < s.started + 1
        by_cases hji : j = s.started
        · omega
        · rw [if_neg hji] at hj'
          exact Nat.lt_succ_of_lt (h.begun j hj')
      · simpa [RoundStep.countsDown] using h.count
      · simpa [RoundStep.finishes] using h.finished
    · exact absurd hstep (by simp)
  | count =>
    dsimp only at hstep
    split at hstep
    · rw [← Option.some.inj hstep]
      refine h.early h.begun h.started ?_ ?_ rfl rfl rfl (fun j => Or.inl rfl) (by simp)
      · have hcount := h.count
        simp [RoundStep.countsDown]
        omega
      · simpa [RoundStep.finishes] using h.finished
    · exact absurd hstep (by simp)
  | arm =>
    dsimp only at hstep
    split at hstep
    · rename_i hok
      rw [← Option.some.inj hstep]
      exact h.arm hok.2
    · exact absurd hstep (by simp)
  | finish i =>
    dsimp only at hstep
    split at hstep
    · rename_i hi
      rw [← Option.some.inj hstep]
      refine h.early (h.moveTo_begun (by rw [hi]; simp) _) h.started ?_ ?_ rfl rfl rfl
        (moveTo_early (by simp [hi]) (by simp)) (by simp)
      · simpa [RoundStep.countsDown] using h.count
      · simpa [RoundStep.finishes] using h.finished
    · exact absurd hstep (by simp)
  | countDown i =>
    dsimp only at hstep
    split at hstep
    · rename_i hi
      rw [← Option.some.inj hstep]
      refine h.early (h.moveTo_begun (by rw [hi]; simp) _) h.started ?_ ?_ rfl rfl rfl
        (moveTo_early (by simp [hi]) (by simp)) (by simp)
      · have hcount := h.count
        simp [RoundStep.countsDown]
        omega
      · simpa [RoundStep.finishes] using h.finished
    · exact absurd hstep (by simp)
  | test i =>
    dsimp only at hstep
    split at hstep
    · rename_i hi
      rw [← Option.some.inj hstep]
      exact h.test hi
    · exact absurd hstep (by simp)
  | notify i =>
    dsimp only at hstep
    split at hstep
    · rename_i hi
      rw [← Option.some.inj hstep]
      exact h.notify hi
    · exact absurd hstep (by simp)
  | cancel i =>
    dsimp only at hstep
    split at hstep
    · rename_i hi
      rw [← Option.some.inj hstep]
      exact h.cancel hi
    · exact absurd hstep (by simp)

theorem run_told {n : Nat} {steps : List RoundStep} {s : FsckRound}
    (hrun : Schedules.run (step n) {} steps = some s) : Told n steps s :=
  Schedules.run_history (init_told n) (fun _ _ _ _ h hstep => step_told h hstep) hrun

/-! ### The announcement -/

theorem Told.over_zero {n : Nat} {steps : List RoundStep} {s : FsckRound} (h : Told n steps s)
    (hover : s.Over n) (i : Nat) : TestsAtZero steps i ↔ i ∈ s.notifiers := by
  rw [h.zero]
  refine or_iff_right fun hi => ?_
  have hlt : i < n := Nat.lt_of_lt_of_le (h.begun i (by rw [hi]; simp)) h.started
  exact absurd (hi.symm.trans (hover.2 i hlt)) (by simp)

/-- Only one thread has notified. -/
theorem Told.singleton {n : Nat} {steps : List RoundStep} {s : FsckRound} (h : Told n steps s)
    {i k : Nat} (hin : (i, k) ∈ s.notified) (hmem : ∀ j ∈ s.notifiers, j = i) :
    s.notified = [(i, k)] := by
  have honce := h.once
  unfold notifiers at honce hmem
  cases hnotified : s.notified with
  | nil =>
    rw [hnotified] at hin
    exact absurd hin List.not_mem_nil
  | cons first rest =>
    rw [hnotified, List.map_cons] at honce hmem
    have hrest : rest = [] := by
      refine List.eq_nil_iff_forall_not_mem.mpr fun other hother => ?_
      have hmap : other.1 ∈ rest.map Prod.fst := List.mem_map_of_mem hother
      have heq : other.1 = first.1 :=
        (hmem other.1 (List.mem_cons_of_mem _ hmap)).trans (hmem first.1 List.mem_cons_self).symm
      exact (List.nodup_cons.mp honce).1 (heq ▸ hmap)
    rw [hnotified, hrest, List.mem_singleton] at hin
    rw [hrest, hin]

/-- **A round of checks that is over was announced once, after all checks and with no
timer left, if and only if its schedule settles.** -/
theorem announced_once_iff {n : Nat} {steps : List RoundStep} {s : FsckRound}
    (hrun : Schedules.run (step n) {} steps = some s) (hover : s.Over n) :
    s.AnnouncedOnce n ↔ Settles n steps := by
  have h : Told n steps s := run_told hrun
  have harmed : .arm ∈ steps := h.armed.mp hover.1
  constructor
  · rintro ⟨honce, hidle⟩
    obtain ⟨⟨i, k⟩, hnotified, hk⟩ := List.map_eq_singleton_iff.mp honce
    obtain rfl : k = n := hk
    have hmem : ∀ j, j ∈ s.notifiers ↔ j = i := by
      intro j
      unfold notifiers
      rw [hnotified]
      simp
    refine ⟨i, fun j => (h.over_zero hover j).trans (hmem j), ?_, ?_⟩
    · rw [← h.notified i k, hnotified]
      exact List.mem_singleton.mpr rfl
    · have hsome : ∃ j, CancelsArmed steps j := by
        by_contra hnone
        push Not at hnone
        exact absurd (h.connecting.mpr ⟨harmed, hnone⟩) (by simp [hidle])
      obtain ⟨j, hj⟩ := hsome
      rw [← (hmem j).mp (h.cancelled j hj.mem)]
      exact hj
  · rintro ⟨i, hzero, hnotifies, hcancels⟩
    have hin : (i, n) ∈ s.notified := (h.notified i n).mpr hnotifies
    have hmem : ∀ j ∈ s.notifiers, j = i := fun j hj =>
      (hzero j).mp ((h.over_zero hover j).mpr hj)
    refine ⟨?_, ?_⟩
    · rw [h.singleton hin hmem]
      rfl
    · by_contra hpending
      exact (h.connecting.mp (by simpa using hpending)).2 i hcancels

/-- The loop comes to its end before the two threads come to theirs, one by one. -/
def loopFirst : List RoundStep :=
  [.start, .count, .start, .finish 1, .count, .arm, .countDown 1, .test 1,
    .finish 0, .countDown 0, .test 0, .notify 0, .cancel 0]

theorem announced_once_iff_loop_first :
    ∃ s, Schedules.run (step 2) {} loopFirst = some s ∧ s.Over 2 ∧
      (s.AnnouncedOnce 2 ↔ Settles 2 loopFirst) := by
  have hover : ((Schedules.run (step 2) {} loopFirst).get (by decide)).Over 2 :=
    ⟨by decide, by decide⟩
  exact ⟨_, by simp, hover, announced_once_iff (by simp) hover⟩

/-- The only thread counts down before it is counted. -/
def countedLate : List RoundStep :=
  [.start, .finish 0, .countDown 0, .test 0, .count, .arm]

/-- Both threads count down before either makes its test. -/
def countedDownTogether : List RoundStep :=
  [.start, .count, .start, .count, .arm, .finish 0, .finish 1, .countDown 0, .countDown 1,
    .test 0, .notify 0, .cancel 0, .test 1, .notify 1, .cancel 1]

/-- The first thread is through before the second is started. -/
def firstAlone : List RoundStep :=
  [.start, .count, .finish 0, .countDown 0, .test 0, .notify 0, .cancel 0,
    .start, .count, .finish 1, .countDown 1, .test 1, .notify 1, .cancel 1, .arm]

/-- One partition is never announced and leaves the timer; two are announced twice, also
with a check still to come. -/
theorem announced_never_or_twice :
    (∃ s, Schedules.run (step 1) {} countedLate = some s ∧ s.Over 1 ∧
      s.notified = [] ∧ s.connecting = true) ∧
    (∃ s, Schedules.run (step 2) {} countedDownTogether = some s ∧ s.Over 2 ∧
      s.notified = [(0, 2), (1, 2)]) ∧
    ∃ s, Schedules.run (step 2) {} firstAlone = some s ∧ s.Over 2 ∧
      s.notified = [(0, 1), (1, 2)] ∧ s.connecting = true := by
  refine ⟨⟨(Schedules.run (step 1) {} countedLate).get (by decide), by simp, ?_⟩,
    ⟨(Schedules.run (step 2) {} countedDownTogether).get (by decide), by simp, ?_⟩,
    ⟨(Schedules.run (step 2) {} firstAlone).get (by decide), by simp, ?_⟩⟩
  · exact ⟨⟨by decide, by decide⟩, by decide, by decide⟩
  · exact ⟨⟨by decide, by decide⟩, by decide⟩
  · exact ⟨⟨by decide, by decide⟩, by decide, by decide⟩

end FsckRound

end Pdm
