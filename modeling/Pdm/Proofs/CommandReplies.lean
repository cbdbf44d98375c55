/-
When a luna request gets its reply.

The message is answered, and its reference released, behind `HandlePdmCommand` in
`PdmCommand::execute`; so nothing does it for a command that the pool has refused or
whose handlers throw.  **A request is answered exactly once when it is queued before the
pool is told to terminate and its handlers return; otherwise never, and its reference is
kept for good.**

A command's history is read off the schedule (`Told`): queued, executed, thrown.  The
queue's own invariant, that no command is executed twice, does the rest.
-/
import Pdm.Proofs.CommandQueue

namespace Pdm

namespace CommandManager

/-! ### What a schedule says of a command -/

/-- The command gets through `enqueue` before the pool is told to terminate. -/
def Queued (steps : List PoolStep) (cmd : Command) : Prop :=
  Schedules.At (fun before => .terminate ∉ before) (.enqueue cmd false) steps

/-- The command was queued already, or it is now. -/
theorem queued_concat {steps : List PoolStep} {cmd : Command} {i : PoolStep} :
    Queued (steps ++ [i]) cmd ↔
      Queued steps cmd ∨ i = .enqueue cmd false ∧ .terminate ∉ steps :=
  Schedules.at_concat

/-- The state tells what the schedule was. -/
structure Told (steps : List PoolStep) (m : CommandManager) : Prop where
  terminate : m.terminate = true ↔ .terminate ∈ steps
  queued : ∀ cmd, cmd ∈ m.accepted ↔ Queued steps cmd
  threw : ∀ cmd, .execute cmd true ∈ steps ↔ cmd ∈ m.executed ∧ cmd ∉ m.completed
  completed : m.completed.Sublist m.executed

/-- A step that queues and executes nothing. -/
theorem Told.quiet {steps : List PoolStep} {m n : CommandManager} {i : PoolStep}
    (h : Told steps m) (hterminate : n.terminate = true ↔ m.terminate = true ∨ i = .terminate)
    (haccepted : n.accepted = m.accepted) (hexecuted : n.executed = m.executed)
    (hcompleted : n.completed = m.completed)
    (hqueues : ∀ cmd, i = .enqueue cmd false → .terminate ∈ steps)
    (hexecutes : ∀ cmd, i ≠ .execute cmd true) : Told (steps ++ [i]) n := by
  refine ⟨?_, fun cmd => ?_, fun cmd => ?_, ?_⟩
  · rw [hterminate, h.terminate, List.mem_append, List.mem_singleton, @eq_comm _ i]
  · rw [haccepted, h.queued cmd, queued_concat]
    refine ⟨Or.inl, fun hq => ?_⟩
    rcases hq with hold | ⟨rfl, hopen⟩
    · exact hold
    · exact absurd (hqueues cmd rfl) hopen
  · rw [hexecuted, hcompleted, ← h.threw cmd, List.mem_append, List.mem_singleton]
    refine ⟨fun hin => ?_, Or.inl⟩
    rcases hin with hin | rfl
    · exact hin
    · exact absurd rfl (hexecutes cmd)
  · rw [hexecuted, hcompleted]
    exact h.completed

theorem init_told : Told [] {} := by
  refine ⟨by simp, fun cmd => ?_, by simp, List.Sublist.refl _⟩
  exact iff_of_false List.not_mem_nil Schedules.not_at_nil

/-- The command in hand has not been executed. -/
theorem Ordered.running_new {m : CommandManager} (h : m.Ordered) {cmd : Command}
    (hworker : m.worker = .running cmd) : cmd ∉ m.executed := by
  have hnodup : m.accepted.Nodup := h.accepted.nodup h.fresh
  have hheld : m.held = [cmd] := by
    unfold held
    rw [hworker]
  rw [h.fifo, hheld, List.append_assoc] at hnodup
  intro hin
  exact (List.nodup_append'.mp hnodup).2.2 hin (by simp)

theorem step_told {steps : List PoolStep} {m n : CommandManager} {i : PoolStep}
    (ho : m.Ordered) (h : Told steps m) (hstep : m.step i = some n) :
    Told (steps ++ [i]) n := by
  cases step_cases hstep with
  | refused cmd outOfMemory hnew hrefused =>
    refine h.quiet (by simp) rfl rfl rfl (fun c hc => ?_) (by simp)
    obtain ⟨rfl, rfl⟩ := PoolStep.enqueue.inj hc
    exact h.terminate.mp (hrefused.resolve_right (by simp))
  | accepted cmd hnew hopen =>
    have hopen' : .terminate ∉ steps := by
      intro hin
      rw [h.terminate.mpr hin] at hopen
      exact absurd hopen (by simp)
    refine ⟨?_, fun c => ?_, fun c => ?_, h.completed⟩
    · show m.terminate = true ↔ _
      rw [h.terminate]
      simp
    · show c ∈ m.accepted ++ [cmd] ↔ _
      rw [List.mem_append, List.mem_singleton, h.queued c, queued_concat]
      refine or_congr Iff.rfl ⟨fun hc => ⟨?_, hopen'⟩, fun hc => ?_⟩
      · rw [hc]
      · exact (PoolStep.enqueue.inj hc.1).1.symm
    · rw [List.mem_append, ← h.threw c]
      simp
  | returns cmd queued _ =>
    exact h.quiet (by simp [CommandManager.sendReturns]) rfl rfl rfl (by simp) (by simp)
  | taken cmd rest _ _ => exact h.quiet (by simp) rfl rfl rfl (by simp) (by simp)
  | executed cmd throws hworker =>
    have hnew : cmd ∉ m.executed := ho.running_new hworker
    refine ⟨?_, fun c => ?_, fun c => ?_, ?_⟩
    · show m.terminate = true ↔ _
      rw [h.terminate]
      simp
    · show c ∈ m.accepted ↔ _
      rw [h.queued c, queued_concat]
      simp
    · show _ ↔ c ∈ m.executed ++ [cmd] ∧ c ∉ if throws then m.completed else m.completed ++ [cmd]
      rw [List.mem_append, h.threw c, List.mem_singleton, PoolStep.execute.injEq,
        List.mem_append, List.mem_singleton]
      by_cases hc : c = cmd
      · rw [hc]
        have hno : cmd ∉ m.completed := fun hin => hnew (h.completed.subset hin)
        cases throws <;> simp [hnew, hno]
      · cases throws <;> simp [hc]
    · show (if throws then m.completed else m.completed ++ [cmd]).Sublist (m.executed ++ [cmd])
      cases throws with
      | true => exact h.completed.trans (List.sublist_append_left _ _)
      | false => exact h.completed.append (List.Sublist.refl _)
  | deleted cmd _ => exact h.quiet (by simp) rfl rfl rfl (by simp) (by simp)
  | returned _ _ => exact h.quiet (by simp) rfl rfl rfl (by simp) (by simp)
  | terminated => exact h.quiet (by simp) rfl rfl rfl (by simp) (by simp)

theorem run_told {steps : List PoolStep} {m : CommandManager}
    (hrun : Schedules.run step {} steps = some m) : m.Ordered ∧ Told steps m :=
  Schedules.run_history (P := fun steps m => Ordered m ∧ Told steps m)
    ⟨init_ordered, init_told⟩
    (fun _ _ _ _ h hstep => ⟨step_ordered h.1 hstep, step_told h.1 h.2 hstep⟩) hrun

/-! ### The replies -/

/-- The request has had its one reply, and its reference is gone. -/
def Answered (m : CommandManager) (message : Nat) : Prop :=
  m.commandReplies.count message = 1 ∧ m.references message = 0

theorem count_commandReplies (m : CommandManager) (message : Nat) :
    m.commandReplies.count message = m.completed.count (.pdmCommand message) := by
  unfold commandReplies
  induction m.completed with
  | nil => rfl
  | cons cmd rest ih =>
    cases cmd with
    | pdmCommand other => simp [List.count_cons, ih]
    | deviceClassCommand devClass => simp [ih]

/-- One reply is due to every request, and it is the one that releases the reference. -/
theorem answered_iff {m : CommandManager} (ho : m.Ordered) {message : Nat}
    (hmade : Command.pdmCommand message ∈ m.created) :
    m.Answered message ↔ m.commandReplies.count message = 1 := by
  refine ⟨And.left, fun hone => ⟨hone, ?_⟩⟩
  unfold references
  rw [hone, List.count_eq_one_of_mem ho.fresh hmade]
  rfl

theorem reply_iff {steps : List PoolStep} {m : CommandManager} (ho : m.Ordered)
    (h : Told steps m) (hdrained : m.Drained) (cmd : Command) :
    cmd ∈ m.completed ↔ Queued steps cmd ∧ .execute cmd true ∉ steps := by
  have hall : m.executed = m.accepted := ho.all_executed hdrained
  rw [h.threw cmd, ← h.queued cmd, ← hall]
  constructor
  · intro hin
    exact ⟨h.completed.subset hin, fun hthrew => hthrew.2 hin⟩
  · rintro ⟨hin, hnot⟩
    by_contra hno
    exact hnot ⟨hin, hno⟩

/-- **No request is answered twice, and once the queue is worked off a request has been
answered if and only if it was queued before the pool was told to terminate and its
handlers have not thrown.** -/
theorem one_reply_iff {steps : List PoolStep} {m : CommandManager}
    (hrun : Schedules.run step {} steps = some m) {message : Nat}
    (hmade : Command.pdmCommand message ∈ m.created) :
    m.commandReplies.count message ≤ 1 ∧ (m.Drained → (m.Answered message ↔
      Queued steps (.pdmCommand message) ∧ .execute (.pdmCommand message) true ∉ steps)) := by
  obtain ⟨ho, h⟩ := run_told hrun
  have hnodup : m.completed.Nodup := h.completed.nodup ho.executed_nodup
  rw [count_commandReplies]
  refine ⟨List.nodup_iff_count_le_one.mp hnodup _, fun hdrained => ?_⟩
  rw [answered_iff ho hmade, count_commandReplies, ← reply_iff ho h hdrained]
  refine ⟨fun hone => List.count_pos_iff.mp (by omega), fun hin => ?_⟩
  exact List.count_eq_one_of_mem hnodup hin

/-- The handlers throw for the first request, as `commandNotification` does where no thread can
be started; the second is answered, and the third comes after the pool was told to
terminate. -/
def threeRequests : List PoolStep :=
  [.enqueue (.pdmCommand 1) false, .take, .execute (.pdmCommand 1) true, .delete,
    .enqueue (.pdmCommand 2) false, .terminate, .enqueue (.pdmCommand 3) false,
    .take, .execute (.pdmCommand 2) false, .delete, .workerReturns,
    .sendReturns (.pdmCommand 1), .sendReturns (.pdmCommand 2), .sendReturns (.pdmCommand 3)]

theorem one_reply_iff_three_requests :
    ∃ m, Schedules.run step {} threeRequests = some m ∧
      m.commandReplies.count 2 ≤ 1 ∧ (m.Drained → (m.Answered 2 ↔
        Queued threeRequests (.pdmCommand 2) ∧
          .execute (.pdmCommand 2) true ∉ threeRequests)) := by
  refine ⟨(Schedules.run step {} threeRequests).get (by decide), by simp, ?_⟩
  exact one_reply_iff (by simp) (by decide)

/-- A request whose handlers throw and one that is refused get no reply, and their
messages are never released. -/
theorem requests_unanswered :
    ∃ m, Schedules.run step {} threeRequests = some m ∧ m.Drained ∧
      ∀ message ∈ [1, 3], Command.pdmCommand message ∈ m.created ∧
        m.commandReplies.count message = 0 ∧ m.references message = 1 := by
  refine ⟨(Schedules.run step {} threeRequests).get (by decide), by simp, ?_, ?_⟩
  · exact ⟨by decide, by decide⟩
  · decide

end CommandManager

end Pdm
