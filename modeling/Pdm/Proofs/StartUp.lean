/-
Which devices are known once the listener has started.

The thread enables the monitor after the enumeration is over, so an event in between
reaches nobody.  Whether that matters is a matter of the schedule alone: **once all
queued events are handled, exactly the attached devices are the ones that arrived last,
if and only if each device either has an event after the monitor is enabled, or is
attached at that moment just when it was attached as the enumeration read it.**
-/
import Mathlib.Data.List.TakeWhile
import Pdm.Framework.PdmNetlinkListener

namespace Pdm

namespace UdevEvent

/-- The devices that are attached after an event. -/
def apply (e : UdevEvent) (attached : Finset UdevDevice) : Finset UdevDevice :=
  if e.arrival then insert e.device attached else attached.erase e.device

theorem mem_apply (e : UdevEvent) (attached : Finset UdevDevice) {d : UdevDevice} :
    d ∈ e.apply attached ↔ if e.device = d then e.arrival = true else d ∈ attached := by
  unfold apply
  by_cases he : e.device = d
  · subst he
    cases e.arrival <;> simp
  · cases e.arrival <;> simp [he, Ne.symm he]

/-- The step in which the kernel emits an event. -/
def step (e : UdevEvent) : ListenerStep :=
  if e.arrival then .plug e.device else .unplug e.device

end UdevEvent

namespace PdmNetlinkListener

/-! ### Schedules -/

variable (start₀ : Finset UdevDevice)

/-- The devices that are attached after a schedule. -/
def attachedAfter (ls : List ListenerStep) : Finset UdevDevice :=
  ls.foldl
    (fun attached l =>
      match l with
      | .plug d => insert d attached
      | .unplug d => attached.erase d
      | _ => attached) start₀

/-- What happens before the monitor is enabled. -/
def beforeEnable (ls : List ListenerStep) : List ListenerStep :=
  ls.takeWhile (· ≠ .enableReceiving)

/-- What happens after the monitor is enabled. -/
def afterEnable (ls : List ListenerStep) : List ListenerStep :=
  (ls.dropWhile (· ≠ .enableReceiving)).tail

/-- The device is plugged or unplugged after the monitor is enabled. -/
def Late (ls : List ListenerStep) (d : UdevDevice) : Prop :=
  .plug d ∈ afterEnable ls ∨ .unplug d ∈ afterEnable ls

instance (ls : List ListenerStep) (d : UdevDevice) : Decidable (Late ls d) :=
  inferInstanceAs (Decidable (_ ∨ _))

/-- The device is attached when the enumeration reads it. -/
def Found (ls : List ListenerStep) (d : UdevDevice) : Prop :=
  ∃ before after, ls = before ++ .read d :: after ∧ d ∈ attachedAfter start₀ before

/-- Nothing happens unseen to the device. -/
def Seen (ls : List ListenerStep) (d : UdevDevice) : Prop :=
  Late ls d ∨ (Found start₀ ls d ↔ d ∈ attachedAfter start₀ (beforeEnable ls))

/-- The last of the events about the device is an arrival. -/
def ArrivedLast (events : List UdevEvent) (d : UdevDevice) : Prop :=
  (events.filter (·.device = d)).getLast? = some ⟨d, true⟩

/-! ### One more step -/

variable {start₀} {ls : List ListenerStep} {d : UdevDevice}

theorem attachedAfter_concat (l : ListenerStep) :
    attachedAfter start₀ (ls ++ [l]) =
      match l with
      | .plug d => insert d (attachedAfter start₀ ls)
      | .unplug d => (attachedAfter start₀ ls).erase d
      | _ => attachedAfter start₀ ls := by
  unfold attachedAfter
  rw [List.foldl_append]
  rfl

theorem beforeEnable_concat (hmem : .enableReceiving ∈ ls) (l : ListenerStep) :
    beforeEnable (ls ++ [l]) = beforeEnable ls := by
  unfold beforeEnable
  rw [List.takeWhile_append, if_neg]
  intro hlength
  have hall := List.takeWhile_eq_self_iff.mp
    ((List.takeWhile_prefix (p := (· ≠ ListenerStep.enableReceiving)) (l := ls)).eq_of_length hlength)
  exact absurd (hall _ hmem) (by simp)

theorem beforeEnable_enable (hmem : .enableReceiving ∉ ls) :
    beforeEnable (ls ++ [.enableReceiving]) = ls := by
  unfold beforeEnable
  have hall : ∀ l ∈ ls, decide (l ≠ ListenerStep.enableReceiving) = true := by
    intro l hl
    exact decide_eq_true fun h => hmem (h ▸ hl)
  rw [List.takeWhile_append_of_pos hall]
  simp

theorem afterEnable_concat (hmem : .enableReceiving ∈ ls) (l : ListenerStep) :
    afterEnable (ls ++ [l]) = afterEnable ls ++ [l] := by
  unfold afterEnable
  induction ls with
  | nil => exact absurd hmem (by simp)
  | cons a ls ih =>
    by_cases ha : a = .enableReceiving
    · simp [ha]
    · have hrest : ListenerStep.enableReceiving ∈ ls := by
        rcases List.mem_cons.mp hmem with h | h
        · exact absurd h.symm ha
        · exact h
      simpa [ha] using ih hrest

theorem afterEnable_none (hmem : .enableReceiving ∉ ls) : afterEnable ls = [] := by
  unfold afterEnable
  have hall : ls.dropWhile (· ≠ ListenerStep.enableReceiving) = [] :=
    List.dropWhile_eq_nil_iff.mpr fun l hl => decide_eq_true fun h => hmem (h ▸ hl)
  rw [hall]
  rfl

theorem afterEnable_enable (hmem : .enableReceiving ∉ ls) :
    afterEnable (ls ++ [.enableReceiving]) = [] := by
  unfold afterEnable
  have hall : ls.dropWhile (· ≠ ListenerStep.enableReceiving) = [] :=
    List.dropWhile_eq_nil_iff.mpr fun l hl => decide_eq_true fun h => hmem (h ▸ hl)
  rw [List.dropWhile_append, hall]
  simp

theorem found_concat (l : ListenerStep) :
    Found start₀ (ls ++ [l]) d ↔
      Found start₀ ls d ∨ l = .read d ∧ d ∈ attachedAfter start₀ ls := by
  constructor
  · rintro ⟨before, after, heq, hd⟩
    rcases List.eq_nil_or_concat after with rfl | ⟨after, l', rfl⟩
    · obtain ⟨rfl, hl⟩ := List.append_inj' heq rfl
      exact Or.inr ⟨by simpa using hl, hd⟩
    · have heq' : ls ++ [l] = (before ++ .read d :: after) ++ [l'] := by simpa using heq
      exact Or.inl ⟨before, after, (List.append_inj' heq' rfl).1, hd⟩
  · rintro (⟨before, after, rfl, hd⟩ | ⟨rfl, hd⟩)
    · exact ⟨before, after ++ [l], by simp, hd⟩
    · exact ⟨ls, [], rfl, hd⟩

theorem arrivedLast_concat (events : List UdevEvent) (e : UdevEvent) :
    ArrivedLast (events ++ [e]) d ↔
      if e.device = d then e.arrival = true else ArrivedLast events d := by
  unfold ArrivedLast
  rw [List.filter_append]
  by_cases he : e.device = d
  · obtain ⟨device, arrival⟩ := e
    dsimp only at he
    subst he
    simp
  · simp [he]

/-! ### The invariant -/

/-- How the listener's state follows from the schedule.  What is handled and what is still
queued are one log of events: receiving one moves it, but does not change the log. -/
structure Follows (start₀ : Finset UdevDevice) (ls : List ListenerStep)
    (l : PdmNetlinkListener) : Prop where
  attached : l.attached = attachedAfter start₀ ls
  listening : l.phase = .listening ↔ .enableReceiving ∈ ls
  idle : .enableReceiving ∉ ls → l.queue = []
  log : ∀ d, d.monitored → (ArrivedLast (l.handled ++ l.queue) d ↔
    if Late ls d then d ∈ l.attached else Found start₀ ls d)
  still : ∀ d, .enableReceiving ∈ ls → ¬ Late ls d →
    (d ∈ l.attached ↔ d ∈ attachedAfter start₀ (beforeEnable ls))

theorem late_concat (hmem : .enableReceiving ∈ ls) (l : ListenerStep) :
    Late (ls ++ [l]) d ↔ Late ls d ∨ l = .plug d ∨ l = .unplug d := by
  unfold Late
  rw [afterEnable_concat hmem]
  simp only [List.mem_append, List.mem_singleton, eq_comm (b := l)]
  tauto

theorem not_late (hmem : .enableReceiving ∉ ls) : ¬ Late ls d := by
  unfold Late
  rw [afterEnable_none hmem]
  simp

/-- A step that is no event and hands over nothing new. -/
theorem Follows.quiet {l u : PdmNetlinkListener} {i : ListenerStep} (h : Follows start₀ ls l)
    (hattached : u.attached = l.attached)
    (hlistening : u.phase = .listening ↔ l.phase = .listening)
    (hlog : u.handled ++ u.queue = l.handled ++ l.queue)
    (hidle : .enableReceiving ∉ ls → u.queue = [])
    (hquiet : ∀ d, i ≠ .plug d ∧ i ≠ .unplug d ∧ (i = .read d → d ∉ l.attached))
    (henable : i ≠ .enableReceiving) : Follows start₀ (ls ++ [i]) u := by
  have hafter : attachedAfter start₀ (ls ++ [i]) = attachedAfter start₀ ls := by
    rw [attachedAfter_concat]
    split
    · exact absurd rfl (hquiet _).1
    · exact absurd rfl (hquiet _).2.1
    · rfl
  have hmem : .enableReceiving ∈ ls ++ [i] ↔ .enableReceiving ∈ ls := by
    simp [henable.symm]
  have hlate : ∀ d, Late (ls ++ [i]) d ↔ Late ls d := by
    intro d
    by_cases hin : .enableReceiving ∈ ls
    · rw [late_concat hin]
      simp [(hquiet d).1, (hquiet d).2.1]
    · exact iff_of_false (not_late (hmem.not.mpr hin)) (not_late hin)
  have hfound : ∀ d, Found start₀ (ls ++ [i]) d ↔ Found start₀ ls d := by
    intro d
    rw [found_concat, ← h.attached]
    exact or_iff_left fun hread => (hquiet d).2.2 hread.1 hread.2
  refine ⟨?_, ?_, ?_, ?_, ?_⟩
  · rw [hattached, hafter, h.attached]
  · rw [hlistening, hmem, h.listening]
  · exact fun hnot => hidle (hmem.not.mp hnot)
  · intro d hd
    rw [hlog, h.log d hd, hattached]
    simp only [hlate, hfound]
  · intro d hin hnot
    rw [beforeEnable_concat (hmem.mp hin), hattached]
    exact h.still d (hmem.mp hin) ((hlate d).not.mp hnot)

@[simp] theorem emit_attached (l : PdmNetlinkListener) (e : UdevEvent) :
    (l.emit e).attached = l.attached := by
  unfold emit
  split <;> rfl

@[simp] theorem emit_phase (l : PdmNetlinkListener) (e : UdevEvent) :
    (l.emit e).phase = l.phase := by
  unfold emit
  split <;> rfl

theorem emit_log (l : PdmNetlinkListener) (e : UdevEvent) :
    (l.emit e).handled ++ (l.emit e).queue =
      (l.handled ++ l.queue) ++ (if l.phase = .listening ∧ e.device.monitored then [e] else []) := by
  unfold emit
  split <;> simp

/-- The kernel emits an event: it goes on the log when the monitor is enabled. -/
theorem Follows.event {l : PdmNetlinkListener} (h : Follows start₀ ls l) (e : UdevEvent)
    (steady : Finset UdevDevice) :
    Follows start₀ (ls ++ [e.step])
      ({ l with attached := e.apply l.attached, steady := steady }.emit e) := by
  have hafter : attachedAfter start₀ (ls ++ [e.step]) = e.apply l.attached := by
    rw [attachedAfter_concat, h.attached]
    unfold UdevEvent.step UdevEvent.apply
    cases e.arrival <;> rfl
  have hmem : .enableReceiving ∈ ls ++ [e.step] ↔ .enableReceiving ∈ ls := by
    unfold UdevEvent.step
    cases e.arrival <;> simp
  have hfound : ∀ d, Found start₀ (ls ++ [e.step]) d ↔ Found start₀ ls d := by
    intro d
    rw [found_concat]
    unfold UdevEvent.step
    cases e.arrival <;> simp
  have hlate : ∀ d, Late (ls ++ [e.step]) d ↔
      .enableReceiving ∈ ls ∧ (Late ls d ∨ e.device = d) := by
    intro d
    by_cases hin : .enableReceiving ∈ ls
    · rw [late_concat hin]
      unfold UdevEvent.step
      cases e.arrival <;> simp [hin]
    · exact iff_of_false (not_late (hmem.not.mpr hin)) fun hc => hin hc.1
  refine ⟨?_, ?_, ?_, ?_, ?_⟩
  · rw [emit_attached, hafter]
  · rw [emit_phase, hmem]
    exact h.listening
  · intro hnot
    have hin := hmem.not.mp hnot
    have hphase : ¬ l.phase = .listening := h.listening.not.mpr hin
    unfold emit
    simpa [hphase] using h.idle hin
  · intro d hd
    have hlog := h.log d hd
    rw [emit_log, emit_attached]
    simp only [hlate, hfound, UdevEvent.mem_apply]
    by_cases hin : .enableReceiving ∈ ls
    · have hphase : l.phase = .listening := h.listening.mpr hin
      by_cases he : e.device = d
      · rw [if_pos ⟨hphase, he ▸ hd⟩, arrivedLast_concat]
        simp [he, hin]
      · have hsame : ArrivedLast (l.handled ++ l.queue ++
            if l.phase = .listening ∧ e.device.monitored then [e] else []) d ↔
            ArrivedLast (l.handled ++ l.queue) d := by
          split
          · rw [arrivedLast_concat, if_neg he]
          · rw [List.append_nil]
        rw [hsame, hlog]
        simp [he, hin]
    · have hphase : ¬ l.phase = .listening := h.listening.not.mpr hin
      rw [if_neg (not_late hin)] at hlog
      simpa [hphase, hin] using hlog
  · intro d hnew hnot
    have hin := hmem.mp hnew
    obtain ⟨hearly, hother⟩ := not_or.mp fun hor => hnot ((hlate d).mpr ⟨hin, hor⟩)
    rw [beforeEnable_concat hin, emit_attached, UdevEvent.mem_apply, if_neg hother]
    exact h.still d hin hearly

/-- The monitor is enabled. -/
theorem Follows.enable {l : PdmNetlinkListener} (h : Follows start₀ ls l)
    (hphase : l.phase = .threadStart) :
    Follows start₀ (ls ++ [.enableReceiving]) { l with phase := .listening } := by
  have hin : .enableReceiving ∉ ls := by
    intro hin
    rw [h.listening.mpr hin] at hphase
    exact absurd hphase (by decide)
  have hlate : ∀ d, ¬ Late (ls ++ [.enableReceiving]) d := by
    intro d
    unfold Late
    rw [afterEnable_enable hin]
    simp
  refine ⟨by rw [attachedAfter_concat, ← h.attached], by simp, fun hnot => absurd (by simp) hnot,
    fun d hd => ?_, fun d _ _ => ?_⟩
  · have hlog := h.log d hd
    rw [if_neg (not_late hin)] at hlog
    rw [if_neg (hlate d), found_concat, hlog]
    simp
  · rw [beforeEnable_enable hin, ← h.attached]

/-- The enumeration reads a device that is attached: it arrives. -/
theorem Follows.read {l : PdmNetlinkListener} (h : Follows start₀ ls l)
    (hphase : l.phase = .reading) {d : UdevDevice} (hd : d ∈ l.attached) :
    Follows start₀ (ls ++ [.read d])
      ({ l with entries := l.entries.tail }.handleEvent ⟨d, true⟩) := by
  have hin : .enableReceiving ∉ ls := by
    intro hin
    rw [h.listening.mpr hin] at hphase
    exact absurd hphase (by decide)
  have hnew : .enableReceiving ∉ ls ++ [.read d] := by
    simp [hin]
  have hqueue : l.queue = [] := h.idle hin
  refine ⟨by rw [attachedAfter_concat]; exact h.attached, ?_, fun _ => hqueue, fun c hc => ?_,
    fun c hnot => absurd hnot hnew⟩
  · exact iff_of_false (by simp [handleEvent, hphase]) hnew
  · have hlog := h.log c hc
    rw [if_neg (not_late hin), hqueue, List.append_nil] at hlog
    rw [if_neg (not_late hnew), found_concat, ← h.attached, ← hlog]
    unfold handleEvent
    rw [hqueue, List.append_nil, arrivedLast_concat]
    by_cases hdc : d = c
    · subst hdc
      simp [hd]
    · simp [hdc]

theorem follows_start (start₀ : Finset UdevDevice) : Follows start₀ [] (start start₀) := by
  refine ⟨rfl, by simp [start], fun _ => rfl, fun d _ => ?_, fun d hmem => absurd hmem (by simp)⟩
  have hfound : ¬ Found start₀ [] d := by
    rintro ⟨before, after, heq, -⟩
    exact absurd heq (by simp)
  rw [if_neg (not_late (by simp))]
  exact iff_of_false (by simp [start, ArrivedLast]) hfound

/-- Every step follows the schedule. -/
theorem step_follows {l u : PdmNetlinkListener} {i : ListenerStep} (h : Follows start₀ ls l)
    (hstep : l.step i = some u) : Follows start₀ (ls ++ [i]) u := by
  unfold step at hstep
  cases i with
  | plug d =>
    dsimp only at hstep
    split at hstep
    · exact absurd hstep (by simp)
    · rw [← Option.some.inj hstep]
      exact h.event ⟨d, true⟩ l.steady
  | unplug d =>
    dsimp only at hstep
    split at hstep
    · rw [← Option.some.inj hstep]
      exact h.event ⟨d, false⟩ (l.steady.erase d)
    · exact absurd hstep (by simp)
  | scan d =>
    dsimp only at hstep
    split at hstep
    · rw [← Option.some.inj hstep]
      split
      · exact h.quiet rfl Iff.rfl rfl h.idle (fun _ => ⟨by simp, by simp, by simp⟩) (by simp)
      · exact h.quiet rfl Iff.rfl rfl h.idle (fun _ => ⟨by simp, by simp, by simp⟩) (by simp)
    · exact absurd hstep (by simp)
  | scanned =>
    dsimp only at hstep
    split at hstep
    · rename_i hok
      rw [← Option.some.inj hstep]
      exact h.quiet rfl (by simp [hok.1]) rfl h.idle (fun _ => ⟨by simp, by simp, by simp⟩) (by simp)
    · exact absurd hstep (by simp)
  | read d =>
    dsimp only at hstep
    split at hstep
    · rename_i hok
      rw [← Option.some.inj hstep]
      by_cases hd : d ∈ l.attached
      · rw [if_pos hd]
        exact h.read hok.1 hd
      · rw [if_neg hd]
        refine h.quiet rfl Iff.rfl rfl h.idle (fun c => ⟨by simp, by simp, ?_⟩) (by simp)
        intro hread
        rwa [← ListenerStep.read.inj hread]
    · exact absurd hstep (by simp)
  | runListner =>
    dsimp only at hstep
    split at hstep
    · rename_i hok
      rw [← Option.some.inj hstep]
      exact h.quiet rfl (by simp [hok.1]) rfl h.idle (fun _ => ⟨by simp, by simp, by simp⟩) (by simp)
    · exact absurd hstep (by simp)
  | enableReceiving =>
    dsimp only at hstep
    split at hstep
    · rename_i hok
      rw [← Option.some.inj hstep]
      exact h.enable hok
    · exact absurd hstep (by simp)
  | receive =>
    cases hqueue : l.queue with
    | nil => simp [hqueue] at hstep
    | cons e rest =>
      simp only [hqueue] at hstep
      split at hstep
      · rename_i hok
        rw [← Option.some.inj hstep]
        refine h.quiet rfl Iff.rfl ?_ ?_ (fun _ => ⟨by simp, by simp, by simp⟩) (by simp)
        · simp [handleEvent, hqueue]
        · exact fun hnot => absurd (h.listening.mp hok) hnot
      · exact absurd hstep (by simp)

/-! ### The result -/

/-- **Once the listener has handled all its events, the devices that arrived last are the
attached ones exactly when nothing happened unseen to any device.** -/
theorem known_iff_attached (start₀ : Finset UdevDevice) {ls : List ListenerStep}
    {l : PdmNetlinkListener} (hrun : Schedules.run step (start start₀) ls = some l)
    (hphase : l.phase = .listening) (hqueue : l.queue = []) :
    (∀ d, d.monitored → (ArrivedLast l.handled d ↔ d ∈ l.attached)) ↔
      ∀ d, d.monitored → Seen start₀ ls d := by
  have h : Follows start₀ ls l :=
    Schedules.run_history (P := Follows start₀) (follows_start start₀)
      (fun _ _ _ _ hf hstep => step_follows hf hstep) hrun
  refine forall_congr' fun d => forall_congr' fun hd => ?_
  have hlog := h.log d hd
  rw [hqueue, List.append_nil] at hlog
  unfold Seen
  by_cases hlate : Late ls d
  · rw [if_pos hlate] at hlog
    exact iff_of_true hlog (Or.inl hlate)
  · rw [if_neg hlate] at hlog
    rw [hlog, h.still d (h.listening.mp hphase) hlate]
    exact (or_iff_right hlate).symm

/-- A USB stick. -/
def usbStick : UdevDevice where
  syspath := "/sys/devices/usb1/1-1"
  subsystem := "usb"
  devtype := "usb_device"

/-- A stick is plugged when the enumeration is over and the monitor is not enabled. -/
def plugEarly : List ListenerStep :=
  [.scanned, .runListner, .plug usbStick, .enableReceiving]

theorem known_iff_attached_early :
    (∀ d, d.monitored → (ArrivedLast [] d ↔ d ∈ ({usbStick} : Finset UdevDevice))) ↔
      ∀ d, d.monitored → Seen ∅ plugEarly d :=
  @known_iff_attached ∅ plugEarly
    { attached := {usbStick}, steady := ∅, phase := .listening } (by decide) rfl rfl

/-- Nobody hears of the stick. -/
theorem early_stick_unknown :
    ∃ l, Schedules.run step (start ∅) plugEarly = some l ∧ l.phase = .listening ∧ l.queue = [] ∧
      ¬ ∀ d, d.monitored → (ArrivedLast l.handled d ↔ d ∈ l.attached) := by
  refine ⟨{ attached := {usbStick}, steady := ∅, phase := .listening }, by decide, rfl, rfl, ?_⟩
  intro h
  have hstick := h usbStick (by decide)
  revert hstick
  unfold ArrivedLast
  decide

end PdmNetlinkListener

end Pdm
