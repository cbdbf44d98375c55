/-
When alerts reach the event monitor intact.

`Told` reads the channel off its schedule: the slot is what the payloads written so far
have left there, and what the monitor has read for the `k`th payload is the beginning of
the slot as it stood after the writes before its `k`th read.  With the rule for slots that
are written again and again this gives the result: **the event monitor gets every payload,
once and in order, if and only if every payload fits and none was followed, before it was
read, by a payload that is not equal to it as far as both go.**
-/
import Pdm.Framework.PdmNotificationManager

namespace Pdm

namespace AlertChannel

/-! ### What a schedule says of the channel -/

/-- The `k`th read comes after `m` payloads have been written. -/
def ReadAfter (steps : List AlertStep) (k m : Nat) : Prop :=
  Schedules.At (fun before => before.count .read = k ∧ before.count .write = m) .read steps

/-- The payloads that are written, by their numbers. -/
def payload (events : List (List UInt8)) (k : Nat) : List UInt8 :=
  (events.filter fits).getD k []

/-- The shared memory after `m` payloads. -/
def memory (events : List (List UInt8)) (m : Nat) : List UInt8 :=
  Slots.content (List.replicate shmSize 0) (payload events) m

/-- The state tells what the schedule was. -/
structure Told (events : List (List UInt8)) (steps : List AlertStep) (s : AlertChannel) : Prop where
  pending : s.pending.filter fits = (events.filter fits).drop (steps.count .write)
  sharedMemory : s.sharedMemory = memory events (steps.count .write)
  /-- The signals still to be handled are those of the payloads that were not read. -/
  queued : ∀ k length, (s.signals ++ s.written.toList)[k]? = some length →
    length = (payload events (steps.count .read + k)).length
  balance : steps.count .read + (s.signals ++ s.written.toList).length = steps.count .write
  bound : steps.count .write ≤ (events.filter fits).length
  reads : s.reads.length = steps.count .read
  found : ∀ k found, s.reads[k]? = some found ↔
    ∃ m, ReadAfter steps k m ∧ found = (memory events m).take (payload events k).length
  readAfter : ∀ k m, ReadAfter steps k m →
    k < m ∧ m ≤ steps.count .write ∧ k < steps.count .read

theorem init_told (events : List (List UInt8)) : Told events [] { pending := events } := by
  refine ⟨by simp, rfl, by simp, rfl, Nat.zero_le _, rfl, fun k found => ?_, fun k m hr => ?_⟩
  · refine iff_of_false (by simp) ?_
    rintro ⟨m, hm, -⟩
    exact Schedules.not_at_nil hm
  · exact absurd hr Schedules.not_at_nil

theorem readAfter_concat {steps : List AlertStep} {i : AlertStep} (hi : i ≠ .read) {k m : Nat} :
    ReadAfter (steps ++ [i]) k m ↔ ReadAfter steps k m :=
  Schedules.at_concat.trans (or_iff_left fun h => hi h.1)

/-- A payload is written. -/
theorem Told.write {events rest : List (List UInt8)} {steps : List AlertStep} {s : AlertChannel}
    {next : List UInt8} (h : Told events steps s) (hpending : s.pending = next :: rest)
    (hwritten : s.written = none) (hfits : fits next = true) :
    Told events (steps ++ [.write]) { s with
      pending := rest
      sharedMemory := Slots.write next s.sharedMemory
      written := some next.length } := by
  have hrest : next :: rest.filter fits = (events.filter fits).drop (steps.count .write) := by
    rw [← h.pending, hpending, List.filter_cons_of_pos hfits]
  have hlt : steps.count .write < (events.filter fits).length := by
    by_contra hge
    rw [List.drop_eq_nil_of_le (by omega)] at hrest
    exact absurd hrest (by simp)
  have hnext : payload events (steps.count .write) = next := by
    unfold payload
    rw [List.getD_eq_getElem?_getD, ← Nat.add_zero (steps.count .write), ← List.getElem?_drop,
      ← hrest]
    rfl
  have hcount : (steps ++ [AlertStep.write]).count .write = steps.count .write + 1 := by simp
  have hreads : (steps ++ [AlertStep.write]).count .read = steps.count .read := by simp
  have hbalance := h.balance
  rw [hwritten] at hbalance
  have hqueued := h.queued
  rw [hwritten] at hqueued
  simp only [Option.toList_none, List.append_nil] at hbalance hqueued
  refine ⟨?_, ?_, fun k length hk => ?_, ?_, by omega, ?_, fun k found => ?_, fun k m hr => ?_⟩
  · rw [hcount, ← List.drop_drop, ← hrest]
    rfl
  · rw [hcount]
    show Slots.write next s.sharedMemory = Slots.write (payload events _) (memory events _)
    rw [hnext, h.sharedMemory]
  · rw [hreads]
    replace hk : (s.signals ++ [next.length])[k]? = some length := hk
    rcases Nat.lt_or_ge k s.signals.length with hsmall | hlarge
    · rw [List.getElem?_append_left hsmall] at hk
      exact hqueued k length hk
    · rw [List.getElem?_append_right hlarge, List.getElem?_singleton] at hk
      split at hk
      · rename_i hzero
        rw [← Option.some.inj hk, show steps.count .read + k = steps.count .write by omega, hnext]
      · exact absurd hk (by simp)
  · rw [hreads, hcount]
    show _ + (s.signals ++ [next.length]).length = _
    rw [List.length_append, List.length_singleton]
    omega
  · rw [hreads]
    exact h.reads
  · simp only [readAfter_concat (show AlertStep.write ≠ .read by simp)]
    exact h.found k found
  · rw [hreads, hcount]
    obtain ⟨hkm, hm, hk⟩ := h.readAfter k m ((readAfter_concat (by simp)).mp hr)
    exact ⟨hkm, by omega, hk⟩

/-- A step that neither writes nor reads. -/
theorem Told.quiet {events : List (List UInt8)} {steps : List AlertStep} {s t : AlertChannel}
    {i : AlertStep} (h : Told events steps s) (hi : i ≠ .write ∧ i ≠ .read)
    (hpending : t.pending.filter fits = s.pending.filter fits)
    (hsharedMemory : t.sharedMemory = s.sharedMemory)
    (hqueued : t.signals ++ t.written.toList = s.signals ++ s.written.toList)
    (hreads : t.reads = s.reads) : Told events (steps ++ [i]) t := by
  have hcount : (steps ++ [i]).count .write = steps.count .write := by
    rw [List.count_append, List.count_singleton, if_neg (by simpa using hi.1), Nat.add_zero]
  have hcount' : (steps ++ [i]).count .read = steps.count .read := by
    rw [List.count_append, List.count_singleton, if_neg (by simpa using hi.2), Nat.add_zero]
  have hsame : ∀ k m, ReadAfter (steps ++ [i]) k m ↔ ReadAfter steps k m := fun k m =>
    readAfter_concat hi.2
  refine ⟨?_, ?_, ?_, ?_, ?_, ?_, fun k found => ?_, fun k m hr => ?_⟩
  · rw [hcount, hpending, h.pending]
  · rw [hcount, hsharedMemory, h.sharedMemory]
  · rw [hqueued, hcount']
    exact h.queued
  · rw [hqueued, hcount, hcount', h.balance]
  · rw [hcount]
    exact h.bound
  · rw [hreads, hcount', h.reads]
  · simp only [hsame, hreads]
    exact h.found k found
  · rw [hcount, hcount']
    exact h.readAfter k m ((hsame k m).mp hr)

/-- The event monitor reads. -/
theorem Told.read {events : List (List UInt8)} {steps : List AlertStep} {s : AlertChannel}
    {length : Nat} {rest : List Nat} (h : Told events steps s)
    (hsignals : s.signals = length :: rest) :
    Told events (steps ++ [.read])
      { s with signals := rest, reads := s.reads ++ [s.sharedMemory.take length] } := by
  have hlength : length = (payload events (steps.count .read)).length := by
    refine h.queued 0 length ?_
    rw [hsignals]
    rfl
  have hcount : (steps ++ [AlertStep.read]).count .write = steps.count .write := by simp
  have hcount' : (steps ++ [AlertStep.read]).count .read = steps.count .read + 1 := by simp
  have hbalance := h.balance
  have hqueued := h.queued
  rw [hsignals, List.cons_append] at hbalance hqueued
  rw [List.length_cons] at hbalance
  have hat : ∀ k m, ReadAfter (steps ++ [.read]) k m ↔
      ReadAfter steps k m ∨ steps.count .read = k ∧ steps.count .write = m := fun k m =>
    Schedules.at_concat.trans (or_congr Iff.rfl (and_iff_right rfl))
  refine ⟨?_, ?_, fun k l hk => ?_, ?_, ?_, ?_, fun k found => ?_, fun k m hr => ?_⟩
  · rw [hcount]
    exact h.pending
  · rw [hcount]
    exact h.sharedMemory
  · rw [hcount', show steps.count .read + 1 + k = steps.count .read + (k + 1) by omega]
    exact hqueued (k + 1) l (by rw [List.getElem?_cons_succ]; exact hk)
  · rw [hcount, hcount']
    show _ + (rest ++ s.written.toList).length = _
    omega
  · rw [hcount]
    exact h.bound
  · rw [hcount', ← h.reads]
    exact List.length_append
  · simp only [hat]
    show (s.reads ++ [s.sharedMemory.take length])[k]? = some found ↔ _
    rcases Nat.lt_or_ge k s.reads.length with hsmall | hlarge
    · rw [List.getElem?_append_left hsmall, h.found k found]
      refine exists_congr fun m => and_congr_left fun _ => (or_iff_left fun hnow => ?_).symm
      rw [h.reads] at hsmall
      omega
    · rw [List.getElem?_append_right hlarge, List.getElem?_singleton, h.reads]
      rw [h.reads] at hlarge
      constructor
      · intro hk
        split at hk
        · rename_i hzero
          have hk' : steps.count .read = k := by omega
          refine ⟨steps.count .write, Or.inr ⟨hk', rfl⟩, ?_⟩
          rw [← Option.some.inj hk, ← h.sharedMemory, hlength, hk']
        · exact absurd hk (by simp)
      · rintro ⟨m, hr | ⟨rfl, rfl⟩, hfound⟩
        · have hk := (h.readAfter k m hr).2.2
          omega
        · rw [if_pos (by omega), hfound, ← h.sharedMemory, ← hlength]
  · rw [hcount, hcount']
    rcases (hat k m).mp hr with hold | ⟨rfl, rfl⟩
    · obtain ⟨hkm, hm, hk⟩ := h.readAfter k m hold
      exact ⟨hkm, hm, by omega⟩
    · exact ⟨by omega, Nat.le_refl _, by omega⟩

theorem step_told {events : List (List UInt8)} {steps : List AlertStep} {s t : AlertChannel}
    {i : AlertStep} (h : Told events steps s) (hstep : s.step i = some t) :
    Told events (steps ++ [i]) t := by
  unfold step at hstep
  cases i with
  | write =>
    dsimp only at hstep
    split at hstep
    · rename_i next rest hpending hwritten
      split at hstep
      · rename_i hfits
        rw [← Option.some.inj hstep]
        exact h.write hpending hwritten hfits
      · exact absurd hstep (by simp)
    · exact absurd hstep (by simp)
  | refuse =>
    dsimp only at hstep
    split at hstep
    · rename_i next rest hpending hwritten
      split at hstep
      · exact absurd hstep (by simp)
      · rename_i hlong
        rw [← Option.some.inj hstep]
        refine h.quiet (by simp) ?_ rfl rfl rfl
        rw [hpending, List.filter_cons_of_neg hlong]
    · exact absurd hstep (by simp)
  | sigqueue =>
    dsimp only at hstep
    split at hstep
    · rename_i length hwritten
      rw [← Option.some.inj hstep]
      refine h.quiet (by simp) rfl rfl ?_ rfl
      show s.signals ++ [length] ++ [] = s.signals ++ s.written.toList
      rw [hwritten, List.append_nil]
      rfl
    · exact absurd hstep (by simp)
  | read =>
    dsimp only at hstep
    split at hstep
    · rename_i length rest hsignals
      rw [← Option.some.inj hstep]
      exact h.read hsignals
    · exact absurd hstep (by simp)

theorem run_told {events : List (List UInt8)} {steps : List AlertStep} {s : AlertChannel}
    (hrun : Schedules.run step { pending := events } steps = some s) : Told events steps s :=
  Schedules.run_history (init_told events) (fun _ _ _ _ h hstep => step_told h hstep) hrun

/-! ### The order of reads -/

/-- A later read comes after at least as many writes. -/
theorem readAfter_mono {steps : List AlertStep} {k j m m' : Nat} (hk : ReadAfter steps k m)
    (hj : ReadAfter steps j m') (hkj : k ≤ j) : m ≤ m' := by
  obtain ⟨before, after, heq, hreads, hwrites⟩ := hk
  obtain ⟨before', after', heq', hreads', hwrites'⟩ := hj
  have hpre : before <+: steps := ⟨_, heq.symm⟩
  have hpre' : before' ++ [.read] <+: steps := ⟨after', by rw [heq']; simp⟩
  rcases List.prefix_or_prefix_of_prefix hpre hpre' with hle | hle
  · have hcount := hle.sublist.count_le AlertStep.write
    simp only [List.count_append] at hcount
    simp at hcount
    omega
  · have hcount := hle.sublist.count_le AlertStep.read
    simp only [List.count_append, List.count_singleton_self] at hcount
    omega

/-! ### Delivery -/

/-- Every payload fits, and none is followed, before it is read, by a payload of which it
is not the beginning and that is not its beginning. -/
structure Unspoilt (events : List (List UInt8)) (steps : List AlertStep) : Prop where
  fits : ∀ payload ∈ events, fits payload = true
  agree : ∀ k j m, ReadAfter steps k m → k < j → j < m →
    Slots.Agree (events.getD k []) (events.getD j [])

/-- Once all is quiet, as many payloads have been read as fit. -/
theorem Told.quiet_counts {events : List (List UInt8)} {steps : List AlertStep}
    {s : AlertChannel} (h : Told events steps s) (hquiet : s.Quiet) :
    s.reads.length = (events.filter AlertChannel.fits).length ∧
      steps.count .write = (events.filter AlertChannel.fits).length := by
  obtain ⟨hpending, hwritten, hsignals⟩ := hquiet
  have hdrop := h.pending
  rw [hpending, List.filter_nil, eq_comm, List.drop_eq_nil_iff] at hdrop
  have hbalance := h.balance
  rw [hwritten, hsignals] at hbalance
  have hbound := h.bound
  have hreads := h.reads
  simp only [Option.toList_none, List.append_nil, List.length_nil] at hbalance
  omega

/-- **Once all is quiet, the event monitor has read exactly the payloads of the alerts,
once and in order, if and only if they all fit and none was spoilt before it was read.** -/
theorem alerts_delivered_iff {events : List (List UInt8)} {steps : List AlertStep}
    {s : AlertChannel} (hrun : Schedules.run step { pending := events } steps = some s)
    (hquiet : s.Quiet) : s.reads = events ↔ Unspoilt events steps := by
  have h : Told events steps s := run_told hrun
  obtain ⟨hlength, hwrites⟩ := h.quiet_counts hquiet
  have hslot : (∀ k m, ReadAfter steps k m →
      Slots.Intact (List.replicate shmSize 0) (payload events) k m) ↔
        ∀ k j m, ReadAfter steps k m → k < j → j < m →
          Slots.Agree (payload events k) (payload events j) := by
    refine Slots.intact_iff (n := s.reads.length) (fun k hk => ?_) (fun k m hr => ?_)
      (fun k j m m' => readAfter_mono)
    · obtain ⟨m, hr, -⟩ := (h.found k _).mp (List.getElem?_eq_getElem hk)
      exact ⟨m, hr⟩
    · obtain ⟨hkm, hm, -⟩ := h.readAfter k m hr
      exact ⟨hkm, by omega⟩
  have hpayload : events.filter fits = events → ∀ k, payload events k = events.getD k [] := by
    intro hall k
    unfold payload
    rw [hall]
  constructor
  · intro hreads
    have hall : events.filter fits = events := by
      refine List.filter_sublist.eq_of_length ?_
      rw [← hlength, hreads]
    refine ⟨List.filter_eq_self.mp hall, fun k j m hr hkj hjm => ?_⟩
    rw [← hpayload hall k, ← hpayload hall j]
    refine hslot.mp (fun k m hr => ?_) k j m hr hkj hjm
    have hfound := (h.found k _).mpr ⟨m, hr, rfl⟩
    rw [hreads] at hfound
    unfold Slots.Intact
    conv_rhs => rw [hpayload hall k, List.getD_eq_getElem?_getD, hfound]
    rfl
  · rintro ⟨hfits, hagree⟩
    have hall : events.filter fits = events := List.filter_eq_self.mpr hfits
    have hintact := hslot.mpr fun k j m hr hkj hjm => by
      rw [hpayload hall k, hpayload hall j]
      exact hagree k j m hr hkj hjm
    rw [hall] at hlength
    refine List.ext_getElem hlength fun k hk hk' => ?_
    obtain ⟨m, hr, hfound⟩ := (h.found k _).mp (List.getElem?_eq_getElem hk)
    have hwhole : (memory events m).take (payload events k).length = payload events k :=
      hintact k m hr
    rw [hfound, hwhole, hpayload hall k, List.getD_eq_getElem?_getD, List.getElem?_eq_getElem hk']
    rfl

/-- Two sticks without a supported file system. -/
def twoSticks : List (List UInt8) :=
  ["\x7b\"pdmEvent\":4,\"parameters\":\x7b\"deviceNum\":\"1\"\x7d\x7d",
    "\x7b\"pdmEvent\":4,\"parameters\":\x7b\"deviceNum\":\"2\"\x7d\x7d"].map
      fun text => text.toList.map fun c => UInt8.ofNat c.toNat

/-- Every alert is read before the next one is written. -/
def readInBetween : List AlertStep :=
  [.write, .sigqueue, .read, .write, .sigqueue, .read]

/-- The second alert is written before the first has been read. -/
def writtenTwice : List AlertStep :=
  [.write, .sigqueue, .write, .read, .sigqueue, .read]

theorem alerts_delivered_iff_read_in_between :
    ∃ s, Schedules.run step { pending := twoSticks } readInBetween = some s ∧ s.Quiet ∧
      (s.reads = twoSticks ↔ Unspoilt twoSticks readInBetween) := by
  have hquiet : AlertChannel.Quiet ((Schedules.run step
      { pending := twoSticks } readInBetween).get (by decide)) :=
    ⟨by decide, by decide, by decide⟩
  exact ⟨_, by simp, hquiet, alerts_delivered_iff (by simp) hquiet⟩

/-- The event monitor reads the second alert twice and never the first. -/
theorem alert_lost :
    ∃ s, Schedules.run step { pending := twoSticks } writtenTwice = some s ∧ s.Quiet ∧
      s.reads = [twoSticks.getD 1 [], twoSticks.getD 1 []] ∧ s.reads ≠ twoSticks := by
  refine ⟨(Schedules.run step { pending := twoSticks } writtenTwice).get (by decide),
    by simp, ?_, ?_, ?_⟩
  · exact ⟨by decide, by decide, by decide⟩
  · decide
  · decide

end AlertChannel

end Pdm
