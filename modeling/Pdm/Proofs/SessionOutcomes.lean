/-
What a session of a medium comes to, whatever the order in which its partitions arrive.

The device compares the length of its list with the count it took when the medium came.
`sound_of_counted` is the case in which that count is right; `sound_iff_of_uncounted` and
`not_sound_of_stale` are the two ways in which an earlier medium can spoil it.
-/
import Pdm.Proofs.MediumSessions

namespace Pdm

namespace SessionState

open StorageDevice
open MediumSession (arrive)

variable {env : Env} {b t : SessionState} {known : List DeviceClass} {e : MediumEvent}

/-! ### A whole session -/

/-- The partitions are not submitted before all of them have been announced. -/
def OnTime (b : SessionState) (parts : List DeviceClass) : Prop :=
  ∀ known part, known ++ [part] <+: parts → b.device.Complete (known.length + 1) →
    (∃ q ∈ known ++ [part], b.device.supports q = true) → known ++ [part] = parts

/-- How far a session has come in which `parts` are announced in this order. -/
def Stage (env : Env) (b : SessionState) (parts known : List DeviceClass) (t : SessionState) :
    Prop :=
  Before b known t ∨ (known = parts ∧ After env b known t)

theorem Stage.step {parts : List DeviceClass} (h : Stage env b parts known t)
    (hfresh : Fresh b) (hontime : OnTime b parts) (husual : Usual e)
    (hpre : arrive known e <+: parts) :
    Stage env b parts (arrive known e) (step env t e) := by
  cases e with
  | announce part =>
    by_cases hknown : part.devName ∈ known.map (·.devName)
    · rw [arrive_known hknown]
      rcases h with hbefore | ⟨heq, hafter⟩
      · rw [step_known husual (hbefore.tracks.removed hfresh.removed)
          (hbefore.tracks.names ▸ hknown)]
        exact Or.inl hbefore
      · rw [hafter.announce_known hfresh husual hknown]
        exact Or.inr ⟨heq, hafter⟩
    · rw [arrive_new hknown] at hpre ⊢
      rcases h with hbefore | ⟨heq, hafter⟩
      · by_cases hstarts : b.device.Complete (known.length + 1) ∧
            ∃ q ∈ known ++ [part], b.device.supports q = true
        · exact Or.inr ⟨hontime known part hpre hstarts.1 hstarts.2,
            hbefore.announce_starts hfresh husual hknown hstarts.1 hstarts.2⟩
        · refine Or.inl (hbefore.announce_quiet hfresh husual hknown fun hcomplete q hq => ?_)
          by_contra hsupported
          exact hstarts ⟨hcomplete, q, hq, Bool.eq_true_of_not_eq_false hsupported⟩
      · -- everything was announced before
        have hlength := hpre.length_le
        rw [List.length_append, heq, List.length_singleton] at hlength
        omega
  | check partition =>
    rcases h with hbefore | ⟨heq, hafter⟩
    · exact Or.inl (hbefore.check hfresh partition)
    · exact Or.inr ⟨heq, hafter.check hfresh partition⟩

theorem arrive_extends (known : List DeviceClass) (e : MediumEvent) : known <+: arrive known e := by
  cases e with
  | announce part =>
    by_cases hknown : part.devName ∈ known.map (·.devName)
    · rw [arrive_known hknown]
    · rw [arrive_new hknown]
      exact List.prefix_append _ _
  | check partition => exact List.prefix_rfl

theorem run_arrive_extends {es : List MediumEvent} :
    ∀ {known : List DeviceClass}, known <+: Runs.run arrive known es := by
  induction es with
  | nil => intro known; exact List.prefix_rfl
  | cons e es ih => intro known; exact (arrive_extends known e).trans ih

theorem Stage.run {parts : List DeviceClass} (hfresh : Fresh b) (hontime : OnTime b parts)
    {es : List MediumEvent} :
    ∀ {known : List DeviceClass} {t : SessionState}, (∀ e ∈ es, Usual e) →
      Runs.run arrive known es = parts → Stage env b parts known t →
      Stage env b parts parts (Runs.run (SessionState.step env) t es) := by
  induction es with
  | nil =>
      intro known t _ hparts h
      rw [Runs.run_nil] at hparts
      rw [Runs.run_nil, ← hparts] at *
      exact h
  | cons e es ih =>
      intro known t husual hparts h
      rw [Runs.run_cons] at hparts
      have hpre : arrive known e <+: parts := hparts ▸ run_arrive_extends
      exact ih (fun e he => husual e (by simp [he])) hparts
        (h.step hfresh hontime (husual e (by simp)) hpre)

/-- What a session should come to: the supported partitions have been submitted once
each and nothing else has, the device lists partitions of this medium only, and when
their threads have run, each of them is what it is by itself. -/
structure Sound (env : Env) (parts : List DeviceClass) (b t : SessionState) : Prop where
  once : t.submitted.Perm (b.device.supportedNames parts)
  own : ∀ p ∈ t.device.diskPartitionList, b.sys.next ≤ p.address
  outcome : t.device.fsckThreadArray = [] →
    (t.device.diskPartitionList.map (·.moved 0)).Perm (parts.map (b.device.final env))

theorem Stage.sound {parts parts' : List DeviceClass} (h : Stage env b parts' parts' t)
    (hfresh : Fresh b) (hcomplete : b.device.Complete parts'.length)
    (hperm : parts'.Perm parts) : Sound env parts b t := by
  have hnames : (b.device.supportedNames parts').Perm (b.device.supportedNames parts) :=
    (hperm.filter _).map _
  rcases h with hbefore | ⟨-, hafter⟩
  · have hnone := hbefore.quiet hcomplete
    refine ⟨?_, hbefore.tracks.own hfresh, fun _ => ?_⟩
    · have hnothing : b.device.supportedNames parts' = [] := by
        unfold supportedNames
        rw [List.filter_eq_nil_iff.mpr fun q hq => by simp [hnone q hq]]
        rfl
      rw [hbefore.submitted, ← hnothing]
      exact hnames
    · rw [hbefore.listed]
      have hfinal : (parts'.map fun part => b.device.listed part 0) =
          parts'.map (b.device.final env) :=
        List.map_congr_left fun q hq => (final_unsupported env b.device q (hnone q hq)).symm
      rw [hfinal]
      exact hperm.map _
  · refine ⟨?_, hafter.tracks.own hfresh, fun hdone => ?_⟩
    · rw [hafter.submitted]
      exact hnames
    · have hfinal : t.device.diskPartitionList.map (·.moved 0) =
          parts'.map (b.device.final env) := by
        refine map_eq_of_forall₂ (hafter.stands.imp fun p q hstands => ?_)
        unfold Stands at hstands
        rw [hdone, if_neg List.not_mem_nil] at hstands
        exact hstands
      rw [hfinal]
      exact hperm.map _

/-! ### The order of the announcements -/

theorem run_arrive_nodup {es : List MediumEvent} :
    ∀ {known : List DeviceClass}, (known.map (·.devName)).Nodup →
      ((Runs.run arrive known es).map (·.devName)).Nodup := by
  induction es with
  | nil => intro known h; exact h
  | cons e es ih =>
      intro known h
      refine ih ?_
      cases e with
      | announce part =>
        by_cases hknown : part.devName ∈ known.map (·.devName)
        · rw [arrive_known hknown]
          exact h
        · rw [arrive_new hknown, List.map_append]
          refine List.Nodup.append h (List.nodup_singleton _) fun name hname hsingle => ?_
          rw [List.map_singleton, List.mem_singleton] at hsingle
          exact hknown (hsingle ▸ hname)
      | check partition => exact h

theorem mem_run_arrive {es : List MediumEvent} {part : DeviceClass} :
    ∀ {known : List DeviceClass}, part ∈ Runs.run arrive known es →
      part ∈ known ∨ .announce part ∈ es := by
  induction es with
  | nil => intro known h; exact Or.inl h
  | cons e es ih =>
      intro known h
      rcases ih h with hknown | hlater
      · cases e with
        | announce part' =>
          by_cases hold : part'.devName ∈ known.map (·.devName)
          · rw [arrive_known hold] at hknown
            exact Or.inl hknown
          · rw [arrive_new hold, List.mem_append, List.mem_singleton] at hknown
            refine hknown.imp_right fun heq => ?_
            rw [heq]
            exact List.mem_cons_self
        | check partition => exact Or.inl hknown
      · exact Or.inr (List.mem_cons_of_mem _ hlater)

theorem run_arrive_covers {es : List MediumEvent} {part : DeviceClass} :
    ∀ (known : List DeviceClass), .announce part ∈ es →
      part.devName ∈ (Runs.run arrive known es).map (·.devName) := by
  induction es with
  | nil => intro known h; exact absurd h (by simp)
  | cons e es ih =>
      intro known h
      rcases List.mem_cons.mp h with heq | hlater
      · have hhere : part.devName ∈ (arrive known e).map (·.devName) := by
          rw [← heq]
          by_cases hknown : part.devName ∈ known.map (·.devName)
          · rw [arrive_known hknown]
            exact hknown
          · rw [arrive_new hknown, List.map_append]
            exact List.mem_append_right _ (by simp)
        have hpre : arrive known e <+: Runs.run arrive known (e :: es) := run_arrive_extends
        exact (hpre.map _).subset hhere
      · exact ih _ hlater

end SessionState

namespace MediumSession

variable {m : MediumSession}

/-- Every partition of the medium arrives once. -/
theorem Proper.arrivals_perm (h : m.Proper) : m.arrivals.Perm m.parts := by
  have hnames : (m.arrivals.map (·.devName)).Nodup :=
    SessionState.run_arrive_nodup List.nodup_nil
  have hmem : ∀ part ∈ m.arrivals, part ∈ m.parts := fun part hpart =>
    (h.announced part).mp ((SessionState.mem_run_arrive hpart).resolve_left (by simp))
  refine (List.perm_ext_iff_of_nodup hnames.of_map h.distinct.of_map).mpr fun part =>
    ⟨hmem part, fun hpart => ?_⟩
  obtain ⟨q, hq, hname⟩ := List.mem_map.mp
    (SessionState.run_arrive_covers [] ((h.announced part).mpr hpart))
  have heq : q = part := List.inj_on_of_nodup_map h.distinct (hmem q hq) hpart hname
  exact heq ▸ hq

theorem Proper.usual (h : m.Proper) : ∀ e ∈ m.events, SessionState.Usual e := by
  intro e he
  cases e with
  | announce part =>
    have hpart := (h.announced part).mp he
    exact ⟨h.named part hpart, h.partition part hpart⟩
  | check partition => trivial

end MediumSession

namespace SessionState

open StorageDevice
open MediumSession (arrive)

variable {b : SessionState} {m : MediumSession}

/-- A session that begins with an empty disk, and that submits nothing too early. -/
theorem sound_of_onTime (hm : m.Proper) (hfresh : Fresh b)
    (hcomplete : b.device.Complete m.parts.length) (hontime : OnTime b m.arrivals) :
    Sound m.env m.parts b (Runs.run (step m.env) b m.events) := by
  have hperm := hm.arrivals_perm
  have hstage : Stage m.env b m.arrivals m.arrivals (Runs.run (step m.env) b m.events) :=
    Stage.run hfresh hontime hm.usual rfl (Or.inl hfresh.before)
  exact hstage.sound hfresh (hperm.length_eq ▸ hcomplete) hperm

/-- The device knows how many partitions to expect. -/
theorem sound_of_counted (hm : m.Proper) (hfresh : Fresh b)
    (hcount : b.device.partitionCount = m.parts.length) :
    Sound m.env m.parts b (Runs.run (step m.env) b m.events) := by
  refine sound_of_onTime hm hfresh (Or.inr hcount.symm) fun known part hpre hcomplete _ => ?_
  have hpos : m.parts.length ≠ 0 := fun h => hm.nonempty (List.length_eq_zero_iff.mp h)
  refine hpre.eq_of_length ?_
  rw [List.length_append, List.length_singleton, hm.arrivals_perm.length_eq]
  rcases hcomplete with hzero | heq <;> omega

/-! ### A device that expects nothing -/

/-- How often a partition is submitted when every new one starts them all again. -/
structure Repeats (b : SessionState) (known : List DeviceClass) (t : SessionState) : Prop where
  tracks : Tracks b known t
  once : ∀ q ∈ known, b.device.supports q = true → 1 ≤ t.submitted.count q.devName
  twice : ∀ q ∈ known.dropLast, b.device.supports q = true → 2 ≤ t.submitted.count q.devName

theorem Repeats.step {env : Env} {known : List DeviceClass} {t : SessionState} {e : MediumEvent}
    (h : Repeats b known t) (hfresh : Fresh b) (hzero : b.device.partitionCount = 0)
    (husual : Usual e) : Repeats b (arrive known e) (step env t e) := by
  have htracks := h.tracks.step env hfresh.placed hfresh.removed husual
  cases e with
  | announce part =>
    by_cases hknown : part.devName ∈ known.map (·.devName)
    · rw [arrive_known hknown, step_known husual (h.tracks.removed hfresh.removed)
        (h.tracks.names ▸ hknown)]
      exact h
    · have hcomplete : b.device.Complete (known.length + 1) := Or.inl hzero
      have hsubmissions := h.tracks.submissions env husual hknown
      rw [if_pos hcomplete] at hsubmissions
      rw [arrive_new hknown] at htracks ⊢
      have hsubmitted : (SessionState.step env t (.announce part)).submitted =
          t.submitted ++ b.device.supportedNames (known ++ [part]) := by
        rw [step_announce env (h.tracks.follows.placed hfresh.placed) husual
          (h.tracks.removed hfresh.removed) (h.tracks.names ▸ hknown), ← hsubmissions]
      have hagain : ∀ q ∈ known ++ [part], b.device.supports q = true →
          1 ≤ (b.device.supportedNames (known ++ [part])).count q.devName := by
        intro q hq hsupported
        refine List.one_le_count_iff.mpr ?_
        exact List.mem_map.mpr ⟨q, List.mem_filter.mpr ⟨hq, hsupported⟩, rfl⟩
      refine ⟨htracks, fun q hq hsupported => ?_, fun q hq hsupported => ?_⟩
      · rw [hsubmitted, List.count_append]
        have := hagain q hq hsupported
        omega
      · rw [List.dropLast_concat] at hq
        rw [hsubmitted, List.count_append]
        have hfirst := h.once q hq hsupported
        have hsecond := hagain q (List.mem_append_left _ hq) hsupported
        omega
  | check partition =>
    have hsubmitted : (SessionState.step env t (.check partition)).submitted = t.submitted := by
      by_cases hmem : partition ∈ t.device.fsckThreadArray
      · rw [step_check hmem]
      · rw [step_not_check hmem]
    refine ⟨htracks, ?_, ?_⟩
    · rw [hsubmitted]
      exact h.once
    · rw [hsubmitted]
      exact h.twice

theorem Repeats.run {env : Env} (hfresh : Fresh b) (hzero : b.device.partitionCount = 0)
    {es : List MediumEvent} :
    ∀ {known : List DeviceClass} {t : SessionState}, (∀ e ∈ es, Usual e) → Repeats b known t →
      Repeats b (Runs.run arrive known es) (Runs.run (SessionState.step env) t es) := by
  induction es with
  | nil => intro known t _ h; exact h
  | cons e es ih =>
      intro known t husual h
      exact ih (fun e he => husual e (by simp [he])) (h.step hfresh hzero (husual e (by simp)))

theorem supportedNames_nodup {d : StorageDevice} {parts : List DeviceClass}
    (h : (parts.map (·.devName)).Nodup) : (d.supportedNames parts).Nodup :=
  h.sublist (List.filter_sublist.map _)

/-- It does the right thing when only the last partition that arrives is supported. -/
theorem sound_iff_of_uncounted (hm : m.Proper) (hfresh : Fresh b)
    (hzero : b.device.partitionCount = 0) :
    Sound m.env m.parts b (Runs.run (step m.env) b m.events) ↔
      ∀ q ∈ m.arrivals.dropLast, b.device.supports q = false := by
  constructor
  · intro hsound q hq
    by_contra hsupported
    have hrepeats : Repeats b m.arrivals (Runs.run (step m.env) b m.events) :=
      Repeats.run hfresh hzero hm.usual
        ⟨hfresh.tracks, fun q hq => absurd hq (by simp), fun q hq => absurd hq (by simp)⟩
    have htwice := hrepeats.twice q hq (Bool.eq_true_of_not_eq_false hsupported)
    have honce := List.nodup_iff_count_le_one.mp
      (hsound.once.nodup_iff.mpr (supportedNames_nodup hm.distinct)) q.devName
    omega
  · intro hlast
    refine sound_of_onTime hm hfresh (Or.inl hzero) fun known part hpre _ hsome => ?_
    obtain ⟨rest, hrest⟩ := hpre
    rcases List.eq_nil_or_concat rest with rfl | ⟨rest, last, rfl⟩
    · rw [List.append_nil] at hrest
      exact hrest
    · -- a supported partition has arrived before the last one
      obtain ⟨q, hq, hsupported⟩ := hsome
      have hearly : q ∈ m.arrivals.dropLast := by
        rw [← hrest, List.concat_eq_append, ← List.append_assoc, List.dropLast_concat]
        exact List.mem_append_left _ hq
      rw [hlast q hearly] at hsupported
      exact absurd hsupported (by simp)

/-- A device that still lists partitions of the medium before is never right. -/
theorem not_sound_of_stale (hm : m.Proper) (hplaced : b.Placed)
    (hremoved : b.device.isSdCardRemoved = false) (hstale : b.device.diskPartitionList ≠ []) :
    ¬ Sound m.env m.parts b (Runs.run (step m.env) b m.events) := by
  intro hsound
  obtain ⟨p, hp⟩ := List.exists_mem_of_ne_nil _ hstale
  have haddress : p.address ∈ b.device.addresses := List.mem_map.mpr ⟨p, hp, rfl⟩
  have hfollows := run_follows m.env hm.usual hremoved
  obtain ⟨q, hq, heq⟩ := List.mem_map.mp (hfollows.kept haddress)
  have hold := hplaced.partitions p.address haddress
  have hown := hsound.own q hq
  omega

end SessionState

end Pdm
