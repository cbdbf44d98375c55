/-
The sub-devices of a sound card, and what their types are read from.

An event that adds a node writes the entry of the node's path, in its place or behind the
others, so the list has each path once and says of it what the last event said.  The type is
searched in the whole sysfs path, though, where the directories above the node can have `pcm`
or `control` in their names as well.
-/
import Pdm.Handlers.UsbDeviceHandlers
import Pdm.Lib.KeyedStore

namespace Pdm

/-! ### The type of a node -/

/-- The type of a stream, by the last character of its name. -/
def streamType (last : Option Char) : String :=
  match last with
  | some 'c' => "capture"
  | some 'p' => "playback"
  | _ => "misc"

/-- The type that the name of a node says. -/
def nodeType (name : String) : String :=
  if startsWith name "pcm" then streamType name.toList.getLast?
  else if startsWith name "control" then "control"
  else "misc"

/-- No directory above the node has a say in its type. -/
structure NodeDecides (devPath : String) : Prop where
  control : startsWith (baseName devPath) "control" = true → contains devPath "pcm" = false
  /-- A node of another kind is no stream because of where it stands. -/
  no_stream : startsWith (baseName devPath) "pcm" = false → contains devPath "pcm" = true →
    devPath.toList.getLast? ≠ some 'c' ∧ devPath.toList.getLast? ≠ some 'p'
  no_control : startsWith (baseName devPath) "control" = false → contains devPath "pcm" = false →
    contains devPath "control" = false

theorem baseName_suffix (path : String) : (baseName path).toList <:+ path.toList := by
  unfold baseName
  rw [String.toList_ofList, ← List.reverse_prefix, List.reverse_reverse]
  exact List.takeWhile_prefix _

/-- What the name of a node begins with is in its path. -/
theorem contains_of_baseName {path needle : String} (h : startsWith (baseName path) needle = true) :
    contains path needle = true := by
  unfold contains
  rw [List.any_eq_true]
  exact ⟨(baseName path).toList, (List.mem_tails _ _).mpr (baseName_suffix path), h⟩

theorem getLast?_baseName {path : String} (h : (baseName path).toList ≠ []) :
    path.toList.getLast? = (baseName path).toList.getLast? := by
  obtain ⟨dir, hpath⟩ := baseName_suffix path
  rw [← hpath, List.getLast?_append_of_ne_nil _ h]

theorem not_pcm_and_control (name : String) (hpcm : startsWith name "pcm" = true) :
    startsWith name "control" = false := by
  unfold startsWith at hpcm ⊢
  obtain ⟨rest, hrest⟩ := List.isPrefixOf_iff_prefix.mp hpcm
  rw [← hrest]
  rfl

theorem streamType_eq_misc {last : Option Char} :
    streamType last = "misc" ↔ last ≠ some 'c' ∧ last ≠ some 'p' := by
  unfold streamType
  split <;> simp_all

theorem streamType_ne_control (last : Option Char) : streamType last ≠ "control" := by
  unfold streamType
  split <;> simp

/-- A path with `pcm` in it is that of a stream. -/
theorem findDeviceType_of_pcm {devPath : String} (h : contains devPath "pcm" = true) :
    SoundDevice.findDeviceType devPath = streamType devPath.toList.getLast? := if_pos h

/-- Any other path is that of a control node or of none. -/
theorem findDeviceType_of_no_pcm {devPath : String} (h : contains devPath "pcm" = false) :
    SoundDevice.findDeviceType devPath
      = if contains devPath "control" = true then "control" else "misc" := by
  have hno : ¬ contains devPath "pcm" = true := by simp [h]
  exact if_neg hno

/-- The type of the path is the type of the node where the node decides. -/
theorem findDeviceType_iff (devPath : String) :
    SoundDevice.findDeviceType devPath = nodeType (baseName devPath) ↔ NodeDecides devPath := by
  unfold nodeType
  cases hpcm : startsWith (baseName devPath) "pcm" with
  | true =>
    have hpath := contains_of_baseName hpcm
    have hcontrol := not_pcm_and_control (baseName devPath) hpcm
    have hne : (baseName devPath).toList ≠ [] := by
      intro hnil
      unfold startsWith at hpcm
      rw [hnil] at hpcm
      exact absurd hpcm (by decide)
    have htype : SoundDevice.findDeviceType devPath
        = streamType (baseName devPath).toList.getLast? := by
      rw [findDeviceType_of_pcm hpath, getLast?_baseName hne]
    rw [if_pos rfl]
    exact iff_of_true htype ⟨by simp [hcontrol], by simp [hpcm], by simp [hpath]⟩
  | false =>
    rw [if_neg (by simp)]
    cases hpath : contains devPath "pcm" with
    | true =>
      rw [findDeviceType_of_pcm hpath]
      cases hcontrol : startsWith (baseName devPath) "control" with
      | true =>
        rw [if_pos rfl]
        refine iff_of_false (streamType_ne_control _) ?_
        intro h
        rw [h.control hcontrol] at hpath
        cases hpath
      | false =>
        rw [if_neg (by simp), streamType_eq_misc]
        exact ⟨fun h => ⟨by simp [hcontrol], fun _ _ => h, by simp [hpath]⟩,
          fun h => h.no_stream hpcm hpath⟩
    | false =>
      rw [findDeviceType_of_no_pcm hpath]
      cases hcontrol : startsWith (baseName devPath) "control" with
      | true =>
        have htype : (if contains devPath "control" = true then "control" else "misc")
            = "control" := if_pos (contains_of_baseName hcontrol)
        rw [if_pos rfl]
        exact iff_of_true htype ⟨fun _ => hpath, by simp [hpath], by simp [hcontrol]⟩
      | false =>
        rw [if_neg (by simp : ¬ false = true)]
        constructor
        · intro h
          refine ⟨by simp [hcontrol], by simp [hpath], fun _ _ => ?_⟩
          by_contra hc
          rw [Bool.not_eq_false] at hc
          rw [if_pos hc] at h
          exact absurd h (by decide)
        · intro h
          rw [h.no_control hcontrol hpath]
          rfl

/-! ### One event -/

namespace SoundDevice

/-- The entry that an event which adds a node writes. -/
def nodeEntry (devClass : DeviceClass) : Option SoundSubDevice :=
  if devClass.devName = "" then none
  else some ⟨"/dev/" ++ devClass.devName, findDeviceType devClass.devPath⟩

/-- The sub-devices, each known by its path. -/
abbrev SubDevices := KeyedStore SoundSubDevice.devPath

/-- The list is updated in place where the path is known, and grows where it is not. -/
theorem updateSubDevice_add {devClass : DeviceClass} (hadd : devClass.action = "add")
    (s : SubDevices) :
    updateSubDevice s.entries devClass = ((nodeEntry devClass).elim s s.put).entries := by
  have haction : getDeviceAction devClass.action = .usbDevAdd := by
    rw [hadd]
    rfl
  unfold updateSubDevice nodeEntry
  simp only [haction]
  by_cases hname : devClass.devName = ""
  · rw [if_pos hname, if_pos hname]
    rfl
  · rw [if_neg hname, if_neg hname, Option.elim_some]
    by_cases hknown : "/dev/" ++ devClass.devName ∈ s.entries.map SoundSubDevice.devPath
    · obtain ⟨before, sub, after, hsplit, hpath, hbefore, hput⟩ := KeyedStore.put_in_place
        (e := (⟨"/dev/" ++ devClass.devName, findDeviceType devClass.devPath⟩ : SoundSubDevice))
        hknown
      have hany : s.entries.any (·.devPath = "/dev/" ++ devClass.devName) = true := by
        rw [List.any_eq_true]
        exact ⟨sub, by rw [hsplit]; simp, by simpa using hpath⟩
      have hskip : ∀ x ∈ before, decide (x.devPath ≠ "/dev/" ++ devClass.devName) = true := by
        intro x hx
        simpa using hbefore x hx
      rw [if_pos hany, hput, hsplit, List.takeWhile_append_of_pos hskip,
        List.dropWhile_append_of_pos hskip, List.takeWhile_cons_of_neg (by simp [hpath]),
        List.dropWhile_cons_of_neg (by simp [hpath]), List.append_nil, List.tail_cons]
    · have hany : ¬ s.entries.any (·.devPath = "/dev/" ++ devClass.devName) = true := by
        rw [List.any_eq_true]
        rintro ⟨sub, hsub, hpath⟩
        exact hknown (List.mem_map.mpr ⟨sub, hsub, by simpa using hpath⟩)
      rw [if_neg hany, KeyedStore.put_behind hknown]

/-! ### Runs of events -/

/-- An event that adds a node of the sound subsystem. -/
structure SoundAdd where
  event : DeviceClass
  add : event.action = "add"
  sound : event.subsystemName = "sound"

/-- A card after events on it. -/
def afterEvents (d : SoundDevice) (events : List SoundAdd) : SoundDevice :=
  events.foldl (fun d e => d.updateDeviceInfo e.event) d

theorem afterEvents_subDeviceList (events : List SoundAdd) (d : SoundDevice) (s : SubDevices)
    (h : d.subDeviceList = s.entries) :
    (d.afterEvents events).subDeviceList
      = (KeyedStore.putAll (fun e : SoundAdd => nodeEntry e.event) s events).entries := by
  induction events generalizing d s with
  | nil => exact h
  | cons e events ih =>
    refine ih (d.updateDeviceInfo e.event) ((nodeEntry e.event).elim s s.put) ?_
    unfold updateDeviceInfo
    rw [if_pos e.sound, ← updateSubDevice_add e.add s, ← h]

/-- The list has each path once, with the type that the node of the last event says that
named it. -/
structure ListedByNode (subDeviceList : List SoundSubDevice) (events : List SoundAdd) : Prop where
  once : (subDeviceList.map SoundSubDevice.devPath).Nodup
  by_node : ∀ sub ∈ subDeviceList, ∃ before e after, events = before ++ e :: after ∧
    sub.devPath = "/dev/" ++ e.event.devName ∧
    (∀ later ∈ after, later.event.devName ≠ e.event.devName) ∧
    sub.devType = nodeType (baseName e.event.devPath)

theorem nodeEntry_of_named {devClass : DeviceClass} (h : devClass.devName ≠ "") :
    nodeEntry devClass
      = some ⟨"/dev/" ++ devClass.devName, findDeviceType devClass.devPath⟩ := if_neg h

theorem nodeEntry_eq_some {devClass : DeviceClass} {sub : SoundSubDevice}
    (h : nodeEntry devClass = some sub) :
    devClass.devName ≠ "" ∧ sub.devPath = "/dev/" ++ devClass.devName ∧
      sub.devType = findDeviceType devClass.devPath := by
  by_cases hname : devClass.devName = ""
  · have hnone : nodeEntry devClass = none := if_pos hname
    rw [hnone] at h
    cases h
  · rw [nodeEntry_of_named hname] at h
    obtain rfl := Option.some.inj h
    exact ⟨hname, rfl, rfl⟩

theorem dev_injective {a b : String} (h : "/dev/" ++ a = "/dev/" ++ b) : a = b := by
  have hlist := congrArg String.toList h
  rw [String.toList_append, String.toList_append] at hlist
  exact String.toList_injective (List.append_cancel_left hlist)

/-- What stands in the list of a card that had none before. -/
theorem mem_afterEvents {d : SoundDevice} (hnew : d.subDeviceList = []) {events : List SoundAdd}
    {sub : SoundSubDevice} :
    sub ∈ (d.afterEvents events).subDeviceList ↔
      ∃ before e after, events = before ++ e :: after ∧ nodeEntry e.event = some sub ∧
        ∀ later ∈ after, later.event.devName ≠ e.event.devName := by
  rw [afterEvents_subDeviceList events d KeyedStore.empty hnew, KeyedStore.mem_putAll]
  have hempty : sub ∉ (KeyedStore.empty : SubDevices).entries := List.not_mem_nil
  rw [or_iff_left fun h => hempty h.1]
  constructor
  · rintro ⟨before, e, after, hsplit, hentry, hlater⟩
    refine ⟨before, e, after, hsplit, hentry, ?_⟩
    intro later hmem hname
    obtain ⟨hnamed, hpath, -⟩ := nodeEntry_eq_some hentry
    have hnamed' : later.event.devName ≠ "" := by rw [hname]; exact hnamed
    exact hlater later hmem _ (nodeEntry_of_named hnamed') (by rw [hpath, hname])
  · rintro ⟨before, e, after, hsplit, hentry, hlater⟩
    refine ⟨before, e, after, hsplit, hentry, ?_⟩
    intro later hmem sub' hentry' hpath'
    obtain ⟨-, hpath, -⟩ := nodeEntry_eq_some hentry
    obtain ⟨-, hlaterPath, -⟩ := nodeEntry_eq_some hentry'
    exact hlater later hmem (dev_injective (hlaterPath.symm.trans (hpath'.trans hpath)))

/-- The list of a card after events whose nodes all decide. -/
theorem listedByNode_of_decides {d : SoundDevice} (hnew : d.subDeviceList = [])
    {events : List SoundAdd}
    (h : ∀ e ∈ events, e.event.devName ≠ "" → NodeDecides e.event.devPath) :
    ListedByNode (d.afterEvents events).subDeviceList events := by
  constructor
  · rw [afterEvents_subDeviceList events d KeyedStore.empty hnew]
    exact KeyedStore.nodup _
  · intro sub hsub
    obtain ⟨before, e, after, hsplit, hentry, hlater⟩ := (mem_afterEvents hnew).mp hsub
    obtain ⟨hnamed, hpath, htype⟩ := nodeEntry_eq_some hentry
    have hmem : e ∈ events := by
      rw [hsplit]
      exact List.mem_append_right _ List.mem_cons_self
    refine ⟨before, e, after, hsplit, hpath, hlater, ?_⟩
    rw [htype]
    exact (findDeviceType_iff e.event.devPath).mpr (h e hmem hnamed)

/-- The last event on a card shows whether its node decides. -/
theorem decides_of_listedByNode {d : SoundDevice} (hnew : d.subDeviceList = [])
    (events : List SoundAdd) {e : SoundAdd} (hnamed : e.event.devName ≠ "")
    (h : ListedByNode (d.afterEvents (events ++ [e])).subDeviceList (events ++ [e])) :
    NodeDecides e.event.devPath := by
  have hsub : ⟨"/dev/" ++ e.event.devName, findDeviceType e.event.devPath⟩
      ∈ (d.afterEvents (events ++ [e])).subDeviceList := by
    rw [mem_afterEvents hnew]
    exact ⟨events, e, [], rfl, nodeEntry_of_named hnamed, fun _ h => absurd h List.not_mem_nil⟩
  obtain ⟨before, e', after, hsplit, hpath, hlater, htype⟩ := h.by_node _ hsub
  have hname := dev_injective hpath
  -- the event that is named last is the last one
  have hlast : e = e' := by
    rcases List.eq_nil_or_concat after with rfl | ⟨after', x, rfl⟩
    · exact List.singleton_inj.mp (List.append_inj' hsplit rfl).2
    · rw [List.concat_eq_append] at hsplit hlater
      have hx : e = x := by
        rw [← List.cons_append, ← List.append_assoc] at hsplit
        exact List.singleton_inj.mp (List.append_inj' hsplit rfl).2
      subst hx
      exact absurd hname (hlater e (by simp))
  rw [← hlast] at htype
  exact (findDeviceType_iff e.event.devPath).mp htype

/--
**When the sub-devices of a card are listed by their nodes.**

A card as its handler creates it, after any events that add nodes to it: the nodes must decide.
-/
theorem listedByNode_iff (env : Env) (address : Nat) (first : DeviceClass)
    (events : List SoundAdd) :
    (∀ run, run <+: events →
      ListedByNode
        (((SoundDevice.new address first.devPath).setDeviceInfo env first).afterEvents
          run).subDeviceList run) ↔
      ∀ e ∈ events, e.event.devName ≠ "" → NodeDecides e.event.devPath := by
  have hnew : ((SoundDevice.new address first.devPath).setDeviceInfo env first).subDeviceList = [] :=
    rfl
  constructor
  · intro h e he hnamed
    obtain ⟨before, after, rfl⟩ := List.append_of_mem he
    have hstarts : before ++ [e] <+: before ++ e :: after := ⟨after, by simp⟩
    exact decides_of_listedByNode hnew before hnamed (h _ hstarts)
  · rintro h run ⟨rest, rfl⟩
    refine listedByNode_of_decides hnew ?_
    intro e he
    exact h e (List.mem_append_left rest he)

/-- A control node whose card stands below a `pcm` codec is listed as a miscellaneous one. -/
theorem control_below_codec :
    ¬ ∀ (env : Env) (address : Nat) (first : DeviceClass) (events : List SoundAdd),
      ∀ run, run <+: events →
        ListedByNode
          (((SoundDevice.new address first.devPath).setDeviceInfo env first).afterEvents
            run).subDeviceList run := by
  intro h
  let node : SoundAdd :=
    { event :=
        { action := "add", subsystemName := "sound", devName := "snd/controlC0",
          devPath := "/devices/platform/pcm5102a/sound/card0/controlC0" }
      add := rfl
      sound := rfl }
  have hnew : ((SoundDevice.new 0 "").setDeviceInfo {} {}).subDeviceList = [] := rfl
  have hdecides := decides_of_listedByNode hnew [] (e := node) (by decide)
    (h {} 0 {} [node] [node] (List.prefix_refl _))
  exact absurd (hdecides.control (by decide)) (by decide)

end SoundDevice

/-! ### The handler -/

namespace SoundDeviceHandler

/-- The handler after sound add events, from no cards on. -/
def afterEvents (env : Env) (s : Sys) (run : List SoundDevice.SoundAdd) :
    Out (DeviceList SoundDevice) Unit :=
  run.foldl (fun r e => ProcessSoundDevice env e.event r.state r.obj) ⟨s, {}, ()⟩

/-- An event leaves a card as it was, creates one without sub-devices, or updates one. -/
theorem mem_ProcessSoundDevice {env : Env} {e : SoundDevice.SoundAdd} {s : Sys}
    {h : DeviceList SoundDevice} {d : SoundDevice}
    (hd : d ∈ (ProcessSoundDevice env e.event s h).obj.sList) :
    d ∈ h.sList ∨ d.subDeviceList = [] ∨ ∃ d' ∈ h.sList, d = d'.updateDeviceInfo e.event := by
  have haction : sMapDeviceActions e.event.action = some .usbDevAdd := by
    rw [e.add]
    rfl
  unfold ProcessSoundDevice at hd
  simp only [haction] at hd
  unfold addSoundDevice at hd
  cases hfind : getDeviceWithPath h.sList e.event.devPath with
  | none =>
    simp only [hfind] at hd
    split at hd
    · exact Or.inl hd
    · rcases List.mem_append.mp hd with hold | hnew
      · exact Or.inl hold
      · rw [List.mem_singleton.mp hnew]
        exact Or.inr (Or.inl rfl)
  | some d' =>
    simp only [hfind] at hd
    obtain ⟨x, hx, rfl⟩ := List.mem_map.mp hd
    split
    · exact Or.inr (Or.inr ⟨d', List.mem_of_find?_eq_some hfind, rfl⟩)
    · exact Or.inl hx

/-- Each card has had some of the events. -/
theorem card_events (env : Env) (s : Sys) (run : List SoundDevice.SoundAdd) :
    ∀ d ∈ (afterEvents env s run).obj.sList, ∃ (card : SoundDevice) (events : List _),
      card.subDeviceList = [] ∧ events.Sublist run ∧ d = card.afterEvents events := by
  induction run using List.reverseRecOn with
  | nil =>
    intro d hd
    exact absurd hd List.not_mem_nil
  | append_singleton run e ih =>
    intro d hd
    unfold afterEvents at hd
    rw [List.foldl_append] at hd
    have hrun : run.Sublist (run ++ [e]) := List.sublist_append_left run [e]
    rcases mem_ProcessSoundDevice hd with hold | hnew | ⟨d', hd', rfl⟩
    · obtain ⟨card, events, hcard, hevents, rfl⟩ := ih d hold
      exact ⟨card, events, hcard, hevents.trans hrun, rfl⟩
    · exact ⟨d, [], hnew, List.nil_sublist _, rfl⟩
    · obtain ⟨card, events, hcard, hevents, rfl⟩ := ih d' hd'
      refine ⟨card, events ++ [e], hcard, hevents.append (List.Sublist.refl [e]), ?_⟩
      unfold SoundDevice.afterEvents
      rw [List.foldl_append]
      rfl

/-- **Where all nodes decide, every card of the handler lists its sub-devices by them.** -/
theorem cards_listedByNode (env : Env) (s : Sys) {run : List SoundDevice.SoundAdd}
    (h : ∀ e ∈ run, e.event.devName ≠ "" → NodeDecides e.event.devPath) :
    ∀ d ∈ (afterEvents env s run).obj.sList, ∃ events : List SoundDevice.SoundAdd,
      events.Sublist run ∧ SoundDevice.ListedByNode d.subDeviceList events := by
  intro d hd
  obtain ⟨card, events, hcard, hevents, rfl⟩ := card_events env s run d hd
  refine ⟨events, hevents, SoundDevice.listedByNode_of_decides hcard ?_⟩
  intro e he
  exact h e (hevents.subset he)

end SoundDeviceHandler

end Pdm
