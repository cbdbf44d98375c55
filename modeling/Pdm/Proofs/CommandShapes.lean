/-
Strings of a caller do not change the shape of a command line.

What `DiskFormat`, `PdmFs` and `PdmFsck` run is a template that the file system and the mode
of the check choose, with a hole for the device node and a hole for the label.  Whatever a
drive name or a label contains, it stays the one argument that its hole is.  A byte of a
string is the character of its number.
-/
import Pdm.Lib.Templates
import Pdm.Utils.FileSystems

namespace Pdm

open Template

/-- What a command line takes from the caller. -/
inductive Slot where
  | drive
  | label
  deriving DecidableEq, Repr

/-- What stands in the holes. -/
def slots (driveName volumeLabel : String) : Slot → String
  | .drive => "/dev/" ++ driveName
  | .label => volumeLabel

/-! ### What the shape is -/

/-- The command lines of one file system, by drive name and label. -/
structure KeepsShape (command : String → String → List String) (available : Prop) : Prop where
  label : ∃ p, ∀ driveName label₁ label₂, label₁ ≠ "" → label₂ ≠ "" →
    OnlyAt p label₁ label₂ (command driveName label₁) (command driveName label₂)
  drive : ∃ p, ∀ label driveName₁ driveName₂,
    OnlyAt p ("/dev/" ++ driveName₁) ("/dev/" ++ driveName₂)
      (command driveName₁ label) (command driveName₂ label)
  program : ∀ driveName₁ label₁ driveName₂ label₂,
    (command driveName₁ label₁).head? = (command driveName₂ label₂).head?
  empty_iff : ∀ driveName label, command driveName label = [] ↔ ¬ available

/-- The same of a command that takes no label. -/
structure KeepsDriveShape (command : String → List String) (available : Prop) : Prop where
  drive : ∃ p, ∀ driveName₁ driveName₂,
    OnlyAt p ("/dev/" ++ driveName₁) ("/dev/" ++ driveName₂)
      (command driveName₁) (command driveName₂)
  program : ∀ driveName₁ driveName₂, (command driveName₁).head? = (command driveName₂).head?
  empty_iff : ∀ driveName, command driveName = [] ↔ ¬ available

/-! ### Command lines from templates -/

theorem slots_label (driveName label₁ label₂ : String) (s : Slot) (h : s ≠ .label) :
    slots driveName label₁ s = slots driveName label₂ s := by
  cases s with
  | drive => rfl
  | label => exact absurd rfl h

theorem slots_drive (driveName₁ driveName₂ label : String) (s : Slot) (h : s ≠ .drive) :
    slots driveName₁ label s = slots driveName₂ label s := by
  cases s with
  | drive => exact absurd rfl h
  | label => rfl

/-! ### `DiskFormat` -/

namespace DiskFormat

/-- The fixed words that precede the label. -/
def labelWords (fsType : String) : List String :=
  ((volumeLabelOptions fsType).map splitArgs).getD []

/-- The words a format command starts with. -/
def formatWords (webosSession : Bool) (fsType : String) : List String :=
  ((formatFsCommandsIn webosSession fsType).map splitArgs).getD []

/-- What precedes a label. -/
def beforeLabel (webosSession : Bool) (fsType : String) : List (Word Slot String) :=
  (formatWords webosSession fsType).map .text ++ .hole .drive :: (labelWords fsType).map .text

/-- What follows the device node. -/
def labelPart (fsType volumeLabel : String) : List (Word Slot String) :=
  if volumeLabel = "" then [] else (labelWords fsType).map .text ++ [.hole .label]

theorem formatCommandIn_eq (webosSession : Bool) (driveName fsType volumeLabel : String) :
    formatCommandIn webosSession driveName fsType volumeLabel
      = if formatWords webosSession fsType = [] then []
        else fill (slots driveName volumeLabel)
          ((formatWords webosSession fsType).map .text
            ++ .hole .drive :: labelPart fsType volumeLabel) := by
  unfold formatCommandIn formatWords labelPart labelWords
  cases formatFsCommandsIn webosSession fsType with
  | none => rfl
  | some command =>
    by_cases hcommand : splitArgs command = []
    · simp [hcommand]
    · by_cases hlabel : volumeLabel = ""
      · simp [hcommand, hlabel, fill, Word.fill, slots, Function.comp_def]
      · cases volumeLabelOptions fsType <;>
          simp [hcommand, hlabel, fill, Word.fill, slots, Function.comp_def]

/-- A file system without words has no command in the table. -/
theorem formatWords_eq_nil (webosSession : Bool) (fsType : String) :
    formatWords webosSession fsType = [] ↔
      ¬ ∃ command, formatFsCommandsIn webosSession fsType = some command ∧ command ≠ "" := by
  have hentry : ∀ command, formatFsCommandsIn webosSession fsType = some command →
      (splitArgs command = [] ↔ command = "") := by
    intro command h
    unfold formatFsCommandsIn formatFsCommands at h
    split at h
    · cases h
      decide
    · split at h <;> cases h <;> decide
  unfold formatWords
  cases h : formatFsCommandsIn webosSession fsType with
  | none => simp
  | some command =>
    rw [Option.map_some, Option.getD_some, hentry command h]
    simp

theorem formatCommandIn_keepsShape (webosSession : Bool) (fsType : String) :
    KeepsShape (fun driveName label => formatCommandIn webosSession driveName fsType label)
      (∃ command, formatFsCommandsIn webosSession fsType = some command ∧ command ≠ "") where
  label := by
    refine ⟨(beforeLabel webosSession fsType).length, ?_⟩
    intro driveName label₁ label₂ h₁ h₂
    have hpart : ∀ label, label ≠ "" →
        (formatWords webosSession fsType).map Word.text ++ .hole .drive :: labelPart fsType label
          = beforeLabel webosSession fsType ++ [.hole .label] := by
      intro label h
      unfold labelPart beforeLabel
      rw [if_neg h, List.append_assoc, List.cons_append]
    rw [formatCommandIn_eq, formatCommandIn_eq, hpart _ h₁, hpart _ h₂]
    by_cases hnone : formatWords webosSession fsType = []
    · rw [if_pos hnone, if_pos hnone]
      exact onlyAt_nil _ _ _
    · rw [if_neg hnone, if_neg hnone]
      have hbefore : Word.hole Slot.label ∉ beforeLabel webosSession fsType := by
        simp [beforeLabel]
      exact onlyAt_fill (slots_label driveName label₁ label₂) hbefore List.not_mem_nil
  drive := by
    refine ⟨((formatWords webosSession fsType).map .text : List (Word Slot String)).length, ?_⟩
    intro label driveName₁ driveName₂
    rw [formatCommandIn_eq, formatCommandIn_eq]
    by_cases hnone : formatWords webosSession fsType = []
    · rw [if_pos hnone, if_pos hnone]
      exact onlyAt_nil _ _ _
    · rw [if_neg hnone, if_neg hnone]
      have hafter : Word.hole Slot.drive ∉ labelPart fsType label := by
        unfold labelPart
        split <;> simp
      exact onlyAt_fill (slots_drive driveName₁ driveName₂ label) (hole_notMem_text _ _) hafter
  program := by
    intro driveName₁ label₁ driveName₂ label₂
    rw [formatCommandIn_eq, formatCommandIn_eq]
    cases hwords : formatWords webosSession fsType with
    | nil => rfl
    | cons program words => rfl
  empty_iff := by
    intro driveName label
    rw [formatCommandIn_eq, ← formatWords_eq_nil]
    by_cases hnone : formatWords webosSession fsType = []
    · rw [if_pos hnone]
      exact ⟨fun _ => hnone, fun _ => rfl⟩
    · rw [if_neg hnone, fill_eq_nil]
      simp [hnone]

end DiskFormat

/-! ### `PdmFs` -/

namespace PdmFs

/-- The file systems whose label can be set. -/
def labelled : List String := ["tntfs", "ntfs", "vfat", "tfat", "ext2", "ext3", "ext4"]

/-- What `volumeLabelCommand` fills in, none where there is nothing to run. -/
def volumeLabelTemplate (fsType : String) : List (Word Slot String) :=
  if fsType = "tntfs" ∨ fsType = "ntfs" then
    [.text "ntfslabel", .text "-f", .hole .drive, .hole .label]
  else if fsType = "vfat" ∨ fsType = "tfat" then
    [.text "fatlabel", .text "-f", .text "-l", .hole .label, .hole .drive]
  else if fsType = "ext2" ∨ fsType = "ext3" ∨ fsType = "ext4" then
    [.text "e2label", .hole .drive, .hole .label]
  else []

theorem volumeLabelCommand_eq (fsType driveName volLabel : String) :
    volumeLabelCommand fsType driveName volLabel
      = fill (slots driveName volLabel) (volumeLabelTemplate fsType) := by
  unfold volumeLabelCommand volumeLabelTemplate
  split
  · rfl
  · split
    · rfl
    · split <;> rfl

theorem volumeLabelTemplate_cases (fsType : String) :
    (fsType ∈ labelled ∧
      (volumeLabelTemplate fsType = [.text "ntfslabel", .text "-f", .hole .drive, .hole .label] ∨
        volumeLabelTemplate fsType
          = [.text "fatlabel", .text "-f", .text "-l", .hole .label, .hole .drive] ∨
        volumeLabelTemplate fsType = [.text "e2label", .hole .drive, .hole .label])) ∨
      (fsType ∉ labelled ∧ volumeLabelTemplate fsType = []) := by
  unfold volumeLabelTemplate labelled
  by_cases hntfs : fsType = "tntfs" ∨ fsType = "ntfs"
  · left
    simp only [if_pos hntfs]
    rcases hntfs with rfl | rfl <;> simp
  · by_cases hfat : fsType = "vfat" ∨ fsType = "tfat"
    · left
      simp only [if_neg hntfs, if_pos hfat]
      rcases hfat with rfl | rfl <;> simp
    · by_cases hext : fsType = "ext2" ∨ fsType = "ext3" ∨ fsType = "ext4"
      · left
        simp only [if_neg hntfs, if_neg hfat, if_pos hext]
        rcases hext with rfl | rfl | rfl <;> simp
      · right
        simp only [if_neg hntfs, if_neg hfat, if_neg hext]
        simp only [not_or] at hntfs hfat hext
        simp [hntfs, hfat, hext]

end PdmFs

/-- The command lines of one template. -/
theorem KeepsShape.of_template {command : String → String → List String}
    {t : List (Word Slot String)}
    (hcommand : ∀ driveName label, command driveName label = fill (slots driveName label) t)
    (hlabel : ∃ before after, t = before ++ .hole .label :: after ∧
      Word.hole Slot.label ∉ before ∧ Word.hole Slot.label ∉ after)
    (hdrive : ∃ before after, t = before ++ .hole .drive :: after ∧
      Word.hole Slot.drive ∉ before ∧ Word.hole Slot.drive ∉ after)
    {program : String} (hprogram : t.head? = some (.text program)) {available : Prop}
    (h : available) : KeepsShape command available where
  label := by
    obtain ⟨before, after, rfl, hbefore, hafter⟩ := hlabel
    refine ⟨before.length, ?_⟩
    intro driveName label₁ label₂ _ _
    rw [hcommand, hcommand]
    exact onlyAt_fill (slots_label driveName label₁ label₂) hbefore hafter
  drive := by
    obtain ⟨before, after, rfl, hbefore, hafter⟩ := hdrive
    refine ⟨before.length, ?_⟩
    intro label driveName₁ driveName₂
    rw [hcommand, hcommand]
    exact onlyAt_fill (slots_drive driveName₁ driveName₂ label) hbefore hafter
  program := by
    intro driveName₁ label₁ driveName₂ label₂
    rw [hcommand, hcommand, head?_fill hprogram, head?_fill hprogram]
  empty_iff := by
    intro driveName label
    rw [hcommand, fill_eq_nil]
    refine ⟨?_, fun hno => absurd h hno⟩
    rintro rfl
    cases hprogram

/-- Where nothing is run there is no shape to change. -/
theorem KeepsShape.of_nil {command : String → String → List String}
    (hcommand : ∀ driveName label, command driveName label = []) {available : Prop}
    (h : ¬ available) : KeepsShape command available where
  label := by
    refine ⟨0, ?_⟩
    intro driveName label₁ label₂ _ _
    rw [hcommand, hcommand]
    exact onlyAt_nil _ _ _
  drive := by
    refine ⟨0, ?_⟩
    intro label driveName₁ driveName₂
    rw [hcommand, hcommand]
    exact onlyAt_nil _ _ _
  program := by
    intro driveName₁ label₁ driveName₂ label₂
    rw [hcommand, hcommand]
  empty_iff := by
    intro driveName label
    exact ⟨fun _ => h, fun _ => hcommand driveName label⟩

namespace PdmFs

theorem volumeLabelCommand_keepsShape (fsType : String) :
    KeepsShape (volumeLabelCommand fsType) (fsType ∈ labelled) := by
  have hcommand := volumeLabelCommand_eq fsType
  rcases volumeLabelTemplate_cases fsType with ⟨hfs, h | h | h⟩ | ⟨hfs, h⟩
  · rw [h] at hcommand
    exact .of_template hcommand
      ⟨[.text "ntfslabel", .text "-f", .hole .drive], [], rfl, by decide, by decide⟩
      ⟨[.text "ntfslabel", .text "-f"], [.hole .label], rfl, by decide, by decide⟩ rfl hfs
  · rw [h] at hcommand
    exact .of_template hcommand
      ⟨[.text "fatlabel", .text "-f", .text "-l"], [.hole .drive], rfl, by decide, by decide⟩
      ⟨[.text "fatlabel", .text "-f", .text "-l", .hole .label], [], rfl, by decide, by decide⟩
      rfl hfs
  · rw [h] at hcommand
    exact .of_template hcommand
      ⟨[.text "e2label", .hole .drive], [], rfl, by decide, by decide⟩
      ⟨[.text "e2label"], [.hole .label], rfl, by decide, by decide⟩ rfl hfs
  · rw [h] at hcommand
    exact .of_nil hcommand hfs

end PdmFs

/-! ### `PdmFsck` -/

namespace PdmFsck

/-- What precedes the device node. -/
def fsckWords (fsckMode driveType fsckbin fsckOption : String) : List String :=
  (if fsckMode = AUTO ∧ driveType ≠ "tntfs" ∧ driveType ≠ "tfat" then
      splitArgs "timeout 20 " else [])
    ++ [fsckbin] ++ splitArgs (getFsckMode driveType fsckMode) ++ splitArgs fsckOption

theorem fsckWords_ne_nil (fsckMode driveType fsckbin fsckOption : String) :
    fsckWords fsckMode driveType fsckbin fsckOption ≠ [] := by
  simp [fsckWords]

theorem fsckCommand_eq (fsckMode : String) {driveType fsckbin fsckOption : String}
    (hentry : fsckDriveTypeBinOptionMap driveType = some (fsckbin, fsckOption))
    (hbin : fsckbin ≠ "") (partitionName : String) :
    fsckCommand fsckMode driveType partitionName
      = fill (slots partitionName "")
          ((fsckWords fsckMode driveType fsckbin fsckOption).map .text ++ [.hole .drive]) := by
  unfold fsckCommand
  rw [hentry, fill_append, fill_text]
  simp only [if_neg hbin]
  rfl

theorem fsckCommand_eq_nil (fsckMode : String) {driveType : String}
    (h : ¬ ∃ fsckbin fsckOption,
      fsckDriveTypeBinOptionMap driveType = some (fsckbin, fsckOption) ∧ fsckbin ≠ "")
    (partitionName : String) : fsckCommand fsckMode driveType partitionName = [] := by
  unfold fsckCommand
  cases hentry : fsckDriveTypeBinOptionMap driveType with
  | none => rfl
  | some entry =>
    obtain ⟨fsckbin, fsckOption⟩ := entry
    by_cases hbin : fsckbin = ""
    · simp only [if_pos hbin]
    · exact absurd ⟨fsckbin, fsckOption, hentry, hbin⟩ h

theorem fsckCommand_keepsShape (fsckMode driveType : String) :
    KeepsDriveShape (fsckCommand fsckMode driveType)
      (∃ fsckbin fsckOption,
        fsckDriveTypeBinOptionMap driveType = some (fsckbin, fsckOption) ∧ fsckbin ≠ "") := by
  by_cases h : ∃ fsckbin fsckOption,
      fsckDriveTypeBinOptionMap driveType = some (fsckbin, fsckOption) ∧ fsckbin ≠ ""
  · obtain ⟨fsckbin, fsckOption, hentry, hbin⟩ := h
    have hcommand := fsckCommand_eq fsckMode hentry hbin
    refine ⟨⟨((fsckWords fsckMode driveType fsckbin fsckOption).map .text :
      List (Word Slot String)).length, ?_⟩, ?_, ?_⟩
    · intro driveName₁ driveName₂
      rw [hcommand, hcommand]
      exact onlyAt_fill (slots_drive driveName₁ driveName₂ "") (hole_notMem_text _ _)
        List.not_mem_nil
    · intro driveName₁ driveName₂
      rw [hcommand, hcommand]
      -- the words are not empty, so the first argument is one of them
      obtain ⟨program, words, hwords⟩ :=
        List.exists_cons_of_ne_nil (fsckWords_ne_nil fsckMode driveType fsckbin fsckOption)
      rw [hwords]
      rfl
    · intro driveName
      rw [hcommand, fill_eq_nil]
      refine ⟨fun hnil => absurd hnil (by simp), fun hno => ?_⟩
      exact absurd ⟨fsckbin, fsckOption, hentry, hbin⟩ hno
  · have hnil := fsckCommand_eq_nil fsckMode h
    refine ⟨⟨0, ?_⟩, ?_, fun driveName => ⟨fun _ => h, fun _ => hnil driveName⟩⟩
    · intro driveName₁ driveName₂
      rw [hnil, hnil]
      exact onlyAt_nil _ _ _
    · intro driveName₁ driveName₂
      rw [hnil, hnil]

end PdmFsck

/--
**A caller's strings are arguments and nothing else.**

For every file system, mode of the check and build: labels and drive names change one place
of a command line each, the program does not depend on them, and whether there is anything
to run is a matter of the file system.
-/
theorem commands_keep_their_shape (webosSession : Bool) (fsType fsckMode : String) :
    KeepsShape
        (fun driveName label =>
          DiskFormat.formatCommandIn webosSession driveName fsType label)
        (∃ command, DiskFormat.formatFsCommandsIn webosSession fsType = some command ∧
          command ≠ "") ∧
      KeepsShape (PdmFs.volumeLabelCommand fsType) (fsType ∈ PdmFs.labelled) ∧
      KeepsDriveShape (PdmFsck.fsckCommand fsckMode fsType)
        (∃ fsckbin fsckOption,
          PdmFsck.fsckDriveTypeBinOptionMap fsType = some (fsckbin, fsckOption) ∧
            fsckbin ≠ "") :=
  ⟨DiskFormat.formatCommandIn_keepsShape webosSession fsType,
    PdmFs.volumeLabelCommand_keepsShape fsType, PdmFsck.fsckCommand_keepsShape fsckMode fsType⟩

end Pdm
