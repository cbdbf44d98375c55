/-
When a look-up in the configuration gives all or nothing.

`getValue` goes over every item of the category and keeps the last value it read.  It stops at
the first item without the key, and what the items before that one assigned stays; and where the
category has no items it reports success without having assigned anything.  So the status and
the value belong together unless the category is an empty array, or its first item has the key
and a later one has not.

**The readers are not reached by what a failed look-up left behind: they look at the status
first and the value they passed is their own.**
-/
import Mathlib.Data.List.TakeWhile
import Pdm.Framework.Configuration

namespace Pdm.PdmConfig

/-! ### The loop over the items -/

theorem getValueLoop_errorNone {key : String} {value : JValue} {items : List JValue} :
    (getValueLoop key value items).1 = .errorNone ↔ ∀ item ∈ items, item.hasKey key = true := by
  induction items generalizing value with
  | nil => simp [getValueLoop]
  | cons item rest ih =>
    unfold getValueLoop
    by_cases hkey : item.hasKey key = true
    · rw [if_pos hkey, ih]
      simp [hkey]
    · rw [if_neg hkey]
      simp [hkey]

/-- What stays is the value of the last item before the first one without the key. -/
theorem getValueLoop_value (key : String) (value : JValue) (items : List JValue) :
    (getValueLoop key value items).2 =
      ((items.takeWhile (·.hasKey key)).getLast?.map (·.get key)).getD value := by
  induction items generalizing value with
  | nil => rfl
  | cons item rest ih =>
    unfold getValueLoop
    by_cases hkey : item.hasKey key = true
    · rw [if_pos hkey, ih, List.takeWhile_cons, if_pos hkey, List.getLast?_cons]
      cases (rest.takeWhile (·.hasKey key)).getLast? <;> rfl
    · rw [if_neg hkey, List.takeWhile_cons, if_neg hkey]
      rfl

/-! ### A look-up -/

theorem getValue_of_isArray {c : PdmConfig} {category : String}
    (h : (c.m_fileDOM.get category).isArray = true) (key : String) (value : JValue) :
    c.getValue category key value =
      getValueLoop key value (c.m_fileDOM.get category).elements := by
  unfold getValue
  rw [if_neg (by simp [h])]

theorem getValue_of_not_isArray {c : PdmConfig} {category : String}
    (h : (c.m_fileDOM.get category).isArray = false) (key : String) (value : JValue) :
    c.getValue category key value = (.errorNoCategory, value) := by
  unfold getValue
  rw [if_pos h]

theorem getValue_errorNone {c : PdmConfig} {category key : String} {value : JValue} :
    (c.getValue category key value).1 = .errorNone ↔
      (c.m_fileDOM.get category).isArray = true ∧
        ∀ item ∈ (c.m_fileDOM.get category).elements, item.hasKey key = true := by
  by_cases h : (c.m_fileDOM.get category).isArray = true
  · rw [getValue_of_isArray h, getValueLoop_errorNone]
    exact ⟨fun hall => ⟨h, hall⟩, And.right⟩
  · rw [getValue_of_not_isArray (by simpa using h)]
    exact ⟨fun hnone => (nomatch hnone), fun hall => absurd hall.1 h⟩

/-- Whatever the caller's value was, it is now this one. -/
def Assigns (c : PdmConfig) (category key : String) (v : JValue) : Prop :=
  ∀ value, (c.getValue category key value).2 = v

structure AllOrNothing (c : PdmConfig) (category key : String) : Prop where
  assigned : ∀ value, (c.getValue category key value).1 = .errorNone ↔
    ∃ item ∈ (c.m_fileDOM.get category).elements,
      item.hasKey key = true ∧ c.Assigns category key (item.get key)
  kept : ∀ value, (c.getValue category key value).1 ≠ .errorNone →
    (c.getValue category key value).2 = value

/-- A look-up that gives the caller's value back has not assigned one. -/
theorem not_assigns_of_kept {c : PdmConfig} {category key : String}
    (h : ∀ value, (c.getValue category key value).2 = value) (v : JValue) :
    ¬ c.Assigns category key v := by
  intro hv
  have hnull : JValue.null = v := (h .null).symm.trans (hv .null)
  have harray : JValue.array [] = v := (h (.array [])).symm.trans (hv (.array []))
  exact JValue.noConfusion (hnull.trans harray.symm)

/-- A failed look-up that changes nothing is as it should be. -/
theorem allOrNothing_of_kept {c : PdmConfig} {category key : String}
    (hstatus : ∀ value, (c.getValue category key value).1 ≠ .errorNone)
    (hkept : ∀ value, (c.getValue category key value).2 = value) :
    c.AllOrNothing category key where
  assigned value := by
    refine ⟨fun hnone => absurd hnone (hstatus value), ?_⟩
    rintro ⟨item, -, -, hassigns⟩
    exact absurd hassigns (not_assigns_of_kept hkept _)
  kept value _ := hkept value

/-- When every item of the category has the key, the last one counts. -/
theorem assigns_last {c : PdmConfig} {category key : String}
    (harray : (c.m_fileDOM.get category).isArray = true)
    (hall : ∀ item ∈ (c.m_fileDOM.get category).elements, item.hasKey key = true)
    (hitems : (c.m_fileDOM.get category).elements ≠ []) :
    c.Assigns category key
      (((c.m_fileDOM.get category).elements.getLast hitems).get key) := by
  intro value
  rw [getValue_of_isArray harray, getValueLoop_value, List.takeWhile_eq_self_iff.mpr hall,
    List.getLast?_eq_some_getLast hitems]
  rfl

/-- **A look-up is all or nothing exactly when the category is no array, or it has a first item
and the later ones have the key if that one has.** -/
theorem allOrNothing_iff (c : PdmConfig) (category key : String) :
    c.AllOrNothing category key ↔
      ((c.m_fileDOM.get category).isArray = true →
        ∃ first rest, (c.m_fileDOM.get category).elements = first :: rest ∧
          (first.hasKey key = true → ∀ item ∈ rest, item.hasKey key = true)) := by
  constructor
  · intro h harray
    cases hitems : (c.m_fileDOM.get category).elements with
    | nil =>
      have hnone : (c.getValue category key .null).1 = .errorNone :=
        getValue_errorNone.mpr ⟨harray, by simp [hitems]⟩
      obtain ⟨item, hmem, -⟩ := (h.assigned .null).mp hnone
      rw [hitems] at hmem
      exact absurd hmem List.not_mem_nil
    | cons first rest =>
      refine ⟨first, rest, rfl, fun hfirst => ?_⟩
      by_contra hrest
      have hstatus : ∀ value, (c.getValue category key value).1 ≠ .errorNone := by
        intro value hnone
        have hall := (getValue_errorNone.mp hnone).2
        rw [hitems] at hall
        exact hrest fun item hmem => hall item (List.mem_cons_of_mem _ hmem)
      -- the value of the first item, or of one after it, was assigned whatever was there
      have hassigned : ∃ v, c.Assigns category key v := by
        refine ⟨((rest.takeWhile (·.hasKey key)).getLast?.getD first).get key, fun value => ?_⟩
        rw [getValue_of_isArray harray, hitems, getValueLoop_value,
          List.takeWhile_cons, if_pos hfirst, List.getLast?_cons]
        rfl
      obtain ⟨v, hv⟩ := hassigned
      exact not_assigns_of_kept (fun value => h.kept value (hstatus value)) v hv
  · intro h
    by_cases harray : (c.m_fileDOM.get category).isArray = true
    · obtain ⟨first, rest, hitems, hrest⟩ := h harray
      by_cases hfirst : first.hasKey key = true
      · have hall : ∀ item ∈ (c.m_fileDOM.get category).elements, item.hasKey key = true := by
          rw [hitems]
          exact List.forall_mem_cons.mpr ⟨hfirst, hrest hfirst⟩
        have hne : (c.m_fileDOM.get category).elements ≠ [] := by simp [hitems]
        have hnone : ∀ value, (c.getValue category key value).1 = .errorNone :=
          fun value => getValue_errorNone.mpr ⟨harray, hall⟩
        refine ⟨fun value => iff_of_true (hnone value) ?_,
          fun value hstatus => absurd (hnone value) hstatus⟩
        exact ⟨_, List.getLast_mem hne, hall _ (List.getLast_mem hne),
          assigns_last harray hall hne⟩
      · refine allOrNothing_of_kept (fun value hnone => ?_) (fun value => ?_)
        · have hall := (getValue_errorNone.mp hnone).2
          rw [hitems] at hall
          exact hfirst (hall first List.mem_cons_self)
        · rw [getValue_of_isArray harray, hitems, getValueLoop, if_neg hfirst]
    · have hno : ∀ value, c.getValue category key value = (.errorNoCategory, value) :=
        getValue_of_not_isArray (by simpa using harray) key
      refine allOrNothing_of_kept (fun value => ?_) (fun value => ?_)
      · rw [hno value]
        exact PdmConfigStatus.noConfusion
      · rw [hno value]

/-! ### The readers -/

/-- A value is found when every item has the key; it is the last item's. -/
theorem getValue_found {c : PdmConfig} {category key : String} {v : JValue} (hv : v ≠ .null) :
    c.getValue category key .null = (.errorNone, v) ↔
      (c.m_fileDOM.get category).isArray = true ∧
        (∀ item ∈ (c.m_fileDOM.get category).elements, item.hasKey key = true) ∧
        ∃ last ∈ (c.m_fileDOM.get category).elements.getLast?, last.get key = v := by
  rw [Prod.ext_iff, getValue_errorNone, and_assoc]
  refine and_congr_right fun harray => and_congr_right fun hall => ?_
  rw [getValue_of_isArray harray, getValueLoop_value, List.takeWhile_eq_self_iff.mpr hall]
  cases (c.m_fileDOM.get category).elements.getLast? with
  | none => simpa using fun hnull : JValue.null = v => hv hnull.symm
  | some last => simp

/-- **A root path is read only where every item of the category gives one.** -/
theorem readRootPath_iff {c : PdmConfig} {path : String} (hpath : path ≠ "") :
    c.readRootPath = path ↔
      c.getValue "Common" "RootPath" .null = (.errorNone, .string path) := by
  unfold readRootPath
  rw [Prod.ext_iff]
  by_cases hnone : (c.getValue "Common" "RootPath" .null).1 = .errorNone
  · cases hvalue : (c.getValue "Common" "RootPath" .null).2 <;>
      simp [hnone, hvalue, JValue.isString, JValue.asString, hpath.symm]
  · simp [hnone, hpath.symm]

theorem readMaxUsbStorageDevices_iff {c : PdmConfig} {n : Int} (hn : n ≠ 0) :
    c.readMaxUsbStorageDevices = n ↔
      c.getValue "Storage" "MaxUsbStorageDevices" .null = (.errorNone, .number n) := by
  unfold readMaxUsbStorageDevices
  rw [Prod.ext_iff]
  by_cases hnone : (c.getValue "Storage" "MaxUsbStorageDevices" .null).1 = .errorNone
  · cases hvalue : (c.getValue "Storage" "MaxUsbStorageDevices" .null).2 <;>
      simp [hnone, hvalue, JValue.isNumber, JValue.asNumber, hn.symm]
  · simp [hnone, hn.symm]

/-! ### A category of two items -/

/-- The second item of the category has no root path: the first one's is assigned all the same,
and the look-up says that there is no such key. -/
def halfCommon : PdmConfig where
  m_fileDOM := .object [("Common", .array [.object [("RootPath", .string "/tmp/usb")],
    .object [("SupportedDevices", .array [.string "Storage"])]])]

theorem halfCommon_not_allOrNothing :
    (halfCommon.getValue "Common" "RootPath" .null).1 = .errorNoKey ∧
      (halfCommon.getValue "Common" "RootPath" .null).2 = .string "/tmp/usb" ∧
      ¬ halfCommon.AllOrNothing "Common" "RootPath" := by
  refine ⟨rfl, rfl, fun h => ?_⟩
  exact JValue.noConfusion (h.kept .null PdmConfigStatus.noConfusion)

end Pdm.PdmConfig
