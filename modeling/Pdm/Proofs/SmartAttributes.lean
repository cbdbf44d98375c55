/-
The attributes of a disk are parsed and logged without leaving a text or a row.

Where the rows begin is found by a search that may fail, and its failure is a position like
any other: from there ten characters are skipped.  A row may have any number of items; the
logging merges what is beyond the headers into the last item and then reads the first, so the
one row it cannot take is the row without items.
-/
import Pdm.Utils.PdmSmartInfo

namespace Pdm

open Lines

/-! ### The items of a line -/

/-- A line has no items exactly where it has nothing but blanks. -/
theorem words_eq_nil {word cs : List Char} :
    words word cs = [] ↔ word = [] ∧ ∀ c ∈ cs, isSpace c = true := by
  induction cs generalizing word with
  | nil =>
    unfold words
    by_cases hword : word = [] <;> simp [hword]
  | cons c cs ih =>
    unfold words
    cases hc : isSpace c with
    | true =>
      by_cases hword : word = []
      · simp [hword, ih, hc]
      · simp [hword]
    | false => simp [ih, hc]

namespace PdmSmartInfo

/-! ### The log of one row -/

/-- One extra item is appended, and the row keeps its length. -/
theorem appendInto_of_lt {v : List String} {toBeCopiedIndex vIndex : Nat}
    (hto : toBeCopiedIndex < v.length) (hfrom : vIndex < v.length) :
    ∃ v', appendInto toBeCopiedIndex v vIndex = some v' ∧ v'.length = v.length := by
  refine ⟨v.set toBeCopiedIndex (v[toBeCopiedIndex] ++ v[vIndex]), ?_, List.length_set ..⟩
  unfold appendInto
  rw [List.getElem?_eq_getElem hto, List.getElem?_eq_getElem hfrom]
  rfl

theorem foldlM_appendInto (toBeCopiedIndex : Nat) {v : List String} {extras : List Nat}
    (hto : toBeCopiedIndex < v.length) (hfrom : ∀ vIndex ∈ extras, vIndex < v.length) :
    ∃ v', extras.foldlM (appendInto toBeCopiedIndex) v = some v' ∧ v'.length = v.length := by
  induction extras generalizing v with
  | nil => exact ⟨v, rfl, rfl⟩
  | cons vIndex extras ih =>
    obtain ⟨v₁, happend, hlength⟩ := appendInto_of_lt hto (hfrom vIndex List.mem_cons_self)
    have hrest : ∀ i ∈ extras, i < v₁.length := by
      intro i hi
      rw [hlength]
      exact hfrom i (List.mem_cons_of_mem _ hi)
    obtain ⟨v₂, hfold, hlength₂⟩ := ih (hlength ▸ hto) hrest
    refine ⟨v₂, ?_, hlength₂.trans hlength⟩
    rw [List.foldlM_cons, happend]
    exact hfold

/-- After the merge a row has no more items than there are headers. -/
theorem mergeExtras_spec (row : List String) :
    ∃ v, mergeExtras row = some v ∧ v.length ≤ attributeHeaders.length ∧ (v = [] ↔ row = []) := by
  unfold mergeExtras
  by_cases hlong : row.length > attributeHeaders.length
  · have hheaders : attributeHeaders.length = 10 := rfl
    have hextras : ∀ vIndex ∈ List.range' attributeHeaders.length
        (row.length - attributeHeaders.length), vIndex < row.length := by
      intro vIndex h
      have hrange := List.mem_range'_1.mp h
      omega
    obtain ⟨v, hfold, hlength⟩ :=
      foldlM_appendInto (attributeHeaders.length - 1) (by omega) hextras
    refine ⟨v.take (attributeHeaders.length - 1 + 1), ?_, ?_, ?_⟩
    · rw [if_pos hlong]
      simp only [hfold, Option.map_some]
    · rw [List.length_take]
      omega
    · rw [← List.length_eq_zero_iff, ← List.length_eq_zero_iff, List.length_take]
      omega
  · rw [if_neg hlong]
    exact ⟨row, rfl, Nat.le_of_not_gt hlong, Iff.rfl⟩

theorem logString_isSome (index : Nat) {v : List String}
    (h : index + v.length ≤ attributeHeaders.length) : (logString index v).isSome = true := by
  induction v generalizing index with
  | nil => rfl
  | cons attr rest ih =>
    rw [List.length_cons] at h
    have hlt : index < attributeHeaders.length := by omega
    obtain ⟨tail, htail⟩ := Option.isSome_iff_exists.mp (ih (index + 1) (by omega))
    unfold logString
    rw [List.getElem?_eq_getElem hlt, htail]
    rfl

/-- **A row is logged unless it has no items.** -/
theorem logRow_isSome {row : List String} : (logRow row).isSome = true ↔ row ≠ [] := by
  obtain ⟨v, hmerge, hlength, hnil⟩ := mergeExtras_spec row
  obtain ⟨text, htext⟩ :=
    Option.isSome_iff_exists.mp (logString_isSome 0 (by omega : 0 + v.length ≤ _))
  have hlog : logRow row = v[0]?.map fun id => (decide (id ∈ importantAttributeInfoId), text) := by
    unfold logRow
    rw [hmerge]
    simp only [Option.bind_eq_bind, Option.bind_some, htext]
    cases v[0]? <;> rfl
  rw [hlog, Option.isSome_map, ← not_iff_not, not_not, ← hnil]
  cases v <;> simp

theorem pdmSmartLogAttributeInfo_isSome {info : PdmSmartInfo} :
    info.pdmSmartLogAttributeInfo.isSome = true ↔ ∀ row ∈ info.m_attributeInfo, row ≠ [] := by
  unfold pdmSmartLogAttributeInfo
  induction info.m_attributeInfo with
  | nil => simp
  | cons row rows ih =>
    rw [List.forall_mem_cons, ← ih, ← logRow_isSome, List.mapM_cons]
    cases logRow row with
    | none => simp
    | some line => cases rows.mapM logRow <;> simp

/-! ### The rows -/

/-- Where the rows begin: behind the first `RAW_VALUE` and one more character, in an `int`,
and at the ninth character of a text that has none. -/
def tableStart (cs : List Char) : Int :=
  match findText "RAW_VALUE".toList cs with
  | some pos => wrapInt (pos + 10)
  | none => 9

/-- The text reaches to where the rows begin, and no line from there on is of blanks only. -/
structure Readable (cs : List Char) : Prop where
  start_nonneg : 0 ≤ tableStart cs
  start_le : tableStart cs ≤ cs.length
  no_blank_line : ∀ line ∈ getlines [] (cs.drop (tableStart cs).toNat), line ≠ [] →
    ∃ c ∈ line, isSpace c = false

theorem tableStart_eq (cs : List Char) :
    wrapInt (intPos (findText "RAW_VALUE".toList cs) + 10) = tableStart cs := by
  unfold tableStart
  cases findText "RAW_VALUE".toList cs with
  | none => decide
  | some pos => exact wrapInt_add pos 10

theorem foldl_cons_rows (rows old : List (List String)) :
    rows.foldl (fun rows row => row :: rows) old = rows.reverse ++ old := by
  induction rows generalizing old with
  | nil => rfl
  | cons row rows ih => rw [List.foldl_cons, ih, List.reverse_cons, List.append_assoc]; rfl

/-- The rows of a text all have items exactly where no line of it is of blanks only. -/
theorem rows_ne_nil {cs : List Char} :
    (∀ row ∈ (written cs).map (words []), row ≠ []) ↔
      ∀ line ∈ getlines [] cs, line ≠ [] → ∃ c ∈ line, isSpace c = false := by
  unfold written
  rw [List.forall_mem_map]
  constructor
  · intro h line hline hne
    have hwords := h line (List.mem_filter.mpr ⟨hline, by simpa using hne⟩)
    by_contra hblank
    apply hwords
    rw [words_eq_nil]
    refine ⟨rfl, fun c hc => ?_⟩
    by_contra hspace
    exact hblank ⟨c, hc, by simpa using hspace⟩
  · intro h line hline hwords
    obtain ⟨hmem, hne⟩ := List.mem_filter.mp hline
    obtain ⟨c, hc, hspace⟩ := h line hmem (by simpa using hne)
    have hblank := (words_eq_nil.mp hwords).2 c hc
    rw [hspace] at hblank
    cases hblank

/--
**When the attributes are parsed and logged to the end.**

The rows that are there already have items, and the text is empty or readable.
-/
theorem attributes_total_iff (info : PdmSmartInfo) (result : String) :
    ((info.pdmSmartGetAttributes result).bind pdmSmartLogAttributeInfo).isSome = true ↔
      (∀ row ∈ info.m_attributeInfo, row ≠ []) ∧ (result = "" ∨ Readable result.toList) := by
  unfold pdmSmartGetAttributes
  by_cases hempty : result = ""
  · rw [if_pos hempty, Option.bind_some, pdmSmartLogAttributeInfo_isSome]
    simp [hempty]
  · rw [if_neg hempty, or_iff_right hempty]
    simp only [tableStart_eq]
    by_cases hstart : 0 ≤ tableStart result.toList ∧ tableStart result.toList ≤ result.toList.length
    · have hsub : substr result.toList (tableStart result.toList)
          = some (result.toList.drop (tableStart result.toList).toNat) := if_pos hstart
      rw [hsub, Option.map_some, Option.bind_some, pdmSmartLogAttributeInfo_isSome]
      dsimp only
      rw [foldl_cons_rows, List.forall_mem_append]
      simp only [List.mem_reverse]
      rw [rows_ne_nil, and_comm]
      constructor
      · rintro ⟨hold, hlines⟩
        exact ⟨hold, ⟨hstart.1, hstart.2, hlines⟩⟩
      · rintro ⟨hold, hreadable⟩
        exact ⟨hold, hreadable.no_blank_line⟩
    · have hsub : substr result.toList (tableStart result.toList) = none := if_neg hstart
      rw [hsub]
      constructor
      · intro h
        cases h
      · rintro ⟨-, hreadable⟩
        exact absurd ⟨hreadable.start_nonneg, hreadable.start_le⟩ hstart

/-- A text that is shorter than what is skipped throws. -/
theorem short_output_throws :
    ¬ ∀ result : String,
      ((({} : PdmSmartInfo).pdmSmartGetAttributes result).bind
        pdmSmartLogAttributeInfo).isSome = true := by
  intro h
  have hshort := h "aborted\n"
  revert hshort
  decide

/-- And so does a line of blanks behind the header. -/
example :
    ((({} : PdmSmartInfo).pdmSmartGetAttributes "RAW_VALUE\n  \n").bind
      pdmSmartLogAttributeInfo) = none := by
  decide

end PdmSmartInfo

end Pdm
