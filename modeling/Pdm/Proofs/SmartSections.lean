/-
The information section of a disk, and how much of it is read.

The section is searched with `find_last_of`, which takes its argument as a set of characters:
what is read begins behind the last `=` of the whole text.  That is the banner as long as no
line has the character.  Otherwise everything up to it is lost, and the section is told in
full only where what is behind tells it again.
-/
import Pdm.Utils.PdmSmartInfo

namespace Pdm

open Lines

/-! ### What a line tells -/

/-- What is before the first colon of a line, all of it where there is none. -/
def lineKey (line : List Char) : String :=
  String.ofList (trimString (line.takeWhile (· ≠ ':')))

/-- What is behind the first colon. -/
def lineValue (line : List Char) : String :=
  String.ofList (trimString (line.dropWhile (· ≠ ':')).tail)

def bindings (lines : List (List Char)) : List (String × String) :=
  lines.map fun line => (lineKey line, lineValue line)

theorem splitStringInTwo_eq (line : List Char) :
    splitStringInTwo line = (lineKey line, lineValue line) := by
  have htest : (fun c : Char => !decide (c ≠ ':')) = fun c => decide (c = ':') := by
    funext c
    by_cases hc : c = ':' <;> simp [hc]
  unfold splitStringInTwo lineKey lineValue
  rw [List.takeWhile_eq_take_findIdx_not, List.dropWhile_eq_drop_findIdx_not, htest]
  cases h : line.findIdx? (· = ':') with
  | none =>
    have hnone := List.findIdx?_eq_none_iff_findIdx_eq.mp h
    rw [hnone, List.take_length, List.drop_length]
    rfl
  | some pos =>
    have hpos := (List.findIdx?_eq_some_iff_findIdx_eq.mp h).2
    rw [hpos, List.tail_drop]

theorem bindings_append (lines lines' : List (List Char)) :
    bindings (lines ++ lines') = bindings lines ++ bindings lines' := List.map_append

/-- Lines with a common end tell the same when they do of every key before it. -/
theorem bindings_congr_iff (pre pre' post : List (List Char)) :
    (∀ key, firstValue key (bindings (pre ++ post)) = firstValue key (bindings (pre' ++ post))) ↔
      ∀ line ∈ pre' ++ pre, firstValue (lineKey line) (bindings (pre ++ post))
        = firstValue (lineKey line) (bindings (pre' ++ post)) := by
  rw [bindings_append, bindings_append, firstValue_congr_iff, ← bindings_append]
  unfold bindings
  rw [List.forall_mem_map]

/-! ### Sections -/

/-- The output with the section: a banner and lines, the last of which may lack its end. -/
structure InformationSection where
  lines : List (List Char)
  written_lines : ∀ line ∈ lines, line ≠ []
  one_line : ∀ line ∈ lines, '\n' ∉ line
  ended : Bool

namespace InformationSection

def banner : List Char := "=== START OF INFORMATION SECTION ===".toList

def lastEnd (s : InformationSection) : List Char := if s.ended then ['\n'] else []

/-- What smartctl prints. -/
def text (s : InformationSection) : List Char :=
  banner ++ s.lines.flatMap ('\n' :: ·) ++ s.lastEnd

def output (s : InformationSection) : String := String.ofList s.text

/-- The map has the key of every line, with the value of the first line that has it, and no
other keys. -/
structure Complete (s : InformationSection) (map : List (String × String)) : Prop where
  bound : ∀ before line after, s.lines = before ++ line :: after →
    (∀ l ∈ before, lineKey l ≠ lineKey line) → firstValue (lineKey line) map = some (lineValue line)
  only : ∀ key value, firstValue key map = some value → ∃ line ∈ s.lines, lineKey line = key

theorem complete_iff {s : InformationSection} {map : List (String × String)} :
    s.Complete map ↔ ∀ key, firstValue key map = firstValue key (bindings s.lines) := by
  constructor
  · intro h key
    cases hlines : firstValue key (bindings s.lines) with
    | none =>
      cases hmap : firstValue key map with
      | none => rfl
      | some value =>
        obtain ⟨line, hline, hkey⟩ := h.only key value hmap
        exact absurd hkey (firstValue_eq_none.mp hlines _ (List.mem_map_of_mem hline))
    | some value =>
      obtain ⟨pre, post, hsplit, hpre⟩ := firstValue_eq_some.mp hlines
      obtain ⟨before, rest, hrest, rfl, hlater⟩ := List.map_eq_append_iff.mp hsplit
      obtain ⟨line, after, rfl, hline, -⟩ := List.map_eq_cons_iff.mp hlater
      obtain ⟨rfl, rfl⟩ := Prod.mk.inj hline
      refine h.bound before line after hrest ?_
      intro l hl
      exact hpre _ (List.mem_map_of_mem hl)
  · intro h
    constructor
    · intro before line after hsplit hbefore
      rw [h, firstValue_eq_some]
      refine ⟨bindings before, bindings after, ?_, ?_⟩
      · rw [hsplit]
        exact List.map_append
      · intro b hb
        obtain ⟨l, hl, rfl⟩ := List.mem_map.mp hb
        exact hbefore l hl
    · intro key value hmap
      rw [h] at hmap
      obtain ⟨pre, post, hsplit, -⟩ := firstValue_eq_some.mp hmap
      have hmem : (key, value) ∈ bindings s.lines := by
        rw [hsplit]
        simp
      obtain ⟨line, hline, hpair⟩ := List.mem_map.mp hmem
      exact ⟨line, hline, congrArg Prod.fst hpair⟩

/-! ### What is read of a section -/

/-- The text behind the last `=`. -/
def behindEquals (s : InformationSection) : List Char :=
  (s.text.reverse.takeWhile (· ≠ '=')).reverse

/-- Where it begins. -/
def start (s : InformationSection) : Nat := s.text.length - s.behindEquals.length

theorem behindEquals_of_split {s : InformationSection} {pre post : List Char}
    (h : s.text = pre ++ '=' :: post) (hpost : '=' ∉ post) : s.behindEquals = post := by
  unfold behindEquals
  have hall : ∀ c ∈ post.reverse, decide (c ≠ '=') = true := by
    intro c hc
    rw [decide_eq_true_eq]
    rintro rfl
    exact hpost (List.mem_reverse.mp hc)
  rw [h, List.reverse_append, List.reverse_cons, List.append_assoc,
    List.takeWhile_append_of_pos hall]
  simp

/-- The banner has the character, so the text has a last one. -/
theorem text_split (s : InformationSection) :
    ∃ pre, s.text = pre ++ '=' :: s.behindEquals ∧ '=' ∉ s.behindEquals ∧
      s.start = pre.length + 1 := by
  have hmem : '=' ∈ s.text := by
    unfold text
    rw [List.append_assoc]
    exact List.mem_append_left _ (by decide)
  obtain ⟨pre, _, post, hsplit, rfl, hpost⟩ := exists_last (p := (· = '=')) ⟨'=', hmem, rfl⟩
  have hpost' : '=' ∉ post := fun h => hpost '=' h rfl
  have hbehind := behindEquals_of_split hsplit hpost'
  refine ⟨pre, by rw [hbehind]; exact hsplit, by rw [hbehind]; exact hpost', ?_⟩
  unfold start
  rw [hbehind, hsplit, List.length_append, List.length_cons]
  omega

theorem findLastOf_text (s : InformationSection) :
    ∃ pos, findLastOf "===".toList s.text = some pos ∧ s.start = pos + 1 := by
  obtain ⟨pre, hsplit, hbehind, hstart⟩ := s.text_split
  refine ⟨pre.length, ?_, hstart⟩
  have hnone : s.behindEquals.reverse.findIdx? (· ∈ "===".toList) = none := by
    rw [List.findIdx?_eq_none_iff]
    intro c hc
    have hne : c ≠ '=' := fun h => hbehind (h ▸ List.mem_reverse.mp hc)
    simp [hne]
  unfold findLastOf
  rw [hsplit, List.reverse_append, List.reverse_cons, List.append_assoc, List.findIdx?_append,
    hnone]
  have hhere : List.findIdx? (fun c => decide (c ∈ "===".toList)) ('=' :: pre.reverse) = some 0 :=
    rfl
  simp only [List.singleton_append, hhere, List.length_append, List.length_cons,
    List.length_reverse, Option.map_some, Option.none_or]
  congr 1
  omega

/-- What is read: behind the last `=`, whose position is an `int`. -/
theorem getDeviceInfo_eq (s : InformationSection) :
    ({} : PdmSmartInfo).pdmSmartGetDeviceInfo s.output
      = (substr s.text (wrapInt s.start)).map fun subString =>
          { m_smartdeviceInfoMap := (bindings (written subString)).foldl insertNew [] } := by
  have houtput : s.output.toList = s.text := String.toList_ofList
  have hne : s.output ≠ "" := by
    intro h
    have htext : s.text = [] := houtput.symm.trans (congrArg String.toList h)
    have hlength := congrArg List.length htext
    unfold text at hlength
    rw [List.length_append, List.length_append] at hlength
    have hbanner : banner.length = 36 := rfl
    rw [List.length_nil] at hlength
    omega
  obtain ⟨pos, hfind, hstart⟩ := s.findLastOf_text
  have hpos : wrapInt (intPos (some pos) + 1) = wrapInt s.start := by
    rw [hstart]
    exact wrapInt_add pos 1
  have hsplit : splitStringInTwo = fun line => (lineKey line, lineValue line) :=
    funext splitStringInTwo_eq
  unfold PdmSmartInfo.pdmSmartGetDeviceInfo
  rw [if_neg hne, houtput, hfind, hsplit]
  show Option.map _ (substr s.text (wrapInt (intPos (some pos) + 1))) = _
  rw [hpos]
  rfl

/-! ### When it is all -/

/-- The section is in the map after `pdmSmartGetDeviceInfo`. -/
def Told (s : InformationSection) : Prop :=
  ∃ info, ({} : PdmSmartInfo).pdmSmartGetDeviceInfo s.output = some info ∧
    s.Complete info.m_smartdeviceInfoMap

/-- The position is one that the text has. -/
def InRange (s : InformationSection) : Prop :=
  0 ≤ wrapInt s.start ∧ wrapInt s.start ≤ s.text.length

/-- The lines that are read. -/
def readLines (s : InformationSection) : List (List Char) :=
  written (s.text.drop (wrapInt s.start).toNat)

theorem told_iff (s : InformationSection) :
    s.Told ↔ s.InRange ∧
      ∀ key, firstValue key (bindings s.readLines) = firstValue key (bindings s.lines) := by
  have hmap : ∀ key, firstValue key ((bindings s.readLines).foldl insertNew [])
      = firstValue key (bindings s.readLines) := by
    intro key
    rw [firstValue_foldl_insertNew, firstValue_nil, Option.none_or]
  unfold Told
  rw [getDeviceInfo_eq]
  by_cases hrange : s.InRange
  · have hsub : substr s.text (wrapInt s.start)
        = some (s.text.drop (wrapInt s.start).toNat) := if_pos hrange
    have hread : written (s.text.drop (wrapInt s.start).toNat) = s.readLines := rfl
    rw [hsub, and_iff_right hrange, Option.map_some, hread]
    constructor
    · rintro ⟨info, hinfo, hcomplete⟩ key
      rw [← Option.some.inj hinfo, complete_iff] at hcomplete
      dsimp only at hcomplete
      rw [← hmap, hcomplete]
    · intro h
      refine ⟨_, rfl, ?_⟩
      rw [complete_iff]
      dsimp only
      intro key
      rw [hmap, h]
  · have hsub : substr s.text (wrapInt s.start) = none := if_neg hrange
    rw [hsub]
    constructor
    · rintro ⟨_, hnone, -⟩
      cases hnone
    · rintro ⟨hrange', -⟩
      exact absurd hrange' hrange

/-- An output of less than 2 GiB is read from behind its last `=`. -/
theorem short_reads {s : InformationSection} (h : s.start < 2 ^ 31) :
    s.InRange ∧ s.readLines = written s.behindEquals := by
  obtain ⟨pre, hsplit, -, hstart⟩ := s.text_split
  have hwrap : wrapInt s.start = s.start := by
    unfold wrapInt
    rw [Int.bmod_eq_of_le (by omega) (by omega)]
  have hlength : s.start ≤ s.text.length := by
    unfold start
    omega
  have hdrop : s.text.drop s.start = s.behindEquals := by
    have hpre : pre ++ '=' :: s.behindEquals = (pre ++ ['=']) ++ s.behindEquals := by simp
    have hstart' : s.start = (pre ++ ['=']).length := by
      rw [hstart, List.length_append, List.length_singleton]
    rw [hstart', hsplit, hpre]
    exact List.drop_left
  refine ⟨⟨by omega, by omega⟩, ?_⟩
  unfold readLines
  rw [hwrap, Int.toNat_natCast, hdrop]

/-- No line has the character. -/
def Plain (s : InformationSection) : Prop := ∀ line ∈ s.lines, '=' ∉ line

/-- What is behind the last `=` of the lines tells again what the lines up to it tell, and
nothing else of their keys. -/
def Repeats (s : InformationSection) : Prop :=
  ∃ before x r after, s.lines = before ++ (x ++ '=' :: r) :: after ∧ '=' ∉ r ∧
    (∀ line ∈ after, '=' ∉ line) ∧
    ∀ line ∈ (before ++ [x ++ '=' :: r]) ++ piece r,
      firstValue (lineKey line) (bindings (piece r ++ after))
        = firstValue (lineKey line) (bindings s.lines)

theorem notMem_joined {lines : List (List Char)} (h : ∀ line ∈ lines, '=' ∉ line)
    (s : InformationSection) : '=' ∉ lines.flatMap ('\n' :: ·) ++ s.lastEnd := by
  intro hmem
  rcases List.mem_append.mp hmem with hlines | hend
  · obtain ⟨line, hline, hc⟩ := List.mem_flatMap.mp hlines
    rcases List.mem_cons.mp hc with hc | hc
    · exact absurd hc (by decide)
    · exact h line hline hc
  · unfold lastEnd at hend
    split at hend <;> simp at hend

theorem lastEnd_cases (s : InformationSection) : s.lastEnd = [] ∨ s.lastEnd = ['\n'] := by
  unfold lastEnd
  cases s.ended with
  | true => exact Or.inr rfl
  | false => exact Or.inl rfl

/-- A plain section is read whole. -/
theorem plain_reads {s : InformationSection} (h : s.Plain) :
    written s.behindEquals = s.lines := by
  have hbanner : banner = banner.dropLast ++ ['='] := by decide
  have hsplit : s.text = banner.dropLast ++
      '=' :: (s.lines.flatMap ('\n' :: ·) ++ s.lastEnd) := by
    unfold text
    conv_lhs => rw [hbanner]
    rw [List.append_assoc, List.append_assoc, List.singleton_append]
  rw [behindEquals_of_split hsplit (notMem_joined h s)]
  exact written_join s.written_lines s.one_line List.not_mem_nil s.lastEnd_cases

/-- Of any other, what is behind the last `=` of its lines. -/
theorem marked_reads {s : InformationSection} {before after : List (List Char)} {x r : List Char}
    (hlines : s.lines = before ++ (x ++ '=' :: r) :: after) (hr : '=' ∉ r)
    (hafter : ∀ line ∈ after, '=' ∉ line) : written s.behindEquals = piece r ++ after := by
  have hsplit : s.text = (banner ++ before.flatMap ('\n' :: ·) ++ '\n' :: x) ++
      '=' :: (r ++ (after.flatMap ('\n' :: ·) ++ s.lastEnd)) := by
    unfold text
    rw [hlines]
    simp only [List.flatMap_append, List.flatMap_cons, List.append_assoc, List.cons_append]
  have hbehind : '=' ∉ r ++ (after.flatMap ('\n' :: ·) ++ s.lastEnd) := by
    rw [List.mem_append]
    rintro (h | h)
    · exact hr h
    · exact notMem_joined hafter s h
  have hmem : ∀ line ∈ after, line ∈ s.lines := by
    intro line h
    rw [hlines]
    exact List.mem_append_right _ (List.mem_cons_of_mem _ h)
  have hone : '\n' ∉ r := by
    intro h
    have hline : x ++ '=' :: r ∈ s.lines := by
      rw [hlines]
      exact List.mem_append_right _ List.mem_cons_self
    exact s.one_line _ hline (List.mem_append_right _ (List.mem_cons_of_mem _ h))
  rw [behindEquals_of_split hsplit hbehind, ← List.append_assoc]
  exact written_join (fun line h => s.written_lines line (hmem line h))
    (fun line h => s.one_line line (hmem line h)) hone s.lastEnd_cases

/-- The last `=` of the lines, where there is one. -/
theorem marked_of_not_plain {s : InformationSection} (h : ¬ s.Plain) :
    ∃ before x r after, s.lines = before ++ (x ++ '=' :: r) :: after ∧ '=' ∉ r ∧
      ∀ line ∈ after, '=' ∉ line := by
  have hmarked : ∃ line ∈ s.lines, '=' ∈ line := by
    by_contra hnone
    exact h fun line hline hmem => hnone ⟨line, hline, hmem⟩
  obtain ⟨before, line, after, hlines, hline, hafter⟩ := exists_last hmarked
  obtain ⟨x, _, r, rfl, rfl, hr⟩ := exists_last (p := (· = '=')) ⟨'=', hline, rfl⟩
  exact ⟨before, x, r, after, hlines, fun h => hr '=' h rfl, hafter⟩

/-- Behind the last `=` of its lines a section tells all exactly where it repeats it. -/
theorem repeats_iff {s : InformationSection} (h : ¬ s.Plain) :
    (∀ key, firstValue key (bindings (written s.behindEquals))
      = firstValue key (bindings s.lines)) ↔ s.Repeats := by
  constructor
  · intro htold
    obtain ⟨before, x, r, after, hlines, hr, hafter⟩ := marked_of_not_plain h
    rw [marked_reads hlines hr hafter] at htold
    exact ⟨before, x, r, after, hlines, hr, hafter, fun line _ => htold (lineKey line)⟩
  · rintro ⟨before, x, r, after, hlines, hr, hafter, hrepeats⟩
    have hsplit : s.lines = (before ++ [x ++ '=' :: r]) ++ after := by
      rw [hlines]
      simp
    rw [marked_reads hlines hr hafter, hsplit, bindings_congr_iff]
    rw [hsplit] at hrepeats
    exact hrepeats

/-- What is read of an output of 2 GiB or more, where the position is another number. -/
def RepeatsFarOn (s : InformationSection) : Prop :=
  s.InRange ∧ ∀ line ∈ s.lines ++ s.readLines,
    firstValue (lineKey line) (bindings s.readLines) = firstValue (lineKey line) (bindings s.lines)

/--
**When the information section is parsed completely.**

No line has a `=`, or the lines behind the last one tell all again.
-/
theorem told_iff_plain_or_repeats (s : InformationSection) :
    s.Told ↔
      (s.start < 2 ^ 31 ∧ (s.Plain ∨ s.Repeats)) ∨ (2 ^ 31 ≤ s.start ∧ s.RepeatsFarOn) := by
  rw [told_iff]
  rcases Nat.lt_or_ge s.start (2 ^ 31) with hshort | hlong
  · obtain ⟨hrange, hread⟩ := short_reads hshort
    rw [and_iff_right hrange, hread, and_iff_right hshort,
      or_iff_left fun h => absurd h.1 (Nat.not_le_of_gt hshort)]
    by_cases hplain : s.Plain
    · rw [plain_reads hplain]
      exact ⟨fun _ => Or.inl hplain, fun _ _ => rfl⟩
    · rw [repeats_iff hplain, or_iff_right hplain]
  · have hcongr := bindings_congr_iff s.readLines s.lines []
    rw [List.append_nil, List.append_nil] at hcongr
    rw [hcongr, and_iff_right hlong,
      or_iff_right fun h => absurd h.1 (Nat.not_lt_of_ge hlong)]
    exact Iff.rfl

/-- Two lines of the output that the source gives as its sample. -/
def sample : InformationSection where
  lines := ["Vendor: LG Elect".toList,
    "scsiModePageOffset: response length too short, resp_len=12 offset=12 bd_len=8".toList]
  written_lines := by decide
  one_line := by decide
  ended := true

/-- Of the sample only the last character is read. -/
theorem sample_lost : ¬ ∀ s : InformationSection, s.Told := by
  intro h
  have hvendor := (sample.told_iff.mp (h sample)).2 "Vendor"
  revert hvendor
  decide +kernel

end InformationSection

end Pdm
