/-
What the string helpers make of a tool's output.

A text is trimmed at both ends, split at its first colon, or taken apart into words.  The two
scans of `trimString` leave the one text that has no blank at either end and blanks around it.
The words of a text are found one after the other, so a blank ends what was begun before it and
what follows it is read as a text of its own (`words_append_blank`).

**Trimming takes off the blanks at the ends, a key and its value come apart at the colon, and
texts that are joined by blanks have the words of each.**
-/
import Pdm.Lib.Trims
import Pdm.Utils.PdmSmartInfo

namespace Pdm

open Trims

/-! ### Trimming -/

theorem trimString_eq (cs : List Char) : trimString cs = strip isSpace cs := rfl

theorem strips_iff {cs inner : List Char} :
    Strips isSpace cs inner ↔ trimString cs = inner := by
  rw [trimString_eq]
  refine ⟨strip_eq, ?_⟩
  rintro rfl
  exact strip_strips isSpace cs

/-! ### The first colon -/

theorem splitStringInTwo_colon {k : List Char} (hk : ':' ∉ k) (v : List Char) :
    splitStringInTwo (k ++ ':' :: v) =
      (String.ofList (trimString k), String.ofList (trimString v)) := by
  have hfind : (k ++ ':' :: v).findIdx? (· = ':') = some k.length := by
    rw [List.findIdx?_append, List.findIdx?_eq_none_iff.mpr]
    · simp [List.findIdx?_cons]
    · intro c hc
      exact decide_eq_false fun hcolon => hk (hcolon ▸ hc)
  unfold splitStringInTwo
  rw [hfind]
  dsimp only
  have hdrop : (k ++ ':' :: v).drop (k.length + 1) = v := by
    rw [← List.drop_drop, List.drop_left]
    rfl
  rw [List.take_left, hdrop]

theorem splitStringInTwo_none {s : List Char} (hs : ':' ∉ s) :
    splitStringInTwo s = (String.ofList (trimString s), "") := by
  have hfind : s.findIdx? (· = ':') = none := by
    rw [List.findIdx?_eq_none_iff]
    intro c hc
    exact decide_eq_false fun hcolon => hs (hcolon ▸ hc)
  unfold splitStringInTwo
  rw [hfind]

/-! ### Words -/

theorem words_cons (word : List Char) (c : Char) (cs : List Char) :
    words word (c :: cs) =
      if isSpace c then
        if word = [] then words [] cs else String.ofList word :: words [] cs
      else words (word ++ [c]) cs := rfl

/-- A blank ends the word before it. -/
theorem words_append_blank {c : Char} (hc : isSpace c = true) (word a b : List Char) :
    words word (a ++ c :: b) = words word a ++ words [] b := by
  induction a generalizing word with
  | nil =>
    rw [List.nil_append]
    by_cases hword : word = [] <;> simp [words, hc, hword]
  | cons d a ih =>
    rw [List.cons_append, words_cons, words_cons]
    by_cases hd : isSpace d = true
    · rw [if_pos hd, if_pos hd]
      by_cases hword : word = []
      · rw [if_pos hword, if_pos hword, ih]
      · rw [if_neg hword, if_neg hword, ih, List.cons_append]
    · rw [if_neg hd, if_neg hd, ih]

/-- Blanks in front of a text begin no word. -/
theorem words_blanks {w : List Char} (hw : ∀ c ∈ w, isSpace c = true) (b : List Char) :
    words [] (w ++ b) = words [] b := by
  induction w with
  | nil => rfl
  | cons c w ih =>
    have hc := words_append_blank (hw c List.mem_cons_self) [] [] (w ++ b)
    rw [List.nil_append] at hc
    rw [List.cons_append, hc, ih fun d hd => hw d (List.mem_cons_of_mem c hd)]
    rfl

theorem splitArgs_append {a w b : String} (hne : w ≠ "") (hw : ∀ c ∈ w.toList, isSpace c = true) :
    splitArgs (a ++ w ++ b) = splitArgs a ++ splitArgs b := by
  unfold splitArgs
  rw [String.toList_append, String.toList_append]
  cases hblanks : w.toList with
  | nil => exact absurd (String.toList_eq_nil_iff.mp hblanks) hne
  | cons c blanks =>
    rw [hblanks] at hw
    rw [List.append_assoc, List.cons_append, words_append_blank (hw c List.mem_cons_self),
      words_blanks fun d hd => hw d (List.mem_cons_of_mem c hd)]

/-- A word has at least one character and no blank, whatever of it was read before. -/
theorem mem_words {word cs : List Char} (hword : ∀ c ∈ word, isSpace c = false) :
    ∀ arg ∈ words word cs, arg ≠ "" ∧ ∀ c ∈ arg.toList, isSpace c = false := by
  have hwhole : ∀ {l : List Char}, l ≠ [] → (∀ c ∈ l, isSpace c = false) →
      String.ofList l ≠ "" ∧ ∀ c ∈ (String.ofList l).toList, isSpace c = false := by
    intro l hl hall
    rw [String.toList_ofList]
    exact ⟨fun hempty => hl (by simpa using congrArg String.toList hempty), hall⟩
  induction cs generalizing word with
  | nil =>
    unfold words
    by_cases hnil : word = []
    · rw [if_pos hnil]
      exact fun arg harg => absurd harg List.not_mem_nil
    · rw [if_neg hnil, List.forall_mem_singleton]
      exact hwhole hnil hword
  | cons c cs ih =>
    rw [words_cons]
    by_cases hc : isSpace c = true
    · have hrest : ∀ arg ∈ words [] cs, arg ≠ "" ∧ ∀ c ∈ arg.toList, isSpace c = false :=
        ih fun d hd => absurd hd List.not_mem_nil
      rw [if_pos hc]
      by_cases hnil : word = []
      · rw [if_pos hnil]
        exact hrest
      · rw [if_neg hnil, List.forall_mem_cons]
        exact ⟨hwhole hnil hword, hrest⟩
    · rw [if_neg hc]
      refine ih ?_
      rw [List.forall_mem_append, List.forall_mem_singleton]
      exact ⟨hword, Bool.eq_false_iff.mpr hc⟩

/-- **The laws of trimming and splitting.** -/
theorem texts_come_apart :
    (∀ s, trimString (trimString s) = trimString s) ∧
      (∀ s inner, Strips isSpace s inner ↔ trimString s = inner) ∧
      (∀ k v, ':' ∉ k → splitStringInTwo (k ++ ':' :: v) =
        (String.ofList (trimString k), String.ofList (trimString v))) ∧
      (∀ s, ':' ∉ s → splitStringInTwo s = (String.ofList (trimString s), "")) ∧
      (∀ a w b : String, w ≠ "" → (∀ c ∈ w.toList, isSpace c = true) →
        splitArgs (a ++ w ++ b) = splitArgs a ++ splitArgs b) ∧
      ∀ s, ∀ arg ∈ splitArgs s, arg ≠ "" ∧ ∀ c ∈ arg.toList, isSpace c = false := by
  refine ⟨fun s => ?_, fun s inner => strips_iff, fun k v hk => splitStringInTwo_colon hk v,
    fun s hs => splitStringInTwo_none hs, fun a w b hne hw => splitArgs_append hne hw,
    fun s => mem_words fun c hc => absurd hc List.not_mem_nil⟩
  rw [trimString_eq, trimString_eq]
  exact strip_strip isSpace s

end Pdm
