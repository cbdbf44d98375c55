/-
The number of a sound card, and what a path says of it.

A path names a card by a component `card<N>`.  The code searches backwards for the text
`/card` and takes the digits behind it; what it finds is the last component that begins with
`card`, whether or not it is one that names a card.
-/
import Mathlib.Data.List.TakeWhile
import Pdm.Devices.UsbDevices
import Pdm.Lib.Components

namespace Pdm

open Components

/-! ### Components that name a card -/

/-- The digits of a component `card<N>`. -/
def cardNode? (c : List Char) : Option (List Char) :=
  if "card".toList.isPrefixOf c && !(c.drop 4).isEmpty && (c.drop 4).all Char.isDigit then
    some (c.drop 4)
  else none

/-- The digits of the last component of the path that names a card. -/
def cardOfPath (path : String) : List Char :=
  ((path.toList.splitOn '/').filterMap cardNode?).getLastD []

/-- The number of the card: the property, or what the path says. -/
def cardNumberOf (devClass : DeviceClass) : String :=
  if devClass.cardNumber ≠ "" then devClass.cardNumber
  else String.ofList (cardOfPath devClass.devPath)

/-- The components behind a `/` that begin with `card`. -/
def namedCards (path : String) : List (List Char) :=
  (path.toList.splitOn '/').tail.filter ("card".toList.isPrefixOf ·)

/-- The digits such a component begins with. -/
def leadingDigits (c : List Char) : List Char := (c.drop 4).takeWhile Char.isDigit

/-- The last component that begins with `card` names a card, or leads to the same digits; and
where there is none, the path does not begin with a card. -/
def CardClear (path : String) : Prop :=
  match (namedCards path).getLast? with
  | some c => (cardNode? c).isSome = true ∨ leadingDigits c = cardOfPath path
  | none => cardNode? ((path.toList.splitOn '/').headD []) = none

theorem cardNode?_eq_some {c digits : List Char} (h : cardNode? c = some digits) :
    "card".toList.isPrefixOf c = true ∧ digits ≠ [] ∧ leadingDigits c = digits := by
  unfold cardNode? at h
  split at h
  · next hcard =>
    rw [Bool.and_eq_true, Bool.and_eq_true, List.all_eq_true] at hcard
    obtain ⟨⟨hstarts, hne⟩, hdigits⟩ := hcard
    obtain rfl := Option.some.inj h
    refine ⟨hstarts, by simpa using hne, ?_⟩
    unfold leadingDigits
    rw [List.takeWhile_eq_self_iff]
    exact hdigits
  · cases h

/-! ### What the search finds -/

theorem takeWhile_isDigit_append (l r : List Char) (hr : r = [] ∨ ∃ r', r = '/' :: r') :
    (l ++ r).takeWhile Char.isDigit = l.takeWhile Char.isDigit := by
  have hstop : r.takeWhile Char.isDigit = [] := by
    rcases hr with rfl | ⟨r', rfl⟩
    · rfl
    · exact List.takeWhile_cons_of_neg (by decide)
  rw [List.takeWhile_append, hstop]
  split
  · next h =>
    rw [List.append_nil]
    exact ((List.takeWhile_prefix _).eq_of_length h).symm
  · rfl

/-- The digits behind the last `/card` are those of the last component that begins so. -/
theorem getCardNumber_of_path {devClass : DeviceClass} (h : devClass.cardNumber = "") :
    getCardNumber devClass
      = String.ofList (((namedCards devClass.devPath).map leadingDigits).getLastD []) := by
  have hread : ∀ c r : List Char, "card".toList <+: c → (r = [] ∨ ∃ r', r = '/' :: r') →
      (('/' :: (c ++ r)).drop 5).takeWhile Char.isDigit = leadingDigits c := by
    intro c r hstarts hr
    have hlength : 4 ≤ c.length := hstarts.length_le
    have hdrop : ('/' :: (c ++ r)).drop 5 = c.drop 4 ++ r := by
      rw [List.drop_succ_cons, List.drop_append_of_le_length hlength]
    rw [hdrop, takeWhile_isDigit_append _ _ hr]
    rfl
  have hfound := occurrences (by decide : '/' ∉ "card".toList)
    (fun t => (t.drop 5).takeWhile Char.isDigit) leadingDigits hread devClass.devPath.toList
  have hslash : "/card".toList = '/' :: "card".toList := rfl
  unfold getCardNumber namedCards
  rw [if_neg (by simp [h]), ← hfound, hslash]
  cases devClass.devPath.toList.tails.filter (('/' :: "card".toList).isPrefixOf ·) with
  | nil => rfl
  | cons t ts =>
    dsimp only
    rw [List.getLastD_eq_getLast?, List.getLastD_eq_getLast?, List.getLast?_map,
      List.getLast?_eq_some_getLast (List.cons_ne_nil t ts)]
    rfl

/-! ### What the components say -/

/-- A component that names a card begins with `card`. -/
theorem filterMap_cardNode? (cs : List (List Char)) :
    (cs.filter ("card".toList.isPrefixOf ·)).filterMap cardNode? = cs.filterMap cardNode? := by
  induction cs with
  | nil => rfl
  | cons c cs ih =>
    by_cases hc : "card".toList.isPrefixOf c = true
    · rw [List.filter_cons_of_pos hc, List.filterMap_cons, List.filterMap_cons, ih]
    · have hnone : cardNode? c = none := by
        cases h : cardNode? c with
        | none => rfl
        | some digits => exact absurd (cardNode?_eq_some h).1 hc
      rw [List.filter_cons_of_neg hc, List.filterMap_cons, hnone, ih]

/-- The last component that begins with `card` is the last that can name a card. -/
theorem cardOfPath_of_named {path : String} {named : List (List Char)} {c digits : List Char}
    (hnamed : namedCards path = named ++ [c]) (hc : cardNode? c = some digits) :
    cardOfPath path = digits := by
  obtain ⟨first, rest, hsplit⟩ :=
    List.exists_cons_of_ne_nil (List.splitOn_ne_nil '/' path.toList)
  have htail := filterMap_cardNode? (path.toList.splitOn '/').tail
  unfold namedCards at hnamed
  rw [hnamed, List.filterMap_append, List.filterMap_cons, hc, List.filterMap_nil] at htail
  unfold cardOfPath
  rw [hsplit] at htail ⊢
  rw [List.tail_cons] at htail
  rw [← List.singleton_append, List.filterMap_append, ← htail, ← List.append_assoc,
    List.getLastD_concat]

/-- Without such a component the first one is all that is left. -/
theorem cardOfPath_of_unnamed {path : String} (h : namedCards path = []) :
    cardOfPath path = (cardNode? ((path.toList.splitOn '/').headD [])).getD [] := by
  obtain ⟨first, rest, hsplit⟩ :=
    List.exists_cons_of_ne_nil (List.splitOn_ne_nil '/' path.toList)
  have htail := filterMap_cardNode? (path.toList.splitOn '/').tail
  unfold namedCards at h
  rw [h, List.filterMap_nil] at htail
  unfold cardOfPath
  rw [hsplit] at htail ⊢
  rw [List.tail_cons] at htail
  rw [List.filterMap_cons, ← htail]
  cases hfirst : cardNode? first with
  | none => simp [hfirst]
  | some digits => simp [hfirst]

/--
**When the number of a card is recovered.**

The property says it, or the last component that begins with `card` does not mislead.
-/
theorem getCardNumber_iff (devClass : DeviceClass) :
    getCardNumber devClass = cardNumberOf devClass ↔
      devClass.cardNumber ≠ "" ∨ CardClear devClass.devPath := by
  by_cases hproperty : devClass.cardNumber = ""
  · rw [or_iff_right (by simp [hproperty]), getCardNumber_of_path hproperty]
    unfold cardNumberOf CardClear
    rw [if_neg (by simp [hproperty]), String.ofList_inj]
    rcases List.eq_nil_or_concat (namedCards devClass.devPath) with hnone | ⟨named, c, hnamed⟩
    · rw [hnone, cardOfPath_of_unnamed hnone]
      cases hfirst : cardNode? ((devClass.devPath.toList.splitOn '/').headD []) with
      | none => simp
      | some digits => simpa using (cardNode?_eq_some hfirst).2.1.symm
    · rw [List.concat_eq_append] at hnamed
      rw [hnamed, List.map_append, List.map_singleton, List.getLastD_concat,
        List.getLast?_concat]
      dsimp only
      cases hc : cardNode? c with
      | none => simp
      | some digits =>
        rw [cardOfPath_of_named hnamed hc]
        simp [(cardNode?_eq_some hc).2.2]
  · have hget : getCardNumber devClass = devClass.cardNumber := if_pos hproperty
    have hspec : cardNumberOf devClass = devClass.cardNumber := if_pos hproperty
    rw [hget, hspec]
    exact ⟨fun _ => Or.inl hproperty, fun _ => rfl⟩

/-- A component that only begins as a card does hides the card. -/
theorem cardinal_hides_card :
    ¬ ∀ devClass : DeviceClass, getCardNumber devClass = cardNumberOf devClass := by
  intro h
  have hcard := h { action := "add", devPath := "/devices/platform/sound/card1/cardinal" }
  revert hcard
  decide

end Pdm
