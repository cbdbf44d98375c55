/-
`snd-ctl`, which a udev rule runs for the control node of a sound card.

`allocate_elem_ids` is modelled from one `ioctl` to the next: a state of it waits for what the
driver answers, and `step` runs the code up to the next `ioctl` or the `return`.  The list goes
out and comes back as the driver has rewritten it.  A pointer into the array is the place it
points at.
-/
import Mathlib.Data.PNat.Basic
import Pdm.Lib.Schedules

namespace Pdm.SndCtl

/-- `struct snd_ctl_elem_list` -/
structure ElemList where
  offset : UInt32 := 0
  space : UInt32 := 0
  used : UInt32 := 0
  count : UInt32 := 0
  /-- A place in the array that `calloc` gave; `none` is `NULL`. -/
  pids : Option Nat := none
  deriving DecidableEq, Repr

/-- What `SNDRV_CTL_IOCTL_ELEM_LIST` comes to: it fails and sets `errno`, or it says how many
elements there are and how many ids it wrote. -/
inductive ElemListAnswer where
  | fails (errno : ℕ+)
  | lists (count used : UInt32)
  deriving DecidableEq, Repr

/-- The places the driver writes ids to: no more of them than the caller has space for, nor
than there are elements from the offset on. -/
def ElemList.places (list : ElemList) (count used : UInt32) : List Nat :=
  match list.pids with
  | none => []
  | some pids =>
    let written := min used.toNat (min list.space.toNat (count.toNat - list.offset.toNat))
    (List.range written).map (pids + ·)

/-- Where `allocate_elem_ids` stands: at its first `ioctl`, at the one in the loop, or it has
returned. -/
inductive Point where
  | counting
  | reading
  | returned (ret : Int)
  deriving DecidableEq, Repr

structure AllocateElemIds where
  list : ElemList := {}
  /-- The length of the array `ids`, 0 before there is one. -/
  allocated : Nat := 0
  freed : Bool := false
  /-- The places of the array that ids were written to. -/
  written : List Nat := []
  point : Point := .counting
  deriving DecidableEq, Repr

def ENOMEM : Int := 12

namespace AllocateElemIds

/-- The head of the loop: its body up to the `ioctl`, or what comes after the loop. -/
def loopHead (s : AllocateElemIds) : AllocateElemIds :=
  if s.list.offset < s.list.count then
    { s with
      list := { s.list with
        space :=
          if s.list.count - s.list.offset > 1000 then 1000 else s.list.count - s.list.offset
        pids := some s.list.offset.toNat }
      point := .reading }
  else
    { s with
      list := { s.list with pids := some 0, space := s.list.count }
      point := .returned 0 }

/-- `allocate_elem_ids`, from an `ioctl` to the next one; `calloc` says whether there is memory
for the array. -/
def step (calloc : Bool) (s : AllocateElemIds) (answer : ElemListAnswer) :
    Option AllocateElemIds :=
  match s.point, answer with
  | .counting, .fails errno => some { s with point := .returned (-errno) }
  | .counting, .lists count used =>
    let list := { s.list with count := count, used := used }
    if count = 0 then some { s with list := list, point := .returned 0 }
    else if calloc = false then some { s with list := list, point := .returned (-ENOMEM) }
    else
      some (loopHead { s with list := { list with offset := 0 }, allocated := count.toNat })
  | .reading, .fails errno =>
    some { s with list := { s.list with pids := none }, freed := true, point := .returned errno }
  | .reading, .lists count used =>
    some (loopHead
      { s with
        list := { s.list with
          count := count, used := used, offset := s.list.offset + s.list.space }
        written := s.written ++ s.list.places count used })
  | .returned _, _ => none

end AllocateElemIds

/-- `allocate_elem_ids` on the zeroed list that `main` passes; `none` when it has returned
before the last answer. -/
def allocate_elem_ids (calloc : Bool) (answers : List ElemListAnswer) : Option AllocateElemIds :=
  Schedules.run (AllocateElemIds.step calloc) {} answers

def deallocate_elem_ids (s : AllocateElemIds) : AllocateElemIds :=
  if s.list.pids ≠ none then { s with freed := true } else s

/-! ### The program -/

/-- `struct snd_ctl_card_info`, the fields that are printed. -/
structure CardInfo where
  card : Int
  id : String
  driver : String
  name : String
  longname : String
  mixername : String
  components : String
  deriving DecidableEq, Repr

/-- `dump_card_info`: the lines it prints and what it returns. -/
def dump_card_info (strerror : ℕ+ → String) : Except ℕ+ CardInfo → List String × Int
  | .error errno => (["ioctl(2): " ++ strerror errno], -errno)
  | .ok info =>
    (["CARD_NUMBER=" ++ toString info.card,
      "CARD_ID=" ++ info.id,
      "DRIVER=" ++ info.driver,
      "CARD_NAME=" ++ info.name,
      "LONG_NAME=" ++ info.longname,
      "MIXER_NAME=" ++ info.mixername,
      "COMPONENTS=" ++ info.components], 0)

inductive ExitStatus where
  | exitSuccess
  | exitFailure
  deriving DecidableEq, Repr

structure Exit where
  printed : List String
  status : ExitStatus
  /-- What became of the array. -/
  ids : AllocateElemIds
  deriving DecidableEq, Repr

/-- `main`, where `allocate_elem_ids` returns `err` and leaves `ids`.  `opened` is what `open`
comes to. -/
def main (strerror : ℕ+ → String) (argc : Nat) (opened : Except ℕ+ Unit)
    (ids : AllocateElemIds) (err : Int) (info : Except ℕ+ CardInfo) : Exit :=
  if argc < 2 then
    ⟨["At least one argument is required for ALSA control character device."], .exitFailure, {}⟩
  else
    match opened with
    | .error errno => ⟨["open(2): " ++ strerror errno], .exitFailure, {}⟩
    | .ok _ =>
      if err < 0 then ⟨[], .exitFailure, ids⟩
      else
        let dumped := dump_card_info strerror info
        if dumped.2 < 0 then ⟨dumped.1, .exitFailure, ids⟩
        else ⟨dumped.1, .exitSuccess, deallocate_elem_ids ids⟩

end Pdm.SndCtl
