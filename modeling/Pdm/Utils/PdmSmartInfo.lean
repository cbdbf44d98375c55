/-
`PdmSmartInfo`: what smartctl prints of a disk, parsed and logged.

The text comes from a shell command.  A search gives a position that is kept in an `int`; `none`
stands for a `substr` from beyond the end, which throws, and for an index beyond the end of
a vector.  The devices' health, which is logged as smartctl words it, is left out.
-/
import Pdm.Common
import Pdm.Lib.Lines

namespace Pdm

open Lines

/-! ### `PdmUtils` on texts -/

def rtrimString (cs : List Char) : List Char := (cs.reverse.dropWhile isSpace).reverse

def ltrimString (cs : List Char) : List Char := cs.dropWhile isSpace

def trimString (cs : List Char) : List Char := ltrimString (rtrimString cs)

/-- `PdmUtils::splitStringInTwo`, at the first colon. -/
def splitStringInTwo (stringToSplit : List Char) : String × String :=
  match stringToSplit.findIdx? (· = ':') with
  | some pos =>
    (String.ofList (trimString (stringToSplit.take pos)),
      String.ofList (trimString (stringToSplit.drop (pos + 1))))
  | none => (String.ofList (trimString stringToSplit), "")

example : splitStringInTwo "Model Family: SanDisk".toList = ("Model Family", "SanDisk") := by decide
example : splitStringInTwo "no colon here".toList = ("no colon here", "") := by decide

/-! ### Positions -/

/-- A sum that is kept in an `int`. -/
def wrapInt (n : Int) : Int := n.bmod (2 ^ 32)

theorem wrapInt_add (a b : Int) : wrapInt (wrapInt a + b) = wrapInt (a + b) := by
  unfold wrapInt
  rw [Int.bmod_add_bmod]

/-- What a search has found, in an `int`: `npos` becomes -1. -/
def intPos : Option Nat → Int
  | some pos => wrapInt pos
  | none => -1

/-- `s.find(needle)` -/
def findText (needle : List Char) (s : List Char) : Option Nat :=
  s.tails.findIdx? (needle.isPrefixOf ·)

/-- `s.find_last_of(set)`: the last of any of these characters. -/
def findLastOf (set s : List Char) : Option Nat :=
  (s.reverse.findIdx? (· ∈ set)).map fun pos => s.length - 1 - pos

/-- `s.substr(pos)`: a negative position is beyond any end. -/
def substr (s : List Char) (pos : Int) : Option (List Char) :=
  if 0 ≤ pos ∧ pos ≤ s.length then some (s.drop pos.toNat) else none

/-! ### The class -/

structure PdmSmartInfo where
  m_smartdeviceInfoMap : List (String × String) := []
  m_attributeInfo : List (List String) := []
  deriving DecidableEq, Repr

namespace PdmSmartInfo

/-- `PdmSmartInfo::pdmSmartGetDeviceInfo`, with what the command printed. -/
def pdmSmartGetDeviceInfo (info : PdmSmartInfo) (result : String) : Option PdmSmartInfo :=
  if result = "" then some info
  else
    let pos := intPos (findLastOf "===".toList result.toList)
    (substr result.toList (wrapInt (pos + 1))).map fun subString =>
      { info with
        m_smartdeviceInfoMap :=
          ((written subString).map splitStringInTwo).foldl insertNew info.m_smartdeviceInfoMap }

def attributeHeaders : List String :=
  ["ID", "ATTRIBUTE_NAME", "FLAG", "VALUE", "WORST", "THRESH", "TYPE", "UPDATED", "WHEN_FAILED",
   "RAW_VALUE"]

def importantAttributeInfoId : List String :=
  ["1", "5", "7", "10", "184", "187", "188", "196", "197", "198", "199", "201"]

/-- `PdmSmartInfo::pdmSmartGetAttributes`.  Each row is inserted before the one read last. -/
def pdmSmartGetAttributes (info : PdmSmartInfo) (result : String) : Option PdmSmartInfo :=
  if result = "" then some info
  else
    let attrPos := intPos (findText "RAW_VALUE".toList result.toList)
    (substr result.toList (wrapInt (attrPos + 10))).map fun attrSubString =>
      { info with
        m_attributeInfo :=
          ((written attrSubString).map (words [])).foldl (fun rows row => row :: rows)
            info.m_attributeInfo }

/-- `vectStrings[toBeCopiedIndex] = vectStrings[toBeCopiedIndex] + vectStrings[vIndex]` -/
def appendInto (toBeCopiedIndex : Nat) (vectStrings : List String) (vIndex : Nat) :
    Option (List String) := do
  let last ← vectStrings[toBeCopiedIndex]?
  let extra ← vectStrings[vIndex]?
  some (vectStrings.set toBeCopiedIndex (last ++ extra))

/-- The extra strings of a row are appended to its last item. -/
def mergeExtras (vectStrings : List String) : Option (List String) :=
  if vectStrings.length > attributeHeaders.length then
    let toBeCopiedIndex := attributeHeaders.length - 1
    let extras := List.range' attributeHeaders.length (vectStrings.length - attributeHeaders.length)
    (extras.foldlM (appendInto toBeCopiedIndex) vectStrings).map (·.take (toBeCopiedIndex + 1))
  else some vectStrings

/-- `logString`, from the item at `index` on. -/
def logString (index : Nat) : List String → Option String
  | [] => some ""
  | attr :: rest => do
    let header ← attributeHeaders[index]?
    let tail ← logString (index + 1) rest
    some ("\"" ++ header ++ "\"" ++ " " ++ attr ++ " " ++ tail)

/-- What is logged of a row, and whether as information. -/
def logRow (row : List String) : Option (Bool × String) := do
  let vectStrings ← mergeExtras row
  let text ← logString 0 vectStrings
  let id ← vectStrings[0]?
  some (decide (id ∈ importantAttributeInfoId), text)

/-- `PdmSmartInfo::pdmSmartLogAttributeInfo` -/
def pdmSmartLogAttributeInfo (info : PdmSmartInfo) : Option (List (Bool × String)) :=
  info.m_attributeInfo.mapM logRow

end PdmSmartInfo

end Pdm
