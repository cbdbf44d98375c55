/-
`PdmConfig`, and what is read from it when the daemon starts.

The document is JSON as it was parsed: a category is an array of objects, and `getValue` goes
over all of them.  The caller's value is handed in and out.  A number that is read is taken to
fit an `int`.
-/
import Pdm.Framework.DeviceManager
import Pdm.Lib.Json

namespace Pdm

/-- `enum PdmConfigErrors` of `PdmErrors.h`, in its order. -/
inductive PdmConfigStatus where
  | errorNone
  | errorLoad
  | errorNoCategory
  | errorNoKey
  deriving DecidableEq, Repr

structure PdmConfig where
  m_fileDOM : JValue

namespace PdmConfig

/-- `PdmConfig::readFile`, with what the parser makes of the file. -/
def readFile (parsed : JValue) : PdmConfigStatus × PdmConfig :=
  (if parsed.isObject then .errorNone else .errorLoad, ⟨parsed⟩)

/-- The loop of `getValue` over the items of a category. -/
def getValueLoop (key : String) : JValue → List JValue → PdmConfigStatus × JValue
  | value, [] => (.errorNone, value)
  | value, arrItem :: rest =>
    if arrItem.hasKey key then getValueLoop key (arrItem.get key) rest else (.errorNoKey, value)

/-- `PdmConfig::getValue` -/
def getValue (c : PdmConfig) (category key : String) (value : JValue) :
    PdmConfigStatus × JValue :=
  let categoryObj := c.m_fileDOM.get category
  if categoryObj.isArray = false then (.errorNoCategory, value)
  else getValueLoop key value categoryObj.elements

/-- `Storage::readRootPath` -/
def readRootPath (c : PdmConfig) : String :=
  let r := c.getValue "Common" "RootPath" .null
  if r.1 ≠ .errorNone then "" else if r.2.isString then r.2.asString else ""

/-- `StorageDeviceHandler::readMaxUsbStorageDevices` -/
def readMaxUsbStorageDevices (c : PdmConfig) : Int :=
  let r := c.getValue "Storage" "MaxUsbStorageDevices" .null
  if r.1 ≠ .errorNone then 0 else if r.2.isNumber then r.2.asNumber else 0

/-- The settings the handlers work with; the number of devices is kept in a `size_t`. -/
def settings (c : PdmConfig) : Config where
  rootPath := c.readRootPath
  maxUsbStorageDevices := (c.readMaxUsbStorageDevices % 2 ^ 64).toNat

/-- `getRegisteredHandlers`: a map, so in the order of the names. -/
def registeredHandlers : List (String × HandlerKind) :=
  [("BLUETOOTH", .bluetooth), ("CDC", .cdc), ("GAMEPAD", .gamepad), ("HID", .hid), ("MTP", .mtp),
   ("NFC", .nfc), ("PTP", .ptp), ("SOUND", .sound), ("Storage", .storage), ("VIDEO", .video)]

/-- `DeviceManager::createPdmdeviceList`; with `none` the daemon does not start. -/
def createPdmdeviceList (c : PdmConfig) : Option (List HandlerKind) :=
  let r := c.getValue "Common" "SupportedDevices" .null
  if r.1 ≠ .errorNone then none
  else
    let supportedDevList := (r.2.elements.filter (·.isString)).map (·.asString)
    some ((registeredHandlers.filter (·.1 ∈ supportedDevList)).map (·.2))

end PdmConfig

end Pdm
