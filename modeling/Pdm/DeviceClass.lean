/-
A uevent as the handlers see it.

`DeviceClass` keeps a map from udev property names to values and reads it with
`operator[]`, so a property the event does not carry reads as the empty string.
The map is modelled by a record with one field for each getter the modelled code
calls, under the getter's name without its `get`, and the empty string as every
field's default.  `DeviceClassFactory` has already cut `/dev/` off `DEVNAME`.
-/
import Pdm.Common

namespace Pdm

/-- `DeviceClass` and its subclasses: the properties of one uevent. -/
structure DeviceClass where
  /-- `ACTION` -/
  action : String := ""
  /-- `DEVTYPE` -/
  devType : String := ""
  /-- `SUBSYSTEM` -/
  subsystemName : String := ""
  /-- `DEVPATH`, the sysfs path of the device node the event is about -/
  devPath : String := ""
  /-- `DEVNAME`, without `/dev/` -/
  devName : String := ""
  /-- `DEVNUM` -/
  devNumber : String := ""
  /-- `BUSNUM` -/
  busNum : String := ""
  /-- `ID_USB_INTERFACES` -/
  interfaceClass : String := ""
  /-- `ID_USB_DRIVER` -/
  usbDriver : String := ""
  /-- `ID_SERIAL_SHORT` -/
  idSerilShort : String := ""
  /-- `ID_MODEL` -/
  idModel : String := ""
  /-- `ID_VENDOR` -/
  idVendor : String := ""
  /-- `ID_VENDOR_FROM_DATABASE` -/
  idVendorFromDataBase : String := ""
  /-- `isPowerOnConnect`, set by the factory and not by udev -/
  isPowerOnConnect : String := ""
  /-- `SPEED` -/
  speed : String := ""
  /-- `ID_BLACKLIST` -/
  idBlackList : String := ""
  /-- `ID_FS_TYPE` -/
  fsType : String := ""
  /-- `ID_FS_UUID` -/
  fsUuid : String := ""
  /-- `ID_FS_LABEL_ENC` -/
  fsLabelEnc : String := ""
  /-- `ID_ATA` -/
  hardDisk : String := ""
  /-- `HARD_DISK` -/
  isHardDisk : String := ""
  /-- `CARD_READER` -/
  isCardReader : String := ""
  /-- `READ_ONLY` -/
  isReadOnly : String := ""
  /-- `DISK_MEDIA_CHANGE` -/
  isDiskMediaChange : String := ""
  /-- `ID_INSTANCE` -/
  idInstance : String := ""
  /-- `ID_BLACK_LISTED_SUPER_SPEED_DEVICE` -/
  idBlackListedSuperSpeedDev : String := ""
  /-- `ID_MEDIA_PLAYER` -/
  mediaPlayerId : String := ""
  /-- `DEVLINKS` -/
  devLinks : String := ""
  /-- `PROCESSED` -/
  processed : String := ""
  /-- `ID_GAMEPAD` -/
  gamepadId : String := ""
  /-- `ID_BLUETOOTH` -/
  bluetoothId : String := ""
  /-- `ID_USB_SERIAL` -/
  usbSerialId : String := ""
  /-- `USB_SERIAL_SUB_TYPE` -/
  usbSerialSubType : String := ""
  /-- `ID_USB_MODEM_DONGLE` -/
  usbModemId : String := ""
  /-- `NET_IFIINDEX` -/
  netIfIndex : String := ""
  /-- `NET_LINK_MODE` -/
  netLinkMode : String := ""
  /-- `NET_DUPLEX` -/
  netDuplex : String := ""
  /-- `NET_ADDRESS` -/
  netAddress : String := ""
  /-- `NET_OPERSTATE` -/
  netOperState : String := ""
  /-- `CARD_ID` -/
  cardId : String := ""
  /-- `CARD_NAME` -/
  cardName : String := ""
  /-- `CARD_NUMBER` -/
  cardNumber : String := ""
  /-- `ID_V4L_CAPABILITIES` -/
  capabilities : String := ""
  /-- `ID_V4L_PRODUCT` -/
  v4lProductName : String := ""
  /-- `ID_V4L_VERSION` -/
  v4lVersion : String := ""
  deriving DecidableEq, Repr

end Pdm
