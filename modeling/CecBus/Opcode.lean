import CecBus.Text.Numeral

/-! The opcodes of the bus protocol, each with its byte in frames and its name in control messages. -/

namespace CecBus

/-- What a frame asks for or tells. -/
inductive Opcode where
  | featureAbort
  | imageViewOn
  | tunerStepIncrement
  | tunerStepDecrement
  | tunerDeviceStatus
  | giveTunerDeviceStatus
  | recordOn
  | recordStatus
  | recordOff
  | textViewOn
  | recordTvScreen
  | giveDeckStatus
  | deckStatus
  | setMenuLanguage
  | standby
  | play
  | deckControl
  | userControlPressed
  | userControlReleased
  | giveOsdName
  | setOsdName
  | setOsdString
  | systemAudioModeRequest
  | giveAudioStatus
  | setSystemAudioMode
  | reportAudioStatus
  | giveSystemAudioModeStatus
  | systemAudioModeStatus
  | routingChange
  | routingInformation
  | activeSource
  | givePhysicalAddress
  | reportPhysicalAddress
  | requestActiveSource
  | setStreamPath
  | deviceVendorId
  | giveDeviceVendorId
  | giveDevicePowerStatus
  | reportPowerStatus
  | getMenuLanguage
  | selectAnalogueService
  | selectDigitalService
  | setAudioRate
  | inactiveSource
  | cecVersion
  | getCecVersion
  | giveFeatures
  | reportFeatures
  | initiateArc
  | reportArcInitiated
  | reportArcTerminated
  | requestArcInitiation
  | requestArcTermination
  | terminateArc
  deriving DecidableEq, Repr

namespace Opcode

/-- One row of the table: the byte of an opcode, its name, and the word diagnostics show for it. -/
structure Row where
  byte : UInt8
  name : String
  word : String

/-- The row of an opcode. -/
def row : Opcode → Row
  | featureAbort => ⟨0x00, "FeatureAbort", "FeatureAbort"⟩
  | imageViewOn => ⟨0x04, "ImageViewOn", "ImageViewOn"⟩
  | tunerStepIncrement => ⟨0x05, "TunerStepIncrement", "TunerStepIncrement"⟩
  | tunerStepDecrement => ⟨0x06, "TunerStepDecrement", "TunerStepDecrement"⟩
  | tunerDeviceStatus => ⟨0x07, "TunerDeviceStatus", "TunerDeviceStatus"⟩
  | giveTunerDeviceStatus => ⟨0x08, "GiveTunerDeviceStatus", "GiveTunerDeviceStatus"⟩
  | recordOn => ⟨0x09, "RecordOn", "RecordOn"⟩
  | recordStatus => ⟨0x0A, "RecordStatus", "RecordStatus"⟩
  | recordOff => ⟨0x0B, "RecordOff", "RecordOff"⟩
  | textViewOn => ⟨0x0D, "TextViewOn", "TextViewOn"⟩
  | recordTvScreen => ⟨0x0F, "RecordTVScreen", "RecordTvScreen"⟩
  | giveDeckStatus => ⟨0x1A, "GiveDeckStatus", "GiveDeckStatus"⟩
  | deckStatus => ⟨0x1B, "DeckStatus", "DeckStatus"⟩
  | setMenuLanguage => ⟨0x32, "SetMenuLanguage", "SetMenuLanguage"⟩
  | standby => ⟨0x36, "StandBy", "Standby"⟩
  | play => ⟨0x41, "Play", "Play"⟩
  | deckControl => ⟨0x42, "DeckControl", "DeckControl"⟩
  | userControlPressed => ⟨0x44, "UserControlPressed", "UserControlPressed"⟩
  | userControlReleased => ⟨0x45, "UserControlReleased", "UserControlReleased"⟩
  | giveOsdName => ⟨0x46, "GiveOSDName", "GiveOsdName"⟩
  | setOsdName => ⟨0x47, "SetOSDName", "SetOsdName"⟩
  | setOsdString => ⟨0x64, "SetOSDString", "SetOsdString"⟩
  | systemAudioModeRequest => ⟨0x70, "SystemAudioModeRequest", "SystemAudioModeRequest"⟩
  | giveAudioStatus => ⟨0x71, "GiveAudioStatus", "GiveAudioStatus"⟩
  | setSystemAudioMode => ⟨0x72, "SetSystemAudioMode", "SetSystemAudioMode"⟩
  | reportAudioStatus => ⟨0x7A, "ReportAudioStatus", "ReportAudioStatus"⟩
  | giveSystemAudioModeStatus => ⟨0x7D, "GiveSystemAudioModeStatus", "GiveSystemAudioModeStatus"⟩
  | systemAudioModeStatus => ⟨0x7E, "SystemAudioModeStatus", "SystemAudioModeStatus"⟩
  | routingChange => ⟨0x80, "RoutingChange", "RoutingChange"⟩
  | routingInformation => ⟨0x81, "RoutingInformation", "RoutingInformation"⟩
  | activeSource => ⟨0x82, "ActiveSource", "ActiveSource"⟩
  | givePhysicalAddress => ⟨0x83, "GivePhysicalAddress", "GivePhysicalAddress"⟩
  | reportPhysicalAddress => ⟨0x84, "ReportPhysicalAddress", "ReportPhysicalAddress"⟩
  | requestActiveSource => ⟨0x85, "RequestActiveSource", "RequestActiveSource"⟩
  | setStreamPath => ⟨0x86, "SetStreamPath", "SetStreamPath"⟩
  | deviceVendorId => ⟨0x87, "DeviceVendorID", "DeviceVendorId"⟩
  | giveDeviceVendorId => ⟨0x8C, "GiveDeviceVendorID", "GiveDeviceVendorId"⟩
  | giveDevicePowerStatus => ⟨0x8F, "GiveDevicePowerStatus", "GiveDevicePowerStatus"⟩
  | reportPowerStatus => ⟨0x90, "ReportPowerStatus", "ReportPowerStatus"⟩
  | getMenuLanguage => ⟨0x91, "GetMenuLanguage", "GetMenuLanguage"⟩
  | selectAnalogueService => ⟨0x92, "SelectAnalogueService", "SelectAnalogueService"⟩
  | selectDigitalService => ⟨0x93, "SelectDigitalService", "SelectDigitalService"⟩
  | setAudioRate => ⟨0x9A, "SetAudioRate", "SetAudioRate"⟩
  | inactiveSource => ⟨0x9D, "InactiveSource", "InactiveSource"⟩
  | cecVersion => ⟨0x9E, "CECVersion", "CecVersion"⟩
  | getCecVersion => ⟨0x9F, "GetCECVersion", "GetCecVersion"⟩
  | giveFeatures => ⟨0xA5, "GiveFeatures", "GiveFeatures"⟩
  | reportFeatures => ⟨0xA6, "ReportFeatures", "ReportFeatures"⟩
  | initiateArc => ⟨0xC0, "InitiateARC", "InitiateArc"⟩
  | reportArcInitiated => ⟨0xC1, "ReportARCInitiated", "ReportArcInitiated"⟩
  | reportArcTerminated => ⟨0xC2, "ReportARCTerminated", "ReportArcTerminated"⟩
  | requestArcInitiation => ⟨0xC3, "RequestARCInitiation", "RequestArcInitiation"⟩
  | requestArcTermination => ⟨0xC4, "RequestARCTermination", "RequestArcTermination"⟩
  | terminateArc => ⟨0xC5, "TerminateARC", "TerminateArc"⟩

/-- Every opcode, by ascending byte. -/
def all : List Opcode := [
  featureAbort, imageViewOn, tunerStepIncrement, tunerStepDecrement, tunerDeviceStatus,
  giveTunerDeviceStatus, recordOn, recordStatus, recordOff, textViewOn, recordTvScreen,
  giveDeckStatus, deckStatus, setMenuLanguage, standby, play, deckControl, userControlPressed,
  userControlReleased, giveOsdName, setOsdName, setOsdString, systemAudioModeRequest,
  giveAudioStatus, setSystemAudioMode, reportAudioStatus, giveSystemAudioModeStatus,
  systemAudioModeStatus, routingChange, routingInformation, activeSource, givePhysicalAddress,
  reportPhysicalAddress, requestActiveSource, setStreamPath, deviceVendorId, giveDeviceVendorId,
  giveDevicePowerStatus, reportPowerStatus, getMenuLanguage, selectAnalogueService,
  selectDigitalService, setAudioRate, inactiveSource, cecVersion, getCecVersion, giveFeatures,
  reportFeatures, initiateArc, reportArcInitiated, reportArcTerminated, requestArcInitiation,
  requestArcTermination, terminateArc]

def byte (o : Opcode) : UInt8 := o.row.byte

def name (o : Opcode) : String := o.row.name

def word (o : Opcode) : String := o.row.word

def ofByte? (b : UInt8) : Option Opcode := all.find? (·.byte = b)

def ofName? (name : String) : Option Opcode := all.find? (·.name = name)

def text (o : Opcode) : String := o.name ++ "(0x" ++ Hex.padded 2 o.byte.toNat ++ ")"

@[simp] theorem ofByte?_byte (o : Opcode) : ofByte? o.byte = some o := by cases o <;> rfl

end Opcode

end CecBus
