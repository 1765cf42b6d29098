import Mathlib.Data.List.Basic

/-!
# Types of devices and interfaces

A policy names types by class, subclass and protocol (`usb_interface_type.h`). Two tables give the types
that the type policy knows, `d_typeMap` for devices and `g_typeMap` for interfaces, and the value -1
in a table stands for any subclass or protocol.
-/

namespace UsbManager.Policy

inductive InterfaceType where
  | interface
  | storage
  | audio
  | hid
  | physical
  | image
  | printer
  | communication
  | fullSpeedHub
  | fullSpeedHubS
  | fullSpeedHubM
  | cdcData
  | smartCard
  | contentSecurtiy
  | video
  | personalHealthcare
  | avcontrol
  | avvStreaming
  | avaStreaming
  | billboard
  | typecBridge
  | bdp
  | mctpMana1
  | mctpMana2
  | mctpHost1
  | mctpHost2
  | i3c
  | diagnostic1
  | diagnostic2
  | diagnostic3
  | diagnostic4
  | diagnostic5
  | diagnostic6
  | diagnostic7
  | diagnostic8
  | diagnostic9
  | diagnostic10
  | diagnostic11
  | diagnostic12
  | diagnostic13
  | diagnostic14
  | wirlessController1
  | wirlessController2
  | wirlessController3
  | wirlessController4
  | wirlessController5
  | wirlessController6
  | wirlessController7
  | miscellaneous1
  | miscellaneous2
  | miscellaneous3
  | miscellaneous4
  | miscellaneous5
  | miscellaneous6
  | miscellaneous7
  | miscellaneous8
  | miscellaneous9
  | miscellaneous10
  | miscellaneous11
  | miscellaneous12
  | miscellaneous13
  | miscellaneous14
  | miscellaneous15
  | miscellaneous16
  | miscellaneous17
  | miscellaneous18
  | miscellaneous19
  | applicationSpe1
  | applicationSpe2
  | applicationSpe3
  | applicationSpe4
  | vendorSpecific
  deriving DecidableEq, Repr

/-- The three values of a row of a table. -/
structure TypeValues where
  baseClass : Int
  subClass : Int
  protocol : Int
  deriving DecidableEq, Repr

abbrev TypeRow := InterfaceType × TypeValues

def dTypeMap : List TypeRow := [
  (.interface, ⟨0, 0, 0⟩),
  (.communication, ⟨2, -1, -1⟩),
  (.fullSpeedHub, ⟨9, 0, 0⟩),
  (.fullSpeedHubS, ⟨9, 0, 1⟩),
  (.fullSpeedHubM, ⟨9, 0, 2⟩),
  (.billboard, ⟨17, 0, 0⟩),
  (.diagnostic1, ⟨220, 1, 1⟩),
  (.diagnostic2, ⟨220, 2, 0⟩),
  (.diagnostic3, ⟨220, 2, 1⟩),
  (.diagnostic4, ⟨220, 3, 0⟩),
  (.diagnostic5, ⟨220, 3, 1⟩),
  (.diagnostic6, ⟨220, 4, 0⟩),
  (.diagnostic7, ⟨220, 4, 1⟩),
  (.diagnostic8, ⟨220, 5, 0⟩),
  (.diagnostic9, ⟨220, 5, 1⟩),
  (.diagnostic10, ⟨220, 6, 0⟩),
  (.diagnostic11, ⟨220, 6, 1⟩),
  (.diagnostic12, ⟨220, 7, 0⟩),
  (.diagnostic13, ⟨220, 7, 1⟩),
  (.diagnostic14, ⟨220, 8, 0⟩),
  (.miscellaneous1, ⟨239, 1, 1⟩),
  (.miscellaneous2, ⟨239, 1, 2⟩),
  (.miscellaneous3, ⟨239, 2, 1⟩),
  (.miscellaneous4, ⟨239, 2, 2⟩),
  (.vendorSpecific, ⟨255, -1, -1⟩)]

def gTypeMap : List TypeRow := [
  (.audio, ⟨1, -1, -1⟩),
  (.communication, ⟨2, -1, -1⟩),
  (.hid, ⟨3, -1, -1⟩),
  (.physical, ⟨5, -1, -1⟩),
  (.image, ⟨6, 1, 1⟩),
  (.printer, ⟨7, -1, -1⟩),
  (.storage, ⟨8, -1, -1⟩),
  (.cdcData, ⟨10, -1, -1⟩),
  (.smartCard, ⟨11, -1, -1⟩),
  (.contentSecurtiy, ⟨13, 0, 0⟩),
  (.video, ⟨14, -1, -1⟩),
  (.personalHealthcare, ⟨15, -1, -1⟩),
  (.avcontrol, ⟨16, 1, 0⟩),
  (.avvStreaming, ⟨16, 2, 0⟩),
  (.avaStreaming, ⟨16, 3, 0⟩),
  (.typecBridge, ⟨18, 0, 0⟩),
  (.bdp, ⟨19, 0, 0⟩),
  (.mctpMana1, ⟨20, 0, 1⟩),
  (.mctpMana2, ⟨20, 0, 2⟩),
  (.mctpHost1, ⟨20, 1, 1⟩),
  (.mctpHost2, ⟨20, 1, 2⟩),
  (.i3c, ⟨60, 0, 0⟩),
  (.diagnostic1, ⟨220, 1, 1⟩),
  (.diagnostic2, ⟨220, 2, 0⟩),
  (.diagnostic3, ⟨220, 2, 1⟩),
  (.diagnostic4, ⟨220, 3, 0⟩),
  (.diagnostic5, ⟨220, 3, 1⟩),
  (.diagnostic6, ⟨220, 4, 0⟩),
  (.diagnostic7, ⟨220, 4, 1⟩),
  (.diagnostic8, ⟨220, 5, 0⟩),
  (.diagnostic9, ⟨220, 5, 1⟩),
  (.diagnostic10, ⟨220, 6, 0⟩),
  (.diagnostic11, ⟨220, 6, 1⟩),
  (.diagnostic12, ⟨220, 7, 0⟩),
  (.diagnostic13, ⟨220, 7, 1⟩),
  (.diagnostic14, ⟨220, 8, 0⟩),
  (.wirlessController1, ⟨224, 1, 1⟩),
  (.wirlessController2, ⟨224, 1, 2⟩),
  (.wirlessController3, ⟨224, 1, 3⟩),
  (.wirlessController4, ⟨224, 1, 4⟩),
  (.wirlessController5, ⟨224, 2, 1⟩),
  (.wirlessController6, ⟨224, 2, 2⟩),
  (.wirlessController7, ⟨224, 2, 3⟩),
  (.miscellaneous1, ⟨239, 1, 1⟩),
  (.miscellaneous2, ⟨239, 1, 2⟩),
  (.miscellaneous5, ⟨239, 3, 1⟩),
  (.miscellaneous6, ⟨239, 4, 1⟩),
  (.miscellaneous7, ⟨239, 4, 2⟩),
  (.miscellaneous8, ⟨239, 4, 3⟩),
  (.miscellaneous9, ⟨239, 4, 4⟩),
  (.miscellaneous10, ⟨239, 4, 5⟩),
  (.miscellaneous11, ⟨239, 4, 6⟩),
  (.miscellaneous12, ⟨239, 4, 7⟩),
  (.miscellaneous13, ⟨239, 5, 0⟩),
  (.miscellaneous14, ⟨239, 5, 1⟩),
  (.miscellaneous15, ⟨239, 5, 2⟩),
  (.miscellaneous16, ⟨239, 6, 1⟩),
  (.miscellaneous17, ⟨239, 6, 2⟩),
  (.miscellaneous18, ⟨239, 7, 1⟩),
  (.miscellaneous19, ⟨239, 7, 2⟩),
  (.applicationSpe1, ⟨254, 1, 1⟩),
  (.applicationSpe2, ⟨254, 2, 0⟩),
  (.applicationSpe3, ⟨254, 3, 0⟩),
  (.applicationSpe4, ⟨254, 3, 1⟩),
  (.vendorSpecific, ⟨255, -1, -1⟩)]

structure UsbDeviceType where
  baseClass : Int := 0
  subClass : Int := 0
  protocol : Int := 0
  isDeviceType : Bool := false
  isDeviceTypeAllMatch : Bool := false
  deriving DecidableEq, Repr

structure UsbDeviceId where
  productId : Int
  vendorId : Int
  deriving DecidableEq, Repr

def baseClassHub : Int := 9
def storageBaseClass : Int := 8
def randomValueIndicate : Int := -1

/-- The values of a type match the pattern, in which -1 is any value. -/
def TypeValues.matches (pattern : TypeValues) (baseClass subClass protocol : Int) : Bool :=
  baseClass = pattern.baseClass &&
    (subClass = pattern.subClass || pattern.subClass = randomValueIndicate) &&
    (protocol = pattern.protocol || pattern.protocol = randomValueIndicate)

/-- The type of a policy as a pattern. -/
def UsbDeviceType.values (type : UsbDeviceType) : TypeValues := ⟨type.baseClass, type.subClass, type.protocol⟩

/-- `FindMatchingTypes`: for each type of the policy the first row that it belongs to. -/
def findMatchingTypes (map : List TypeRow) (isDev : Bool) (disableType : List UsbDeviceType) : List InterfaceType :=
  disableType.filterMap fun dev =>
    if dev.isDeviceType = isDev then
      (map.find? fun row => row.2.matches dev.baseClass dev.subClass dev.protocol).map (·.1)
    else none

end UsbManager.Policy
