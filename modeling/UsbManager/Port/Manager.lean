import Mathlib.Data.List.Basic
import UsbManager.Service.ErrCode

/-!
# The port manager

`UsbPortManager` keeps the ports in `portMap_`, and what modes they support in `supportedModeMap_` once more.
The driver is asked for the ports at the start and by `GetPorts` while there are none.
-/

namespace UsbManager.Port

open Std (ExtTreeMap)

structure UsbPortStatus where
  currentMode : Int32
  currentPowerRole : Int32
  currentDataRole : Int32
  deriving DecidableEq, Repr

structure UsbPort where
  id : Int32
  supportedModes : Int32
  usbPortStatus : UsbPortStatus
  deriving DecidableEq, Repr

structure UsbPortManager where
  portMap : ExtTreeMap Int32 UsbPort := ∅
  supportedModeMap : ExtTreeMap Int32 Int32 := ∅

def dataRoleHost : Int32 := 1
def dataRoleDevice : Int32 := 2
def portModeDevice : Int32 := 1
def portModeHost : Int32 := 2

/-- `SUPPORTED_MODES` of the driver that has one port. -/
def supportedModes : Int32 := 3

/-- What a query of the ports meets: no driver, one of version 2 with a list of ports, or one of version 1 with one
port. -/
inductive Query where
  | null
  | v2 (ret : UsbErrCode) (portList : List UsbPort)
  | v1 (ret : UsbErrCode) (portId powerRole dataRole mode : Int32)

/-- The code of the query and the ports it hands to `AddPortInfo`. -/
def Query.ports : Query → UsbErrCode × List UsbPort
  | .null => (.uecServiceInvalidValue, [])
  | .v2 ret portList => if ret ≠ .uecOk then (ret, []) else (ret, portList)
  | .v1 ret portId powerRole dataRole mode =>
    if ret ≠ .uecOk then (ret, []) else (ret, [⟨portId, supportedModes, ⟨mode, powerRole, dataRole⟩⟩])

/-- The status after a change of roles; the mode follows the data role. -/
def UsbPortStatus.withRoles (status : UsbPortStatus) (powerRole dataRole : Int32) : UsbPortStatus where
  currentPowerRole := powerRole
  currentDataRole := dataRole
  currentMode :=
    if dataRole = dataRoleHost then portModeHost
    else if dataRole = dataRoleDevice then portModeDevice
    else status.currentMode

namespace UsbPortManager

variable (m : UsbPortManager)

/-- A port whose id is there already is left out. -/
def addPort (port : UsbPort) : UsbPortManager := { m with portMap := m.portMap.insertIfNew port.id port }

def queryPort (query : Query) : UsbErrCode × UsbPortManager := (query.ports.1, query.ports.2.foldl addPort m)

def addSupportedMode : UsbPortManager :=
  { m with
    supportedModeMap := m.portMap.foldl (fun modes portId port => modes.insert portId port.supportedModes) ∅ }

def init (query : Query) : UsbPortManager := (m.queryPort query).2.addSupportedMode

/-- Its result is the code and the ports that it appends. -/
def getPorts (query : Query) : (UsbErrCode × List UsbPort) × UsbPortManager :=
  if 0 < m.portMap.size then ((.uecOk, m.portMap.toList.map (·.2)), m)
  else
    let (ret, queried) := m.queryPort query
    if ret = .uecOk then ((ret, queried.portMap.toList.map (·.2)), queried)
    else ((.uecServiceInvalidValue, []), queried)

def getSupportedModes (portId : Int32) : Except UsbErrCode Int32 :=
  match m.supportedModeMap[portId]? with
  | some supportedModes => .ok supportedModes
  | none => .error .uecServiceInvalidValue

/-- Both functions of this name; neither reads the mode or the supported modes that it is given. -/
def updatePort (portId powerRole dataRole : Int32) : UsbPortManager :=
  match m.portMap[portId]? with
  | some port =>
    if port.id = portId then
      { m with
        portMap := m.portMap.insert portId
          { port with usbPortStatus := port.usbPortStatus.withRoles powerRole dataRole } }
    else m
  | none => m

def removePort (portId : Int32) : UsbPortManager := { m with portMap := m.portMap.erase portId }

/-! ## Runs -/

inductive Call where
  | init (query : Query)
  | getPorts (query : Query)
  | updatePort (portId powerRole dataRole : Int32)
  | removePort (portId : Int32)

def exec : Call → UsbPortManager
  | .init query => m.init query
  | .getPorts query => (m.getPorts query).2
  | .updatePort portId powerRole dataRole => m.updatePort portId powerRole dataRole
  | .removePort portId => m.removePort portId

/-- Every call can be made. -/
def step (call : Call) : Option UsbPortManager := some (m.exec call)

end UsbPortManager

end UsbManager.Port
