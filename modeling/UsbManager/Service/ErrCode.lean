import Mathlib.Data.List.Basic

/-!
# Return codes of the service

The values of `UsbErrCode` that the modelled functions produce or test
(`usb_errors.h`). A driver call answers with any 32-bit value; those that the service
gives no name are `hdf code`.
-/

namespace UsbManager

inductive UsbErrCode where
  | uecOk
  | uecInterfaceInvalidOperation
  | uecInterfaceInvalidValue
  | uecInterfaceNameNotFound
  | uecInterfaceNoInit
  | uecInterfaceNoMemory
  | uecInterfacePermissionDenied
  | uecServiceInvalidOperation
  | uecServiceInvalidValue
  | uecServiceNameNotFound
  | uecServiceNoMemory
  | uecServicePermissionDenied
  | uecServiceInnerErr
  | uecInterfaceBusy
  | uecServiceIoException
  | uecServiceFunctionNotSupport
  | uecServiceGetSystemAbilityManagerFailed
  | uecServiceExecutePolicyFailed
  | uecServicePrepareEdmSaFailed
  | uecServiceGetEdmServiceFailed
  | uecServiceEdmDeviceSizeExceed
  | uecServiceEdmSaTimeOutFailed
  | uecServiceEdmSendRequestFailed
  | uecServiceGetTokenInfoFailed
  | uecServiceDatabaseOperationFailed
  | uecServiceAccessoryNotMatch
  | uecServiceAccessoryOpenNativeNodeFailed
  | uecServiceAccessoryReopen
  | uecServiceAlreadyExists
  | uecServiceAddDeathRecipientFailed
  | uecInterfaceTimedOut
  | uecSerialPortRepeatOpen
  | uecSerialPortNotOpen
  | uecSerialIoException
  | uecSerialDevicenotopen
  | uecSerialOtherError
  | uecSerialPortNotExist
  | uecSerialDatebaseError
  /-- `HDF_DEV_ERR_OP`, the driver's refusal of an operation. -/
  | hdfDevErrOp
  /-- `HDF_ERR_NOT_SUPPORT`, the driver's answer to functions it does not have. -/
  | hdfErrNotSupport
  | hdfFailure
  | hdf (code : Int)
  deriving DecidableEq, Repr

end UsbManager
