import UsbManager.Service.ErrCode

/-!
# The host manager as the service sees it

Most methods of `UsbHostManager` forward a request to the driver interface if there is one. What
the driver answers is arbitrary.
-/

namespace UsbManager

/-- `usbHostManager_`: null, without a driver interface (`usbd_` or `usbHostInterface_`), or with a
driver that answers. -/
inductive HostManager (Request : Type) where
  | null
  | noInterface
  | driver (answer : Request → UsbErrCode)

namespace HostManager

variable {Request : Type}

def isNull : HostManager Request → Bool
  | .null => true
  | _ => false

/-- A forwarding method: its result, and the request if it reached the driver. -/
def call : HostManager Request → Request → UsbErrCode × List Request
  | .driver answer, request => (answer request, [request])
  | _, _ => (.uecServiceInvalidValue, [])

theorem mem_call {host : HostManager Request} {request made : Request} (reached : made ∈ (host.call request).2) :
    made = request := by
  cases host <;> simp_all [call]

end HostManager

end UsbManager
