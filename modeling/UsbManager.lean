import UsbManager.Lib.Transition
import UsbManager.Lib.Separator
import UsbManager.Lib.Keeps
import UsbManager.Lib.Components
import UsbManager.Lib.Timer
import UsbManager.Lib.Toggle
import UsbManager.Lib.MapLoop
import UsbManager.Lib.Locks
import UsbManager.Lib.Parcel
import UsbManager.Lib.Capacity
import UsbManager.Lib.Json
import UsbManager.Lib.Base64
import UsbManager.Lib.Utf16
import UsbManager.Lib.Heap
import UsbManager.Service.ErrCode
import UsbManager.Service.Host
import UsbManager.Device.Tree
import UsbManager.Claim.Key
import UsbManager.Claim.State
import UsbManager.Claim.Lookup
import UsbManager.Claim.Operations
import UsbManager.Claim.Sections
import UsbManager.Claim.Representation
import UsbManager.Claim.Holding
import UsbManager.Claim.ReleaseSafety
import UsbManager.Claim.SessionEnd
import UsbManager.Claim.Ownership
import UsbManager.Claim.Failures
import UsbManager.Claim.Interleaving
import UsbManager.Claim.MutualExclusion
import UsbManager.Claim.Incarnation
import UsbManager.Claim.Client
import UsbManager.Claim.Listeners
import UsbManager.Claim.Sweeps
import UsbManager.Transfer.Entry
import UsbManager.Transfer.Isolation
import UsbManager.Transfer.Callback
import UsbManager.Lib.Framing
import UsbManager.Device.Parser
import UsbManager.Device.Descriptors
import UsbManager.Device.ParserCorrect
import UsbManager.Device.ParserSafe
import UsbManager.Device.Produced
import UsbManager.Device.Marshalling
import UsbManager.Device.Json
import UsbManager.Device.Strings
import UsbManager.Capi.DeviceList
import UsbManager.Capi.Memory
import UsbManager.Capi.Refusals
import UsbManager.Cli.Serialization
import UsbManager.Lib.Rdb
import UsbManager.Right.DataBase
import UsbManager.Right.Helper
import UsbManager.Right.Manager
import UsbManager.Right.Statements
import UsbManager.Right.CleanUp
import UsbManager.Right.Records
import UsbManager.Right.Atomic
import UsbManager.Right.Effects
import UsbManager.Right.History
import UsbManager.Right.StoreCorrect
import UsbManager.Right.RowIds
import UsbManager.Right.Unique
import UsbManager.Right.Answers
import UsbManager.Right.TokenString
import UsbManager.Right.Reasons
import UsbManager.Right.Reinstalled
import UsbManager.Host.Devices
import UsbManager.Host.Broadcast
import UsbManager.Host.BroadcastCorrect
import UsbManager.Host.Permission
import UsbManager.Host.Identity
import UsbManager.Host.BulkCallback
import UsbManager.Connection.Map
import UsbManager.Connection.Listeners
import UsbManager.Connection.Registration
import UsbManager.Gadget.Manager
import UsbManager.Gadget.Connection
import UsbManager.Gadget.Deadlock
import UsbManager.Gadget.Functions
import UsbManager.Gadget.HdcNotice
import UsbManager.Gadget.Names
import UsbManager.Gadget.Grammar
import UsbManager.Accessory.Manager
import UsbManager.Accessory.Configuring
import UsbManager.Accessory.Pairing
import UsbManager.Accessory.Key
import UsbManager.Accessory.Client
import UsbManager.Accessory.ExtraData
import UsbManager.Policy.Types
import UsbManager.Policy.Edm
import UsbManager.Policy.Manage
import UsbManager.Policy.EdmCorrect
import UsbManager.Policy.Kept
import UsbManager.Policy.Recorded
import UsbManager.Policy.Serial
import UsbManager.Policy.ActiveConfig
import UsbManager.Policy.TrustList
import UsbManager.Policy.TrustOutcome
import UsbManager.Policy.Rounds
import UsbManager.Policy.TypeOutcome
import UsbManager.Policy.PermissiveOutcome
import UsbManager.Policy.Handles
import UsbManager.Policy.DeviceInfo
import UsbManager.Policy.TrustFailures
import UsbManager.Serial.Manager
import UsbManager.Serial.Ownership
import UsbManager.Serial.Service
import UsbManager.Serial.Identity
import UsbManager.Serial.DeathRecipient
import UsbManager.Service.Rights
import UsbManager.Port.Manager
import UsbManager.Port.SupportedModes
import UsbManager.Gadget.ConnectionNotice
import UsbManager.Service.Unload
import UsbManager.Service.Proxy
import UsbManager.Service.Dialog
import UsbManager.Napi.Values
import UsbManager.Napi.Devices
import UsbManager.Napi.Calls
import UsbManager.Napi.Accessories
import UsbManager.Host.Requests
import UsbManager.Host.Mediation
import UsbManager.Gadget.SwitchWindow
