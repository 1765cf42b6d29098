import UsbManager.Host.Permission

/-!
# The connections to the devices

`deviceConnectionMap_` has for each device that is open the applications that have it open, by user id. A
record without applications is dropped. Every change of the map is told to the listeners, one callback for
each; a new listener is told the connections that there are.
-/

namespace UsbManager.Connection

open Host (DeviceReading deviceName getDeviceInfo)
open Std (ExtTreeMap)

inductive ConnectionType where
  | connect
  | disconnect
  deriving DecidableEq, Repr

structure UsbDeviceConnectionInfo where
  type : ConnectionType
  device : UsbDevice
  uid : Int
  bundleName : String
  deriving DecidableEq, Repr

/-- `GetDeviceKey` of the address in a device. -/
def deviceKey (dev : UsbDevice) : String := deviceName dev.busNum dev.devAddr

/-- It is about the application `uid` and the device of the key. -/
def UsbDeviceConnectionInfo.About (info : UsbDeviceConnectionInfo) (key : String) (uid : Int) : Prop :=
  deviceKey info.device = key ∧ info.uid = uid

instance (info : UsbDeviceConnectionInfo) (key : String) (uid : Int) : Decidable (info.About key uid) :=
  inferInstanceAs (Decidable (_ ∧ _))

structure DeviceConnectionRecord where
  device : UsbDevice := {}
  apps : ExtTreeMap Int String := ∅

abbrev ConnectionMap := ExtTreeMap String DeviceConnectionRecord

namespace ConnectionMap

variable (map : ConnectionMap)

/-- The application has the device open. -/
def connected (key : String) (uid : Int) : Bool :=
  match map[key]? with
  | none => false
  | some record => record.apps.contains uid

/-- What `AddDeviceConnection` does under the lock. -/
def addDeviceConnection (dev : UsbDevice) (uid : Int) (bundleName : String) : ConnectionMap :=
  let record := (map[deviceKey dev]?).getD {}
  map.insert (deviceKey dev) { device := dev, apps := record.apps.insert uid bundleName }

/-- What `RemoveDeviceConnection` does under the lock, and the device that it disconnects. -/
def removeDeviceConnection (key : String) (uid : Int) : Option (UsbDevice × ConnectionMap) :=
  match map[key]? with
  | none => none
  | some record =>
    if record.apps.contains uid then
      let apps := record.apps.erase uid
      some (record.device, if apps.isEmpty then map.erase key else map.insert key { record with apps := apps })
    else none

/-- What there is to tell about a record. -/
def infos (type : ConnectionType) (record : DeviceConnectionRecord) : List UsbDeviceConnectionInfo :=
  record.apps.toList.map fun app => ⟨type, record.device, app.1, app.2⟩

/-- What `RemoveAllDeviceConnections` does under the lock, and the connections that it ends. -/
def removeAllDeviceConnections (key : String) : Option (List UsbDeviceConnectionInfo × ConnectionMap) :=
  match map[key]? with
  | none => none
  | some record => some (infos .disconnect record, map.erase key)

/-- The connections that a new listener is told. -/
def pending : List UsbDeviceConnectionInfo := map.toList.flatMap fun entry => infos .connect entry.2

/-- Every record is that of the device of its key. -/
def Addressed : Prop := ∀ key record, map[key]? = some record → deviceKey record.device = key

variable {map} {key : String} {uid : Int}

/-- `AddDeviceConnection` has the key of the address that it reads the device of. -/
theorem deviceKey_getDeviceInfo {busNum devAddr : UInt8} {reading : Option DeviceReading} {dev : UsbDevice}
    (read : getDeviceInfo busNum devAddr reading = some dev) : deviceKey dev = deviceName busNum devAddr := by
  obtain ⟨reading, -, rfl⟩ := Option.map_eq_some_iff.1 read
  rfl

theorem addressed_empty : Addressed ∅ := fun key record found => by simp at found

/-! ### What there is to tell -/

theorem mem_infos {type : ConnectionType} {record : DeviceConnectionRecord} {info : UsbDeviceConnectionInfo}
    (member : info ∈ infos type record) : info.type = type ∧ info.device = record.device := by
  obtain ⟨app, -, rfl⟩ := List.mem_map.1 member
  exact ⟨rfl, rfl⟩

theorem exists_mem_infos (type : ConnectionType) (record : DeviceConnectionRecord) (uid : Int) :
    (∃ info ∈ infos type record, info.uid = uid) ↔ record.apps.contains uid = true := by
  rw [ExtTreeMap.contains_iff_mem, ExtTreeMap.mem_iff_isSome_getElem?, Option.isSome_iff_exists]
  constructor
  · rintro ⟨info, member, rfl⟩
    obtain ⟨⟨uid, bundleName⟩, listed, rfl⟩ := List.mem_map.1 member
    exact ⟨bundleName, ExtTreeMap.mem_toList_iff_getElem?_eq_some.1 listed⟩
  · rintro ⟨bundleName, found⟩
    exact ⟨_, List.mem_map.2 ⟨(uid, bundleName), ExtTreeMap.mem_toList_iff_getElem?_eq_some.2 found, rfl⟩, rfl⟩

theorem connected_of_getElem? {record : DeviceConnectionRecord} (found : map[key]? = some record) (uid : Int) :
    map.connected key uid = record.apps.contains uid := by
  rw [connected, found]

theorem mem_pending (addressed : map.Addressed) {info : UsbDeviceConnectionInfo} (member : info ∈ map.pending) :
    info.type = .connect ∧ map.connected (deviceKey info.device) info.uid = true := by
  obtain ⟨⟨key, record⟩, listed, here⟩ := List.mem_flatMap.1 member
  have found := ExtTreeMap.mem_toList_iff_getElem?_eq_some.1 listed
  obtain ⟨type, device⟩ := mem_infos here
  refine ⟨type, ?_⟩
  rw [device, addressed key record found, connected_of_getElem? found, ← exists_mem_infos .connect]
  exact ⟨info, here, rfl⟩

theorem exists_mem_pending (addressed : map.Addressed) (connected : map.connected key uid = true) :
    ∃ info ∈ map.pending, info.About key uid := by
  cases found : map[key]? with
  | none =>
    rw [ConnectionMap.connected, found] at connected
    cases connected
  | some record =>
    rw [connected_of_getElem? found, ← exists_mem_infos .connect] at connected
    obtain ⟨info, here, same⟩ := connected
    have listed : (key, record) ∈ map.toList := ExtTreeMap.mem_toList_iff_getElem?_eq_some.2 found
    refine ⟨info, List.mem_flatMap.2 ⟨_, listed, here⟩, ?_, same⟩
    rw [(mem_infos here).2, addressed key record found]

/-! ### The operations -/

theorem Addressed.erase (addressed : map.Addressed) (key : String) : Addressed (map.erase key) := by
  intro key' record found
  rw [ExtTreeMap.getElem?_erase] at found
  split at found
  next => cases found
  next => exact addressed key' record found

theorem Addressed.insert (addressed : map.Addressed) {record : DeviceConnectionRecord}
    (own : deviceKey record.device = key) : Addressed (map.insert key record) := by
  intro key' record' found
  rw [ExtTreeMap.getElem?_insert] at found
  split at found
  next same =>
    obtain rfl := Option.some.inj found
    exact own.trans (Std.LawfulEqCmp.eq_of_compare same)
  next => exact addressed key' record' found

theorem addressed_add (addressed : map.Addressed) (dev : UsbDevice) (uid : Int) (bundleName : String) :
    (map.addDeviceConnection dev uid bundleName).Addressed := addressed.insert rfl

theorem connected_add (dev : UsbDevice) (uid' : Int) (bundleName : String) :
    (map.addDeviceConnection dev uid' bundleName).connected key uid = true ↔
      deviceKey dev = key ∧ uid' = uid ∨ map.connected key uid = true := by
  unfold connected addDeviceConnection
  rw [ExtTreeMap.getElem?_insert]
  by_cases same : deviceKey dev = key
  · subst same
    cases map[deviceKey dev]? <;> simp
  · simp [same]

theorem connected_add_self (dev : UsbDevice) (uid : Int) (bundleName : String) :
    (map.addDeviceConnection dev uid bundleName).connected (deviceKey dev) uid = true :=
  (connected_add dev uid bundleName).2 (.inl ⟨rfl, rfl⟩)

theorem removeDeviceConnection_none (absent : map.removeDeviceConnection key uid = none) :
    map.connected key uid = false := by
  unfold removeDeviceConnection at absent
  unfold connected
  cases found : map[key]? with
  | none => rfl
  | some record =>
    rw [found] at absent
    dsimp only at absent ⊢
    split at absent
    · cases absent
    next out => exact Bool.eq_false_iff.2 out

theorem removeDeviceConnection_some {device : UsbDevice} {map' : ConnectionMap} (addressed : map.Addressed)
    (removed : map.removeDeviceConnection key uid = some (device, map')) :
    deviceKey device = key ∧ map'.Addressed ∧
      ∀ key' uid', map'.connected key' uid' = true ↔
        map.connected key' uid' = true ∧ ¬ (key = key' ∧ uid = uid') := by
  unfold removeDeviceConnection at removed
  cases found : map[key]? with
  | none =>
    rw [found] at removed
    cases removed
  | some record =>
    rw [found] at removed
    obtain ⟨there, same⟩ := Option.ite_none_right_eq_some.1 removed
    obtain ⟨rfl, rfl⟩ := Prod.mk.inj (Option.some.inj same)
    refine ⟨addressed key record found, ?_, fun key' uid' => ?_⟩
    · split
      next => exact addressed.erase key
      next => exact addressed.insert (addressed key record found)
    · by_cases own : key = key'
      · subst own
        rw [connected_of_getElem? found]
        split
        next empty =>
          have alone : record.apps.erase uid = ∅ := ExtTreeMap.isEmpty_iff.1 empty
          have gone : uid' ∉ record.apps.erase uid := by
            rw [alone]
            exact ExtTreeMap.not_mem_empty
          rw [ExtTreeMap.mem_erase] at gone
          simp [connected] at gone ⊢
          exact fun member => by_contra fun other => gone other member
        next =>
          rw [connected, ExtTreeMap.getElem?_insert_self]
          simp [and_comm]
      · have kept : (if (record.apps.erase uid).isEmpty = true then map.erase key
            else map.insert key { record with apps := record.apps.erase uid })[key']? = map[key']? := by
          split <;> simp [ExtTreeMap.getElem?_erase, ExtTreeMap.getElem?_insert, own]
        rw [connected, kept]
        simp [connected, own]

theorem removeDeviceConnection_gone {device : UsbDevice} {map' : ConnectionMap} (addressed : map.Addressed)
    (removed : map.removeDeviceConnection key uid = some (device, map')) : map'.connected key uid = false := by
  obtain ⟨-, -, connected⟩ := removeDeviceConnection_some addressed removed
  rw [Bool.eq_false_iff, ne_eq, connected]
  exact fun still => still.2 ⟨rfl, rfl⟩

theorem removeAllDeviceConnections_none (absent : map.removeAllDeviceConnections key = none) (uid : Int) :
    map.connected key uid = false := by
  unfold removeAllDeviceConnections at absent
  unfold connected
  cases found : map[key]? with
  | none => rfl
  | some record =>
    rw [found] at absent
    cases absent

theorem removeAllDeviceConnections_some {ended : List UsbDeviceConnectionInfo} {map' : ConnectionMap}
    (addressed : map.Addressed) (removed : map.removeAllDeviceConnections key = some (ended, map')) :
    (∀ info ∈ ended, info.type = .disconnect ∧ deviceKey info.device = key) ∧
      (∀ uid, map.connected key uid = true → ∃ info ∈ ended, info.About key uid) ∧ map'.Addressed ∧
      ∀ key' uid', map'.connected key' uid' = true ↔ map.connected key' uid' = true ∧ key ≠ key' := by
  unfold removeAllDeviceConnections at removed
  cases found : map[key]? with
  | none =>
    rw [found] at removed
    cases removed
  | some record =>
    rw [found] at removed
    obtain ⟨rfl, rfl⟩ := Prod.mk.inj (Option.some.inj removed)
    refine ⟨fun info member => ?_, fun uid connected => ?_, addressed.erase key, fun key' uid' => ?_⟩
    · obtain ⟨type, device⟩ := mem_infos member
      exact ⟨type, by rw [device, addressed key record found]⟩
    · rw [connected_of_getElem? found, ← exists_mem_infos .disconnect] at connected
      obtain ⟨info, member, same⟩ := connected
      exact ⟨info, member, by rw [(mem_infos member).2, addressed key record found], same⟩
    · unfold ConnectionMap.connected
      rw [ExtTreeMap.getElem?_erase]
      by_cases own : key = key' <;> simp [own]

theorem removeAllDeviceConnections_gone {ended : List UsbDeviceConnectionInfo} {map' : ConnectionMap}
    (addressed : map.Addressed) (removed : map.removeAllDeviceConnections key = some (ended, map')) (uid : Int) :
    map'.connected key uid = false := by
  obtain ⟨-, -, -, connected⟩ := removeAllDeviceConnections_some addressed removed
  rw [Bool.eq_false_iff, ne_eq, connected]
  exact fun still => still.2 rfl

end ConnectionMap

end UsbManager.Connection
