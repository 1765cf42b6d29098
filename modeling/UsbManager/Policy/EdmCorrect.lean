import UsbManager.Lib.Keeps
import UsbManager.Policy.Manage

/-!
# Which policies are decoded

The replies of the device manager carry a truth value, a level and three lists, and a list may be cut
short after some words. Decoding has three weak places: an empty list of types is rejected, the reads
of this list are checked but the result is dropped, and the trust list is read without checks.

`Honours` says that complete replies give exactly their policy, and that a cut list is an error.
-/

namespace UsbManager.Policy

open Parcel

/-! ## Replies -/

namespace UsbDeviceType

def words (type : UsbDeviceType) : List Word :=
  [int32 type.baseClass, int32 type.subClass, int32 type.protocol, bool type.isDeviceType,
    bool type.isDeviceTypeAllMatch]

structure Ranged (type : UsbDeviceType) : Prop where
  baseClass : IsInt32 type.baseClass
  subClass : IsInt32 type.subClass
  protocol : IsInt32 type.protocol

end UsbDeviceType

namespace UsbDeviceId

def words (id : UsbDeviceId) : List Word := [int32 id.vendorId, int32 id.productId]

structure Ranged (id : UsbDeviceId) : Prop where
  vendorId : IsInt32 id.vendorId
  productId : IsInt32 id.productId

end UsbDeviceId

/-- A list of a reply, and how many words of its entries arrive. -/
structure SentList (α : Type) where
  entries : List α
  sent : Nat

/-- The reply announces the size of the whole list. -/
def SentList.reply {α : Type} (words : α → List Word) (l : SentList α) : List Word :=
  int32 0 :: int32 l.entries.length :: (l.entries.flatMap words).take l.sent

/-- All words of the list arrive. -/
def SentList.Complete {α : Type} (words : α → List Word) (l : SentList α) : Prop :=
  (l.entries.flatMap words).length ≤ l.sent

instance {α : Type} (words : α → List Word) (l : SentList α) : Decidable (l.Complete words) :=
  inferInstanceAs (Decidable (_ ≤ _))

/-- The replies to the five requests, each with the result `ERR_OK`. -/
structure EdmReplies where
  isGlobalDisabled : Bool
  storageLevel : Int
  types : SentList UsbDeviceType
  permTypes : SentList UsbDeviceType
  trustList : SentList UsbDeviceId
  storageLevel_int32 : IsInt32 storageLevel
  types_ranged : ∀ type ∈ types.entries, type.Ranged
  permTypes_ranged : ∀ type ∈ permTypes.entries, type.Ranged
  trustList_ranged : ∀ id ∈ trustList.entries, id.Ranged
  types_le : types.entries.length ≤ 1000
  permTypes_le : permTypes.entries.length ≤ 1000
  trustList_le : trustList.entries.length ≤ 1000

namespace EdmReplies

variable (r : EdmReplies)

def sendRequest : EdmRequest → UsbErrCode × List Word
  | .disableUsb => (.uecOk, [int32 0, bool r.isGlobalDisabled])
  | .usbStorageDeviceAccessPolicy => (.uecOk, [int32 0, int32 r.storageLevel])
  | .usbDeviceAccessPolicy => (.uecOk, r.types.reply UsbDeviceType.words)
  | .usbTypeDisallowPolicy => (.uecOk, r.permTypes.reply UsbDeviceType.words)
  | .allowedUsbDevices => (.uecOk, r.trustList.reply UsbDeviceId.words)

def edm : Edm where
  sendRequest := r.sendRequest

structure Complete : Prop where
  types : r.types.Complete UsbDeviceType.words
  permTypes : r.permTypes.Complete UsbDeviceType.words
  trustList : r.trustList.Complete UsbDeviceId.words

/-- The policy that the replies stand for. -/
def policy : UsbPolicy where
  isGlobalDisabled := r.isGlobalDisabled
  disableType := (if r.storageLevel = 2 then [{ baseClass := 8 }] else []) ++ r.types.entries ++ r.permTypes.entries
  trustUsbDeviceIds := r.trustList.entries
  isPermTypePolicy := r.permTypes.entries.length > 0

end EdmReplies

/-! ## The lists -/

theorem intOfUint32_zero : intOfUint32 (uint32OfInt 0) = 0 := by decide

theorem readUsbDeviceType_words {type : UsbDeviceType} (ranged : type.Ranged) (rest : List Word) :
    readUsbDeviceType (type.words ++ rest) = some (type, rest) := by
  simp [readUsbDeviceType, UsbDeviceType.words, int32, Parcel.bool, intOfUint32_uint32OfInt ranged.baseClass,
    intOfUint32_uint32OfInt ranged.subClass, intOfUint32_uint32OfInt ranged.protocol]

theorem readUsbDeviceType_short {words : List Word} (short : words.length < 5) : readUsbDeviceType words = none := by
  unfold readUsbDeviceType
  split
  · simp only [List.length_cons] at short
    omega
  · rfl

theorem length_typeWords (entries : List UsbDeviceType) :
    (entries.flatMap UsbDeviceType.words).length = 5 * entries.length := by
  induction entries with
  | nil => rfl
  | cons type entries ih =>
    rw [List.flatMap_cons, List.length_append, ih, List.length_cons]
    simp only [UsbDeviceType.words, List.length_cons, List.length_nil]
    omega

/-- From a cut list the entries are read that arrived as a whole. -/
theorem readTypePolicyFromParcel_take (entries : List UsbDeviceType) (ranged : ∀ type ∈ entries, type.Ranged)
    (sent : Nat) (disableType : List UsbDeviceType) :
    readTypePolicyFromParcel entries.length ((entries.flatMap UsbDeviceType.words).take sent) disableType =
      (if 5 * entries.length ≤ sent then .uecOk else .uecServiceEdmSendRequestFailed,
        disableType ++ entries.take (sent / 5)) := by
  induction entries generalizing sent disableType with
  | nil => simp [readTypePolicyFromParcel]
  | cons type entries ih =>
    rw [List.flatMap_cons, List.length_cons, readTypePolicyFromParcel]
    have width : type.words.length = 5 := rfl
    by_cases short : sent < 5
    · rw [readUsbDeviceType_short (by rw [List.length_take]; omega)]
      have none : sent / 5 = 0 := by omega
      rw [none, List.take_zero, List.append_nil, if_neg (by omega)]
    · obtain ⟨more, rfl⟩ := Nat.exists_eq_add_of_le (Nat.le_of_not_lt short)
      have split : (type.words ++ entries.flatMap UsbDeviceType.words).take (5 + more) =
          type.words ++ (entries.flatMap UsbDeviceType.words).take more := by
        rw [← width, List.take_length_add_append]
      have whole : (5 + more) / 5 = more / 5 + 1 := by omega
      rw [split, readUsbDeviceType_words (ranged type (List.mem_cons_self ..))]
      dsimp only
      rw [ih fun t member => ranged t (List.mem_cons_of_mem _ member), whole, List.take_succ_cons, List.append_assoc]
      have same : 5 * (entries.length + 1) ≤ 5 + more ↔ 5 * entries.length ≤ more := by omega
      simp only [same]
      rfl

/-- Complete trust lists are read back; the reads do not say when a list is cut. -/
theorem readMany_trustList (entries : List UsbDeviceId) (ranged : ∀ id ∈ entries, id.Ranged) :
    (readMany entries.length readUsbDeviceId (entries.flatMap UsbDeviceId.words)).1 = entries := by
  have each : ∀ id ∈ entries, Reads readUsbDeviceId id.words id := fun id member =>
    .int32 (ranged id member).vendorId <| .int32 (ranged id member).productId <| .pure _
  have all := Reads.many each []
  rw [List.append_nil, List.map_id'] at all
  rw [all]

/-! ## The decoders -/

theorem request_ok {edm : Edm} {funcCode : EdmRequest} {rest : List Word}
    (sent : edm.sendRequest funcCode = (.uecOk, int32 0 :: rest)) : edm.request funcCode = some rest := by
  unfold Edm.request
  rw [sent]
  exact if_pos ⟨congrArg some intOfUint32_zero, rfl⟩

theorem isInt32_size {n : Nat} (few : n ≤ 1000) : IsInt32 n := ⟨by omega, by omega⟩

theorem tryReadInt32_int32 {value : Int} (fits : IsInt32 value) (rest : List Word) :
    tryReadInt32 (int32 value :: rest) = (some value, rest) := by
  change (some (intOfUint32 (uint32OfInt value)), rest) = _
  rw [intOfUint32_uint32OfInt fits]

theorem readInt32_int32 {value : Int} (fits : IsInt32 value) (rest : List Word) :
    readInt32 (int32 value :: rest) = (value, rest) := by
  change (intOfUint32 (uint32OfInt value), rest) = _
  rw [intOfUint32_uint32OfInt fits]

namespace EdmReplies

variable (r : EdmReplies) (p : UsbPolicy)

theorem getEdmGlobalPolicy_eq :
    getEdmGlobalPolicy r.edm p = (.uecOk, { p with isGlobalDisabled := r.isGlobalDisabled }) := by
  have reply : r.edm.request .disableUsb = some [bool r.isGlobalDisabled] := request_ok rfl
  have read : (tryReadBool [bool r.isGlobalDisabled]).1 = some r.isGlobalDisabled :=
    congrArg some (boolOfUint32_bool _)
  simp only [getEdmGlobalPolicy, reply, read, Option.getD_some]

theorem getEdmStroageTypePolicy_eq :
    getEdmStroageTypePolicy r.edm p =
      (.uecOk, { p with
        disableType := p.disableType ++ if r.storageLevel = 2 then [{ baseClass := 8 }] else [] }) := by
  have reply : r.edm.request .usbStorageDeviceAccessPolicy = some [int32 r.storageLevel] := request_ok rfl
  simp only [getEdmStroageTypePolicy, reply, tryReadInt32_int32 r.storageLevel_int32, Option.getD_some,
    getEdmStorageDisableType, storageBaseClass]
  split_ifs
  · rfl
  · rw [List.append_nil]

/-- An empty list of types is an error; of another list the entries that arrived are taken. -/
theorem getEdmTypePolicy_eq :
    getEdmTypePolicy r.edm p =
      if r.types.entries = [] then (.uecServiceEdmDeviceSizeExceed, p)
      else (.uecOk, { p with
        disableType := p.disableType ++ r.types.entries.take (r.types.sent / 5)
        isPermTypePolicy := false }) := by
  have reply : r.edm.request .usbDeviceAccessPolicy = some (int32 r.types.entries.length ::
      (r.types.entries.flatMap UsbDeviceType.words).take r.types.sent) := request_ok rfl
  have few := r.types_le
  have empty : ((r.types.entries.length : Int) ≤ 0 ∨ (r.types.entries.length : Int) > trustlistPolicyMaxDevices) ↔
      r.types.entries = [] := by
    rw [← List.length_eq_zero_iff, trustlistPolicyMaxDevices]
    omega
  simp only [getEdmTypePolicy, reply, tryReadInt32_int32 (isInt32_size few), empty, Int.toNat_natCast,
    readTypePolicyFromParcel_take _ r.types_ranged]

/-- A cut list of permissive types is an error. -/
theorem getEdmPermTypePolicy_eq :
    getEdmPermTypePolicy r.edm p =
      (if r.permTypes.Complete UsbDeviceType.words then .uecOk else .uecServiceEdmSendRequestFailed,
        { p with
          disableType := p.disableType ++ r.permTypes.entries.take (r.permTypes.sent / 5)
          isPermTypePolicy := if r.permTypes.entries.length > 0 then true else p.isPermTypePolicy }) := by
  have reply : r.edm.request .usbTypeDisallowPolicy = some (int32 r.permTypes.entries.length ::
      (r.permTypes.entries.flatMap UsbDeviceType.words).take r.permTypes.sent) := request_ok rfl
  have few := r.permTypes_le
  have inside : ¬ ((r.permTypes.entries.length : Int) < 0 ∨
      (r.permTypes.entries.length : Int) > trustlistPolicyMaxDevices) := by
    rw [trustlistPolicyMaxDevices]
    omega
  have some : (r.permTypes.entries.length : Int) > 0 ↔ r.permTypes.entries.length > 0 := by omega
  simp only [getEdmPermTypePolicy, reply, readInt32_int32 (isInt32_size few), if_neg inside, Int.toNat_natCast,
    readTypePolicyFromParcel_take _ r.permTypes_ranged, some, SentList.Complete, length_typeWords]

/-- The trust list that is read, which is the one sent if it is complete. -/
def readTrustList : List UsbDeviceId :=
  (readMany r.trustList.entries.length readUsbDeviceId
    ((r.trustList.entries.flatMap UsbDeviceId.words).take r.trustList.sent)).1

theorem readTrustList_complete (complete : r.trustList.Complete UsbDeviceId.words) :
    r.readTrustList = r.trustList.entries := by
  rw [readTrustList, List.take_of_length_le complete]
  exact readMany_trustList _ r.trustList_ranged

theorem getEdmTrustListPolicy_eq :
    getEdmTrustListPolicy r.edm p =
      (.uecOk, { p with trustUsbDeviceIds := p.trustUsbDeviceIds ++ r.readTrustList }) := by
  have reply : r.edm.request .allowedUsbDevices = some (int32 r.trustList.entries.length ::
      (r.trustList.entries.flatMap UsbDeviceId.words).take r.trustList.sent) := request_ok rfl
  have few := r.trustList_le
  have inside : ¬ ((r.trustList.entries.length : Int) < 0 ∨
      (r.trustList.entries.length : Int) > trustlistPolicyMaxDevices) := by
    rw [trustlistPolicyMaxDevices]
    omega
  simp only [getEdmTrustListPolicy, reply, readInt32_int32 (isInt32_size few), if_neg inside, Int.toNat_natCast,
    readTrustList]

/-! ## The policy as a whole -/

/-- The policy that is read if the list of types is not empty. -/
def readPolicy (isPermTypePolicy : Bool) : UsbPolicy where
  isGlobalDisabled := r.isGlobalDisabled
  disableType := (if r.storageLevel = 2 then [{ baseClass := 8 }] else []) ++
    r.types.entries.take (r.types.sent / 5) ++ r.permTypes.entries.take (r.permTypes.sent / 5)
  trustUsbDeviceIds := r.readTrustList
  isPermTypePolicy := isPermTypePolicy

theorem getEdmPolicy_empty (b : Bool) (empty : r.types.entries = []) :
    (getEdmPolicy r.edm { isPermTypePolicy := b }).1 = .uecServiceEdmDeviceSizeExceed := by
  have present : r.edm.systemAbilityManager = true := rfl
  have remote : r.edm.remote = true := rfl
  simp [getEdmPolicy, present, remote, decodeAll, getEdmGlobalPolicy_eq, getEdmStroageTypePolicy_eq,
    getEdmTypePolicy_eq, empty]

theorem getEdmPolicy_cut (b : Bool) (types : r.types.entries ≠ []) (cut : ¬ r.permTypes.Complete UsbDeviceType.words) :
    (getEdmPolicy r.edm { isPermTypePolicy := b }).1 = .uecServiceEdmSendRequestFailed := by
  have present : r.edm.systemAbilityManager = true := rfl
  have remote : r.edm.remote = true := rfl
  simp [getEdmPolicy, present, remote, decodeAll, getEdmGlobalPolicy_eq, getEdmStroageTypePolicy_eq,
    getEdmTypePolicy_eq, getEdmPermTypePolicy_eq, types, cut]

theorem getEdmPolicy_read (b : Bool) (types : r.types.entries ≠ [])
    (complete : r.permTypes.Complete UsbDeviceType.words) : getEdmPolicy r.edm { isPermTypePolicy := b } =
      (.uecOk, r.readPolicy (decide (r.permTypes.entries.length > 0))) := by
  have present : r.edm.systemAbilityManager = true := rfl
  have remote : r.edm.remote = true := rfl
  simp [getEdmPolicy, present, remote, decodeAll, getEdmGlobalPolicy_eq, getEdmStroageTypePolicy_eq,
    getEdmTypePolicy_eq, getEdmPermTypePolicy_eq, getEdmTrustListPolicy_eq, types, complete, readPolicy]

theorem getUsbPolicy_ok {edm : Edm} {start p : UsbPolicy} (read : getEdmPolicy edm start = (.uecOk, p))
    (elapsedTime : Nat)
    (later : List Attempt) : getUsbPolicy ((edm, elapsedTime) :: later) start = some (.uecOk, p) := by
  rw [getUsbPolicy, read]
  exact if_pos rfl

theorem getUsbPolicy_failed {edm : Edm} {start : UsbPolicy} (failed : (getEdmPolicy edm start).1 ≠ .uecOk)
    (known : (getEdmPolicy edm start).1 ≠ edmSaTimeOutCode) (elapsedTime : Nat) (later : List Attempt) :
    getUsbPolicy ((edm, elapsedTime) :: later) start =
      some (.uecServicePrepareEdmSaFailed, (getEdmPolicy edm start).2) := by
  rw [getUsbPolicy]
  dsimp only
  rw [if_neg failed, if_neg known]

/-- No policy is read if the list of types is empty or the list of permissive types is cut. -/
theorem getUsbPolicy_refused (elapsedTime : Nat) (later : List Attempt) (b : Bool)
    (refused : r.types.entries = [] ∨ ¬ r.permTypes.Complete UsbDeviceType.words) :
    ∃ p, getUsbPolicy ((r.edm, elapsedTime) :: later) { isPermTypePolicy := b } =
      some (.uecServicePrepareEdmSaFailed, p) := by
  by_cases empty : r.types.entries = []
  · have ret := r.getEdmPolicy_empty b empty
    exact ⟨_, getUsbPolicy_failed (by rw [ret]; decide) (by rw [ret]; decide) elapsedTime later⟩
  · have ret := r.getEdmPolicy_cut b empty (refused.resolve_left empty)
    exact ⟨_, getUsbPolicy_failed (by rw [ret]; decide) (by rw [ret]; decide) elapsedTime later⟩

theorem readPolicy_complete (complete : r.Complete) :
    r.readPolicy (decide (r.permTypes.entries.length > 0)) = r.policy := by
  have types : r.types.entries.take (r.types.sent / 5) = r.types.entries := by
    have all := complete.types
    rw [SentList.Complete, length_typeWords] at all
    exact List.take_of_length_le (by omega)
  have permTypes : r.permTypes.entries.take (r.permTypes.sent / 5) = r.permTypes.entries := by
    have all := complete.permTypes
    rw [SentList.Complete, length_typeWords] at all
    exact List.take_of_length_le (by omega)
  rw [readPolicy, types, permTypes, r.readTrustList_complete complete.trustList, policy]

/-- Without a policy the strategy does nothing. -/
theorem executeStrategy_refused {env : Env} {s : State} {p : UsbPolicy} (enabled : env.isEdmEnabled = true)
    (refused : getUsbPolicy (env.firstAttempt :: env.laterAttempts) { isPermTypePolicy := s.isPermTypePolicy } =
      some (.uecServicePrepareEdmSaFailed, p)) :
    executeStrategy env s = ((), { s with isPermTypePolicy := p.isPermTypePolicy }) := by
  rw [executeStrategy, if_neg (by rw [enabled]; decide), stateM_bind, stateM_get]
  dsimp only
  rw [refused]
  rfl

/-- The operation meets these replies at its first attempt. -/
structure Meets (env : Env) : Prop where
  enabled : env.isEdmEnabled = true
  first : env.firstAttempt.1 = r.edm

/-- Complete replies give exactly their policy, and a cut list gives an error. Without a policy for types,
the global policy and the trust list are enforced. -/
structure Honours : Prop where
  complete : r.Complete → ∀ elapsedTime later b,
    getUsbPolicy ((r.edm, elapsedTime) :: later) { isPermTypePolicy := b } = some (.uecOk, r.policy)
  cut : ¬ r.Complete → ∀ elapsedTime later b,
    ∃ ret p, getUsbPolicy ((r.edm, elapsedTime) :: later) { isPermTypePolicy := b } = some (ret, p) ∧ ret ≠ .uecOk
  global : r.Complete → r.policy.disableType = [] → r.isGlobalDisabled = true → ∀ env s, r.Meets env →
    (executeStrategy env s).2 = (manageGlobalInterfaceImpl env true { s with isPermTypePolicy := false }).2
  trustList : r.Complete → r.policy.disableType = [] → r.isGlobalDisabled = false → r.trustList.entries ≠ [] →
    ∀ env s, r.Meets env → env.isUsbSerialDisable = false →
      (executeStrategy env s).2 =
        (executeManageDevicePolicy env r.trustList.entries { s with isPermTypePolicy := false }).2

/-- The replies are honoured exactly if the list of types is not empty and all lists are complete, or if a list
is cut and the decoding fails, because the list of types is empty or that of the permissive types is cut. -/
theorem edm_policy_honoured_iff :
    r.Honours ↔ (r.Complete ∧ r.types.entries ≠ []) ∨
      (¬ r.Complete ∧ (r.types.entries = [] ∨ ¬ r.permTypes.Complete UsbDeviceType.words)) := by
  have refused := fun b => r.getUsbPolicy_refused 0 [] b
  constructor
  · intro honours
    by_cases complete : r.Complete
    · refine .inl ⟨complete, fun empty => ?_⟩
      obtain ⟨p, failed⟩ := refused false (.inl empty)
      have ok := honours.complete complete 0 [] false
      rw [failed] at ok
      cases ok
    · refine .inr ⟨complete, ?_⟩
      by_contra read
      rw [not_or, not_not] at read
      obtain ⟨ret, p, found, failed⟩ := honours.cut complete 0 [] false
      rw [getUsbPolicy_ok (r.getEdmPolicy_read false read.1 read.2)] at found
      cases found
      exact failed rfl
  · rintro (⟨complete, types⟩ | ⟨cut, why⟩)
    · have typed : r.policy.disableType ≠ [] := by
        intro none
        rw [policy] at none
        simp only [List.append_eq_nil_iff] at none
        exact types none.1.2
      refine ⟨fun _ elapsedTime later b => ?_, fun cut => absurd complete cut, fun _ none => absurd none typed,
        fun _ none => absurd none typed⟩
      rw [getUsbPolicy_ok (r.getEdmPolicy_read b types complete.permTypes), r.readPolicy_complete complete]
    · refine ⟨fun complete => absurd complete cut, fun _ elapsedTime later b => ?_, fun complete => absurd complete cut,
        fun complete => absurd complete cut⟩
      obtain ⟨p, failed⟩ := r.getUsbPolicy_refused elapsedTime later b why
      exact ⟨_, p, failed, by decide⟩

/-- All use of USB is forbidden, and nothing else. -/
def onlyGlobal : EdmReplies where
  isGlobalDisabled := true
  storageLevel := 0
  types := ⟨[], 0⟩
  permTypes := ⟨[], 0⟩
  trustList := ⟨[], 0⟩
  storageLevel_int32 := by decide
  types_ranged := by simp
  permTypes_ranged := by simp
  trustList_ranged := by simp
  types_le := by decide
  permTypes_le := by decide
  trustList_le := by decide

/-- The global policy alone is not read, and `ExecuteStrategy` calls no driver and keeps all devices. -/
theorem edm_policy_only_global :
    onlyGlobal.Complete ∧
      getUsbPolicy [(onlyGlobal.edm, 0)] {} = some (.uecServicePrepareEdmSaFailed, { isGlobalDisabled := true }) ∧
      (∀ env s, env.firstAttempt = (onlyGlobal.edm, 0) → env.isEdmEnabled = true →
        (executeStrategy env s).2.host = s.host ∧ (executeStrategy env s).2.calls = s.calls) ∧
      ¬ onlyGlobal.Honours := by
  have complete : onlyGlobal.Complete := ⟨by decide, by decide, by decide⟩
  refine ⟨complete, by decide +kernel, fun env s first enabled => ?_, fun honours => ?_⟩
  · obtain ⟨p, failed⟩ := onlyGlobal.getUsbPolicy_refused 0 env.laterAttempts s.isPermTypePolicy (.inl rfl)
    rw [← first] at failed
    rw [executeStrategy_refused enabled failed]
    exact ⟨rfl, rfl⟩
  · have ok := honours.complete complete 0 [] false
    obtain ⟨p, failed⟩ := onlyGlobal.getUsbPolicy_refused 0 [] false (.inl rfl)
    rw [failed] at ok
    cases ok

end EdmReplies

end UsbManager.Policy
