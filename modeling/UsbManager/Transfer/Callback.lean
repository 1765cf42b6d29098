import UsbManager.Lib.Capacity
import UsbManager.Service.ErrCode

/-!
# The callbacks of a submitted transfer

The driver calls `UsbdTransferCallbackImpl` in the service (in the pass-through build
`UsbTransferCallbackImpl`, whose messages are the same), which sends a message to the client's
`UsbdCallBackServer`, which calls the client's function. Completed reads and writes take the same way.

A message of more than `MAX_NUM_OF_ISO_PACKAGE` packets is written, and rejected by the client alone; the
result of the client's reads is not returned, so the service is told that the message was handled. The
client's object keeps the packets of an earlier call, and passes them on with a call that has none.
-/

namespace UsbManager.Transfer

open Parcel

def maxNumOfIsoPackage : Nat := 15000

structure UsbIsoPacketDescriptor where
  isoLength : Int32
  isoActualLength : Int32
  isoStatus : Int32
  deriving DecidableEq, Repr

structure Completion where
  status : Int32
  actLength : Int32
  isoInfo : List UsbIsoPacketDescriptor
  userData : UInt64
  deriving DecidableEq, Repr

/-- `UsbdCallBackServer`, of which a later call sees the packets only. -/
structure UsbdCallBackServer where
  isoInfo : List UsbIsoPacketDescriptor := []
  deriving DecidableEq, Repr

/-! ## The service -/

section Messages

variable (size : Word → Nat) (capacity : Nat)

def writeInt32 (value : Int32) : Writer := put size capacity (.bits32 value.toUInt32)

def writeUint64 (value : UInt64) : Writer := do
  put size capacity (.bits32 (.ofNat value.toNat))
  put size capacity (.bits32 (.ofNat (value.toNat / UInt32.size)))

/-- `Parcel::WriteParcelable`, of an object that is there. -/
def writeParcelable (marshalling : Writer) : Writer := do
  put size capacity (.bits32 1)
  marshalling

/-- `UsbIsoParcel::Marshalling`. -/
def isoMarshalling (isoInfo : UsbIsoPacketDescriptor) : Writer := do
  writeInt32 size capacity isoInfo.isoLength
  writeInt32 size capacity isoInfo.isoActualLength
  writeInt32 size capacity isoInfo.isoStatus

/-- `UsbIsoVecParcel::Marshalling`. -/
def isoVecMarshalling (isoInfoVec : List UsbIsoPacketDescriptor) : Writer := do
  let vecSize := UInt32.ofNat isoInfoVec.length
  put size capacity (.bits32 vecSize)
  putMany (fun isoInfo => writeParcelable size capacity (isoMarshalling size capacity isoInfo))
    (isoInfoVec.take vecSize.toNat)

/-- The message of `OnTransferWriteCallback` and `OnTransferReadCallback`. -/
def callbackData (remoteDescriptor : String) (c : Completion) : Writer := do
  put size capacity (.text remoteDescriptor)
  writeParcelable size capacity (isoVecMarshalling size capacity c.isoInfo)
  writeInt32 size capacity c.status
  writeInt32 size capacity c.actLength
  writeUint64 size capacity c.userData

end Messages

/-! ## The client -/

def readInt32 : Taker Int32 := do
  let bits ← takeUint32
  pure bits.toInt32

def readUint64 : Taker UInt64 := do
  let low ← takeUint32
  let high ← takeUint32
  pure (.ofNat (high.toNat * UInt32.size + low.toNat))

def readParcelable {α : Type} (unmarshalling : Taker α) : Taker α := do
  let there ← takeUint32
  if there = 0 then failure else unmarshalling

/-- `UsbIsoParcel::Unmarshalling`. -/
def isoUnmarshalling : Taker UsbIsoPacketDescriptor := do
  let isoLength ← readInt32
  let isoActualLength ← readInt32
  let isoStatus ← readInt32
  pure { isoLength, isoActualLength, isoStatus }

/-- `UsbIsoVecParcel::Unmarshalling`. -/
def isoVecUnmarshalling : Taker (List UsbIsoPacketDescriptor) := do
  let vecSize ← takeUint32
  if vecSize.toNat > maxNumOfIsoPackage then failure
  else takeMany vecSize.toNat (readParcelable isoUnmarshalling)

/-- The reads of `TransferWriteCallback` and `TransferReadCallback`. -/
def transferCallback : Taker Completion := do
  let isoInfo ← readParcelable isoVecUnmarshalling
  let status ← readInt32
  let actLength ← readInt32
  let userData ← readUint64
  pure { status, actLength, isoInfo, userData }

/-- `UsbdCallBackServer::OnTransferWriteCallback` and `OnTransferReadCallback`: the object, and what the client's
function is called with. -/
def UsbdCallBackServer.onTransferCallback (server : UsbdCallBackServer) (c : Completion) :
    UsbdCallBackServer × Completion :=
  let isoInfo := if c.isoInfo = [] then server.isoInfo else c.isoInfo
  (⟨isoInfo⟩, { c with isoInfo })

def callbackDescriptor : String := "UsbdStubCallback.V1_2"

/-- `UsbdStubCallBack::OnRemoteRequest`, with the calls of the client's function. -/
def onRemoteRequest (server : UsbdCallBackServer) (data : List Word) :
    UsbErrCode × UsbdCallBackServer × List Completion :=
  match takeText data with
  | some (remoteDescriptor, data) =>
    if callbackDescriptor ≠ remoteDescriptor then (.uecInterfacePermissionDenied, server, [])
    else
      match transferCallback data with
      | some (c, _) => (.uecOk, (server.onTransferCallback c).1, [(server.onTransferCallback c).2])
      | none => (.uecOk, server, [])
  | none => (.uecInterfacePermissionDenied, server, [])

/-! ## Deliveries -/

/-- An object `remote_`: the descriptor that it answers, and how the transaction ends. -/
structure Remote where
  descriptor : String
  transaction : UsbErrCode

section Deliver

variable (size : Word → Nat) (capacity : Nat)

/-- `OnTransferWriteCallback` or `OnTransferReadCallback` of the service, with what it comes to in the client. -/
def deliver (remote : Option Remote) (c : Completion) (server : UsbdCallBackServer) :
    UsbErrCode × UsbdCallBackServer × List Completion :=
  match remote with
  | none => (.uecServiceInvalidValue, server, [])
  | some remote =>
    match callbackData size capacity remote.descriptor c [] with
    | none => (.uecServiceInvalidValue, server, [])
    | some (_, data) =>
      if remote.transaction ≠ .uecOk then (remote.transaction, server, []) else onRemoteRequest server data

/-- The codes and the calls of the client's function, of one delivery after the other. -/
def deliverAll : List (Option Remote × Completion) → UsbdCallBackServer → List UsbErrCode × List Completion
  | [], _ => ([], [])
  | (remote, c) :: events, server =>
    let (ret, server, calls) := deliver size capacity remote c server
    let (rets, others) := deliverAll events server
    (ret :: rets, calls ++ others)

end Deliver

/-! ## One delivery -/

def UsbIsoPacketDescriptor.words (p : UsbIsoPacketDescriptor) : List Word :=
  [.bits32 p.isoLength.toUInt32, .bits32 p.isoActualLength.toUInt32, .bits32 p.isoStatus.toUInt32]

/-- The packets that the loop over a `uint32_t` index writes. -/
def carriedPackets (isoInfo : List UsbIsoPacketDescriptor) : List UsbIsoPacketDescriptor :=
  isoInfo.take (UInt32.ofNat isoInfo.length).toNat

def isoVecWords (isoInfo : List UsbIsoPacketDescriptor) : List Word :=
  .bits32 (.ofNat isoInfo.length) :: (carriedPackets isoInfo).flatMap fun p => .bits32 1 :: p.words

def uint64Words (value : UInt64) : List Word :=
  [.bits32 (.ofNat value.toNat), .bits32 (.ofNat (value.toNat / UInt32.size))]

/-- The words behind the token. -/
def Completion.body (c : Completion) : List Word :=
  .bits32 1 :: (isoVecWords c.isoInfo ++
    .bits32 c.status.toUInt32 :: .bits32 c.actLength.toUInt32 :: uint64Words c.userData)

def Completion.carried (c : Completion) : Completion := { c with isoInfo := carriedPackets c.isoInfo }

section Exact

variable {size : Word → Nat} {capacity : Nat}

/-! ### What is written -/

theorem writeParcelable_writes {m : Writer} {words : List Word} (writes : Writes size capacity m words) :
    Writes size capacity (writeParcelable size capacity m) (.bits32 1 :: words) :=
  (Writes.put _).bind writes

theorem isoMarshalling_writes (p : UsbIsoPacketDescriptor) :
    Writes size capacity (isoMarshalling size capacity p) p.words :=
  (Writes.put _).bind ((Writes.put _).bind (.put _))

theorem isoVecMarshalling_writes (isoInfo : List UsbIsoPacketDescriptor) :
    Writes size capacity (isoVecMarshalling size capacity isoInfo) (isoVecWords isoInfo) :=
  (Writes.put _).bind (.many (fun p => writeParcelable_writes (isoMarshalling_writes p)) _)

theorem callbackData_writes (remoteDescriptor : String) (c : Completion) :
    Writes size capacity (callbackData size capacity remoteDescriptor c) (.text remoteDescriptor :: c.body) := by
  have userData : Writes size capacity (writeUint64 size capacity c.userData) (uint64Words c.userData) :=
    (Writes.put _).bind (.put _)
  have packets : Writes size capacity _ _ := writeParcelable_writes (isoVecMarshalling_writes c.isoInfo)
  exact (Writes.put _).bind (packets.bind ((Writes.put _).bind ((Writes.put _).bind userData)))

/-! ### What is read -/

theorem readInt32_takes (value : Int32) : Takes readInt32 [.bits32 value.toUInt32] value := fun _ => rfl

theorem isoUnmarshalling_takes (p : UsbIsoPacketDescriptor) : Takes isoUnmarshalling p.words p :=
  (readInt32_takes _).bind ((readInt32_takes _).bind ((readInt32_takes _).map _))

theorem readParcelable_there {α : Type} (m : Taker α) (words : List Word) :
    readParcelable m (.bits32 1 :: words) = m words := rfl

theorem readParcelable_takes {α : Type} {m : Taker α} {words : List Word} {a : α} (takes : Takes m words a) :
    Takes (readParcelable m) (.bits32 1 :: words) a := .uint32 takes

theorem length_carriedPackets (isoInfo : List UsbIsoPacketDescriptor) :
    (carriedPackets isoInfo).length = (UInt32.ofNat isoInfo.length).toNat := by
  rw [carriedPackets, List.length_take, UInt32.toNat_ofNat', Nat.min_eq_left (Nat.mod_le _ _)]

theorem isoVecUnmarshalling_takes {isoInfo : List UsbIsoPacketDescriptor}
    (few : (carriedPackets isoInfo).length ≤ maxNumOfIsoPackage) :
    Takes isoVecUnmarshalling (isoVecWords isoInfo) (carriedPackets isoInfo) := by
  refine .uint32 ?_
  rw [← length_carriedPackets, if_neg (Nat.not_lt.2 few)]
  exact .many (fun p => readParcelable_takes (isoUnmarshalling_takes p)) _

theorem readUint64_takes (value : UInt64) : Takes readUint64 (uint64Words value) value := by
  have whole : UInt64.ofNat ((UInt32.ofNat (value.toNat / UInt32.size)).toNat * UInt32.size +
      (UInt32.ofNat value.toNat).toNat) = value := by
    have bound := value.toNat_lt
    apply UInt64.toNat_inj.1
    simp only [UInt32.toNat_ofNat', UInt64.toNat_ofNat', UInt32.size]
    omega
  have read : Takes readUint64 (uint64Words value) _ := .uint32 (.uint32 (.pure _))
  rwa [whole] at read

theorem transferCallback_takes {c : Completion} (few : (carriedPackets c.isoInfo).length ≤ maxNumOfIsoPackage) :
    Takes transferCallback c.body c.carried :=
  (readParcelable_takes (isoVecUnmarshalling_takes few)).bind ((readInt32_takes _).bind
    ((readInt32_takes _).bind ((readUint64_takes _).map _)))

theorem transferCallback_rejects {c : Completion} (many : maxNumOfIsoPackage < (carriedPackets c.isoInfo).length) :
    transferCallback c.body = none := by
  rw [length_carriedPackets] at many
  have rejected (words : List Word) : isoVecUnmarshalling (isoVecWords c.isoInfo ++ words) = none := by
    change (if _ then _ else _ : Taker _) _ = none
    rw [if_pos many]
    rfl
  change (readParcelable isoVecUnmarshalling (.bits32 1 :: _)).bind _ = none
  rw [readParcelable_there, rejected]
  rfl

/-! ### What it comes to -/

/-- The message fits and is handed to the client. -/
def Arrives (size : Word → Nat) (capacity : Nat) : Option Remote × Completion → Prop
  | (none, _) => False
  | (some remote, c) =>
    total size (.text remote.descriptor :: c.body) ≤ capacity ∧ remote.transaction = .uecOk ∧
      callbackDescriptor = remote.descriptor

instance : DecidablePred (Arrives size capacity)
  | (none, _) => .isFalse id
  | (some _, _) => inferInstanceAs (Decidable (_ ∧ _ ∧ _))

/-- And the client accepts its packets. -/
def IsHeard (size : Word → Nat) (capacity : Nat) (event : Option Remote × Completion) : Prop :=
  Arrives size capacity event ∧ (carriedPackets event.2.isoInfo).length ≤ maxNumOfIsoPackage

instance : DecidablePred (IsHeard size capacity) := fun _ => inferInstanceAs (Decidable (_ ∧ _))

theorem onRemoteRequest_eq (server : UsbdCallBackServer) (remoteDescriptor : String) (c : Completion) :
    onRemoteRequest server (.text remoteDescriptor :: c.body) =
      if callbackDescriptor ≠ remoteDescriptor then (.uecInterfacePermissionDenied, server, [])
      else if (carriedPackets c.isoInfo).length ≤ maxNumOfIsoPackage then
        (.uecOk, (server.onTransferCallback c.carried).1, [(server.onTransferCallback c.carried).2])
      else (.uecOk, server, []) := by
  unfold onRemoteRequest
  refine if_congr Iff.rfl rfl ?_
  split_ifs with few
  · have taken := transferCallback_takes few []
    rw [List.append_nil] at taken
    rw [taken]
  · rw [transferCallback_rejects (Nat.not_le.1 few)]

theorem deliver_some (remote : Remote) (c : Completion) (server : UsbdCallBackServer) :
    deliver size capacity (some remote) c server =
      if total size (.text remote.descriptor :: c.body) ≤ capacity then
        if remote.transaction ≠ .uecOk then (remote.transaction, server, [])
        else onRemoteRequest server (.text remote.descriptor :: c.body)
      else (.uecServiceInvalidValue, server, []) := by
  have writes : Writes size capacity _ _ := callbackData_writes remote.descriptor c
  have written := writes [] (Nat.zero_le _)
  rw [List.nil_append] at written
  unfold deliver
  simp only [written]
  split_ifs <;> rfl

theorem deliver_cases (size : Word → Nat) (capacity : Nat) (event : Option Remote × Completion)
    (server : UsbdCallBackServer) :
    IsHeard size capacity event ∧ deliver size capacity event.1 event.2 server =
        (.uecOk, (server.onTransferCallback event.2.carried).1, [(server.onTransferCallback event.2.carried).2]) ∨
      ¬ IsHeard size capacity event ∧ ∃ ret, deliver size capacity event.1 event.2 server = (ret, server, []) ∧
        (ret = .uecOk ↔ Arrives size capacity event) := by
  obtain ⟨remote, c⟩ := event
  cases remote with
  | none => exact .inr ⟨fun heard => heard.1, .uecServiceInvalidValue, rfl, fun ok => absurd ok (by decide), False.elim⟩
  | some remote =>
    simp only [deliver_some, onRemoteRequest_eq]
    by_cases fits : total size (.text remote.descriptor :: c.body) ≤ capacity
    · rw [if_pos fits]
      by_cases linked : remote.transaction = .uecOk
      · rw [if_neg (not_not.2 linked)]
        by_cases same : callbackDescriptor = remote.descriptor
        · rw [if_neg (not_not.2 same)]
          have arrives : Arrives size capacity (some remote, c) := ⟨fits, linked, same⟩
          by_cases few : (carriedPackets c.isoInfo).length ≤ maxNumOfIsoPackage
          · exact .inl ⟨⟨arrives, few⟩, if_pos few⟩
          · exact .inr ⟨fun heard => few heard.2, .uecOk, if_neg few, fun _ => arrives, fun _ => rfl⟩
        · rw [if_pos same]
          exact .inr ⟨fun heard => same heard.1.2.2, _, rfl, fun ok => absurd ok (by decide),
            fun arrives => absurd arrives.2.2 same⟩
      · rw [if_pos linked]
        exact .inr ⟨fun heard => linked heard.1.2.1, _, rfl, fun ok => absurd ok linked, fun arrives => arrives.2.1⟩
    · rw [if_neg fits]
      exact .inr ⟨fun heard => fits heard.1.1, _, rfl, fun ok => absurd ok (by decide),
        fun arrives => absurd arrives.1 fits⟩

/-! ## Runs -/

/-- The packets of the last call that has some. -/
def latestPackets (kept : List UsbIsoPacketDescriptor) (calls : List Completion) : List UsbIsoPacketDescriptor :=
  ((calls.map (·.isoInfo)).filter (· ≠ [])).getLast?.getD kept

theorem latestPackets_cons (kept : List UsbIsoPacketDescriptor) (c : Completion) (calls : List Completion) :
    latestPackets kept (c :: calls) = latestPackets (if c.isoInfo = [] then kept else c.isoInfo) calls := by
  unfold latestPackets
  by_cases none : c.isoInfo = []
  · simp [none]
  · simp [none, List.getLast?_cons]

/-- The deliveries that are heard, with what their messages carry. -/
def heard (size : Word → Nat) (capacity : Nat) (events : List (Option Remote × Completion)) : List Completion :=
  (events.filter (IsHeard size capacity)).map (·.2.carried)

theorem deliverAll_calls : ∀ (events : List (Option Remote × Completion)) (server : UsbdCallBackServer) (i : Nat),
    (deliverAll size capacity events server).2[i]? = (heard size capacity events)[i]?.map fun c =>
      { c with isoInfo := latestPackets server.isoInfo ((heard size capacity events).take (i + 1)) }
  | [], _, _ => rfl
  | event :: events, server, i => by
    rcases deliver_cases size capacity event server with ⟨isHeard, delivered⟩ | ⟨notHeard, ret, delivered, -⟩
    · have others := deliverAll_calls events (server.onTransferCallback event.2.carried).1
      have here : heard size capacity (event :: events) = event.2.carried :: heard size capacity events := by
        simp [heard, isHeard]
      rw [here]
      simp only [deliverAll, delivered, List.singleton_append, List.take_succ_cons, latestPackets_cons]
      cases i with
      | zero => rfl
      | succ i => exact others i
    · have here : heard size capacity (event :: events) = heard size capacity events := by
        simp [heard, notHeard]
      rw [here]
      simp only [deliverAll, delivered, List.nil_append]
      exact deliverAll_calls events server i

theorem deliverAll_rets : ∀ (events : List (Option Remote × Completion)) (server : UsbdCallBackServer) (i : Nat),
    (deliverAll size capacity events server).1[i]? = some .uecOk ↔
      ∃ event, events[i]? = some event ∧ Arrives size capacity event
  | [], _, _ => by simp [deliverAll]
  | event :: events, server, 0 => by
    rcases deliver_cases size capacity event server with ⟨isHeard, delivered⟩ | ⟨-, ret, delivered, arrives⟩
    · simp [deliverAll, delivered, isHeard.1]
    · simp [deliverAll, delivered, arrives]
  | event :: events, server, i + 1 => deliverAll_rets events _ i

/-- What the client hears from one object, delivery by delivery, and what the service is told. -/
theorem transfer_callbacks_heard (size : Word → Nat) (capacity : Nat) (events : List (Option Remote × Completion)) :
    (∀ i : Nat, (deliverAll size capacity events {}).2[i]? = (heard size capacity events)[i]?.map fun c =>
      { c with isoInfo := latestPackets [] ((heard size capacity events).take (i + 1)) }) ∧
    ∀ i : Nat, (deliverAll size capacity events {}).1[i]? = some .uecOk ↔
      ∃ event, events[i]? = some event ∧ Arrives size capacity event :=
  ⟨deliverAll_calls events {}, deliverAll_rets events {}⟩

theorem carriedPackets_of_le {isoInfo : List UsbIsoPacketDescriptor} (few : isoInfo.length ≤ maxNumOfIsoPackage) :
    carriedPackets isoInfo = isoInfo := by
  have small : isoInfo.length < 2 ^ 32 := Nat.lt_of_le_of_lt few (by decide)
  rw [carriedPackets, UInt32.toNat_ofNat', Nat.mod_eq_of_lt small, List.take_length]

/-- A call has the packets of its delivery, exactly if these are not many, and there are some or none is kept. -/
theorem onTransferCallback_faithful_iff {server : UsbdCallBackServer} {c : Completion}
    (kept : server.isoInfo.length ≤ maxNumOfIsoPackage)
    (few : (carriedPackets c.isoInfo).length ≤ maxNumOfIsoPackage) :
    (server.onTransferCallback c.carried).2 = c ↔
      c.isoInfo.length ≤ maxNumOfIsoPackage ∧ (server.isoInfo ≠ [] → c.isoInfo ≠ []) := by
  have packets : (server.onTransferCallback c.carried).2 = c ↔
      (if carriedPackets c.isoInfo = [] then server.isoInfo else carriedPackets c.isoInfo) = c.isoInfo := by
    obtain ⟨status, actLength, isoInfo, userData⟩ := c
    simp only [UsbdCallBackServer.onTransferCallback, Completion.carried, Completion.mk.injEq, true_and, and_true]
    exact Iff.rfl
  rw [packets]
  constructor
  · intro same
    have bounded : c.isoInfo.length ≤ maxNumOfIsoPackage := by
      rw [← same]
      split_ifs
      · exact kept
      · exact few
    refine ⟨bounded, fun some none => ?_⟩
    rw [none] at same
    exact some (by simpa [carriedPackets] using same)
  · rintro ⟨bounded, some⟩
    rw [carriedPackets_of_le bounded]
    split_ifs with none
    · rw [none]
      exact not_not.1 fun there => some there none
    · rfl

theorem deliverAll_length : ∀ (events : List (Option Remote × Completion)) (server : UsbdCallBackServer),
    (deliverAll size capacity events server).2.length ≤ events.length
  | [], _ => Nat.le_refl 0
  | event :: events, server => by
    have others := deliverAll_length events (deliver size capacity event.1 event.2 server).2.1
    rcases deliver_cases size capacity event server with ⟨-, delivered⟩ | ⟨-, ret, delivered, -⟩
    · simp only [deliverAll, delivered, List.singleton_append, List.length_cons] at others ⊢
      omega
    · simp only [deliverAll, delivered, List.nil_append, List.length_cons] at others ⊢
      omega

theorem deliverAll_faithful_iff : ∀ (events : List (Option Remote × Completion)) (server : UsbdCallBackServer),
    server.isoInfo.length ≤ maxNumOfIsoPackage →
      ((deliverAll size capacity events server).2 = events.map (·.2) ↔
        (∀ event ∈ events, Arrives size capacity event ∧ event.2.isoInfo.length ≤ maxNumOfIsoPackage) ∧
          (server.isoInfo ≠ [] → ∀ event ∈ events, event.2.isoInfo ≠ []) ∧
          events.Pairwise fun earlier later => earlier.2.isoInfo ≠ [] → later.2.isoInfo ≠ [])
  | [], _, _ => by simp [deliverAll]
  | event :: events, server, kept => by
    rcases deliver_cases size capacity event server with ⟨isHeard, delivered⟩ | ⟨notHeard, ret, delivered, -⟩
    · have bounded : (server.onTransferCallback event.2.carried).1.isoInfo.length ≤ maxNumOfIsoPackage := by
        change (if carriedPackets event.2.isoInfo = [] then _ else carriedPackets event.2.isoInfo).length ≤ _
        split_ifs
        · exact kept
        · exact isHeard.2
      have others := deliverAll_faithful_iff events _ bounded
      simp only [deliverAll, delivered, List.singleton_append, List.map_cons, List.cons.injEq, others,
        onTransferCallback_faithful_iff kept isHeard.2, List.forall_mem_cons, List.pairwise_cons]
      have later (few : event.2.isoInfo.length ≤ maxNumOfIsoPackage)
          (some : server.isoInfo ≠ [] → event.2.isoInfo ≠ []) :
          (server.onTransferCallback event.2.carried).1.isoInfo ≠ [] ↔ event.2.isoInfo ≠ [] := by
        change (if carriedPackets event.2.isoInfo = [] then _ else carriedPackets event.2.isoInfo) ≠ [] ↔ _
        rw [carriedPackets_of_le few]
        split_ifs with none
        · exact ⟨some, fun there => absurd none there⟩
        · exact Iff.rfl
      constructor
      · rintro ⟨⟨few, some⟩, each, kept, pairs⟩
        rw [later few some] at kept
        exact ⟨⟨⟨isHeard.1, few⟩, each⟩, fun there => ⟨some there, kept (some there)⟩,
          fun event' member there => kept there event' member, pairs⟩
      · rintro ⟨⟨⟨-, few⟩, each⟩, some, first, pairs⟩
        have own : server.isoInfo ≠ [] → event.2.isoInfo ≠ [] := fun there => (some there).1
        rw [later few own]
        exact ⟨⟨few, own⟩, each, fun there event' member => first event' member there, pairs⟩
    · constructor
      · intro same
        have short : (deliverAll size capacity events server).2.length ≤ _ := deliverAll_length events server
        simp only [deliverAll, delivered, List.nil_append] at same
        have long := congrArg List.length same
        rw [List.length_map, List.length_cons] at long
        omega
      · rintro ⟨each, -, -⟩
        obtain ⟨arrives, few⟩ := each event (List.mem_cons_self ..)
        exact absurd ⟨arrives, by rwa [carriedPackets_of_le few]⟩ notHeard

/-- The client hears each delivery once, in its turn and with its own values, exactly if each message arrives
with at most `MAX_NUM_OF_ISO_PACKAGE` packets, and none without packets follows one that has some. -/
theorem transfer_callbacks_faithful_iff (size : Word → Nat) (capacity : Nat)
    (events : List (Option Remote × Completion)) :
    (deliverAll size capacity events {}).2 = events.map (·.2) ↔
      (∀ event ∈ events, Arrives size capacity event ∧ event.2.isoInfo.length ≤ maxNumOfIsoPackage) ∧
        events.Pairwise fun earlier later => earlier.2.isoInfo ≠ [] → later.2.isoInfo ≠ [] := by
  rw [deliverAll_faithful_iff events {} (Nat.zero_le _)]
  exact and_congr_right fun _ => and_iff_right fun some => absurd rfl some

end Exact

end UsbManager.Transfer
