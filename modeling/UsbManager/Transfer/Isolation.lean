import UsbManager.Claim.Representation
import UsbManager.Transfer.Entry

/-!
# Transfers against an exclusive claim

When does a transfer stay away from an interface that another client owns exclusively? Three of the
entry points never ask, three ask about the interface the caller names, and `UsbSubmitTransfer`
asks about the first endpoint of the device with the address, if there is one. A call is kept from
the driver exactly when it is rejected for another reason or when the interface it asks about is
protected against the caller.
-/

namespace UsbManager.Transfer

open UsbManager.Claim Transition

/-- The interface is owned exclusively by another client and has no normal claim. -/
def Protects (table : ClaimTable) (b d i : UInt8) (caller : TokenId) : Prop :=
  table.owner (makeClaimKey b d i) ≠ 0 ∧ table.normal (makeClaimKey b d i) = false ∧
    table.owner (makeClaimKey b d i) ≠ caller

/-- The call does not reach the driver and returns an error. -/
def Isolated (outcome : Outcome) : Prop := outcome.calls = [] ∧ outcome.ret ≠ .uecOk

/-- There is no driver to reach. -/
def noDriver : HostManager Request → Bool
  | .driver _ => false
  | _ => true

/-- The call fails for a reason that has nothing to do with claims. -/
def Call.Rejected (call : Call) (env : Env) : Prop :=
  env.permitted = false ∨ noDriver env.host = true ∨
    match call with
    | .bulkRead _ fd memSize | .bulkWrite _ fd memSize => fd ≤ 0 ∨ memSize ≤ 0 ∨ env.ashmem = false
    | .usbSubmitTransfer _ cb fd memSize =>
      cb = false ∨ fd ≤ 0 ∨ memSize ≤ 0 ∨ memsizeMax ≤ memSize ∨ env.ashmem = false ∨
        env.addDeathRecipient = false
    | _ => False

/-- The interface the call asks `CheckExclusiveTransfer` about. -/
def Call.consulted (call : Call) (b d : UInt8) (env : Env) : Option UInt8 :=
  match call with
  | .bulkTransferRead ep _ | .bulkTransferReadwithLength ep _ _ | .bulkTransferWrite ep _ _ => some ep.interfaceId
  | .usbSubmitTransfer param _ _ _ => submitInterface b d env param.endpoint
  | _ => none

/-- The address byte of the endpoint the call moves data on. -/
def Call.endpointAddress : Call → UInt32
  | .bulkTransferRead ep _ | .bulkTransferReadwithLength ep _ _ | .bulkTransferWrite ep _ _
  | .requestQueue ep _ _ | .bulkRead ep _ _ | .bulkWrite ep _ _ => (pipeOf ep).endpointId.toUInt32
  | .usbSubmitTransfer param _ _ _ => param.endpoint.toUInt32

/-- The call moves data on an endpoint, other than the control endpoint, of interface `i`. -/
def Call.MovesDataOn (call : Call) (device : UsbDevice) (i : UInt8) : Prop :=
  ∃ config ∈ device.configs, ∃ interface ∈ config.interfaces, interface.id = i.toNat ∧
    ∃ ep ∈ interface.endpoints, ep.endpointNumber ≠ 0 ∧ ep.address = call.endpointAddress

theorem checkExclusiveTransfer_ne_ok {table : ClaimTable} {b d i : UInt8} {caller : TokenId} :
    checkExclusiveTransfer b d i caller table ≠ .uecOk ↔ Protects table b d i caller := by
  rw [Protects, ClaimTable.owner_eq, ClaimTable.normal_eq]
  cases found : table.claimStateMap[makeClaimKey b d i]? with
  | none => simp [checkExclusiveTransfer, found]
  | some state =>
    simp only [checkExclusiveTransfer, found, Option.getD_some]
    split
    · next denied => simp [denied]
    · next allowed => simpa using allowed

section Shapes

variable {caller : TokenId} {b d : UInt8} {env : Env} {table : ClaimTable} {request : Request}

theorem isolated_error {code : UsbErrCode} (failed : code ≠ .uecOk) : Isolated ⟨code, []⟩ := ⟨rfl, failed⟩

theorem isolated_forward {host : HostManager Request} : Isolated (forward host request) ↔ noDriver host = true := by
  cases host <;> simp [Isolated, forward, HostManager.call, noDriver]

theorem noDriver_of_isNull {host : HostManager Request} (null : host.isNull = true) : noDriver host = true := by
  cases host <;> simp_all [HostManager.isNull, noDriver]

theorem isolated_hostSubmitTransfer :
    Isolated (hostSubmitTransfer env request) ↔ noDriver env.host = true ∨ env.addDeathRecipient = false := by
  unfold hostSubmitTransfer
  cases env.host with
  | null => simp [Isolated, noDriver]
  | noInterface => simp [Isolated, noDriver]
  | driver answer => cases env.addDeathRecipient <;> simp [Isolated, noDriver]

theorem isolated_bulkTransfer {ep : USBEndpoint} :
    Isolated (bulkTransfer caller b d env table ep request) ↔
      env.permitted = false ∨ noDriver env.host = true ∨ Protects table b d ep.interfaceId caller := by
  unfold bulkTransfer
  split
  · next null => simp [isolated_error, noDriver_of_isNull null]
  · split
    · next denied => simp [isolated_error, denied]
    · next permitted =>
      rw [← checkExclusiveTransfer_ne_ok]
      dsimp only
      split
      · next claimed => simp [isolated_error claimed, claimed]
      · next free => rw [isolated_forward]; simp_all

theorem isolated_requestQueue {ep : USBEndpoint} {clientData bufferData : List UInt8} :
    Isolated (requestQueue b d env ep clientData bufferData) ↔ env.permitted = false ∨ noDriver env.host = true := by
  unfold requestQueue
  split
  · next denied => simp [isolated_error, denied]
  · next permitted =>
    split
    · next null => simp [isolated_error, noDriver_of_isNull null]
    · rw [isolated_forward]
      simp_all

theorem isolated_bulkAshmem {fd memSize : Int32} :
    Isolated (bulkAshmem env fd memSize request) ↔
      env.permitted = false ∨ noDriver env.host = true ∨ fd ≤ 0 ∨ memSize ≤ 0 ∨ env.ashmem = false := by
  unfold bulkAshmem
  split
  · next invalid =>
    rcases invalid with null | fd | size
    · simp [isolated_error, noDriver_of_isNull null]
    · simp [isolated_error, fd]
    · simp [isolated_error, size]
  · next valid =>
    obtain ⟨-, fdOk, sizeOk⟩ : ¬ env.host.isNull = true ∧ ¬ fd ≤ 0 ∧ ¬ memSize ≤ 0 := by
      simpa only [not_or] using valid
    split
    · next denied => simp [isolated_error, denied]
    · next permitted =>
      split
      · next unmapped => simp [isolated_error, unmapped]
      · next mapped =>
        rw [isolated_forward]
        simp [permitted, mapped, fdOk, sizeOk]

theorem isolated_usbSubmitTransfer {param : UsbTransInfo} {cb : Bool} {fd memSize : Int32} :
    Isolated (usbSubmitTransfer caller b d env table param cb fd memSize) ↔
      (env.permitted = false ∨ noDriver env.host = true ∨ cb = false ∨ fd ≤ 0 ∨ memSize ≤ 0 ∨
        memsizeMax ≤ memSize ∨ env.ashmem = false ∨ env.addDeathRecipient = false) ∨
      ∃ j, submitInterface b d env param.endpoint = some j ∧ Protects table b d j caller := by
  unfold usbSubmitTransfer
  split
  · next invalid => rcases invalid with h | h | h | h <;> simp [isolated_error, h]
  · next valid =>
    obtain ⟨hasCb, fdOk, sizeOk, maxOk⟩ : ¬ cb = false ∧ ¬ fd ≤ 0 ∧ ¬ memSize ≤ 0 ∧ ¬ memsizeMax ≤ memSize := by
      simpa only [not_or] using valid
    split
    · next unmapped => simp [isolated_error, unmapped]
    · next mapped =>
      split
      · next null => simp [isolated_error, noDriver_of_isNull null]
      · split
        · next denied => simp [isolated_error, denied]
        · next permitted =>
          dsimp only
          split
          · next j asked =>
            split
            · next claimed =>
              have guarded := checkExclusiveTransfer_ne_ok.1 claimed
              exact ⟨fun _ => .inr ⟨j, asked, guarded⟩, fun _ => isolated_error claimed⟩
            · next free =>
              rw [checkExclusiveTransfer_ne_ok] at free
              have unguarded : ¬ ∃ j', submitInterface b d env param.endpoint = some j' ∧
                  Protects table b d j' caller := by
                rintro ⟨j', same, guarded⟩
                cases asked.symm.trans same
                exact free guarded
              simp only [isolated_hostSubmitTransfer, permitted, hasCb, fdOk, sizeOk, maxOk, mapped, unguarded,
                Bool.true_eq_false, false_or, or_false]
          · next asked =>
            have unguarded : ¬ ∃ j', submitInterface b d env param.endpoint = some j' ∧
                Protects table b d j' caller := by
              rintro ⟨j', same, -⟩
              cases asked.symm.trans same
            simp only [isolated_hostSubmitTransfer, permitted, hasCb, fdOk, sizeOk, maxOk, mapped, unguarded,
              Bool.true_eq_false, false_or, or_false]

end Shapes

/-- A call is kept from the driver exactly when it is rejected for a reason of its own, or when it
asks about an interface that is protected against the caller. -/
theorem Call.isolated_iff (call : Call) (caller : TokenId) (b d : UInt8) (env : Env) (table : ClaimTable) :
    Isolated (call.exec caller b d env table) ↔
      call.Rejected env ∨ ∃ j, call.consulted b d env = some j ∧ Protects table b d j caller := by
  have asks : ∀ j, (∃ j', some j = some j' ∧ Protects table b d j' caller) ↔ Protects table b d j caller := by
    intro j
    simp
  cases call with
  | bulkTransferRead | bulkTransferReadwithLength | bulkTransferWrite =>
    simp only [Call.exec, Transfer.bulkTransferRead, Transfer.bulkTransferReadwithLength, Transfer.bulkTransferWrite,
      isolated_bulkTransfer, Call.Rejected, Call.consulted, asks, or_false, or_assoc]
  | usbSubmitTransfer param cb fd memSize => exact isolated_usbSubmitTransfer
  | requestQueue ep clientData bufferData =>
    simp [Call.exec, isolated_requestQueue, Call.Rejected, Call.consulted]
  | bulkRead | bulkWrite =>
    simp [Call.exec, Transfer.bulkRead, Transfer.bulkWrite, isolated_bulkAshmem, Call.Rejected, Call.consulted]

/-- For a call by another client than the exclusive owner of interface `i`: it is kept from the
driver exactly when it is rejected for a reason of its own or asks about an interface protected
against the caller, so in particular when it asks about `i` itself. -/
theorem transfer_isolation {table : ClaimTable} {b d i : UInt8} {owner caller : TokenId} (call : Call) (env : Env)
    (owned : table.owner (makeClaimKey b d i) = owner) (unshared : table.normal (makeClaimKey b d i) = false)
    (other : caller ≠ owner) :
    (Isolated (call.exec caller b d env table) ↔
      call.Rejected env ∨ ∃ j, call.consulted b d env = some j ∧ Protects table b d j caller) ∧
    (call.consulted b d env = some i → Isolated (call.exec caller b d env table)) := by
  refine ⟨call.isolated_iff caller b d env table, fun asked => ?_⟩
  rw [call.isolated_iff]
  refine .inr ⟨i, asked, ?_, unshared, ?_⟩
  · rw [owned]
    exact owner.2
  · rw [owned]
    exact fun same => other (Subtype.ext same.symm)

/-- A device with a bulk endpoint `0x81` in interface 0, at address 2 of bus 1. -/
def bulkDevice : UsbDevice where
  busNum := 1
  devAddr := 2
  configs := [{ id := 1, interfaces := [{ id := 0, endpoints := [{ address := 0x81, interfaceId := 0 }] }] }]

def bulkEnv : Env :=
  ⟨true, .driver fun _ => .uecOk, (∅ : Std.ExtTreeMap String UsbDevice).insert "1-2" bulkDevice, true, true⟩

/-- Interface 0 of `bulkDevice` after client 5 claimed it exclusively. -/
def claimedTable : ClaimTable := (claimInterfaceExclusive ⟨5, by decide⟩ 1 2 0 1 (some 7) .allGranted {}).table

theorem transfer_isolation_bulkTransferRead :
    Isolated ((Call.bulkTransferRead { address := 0x81, interfaceId := 0 } 100).exec ⟨6, by decide⟩ 1 2 bulkEnv
      claimedTable) :=
  (@transfer_isolation _ 1 2 0 ⟨5, by decide⟩ _ _ _ (by decide +kernel) (by decide +kernel) (by decide)).2 rfl

/-- `RequestQueue` by client 6 reaches the driver on an interface that client 5 owns exclusively. -/
theorem requestQueue_breaks_isolation :
    ¬ ∀ (s : Session) b d i (owner caller : TokenId) (call : Call) env device,
      Reach Session.step anyStep {} s → s.table.owner (makeClaimKey b d i) = owner →
      s.table.normal (makeClaimKey b d i) = false → caller ≠ owner →
      getTargetDevice env.devices b d = some device → call.MovesDataOn device i →
      Isolated (call.exec caller b d env s.table) := by
  intro isolated
  let claim : Op × Claim.Env := (.claimInterfaceExclusive ⟨5, by decide⟩ 1 2 0 1 (some 7), .allGranted)
  have reached : Reach Session.step anyStep {} _ := .step (a := claim) .init trivial rfl
  have reaches :=
    isolated _ 1 2 0 ⟨5, by decide⟩ ⟨6, by decide⟩ (.requestQueue { address := 0x81, interfaceId := 0 } [] [])
    bulkEnv bulkDevice reached (by decide +kernel) (by decide +kernel) (by decide) (by decide +kernel)
    ⟨_, List.mem_singleton.2 rfl, _, List.mem_singleton.2 rfl, rfl, _, List.mem_singleton.2 rfl, by decide, rfl⟩
  exact absurd reaches.1 (by decide +kernel)

end UsbManager.Transfer
