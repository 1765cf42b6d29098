import UsbManager.Claim.Lookup
import UsbManager.Claim.Operations
import UsbManager.Lib.Transition

/-!
# Interleaved claim calls

Service calls run on several IPC threads, and only their critical sections exclude each other.
A call in flight is a `Call`: its arguments and how far it has come. Each step of a `World` lets a
call start, or takes one call in flight over its next critical section or driver call.

Beside the claim table a world follows what the table is meant to say: the clients that hold an
exclusive claim (`holders`), the clients that died, which device is attached at an address
(`attached`, a fresh number for each reported attach), and on which of these devices the claims
recorded in each entry were made (`origins`).
-/

namespace UsbManager.Claim

inductive ExclusiveStage where
  /-- Past the permission check. -/
  | entered
  /-- Past the check under `claimMutex_`. -/
  | checked (isRepeat : Bool)
  /-- The driver accepted the claim, on the device `device`; `RegisterExclusiveCallback` is next. -/
  | claimed (isRepeat : Bool) (device : Nat)
  deriving DecidableEq

inductive DelStage where
  | entered
  /-- `RemoveAllClaimByDevice` is done, the inner `Close` is next. -/
  | swept
  | closed
  deriving DecidableEq

/-- A service call in flight. The flag of a release, a close and a death notification says that
its critical section is done. -/
inductive Call where
  | claim (t : TokenId) (b d i force : UInt8) (device : Option Nat)
  | claimExclusive (t : TokenId) (b d i force : UInt8) (cb : Option Callback) (stage : ExclusiveStage)
  | release (t : TokenId) (b d i : UInt8) (done : Bool)
  | close (t : TokenId) (b d : UInt8) (done : Bool)
  | died (cb : Callback) (recipient : ClaimDeathRecipient) (done : Bool)
  | delDevice (t : TokenId) (b d : UInt8) (stage : DelStage)
  | addDevice (b d : UInt8)
  deriving DecidableEq

structure World where
  table : ClaimTable := {}
  calls : List Call := []
  holders : List (String × TokenId) := []
  dead : List TokenId := []
  attached : UInt8 → UInt8 → Option Nat := fun _ _ => none
  devices : Nat := 0
  origins : String → List Nat := fun _ => []

inductive Action where
  /-- A call passes its permission check. -/
  | start (call : Call)
  /-- A call in flight takes its next step. -/
  | advance (call : Call) (env : Env)
  | clientDeath (t : TokenId)

namespace World

def finish (w : World) (call : Call) : World := { w with calls := w.calls.erase call }

def goto (w : World) (call next : Call) : World := { w with calls := next :: w.calls.erase call }

/-- A critical section leaves `table`, and may have recorded a claim made on a device. -/
def commit (w : World) (table : ClaimTable) (recorded : Option (String × Nat)) : World :=
  { w with
    table := table
    origins := fun key =>
      if (table.claimStateMap[key]?).isNone then []
      else match recorded with
        | some (key', device) => if key' = key then device :: w.origins key else w.origins key
        | none => w.origins key }

/-- The holders that `lost` selects no longer hold. -/
def drop (w : World) (lost : String × TokenId → Bool) : World :=
  { w with holders := w.holders.filter fun holder => !lost holder }

/-- `t` was answered `UEC_OK` for an exclusive claim. -/
def grant (w : World) (key : String) (t : TokenId) : World :=
  { w with holders := if t ∈ w.dead then w.holders else (key, t) :: w.holders }

/-- A dead client starts no call, and only a dead client's recipients are notified. -/
def mayStart (w : World) : Call → Bool
  | .claim t _ _ _ _ none | .claimExclusive t _ _ _ _ _ .entered | .release t _ _ _ false
  | .close t _ _ false => t ∉ w.dead
  | .died _ recipient false => recipient.tokenId ∈ w.dead
  | .delDevice _ _ _ .entered | .addDevice _ _ => true
  | _ => false

/-- A reported detach or attach changes what is at the address before the service handles it. -/
def start (w : World) (call : Call) : World :=
  match call with
  | .delDevice _ b d _ =>
    { w with
      calls := call :: w.calls
      attached := fun b' d' => if b' = b ∧ d' = d then none else w.attached b' d' }
  | .addDevice b d =>
    { w with
      calls := call :: w.calls
      attached := fun b' d' => if b' = b ∧ d' = d then some w.devices else w.attached b' d'
      devices := w.devices + 1 }
  | _ => { w with calls := call :: w.calls }

/-- The next step of a call in flight. The driver can accept a claim only on an attached device. -/
def advance (w : World) (call : Call) (env : Env) : Option World :=
  match call with
  | .claim t b d i force none =>
    if (env.host.call (.claimInterface b d i force)).1 = .uecOk then
      (w.attached b d).map fun device => w.goto call (.claim t b d i force (some device))
    else some (w.finish call)
  | .claim t b d i _ (some device) =>
    some ((w.finish call).commit (notifyExclusiveOwner b d i t w.table).1 (some (makeClaimKey b d i, device)))
  | .claimExclusive t b d i force cb .entered =>
    match checkExclusiveClaim b d i t w.table with
    | .error _ => some (w.finish call)
    | .ok isRepeat => some (w.goto call (.claimExclusive t b d i force cb (.checked isRepeat)))
  | .claimExclusive t b d i force cb (.checked isRepeat) =>
    if (env.host.call (.claimInterface b d i force)).1 = .uecOk then
      (w.attached b d).map fun device =>
        w.goto call (.claimExclusive t b d i force cb (.claimed isRepeat device))
    else some (w.finish call)
  | .claimExclusive t b d i _ cb (.claimed isRepeat device) =>
    let recorded := if cb.isSome ∧ env.addDeathRecipient then some (makeClaimKey b d i, device) else none
    some (((w.finish call).commit
      (registerExclusiveCallback b d i t cb isRepeat env.addDeathRecipient w.table) recorded).grant
      (makeClaimKey b d i) t)
  | .release t b d i false =>
    let released := releaseClaimState b d i t w.table
    if released.ret ≠ .uecOk then some ((w.finish call).commit released.table none)
    else
      let next := if released.releaseToHdi then w.goto call (.release t b d i true) else w.finish call
      some ((next.commit released.table none).drop fun holder => holder == (makeClaimKey b d i, t))
  | .close t b d false =>
    some (((w.goto call (.close t b d true)).commit (removeExclusiveClaimByDevice b d t w.table) none).drop
      fun holder => comparePrefix holder.1 (claimPrefix b d) && holder.2 == t)
  | .died cb recipient false =>
    let (table, needReleaseHdi) := recipient.onRemoteDied cb w.table
    let next := if needReleaseHdi then w.goto call (.died cb recipient true) else w.finish call
    some (next.commit table none)
  | .delDevice t b d .entered =>
    some (((w.goto call (.delDevice t b d .swept)).commit (removeAllClaimByDevice b d w.table) none).drop
      fun holder => comparePrefix holder.1 (claimPrefix b d))
  | .delDevice t b d .swept =>
    let next := w.goto call (.delDevice t b d .closed)
    if env.permitted then
      some ((next.commit (removeExclusiveClaimByDevice b d t w.table) none).drop
        fun holder => comparePrefix holder.1 (claimPrefix b d) && holder.2 == t)
    else some next
  | .release _ _ _ _ true | .close _ _ _ true | .died _ _ true | .delDevice _ _ _ .closed
  | .addDevice _ _ => some (w.finish call)

def step (w : World) : Action → Option World
  | .start call => if w.mayStart call then some (w.start call) else none
  | .advance call env => if call ∈ w.calls then w.advance call env else none
  | .clientDeath t =>
    some { (w.drop fun holder => holder.2 == t) with dead := t :: w.dead }

end World

/-- The stage that may follow a stage of a call, with `attached` at the addresses. -/
inductive Call.Next (attached : UInt8 → UInt8 → Option Nat) : Call → Call → Prop where
  | claimed {t : TokenId} {b d i force : UInt8} {device : Nat} : attached b d = some device →
      Next attached (.claim t b d i force none) (.claim t b d i force (some device))
  | checked {t : TokenId} {b d i force : UInt8} {cb : Option Callback} {isRepeat : Bool} :
      Next attached (.claimExclusive t b d i force cb .entered)
        (.claimExclusive t b d i force cb (.checked isRepeat))
  | accepted {t : TokenId} {b d i force : UInt8} {cb : Option Callback} {isRepeat : Bool} {device : Nat} :
      attached b d = some device →
      Next attached (.claimExclusive t b d i force cb (.checked isRepeat))
        (.claimExclusive t b d i force cb (.claimed isRepeat device))
  | released {t : TokenId} {b d i : UInt8} : Next attached (.release t b d i false) (.release t b d i true)
  | closed {t : TokenId} {b d : UInt8} : Next attached (.close t b d false) (.close t b d true)
  | notified {cb : Callback} {r : ClaimDeathRecipient} : Next attached (.died cb r false) (.died cb r true)
  | swept {t : TokenId} {b d : UInt8} : Next attached (.delDevice t b d .entered) (.delDevice t b d .swept)
  | closedDevice {t : TokenId} {b d : UInt8} : Next attached (.delDevice t b d .swept) (.delDevice t b d .closed)

/-- An advancing call ends or goes to its next stage, and changes nothing of the devices and the
dead. -/
theorem World.advance_calls {w w' : World} {call : Call} {env : Env} (taken : w.advance call env = some w') :
    (w'.calls = w.calls.erase call ∨ ∃ next, call.Next w.attached next ∧ w'.calls = next :: w.calls.erase call) ∧
      w'.dead = w.dead ∧ w'.attached = w.attached := by
  unfold World.advance at taken
  split at taken
  · split at taken
    · obtain ⟨device, found, rfl⟩ := Option.map_eq_some_iff.1 taken
      exact ⟨.inr ⟨_, .claimed found, rfl⟩, rfl, rfl⟩
    · cases taken
      exact ⟨.inl rfl, rfl, rfl⟩
  · cases taken
    exact ⟨.inl rfl, rfl, rfl⟩
  · split at taken
    · cases taken
      exact ⟨.inl rfl, rfl, rfl⟩
    · cases taken
      exact ⟨.inr ⟨_, .checked, rfl⟩, rfl, rfl⟩
  · split at taken
    · obtain ⟨device, found, rfl⟩ := Option.map_eq_some_iff.1 taken
      exact ⟨.inr ⟨_, .accepted found, rfl⟩, rfl, rfl⟩
    · cases taken
      exact ⟨.inl rfl, rfl, rfl⟩
  · cases taken
    exact ⟨.inl rfl, rfl, rfl⟩
  · dsimp only at taken
    split at taken
    · cases taken
      exact ⟨.inl rfl, rfl, rfl⟩
    · split at taken <;> cases taken
      · exact ⟨.inr ⟨_, .released, rfl⟩, rfl, rfl⟩
      · exact ⟨.inl rfl, rfl, rfl⟩
  · cases taken
    exact ⟨.inr ⟨_, .closed, rfl⟩, rfl, rfl⟩
  · dsimp only at taken
    split at taken <;> cases taken
    · exact ⟨.inr ⟨_, .notified, rfl⟩, rfl, rfl⟩
    · exact ⟨.inl rfl, rfl, rfl⟩
  · cases taken
    exact ⟨.inr ⟨_, .swept, rfl⟩, rfl, rfl⟩
  · dsimp only at taken
    split at taken <;> cases taken <;> exact ⟨.inr ⟨_, .closedDevice, rfl⟩, rfl, rfl⟩
  all_goals
    cases taken
    exact ⟨.inl rfl, rfl, rfl⟩

/-- The table an advancing call leaves, by the critical section it goes through. -/
inductive Call.Section (table : ClaimTable) : Call → ClaimTable → Prop where
  | skip {call : Call} : Section table call table
  | notified {t : TokenId} {b d i force : UInt8} {device : Nat} :
      Section table (.claim t b d i force (some device)) (notifyExclusiveOwner b d i t table).1
  | registered {t : TokenId} {b d i force : UInt8} {cb : Callback} {isRepeat : Bool} {device : Nat} :
      Section table (.claimExclusive t b d i force (some cb) (.claimed isRepeat device))
        (registerExclusiveCallback b d i t (some cb) isRepeat true table)
  | released {t : TokenId} {b d i : UInt8} :
      Section table (.release t b d i false) (releaseClaimState b d i t table).table
  | closed {t : TokenId} {b d : UInt8} :
      Section table (.close t b d false) (removeExclusiveClaimByDevice b d t table)
  | died {cb : Callback} {r : ClaimDeathRecipient} :
      Section table (.died cb r false) (r.onRemoteDied cb table).1
  | swept {t : TokenId} {b d : UInt8} :
      Section table (.delDevice t b d .entered) (removeAllClaimByDevice b d table)
  | closedDevice {t : TokenId} {b d : UInt8} :
      Section table (.delDevice t b d .swept) (removeExclusiveClaimByDevice b d t table)

theorem World.advance_section {w w' : World} {call : Call} {env : Env} (taken : w.advance call env = some w') :
    call.Section w.table w'.table := by
  unfold World.advance at taken
  split at taken
  · split at taken
    · obtain ⟨device, -, rfl⟩ := Option.map_eq_some_iff.1 taken
      exact .skip
    · cases taken
      exact .skip
  · cases taken
    exact .notified
  · split at taken <;> cases taken <;> exact .skip
  · split at taken
    · obtain ⟨device, -, rfl⟩ := Option.map_eq_some_iff.1 taken
      exact .skip
    · cases taken
      exact .skip
  · next t b d i force cb isRepeat device =>
    cases taken
    change Call.Section w.table _ (registerExclusiveCallback b d i t cb isRepeat env.addDeathRecipient w.table)
    cases cb with
    | none => exact .skip
    | some cb =>
      cases env.addDeathRecipient with
      | false => exact .skip
      | true => exact .registered
  · dsimp only at taken
    split at taken
    · cases taken
      exact .released
    · split at taken <;> cases taken <;> exact .released
  · cases taken
    exact .closed
  · dsimp only at taken
    split at taken <;> cases taken <;> exact .died
  · cases taken
    exact .swept
  · dsimp only at taken
    split at taken <;> cases taken
    · exact .closedDevice
    · exact .skip
  all_goals
    cases taken
    exact .skip

end UsbManager.Claim
