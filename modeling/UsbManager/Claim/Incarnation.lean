import UsbManager.Claim.Interleaving

/-!
# Claims and the device they were made on

An attach gives the device at an address a fresh number, and `origins` records on which of these
devices the claims of an entry were accepted by the driver. `DelDevice` clears the entries of its
address in one critical section: a claim that the driver accepted before and that is recorded
after survives it, and an attach reported without a detach before it clears nothing. Without
these two, whenever no call is in flight every entry belongs to the device attached now.
-/

namespace UsbManager.Claim

open Transition

/-- The interface and device of a claim the driver has accepted and the table not yet recorded. -/
def Call.claimedOn : Call → Option (UInt8 × UInt8 × UInt8 × Nat)
  | .claim _ b d i _ (some device) | .claimExclusive _ b d i _ _ (.claimed _ device) => some (b, d, i, device)
  | _ => none

/-- An attach is reported only for a free address, and `DelDevice` clears the claims of its device
only while none accepted there by the driver is still to be recorded. -/
def clearsBehind (w : World) : Action → Prop
  | .start (.addDevice b d) => w.attached b d = none
  | .advance (.delDevice _ b d .entered) _ => ∀ call ∈ w.calls, ∀ i device, call.claimedOn ≠ some (b, d, i, device)
  | _ => True

/-- The device is attached, or its address is about to be cleared. -/
def World.Covers (w : World) (b d : UInt8) (device : Nat) : Prop :=
  w.attached b d = some device ∨ ∃ t, .delDevice t b d .entered ∈ w.calls

structure World.Current (w : World) : Prop where
  flying : ∀ call ∈ w.calls, ∀ b d i device, call.claimedOn = some (b, d, i, device) → w.Covers b d device
  recorded : ∀ b d i device, device ∈ w.origins (makeClaimKey b d i) → w.Covers b d device
  known : ∀ key, (w.table.claimStateMap[key]?).isSome → w.origins key ≠ [] ∧ ∃ b d i, key = makeClaimKey b d i

/-! ### What one step records -/

section Step

variable {w w' : World} {call : Call} {env : Env}

/-- An entry found after a section was there before, or was just recorded by the call. -/
theorem Call.Section.present {table after : ClaimTable} (through : call.Section table after) (key : String)
    (found : (after.claimStateMap[key]?).isSome) :
    (table.claimStateMap[key]?).isSome ∨
      ∃ b d i device, call.claimedOn = some (b, d, i, device) ∧ makeClaimKey b d i = key := by
  cases through with
  | skip => exact .inl found
  | @notified t b d i force device =>
    rw [notifyExclusiveOwner_getElem?] at found
    split at found
    · next same => exact .inr ⟨b, d, i, device, rfl, same⟩
    · exact .inl found
  | @registered t b d i force cb isRepeat device =>
    rw [registerExclusiveCallback_getElem?] at found
    split at found
    · next same => exact .inr ⟨b, d, i, device, rfl, same⟩
    · exact .inl found
  | released =>
    rw [releaseClaimState_getElem?] at found
    split at found
    · exact .inl (Option.isSome_of_isSome_bind found)
    · exact .inl found
  | closed | closedDevice =>
    rw [removeExclusiveClaimByDevice_getElem?] at found
    exact .inl (Option.isSome_of_isSome_bind found)
  | died =>
    rw [onRemoteDied_getElem?] at found
    split at found
    · exact .inl (Option.isSome_of_isSome_bind found)
    · exact .inl found
  | swept =>
    rw [removeAllClaimByDevice_getElem?] at found
    split at found
    · cases found
    · exact .inl found

theorem Call.Section.present_of_silent {table after : ClaimTable} (through : call.Section table after)
    (silent : call.claimedOn = none) {key : String} (found : (after.claimStateMap[key]?).isSome) :
    (table.claimStateMap[key]?).isSome := by
  rcases through.present key found with before | ⟨b, d, i, device, claimed, -⟩
  · exact before
  · rw [silent] at claimed
    cases claimed

theorem Call.Section.present_of_claimed {table after : ClaimTable} (through : call.Section table after)
    {b d i : UInt8} {device : Nat} (claimed : call.claimedOn = some (b, d, i, device)) {key : String}
    (found : (after.claimStateMap[key]?).isSome) :
    (table.claimStateMap[key]?).isSome ∨ makeClaimKey b d i = key := by
  rcases through.present key found with before | ⟨b', d', i', device', claimed', same⟩
  · exact .inl before
  · rw [claimed] at claimed'
    cases claimed'
    exact .inr same

/-- What the call records, if anything, is the claim it brought from the driver. -/
def Records (call : Call) (recorded : Option (String × Nat)) : Prop :=
  ∀ key device, recorded = some (key, device) →
    ∃ b d i, call.claimedOn = some (b, d, i, device) ∧ makeClaimKey b d i = key

theorem Records.nothing : Records call none := by
  intro key device recorded
  cases recorded

theorem Records.claim {b d i : UInt8} {device : Nat} (claimed : call.claimedOn = some (b, d, i, device)) :
    Records call (some (makeClaimKey b d i, device)) := by
  rintro _ _ ⟨rfl, rfl⟩
  exact ⟨b, d, i, claimed, rfl⟩

/-- Without a callback or its recipient nothing is registered. -/
theorem registerExclusiveCallback_unrecorded (b d i : UInt8) (t : TokenId) (isRepeat : Bool) (table : ClaimTable)
    {cb : Option Callback} {addDeathRecipient : Bool} (unrecorded : ¬ (cb.isSome ∧ addDeathRecipient)) :
    registerExclusiveCallback b d i t cb isRepeat addDeathRecipient table = table := by
  cases cb with
  | none => rfl
  | some cb => simp_all [registerExclusiveCallback]

/-- A step leaves table and origins, or commits a section that records what the call brought. -/
theorem World.advance_origins (taken : w.advance call env = some w') :
    (w'.table = w.table ∧ w'.origins = w.origins) ∨
      ∃ recorded, Records call recorded ∧ w'.origins = (w.commit w'.table recorded).origins ∧
        ∀ key, (w'.table.claimStateMap[key]?).isSome →
          (w.table.claimStateMap[key]?).isSome ∨ ∃ device, recorded = some (key, device) := by
  have through := World.advance_section taken
  have silent (quiet : call.claimedOn = none) (key : String) (found : (w'.table.claimStateMap[key]?).isSome) :
      (w.table.claimStateMap[key]?).isSome ∨ ∃ device, (none : Option (String × Nat)) = some (key, device) :=
    .inl (through.present_of_silent quiet found)
  have recorded {b d i : UInt8} {device : Nat} (claimed : call.claimedOn = some (b, d, i, device)) (key : String)
      (found : (w'.table.claimStateMap[key]?).isSome) : (w.table.claimStateMap[key]?).isSome ∨
        ∃ device', some (makeClaimKey b d i, device) = some (key, device') :=
    (through.present_of_claimed claimed found).imp_right fun same => ⟨device, by rw [same]⟩
  unfold World.advance at taken
  split at taken
  · split at taken
    · obtain ⟨device, -, rfl⟩ := Option.map_eq_some_iff.1 taken
      exact .inl ⟨rfl, rfl⟩
    · cases taken
      exact .inl ⟨rfl, rfl⟩
  · next t b d i force device =>
    cases taken
    exact .inr ⟨_, Records.claim rfl, rfl, recorded rfl⟩
  · split at taken <;> cases taken <;> exact .inl ⟨rfl, rfl⟩
  · split at taken
    · obtain ⟨device, -, rfl⟩ := Option.map_eq_some_iff.1 taken
      exact .inl ⟨rfl, rfl⟩
    · cases taken
      exact .inl ⟨rfl, rfl⟩
  · next t b d i force cb isRepeat device =>
    dsimp only at taken
    split at taken
    · cases taken
      exact .inr ⟨_, Records.claim rfl, rfl, recorded rfl⟩
    · next unrecorded =>
      cases taken
      have same := registerExclusiveCallback_unrecorded b d i t isRepeat w.table unrecorded
      refine .inr ⟨none, .nothing, rfl, fun key found => .inl ?_⟩
      change ((registerExclusiveCallback b d i t cb isRepeat env.addDeathRecipient
        w.table).claimStateMap[key]?).isSome at found
      rwa [same] at found
  · dsimp only at taken
    split at taken
    · cases taken
      exact .inr ⟨none, .nothing, rfl, silent rfl⟩
    · split at taken <;> cases taken <;> exact .inr ⟨none, .nothing, rfl, silent rfl⟩
  · cases taken
    exact .inr ⟨none, .nothing, rfl, silent rfl⟩
  · dsimp only at taken
    split at taken <;> cases taken <;> exact .inr ⟨none, .nothing, rfl, silent rfl⟩
  · cases taken
    exact .inr ⟨none, .nothing, rfl, silent rfl⟩
  · dsimp only at taken
    split at taken <;> cases taken
    · exact .inr ⟨none, .nothing, rfl, silent rfl⟩
    · exact .inl ⟨rfl, rfl⟩
  all_goals
    cases taken
    exact .inl ⟨rfl, rfl⟩

theorem World.mem_commit_origins {table : ClaimTable} {recorded : Option (String × Nat)} {key : String} {device : Nat}
    (member : device ∈ (w.commit table recorded).origins key) :
    (table.claimStateMap[key]?).isSome ∧ (device ∈ w.origins key ∨ recorded = some (key, device)) := by
  simp only [World.commit] at member
  split at member
  · cases member
  · next present =>
    refine ⟨by simpa [Option.isSome_iff_ne_none] using present, ?_⟩
    split at member
    · next key' device' =>
      split at member
      · next same =>
        rcases List.mem_cons.1 member with rfl | member
        · exact .inr (by rw [same])
        · exact .inl member
      · exact .inl member
    · exact .inl member

theorem World.commit_origins_ne_nil {table : ClaimTable} {recorded : Option (String × Nat)} {key : String}
    (present : (table.claimStateMap[key]?).isSome)
    (some : w.origins key ≠ [] ∨ ∃ device, recorded = some (key, device)) :
    (w.commit table recorded).origins key ≠ [] := by
  simp only [World.commit]
  rw [if_neg (by simpa [Option.isSome_iff_ne_none] using present)]
  rcases some with old | ⟨device, rfl⟩
  · split
    · split <;> simp [old]
    · exact old
  · simp

/-- A claim the driver accepts is made on the device attached then. -/
theorem World.advance_claimedOn (taken : w.advance call env = some w') {next : Call} (flying : next ∈ w'.calls)
    {b d i : UInt8} {device : Nat} (claimed : next.claimedOn = some (b, d, i, device)) :
    next ∈ w.calls ∨ w.attached b d = some device := by
  obtain ⟨calls, -, -⟩ := World.advance_calls taken
  rcases calls with calls | ⟨next', follows, calls⟩ <;> rw [calls] at flying
  · exact .inl (List.mem_of_mem_erase flying)
  · rcases List.mem_cons.1 flying with rfl | flying
    · cases follows with
      | claimed attached => cases claimed; exact .inr attached
      | accepted attached => cases claimed; exact .inr attached
      | _ => cases claimed
    · exact .inl (List.mem_of_mem_erase flying)

/-- Unless the call is the clearing itself, an address about to be cleared still is. -/
theorem World.Covers.advance {b d : UInt8} {device : Nat} (covers : w.Covers b d device)
    (other : ∀ t, call ≠ .delDevice t b d .entered) (taken : w.advance call env = some w') :
    w'.Covers b d device := by
  obtain ⟨calls, -, attached⟩ := World.advance_calls taken
  rcases covers with now | ⟨t, flying⟩
  · exact .inl (by rw [attached, now])
  · have still : .delDevice t b d .entered ∈ w.calls.erase call :=
      (List.mem_erase_of_ne (other t).symm).2 flying
    rcases calls with calls | ⟨next, -, calls⟩
    · exact .inr ⟨t, calls ▸ still⟩
    · exact .inr ⟨t, calls ▸ List.mem_cons_of_mem _ still⟩

theorem World.Current.known_advance (inv : w.Current) (taken : w.advance call env = some w') (key : String)
    (present : (w'.table.claimStateMap[key]?).isSome) :
    w'.origins key ≠ [] ∧ ∃ b d i, key = makeClaimKey b d i := by
  rcases World.advance_origins taken with ⟨table, origins⟩ | ⟨recorded, records, origins, before⟩
  · rw [table] at present
    rw [origins]
    exact inv.known key present
  · rw [origins]
    rcases before key present with old | ⟨device, rfl⟩
    · exact ⟨World.commit_origins_ne_nil present (.inl (inv.known key old).1), (inv.known key old).2⟩
    · refine ⟨World.commit_origins_ne_nil present (.inr ⟨device, rfl⟩), ?_⟩
      obtain ⟨b, d, i, -, same⟩ := records key device rfl
      exact ⟨b, d, i, same.symm⟩

theorem World.Current.advance (inv : w.Current) (flying : call ∈ w.calls) (guard : clearsBehind w (.advance call env))
    (taken : w.advance call env = some w') : w'.Current := by
  refine ⟨?_, ?_, inv.known_advance taken⟩
  · intro next member b d i device claimed
    by_cases clearing : ∃ t, call = .delDevice t b d .entered
    · obtain ⟨t, rfl⟩ := clearing
      cases taken
      rcases List.mem_cons.1 member with rfl | member
      · cases claimed
      · exact absurd claimed (guard next (List.mem_of_mem_erase member) i device)
    · have other : ∀ t, call ≠ .delDevice t b d .entered := fun t same => clearing ⟨t, same⟩
      rcases World.advance_claimedOn taken member claimed with before | now
      · exact (inv.flying next before b d i device claimed).advance other taken
      · exact World.Covers.advance (.inl now) other taken
  · intro b d i device member
    by_cases clearing : ∃ t, call = .delDevice t b d .entered
    · obtain ⟨t, rfl⟩ := clearing
      cases taken
      -- the entries of the address are gone, and with them their origins
      change device ∈ (w.commit (removeAllClaimByDevice b d w.table) none).origins _ at member
      obtain ⟨present, -⟩ := World.mem_commit_origins member
      have gone := @removeAllClaimByDevice_getElem? b d w.table (makeClaimKey b d i)
      rw [if_pos (comparePrefix_makeClaimKey.2 ⟨rfl, rfl⟩)] at gone
      rw [gone] at present
      cases present
    · have other : ∀ t, call ≠ .delDevice t b d .entered := fun t same => clearing ⟨t, same⟩
      rcases World.advance_origins taken with ⟨-, origins⟩ | ⟨recorded, records, origins, -⟩ <;> rw [origins] at member
      · exact (inv.recorded b d i device member).advance other taken
      · rcases (World.mem_commit_origins member).2 with old | rfl
        · exact (inv.recorded b d i device old).advance other taken
        · obtain ⟨b', d', i', claimed, same⟩ := records _ _ rfl
          obtain ⟨rfl, rfl, rfl⟩ := makeClaimKey_inj.1 same
          exact (inv.flying call flying _ _ _ _ claimed).advance other taken

end Step

/-! ### Runs -/

theorem World.mayStart_claimedOn {w : World} {call : Call} (may : w.mayStart call = true) : call.claimedOn = none := by
  unfold World.mayStart at may
  split at may <;> first | rfl | cases may

theorem World.start_table (w : World) (call : Call) :
    (w.start call).calls = call :: w.calls ∧ (w.start call).table = w.table ∧ (w.start call).origins = w.origins := by
  unfold World.start
  split <;> exact ⟨rfl, rfl, rfl⟩

theorem World.Covers.start {w : World} {call : Call} {b d : UInt8} {device : Nat} (covers : w.Covers b d device)
    (guard : clearsBehind w (.start call)) (may : w.mayStart call = true) : (w.start call).Covers b d device := by
  rcases covers with now | ⟨t, flying⟩
  · unfold World.start
    split
    · next t b' d' stage =>
      by_cases same : b = b' ∧ d = d'
      · obtain ⟨rfl, rfl⟩ := same
        have entered : stage = .entered := by
          cases stage with
          | entered => rfl
          | swept => cases may
          | closed => cases may
        exact .inr ⟨t, by rw [entered]; exact List.mem_cons_self ..⟩
      · exact .inl (by simp [same, now])
    · next b' d' =>
      have free : w.attached b' d' = none := guard
      have elsewhere : ¬ (b = b' ∧ d = d') := by
        rintro ⟨rfl, rfl⟩
        rw [now] at free
        cases free
      exact .inl (by simp [elsewhere, now])
    · exact .inl now
  · exact .inr ⟨t, by rw [(w.start_table call).1]; exact List.mem_cons_of_mem _ flying⟩

theorem World.Current.step {w w' : World} {action : Action} (inv : w.Current) (guard : clearsBehind w action)
    (taken : w.step action = some w') : w'.Current := by
  cases action with
  | start call =>
    simp only [World.step, Option.ite_none_right_eq_some, Option.some.injEq] at taken
    obtain ⟨may, rfl⟩ := taken
    obtain ⟨calls, table, origins⟩ := w.start_table call
    refine ⟨?_, ?_, ?_⟩
    · intro next flying b d i device claimed
      rw [calls] at flying
      rcases List.mem_cons.1 flying with rfl | flying
      · rw [World.mayStart_claimedOn may] at claimed
        cases claimed
      · exact (inv.flying next flying b d i device claimed).start guard may
    · intro b d i device member
      rw [origins] at member
      exact (inv.recorded b d i device member).start guard may
    · intro key present
      rw [table] at present
      rw [origins]
      exact inv.known key present
  | advance call env =>
    simp only [World.step, Option.ite_none_right_eq_some] at taken
    exact inv.advance taken.1 guard taken.2
  | clientDeath t =>
    cases taken
    exact ⟨inv.flying, inv.recorded, inv.known⟩

theorem World.current_of_reach {w : World} (reached : Reach World.step clearsBehind {} w) : w.Current := by
  have start : World.Current {} := ⟨nofun, nofun, fun key present => by simp at present⟩
  exact Reach.invariant World.Current start (fun _ _ _ inv guard taken => inv.step guard taken) reached

/-- Every claim recorded under `key` was made on the device attached at its address. -/
def World.MadeOnAttached (w : World) (key : String) : Prop :=
  ∃ b d i device, key = makeClaimKey b d i ∧ w.attached b d = some device ∧ device ∈ w.origins key ∧
    ∀ origin ∈ w.origins key, origin = device

theorem World.Current.madeOnAttached {w : World} (inv : w.Current) (quiet : w.calls = []) {key : String}
    (present : (w.table.claimStateMap[key]?).isSome) : w.MadeOnAttached key := by
  have attached : ∀ b d i device, device ∈ w.origins (makeClaimKey b d i) → w.attached b d = some device := by
    intro b d i device member
    rcases inv.recorded b d i device member with now | ⟨t, flying⟩
    · exact now
    · rw [quiet] at flying
      cases flying
  obtain ⟨some, b, d, i, rfl⟩ := inv.known key present
  obtain ⟨device, member⟩ := List.exists_mem_of_ne_nil _ some
  refine ⟨b, d, i, device, rfl, attached b d i device member, member, ?_⟩
  intro origin other
  have now := attached b d i origin other
  rw [attached b d i device member] at now
  exact (Option.some.inj now).symm

/-- In every run whose steps meet the condition, whenever no call is in flight every entry was made
on the device attached at its address, and a device attached then starts without an entry. -/
theorem claims_made_on_attached_device {w : World} (reached : Reach World.step clearsBehind {} w)
    (quiet : w.calls = []) :
    (∀ key, (w.table.claimStateMap[key]?).isSome → w.MadeOnAttached key) ∧
    (∀ b d w', clearsBehind w (.start (.addDevice b d)) → w.step (.start (.addDevice b d)) = some w' →
      ∀ i, w'.table.claimStateMap[makeClaimKey b d i]? = none) := by
  have inv := World.current_of_reach reached
  refine ⟨fun key present => inv.madeOnAttached quiet present, ?_⟩
  intro b d w' free taken i
  cases taken
  change w.table.claimStateMap[makeClaimKey b d i]? = none
  by_contra present
  obtain ⟨b', d', i', device, same, attached, -⟩ := inv.madeOnAttached quiet (Option.isSome_iff_ne_none.2 present)
  obtain ⟨rfl, rfl, rfl⟩ := makeClaimKey_inj.1 same
  exact absurd (attached.symm.trans free) (by simp)

/-- A normal claim on interface 0 of device 2 on bus 1, by client 8; the device there has this number. -/
def normalClaim (device : Nat) : List Action :=
  [.start (.claim ⟨8, by decide⟩ 1 2 0 1 none), .advance (.claim ⟨8, by decide⟩ 1 2 0 1 none) .allGranted,
    .advance (.claim ⟨8, by decide⟩ 1 2 0 1 (some device)) .allGranted]

/-- The device is attached and claimed, detached, and attached and claimed again: the entry is made on the second
device. -/
theorem claims_made_on_attached_device_first :
    ∃ w : World, w.calls = [] ∧ w.attached 1 2 = some 1 ∧ (w.table.claimStateMap[makeClaimKey 1 2 0]?).isSome ∧
      w.MadeOnAttached (makeClaimKey 1 2 0) := by
  have allowed : ∀ device, ∀ a ∈ normalClaim device, ∀ w, clearsBehind w a := by
    intro device a member w
    simp only [normalClaim, List.mem_cons, List.not_mem_nil, or_false] at member
    rcases member with rfl | rfl | rfl <;> trivial
  have attached : Reach World.step clearsBehind {} _ :=
    .step (a := .start (.addDevice 1 2)) .init rfl rfl
  have added := attached.step (a := Action.advance (.addDevice 1 2) .allGranted) trivial rfl
  have claimed := reach_of_runFrom (normalClaim 0) (allowed 0) added rfl
  have detached := claimed.step (a := Action.start (.delDevice ⟨8, by decide⟩ 1 2 .entered)) trivial rfl
  have swept := detached.step (a := Action.advance (.delDevice ⟨8, by decide⟩ 1 2 .entered) .allGranted)
    (fun call member => by rw [List.mem_singleton.1 member]; exact fun _ _ => nofun) rfl
  have closed := swept.step (a := Action.advance (.delDevice ⟨8, by decide⟩ 1 2 .swept) .allGranted) trivial rfl
  have gone := closed.step (a := Action.advance (.delDevice ⟨8, by decide⟩ 1 2 .closed) .allGranted) trivial rfl
  have attached' := gone.step (a := Action.start (.addDevice 1 2)) rfl rfl
  have added' := attached'.step (a := Action.advance (.addDevice 1 2) .allGranted) trivial rfl
  have claimed' := reach_of_runFrom (normalClaim 1) (allowed 1) added' rfl
  have present := (claims_made_on_attached_device claimed' rfl).1 (makeClaimKey 1 2 0)
  exact ⟨_, rfl, rfl, by decide +kernel, present (by decide +kernel)⟩

/-- A second attach at an address, with no detach between, leaves the claims of the first device. -/
theorem claims_outlive_replaced_device :
    ¬ ∀ w, Reach World.step anyStep {} w → w.calls = [] →
      ∀ key, (w.table.claimStateMap[key]?).isSome → w.MadeOnAttached key := by
  intro current
  let attach : List Action := [.start (.addDevice 1 2), .advance (.addDevice 1 2) .allGranted]
  have reached : Reach World.step anyStep {} _ :=
    reach_of_runFrom (attach ++ normalClaim 0 ++ attach) (fun _ _ _ => trivial) .init rfl
  obtain ⟨b, d, i, device, same, attached, member, -⟩ :=
    current _ reached rfl (makeClaimKey 1 2 0) (by decide +kernel)
  obtain ⟨rfl, rfl, rfl⟩ := makeClaimKey_inj.1 same
  cases attached
  exact absurd member (by decide +kernel)

end UsbManager.Claim
