import UsbManager.Claim.Holding

/-!
# Who loses an interface when the driver releases it

The service keeps one owner and one flag for an interface, while any number of clients may
hold it. A driver release is safe when no client but the releasing or the dead one still holds
the interface.

With two normal claims the flag is cleared by the first release, so the property fails; it
holds in the runs where a client that is not the recorded owner releases only while nobody
else has a normal claim, and where every exclusive claim that succeeds gets recorded.
-/

namespace UsbManager.Claim

open Transition

/-- The driver and `AddDeathRecipient` succeed. -/
def Env.Succeeds (env : Env) : Prop :=
  env.addDeathRecipient = true ∧ ∃ answer, env.host = .driver answer ∧ ∀ request, answer request = .uecOk

def driverSucceeds (_ : Holding) : Event → Prop
  | .call _ env => env.Succeeds
  | .clientDeath _ => True

/-- The client on whose behalf an operation may release an interface. -/
def Op.client : Op → TokenId
  | .claimInterface t _ _ _ _ | .claimInterfaceExclusive t _ _ _ _ _ | .releaseInterface t _ _ _
  | .close t _ _ | .delDevice t _ _ => t
  | .onRemoteDied _ r => r.tokenId

/-- Every interface the call makes the driver release is held by no other client. -/
def ReleasesOnlyOwn (s : Holding) (op : Op) (env : Env) : Prop :=
  ∀ b d i, .hdi (.releaseInterface b d i) ∈ (op.exec env s.table).effects →
    ∀ c ∈ s.claims, c.key = makeClaimKey b d i → c.tokenId = op.client

/-- The steps under which a flag is enough: an exclusive claim that gets past the checks and is
not a repeat brings a callback, and a client that is not the recorded owner releases only while
no other client has a normal claim. -/
def keepsTrack (s : Holding) : Event → Prop
  | .call (.claimInterfaceExclusive t b d i _ cb) env =>
    env.permitted = true → checkExclusiveClaim b d i t s.table = .ok false → cb.isSome = true
  | .call (.releaseInterface t b d i) env =>
    env.permitted = true → s.table.owner (makeClaimKey b d i) ≠ t →
      ∀ c ∈ s.claims, c.key = makeClaimKey b d i → c.exclusive = false → c.tokenId = t
  | _ => True

/-- A held normal claim has its flag, and a held exclusive claim its owner. -/
structure Holding.Inv (s : Holding) : Prop where
  normal : ∀ c ∈ s.claims, c.exclusive = false → s.table.normal c.key = true
  exclusive : ∀ c ∈ s.claims, c.exclusive = true → s.table.owner c.key = c.tokenId

/-! ### What a successful environment makes of a call -/

section Succeeds

variable {t : TokenId} {b d i force : UInt8} {env : Env} {table : ClaimTable}

theorem releaseInterface_of_succeeds (succeeds : env.Succeeds) (permitted : env.permitted = true) :
    (releaseInterface t b d i env table).ret = (releaseClaimState b d i t table).ret ∧
    (releaseInterface t b d i env table).effects =
      if (releaseClaimState b d i t table).ret = .uecOk ∧
          (releaseClaimState b d i t table).releaseToHdi = true then
        [.hdi (.releaseInterface b d i)]
      else [] := by
  obtain ⟨-, answer, host, ok⟩ := succeeds
  unfold releaseInterface
  simp only [permitted, host, HostManager.isNull, HostManager.call, ok]
  split_ifs <;> simp_all

theorem close_of_succeeds (succeeds : env.Succeeds) (permitted : env.permitted = true) :
    (close t b d env table).ret = .uecOk := by
  obtain ⟨-, answer, host, ok⟩ := succeeds
  simp [close, permitted, host, HostManager.isNull, HostManager.call, ok]

theorem close_denied (denied : env.permitted = false) :
    (close t b d env table).ret ≠ .uecOk ∧ (close t b d env table).table = table := by
  simp [close, denied]

theorem releaseInterface_denied (denied : env.permitted = false) :
    (releaseInterface t b d i env table).ret ≠ .uecOk ∧ (releaseInterface t b d i env table).table = table ∧
      (releaseInterface t b d i env table).effects = [] := by
  simp [releaseInterface, denied]

theorem claimInterfaceExclusive_permitted {cb : Option Callback}
    (ok : (claimInterfaceExclusive t b d i force cb env table).ret = .uecOk) : env.permitted = true := by
  rw [← Bool.not_eq_false]
  intro denied
  simp [claimInterfaceExclusive, denied] at ok

theorem host_call_effects {host : HostManager HdiCall} {request : HdiCall} {effect : Effect}
    (made : effect ∈ (host.call request).2.map Effect.hdi) : effect = .hdi request := by
  obtain ⟨call, reached, rfl⟩ := List.mem_map.1 made
  rw [HostManager.mem_call reached]

theorem close_effects {effect : Effect} (made : effect ∈ (close t b d env table).effects) :
    effect = .hdi (.closeDevice b d) := by
  unfold close at made
  dsimp only at made
  split_ifs at made
  · cases made
  · cases made
  · exact host_call_effects made

theorem claimInterface_no_release {b' d' i' : UInt8} :
    .hdi (.releaseInterface b' d' i') ∉ (claimInterface t b d i force env table).effects := by
  intro made
  unfold claimInterface at made
  dsimp only at made
  split_ifs at made
  · cases made
  · cases made
  · cases host_call_effects made
  · rcases List.mem_append.1 made with made | made
    · cases host_call_effects made
    · simp at made

theorem claimInterfaceExclusive_no_release {cb : Option Callback} {b' d' i' : UInt8} :
    .hdi (.releaseInterface b' d' i') ∉ (claimInterfaceExclusive t b d i force cb env table).effects := by
  intro made
  unfold claimInterfaceExclusive at made
  split_ifs at made
  · cases made
  · cases made
  · split at made
    · cases made
    · dsimp only at made
      split_ifs at made <;> cases host_call_effects made

end Succeeds

/-! ### One event -/

section Step

variable {s : Holding} {t : TokenId} {b d i force : UInt8} {env : Env}

theorem Holding.Inv.mono {claims : List Held} (inv : s.Inv) (fewer : ∀ c ∈ claims, c ∈ s.claims) :
    Holding.Inv { s with claims := claims } :=
  ⟨fun c member => inv.normal c (fewer c member), fun c member => inv.exclusive c (fewer c member)⟩

theorem Holding.Inv.claimInterface (inv : s.Inv) :
    Holding.Inv ⟨(claimInterface t b d i force env s.table).table,
      (Op.claimInterface t b d i force).claimsAfter (claimInterface t b d i force env s.table).ret s.claims⟩ := by
  rcases claimInterface_cases t b d i force env s.table with ⟨ok, left, -⟩ | ⟨failed, left⟩
  · simp only [left, Op.claimsAfter, ok, if_true]
    constructor
    · intro c member normal
      rw [notifyExclusiveOwner_normal]
      split
      · rfl
      · next other =>
        rcases List.mem_cons.1 member with rfl | member
        · exact absurd rfl other
        · exact inv.normal c member normal
    · intro c member exclusive
      rw [notifyExclusiveOwner_owner]
      rcases List.mem_cons.1 member with rfl | member
      · cases exclusive
      · exact inv.exclusive c member exclusive
  · simpa only [left, Op.claimsAfter, failed, if_false] using inv

theorem Holding.Inv.claimInterfaceExclusive {cb : Option Callback} (inv : s.Inv) (succeeds : env.Succeeds)
    (recorded : env.permitted = true → checkExclusiveClaim b d i t s.table = .ok false → cb.isSome = true) :
    Holding.Inv ⟨(claimInterfaceExclusive t b d i force cb env s.table).table,
      (Op.claimInterfaceExclusive t b d i force cb).claimsAfter
        (claimInterfaceExclusive t b d i force cb env s.table).ret s.claims⟩ := by
  rcases claimInterfaceExclusive_cases t b d i force cb env s.table with ⟨isRepeat, checked, ok, left⟩ | ⟨failed, left⟩
  · simp only [left, Op.claimsAfter, ok, if_true, succeeds.1]
    cases cb with
    | none =>
      refine ⟨fun c member normal => ?_, fun c member exclusive => ?_⟩ <;>
        rcases List.mem_cons.1 member with rfl | member
      · cases normal
      · exact inv.normal c member normal
      · cases isRepeat with
        | false => cases recorded (claimInterfaceExclusive_permitted ok) checked
        | true => exact checkExclusiveClaim_repeat checked
      · exact inv.exclusive c member exclusive
    | some cb =>
      refine ⟨fun c member normal => ?_, fun c member exclusive => ?_⟩
      · rw [registerExclusiveCallback_normal]
        rcases List.mem_cons.1 member with rfl | member
        · cases normal
        · exact inv.normal c member normal
      · rw [registerExclusiveCallback_owner]
        rcases List.mem_cons.1 member with rfl | member
        · cases isRepeat with
          | false => simp [Held.key]
          | true => simpa [Held.key] using checkExclusiveClaim_repeat checked
        · have owner := inv.exclusive c member exclusive
          rw [if_neg, owner]
          -- a fresh claim found no owner, so no client holds the interface exclusively
          rintro ⟨same, rfl⟩
          have free := (checkExclusiveClaim_fresh checked).1
          rw [same, owner] at free
          exact c.tokenId.2 free
  · simpa only [left, Op.claimsAfter, failed, if_false] using inv

theorem Holding.Inv.releaseInterface (inv : s.Inv) (succeeds : env.Succeeds)
    (alone : env.permitted = true → s.table.owner (makeClaimKey b d i) ≠ t →
      ∀ c ∈ s.claims, c.key = makeClaimKey b d i → c.exclusive = false → c.tokenId = t) :
    Holding.Inv ⟨(releaseInterface t b d i env s.table).table,
      (Op.releaseInterface t b d i).claimsAfter (releaseInterface t b d i env s.table).ret s.claims⟩ := by
  cases permitted : env.permitted with
  | false =>
    obtain ⟨failed, left, -⟩ := @releaseInterface_denied t b d i env s.table permitted
    simpa only [left, Op.claimsAfter, failed, if_false] using inv
  | true =>
    rw [(releaseInterface_of_succeeds succeeds permitted).1, releaseInterface_table, if_pos permitted]
    by_cases ok : (releaseClaimState b d i t s.table).ret = .uecOk
    · simp only [Op.claimsAfter, ok, if_true]
      refine ⟨fun c member normal => ?_, fun c member exclusive => ?_⟩ <;>
        obtain ⟨held, others⟩ := List.mem_filter.1 member
      · rw [releaseClaimState_normal, if_neg, inv.normal c held normal]
        rintro ⟨same, foreign⟩
        rw [← same] at foreign
        have mine := alone permitted foreign c held same.symm normal
        obtain ⟨hb, hd, hi⟩ := Held.key_eq.1 same.symm
        exact absurd others (by simp [hb, hd, hi, mine])
      · have owner := inv.exclusive c held exclusive
        rw [releaseClaimState_owner, if_neg, owner]
        rintro ⟨same, mine⟩
        have token : c.tokenId = t := Subtype.ext (owner.symm.trans mine)
        obtain ⟨hb, hd, hi⟩ := Held.key_eq.1 same.symm
        exact absurd others (by simp [hb, hd, hi, token])
    · -- a refused release leaves the entry: it is owned by another client and has no flag to clear
      simp only [Op.claimsAfter, ok, if_false]
      rw [releaseClaimState_ret, not_or, not_or] at ok
      obtain ⟨foreign, -, unset⟩ := ok
      refine ⟨fun c member normal => ?_, fun c member exclusive => ?_⟩
      · have flag := inv.normal c member normal
        rw [releaseClaimState_normal, if_neg, flag]
        rintro ⟨same, -⟩
        rw [same] at unset
        exact unset flag
      · rw [releaseClaimState_owner, if_neg, inv.exclusive c member exclusive]
        rintro ⟨same, mine⟩
        rw [same] at foreign
        exact foreign mine

theorem Holding.Inv.close (inv : s.Inv) (succeeds : env.Succeeds) :
    Holding.Inv ⟨(close t b d env s.table).table,
      (Op.close t b d).claimsAfter (close t b d env s.table).ret s.claims⟩ := by
  cases permitted : env.permitted with
  | false =>
    obtain ⟨failed, left⟩ := @close_denied t b d env s.table permitted
    simpa only [left, Op.claimsAfter, failed, if_false] using inv
  | true =>
    simp only [close_of_succeeds succeeds permitted, Op.claimsAfter, if_true, close_table, permitted]
    refine ⟨fun c member normal => ?_, fun c member exclusive => ?_⟩ <;>
      obtain ⟨held, others⟩ := List.mem_filter.1 member
    · rw [removeExclusiveClaimByDevice_normal]
      exact inv.normal c held normal
    · have owner := inv.exclusive c held exclusive
      rw [removeExclusiveClaimByDevice_owner, if_neg, owner]
      rintro ⟨same, mine⟩
      obtain ⟨hb, hd⟩ := Held.comparePrefix_key.1 same
      have token : c.tokenId = t := Subtype.ext (owner.symm.trans mine)
      exact absurd others (by simp [hb, hd, token])

theorem Holding.Inv.onRemoteDied {cb : Callback} {r : ClaimDeathRecipient} (inv : s.Inv) :
    Holding.Inv ⟨(onRemoteDied cb r env s.table).table, s.claims.filter fun c => c.tokenId ≠ r.tokenId⟩ := by
  rw [onRemoteDied_table]
  refine ⟨fun c member normal => ?_, fun c member exclusive => ?_⟩ <;>
    obtain ⟨held, others⟩ := List.mem_filter.1 member
  · rw [onRemoteDied_normal]
    exact inv.normal c held normal
  · have owner := inv.exclusive c held exclusive
    rw [onRemoteDied_owner, if_neg, owner]
    rintro ⟨-, mine⟩
    exact of_decide_eq_true others (Subtype.ext (owner.symm.trans mine))

theorem Holding.Inv.delDevice (inv : s.Inv) :
    Holding.Inv ⟨(delDevice t b d env s.table).table, s.claims.filter fun c => ¬ (c.b = b ∧ c.d = d)⟩ := by
  rw [Claim.delDevice, close_table]
  refine ⟨fun c member normal => ?_, fun c member exclusive => ?_⟩ <;>
    obtain ⟨held, others⟩ := List.mem_filter.1 member <;>
    have elsewhere : ¬ comparePrefix c.key (claimPrefix b d) = true :=
      fun same => of_decide_eq_true others (Held.comparePrefix_key.1 same)
  · split <;> simp [elsewhere, inv.normal c held normal]
  · split <;> simp [elsewhere, inv.exclusive c held exclusive]

theorem Holding.Inv.step {s' : Holding} {event : Event} (inv : s.Inv) (succeeds : driverSucceeds s event)
    (tracked : keepsTrack s event) (taken : s.step event = some s') : s'.Inv := by
  cases event with
  | clientDeath t =>
    cases taken
    exact inv.mono fun c member => (List.mem_filter.1 member).1
  | call op env =>
    cases taken
    cases op with
    | claimInterface => exact inv.claimInterface
    | claimInterfaceExclusive => exact inv.claimInterfaceExclusive succeeds tracked
    | releaseInterface => exact inv.releaseInterface succeeds tracked
    | close => exact inv.close succeeds
    | onRemoteDied => exact inv.onRemoteDied
    | delDevice => exact inv.delDevice

theorem Holding.Inv.releasesOnlyOwn {op : Op} (inv : s.Inv) (succeeds : env.Succeeds)
    (tracked : keepsTrack s (.call op env)) : ReleasesOnlyOwn s op env := by
  intro b d i made c held same
  have normal := inv.normal c held
  have exclusive := inv.exclusive c held
  cases op with
  | claimInterface => exact absurd made claimInterface_no_release
  | claimInterfaceExclusive => exact absurd made claimInterfaceExclusive_no_release
  | close => cases close_effects made
  | delDevice => cases close_effects made
  | releaseInterface t b' d' i' =>
    cases permitted : env.permitted with
    | false =>
      rw [Op.exec, (releaseInterface_denied permitted).2.2] at made
      cases made
    | true =>
      rw [Op.exec, (releaseInterface_of_succeeds succeeds permitted).2] at made
      split at made
      · next reaches =>
        obtain ⟨ok, toHdi⟩ := reaches
        cases List.mem_singleton.1 made
        rw [same] at normal exclusive
        cases kind : c.exclusive with
        | true =>
          rcases (releaseClaimState_releaseToHdi ok).1 toHdi with ⟨mine, -⟩ | free
          · exact Subtype.ext ((exclusive kind).symm.trans mine)
          · exact absurd ((exclusive kind).symm.trans free) c.tokenId.2
        | false =>
          rcases (releaseClaimState_releaseToHdi ok).1 toHdi with ⟨-, unset⟩ | free
          · exact absurd (normal kind) (by simp [unset])
          · exact tracked permitted (by rw [free]; exact t.2.symm) c held same kind
      · cases made
  | onRemoteDied cb r =>
    simp only [Op.exec, Claim.onRemoteDied] at made
    split at made
    · next needed =>
      obtain ⟨mine, unset⟩ := onRemoteDied_needReleaseHdi.1 (Bool.and_eq_true_iff.1 needed).1
      cases host_call_effects made
      rw [same] at normal exclusive
      cases kind : c.exclusive with
      | true => exact Subtype.ext ((exclusive kind).symm.trans mine)
      | false => exact absurd ((normal kind).symm.trans unset) (by decide)
    · cases made

end Step

/-- In every run whose steps keep track of the holders, no step that does makes the driver release
an interface that a client other than the releasing or the dead one holds. -/
theorem releaseInterface_only_own {s : Holding} {op : Op} {env : Env}
    (reached : Reach Holding.step (fun s event => driverSucceeds s event ∧ keepsTrack s event) {} s)
    (succeeds : env.Succeeds) (tracked : keepsTrack s (.call op env)) : ReleasesOnlyOwn s op env := by
  have start : Holding.Inv {} := ⟨nofun, nofun⟩
  have inv := Reach.invariant Holding.Inv start (fun _ _ _ inv met taken => inv.step met.1 met.2 taken) reached
  exact inv.releasesOnlyOwn succeeds tracked

theorem Env.succeeds_allGranted : Env.allGranted.Succeeds := ⟨rfl, _, rfl, fun _ => rfl⟩

/-- Two clients claim an interface, one of them closes the device, and the release of the other reaches the
driver. -/
theorem releaseInterface_only_own_single :
    ∃ s, Reach Holding.step (fun s event => driverSucceeds s event ∧ keepsTrack s event) {} s ∧
      s.claims = [⟨1, 2, 0, ⟨5, by decide⟩, false⟩] ∧
      .hdi (.releaseInterface 1 2 0) ∈ ((Op.releaseInterface ⟨5, by decide⟩ 1 2 0).exec .allGranted s.table).effects ∧
      ReleasesOnlyOwn s (.releaseInterface ⟨5, by decide⟩ 1 2 0) .allGranted := by
  let first : TokenId := ⟨5, by decide⟩
  let second : TokenId := ⟨6, by decide⟩
  let claim (t : TokenId) : Event := .call (.claimInterface t 1 2 0 1) .allGranted
  let close : Event := .call (.close second 1 2) .allGranted
  have once : Reach Holding.step (fun s event => driverSucceeds s event ∧ keepsTrack s event) {} _ :=
    .step (a := claim first) .init ⟨Env.succeeds_allGranted, trivial⟩ rfl
  have twice := once.step (a := claim second) ⟨Env.succeeds_allGranted, trivial⟩ rfl
  have closed := twice.step (a := close) ⟨Env.succeeds_allGranted, trivial⟩ rfl
  refine ⟨_, closed, by decide +kernel, by decide +kernel, ?_⟩
  refine releaseInterface_only_own closed Env.succeeds_allGranted fun _ _ => ?_
  decide +kernel

/-- Two clients claim an interface normally, and the release of the first reaches the driver while
the second still holds it. -/
theorem releaseInterface_takes_from_other :
    ¬ ∀ s op env, Reach Holding.step driverSucceeds {} s → env.Succeeds → ReleasesOnlyOwn s op env := by
  intro safe
  let first : TokenId := ⟨5, by decide⟩
  let second : TokenId := ⟨6, by decide⟩
  let claim (t : TokenId) : Event := .call (.claimInterface t 1 2 0 1) .allGranted
  have once : Reach Holding.step driverSucceeds {} _ :=
    .step (a := claim first) .init Env.succeeds_allGranted rfl
  have twice := Reach.step (a := claim second) once Env.succeeds_allGranted rfl
  have own := safe _ (.releaseInterface first 1 2 0) .allGranted twice Env.succeeds_allGranted 1 2 0
    (by decide +kernel) ⟨1, 2, 0, second, false⟩ (by decide +kernel) rfl
  exact absurd own (by decide)

end UsbManager.Claim
