import UsbManager.Claim.Sections

/-!
# What an exclusive claim is worth

`ClaimInterfaceExclusive` claims the interface at the driver first and records the owner together with
its callback. A caller that is not recorded is told that the claim succeeded all the same.
-/

namespace UsbManager.Claim

variable {b d i force : UInt8} {t : TokenId} {cb : Option Callback} {env : Env} {table : ClaimTable}

/-- Whether the driver has the interface claimed after these effects, if it had not before. -/
def leftClaimed (host : HostManager HdiCall) (b d i : UInt8) (effects : List Effect) : Bool :=
  effects.foldl (fun claimed effect =>
    match effect with
    | .onConflict _ _ _ _ => claimed
    | .hdi call =>
      if (host.call call).1 ≠ .uecOk then claimed
      else
        match call with
        | .claimInterface b' d' i' _ => if (b', d', i') = (b, d, i) then true else claimed
        | .releaseInterface b' d' i' => if (b', d', i') = (b, d, i) then false else claimed
        | .closeDevice b' d' => if (b', d') = (b, d) then false else claimed) false

/-- The interface is the client's: the table says so, the transfers of others are denied while no normal claim is
recorded, and no other exclusive claim succeeds. -/
structure Owns (table : ClaimTable) (t : TokenId) (b d i : UInt8) : Prop where
  owner : table.owner (makeClaimKey b d i) = t
  transfer : ∀ t' : TokenId, t' ≠ t → checkExclusiveTransfer b d i t' table =
    if table.normal (makeClaimKey b d i) then .uecOk else .uecServiceIoException
  refuses : ∀ (t' : TokenId) force cb env, t' ≠ t → (claimInterfaceExclusive t' b d i force cb env table).ret ≠ .uecOk

/-- An exclusive claim that succeeds makes an owner, and one that does not make an owner fails and leaves nothing
claimed at the driver. -/
structure Honest (t : TokenId) (b d i : UInt8) (host : HostManager HdiCall) (out : Outcome) : Prop where
  owns : out.ret = .uecOk → Owns out.table t b d i
  fails : out.table.owner (makeClaimKey b d i) ≠ t →
    out.ret ≠ .uecOk ∧ leftClaimed host b d i out.effects = false

/-! ### The owner -/

section Owner

/-- The check of an exclusive claim, by what the table says of the interface. -/
theorem checkExclusiveClaim_eq (b d i : UInt8) (t : TokenId) (table : ClaimTable) :
    checkExclusiveClaim b d i t table =
      if table.owner (makeClaimKey b d i) = t then .ok true
      else if table.owner (makeClaimKey b d i) ≠ 0 ∨ table.normal (makeClaimKey b d i) = true then
        .error .uecInterfaceBusy
      else .ok false := by
  have nonzero := t.2
  rw [ClaimTable.owner_eq, ClaimTable.normal_eq]
  unfold checkExclusiveClaim
  cases table.claimStateMap[makeClaimKey b d i]? with
  | none => simp [nonzero.symm]
  | some state =>
    simp only [Option.getD_some]
    split_ifs <;> simp_all

theorem checkExclusiveTransfer_eq (b d i : UInt8) (t : TokenId) (table : ClaimTable) :
    checkExclusiveTransfer b d i t table =
      if table.owner (makeClaimKey b d i) ≠ 0 ∧ table.normal (makeClaimKey b d i) = false ∧
          table.owner (makeClaimKey b d i) ≠ t then .uecServiceIoException
      else .uecOk := by
  rw [ClaimTable.owner_eq, ClaimTable.normal_eq]
  unfold checkExclusiveTransfer
  cases table.claimStateMap[makeClaimKey b d i]? with
  | none => simp
  | some state => rfl

theorem Owns.of_owner (owner : table.owner (makeClaimKey b d i) = t) : Owns table t b d i := by
  have nonzero : table.owner (makeClaimKey b d i) ≠ 0 := owner ▸ t.2
  have foreign : ∀ t' : TokenId, t' ≠ t → table.owner (makeClaimKey b d i) ≠ t' := by
    intro t' other same
    exact other (Subtype.ext (same.symm.trans owner))
  refine ⟨owner, fun t' other => ?_, fun t' force cb env other => ?_⟩
  · rw [checkExclusiveTransfer_eq]
    cases table.normal (makeClaimKey b d i) with
    | false => exact if_pos ⟨nonzero, rfl, foreign t' other⟩
    | true => exact if_neg fun denied => Bool.noConfusion denied.2.1
  · have busy : checkExclusiveClaim b d i t' table = .error .uecInterfaceBusy := by
      rw [checkExclusiveClaim_eq, if_neg (foreign t' other), if_pos (.inl nonzero)]
    obtain ⟨isRepeat, checked, -⟩ | ⟨failed, -⟩ := claimInterfaceExclusive_cases t' b d i force cb env table
    · rw [busy] at checked
      cases checked
    · exact failed

end Owner

/-! ### The call -/

section Call

/-- The call ends with an error: it is not permitted, the interface is taken, or the driver does not claim it. -/
def Refused (t : TokenId) (b d i force : UInt8) (env : Env) (table : ClaimTable) : Prop :=
  env.permitted = false ∨ checkExclusiveClaim b d i t table = .error .uecInterfaceBusy ∨
    (env.host.call (.claimInterface b d i force)).1 ≠ .uecOk

theorem claimInterfaceExclusive_refused (refused : Refused t b d i force env table) (cb : Option Callback) :
    (claimInterfaceExclusive t b d i force cb env table).ret ≠ .uecOk ∧
      (claimInterfaceExclusive t b d i force cb env table).table = table ∧
      leftClaimed env.host b d i (claimInterfaceExclusive t b d i force cb env table).effects = false := by
  unfold claimInterfaceExclusive
  by_cases permitted : env.permitted = false
  · rw [if_pos permitted]
    exact ⟨nofun, rfl, rfl⟩
  rw [if_neg permitted]
  split_ifs
  · exact ⟨nofun, rfl, rfl⟩
  cases checked : checkExclusiveClaim b d i t table with
  | error busy => exact ⟨checkExclusiveClaim_error checked, rfl, rfl⟩
  | ok isRepeat =>
    have failed : (env.host.call (.claimInterface b d i force)).1 ≠ .uecOk := by
      obtain denied | busy | failed := refused
      · exact absurd denied permitted
      · rw [checked] at busy
        cases busy
      · exact failed
    dsimp only
    rw [if_pos failed]
    refine ⟨failed, rfl, ?_⟩
    cases host : env.host with
    | null => rfl
    | noInterface => rfl
    | driver answer =>
      rw [host] at failed
      exact if_pos failed

theorem claimInterfaceExclusive_granted (granted : ¬ Refused t b d i force env table) (cb : Option Callback) :
    (claimInterfaceExclusive t b d i force cb env table).ret = .uecOk ∧
      (claimInterfaceExclusive t b d i force cb env table).table =
        registerExclusiveCallback b d i t cb (table.owner (makeClaimKey b d i) = t) env.addDeathRecipient table := by
  unfold Refused at granted
  push Not at granted
  obtain ⟨permitted, free, ok⟩ := granted
  have present : env.host.isNull = false := by
    cases host : env.host with
    | null =>
      rw [host] at ok
      cases ok
    | noInterface => rfl
    | driver answer => rfl
  rw [checkExclusiveClaim_eq] at free
  unfold claimInterfaceExclusive
  rw [if_neg permitted, present, if_neg Bool.false_ne_true, checkExclusiveClaim_eq]
  split_ifs at free ⊢ with own taken
  · dsimp only
    rw [if_neg (not_not.2 ok)]
    simp only [own, decide_true, and_self]
  · exact absurd rfl free
  · dsimp only
    rw [if_neg (not_not.2 ok)]
    simp only [own, decide_false, and_self]

/-- Who is recorded after a call that succeeds. -/
theorem registerExclusiveCallback_recorded (added : Bool) :
    (registerExclusiveCallback b d i t cb (table.owner (makeClaimKey b d i) = t) added table).owner
        (makeClaimKey b d i) = t ↔
      table.owner (makeClaimKey b d i) = t ∨ (cb ≠ none ∧ added = true) := by
  cases cb with
  | none => simp [registerExclusiveCallback]
  | some cb =>
    cases added with
    | false => simp [registerExclusiveCallback]
    | true => by_cases own : table.owner (makeClaimKey b d i) = t <;> simp [own]

end Call

/-- A call of `ClaimInterfaceExclusive` is honest exactly if it is refused, or its caller owns the interface already,
or it has a callback whose death recipient is registered. -/
theorem exclusive_claim_honest_iff (t : TokenId) (b d i force : UInt8) (cb : Option Callback) (env : Env)
    (table : ClaimTable) :
    Honest t b d i env.host (claimInterfaceExclusive t b d i force cb env table) ↔
      Refused t b d i force env table ∨ table.owner (makeClaimKey b d i) = t ∨
        (cb ≠ none ∧ env.addDeathRecipient = true) := by
  by_cases refused : Refused t b d i force env table
  · obtain ⟨failed, -, clean⟩ := claimInterfaceExclusive_refused refused cb
    exact iff_of_true ⟨fun ok => absurd ok failed, fun _ => ⟨failed, clean⟩⟩ (.inl refused)
  · obtain ⟨ok, left⟩ := claimInterfaceExclusive_granted refused cb
    have recorded := @registerExclusiveCallback_recorded b d i t cb table env.addDeathRecipient
    rw [← left] at recorded
    constructor
    · exact fun honest => .inr (recorded.1 (honest.owns ok).owner)
    · rintro (impossible | reason)
      · exact absurd impossible refused
      · have owner := recorded.2 reason
        exact ⟨fun _ => .of_owner owner, fun none => absurd owner none⟩

/-- `AddDeathRecipient` fails and all else is granted. -/
def unregistered : Env := { Env.allGranted with addDeathRecipient := false }

/-- A client claims an interface with these arguments, from the start. -/
def firstClaim (client : TokenId) (cb : Option Callback) (env : Env) : Outcome :=
  claimInterfaceExclusive client 1 2 0 1 cb env {}

/-- Without a callback, or when the death recipient of its callback is not registered, client 5 is told that it has
the interface; the driver has it claimed, and the next client gets it. -/
theorem exclusive_claim_unrecorded :
    ((firstClaim ⟨5, by decide⟩ none .allGranted).ret = .uecOk ∧
      (firstClaim ⟨5, by decide⟩ none .allGranted).table.owner (makeClaimKey 1 2 0) = 0 ∧
      leftClaimed Env.allGranted.host 1 2 0 (firstClaim ⟨5, by decide⟩ none .allGranted).effects = true ∧
      (claimInterfaceExclusive ⟨6, by decide⟩ 1 2 0 1 (some 7) .allGranted
        (firstClaim ⟨5, by decide⟩ none .allGranted).table).ret = .uecOk) ∧
    (firstClaim ⟨5, by decide⟩ (some 7) unregistered).ret = .uecOk ∧
      (firstClaim ⟨5, by decide⟩ (some 7) unregistered).table.owner (makeClaimKey 1 2 0) = 0 ∧
      leftClaimed unregistered.host 1 2 0 (firstClaim ⟨5, by decide⟩ (some 7) unregistered).effects = true := by
  decide +kernel

end UsbManager.Claim
