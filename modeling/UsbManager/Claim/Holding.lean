import UsbManager.Claim.Sections
import UsbManager.Lib.Transition

/-!
# The clients that hold a claim

The claim table together with the claims its clients were granted and have not given up, over
sequential runs of service calls and client deaths. The service itself does not keep this list.
-/

namespace UsbManager.Claim

/-- A claim a client was granted and has not given up. -/
structure Held where
  b : UInt8
  d : UInt8
  i : UInt8
  tokenId : TokenId
  exclusive : Bool
  deriving DecidableEq

def Held.key (held : Held) : String := makeClaimKey held.b held.d held.i

/-- A claim table with the claims the clients hold. -/
structure Holding where
  table : ClaimTable := {}
  claims : List Held := []

/-- A service call, or a client that dies (its death recipients run as calls). -/
inductive Event where
  | call (op : Op) (env : Env)
  | clientDeath (tokenId : TokenId)

/-- The claims held after a call returned `ret`: a successful claim adds one, and a successful
release or close, a death and a lost device drop those they end. -/
def Op.claimsAfter (op : Op) (ret : UsbErrCode) (claims : List Held) : List Held :=
  match op with
  | .claimInterface t b d i _ => if ret = .uecOk then ⟨b, d, i, t, false⟩ :: claims else claims
  | .claimInterfaceExclusive t b d i _ _ => if ret = .uecOk then ⟨b, d, i, t, true⟩ :: claims else claims
  | .releaseInterface t b d i =>
    if ret = .uecOk then claims.filter fun c => ¬ (c.b = b ∧ c.d = d ∧ c.i = i ∧ c.tokenId = t) else claims
  | .close t b d =>
    if ret = .uecOk then claims.filter fun c => ¬ (c.b = b ∧ c.d = d ∧ c.tokenId = t) else claims
  | .onRemoteDied _ r => claims.filter fun c => c.tokenId ≠ r.tokenId
  | .delDevice _ b d => claims.filter fun c => ¬ (c.b = b ∧ c.d = d)

def Holding.step (s : Holding) : Event → Option Holding
  | .call op env =>
    let outcome := op.exec env s.table
    some ⟨outcome.table, op.claimsAfter outcome.ret s.claims⟩
  | .clientDeath t => some { s with claims := s.claims.filter fun c => c.tokenId ≠ t }

theorem Held.key_eq {c : Held} {b d i : UInt8} : c.key = makeClaimKey b d i ↔ c.b = b ∧ c.d = d ∧ c.i = i := by
  rw [Held.key, makeClaimKey_inj]

theorem Held.comparePrefix_key {c : Held} {b d : UInt8} :
    comparePrefix c.key (claimPrefix b d) = true ↔ c.b = b ∧ c.d = d := by
  rw [Held.key, comparePrefix_makeClaimKey]
  exact and_congr eq_comm eq_comm

end UsbManager.Claim
