import UsbManager.Right.Effects

/-!
# The rights of a run

A run of the rights manager from the empty table, on a store that does not fail. `HasRight` answers
for a key from the last operation that affected it, which are few: its own grants and removals, and
the clean-ups that select its record.
-/

namespace UsbManager.Right

open Rdb

inductive Op where
  | addDeviceRight (p : Platform) (k : Key)
  | addDeviceRightOfToken (p : Platform) (deviceName tokenIdStr : String)
  | removeDeviceRight (k : Key)
  | cancelDeviceRight (k : Key)
  | removeDeviceAllRight (p : Platform) (deviceName : String)
  | cleanUpRightExpired (p : Platform) (devices : List String)
  | tidyUpRight (p : Platform) (choose : UInt32)
  | cleanUp (p : Platform) (c : CleanUp)

def Op.exec (db : UsbRightDataBase) (op : Op) (s : Store Row) : Store Row :=
  match op with
  | .addDeviceRight p k => (Right.addDeviceRight db p k.deviceName k.bundleName k.tokenId k.uid s).2
  | .addDeviceRightOfToken p deviceName tokenIdStr => (Right.addDeviceRightOfToken db p deviceName tokenIdStr s).2
  | .removeDeviceRight k => (Right.removeDeviceRight db k.deviceName k.bundleName k.tokenId k.uid s).2
  | .cancelDeviceRight k => (Right.cancelDeviceRight db k.deviceName k.bundleName k.tokenId k.uid s).2
  | .removeDeviceAllRight p deviceName => (Right.removeDeviceAllRight db p deviceName s).2
  | .cleanUpRightExpired p devices => (Right.cleanUpRightExpired db p devices s).2
  | .tidyUpRight p choose => (Right.tidyUpRight db p choose s).2
  | .cleanUp p c => (c.run db p s).2

def run (db : UsbRightDataBase) (ops : List Op) : Store Row := ops.foldl (fun s op => op.exec db s) {}

theorem run_append_singleton (db : UsbRightDataBase) (ops : List Op) (op : Op) :
    run db (ops ++ [op]) = op.exec db (run db ops) := by
  simp [run]

/-! ### Clean-ups in a row -/

/-- The clean-ups of `TidyUpRight`. -/
def tidyUps (p : Platform) (choose : UInt32) : List CleanUp :=
  if choose = tightUpUsbRightRecordNone then []
  else if choose ||| tightUpUsbRightRecordAll ≠ tightUpUsbRightRecordAll then []
  else if p.getCurrentUserId = usbRightUseridConsole then []
  else
    (if choose &&& tightUpUsbRightRecordAppUninstalled ≠ 0 then [.appUninstalled p.getCurrentUserId] else []) ++
    ((if choose &&& tightUpUsbRightRecordUserDeleted ≠ 0 then [.userDeleted] else []) ++
    ((if choose &&& tightUpUsbRightRecordExpired ≠ 0 then [.normalExpired p.getCurrentUserId] else []) ++
    (if choose &&& tightUpUsbRightRecordAppReinstalled ≠ 0 then [.appReinstalled p.getCurrentUserId] else [])))

/-- The clean-ups that an operation is made of, if it is made of clean-ups. -/
def Op.cleanUps : Op → Option (Platform × List CleanUp)
  | .removeDeviceAllRight p deviceName => some (p, .temporaryExpired deviceName :: tidyUps p tightUpUsbRightRecordAll)
  | .cleanUpRightExpired p devices =>
    some (p, devices.map .temporaryExpired ++ [.normalExpired p.getCurrentUserId])
  | .tidyUpRight p choose => some (p, tidyUps p choose)
  | .cleanUp p c => some (p, [c])
  | _ => none

def runAll (db : UsbRightDataBase) (p : Platform) (cleanUps : List CleanUp) (s : Store Row) : Store Row :=
  cleanUps.foldl (fun s c => (c.run db p s).2) s

section Sequences

variable {db : UsbRightDataBase} {p : Platform} {s : Store Row}

theorem runAll_append (first rest : List CleanUp) :
    runAll db p (first ++ rest) s = runAll db p rest (runAll db p first s) :=
  List.foldl_append

theorem chosen_eq {choose bit : UInt32} {c : CleanUp} (ret : Int) (s : Store Row) :
    (chosen choose bit (c.run db p) ret s).2 = runAll db p (if choose &&& bit ≠ 0 then [c] else []) s := by
  unfold chosen
  split_ifs <;> rfl

theorem chosen_bind {choose bit : UInt32} {c : CleanUp} {ret : Int} {s : Store Row} {α : Type}
    {next : Int → Session Row α} {rest : List CleanUp}
    (after : ∀ ret s, (next ret s).2 = runAll db p rest s) :
    ((chosen choose bit (c.run db p) ret >>= next) s).2 =
      runAll db p rest (runAll db p (if choose &&& bit ≠ 0 then [c] else []) s) := by
  rw [← chosen_eq ret s]
  exact after _ _

theorem tidyUpRight_eq (choose : UInt32) : (tidyUpRight db p choose s).2 = runAll db p (tidyUps p choose) s := by
  unfold tidyUpRight tidyUps
  dsimp only
  by_cases nothing : choose = tightUpUsbRightRecordNone
  · rw [if_pos nothing, if_pos nothing]
    rfl
  by_cases invalid : choose ||| tightUpUsbRightRecordAll ≠ tightUpUsbRightRecordAll
  · rw [if_neg nothing, if_neg nothing, if_pos invalid, if_pos invalid]
    rfl
  by_cases console : p.getCurrentUserId = usbRightUseridConsole
  · rw [if_neg nothing, if_neg nothing, if_neg invalid, if_neg invalid, if_pos console, if_pos console]
    rfl
  rw [if_neg nothing, if_neg nothing, if_neg invalid, if_neg invalid, if_neg console, if_neg console]
  rw [runAll_append]
  refine chosen_bind (c := .appUninstalled p.getCurrentUserId) fun ret s => ?_
  rw [runAll_append]
  refine chosen_bind (c := .userDeleted) fun ret s => ?_
  rw [runAll_append]
  refine chosen_bind (c := .normalExpired p.getCurrentUserId) fun ret s => ?_
  exact chosen_eq (c := .appReinstalled p.getCurrentUserId) ret s

theorem temporaryExpired_loop (devices : List String) :
    (forIn devices PUnit.unit (fun dev _ => do
      let _ ← cleanUpRightTemporaryExpired db dev
      pure (ForInStep.yield PUnit.unit)) s).2 = runAll db p (devices.map .temporaryExpired) s := by
  induction devices generalizing s with
  | nil => rfl
  | cons dev devices ih =>
    rw [List.forIn_cons]
    exact ih

theorem cleanUps_exec {op : Op} {p : Platform} {cleanUps : List CleanUp} (made : op.cleanUps = some (p, cleanUps)) :
    op.exec db s = runAll db p cleanUps s := by
  cases op with
  | addDeviceRight | addDeviceRightOfToken | removeDeviceRight | cancelDeviceRight => cases made
  | removeDeviceAllRight p deviceName =>
    cases made
    exact tidyUpRight_eq tightUpUsbRightRecordAll
  | cleanUpRightExpired p devices =>
    cases made
    rw [runAll_append, ← temporaryExpired_loop]
    rfl
  | tidyUpRight p choose =>
    cases made
    exact tidyUpRight_eq choose
  | cleanUp p c =>
    cases made
    rfl

end Sequences

/-! ### What affects a key -/

/-- The clean-ups, one after another, delete a record of the key. -/
def CleanUpsAffect (db : UsbRightDataBase) (p : Platform) (k : Key) : List CleanUp → Store Row → Prop
  | [], _ => False
  | c :: cleanUps, s =>
    (∃ row ∈ ofKey k s.rows, c.selects p s.rows row = true) ∨ CleanUpsAffect db p k cleanUps (c.run db p s).2

/-- A grant of the key that returns success, and its time. -/
def Op.Grants (db : UsbRightDataBase) (s : Store Row) (k : Key) (t0 : UInt64) : Op → Prop
  | .addDeviceRight p key =>
    key = k ∧ (Right.addDeviceRight db p key.deviceName key.bundleName key.tokenId key.uid s).1 = true ∧
      t0 = (p.clock 2).getCurrentTimestamp
  | .addDeviceRightOfToken p deviceName tokenIdStr =>
    deviceName = k.deviceName ∧ tokenIdStr = k.tokenId ∧
      p.hapTokenInfo (UInt32.ofNat (decimalValue tokenIdStr)) = some (k.bundleName, k.uid) ∧
      (Right.addDeviceRightOfToken db p deviceName tokenIdStr s).1 = true ∧ t0 = (p.clock 2).getCurrentTimestamp
  | _ => False

/-- A removal of the key. -/
def Op.Removes (k : Key) : Op → Prop
  | .removeDeviceRight key | .cancelDeviceRight key => key = k
  | _ => False

def Op.Affects (db : UsbRightDataBase) (s : Store Row) (k : Key) (op : Op) : Prop :=
  (∃ t0, op.Grants db s k t0) ∨ op.Removes k ∨
    ∃ p cleanUps, op.cleanUps = some (p, cleanUps) ∧ CleanUpsAffect db p k cleanUps s

/-- The last operation of the run that affected the key was a grant at `t0`. -/
inductive LastGrant (db : UsbRightDataBase) (k : Key) (t0 : UInt64) : List Op → Prop where
  | here {ops : List Op} {op : Op} : op.Grants db (run db ops) k t0 → LastGrant db k t0 (ops ++ [op])
  | before {ops : List Op} {op : Op} : LastGrant db k t0 ops → ¬ op.Affects db (run db ops) k →
      LastGrant db k t0 (ops ++ [op])

theorem lastGrant_append {db : UsbRightDataBase} {k : Key} {t0 : UInt64} {ops : List Op} {op : Op} :
    LastGrant db k t0 (ops ++ [op]) ↔
      op.Grants db (run db ops) k t0 ∨ (¬ op.Affects db (run db ops) k ∧ LastGrant db k t0 ops) := by
  constructor
  · intro last
    generalize whole : ops ++ [op] = all at last
    cases last with
    | here grants =>
      obtain ⟨rfl, same⟩ := List.append_inj' whole rfl
      cases same
      exact .inl grants
    | before earlier untouched =>
      obtain ⟨rfl, same⟩ := List.append_inj' whole rfl
      cases same
      exact .inr ⟨untouched, earlier⟩
  · rintro (grants | ⟨untouched, earlier⟩)
    · exact .here grants
    · exact .before earlier untouched

theorem not_lastGrant_nil {db : UsbRightDataBase} {k : Key} {t0 : UInt64} : ¬ LastGrant db k t0 [] := by
  intro last
  generalize whole : ([] : List Op) = all at last
  cases last <;> simp at whole

/-! ### One operation -/

/-- The key has one record, made by a grant at `t0`. -/
def Held (k : Key) (t0 : UInt64) (rows : List Row) : Prop := ∃ row, ofKey k rows = [row] ∧ row.info.requestTime = t0

section Step

variable {db : UsbRightDataBase} {p : Platform} {s : Store Row} {k : Key}

/-- The records of the key go if a clean-up affects it, and stay as they are if none does. -/
theorem runAll_effect (ok : db.Succeeds) (kept : Kept s) (cleanUps : List CleanUp) :
    Kept (runAll db p cleanUps s) ∧
      ((CleanUpsAffect db p k cleanUps s ∧ ofKey k (runAll db p cleanUps s).rows = []) ∨
        (¬ CleanUpsAffect db p k cleanUps s ∧ ofKey k (runAll db p cleanUps s).rows = ofKey k s.rows)) := by
  induction cleanUps generalizing s with
  | nil => exact ⟨kept, .inr ⟨id, rfl⟩⟩
  | cons c cleanUps ih =>
    have leaves := @CleanUp.run_leaves db s p ok kept.quiet c
    obtain ⟨kept', effect⟩ := ih (kept.filter leaves)
    refine ⟨kept', ?_⟩
    have first : ofKey k (c.run db p s).2.rows = (ofKey k s.rows).filter fun row => !c.selects p s.rows row := by
      rw [leaves.rows_eq, ofKey_filter]
    change (_ ∧ ofKey k (runAll db p cleanUps (c.run db p s).2).rows = []) ∨
      (_ ∧ ofKey k (runAll db p cleanUps (c.run db p s).2).rows = ofKey k s.rows)
    by_cases selected : ∃ row ∈ ofKey k s.rows, c.selects p s.rows row = true
    · left
      refine ⟨.inl selected, ?_⟩
      have gone : ofKey k (c.run db p s).2.rows = [] := by
        obtain ⟨row, member, chosen⟩ := selected
        rcases kept.cases k with none | ⟨only, one⟩
        · simp [none] at member
        · rw [one, List.mem_singleton] at member
          subst member
          simp [first, one, chosen]
      rcases effect with ⟨-, empty⟩ | ⟨-, same⟩
      · exact empty
      · rw [same, gone]
    · have untouched : ofKey k (c.run db p s).2.rows = ofKey k s.rows := by
        rw [first, List.filter_eq_self]
        intro row member
        cases chosen : c.selects p s.rows row with
        | false => rfl
        | true => exact absurd ⟨row, member, chosen⟩ selected
      rcases effect with ⟨affected, empty⟩ | ⟨free, same⟩
      · exact .inl ⟨.inr affected, empty⟩
      · refine .inr ⟨?_, same.trans untouched⟩
        rintro (here | later)
        · exact selected here
        · exact free later

/-- What one operation does to a key: it grants the right, takes its records away, or leaves them. -/
inductive Effect (db : UsbRightDataBase) (s : Store Row) (k : Key) (op : Op) (rows : List Row) : Prop where
  | granted {t0 : UInt64} : op.Grants db s k t0 → Held k t0 rows → Effect db s k op rows
  | revoked : op.Affects db s k → (∀ t0, ¬ op.Grants db s k t0) → ofKey k rows = [] → Effect db s k op rows
  | unaffected : ¬ op.Affects db s k → ofKey k rows = ofKey k s.rows → Effect db s k op rows

/-- A grant of `key` that returns `result`. -/
theorem Effect.ofGrant {op : Op} (key : Key) {result : Int × Store Row}
    (effect : (0 ≤ result.1 ∧ (∃ id, ofKey key result.2.rows = [grantRow p key id]) ∧
        ∀ other, other ≠ key → ofKey other result.2.rows = ofKey other s.rows) ∨
      (result.1 < 0 ∧ result.2.rows = s.rows))
    (grants : ∀ t0, op.Grants db s k t0 ↔ key = k ∧ 0 ≤ result.1 ∧ t0 = (p.clock 2).getCurrentTimestamp)
    (only : op.Affects db s k → ∃ t0, op.Grants db s k t0) : Effect db s k op result.2.rows := by
  rcases effect with ⟨success, ⟨id, own⟩, others⟩ | ⟨failed, same⟩
  · by_cases mine : key = k
    · subst mine
      exact .granted ((grants _).2 ⟨rfl, success, rfl⟩) ⟨_, own, grantRow_requestTime p key id⟩
    · refine .unaffected (fun affected => ?_) (others k fun same => mine same.symm)
      obtain ⟨t0, granted⟩ := only affected
      exact mine ((grants t0).1 granted).1
  · refine .unaffected (fun affected => ?_) (by rw [same])
    obtain ⟨t0, granted⟩ := only affected
    have success := ((grants t0).1 granted).2.1
    omega

theorem Effect.ofRemoval {op : Op} {key : Key} {s' : Store Row}
    (leaves : Leaves (s.rows.filter fun row => !key.isRecord row) s') (removes : op.Removes k ↔ key = k)
    (never : ∀ t0, ¬ op.Grants db s k t0) (only : op.Affects db s k → op.Removes k) : Effect db s k op s'.rows := by
  rw [leaves.rows_eq]
  by_cases mine : key = k
  · subst mine
    exact .revoked (.inr (.inl (removes.2 rfl))) never ofKey_delete_self
  · refine .unaffected (fun affected => mine (removes.1 (only affected))) ?_
    exact ofKey_delete_other fun same => mine same.symm

theorem cleanUps_effect {op : Op} {cleanUps : List CleanUp} (ok : db.Succeeds) (kept : Kept s)
    (made : op.cleanUps = some (p, cleanUps)) (never : ∀ t0, ¬ op.Grants db s k t0) (keeps : ¬ op.Removes k) :
    Kept (op.exec db s) ∧ Effect db s k op (op.exec db s).rows := by
  rw [cleanUps_exec made]
  obtain ⟨kept', effect⟩ := runAll_effect (p := p) (k := k) ok kept cleanUps
  refine ⟨kept', ?_⟩
  rcases effect with ⟨affected, empty⟩ | ⟨free, same⟩
  · exact .revoked (.inr (.inr ⟨p, cleanUps, made, affected⟩)) never empty
  · refine .unaffected ?_ same
    rintro (⟨t0, granted⟩ | removed | ⟨p', cleanUps', made', affected⟩)
    · exact never t0 granted
    · exact keeps removed
    · rw [made] at made'
      cases made'
      exact free affected

theorem addDeviceRight_eq (p : Platform) (user : k.uid ≠ usbRightUseridConsole) :
    addDeviceRight db p k.deviceName k.bundleName k.tokenId k.uid s =
      (decide (0 ≤ (addOrUpdateRightRecord db k.uid k.deviceName k.bundleName k.tokenId
          (p.grantInfo k.uid k.bundleName) s).1),
        (addOrUpdateRightRecord db k.uid k.deviceName k.bundleName k.tokenId (p.grantInfo k.uid k.bundleName)
          s).2) := by
  unfold addDeviceRight
  rw [if_neg user]
  rfl

theorem addDeviceRight_effect (ok : db.Succeeds) (kept : Kept s) (user : k.uid ≠ usbRightUseridConsole) (p : Platform)
    (key : Key) : Kept ((Op.addDeviceRight p key).exec db s) ∧
      Effect db s k (.addDeviceRight p key) ((Op.addDeviceRight p key).exec db s).rows := by
  have only : (Op.addDeviceRight p key).Affects db s k → ∃ t0, (Op.addDeviceRight p key).Grants db s k t0 := by
    rintro (granted | removed | ⟨p', cleanUps, made, -⟩)
    · exact granted
    · cases removed
    · cases made
  by_cases console : key.uid = usbRightUseridConsole
  · have same : (Op.addDeviceRight p key).exec db s = s := by
      simp only [Op.exec, addDeviceRight, if_pos console]
      rfl
    rw [same]
    refine ⟨kept, .unaffected (fun affected => ?_) rfl⟩
    obtain ⟨t0, rfl, -, -⟩ := only affected
    exact user console
  · obtain ⟨kept', effect⟩ := grant_effect ok kept p key
    have exec := @addDeviceRight_eq db s key p console
    have state : (Op.addDeviceRight p key).exec db s = _ := congrArg Prod.snd exec
    rw [state]
    refine ⟨kept', .ofGrant key effect (fun t0 => ?_) only⟩
    simp only [Op.Grants, exec, decide_eq_true_eq]

/-- The token is refused, or its application needs no right, or the right is recorded. -/
theorem addDeviceRightOfToken_cases (db : UsbRightDataBase) (p : Platform) (deviceName tokenIdStr : String)
    (s : Store Row) :
    addDeviceRightOfToken db p deviceName tokenIdStr s = (false, s) ∨
      (∃ bundleName,
        p.hapTokenInfo (UInt32.ofNat (decimalValue tokenIdStr)) = some (bundleName, usbRightUseridConsole) ∧
        addDeviceRightOfToken db p deviceName tokenIdStr s = (true, s)) ∨
      ∃ bundleName uid, p.hapTokenInfo (UInt32.ofNat (decimalValue tokenIdStr)) = some (bundleName, uid) ∧
        addDeviceRightOfToken db p deviceName tokenIdStr s =
          (decide
              (0 ≤ (addOrUpdateRightRecord db uid deviceName bundleName tokenIdStr (p.grantInfo uid bundleName) s).1),
            (addOrUpdateRightRecord db uid deviceName bundleName tokenIdStr (p.grantInfo uid bundleName) s).2) := by
  unfold addDeviceRightOfToken
  by_cases digits : isAllDigits tokenIdStr = false
  · rw [if_pos digits]
    exact .inl rfl
  by_cases range : isWithinUint64Range tokenIdStr = false
  · rw [if_neg digits, if_pos range]
    exact .inl rfl
  rw [if_neg digits, if_neg range]
  cases hap : p.hapTokenInfo (UInt32.ofNat (decimalValue tokenIdStr)) with
  | none => exact .inl rfl
  | some info =>
    obtain ⟨bundleName, uid⟩ := info
    by_cases console : uid = usbRightUseridConsole
    · exact .inr (.inl ⟨bundleName, by rw [console], congrFun (if_pos console) s⟩)
    · exact .inr (.inr ⟨bundleName, uid, rfl, congrFun (if_neg console) s⟩)

theorem addDeviceRightOfToken_effect (ok : db.Succeeds) (kept : Kept s) (user : k.uid ≠ usbRightUseridConsole)
    (p : Platform) (deviceName tokenIdStr : String) :
    Kept ((Op.addDeviceRightOfToken p deviceName tokenIdStr).exec db s) ∧
      Effect db s k (.addDeviceRightOfToken p deviceName tokenIdStr)
        ((Op.addDeviceRightOfToken p deviceName tokenIdStr).exec db s).rows := by
  have only : (Op.addDeviceRightOfToken p deviceName tokenIdStr).Affects db s k →
      ∃ t0, (Op.addDeviceRightOfToken p deviceName tokenIdStr).Grants db s k t0 := by
    rintro (granted | removed | ⟨p', cleanUps, made, -⟩)
    · exact granted
    · cases removed
    · cases made
  have state : (Op.addDeviceRightOfToken p deviceName tokenIdStr).exec db s =
      (addDeviceRightOfToken db p deviceName tokenIdStr s).2 := rfl
  rw [state]
  rcases addDeviceRightOfToken_cases db p deviceName tokenIdStr s with
    out | ⟨bundleName, hap, out⟩ | ⟨bundleName, uid, hap, out⟩
  · rw [out]
    refine ⟨kept, .unaffected (fun affected => ?_) rfl⟩
    obtain ⟨t0, -, -, -, success, -⟩ := only affected
    rw [out] at success
    cases success
  · rw [out]
    refine ⟨kept, .unaffected (fun affected => ?_) rfl⟩
    -- the key would be one of the console, whose rights are not recorded
    obtain ⟨t0, -, -, same, -, -⟩ := only affected
    rw [hap] at same
    exact user (congrArg Prod.snd (Option.some.inj same)).symm
  · let key : Key := ⟨uid, deviceName, bundleName, tokenIdStr⟩
    obtain ⟨kept', effect⟩ := grant_effect ok kept p key
    rw [out]
    refine ⟨kept', .ofGrant key effect (fun t0 => ?_) only⟩
    simp only [Op.Grants, out, hap, decide_eq_true_eq]
    constructor
    · rintro ⟨rfl, rfl, same, success, time⟩
      cases same
      exact ⟨rfl, success, time⟩
    · rintro ⟨rfl, success, time⟩
      exact ⟨rfl, rfl, rfl, success, time⟩

theorem removal_effect {op : Op} {key : Key} {s' : Store Row} (ok : db.Succeeds) (kept : Kept s)
    (user : k.uid ≠ usbRightUseridConsole) (removes : op.Removes k ↔ key = k) (never : ∀ t0, ¬ op.Grants db s k t0)
    (plain : op.cleanUps = none)
    (exec : s' = if key.uid = usbRightUseridConsole then s else
      (deleteRightRecord db key.uid key.deviceName key.bundleName key.tokenId s).2) :
    Kept s' ∧ Effect db s k op s'.rows := by
  have only : op.Affects db s k → op.Removes k := by
    rintro (⟨t0, granted⟩ | removed | ⟨p', cleanUps, made, -⟩)
    · exact absurd granted (never t0)
    · exact removed
    · rw [plain] at made
      cases made
  split_ifs at exec with console
  · subst exec
    refine ⟨kept, .unaffected (fun affected => ?_) rfl⟩
    have mine := removes.1 (only affected)
    exact user (mine ▸ console)
  · have leaves : Leaves (s.rows.filter fun row => !key.isRecord row) s' := by
      rw [exec]
      exact deleteAndNoOtherOperation_leaves ok kept.quiet key.isRecord
    exact ⟨kept.filter leaves, .ofRemoval leaves removes never only⟩

theorem exec_effect (ok : db.Succeeds) (kept : Kept s) (user : k.uid ≠ usbRightUseridConsole) (op : Op) :
    Kept (op.exec db s) ∧ Effect db s k op (op.exec db s).rows := by
  cases op with
  | addDeviceRight p key => exact addDeviceRight_effect ok kept user p key
  | addDeviceRightOfToken p deviceName tokenIdStr =>
    exact addDeviceRightOfToken_effect ok kept user p deviceName tokenIdStr
  | removeDeviceRight key =>
    refine removal_effect ok kept user Iff.rfl (fun _ => id) rfl ?_
    simp only [Op.exec, removeDeviceRight]
    split_ifs <;> rfl
  | cancelDeviceRight key =>
    refine removal_effect ok kept user Iff.rfl (fun _ => id) rfl ?_
    simp only [Op.exec, cancelDeviceRight]
    split_ifs <;> rfl
  | removeDeviceAllRight | cleanUpRightExpired | tidyUpRight | cleanUp =>
    exact cleanUps_effect ok kept rfl (fun _ => id) id

theorem Op.Grants.time_unique {op : Op} {t t' : UInt64} (one : op.Grants db s k t) (other : op.Grants db s k t') :
    t = t' := by
  cases op with
  | addDeviceRight p key => exact one.2.2.trans other.2.2.symm
  | addDeviceRightOfToken p deviceName tokenIdStr => exact one.2.2.2.2.trans other.2.2.2.2.symm
  | _ => cases one

theorem held_exec (ok : db.Succeeds) (kept : Kept s) (user : k.uid ≠ usbRightUseridConsole) (op : Op) (t0 : UInt64) :
    Held k t0 (op.exec db s).rows ↔ op.Grants db s k t0 ∨ (¬ op.Affects db s k ∧ Held k t0 s.rows) := by
  cases (exec_effect ok kept user op).2 with
  | @granted t granted held =>
    constructor
    · rintro ⟨row, one, time⟩
      obtain ⟨row', one', time'⟩ := held
      rw [one] at one'
      cases one'
      rw [← time, time']
      exact .inl granted
    · rintro (other | ⟨free, -⟩)
      · rwa [other.time_unique granted]
      · exact absurd (.inl ⟨t, granted⟩) free
  | revoked affected never empty =>
    constructor
    · rintro ⟨row, one, -⟩
      rw [empty] at one
      cases one
    · rintro (granted | ⟨free, -⟩)
      · exact absurd granted (never t0)
      · exact absurd affected free
  | unaffected free same =>
    constructor
    · rintro ⟨row, one, time⟩
      exact .inr ⟨free, row, same ▸ one, time⟩
    · rintro (granted | ⟨-, row, one, time⟩)
      · exact absurd (.inl ⟨t0, granted⟩) free
      · exact ⟨row, same ▸ one, time⟩

end Step

end UsbManager.Right
