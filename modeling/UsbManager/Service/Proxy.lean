import UsbManager.Lib.Transition

/-!
# The client's connection to the service

`UsbSrvClient` keeps a proxy of the service. `Connect` obtains one if there is none and registers a death
recipient on it, whose answer it does not look at; the death of the service leads to `ResetProxy`, which drops
the proxy if it is still that of the dead service. Requests hold `mutex_` in shared mode from the check of the
proxy to its last use, but for three functions that take no lock.

The incarnations of the service are numbered in the order of their starts. The service dies and starts, and the
ability manager answers with any of them, at any time.
-/

namespace UsbManager.Proxy

open Transition

/-- The functions of the client by how they come to the proxy: `OpenDevice` connects, takes the lock and checks the
proxy, `ClaimInterface` takes the lock and checks, `RegisterConnectionListener` and `UnRegisterConnectionListener`
connect and do neither, and `ClaimInterfaceExclusive` only checks. Every other function is like one of the first
two. -/
inductive Api where
  | openDevice
  | claimInterface
  | registerConnectionListener
  | claimInterfaceExclusive
  deriving DecidableEq

namespace Api

def connects : Api → Bool
  | .openDevice | .registerConnectionListener => true
  | .claimInterface | .claimInterfaceExclusive => false

def locks : Api → Bool
  | .openDevice | .claimInterface => true
  | .registerConnectionListener | .claimInterfaceExclusive => false

/-- `RETURN_IF_WITH_RET(proxy_ == nullptr, ..)`. -/
def checks : Api → Bool
  | .openDevice | .claimInterface | .claimInterfaceExclusive => true
  | .registerConnectionListener => false

end Api

/-- A thread in the client that does not hold `mutex_` alone; `next` is the function that has called `Connect`. -/
inductive Call where
  /-- Before the shared section of `Connect`. -/
  | connecting (next : Option Api)
  | connectUsbService (next : Option Api)
  /-- Before the lock and the check. -/
  | ready (api : Api)
  /-- Behind the lock and the check, before the proxy is used. -/
  | entered (api : Api)
  | calling (api : Api) (remote : Nat)
  /-- `OnRemoteDied`, before the section of `ResetProxy`. -/
  | notified (remote : Nat)
  /-- `ResetProxy` waits before it connects again. -/
  | sleeping
  deriving DecidableEq

namespace Call

/-- The call holds `mutex_` in shared mode. -/
def shared : Call → Bool
  | .entered api | .calling api _ => api.locks
  | _ => false

/-- What the call has seen of the proxy. -/
def Sees (proxy : Option Nat) : Call → Prop
  | .entered _ => proxy.isSome = true
  | .calling _ remote => proxy = some remote
  | _ => True

/-- The function that the thread is in, or goes on with. -/
def api : Call → Option Api
  | .connecting next | .connectUsbService next => next
  | .ready api | .entered api | .calling api _ => some api
  | .notified _ | .sleeping => none

end Call

/-- `ConnectUsbService` while it holds `mutex_`. -/
inductive Section where
  | asking (next : Option Api)
  | registering (remote : Nat) (next : Option Api)
  deriving DecidableEq

/-- The function that has called `Connect`. -/
def Section.api : Section → Option Api
  | .asking next | .registering _ next => next

structure World where
  /-- The service that runs. -/
  live : Option Nat := none
  started : Nat := 0
  /-- The remote objects with a death recipient of this client. -/
  recipients : List Nat := []
  proxy : Option Nat := none
  holder : Option Section := none
  /-- The first one is the `Connect` of the constructor. -/
  calls : List Call := [.connecting none]
  /-- The recipients that were to be registered, and whether they were. -/
  registrations : List (Nat × Bool) := []
  /-- The requests that have come back, and whether the service has answered. -/
  answers : List (Nat × Bool) := []
  /-- The functions that have made a request through a null proxy. -/
  crashed : List Api := []

namespace World

variable (s : World)

def unlocked : Bool := s.holder.isNone && s.calls.all fun call => !call.shared

/-- What goes on after a `Connect` that has succeeded. -/
def resume : Option Api → List Call
  | some api => [.ready api]
  | none => []

/-- The calls after `call` has gone on as `next`. -/
def goOn (call : Call) (next : List Call) : World := { s with calls := next ++ s.calls.erase call }

inductive Action where
  | start
  | die
  | call (api : Api)
  | connect (next : Option Api)
  | connectUsbService (next : Option Api)
  /-- The answer of the ability manager, if it is there and has one. -/
  | ask (answer : Option Nat)
  /-- `object` is whether the proxy has a remote object, `accepted` what `AddDeathRecipient` says of a live one. -/
  | addDeathRecipient (object accepted : Bool)
  | enter (api : Api)
  | use (api : Api)
  | answer (api : Api) (remote : Nat)
  | resetProxy (remote : Nat)
  | wake

def step (s : World) : Action → Option World
  | .start => if s.live = none then some { s with live := some s.started, started := s.started + 1 } else none
  | .die =>
    match s.live with
    | none => none
    | some remote =>
      some { s with
        live := none
        recipients := s.recipients.filter (· ≠ remote)
        calls := (s.recipients.filter (· = remote)).map .notified ++ s.calls }
  | .call api =>
    some { s with calls := (if api.connects then .connecting (some api) else .ready api) :: s.calls }
  | .connect next =>
    if .connecting next ∈ s.calls ∧ s.holder = none then
      some (s.goOn (.connecting next) (if s.proxy.isSome then resume next else [.connectUsbService next]))
    else none
  | .connectUsbService next =>
    if .connectUsbService next ∈ s.calls ∧ s.unlocked then
      if s.proxy.isSome then some (s.goOn (.connectUsbService next) (resume next))
      else some { s.goOn (.connectUsbService next) [] with holder := some (.asking next) }
    else none
  | .ask answer =>
    match s.holder, answer with
    | some (.asking _), none => some { s with holder := none }
    | some (.asking next), some remote =>
      if remote < s.started then some { s with proxy := some remote, holder := some (.registering remote next) }
      else none
    | _, _ => none
  | .addDeathRecipient object accepted =>
    match s.holder with
    | some (.registering remote next) =>
      let registered := object && accepted && s.live = some remote
      some { s with
        holder := none
        recipients := if registered then remote :: s.recipients else s.recipients
        registrations := (remote, registered) :: s.registrations
        calls := (if object then resume next else []) ++ s.calls }
    | _ => none
  | .enter api =>
    if .ready api ∈ s.calls ∧ (api.locks = true → s.holder = none) then
      some (s.goOn (.ready api) (if api.checks && s.proxy.isNone then [] else [.entered api]))
    else none
  | .use api =>
    if .entered api ∈ s.calls then
      match s.proxy with
      | none => some { s.goOn (.entered api) [] with crashed := api :: s.crashed }
      | some remote => some (s.goOn (.entered api) [.calling api remote])
    else none
  | .answer api remote =>
    if .calling api remote ∈ s.calls then
      some { s.goOn (.calling api remote) [] with answers := (remote, decide (s.live = some remote)) :: s.answers }
    else none
  | .resetProxy remote =>
    if .notified remote ∈ s.calls ∧ s.unlocked then
      if s.proxy = some remote then some { s.goOn (.notified remote) [.sleeping] with proxy := none }
      else some (s.goOn (.notified remote) [])
    else none
  | .wake => if .sleeping ∈ s.calls then some (s.goOn .sleeping [.connectUsbService none]) else none

/-! ## What a step can do -/

/-- Nothing but the calls has changed, and of them no notification was lost that the proxy needs. -/
structure Moved (s : World) (action : Action) (s' : World) : Prop where
  live : s'.live = s.live
  started : s'.started = s.started
  recipients : s'.recipients = s.recipients
  proxy : s'.proxy = s.proxy
  holder : s'.holder = s.holder
  registrations : s'.registrations = s.registrations
  kept : ∀ remote, s.proxy = some remote → .notified remote ∈ s.calls → .notified remote ∈ s'.calls
  notified : ∀ remote, .notified remote ∈ s'.calls → .notified remote ∈ s.calls
  apis : ∀ call ∈ s'.calls, ∀ api ∈ call.api, action = .call api ∨ ∃ other ∈ s.calls, api ∈ other.api
  shared : ∀ call ∈ s'.calls, call.shared = true →
    call ∈ s.calls ∨ call.Sees s.proxy ∧ (s.holder = none ∨ ∃ other ∈ s.calls, other.shared = true)
  crashed : ∀ api ∈ s'.crashed, api ∈ s.crashed ∨ s.proxy = none ∧ .entered api ∈ s.calls

inductive Stepped (s : World) (action : Action) (s' : World) : Prop where
  | moved (moved : s.Moved action s')
  | started (dead : s.live = none) (same : s' = { s with live := some s.started, started := s.started + 1 })
  | died (remote : Nat) (live : s.live = some remote) (same : s' = { s with
      live := none
      recipients := s.recipients.filter (· ≠ remote)
      calls := (s.recipients.filter (· = remote)).map .notified ++ s.calls })
  | locked (next : Option Api) (waiting : .connectUsbService next ∈ s.calls) (unlocked : s.unlocked = true)
      (none : s.proxy = none) (same : s' = { s.goOn (.connectUsbService next) [] with holder := some (.asking next) })
  | notFound (next : Option Api) (held : s.holder = some (.asking next)) (same : s' = { s with holder := none })
  | found (remote : Nat) (next : Option Api) (held : s.holder = some (.asking next)) (old : remote < s.started)
      (same : s' = { s with proxy := some remote, holder := some (.registering remote next) })
  | registered (remote : Nat) (next : Option Api) (held : s.holder = some (.registering remote next))
      (registered : Bool) (alive : registered = true → s.live = some remote) (rest : List Call)
      (resumed : rest = [] ∨ rest = resume next)
      (same : s' = { s with
        holder := none
        recipients := if registered then remote :: s.recipients else s.recipients
        registrations := (remote, registered) :: s.registrations
        calls := rest ++ s.calls })
  | reset (remote : Nat) (notified : .notified remote ∈ s.calls) (unlocked : s.unlocked = true)
      (current : s.proxy = some remote) (same : s' = { s.goOn (.notified remote) [.sleeping] with proxy := none })

section Step

variable {s} {s' : World}

/-- A call other than a notification goes on as calls of its function, which use no proxy but the one that is there. -/
theorem moved_goOn {action : Action} {call : Call} {next : List Call} (waiting : call ∈ s.calls)
    (own : ∀ c ∈ next, ∀ api ∈ c.api, api ∈ call.api)
    (other : ∀ remote, call = .notified remote → s.proxy ≠ some remote)
    (quiet : ∀ remote, Call.notified remote ∉ next)
    (shared : ∀ call ∈ next, call.shared = true →
      call.Sees s.proxy ∧ (s.holder = none ∨ ∃ other ∈ s.calls, other.shared = true))
    (answers : List (Nat × Bool)) {crashed : List Api}
    (crash : ∀ api ∈ crashed, api ∈ s.crashed ∨ s.proxy = none ∧ .entered api ∈ s.calls) :
    s.Moved action { s.goOn call next with answers := answers, crashed := crashed } where
  live := rfl
  started := rfl
  recipients := rfl
  proxy := rfl
  holder := rfl
  registrations := rfl
  kept remote current member := by
    have differs : Call.notified remote ≠ call := fun same => other remote same.symm current
    exact List.mem_append_right _ ((List.mem_erase_of_ne differs).2 member)
  notified remote member := by
    rcases List.mem_append.1 member with fresh | old
    · exact absurd fresh (quiet remote)
    · exact List.mem_of_mem_erase old
  apis c member api mine := by
    rcases List.mem_append.1 member with fresh | old
    · exact .inr ⟨call, waiting, own c fresh api mine⟩
    · exact .inr ⟨c, List.mem_of_mem_erase old, mine⟩
  shared call member locks := by
    rcases List.mem_append.1 member with fresh | old
    · exact .inr (shared call fresh locks)
    · exact .inl (List.mem_of_mem_erase old)
  crashed := crash

theorem notified_notMem_resume (next : Option Api) (remote : Nat) : Call.notified remote ∉ resume next := by
  cases next <;> simp [resume]

theorem shared_resume {next : Option Api} {call : Call} (member : call ∈ resume next) : call.shared = false := by
  cases next with
  | none => cases member
  | some api =>
    obtain rfl := List.mem_singleton.1 member
    rfl

theorem api_resume {next : Option Api} : ∀ call ∈ resume next, ∀ api ∈ call.api, api ∈ next := by
  intro call member api own
  cases next with
  | none => cases member
  | some api' =>
    obtain rfl := List.mem_singleton.1 member
    exact own

/-- After a `Connect` the function goes on that has called it. -/
theorem moved_resume {action : Action} {call : Call} {next : Option Api} (waiting : call ∈ s.calls)
    (own : call.api = next) (other : ∀ remote, call ≠ .notified remote) :
    s.Moved action (s.goOn call (resume next)) := by
  refine moved_goOn waiting (own ▸ api_resume) (fun remote same => absurd same (other remote))
    (notified_notMem_resume next) ?_ s.answers fun _ => .inl
  intro call member shared
  rw [shared_resume member] at shared
  cases shared

theorem moved_call (api : Api) :
    s.Moved (.call api) { s with calls := (if api.connects then .connecting (some api) else .ready api) :: s.calls } := by
  refine ⟨rfl, rfl, rfl, rfl, rfl, rfl, fun _ _ member => List.mem_cons_of_mem _ member, ?_, ?_, ?_, fun _ => .inl⟩
  · intro remote member
    cases api <;> simpa [Api.connects] using member
  · intro call member other own
    rcases List.mem_cons.1 member with rfl | old
    · have same : other = api := by
        split at own <;> exact (Option.some.inj own).symm
      exact .inl (congrArg Action.call same.symm)
    · exact .inr ⟨call, old, own⟩
  · intro call member shared
    rcases List.mem_cons.1 member with rfl | old
    · cases api <;> cases shared
    · exact .inl old

/-- Who takes the lock makes the check. -/
theorem moved_entered {action : Action} {api : Api} (ready : .ready api ∈ s.calls)
    (free : api.locks = true → s.holder = none) (passed : ¬ (api.checks && s.proxy.isNone) = true) :
    s.Moved action (s.goOn (.ready api) [.entered api]) := by
  refine moved_goOn ready (by simp [Call.api]) (by simp) (by simp) ?_ s.answers fun _ => .inl
  intro call member locks
  obtain rfl := List.mem_singleton.1 member
  refine ⟨?_, .inl (free locks)⟩
  have checks : api.checks = true := by cases api <;> first | rfl | cases locks
  simpa [checks, Call.Sees, Option.isSome_iff_ne_none] using passed

theorem moved_crashed {action : Action} {api : Api} (entered : .entered api ∈ s.calls) (none : s.proxy = none) :
    s.Moved action { s.goOn (.entered api) [] with crashed := api :: s.crashed } := by
  refine moved_goOn entered (by simp) (by simp) (by simp) (by simp) s.answers fun other member => ?_
  rcases List.mem_cons.1 member with rfl | old
  · exact .inr ⟨none, entered⟩
  · exact .inl old

theorem moved_calling {action : Action} {api : Api} {remote : Nat} (entered : .entered api ∈ s.calls)
    (current : s.proxy = some remote) : s.Moved action (s.goOn (.entered api) [.calling api remote]) := by
  refine moved_goOn entered (by simp [Call.api]) (by simp) (by simp) ?_ s.answers fun _ => .inl
  intro call member locks
  obtain rfl := List.mem_singleton.1 member
  exact ⟨current, .inr ⟨_, entered, locks⟩⟩

theorem stepped {action : Action} (taken : s.step action = some s') : s.Stepped action s' := by
  cases action with
  | start =>
    simp only [step] at taken
    split_ifs at taken with dead
    exact .started dead (Option.some.inj taken).symm
  | die =>
    simp only [step] at taken
    split at taken
    next => cases taken
    next remote live => exact .died remote live (Option.some.inj taken).symm
  | call api =>
    obtain rfl := Option.some.inj taken
    exact .moved (moved_call api)
  | connect next =>
    simp only [step] at taken
    split_ifs at taken with enabled connected
    · exact .moved (Option.some.inj taken ▸ moved_resume enabled.1 rfl (by simp))
    · exact .moved (Option.some.inj taken ▸ moved_goOn enabled.1 (by simp [Call.api]) (by simp) (by simp)
        (by simp [Call.shared]) s.answers fun _ => .inl)
  | connectUsbService next =>
    simp only [step] at taken
    split_ifs at taken with enabled connected
    · exact .moved (Option.some.inj taken ▸ moved_resume enabled.1 rfl (by simp))
    · exact .locked next enabled.1 enabled.2 (by simpa using connected) (Option.some.inj taken).symm
  | ask answer =>
    simp only [step] at taken
    split at taken
    next next held => exact .notFound next held (Option.some.inj taken).symm
    next next remote held =>
      split_ifs at taken with old
      exact .found remote next held old (Option.some.inj taken).symm
    next => cases taken
  | addDeathRecipient object accepted =>
    simp only [step] at taken
    split at taken
    next remote next held =>
      refine .registered remote next held (object && accepted && s.live = some remote) ?_
        (if object then resume next else []) ?_ (Option.some.inj taken).symm
      · intro registered
        simp only [Bool.and_eq_true, decide_eq_true_eq] at registered
        exact registered.2
      · cases object
        · exact .inl rfl
        · exact .inr rfl
    next => cases taken
  | enter api =>
    simp only [step] at taken
    split_ifs at taken with enabled missing
    · exact .moved (Option.some.inj taken ▸
        moved_goOn enabled.1 (by simp) (by simp) (by simp) (by simp) s.answers fun _ => .inl)
    · exact .moved (Option.some.inj taken ▸ moved_entered enabled.1 enabled.2 missing)
  | use api =>
    simp only [step] at taken
    split_ifs at taken with enabled
    split at taken
    next none => exact .moved (Option.some.inj taken ▸ moved_crashed enabled none)
    next remote current => exact .moved (Option.some.inj taken ▸ moved_calling enabled current)
  | answer api remote =>
    simp only [step] at taken
    split_ifs at taken with enabled
    exact .moved (Option.some.inj taken ▸
      moved_goOn enabled (by simp) (by simp) (by simp) (by simp) _ fun _ => .inl)
  | resetProxy remote =>
    simp only [step] at taken
    split_ifs at taken with enabled current
    · exact .reset remote enabled.1 enabled.2 current (Option.some.inj taken).symm
    · refine .moved (Option.some.inj taken ▸
        moved_goOn enabled.1 (by simp) ?_ (by simp) (by simp) s.answers fun _ => .inl)
      rintro remote' same
      obtain rfl := Call.notified.inj same
      exact current
  | wake =>
    simp only [step] at taken
    split_ifs at taken with enabled
    exact .moved (Option.some.inj taken ▸ moved_goOn enabled (by simp [Call.api]) (by simp) (by simp)
      (by simp [Call.shared]) s.answers fun _ => .inl)

end Step

/-! ## The invariant -/

/-- The service `remote` can still make the client drop its proxy. -/
def Watched (remote : Nat) : Prop :=
  remote ∈ s.recipients ∨ .notified remote ∈ s.calls ∨
    (∃ next, s.holder = some (.registering remote next)) ∧ s.live = some remote

structure Sound : Prop where
  live : ∀ remote, s.live = some remote → remote < s.started
  recipients : ∀ remote ∈ s.recipients, s.live = some remote
  asking : ∀ next, s.holder = some (.asking next) → s.proxy = none
  registering : ∀ remote next, s.holder = some (.registering remote next) → s.proxy = some remote
  proxy : ∀ remote, s.proxy = some remote → remote < s.started
  told : ∀ remote, s.proxy = some remote → (∀ next, s.holder ≠ some (.registering remote next)) →
    remote ∈ s.recipients ∨ .notified remote ∈ s.calls ∨ (remote, false) ∈ s.registrations
  shared : ∀ call ∈ s.calls, call.shared = true → call.Sees s.proxy ∧ s.holder = none
  crashed : ∀ api ∈ s.crashed, api.locks = false

section Invariant

variable {s} {s' : World}

theorem unlocked_holder (unlocked : s.unlocked = true) : s.holder = none := by
  simpa using (Bool.and_eq_true_iff.1 unlocked).1

theorem unlocked_shared (unlocked : s.unlocked = true) {call : Call} (member : call ∈ s.calls) :
    call.shared = false := by
  simpa using List.all_eq_true.1 (Bool.and_eq_true_iff.1 unlocked).2 call member

theorem Sound.moved {action : Action} (sound : s.Sound) (moved : s.Moved action s') : s'.Sound where
  live := by rw [moved.live, moved.started]; exact sound.live
  recipients := by rw [moved.live, moved.recipients]; exact sound.recipients
  asking := by rw [moved.holder, moved.proxy]; exact sound.asking
  registering := by rw [moved.holder, moved.proxy]; exact sound.registering
  proxy := by rw [moved.started, moved.proxy]; exact sound.proxy
  told := by
    rw [moved.holder, moved.proxy, moved.recipients, moved.registrations]
    intro remote current free
    rcases sound.told remote current free with there | told | refused
    · exact .inl there
    · exact .inr (.inl (moved.kept remote current told))
    · exact .inr (.inr refused)
  shared := by
    rw [moved.holder, moved.proxy]
    intro call member shared
    rcases moved.shared call member shared with old | ⟨sees, free | ⟨other, held, locks⟩⟩
    · exact sound.shared call old shared
    · exact ⟨sees, free⟩
    · exact ⟨sees, (sound.shared other held locks).2⟩
  crashed := by
    intro api member
    rcases moved.crashed api member with old | ⟨none, entered⟩
    · exact sound.crashed api old
    · -- with the lock, the proxy would still be there
      rw [Bool.eq_false_iff]
      intro locks
      have there : s.proxy.isSome = true := (sound.shared _ entered locks).1
      simp [none] at there

theorem Sound.started (sound : s.Sound) (dead : s.live = none) :
    Sound { s with live := some s.started, started := s.started + 1 } where
  live remote live := by
    obtain rfl := Option.some.inj live
    exact Nat.lt_succ_self _
  recipients remote member := by
    have own := sound.recipients remote member
    rw [dead] at own
    cases own
  asking := sound.asking
  registering := sound.registering
  proxy remote current := Nat.lt_succ_of_lt (sound.proxy remote current)
  told := sound.told
  shared := sound.shared
  crashed := sound.crashed

theorem Sound.died (sound : s.Sound) {remote : Nat} (live : s.live = some remote) :
    Sound { s with
      live := none
      recipients := s.recipients.filter (· ≠ remote)
      calls := (s.recipients.filter (· = remote)).map .notified ++ s.calls } where
  live _ live := by cases live
  recipients other member := by
    obtain ⟨member, differs⟩ := List.mem_filter.1 member
    have own := sound.recipients other member
    rw [live] at own
    exact absurd (Option.some.inj own).symm (of_decide_eq_true differs)
  asking := sound.asking
  registering := sound.registering
  proxy := sound.proxy
  told other current free := by
    rcases sound.told other current free with there | told | refused
    · -- the recipient of the proxy is that of the service that has died
      have own := sound.recipients other there
      rw [live] at own
      obtain rfl := Option.some.inj own
      refine .inr (.inl (List.mem_append_left _ (List.mem_map.2 ⟨remote, ?_, rfl⟩)))
      exact List.mem_filter.2 ⟨there, decide_eq_true rfl⟩
    · exact .inr (.inl (List.mem_append_right _ told))
    · exact .inr (.inr refused)
  shared call member shared := by
    rcases List.mem_append.1 member with fresh | old
    · obtain ⟨_, -, rfl⟩ := List.mem_map.1 fresh
      cases shared
    · exact sound.shared call old shared
  crashed := sound.crashed

theorem Sound.locked (sound : s.Sound) (unlocked : s.unlocked = true) (none : s.proxy = none) (next : Option Api) :
    Sound { s.goOn (.connectUsbService next) [] with holder := some (.asking next) } where
  live := sound.live
  recipients := sound.recipients
  asking _ _ := none
  registering _ _ held := by cases held
  proxy := sound.proxy
  told _ current := by simp [goOn, none] at current
  shared call member shared := by
    rw [unlocked_shared unlocked (List.mem_of_mem_erase member)] at shared
    cases shared
  crashed := sound.crashed

theorem Sound.notFound (sound : s.Sound) {next : Option Api} (held : s.holder = some (.asking next)) :
    Sound { s with holder := none } where
  live := sound.live
  recipients := sound.recipients
  asking _ held := by cases held
  registering _ _ held := by cases held
  proxy := sound.proxy
  told _ current := by simp [sound.asking next held] at current
  shared call member shared := ⟨(sound.shared call member shared).1, rfl⟩
  crashed := sound.crashed

theorem Sound.found (sound : s.Sound) {next : Option Api} (held : s.holder = some (.asking next)) {remote : Nat}
    (old : remote < s.started) :
    Sound { s with proxy := some remote, holder := some (.registering remote next) } where
  live := sound.live
  recipients := sound.recipients
  asking _ held := by cases held
  registering _ _ held := by
    cases held
    rfl
  proxy _ current := by
    cases current
    exact old
  told _ current free := by
    cases current
    exact absurd rfl (free next)
  shared call member shared := by
    rw [(sound.shared call member shared).2] at held
    cases held
  crashed := sound.crashed

theorem Sound.registered (sound : s.Sound) {remote : Nat} {next : Option Api}
    (held : s.holder = some (.registering remote next)) (registered : Bool)
    (alive : registered = true → s.live = some remote) {rest : List Call} (resumed : rest = [] ∨ rest = resume next) :
    Sound { s with
      holder := none
      recipients := if registered then remote :: s.recipients else s.recipients
      registrations := (remote, registered) :: s.registrations
      calls := rest ++ s.calls } where
  live := sound.live
  recipients other member := by
    cases registered with
    | false => exact sound.recipients other member
    | true =>
      rcases List.mem_cons.1 member with rfl | old
      · exact alive rfl
      · exact sound.recipients other old
  asking _ held := by cases held
  registering _ _ held := by cases held
  proxy := sound.proxy
  told other now _ := by
    have current := sound.registering remote next held
    obtain rfl := Option.some.inj (current.symm.trans now)
    cases registered with
    | false => exact .inr (.inr (List.mem_cons_self ..))
    | true => exact .inl (List.mem_cons_self ..)
  shared call member shared := by
    rcases List.mem_append.1 member with fresh | old
    · rcases resumed with rfl | rfl
      · cases fresh
      · rw [shared_resume fresh] at shared
        cases shared
    · exact ⟨(sound.shared call old shared).1, rfl⟩
  crashed := sound.crashed

theorem Sound.reset (sound : s.Sound) (unlocked : s.unlocked = true) (remote : Nat) :
    Sound { s.goOn (.notified remote) [.sleeping] with proxy := none } where
  live := sound.live
  recipients := sound.recipients
  asking _ held := absurd ((unlocked_holder unlocked).symm.trans held) (by simp)
  registering _ _ held := absurd ((unlocked_holder unlocked).symm.trans held) (by simp)
  proxy _ current := by cases current
  told _ current := by cases current
  shared call member shared := by
    rcases List.mem_append.1 member with fresh | old
    · obtain rfl := List.mem_singleton.1 fresh
      cases shared
    · rw [unlocked_shared unlocked (List.mem_of_mem_erase old)] at shared
      cases shared
  crashed := sound.crashed

theorem Sound.stepped {action : Action} (sound : s.Sound) (moved : s.Stepped action s') : s'.Sound := by
  cases moved with
  | moved moved => exact sound.moved moved
  | started dead same => exact same ▸ sound.started dead
  | died remote live same => exact same ▸ sound.died live
  | locked next waiting unlocked none same => exact same ▸ sound.locked unlocked none next
  | notFound next held same => exact same ▸ sound.notFound held
  | found remote next held old same => exact same ▸ sound.found held old
  | registered remote next held registered alive rest resumed same =>
    exact same ▸ sound.registered held registered alive resumed
  | reset remote notified unlocked current same => exact same ▸ sound.reset unlocked remote

theorem sound_of_reach {guard : World → Action → Prop} (run : Reach World.step guard {} s) : s.Sound := by
  refine run.invariant World.Sound ?_ fun s action s' sound _ taken => sound.stepped (World.stepped taken)
  refine ⟨nofun, nofun, nofun, nofun, nofun, nofun, fun call member shared => ?_, nofun⟩
  obtain rfl := List.mem_singleton.1 member
  cases shared

theorem Sound.leads (sound : s.Sound) (leads : Leads World.step s s') : s'.Sound := by
  induction leads with
  | refl => exact sound
  | tail _ step ih =>
    obtain ⟨action, taken⟩ := step
    exact ih.stepped (World.stepped taken)

/-! ## A proxy that nobody watches -/

/-- It stays as it is, whatever happens. -/
theorem Sound.unwatched {action : Action} (sound : s.Sound) {remote : Nat} (current : s.proxy = some remote)
    (unwatched : ¬ s.Watched remote) (moved : s.Stepped action s') : s'.proxy = some remote ∧ ¬ s'.Watched remote := by
  obtain ⟨there, told, held⟩ : remote ∉ s.recipients ∧ .notified remote ∉ s.calls ∧
      ∀ next, s.holder = some (.registering remote next) → s.live ≠ some remote := by
    simpa only [Watched, not_or, not_and, not_exists, forall_exists_index] using unwatched
  cases moved with
  | moved moved =>
    refine ⟨moved.proxy.trans current, ?_⟩
    rintro (member | member | ⟨⟨next, registering⟩, live⟩)
    · exact there (moved.recipients ▸ member)
    · exact told (moved.notified remote member)
    · exact held next (moved.holder ▸ registering) (moved.live ▸ live)
  | started dead same =>
    subst same
    refine ⟨current, ?_⟩
    rintro (member | member | ⟨-, live⟩)
    · exact there member
    · exact told member
    · -- the service that starts is a new one
      exact absurd (Option.some.inj live) (Nat.ne_of_gt (sound.proxy remote current))
  | died other live same =>
    subst same
    refine ⟨current, ?_⟩
    rintro (member | member | ⟨-, live⟩)
    · exact there (List.mem_filter.1 member).1
    · rcases List.mem_append.1 member with fresh | old
      · obtain ⟨_, own, same⟩ := List.mem_map.1 fresh
        obtain rfl := Call.notified.inj same
        exact there (List.mem_filter.1 own).1
      · exact told old
    · cases live
  | locked next waiting unlocked none same => simp [none] at current
  | notFound next asking same => simp [sound.asking next asking] at current
  | found other next asking old same => simp [sound.asking next asking] at current
  | registered other next registering registered alive rest resumed same =>
    subst same
    obtain rfl := Option.some.inj ((sound.registering other next registering).symm.trans current)
    have refused : registered = false := Bool.eq_false_iff.2 fun accepted => held next registering (alive accepted)
    subst refused
    refine ⟨current, ?_⟩
    rintro (member | member | ⟨⟨_, registering⟩, -⟩)
    · exact there member
    · rcases List.mem_append.1 member with fresh | old
      · rcases resumed with rfl | rfl
        · cases fresh
        · exact notified_notMem_resume next other fresh
      · exact told old
    · cases registering
  | reset other notified unlocked now same =>
    obtain rfl := Option.some.inj (now.symm.trans current)
    exact absurd notified told

theorem Sound.leads_unwatched (sound : s.Sound) {remote : Nat} (current : s.proxy = some remote)
    (unwatched : ¬ s.Watched remote) (leads : Leads World.step s s') : s'.proxy = some remote := by
  have kept : s'.Sound ∧ s'.proxy = some remote ∧ ¬ s'.Watched remote := by
    refine Relation.ReflTransGen.head_induction_on (motive := fun s _ => s.Sound → s.proxy = some remote →
      ¬ s.Watched remote → s'.Sound ∧ s'.proxy = some remote ∧ ¬ s'.Watched remote) leads ?_ ?_ sound current unwatched
    · exact fun sound current unwatched => ⟨sound, current, unwatched⟩
    · rintro s mid ⟨action, taken⟩ - ih sound current unwatched
      have moved := World.stepped taken
      obtain ⟨current, unwatched⟩ := sound.unwatched current unwatched moved
      exact ih (sound.stepped moved) current unwatched
  exact kept.2.1

/-! ## A proxy that is watched -/

/-- A request that holds the lock comes back, and nothing else changes. -/
theorem Sound.leads_back (sound : s.Sound) {call : Call} (member : call ∈ s.calls) (shared : call.shared = true) :
    ∃ answers, Leads World.step s { s.goOn call [] with answers := answers } := by
  cases call with
  | calling api remote =>
    have taken : s.step (.answer api remote) =
        some { s.goOn (.calling api remote) [] with answers := (remote, decide (s.live = some remote)) :: s.answers } :=
      if_pos member
    exact ⟨_, .of_step taken⟩
  | entered api =>
    obtain ⟨remote, current⟩ := Option.isSome_iff_exists.1 (sound.shared _ member shared).1
    let mid := s.goOn (.entered api) [.calling api remote]
    have used : s.step (.use api) = some mid := by
      simp only [step, if_pos member, current, mid]
    have answered : mid.step (.answer api remote) =
        some { mid.goOn (.calling api remote) [] with answers := (remote, decide (s.live = some remote)) :: s.answers } :=
      if_pos (List.mem_cons_self ..)
    have left : mid.goOn (.calling api remote) [] = s.goOn (.entered api) [] := by
      simp [mid, goOn]
    rw [left] at answered
    exact ⟨_, (Leads.of_step used).trans (.of_step answered)⟩
  | connecting | connectUsbService | ready | notified | sleeping => cases shared

/-- The requests that hold the lock come back. -/
theorem Sound.leads_answered (sound : s.Sound) (free : s.holder = none) {remote : Nat}
    (told : .notified remote ∈ s.calls) :
    ∃ s', Leads World.step s s' ∧ s'.proxy = s.proxy ∧ .notified remote ∈ s'.calls ∧ s'.unlocked = true := by
  -- on the number of the calls that hold it
  induction count : s.calls.countP Call.shared generalizing s with
  | zero =>
    refine ⟨s, .refl, rfl, told, ?_⟩
    have none : ∀ call ∈ s.calls, call.shared = false := fun call member => by
      simpa using List.countP_eq_zero.1 count call member
    simpa [unlocked, free] using none
  | succ n ih =>
    obtain ⟨call, member, shared⟩ := List.countP_pos_iff.1 (Nat.lt_of_lt_of_eq (Nat.succ_pos n) count.symm)
    obtain ⟨answers, back⟩ := sound.leads_back member shared
    have fewer : (s.calls.erase call).countP Call.shared = n := by
      have split := (List.perm_cons_erase member).countP_eq Call.shared
      rw [count, List.countP_cons_of_pos shared] at split
      exact (Nat.succ.inj split).symm
    have differs : Call.notified remote ≠ call := by
      rintro rfl
      cases shared
    have kept : Call.notified remote ∈ s.calls.erase call := (List.mem_erase_of_ne differs).2 told
    obtain ⟨s', leads, proxy, told, unlocked⟩ := ih (s := { s.goOn call [] with answers := answers })
      (sound.leads back) free kept fewer
    exact ⟨s', back.trans leads, proxy, told, unlocked⟩

/-- A notification reaches `ResetProxy`. -/
theorem Sound.leads_reset (sound : s.Sound) (free : s.holder = none) {remote : Nat} (current : s.proxy = some remote)
    (told : .notified remote ∈ s.calls) : ∃ s', Leads World.step s s' ∧ s'.proxy = none := by
  obtain ⟨mid, leads, same, told, unlocked⟩ := sound.leads_answered free told
  have taken : mid.step (.resetProxy remote) =
      some { mid.goOn (.notified remote) [.sleeping] with proxy := none } := by
    simp only [step]
    rw [if_pos ⟨told, unlocked⟩, if_pos (same.trans current)]
  exact ⟨_, leads.trans (.of_step taken), rfl⟩

/-- The service dies, and its recipient is told. -/
theorem Sound.leads_died (sound : s.Sound) (free : s.holder = none) {remote : Nat} (current : s.proxy = some remote)
    (there : remote ∈ s.recipients) : ∃ s', Leads World.step s s' ∧ s'.proxy = none := by
  have live := sound.recipients remote there
  have taken : s.step .die = some { s with
      live := none
      recipients := s.recipients.filter (· ≠ remote)
      calls := (s.recipients.filter (· = remote)).map .notified ++ s.calls } := by
    simp only [step, live]
  have told : Call.notified remote ∈ (s.recipients.filter (· = remote)).map .notified ++ s.calls :=
    List.mem_append_left _ (List.mem_map.2 ⟨remote, List.mem_filter.2 ⟨there, decide_eq_true rfl⟩, rfl⟩)
  have after := sound.stepped (World.stepped taken)
  obtain ⟨s', leads, none⟩ := after.leads_reset free current told
  exact ⟨s', (Leads.of_step taken).trans leads, none⟩

theorem Sound.leads_watched (sound : s.Sound) {remote : Nat} (current : s.proxy = some remote)
    (watched : s.Watched remote) : ∃ s', Leads World.step s s' ∧ s'.proxy = none := by
  cases held : s.holder with
  | none =>
    rcases watched with there | told | ⟨⟨next, registering⟩, -⟩
    · exact sound.leads_died held current there
    · exact sound.leads_reset held current told
    · simp [held] at registering
  | some part =>
    cases part with
    | asking next => simp [sound.asking next held] at current
    | registering other next =>
      obtain rfl := Option.some.inj ((sound.registering other next held).symm.trans current)
      -- the holder registers its recipient, and gives the lock back
      have taken : s.step (.addDeathRecipient true true) = some { s with
          holder := none
          recipients := if decide (s.live = some other) then other :: s.recipients else s.recipients
          registrations := (other, decide (s.live = some other)) :: s.registrations
          calls := resume next ++ s.calls } := by
        simp only [step, held, Bool.true_and, if_true]
      have after := sound.stepped (World.stepped taken)
      have first := Leads.of_step taken
      have there : other ∈ s.recipients ∨ .notified other ∈ s.calls ∨ s.live = some other := by
        rcases watched with there | told | ⟨-, live⟩
        · exact .inl there
        · exact .inr (.inl told)
        · exact .inr (.inr live)
      have left : other ∈ (if decide (s.live = some other) then other :: s.recipients else s.recipients) ∨
          .notified other ∈ resume next ++ s.calls := by
        rcases there with there | told | live
        · split
          · exact .inl (List.mem_cons_self ..)
          · exact .inl there
        · exact .inr (List.mem_append_right _ told)
        · exact .inl (by simp [live])
      rcases left with there | told
      · obtain ⟨s', leads, none⟩ := after.leads_died rfl current there
        exact ⟨s', first.trans leads, none⟩
      · obtain ⟨s', leads, none⟩ := after.leads_reset rfl current told
        exact ⟨s', first.trans leads, none⟩

end Invariant

end World

/-- Whatever has happened, the client can come to drop its proxy if and only if a death recipient is registered
on it or being registered on a live service, or a notification about it is on its way. If none is, the client has
once failed to register the recipient, and then every request goes to this proxy for good. -/
theorem proxy_dropped_iff_watched {s : World} (run : Reach World.step anyStep {} s) {remote : Nat}
    (current : s.proxy = some remote) :
    ((∃ s', Leads World.step s s' ∧ s'.proxy ≠ some remote) ↔ s.Watched remote) ∧
      (¬ s.Watched remote → (∀ next, s.holder ≠ some (.registering remote next)) →
        (remote, false) ∈ s.registrations) := by
  have sound := World.sound_of_reach run
  refine ⟨⟨?_, ?_⟩, ?_⟩
  · rintro ⟨s', leads, dropped⟩
    exact Classical.byContradiction fun unwatched => dropped (sound.leads_unwatched current unwatched leads)
  · intro watched
    obtain ⟨s', leads, none⟩ := sound.leads_watched current watched
    exact ⟨s', leads, by simp [none]⟩
  · intro unwatched free
    rcases sound.told remote current free with there | told | refused
    · exact absurd (.inl there) unwatched
    · exact absurd (.inr (.inl told)) unwatched
    · exact refused

/-- The service dies before the recipient is registered and starts again; the client keeps the dead one. -/
theorem proxy_dropped_iff_watched_refused :
    ∃ s, Reach World.step anyStep {} s ∧ s.live = some 1 ∧ ∀ s', Leads World.step s s' → s'.proxy = some 0 := by
  have run : Reach World.step anyStep {} _ := reach_of_runFrom
    [.start, .connect none, .connectUsbService none, .ask (some 0), .die, .addDeathRecipient true true, .start]
    (fun _ _ _ => trivial) .init rfl
  refine ⟨_, run, rfl, fun s' leads => Classical.byContradiction fun dropped => ?_⟩
  rcases (proxy_dropped_iff_watched run rfl).1.1 ⟨s', leads, dropped⟩ with there | told | ⟨⟨next, held⟩, -⟩
  · cases there
  · cases told
  · cases held

/-! ## Null proxies -/

namespace World

/-- The calls made are of functions in `used`. -/
def only (used : Api → Bool) (_ : World) (action : Action) : Prop := ∀ api, action = .call api → used api = true

variable {used : Api → Bool} {s s' : World}

variable (used s) in
structure Within : Prop where
  calls : ∀ call ∈ s.calls, ∀ api ∈ call.api, used api = true
  holder : ∀ part ∈ s.holder, ∀ api ∈ part.api, used api = true
  crashed : ∀ api ∈ s.crashed, used api = true

theorem Within.stepped {action : Action} (within : s.Within used) (allowed : only used s action)
    (moved : s.Stepped action s') : s'.Within used := by
  cases moved with
  | moved moved =>
    refine ⟨fun call member api own => ?_, fun part held => within.holder part (moved.holder ▸ held),
      fun api member => ?_⟩
    · rcases moved.apis call member api own with called | ⟨other, there, same⟩
      · exact allowed api called
      · exact within.calls other there api same
    · rcases moved.crashed api member with old | ⟨-, entered⟩
      · exact within.crashed api old
      · exact within.calls _ entered api rfl
  | started dead same =>
    subst same
    exact ⟨within.calls, within.holder, within.crashed⟩
  | died remote live same =>
    subst same
    refine ⟨fun call member api own => ?_, within.holder, within.crashed⟩
    rcases List.mem_append.1 member with fresh | old
    · obtain ⟨_, -, rfl⟩ := List.mem_map.1 fresh
      cases own
    · exact within.calls call old api own
  | locked next waiting unlocked none same =>
    subst same
    refine ⟨fun call member => within.calls call (List.mem_of_mem_erase member), fun part held => ?_, within.crashed⟩
    obtain rfl := Option.some.inj held
    exact within.calls _ waiting
  | notFound next held same =>
    subst same
    exact ⟨within.calls, (fun part gone => by cases gone), within.crashed⟩
  | found remote next held old same =>
    subst same
    refine ⟨within.calls, fun part now => ?_, within.crashed⟩
    obtain rfl := Option.some.inj now
    exact within.holder (.asking next) held
  | registered remote next held registered alive rest resumed same =>
    subst same
    refine ⟨fun call member => ?_, (fun part gone => by cases gone), within.crashed⟩
    rcases List.mem_append.1 member with fresh | old
    · rcases resumed with rfl | rfl
      · cases fresh
      · exact fun api own => within.holder _ held api (api_resume call fresh api own)
    · exact within.calls call old
  | reset remote notified unlocked current same =>
    subst same
    refine ⟨fun call member api own => ?_, within.holder, within.crashed⟩
    rcases List.mem_append.1 member with fresh | old
    · obtain rfl := List.mem_singleton.1 fresh
      cases own
    · exact within.calls call (List.mem_of_mem_erase old) api own

theorem within_of_reach (run : Reach World.step (only used) {} s) : s.Within used := by
  refine run.invariant (World.Within used) ?_ fun s action s' within allowed taken =>
    within.stepped allowed (World.stepped taken)
  exact ⟨List.forall_mem_singleton.2 nofun, nofun, nofun⟩

end World

/-- In the runs with the functions `used`, exactly those of them that take no lock come to use a null proxy. -/
theorem crashes_iff_lockless (used : Api → Bool) (api : Api) :
    (∃ s, Reach World.step (World.only used) {} s ∧ api ∈ s.crashed) ↔ used api = true ∧ api.locks = false := by
  constructor
  · rintro ⟨s, run, crashed⟩
    exact ⟨(World.within_of_reach run).crashed api crashed, (World.sound_of_reach run).crashed api crashed⟩
  · rintro ⟨member, lockless⟩
    cases api with
    | openDevice => cases lockless
    | claimInterface => cases lockless
    | registerConnectionListener =>
      refine ⟨_, reach_of_runFrom
        [.start, .connect none, .connectUsbService none, .ask (some 0), .addDeathRecipient true true,
          .call .registerConnectionListener, .connect (some .registerConnectionListener), .die, .resetProxy 0,
          .enter .registerConnectionListener, .use .registerConnectionListener] ?_ .init rfl, List.mem_cons_self ..⟩
      simp [World.only, member]
    | claimInterfaceExclusive =>
      refine ⟨_, reach_of_runFrom
        [.start, .connect none, .connectUsbService none, .ask (some 0), .addDeathRecipient true true,
          .call .claimInterfaceExclusive, .enter .claimInterfaceExclusive, .die, .resetProxy 0,
          .use .claimInterfaceExclusive] ?_ .init rfl, List.mem_cons_self ..⟩
      simp [World.only, member]

end UsbManager.Proxy
