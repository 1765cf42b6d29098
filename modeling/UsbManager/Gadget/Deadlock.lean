import UsbManager.Gadget.Connection
import UsbManager.Lib.Locks

/-!
# The locks of the device-side manager

`functionMutex_` guards the functions of the driver and `deviceMutex_` the state of the manager. Each
call is a program over the two, with a step for every part of it that runs between lock operations; a
part makes at most one call to the driver, so that the calls of other threads may come in between.
Run by itself, a program does what the call does in one step (`Call.alone_program`).

`SetCurrentFunctions` takes `functionMutex_` and then, in `UpdateFunctions`, `deviceMutex_`. The
connect task takes `deviceMutex_` and then, in `GetCurrentFunctions`, `functionMutex_`. When each has
its first lock they wait for each other forever. This is the only deadlock: as long as the two never
overlap so, some thread can go on.
-/

namespace UsbManager.Gadget

open Locks Transition

/-! ## The calls as programs -/

inductive Mutex where
  | functionMutex
  | deviceMutex
  deriving DecidableEq, Repr

/-- The parts of the calls. -/
inductive Section where
  | interfaceCheck
  | hdiGetCurrentFunctions
  | hdiSetCurrentFunctions
  | connectBegin
  | connectEnd
  /-- All that a call does under its only lock. -/
  | body
  deriving DecidableEq, Repr

abbrev Program := Prog Mutex UsbDeviceManager Answers Section

abbrev Threads := Pool Mutex UsbDeviceManager Answers Section

def locked (mutex : Mutex) (part : Section) (effect : UsbDeviceManager → Answers → UsbDeviceManager)
    (rest : Program) : Program :=
  .acquire mutex (.act part effect fun _ _ => .release mutex rest)

namespace Program

/-- `GetCurrentFunctions(int32_t &)`; `store` is what the driver's answer does to its argument. -/
def getCurrentFunctions (store : UsbDeviceManager → Answers → UsbDeviceManager) (rest : Program) : Program :=
  .act .interfaceCheck (fun m _ => m) fun m _ =>
    if m.usbDeviceInterface then locked .functionMutex .hdiGetCurrentFunctions store rest else rest

def updateFunctions (func : UInt32) (rest : Program) : Program :=
  locked .deviceMutex .body (fun m _ => m.updateFunctions func) rest

def setCurrentFunctions (funcs : UInt32) : Program :=
  .act .interfaceCheck (fun m _ => m) fun m _ =>
    if m.usbDeviceInterface then
      .acquire .functionMutex <| .act .hdiGetCurrentFunctions (fun m _ => m) fun m a =>
        if (m.driver.getCurrentFunctions a 0).1 ≠ .uecOk then .release .functionMutex .done
        else if (m.driver.getCurrentFunctions a 0).2 = funcs then .release .functionMutex .done
        else
          .act .hdiSetCurrentFunctions (fun m a => { m with driver := (m.driver.setCurrentFunctions a funcs).2 })
            fun m a =>
              if (m.driver.setCurrentFunctions a funcs).1 ≠ .uecOk then .release .functionMutex .done
              else updateFunctions funcs (.release .functionMutex .done)
    else .done

def handleEvent (status : Status) : Program :=
  locked .deviceMutex .body (fun m _ => m.handleEvent status) .done

def userChangeProcess : Program :=
  locked .deviceMutex .body (fun m a => (m.userChangeProcess a).2) .done

def connectTask : Program :=
  .acquire .deviceMutex <| .act .connectBegin (fun m _ => { m with connected := true }) fun _ _ =>
    getCurrentFunctions
      (fun m a => { m with currentFunctions := (m.driver.getCurrentFunctions a m.currentFunctions).2 }) <|
      .act .connectEnd (fun m _ => m.processFuncChange m.connected m.currentFunctions) fun _ _ =>
        .release .deviceMutex .done

def disconnectTask : Program := locked .deviceMutex .body (fun m a => m.disconnectTask a) .done

end Program

/-- The calls of the service and the tasks of the timers. -/
inductive Call where
  /-- `GetCurrentFunctions(int32_t &)`, which asks the driver. -/
  | getCurrentFunctions
  /-- `GetCurrentFunctions()`, which reads `currentFunctions_`. -/
  | currentFunctions
  | setCurrentFunctions (funcs : UInt32)
  | handleEvent (status : Status)
  | userChangeProcess
  | task (kind : Task)

namespace Call

def program : Call → Program
  | getCurrentFunctions => Program.getCurrentFunctions (fun m _ => m) .done
  | currentFunctions => locked .deviceMutex .body (fun m _ => m) .done
  | setCurrentFunctions funcs => Program.setCurrentFunctions funcs
  | handleEvent status => Program.handleEvent status
  | userChangeProcess => Program.userChangeProcess
  | task .connect => Program.connectTask
  | task .disconnect => Program.disconnectTask

/-- The call in one step. -/
def run (m : UsbDeviceManager) (a : Answers) : Call → UsbDeviceManager
  | getCurrentFunctions | currentFunctions => m
  | setCurrentFunctions funcs => (m.setCurrentFunctions a funcs).2
  | handleEvent status => m.handleEvent status
  | userChangeProcess => (m.userChangeProcess a).2
  | task kind => m.runTask a kind

theorem alone_setCurrentFunctions (funcs : UInt32) (a : Answers) (m : UsbDeviceManager) :
    (Program.setCurrentFunctions funcs).alone a m = (m.setCurrentFunctions a funcs).2 := by
  simp only [Program.setCurrentFunctions, UsbDeviceManager.setCurrentFunctions, Prog.alone]
  split
  · simp only [Prog.alone]
    split
    · rfl
    · split
      · rfl
      · simp only [Prog.alone]
        split
        · next refused =>
          have kept : (m.driver.setCurrentFunctions a funcs).2 = m.driver := by
            unfold Driver.setCurrentFunctions at refused ⊢
            split <;> simp_all
          simp [Prog.alone, kept]
        · rfl
  · rfl

theorem alone_connectTask (a : Answers) (m : UsbDeviceManager) :
    Program.connectTask.alone a m = m.connectTask a := by
  simp only [Program.connectTask, Program.getCurrentFunctions, UsbDeviceManager.connectTask,
    UsbDeviceManager.getCurrentFunctions, Prog.alone]
  cases present : m.usbDeviceInterface <;> simp [Prog.alone, locked]

/-- With no other thread running the program is the call. -/
theorem alone_program (call : Call) (a : Answers) (m : UsbDeviceManager) :
    call.program.alone a m = call.run m a := by
  cases call with
  | getCurrentFunctions =>
    simp only [program, Program.getCurrentFunctions, Prog.alone, run]
    split <;> rfl
  | currentFunctions => rfl
  | setCurrentFunctions funcs => exact alone_setCurrentFunctions funcs a m
  | handleEvent status => rfl
  | userChangeProcess => rfl
  | task kind =>
    cases kind with
    | connect => exact alone_connectTask a m
    | disconnect => rfl

end Call

/-! ## Runs of threads -/

inductive Move where
  /-- A client, or the driver with an event, starts a call. -/
  | call (call : Call)
  /-- A pending timer fires: its task starts. -/
  | fire (timer : Nat)
  /-- The thread takes its next step. -/
  | run (thread : Nat) (a : Answers)

namespace Threads

def start (present : Bool) : Threads := { shared := { usbDeviceInterface := present } }

/-- Tasks start from timers only. -/
def step (p : Threads) : Move → Option Threads
  | .call (.task _) => none
  | .call call => some (p.spawn call.program)
  | .fire timer => (p.shared.timers.fire timer).map fun (task, timers) =>
      { p with shared := { p.shared with timers := timers } }.spawn (Call.task task).program
  | .run thread a => Pool.step p thread a

end Threads

/-- It is past the driver's `SetCurrentFunctions`, and `UpdateFunctions` is to lock `deviceMutex_`. -/
def Updating (t : Thread Mutex UsbDeviceManager Answers Section) : Prop :=
  .functionMutex ∈ t.held ∧ t.Waits .deviceMutex

/-- It has `deviceMutex_`, and `GetCurrentFunctions` may still lock `functionMutex_`. -/
def Connecting (t : Thread Mutex UsbDeviceManager Answers Section) : Prop :=
  .deviceMutex ∈ t.held ∧ t.prog.MayLock .functionMutex

/-- `SetCurrentFunctions` does not go on to `UpdateFunctions` while a connect task is between its two
locks, and a connect task does not lock `deviceMutex_` while `UpdateFunctions` is to lock it. -/
def Threads.Apart (p : Threads) : Move → Prop
  | .run thread a => ∀ t, p.threads[thread]? = some t →
      (t.prog.point? = some .hdiSetCurrentFunctions → a.setRet = .uecOk → ∀ u ∈ p.threads, ¬ Connecting u) ∧
      (t.Waits .deviceMutex → t.prog.MayLock .functionMutex → ∀ u ∈ p.threads, ¬ Updating u)
  | _ => True

/-! ## The invariant -/

/-- Only a `SetCurrentFunctions` of the driver that succeeds leads to `UpdateFunctions`. -/
def LeadsToUpdate (held : List Mutex) (prog : Program) : Prop :=
  ∀ s a t, Thread.Next s a ⟨held, prog⟩ t → Updating t →
    prog.point? = some .hdiSetCurrentFunctions ∧ a.setRet = .uecOk

structure Threads.Ordered (p : Threads) : Prop where
  sound : ∀ t ∈ p.threads, t.prog.Always Prog.Sound t.held
  leads : ∀ t ∈ p.threads, t.prog.Always LeadsToUpdate t.held
  apart : ∀ t ∈ p.threads, ∀ u ∈ p.threads, Updating t → ¬ Connecting u

/-! ### The programs -/

theorem locked_sound {mutex : Mutex} {held : List Mutex} {part : Section}
    {effect : UsbDeviceManager → Answers → UsbDeviceManager} {rest : Program} (free : mutex ∉ held)
    (after : rest.Always Prog.Sound held) : (locked mutex part effect rest).Always Prog.Sound held := by
  refine ⟨free, trivial, fun _ _ => ⟨List.mem_cons_self .., ?_⟩⟩
  rwa [List.erase_cons_head]

section Leads

variable {held : List Mutex} {rest : Program}

theorem leads_done : (Prog.done : Program).Always LeadsToUpdate held := by
  intro s a t next
  cases next

theorem leads_acquire (mutex : Mutex) (quiet : rest.wants = none) (after : rest.Always LeadsToUpdate (mutex :: held)) :
    (Prog.acquire mutex rest).Always LeadsToUpdate held := by
  refine ⟨fun s a t next updating => ?_, after⟩
  cases next
  cases quiet.symm.trans updating.2

theorem leads_release (mutex : Mutex) (quiet : rest.wants = none)
    (after : rest.Always LeadsToUpdate (held.erase mutex)) :
    (Prog.release mutex rest).Always LeadsToUpdate held := by
  refine ⟨fun s a t next updating => ?_, after⟩
  cases next
  cases quiet.symm.trans updating.2

theorem leads_act {part : Section} {effect : UsbDeviceManager → Answers → UsbDeviceManager}
    {next : UsbDeviceManager → Answers → Program}
    (update : ∀ m a, .functionMutex ∈ held → (next m a).wants = some .deviceMutex →
      part = .hdiSetCurrentFunctions ∧ a.setRet = .uecOk)
    (after : ∀ m a, (next m a).Always LeadsToUpdate held) :
    (Prog.act part effect next).Always LeadsToUpdate held := by
  refine ⟨fun s a t step updating => ?_, after⟩
  cases step
  obtain ⟨same, ok⟩ := update s a updating.1 updating.2
  exact ⟨congrArg some same, ok⟩

theorem leads_locked (mutex : Mutex) (part : Section) (effect : UsbDeviceManager → Answers → UsbDeviceManager)
    (quiet : rest.wants = none) (after : rest.Always LeadsToUpdate held) :
    (locked mutex part effect rest).Always LeadsToUpdate held := by
  refine leads_acquire mutex rfl (leads_act (fun m a _ wants => by cases wants) fun _ _ => leads_release mutex quiet ?_)
  rwa [List.erase_cons_head]

theorem leads_getCurrentFunctions (store : UsbDeviceManager → Answers → UsbDeviceManager)
    (quiet : rest.wants = none) (after : rest.Always LeadsToUpdate held) :
    (Program.getCurrentFunctions store rest).Always LeadsToUpdate held := by
  refine leads_act (fun m a _ wants => ?_) fun m a => ?_
  · split at wants
    · cases wants
    · cases quiet.symm.trans wants
  · split
    · exact leads_locked _ _ _ quiet after
    · exact after

theorem leads_setCurrentFunctions (funcs : UInt32) : (Program.setCurrentFunctions funcs).Always LeadsToUpdate [] := by
  have refused : (Prog.release .functionMutex .done : Program).Always LeadsToUpdate [.functionMutex] :=
    leads_release _ rfl leads_done
  refine leads_act (fun m a member => by cases member) fun m a => ?_
  split
  · refine leads_acquire _ rfl (leads_act (fun m a _ wants => ?_) fun m a => ?_)
    · split at wants
      · cases wants
      · split at wants <;> cases wants
    · split
      · exact refused
      · split
        · exact refused
        · refine leads_act (fun m a _ wants => ?_) fun m a => ?_
          · refine ⟨rfl, ?_⟩
            by_contra failed
            simp [Driver.setCurrentFunctions, failed, Prog.wants] at wants
          · split
            · exact refused
            · exact leads_locked _ _ _ rfl refused
  · exact leads_done

theorem leads_program (call : Call) : call.program.Always LeadsToUpdate [] := by
  have body (effect : UsbDeviceManager → Answers → UsbDeviceManager) :
      (locked .deviceMutex .body effect .done).Always LeadsToUpdate [] := leads_locked _ _ _ rfl leads_done
  cases call with
  | getCurrentFunctions => exact leads_getCurrentFunctions _ rfl leads_done
  | currentFunctions => exact body _
  | setCurrentFunctions funcs => exact leads_setCurrentFunctions funcs
  | handleEvent status => exact body _
  | userChangeProcess => exact body _
  | task kind =>
    cases kind with
    | connect =>
      refine leads_acquire _ rfl (leads_act (fun m a _ wants => by cases wants) fun _ _ => ?_)
      refine leads_getCurrentFunctions _ rfl (leads_act (fun m a _ wants => by cases wants) fun _ _ => ?_)
      exact leads_release _ rfl leads_done
    | disconnect => exact body _

end Leads

theorem sound_getCurrentFunctions {held : List Mutex} (store : UsbDeviceManager → Answers → UsbDeviceManager)
    {rest : Program} (free : .functionMutex ∉ held) (after : rest.Always Prog.Sound held) :
    (Program.getCurrentFunctions store rest).Always Prog.Sound held := by
  refine ⟨trivial, fun m _ => ?_⟩
  dsimp only
  split
  · exact locked_sound free after
  · exact after

theorem sound_setCurrentFunctions (funcs : UInt32) : (Program.setCurrentFunctions funcs).Always Prog.Sound [] := by
  have refused : (Prog.release .functionMutex .done : Program).Always Prog.Sound [.functionMutex] :=
    ⟨List.mem_singleton.2 rfl, rfl⟩
  refine ⟨trivial, fun m _ => ?_⟩
  dsimp only
  split
  · refine ⟨List.not_mem_nil, trivial, fun m a => ?_⟩
    dsimp only
    split
    · exact refused
    · split
      · exact refused
      · refine ⟨trivial, fun m a => ?_⟩
        dsimp only
        split
        · exact refused
        · exact locked_sound (by decide) refused
  · exact rfl

theorem sound_program (call : Call) : call.program.Always Prog.Sound [] := by
  have body (effect : UsbDeviceManager → Answers → UsbDeviceManager) :
      (locked .deviceMutex .body effect .done).Always Prog.Sound [] := locked_sound List.not_mem_nil rfl
  cases call with
  | getCurrentFunctions => exact sound_getCurrentFunctions _ List.not_mem_nil rfl
  | currentFunctions => exact body _
  | setCurrentFunctions funcs => exact sound_setCurrentFunctions funcs
  | handleEvent status => exact body _
  | userChangeProcess => exact body _
  | task kind =>
    cases kind with
    | connect =>
      refine ⟨List.not_mem_nil, trivial, fun _ _ => sound_getCurrentFunctions _ (by decide) ?_⟩
      exact ⟨trivial, fun _ _ => ⟨List.mem_singleton.2 rfl, rfl⟩⟩
    | disconnect => exact body _

/-! ### Steps -/

namespace Threads

variable {p p' : Threads}

theorem Ordered.spawn (ordered : p.Ordered) (call : Call) : Ordered (p.spawn call.program) where
  sound := Pool.spawn_threads (K := fun t => t.prog.Always Prog.Sound t.held) ordered.sound (sound_program call)
  leads := Pool.spawn_threads (K := fun t => t.prog.Always LeadsToUpdate t.held) ordered.leads (leads_program call)
  apart := by
    -- a thread that starts holds nothing
    intro t first u second updating connecting
    rcases List.mem_append.1 first with old | new
    · rcases List.mem_append.1 second with old' | new'
      · exact ordered.apart t old u old' updating connecting
      · rw [List.mem_singleton.1 new'] at connecting
        cases connecting.1
    · rw [List.mem_singleton.1 new] at updating
      cases updating.1

/-- A thread that comes between the two locks of the connect task was there before, or locks
`deviceMutex_` now. -/
theorem connecting_before {m : UsbDeviceManager} {a : Answers} {t t' : Thread Mutex UsbDeviceManager Answers Section}
    (next : t.Next m a t') (connecting : Connecting t') :
    Connecting t ∨ t.Waits .deviceMutex ∧ t.prog.MayLock .functionMutex := by
  have may := next.mayLock connecting.2
  have holds := connecting.1
  cases next with
  | acquire held mutex rest =>
    rcases List.mem_cons.1 holds with rfl | old
    · exact .inr ⟨rfl, may⟩
    · exact .inl ⟨old, may⟩
  | release held mutex rest => exact .inl ⟨List.mem_of_mem_erase holds, may⟩
  | act held part effect rest => exact .inl ⟨holds, may⟩

theorem Ordered.run (ordered : p.Ordered) {thread : Nat} {a : Answers} (allowed : p.Apart (.run thread a))
    (taken : Pool.step p thread a = some p') : p'.Ordered := by
  have sound := Pool.step_threads (K := fun t => t.prog.Always Prog.Sound t.held) taken ordered.sound
    fun t t' next => next.always
  refine ⟨sound, ?_, ?_⟩
  · exact Pool.step_threads (K := fun t => t.prog.Always LeadsToUpdate t.held) taken ordered.leads
      fun t t' next => next.always
  · obtain ⟨t, t', found, next, threads, -⟩ := Pool.step_cases taken
    have member := List.mem_of_getElem? found
    have moved : t' ∈ p'.threads := by
      rw [threads]
      exact List.mem_set (List.getElem?_eq_some_iff.1 found).1 t'
    obtain ⟨update, connect⟩ := allowed t found
    intro u first v second updating connecting
    rw [threads] at first second
    rcases List.mem_or_eq_of_mem_set first with old | rfl
    · rcases List.mem_or_eq_of_mem_set second with old' | rfl
      · exact ordered.apart u old v old' updating connecting
      · rcases connecting_before next connecting with before | ⟨waits, may⟩
        · exact ordered.apart u old t member updating before
        · exact connect waits may u old updating
    · rcases List.mem_or_eq_of_mem_set second with old' | rfl
      · obtain ⟨point, ok⟩ := (ordered.leads t member).now p.shared a u next updating
        exact update point ok v old' connecting
      · -- one thread does not wait for a lock that it has
        exact updating.2.not_held (sound v moved).now connecting.1

theorem Ordered.step (ordered : p.Ordered) {move : Move} (allowed : p.Apart move) (taken : p.step move = some p') :
    p'.Ordered := by
  cases move with
  | call call =>
    cases call with
    | task kind => cases taken
    | getCurrentFunctions | currentFunctions | setCurrentFunctions funcs | handleEvent status | userChangeProcess =>
      obtain rfl := Option.some.inj taken
      exact ordered.spawn _
  | fire timer =>
    obtain ⟨⟨task, timers⟩, -, rfl⟩ := Option.map_eq_some_iff.1 taken
    exact Ordered.spawn (p := { p with shared := { p.shared with timers := timers } })
      ⟨ordered.sound, ordered.leads, ordered.apart⟩ (.task task)
  | run thread a => exact ordered.run allowed taken

/-- Threads that wait with nothing held come last, those that hold a lock and do not wait first. -/
def rank (t : Thread Mutex UsbDeviceManager Answers Section) : Nat :=
  match t.prog.wants with
  | none => 0
  | some _ => if t.held = [] then 2 else 1

theorem rank_waiting {t : Thread Mutex UsbDeviceManager Answers Section} {mutex : Mutex} (waits : t.Waits mutex) :
    rank t = if t.held = [] then 2 else 1 := by
  have wants : t.prog.wants = some mutex := waits
  rw [rank, wants]

/-- A thread that waits while it has the other lock. -/
theorem waits_holding {t : Thread Mutex UsbDeviceManager Answers Section} {mutex : Mutex} (sound : t.prog.Sound t.held)
    (waits : t.Waits mutex) (holding : t.held ≠ []) :
    mutex = .deviceMutex ∧ Updating t ∨ mutex = .functionMutex ∧ Connecting t := by
  obtain ⟨other, holds⟩ := List.exists_mem_of_ne_nil t.held holding
  obtain ⟨rest, next⟩ := waits.exists_rest
  have free := waits.not_held sound
  cases mutex with
  | deviceMutex =>
    cases other with
    | deviceMutex => exact absurd holds free
    | functionMutex => exact .inl ⟨rfl, holds, waits⟩
  | functionMutex =>
    cases other with
    | deviceMutex => exact .inr ⟨rfl, holds, next ▸ .here rest⟩
    | functionMutex => exact absurd holds free

theorem Ordered.ranked (ordered : p.Ordered) : Pool.Ranked rank p := by
  intro t first u second mutex waits holds
  have holding : u.held ≠ [] := List.ne_nil_of_mem holds
  have soundT := (ordered.sound t first).now
  have soundU := (ordered.sound u second).now
  rw [rank_waiting waits]
  by_cases free : ∀ other, ¬ u.Waits other
  · have lowest : rank u = 0 := by
      unfold rank
      cases wants : u.prog.wants with
      | none => rfl
      | some other => exact absurd wants (free other)
    rw [lowest]
    split <;> decide
  · push Not at free
    obtain ⟨other, waits'⟩ := free
    rw [rank_waiting waits', if_neg holding]
    split
    · decide
    next held =>
      -- both wait with a lock: one of them updates and the other one connects
      exfalso
      rcases waits_holding soundT waits held with ⟨rfl, updating⟩ | ⟨rfl, connecting⟩
      · rcases waits_holding soundU waits' holding with ⟨rfl, updating'⟩ | ⟨rfl, connecting⟩
        · exact waits'.not_held soundU holds
        · exact ordered.apart t first u second updating connecting
      · rcases waits_holding soundU waits' holding with ⟨rfl, updating⟩ | ⟨rfl, connecting'⟩
        · exact ordered.apart u second t first updating connecting
        · exact waits'.not_held soundU holds

end Threads

theorem Threads.reach_ordered {present : Bool} {p : Threads}
    (run : Reach Threads.step Threads.Apart (.start present) p) :
    p.Ordered := by
  refine run.invariant Threads.Ordered ?_ ?_
  · exact ⟨fun _ member => absurd member List.not_mem_nil, fun _ member => absurd member List.not_mem_nil,
      fun _ member => absurd member List.not_mem_nil⟩
  · intro p move p' ordered allowed taken
    exact ordered.step allowed taken

/-- As long as `UpdateFunctions` and a connect task do not each wait with the lock that the other one
needs, a thread that holds or waits for a lock finds such a thread that can take a step, and no
threads wait for each other in a cycle. -/
theorem gadget_deadlock_free {present : Bool} {p : Threads}
    (run : Reach Threads.step Threads.Apart (.start present) p) : p.DeadlockFree := by
  have ordered := Threads.reach_ordered run
  exact .of_rank ordered.ranked fun t member => (ordered.sound t member).now

/-- The condition is about two steps only. -/
theorem Threads.Apart.elsewhere {p : Threads} {thread : Nat} {a : Answers}
    {t : Thread Mutex UsbDeviceManager Answers Section} (found : p.threads[thread]? = some t)
    (set : t.prog.point? ≠ some .hdiSetCurrentFunctions) (waits : ¬ t.Waits .deviceMutex) :
      p.Apart (.run thread a) := by
  intro u same
  obtain rfl := Option.some.inj (found.symm.trans same)
  exact ⟨fun now => absurd now set, fun now => absurd now waits⟩

/-- `SetCurrentFunctions` is to lock `deviceMutex_`, and `GetCurrentFunctions` waits for it. -/
theorem gadget_deadlock_free_waiting :
    ∃ p, Reach Threads.step Threads.Apart (.start true) p ∧ p.WaitsFor 1 0 ∧ p.DeadlockFree := by
  have asked : Reach Threads.step Threads.Apart (.start true) _ :=
    .step (a := .call (.setCurrentFunctions usbFunctionMtp)) .init trivial rfl
  have checked : Reach Threads.step Threads.Apart (.start true) _ :=
    .step (a := .run 0 {}) asked (.elsewhere rfl nofun nofun) rfl
  have entered : Reach Threads.step Threads.Apart (.start true) _ :=
    .step (a := .run 0 {}) checked (.elsewhere rfl nofun nofun) rfl
  have read : Reach Threads.step Threads.Apart (.start true) _ :=
    .step (a := .run 0 {}) entered (.elsewhere rfl nofun nofun) rfl
  have set : Reach Threads.step Threads.Apart (.start true) _ := .step (a := .run 0 {}) read (fun t found => by
    cases found
    refine ⟨fun _ _ u member connecting => ?_, nofun⟩
    cases List.mem_singleton.1 member
    exact absurd connecting.1 (by decide)) rfl
  have get : Reach Threads.step Threads.Apart (.start true) _ := .step (a := .call .getCurrentFunctions) set trivial rfl
  have waiting : Reach Threads.step Threads.Apart (.start true) _ :=
    .step (a := .run 1 {}) get (.elsewhere rfl nofun nofun) rfl
  exact ⟨_, waiting, ⟨_, _, .functionMutex, rfl, rfl, rfl, List.mem_singleton.2 rfl⟩, gadget_deadlock_free waiting⟩

/-- The connect task has `deviceMutex_` and waits for `functionMutex_`; `SetCurrentFunctions` has
`functionMutex_` and waits for `deviceMutex_`. Neither can go on, whatever the driver answers. -/
theorem connectTask_deadlocks_setCurrentFunctions :
    ∃ p, Reach Threads.step anyStep (.start true) p ∧ Relation.TransGen p.WaitsFor 1 1 ∧
      (∃ t ∈ p.threads, t.Engaged) ∧
      ∀ i t, p.threads[i]? = some t → t.Engaged → ∀ a, Pool.step p i a = none := by
  have run : Reach Threads.step anyStep (.start true) _ := reach_of_runFrom
    [.call (.handleEvent .actUpDevice), .run 0 {}, .run 0 {}, .run 0 {}, .fire 0,
      .call (.setCurrentFunctions usbFunctionMtp), .run 2 {}, .run 2 {}, .run 2 {}, .run 2 {},
      .run 1 {}, .run 1 {}, .run 1 {}]
    (fun _ _ _ => trivial) .init rfl
  refine ⟨_, run, ?_, ?_, ?_⟩
  · refine .trans (.single (b := 2) ?_) (.single ?_)
    · exact ⟨_, _, .functionMutex, rfl, rfl, rfl, List.mem_singleton.2 rfl⟩
    · exact ⟨_, _, .deviceMutex, rfl, rfl, rfl, List.mem_singleton.2 rfl⟩
  · exact ⟨_, List.mem_of_getElem? (i := 1) rfl, .inl fun empty => nomatch empty⟩
  · intro i t found engaged a
    match i with
    | 0 =>
      -- the event has been handled
      have ended : t.held = [] ∧ t.prog.wants = none := by
        rw [← Option.some.inj found]
        exact ⟨rfl, rfl⟩
      rcases engaged with holding | ⟨mutex, waits⟩
      · exact absurd ended.1 holding
      · exact absurd (ended.2.symm.trans waits) (Option.some_ne_none mutex).symm
    | 1 => rfl
    | 2 => rfl
    | i + 3 => exact absurd (show none = some t from found) (Option.some_ne_none t).symm

end UsbManager.Gadget
