/-
Module: ProxyVPN.Hev.JniService
Purpose: The sessions that hev-jni.c starts and stops: the worker thread on its
  way through hev-main.c, and the calls of native_start_service and
  native_stop_service, which the mutex puts one after another.
Trusted boundary: human-reviewed model
Main exports: JniService, JniService.exec, JniService.system
-/
import ProxyVPN.Hev.TunnelSync

namespace ProxyVPN

open Transition

/-!
The tunnel inside is the one of the stop protocol, with its atomic steps.  The
mutex admits one native call at a time, so the call inside is one field.  The
fields `stopCalls` and `requested` are not in the source.  They number the calls
of `hev_socks5_tunnel_stop`, and record whether one was made since the worker
thread was created.
-/

namespace JniService

/-- Where the worker thread is.  Each stage before `tunnel` may fail and go to
`returned`, where `hev_socks5_tunnel_main` is on its way out. -/
inductive Worker where
  | absent
  | configInit
  | loggerInit
  | socks5LoggerInit
  | taskSystemInit
  | tunnelInit
  | tunnel
  | returned
  | ended
deriving Repr, DecidableEq

/-- The native call that holds the mutex. -/
inductive Call where
  | none
  | startLocked
  | startJoin
  | startCreate
  | stopLocked
  | quit
  | join
deriving Repr, DecidableEq

end JniService

/-- The static variables of hev-jni.c, the tunnel, the worker thread and the
native call. -/
structure JniService where
  tunnel : TunnelSync
  isRunning : Bool
  threadJoinable : Bool
  worker : JniService.Worker
  call : JniService.Call
  stopCalls : Nat
  requested : Bool

namespace JniService

/-- The library after `JNI_OnLoad`. -/
def initial : JniService :=
  { tunnel := .initial
    isRunning := false
    threadJoinable := false
    worker := .absent
    call := .none
    stopCalls := 0
    requested := false }

/-- The steps of the worker thread and of the native calls.  A Boolean tells
whether the stage succeeds. -/
inductive Label where
  | startLock
  | startCheck
  | startJoin
  | startCreate (created : Bool)
  | stopLock
  | stopCheck
  | quit (label : TunnelSync.Label)
  | quitReturns
  | stopJoin
  | configInit (ok : Bool)
  | loggerInit (ok : Bool)
  | socks5LoggerInit (ok : Bool)
  | taskSystemInit (ok : Bool)
  | tunnelInit
  | tunnel (label : TunnelSync.Label)
  | tunnelReturns
  | runningClear
deriving Repr, DecidableEq

/-- The steps of the tunnel thread after it called `hev_socks5_tunnel_init`. -/
def ofThread : TunnelSync.Label → Bool
  | .eventTaskInit | .initFails | .initSend | .runCheck | .eventTaskRead
  | .eventTaskClear | .runReturns | .finiClear | .finiClose => true
  | .initCall | .stopCall _ | .stopWait _ | .stopSent _ | .stopWrite _
  | .stopStop _ | .stopLeave _ => false

/-- The steps inside one call of `hev_socks5_tunnel_stop`. -/
def ofStop (i : Nat) : TunnelSync.Label → Bool
  | .stopWait j | .stopSent j | .stopWrite j | .stopStop j | .stopLeave j =>
      i == j
  | .initCall | .eventTaskInit | .initFails | .initSend | .runCheck
  | .eventTaskRead | .eventTaskClear | .runReturns | .finiClear | .finiClose
  | .stopCall _ => false

/-! ## native_start_service -/

def startLock (self : JniService) : Option JniService :=
  if self.call = .none then some { self with call := .startLocked } else none

/-- `is_running` is loaded. -/
def startCheck (self : JniService) : Option JniService :=
  if self.call = .startLocked then
    some { self with call := if self.isRunning then .none else .startJoin }
  else
    none

/-- `pthread_join` waits for a thread that is still joinable. -/
def startJoin (self : JniService) : Option JniService :=
  if self.call = .startJoin then
    if self.threadJoinable then
      if self.worker = .ended then
        some
          { self with
            worker := .absent, threadJoinable := false, call := .startCreate }
      else
        none
    else
      some { self with call := .startCreate }
  else
    none

/-- The thread is created, or the memory or the thread is refused. -/
def startCreate (self : JniService) (created : Bool) : Option JniService :=
  if self.call = .startCreate then
    if created then
      some
        { self with
          isRunning := true, worker := .configInit, threadJoinable := true
          requested := false, call := .none }
    else
      some { self with call := .none }
  else
    none

/-! ## native_stop_service -/

def stopLock (self : JniService) : Option JniService :=
  if self.call = .none then some { self with call := .stopLocked } else none

/-- `thread_joinable` and `is_running` are read, and `hev_socks5_tunnel_quit`
is called where the thread still runs. -/
def stopCheck (self : JniService) : Option JniService :=
  if self.call = .stopLocked then
    if self.threadJoinable then
      if self.isRunning then
        (self.tunnel.stopCall (self.stopCalls + 1)).map fun tunnel =>
          { self with
            tunnel := tunnel, stopCalls := self.stopCalls + 1
            requested := true, call := .quit }
      else
        some { self with call := .join }
    else
      some { self with call := .none }
  else
    none

/-- One step of `hev_socks5_tunnel_stop`. -/
def quit (self : JniService) (label : TunnelSync.Label) : Option JniService :=
  if self.call = .quit ∧ ofStop self.stopCalls label then
    (self.tunnel.exec label).map fun tunnel => { self with tunnel := tunnel }
  else
    none

def quitReturns (self : JniService) : Option JniService :=
  if self.call = .quit ∧
      (self.tunnel.stops self.stopCalls).pc = .returned then
    some { self with call := .join }
  else
    none

/-- `pthread_join` returns once the thread has ended. -/
def stopJoin (self : JniService) : Option JniService :=
  if self.call = .join ∧ self.worker = .ended then
    some
      { self with
        worker := .absent, threadJoinable := false, isRunning := false
        call := .none }
  else
    none

/-! ## thread_handler -/

/-- A stage of `hev_socks5_tunnel_main` before the tunnel. -/
def stage (self : JniService) (here next : Worker) (ok : Bool) :
    Option JniService :=
  if self.worker = here then
    some { self with worker := if ok then next else .returned }
  else
    none

def configInit (self : JniService) : Bool → Option JniService :=
  self.stage .configInit .loggerInit

def loggerInit (self : JniService) : Bool → Option JniService :=
  self.stage .loggerInit .socks5LoggerInit

def socks5LoggerInit (self : JniService) : Bool → Option JniService :=
  self.stage .socks5LoggerInit .taskSystemInit

def taskSystemInit (self : JniService) : Bool → Option JniService :=
  self.stage .taskSystemInit .tunnelInit

/-- `hev_socks5_tunnel_init` is called. -/
def tunnelInit (self : JniService) : Option JniService :=
  if self.worker = .tunnelInit then
    self.tunnel.initCall.map fun tunnel =>
      { self with tunnel := tunnel, worker := .tunnel }
  else
    none

/-- One step of init, run or fini. -/
def tunnelStep (self : JniService) (label : TunnelSync.Label) :
    Option JniService :=
  if self.worker = .tunnel ∧ ofThread label then
    (self.tunnel.exec label).map fun tunnel => { self with tunnel := tunnel }
  else
    none

/-- `hev_socks5_tunnel_fini` has returned, also after a failed init. -/
def tunnelReturns (self : JniService) : Option JniService :=
  if self.worker = .tunnel ∧ self.tunnel.pc = .idle then
    some { self with worker := .returned }
  else
    none

/-- The thread stores 0 in `is_running` and ends. -/
def runningClear (self : JniService) : Option JniService :=
  if self.worker = .returned then
    some { self with isRunning := false, worker := .ended }
  else
    none

def exec (self : JniService) : Label → Option JniService
  | .startLock => self.startLock
  | .startCheck => self.startCheck
  | .startJoin => self.startJoin
  | .startCreate created => self.startCreate created
  | .stopLock => self.stopLock
  | .stopCheck => self.stopCheck
  | .quit label => self.quit label
  | .quitReturns => self.quitReturns
  | .stopJoin => self.stopJoin
  | .configInit ok => self.configInit ok
  | .loggerInit ok => self.loggerInit ok
  | .socks5LoggerInit ok => self.socks5LoggerInit ok
  | .taskSystemInit ok => self.taskSystemInit ok
  | .tunnelInit => self.tunnelInit
  | .tunnel label => self.tunnelStep label
  | .tunnelReturns => self.tunnelReturns
  | .runningClear => self.runningClear

/-- All interleavings of the worker thread and the native calls. -/
def system : System JniService Label :=
  .ofExec (· = initial) exec

/-! ## What the sessions should keep -/

/-- `SYNC_STOP` is clear when a worker thread is about to be created, and run
finds it set only after a stop call of its own session. -/
structure NoStaleStop (state : JniService) : Prop where
  create : state.call = .startCreate → state.tunnel.tsync.stop = false
  check : state.tunnel.pc = .run → state.tunnel.tsync.stop = true →
    state.requested = true

/-- The check of `SYNC_STOP` in `hev_socks5_tunnel_run` is still to come. -/
def checkAhead (self : JniService) : Bool :=
  match self.worker with
  | .configInit | .loggerInit | .socks5LoggerInit | .taskSystemInit
  | .tunnelInit => true
  | .tunnel => self.tunnel.pc == .init || self.tunnel.pc == .run
  | .absent | .returned | .ended => false

/-- A stop call sets `SYNC_STOP` only while the check of its session is still to
come, or in the task system, and no stage fails with `SYNC_STOP` set. -/
def StopInTime (state : JniService) : Label → Prop
  | .quit (.stopStop _) =>
      state.checkAhead = true ∨ state.tunnel.pc.inTaskSystem = true
  | .configInit false | .loggerInit false | .socks5LoggerInit false
  | .taskSystemInit false | .tunnel .initFails =>
      state.tunnel.tsync.stop = false
  | _ => True

instance (state : JniService) (label : Label) :
    Decidable (state.StopInTime label) := by
  unfold StopInTime
  split <;> infer_instance

end JniService

end ProxyVPN
