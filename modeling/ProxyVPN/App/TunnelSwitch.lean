/-
Module: ProxyVPN.App.TunnelSwitch
Purpose: In which interleavings of a STOP and the START after it the service ends
  on the tunnel of the START.
Trusted boundary: none
Main exports: TunnelLifecycle.Halted, TunnelLifecycle.Stopping,
  TunnelLifecycle.Doomed, TunnelLifecycle.Switching,
  TunnelLifecycle.switch_ends_on_new_iff
-/
import ProxyVPN.App.TunnelCoroutines

namespace ProxyVPN

open Transition TunnelVpnService

namespace TunnelLifecycle

/-- The destroyed instances have nothing to close. -/
def AllSpent (self : TunnelLifecycle) (n : Nat) : Prop :=
  ∀ remains ∈ self.earlier, remains.Spent n

theorem AllSpent.stepEarlier {self next : TunnelLifecycle} {n k i : Nat}
    {outcome : Outcome} (spent : self.AllSpent n)
    (taken : self.stepEarlier k i outcome = some next) :
    next.AllSpent n ∧ ∃ native helpers,
      next = { self with
        service := { self.service with native := native, helpers := helpers }
        earlier := next.earlier } ∧
      (native = self.service.native ∨ native = none) ∧
      (self.Harmless (.stepEarlier k i outcome) →
        native = self.service.native) ∧
      ∀ helper ∈ self.service.helpers, n < helper.session →
        helper ∈ helpers := by
  obtain ⟨remains, after, found, stepped, rfl⟩ := stepEarlier_cases taken
  obtain ⟨left, native, helpers, same, calls, kept⟩ :=
    (spent remains (List.mem_of_getElem? found)).step stepped
  constructor
  · intro other member
    rcases List.mem_or_eq_of_mem_set member with old | rfl
    · exact spent other old
    · exact left
  · refine ⟨native, helpers, by rw [same], calls.imp_right And.left, ?_, kept⟩
    intro harmless
    rcases calls with unchanged | ⟨silent, coroutine⟩
    · exact unchanged
    · rw [silent]
      exact (harmless remains found _ coroutine rfl).symm

theorem AllSpent.drop {self next : TunnelLifecycle} {n k i : Nat}
    (spent : self.AllSpent n) (taken : self.drop k i = some next) :
    next.AllSpent n ∧ next = { self with earlier := next.earlier } := by
  obtain ⟨remains, found, rfl⟩ := drop_cases taken
  refine ⟨?_, rfl⟩
  intro other member
  rcases List.mem_or_eq_of_mem_set member with old | rfl
  · exact spent other old
  · left
    rcases spent remains (List.mem_of_getElem? found) with quiet | ⟨⟨pc, only⟩, _⟩
    · simp [quiet]
    · simp only [only]
      rcases i with _ | i
      · rfl
      · exfalso
        obtain ⟨other, known, rest⟩ := Option.bind_eq_some_iff.mp taken
        cases found.symm.trans known
        simp [only] at rest

/-! ## After the STOP -/

/-- Where the service is after `stopSelf()`, with the messages that have come
since. -/
inductive Place (rest : List MainMessage) (state : TunnelLifecycle) : Prop where
  | kept (inbox : state.inbox = rest) (record : state.record ≠ .condemned)
      (quiet : state.service.coroutines = [])
      (stopped : state.service.stopped = rest.isEmpty)
  | condemned (inbox : state.inbox = .destroy :: rest)
      (record : state.record = .condemned)
      (quiet : state.service.coroutines = [])
      (stopped : state.service.stopped = true)
  | destroying (inbox : state.inbox = .cancel :: rest)
      (record : state.record = .condemned)
      (stopping : state.service.coroutines = [] ∨
        ∃ pc, state.service.coroutines = [.stop pc])
      (stopped : state.service.stopped = true)

/-- Only these four are looked at. -/
theorem Place.of_same {rest : List MainMessage} {state next : TunnelLifecycle}
    (place : state.Place rest) (inbox : next.inbox = state.inbox)
    (record : next.record = state.record)
    (coroutines : next.service.coroutines = state.service.coroutines)
    (stopped : next.service.stopped = state.service.stopped) :
    next.Place rest := by
  cases place with
  | kept first kept quiet stop =>
      exact .kept (inbox.trans first) (record.trans_ne kept)
        (coroutines.trans quiet) (stopped.trans stop)
  | condemned first decided quiet stop =>
      exact .condemned (inbox.trans first) (record.trans decided)
        (coroutines.trans quiet) (stopped.trans stop)
  | destroying first decided stopping stop =>
      rw [← coroutines] at stopping
      exact .destroying (inbox.trans first) (record.trans decided) stopping
        (stopped.trans stop)

/-- A STOP is over. -/
structure Halted (n : Nat) (rest : List MainMessage) (state : TunnelLifecycle) :
    Prop where
  starts : state.service.starts = n
  cleared : state.service.Cleared n
  spent : state.AllSpent n
  place : state.Place rest

/-- What a halted service gets next, with no coroutine in flight. -/
structure Delivers (rest : List MainMessage) (state : TunnelLifecycle)
    (label : Label) : Prop where
  label : label = .main
  inbox : state.inbox = rest
  record : state.record ≠ .condemned
  quiet : state.service.coroutines = []
  stopped : state.service.stopped = rest.isEmpty

theorem Halted.stopped {n : Nat} {self : TunnelLifecycle}
    (halted : self.Halted n []) : self.service.stopped = true := by
  cases halted.place with
  | kept _ _ _ stopped | condemned _ _ _ stopped | destroying _ _ _ stopped =>
      exact stopped

theorem Halted.step {n : Nat} {rest : List MainMessage}
    {self next : TunnelLifecycle} {label : Label} (halted : self.Halted n rest)
    (unsent : self.Unsent label) (taken : self.exec label = some next) :
    (next.Halted n rest ∧ next.service.started = self.service.started) ∨
      self.Delivers rest label := by
  obtain ⟨starts, cleared, spent, place⟩ := halted
  obtain ⟨native, vpnInterface, socketPair, byedpi, xray⟩ := id cleared
  cases label with
  | send command => cases unsent
  | condemn =>
      left
      obtain ⟨⟨present, stopped⟩, ⟨⟩⟩ := Option.ite_none_right_eq_some.mp taken
      cases place with
      | kept inbox _ quiet running =>
          have none : rest = [] := by
            rw [stopped] at running
            exact List.isEmpty_iff.mp running.symm
          refine ⟨⟨starts, cleared, spent, .condemned ?_ rfl quiet stopped⟩, rfl⟩
          simp [inbox, none]
      | condemned _ record | destroying _ record =>
          rw [present] at record
          cases record
  | main =>
      simp only [exec, main] at taken
      cases place with
      | kept inbox record quiet stopped =>
          exact .inr ⟨rfl, inbox, record, quiet, stopped⟩
      | condemned inbox record quiet stopped =>
          left
          rw [inbox] at taken
          cases taken
          refine ⟨⟨starts, ?_, spent, ?_⟩, rfl⟩
          · exact ⟨native, vpnInterface, socketPair, byedpi, xray⟩
          · refine .destroying rfl record (.inr ⟨.stopNative, ?_⟩) stopped
            simp only [quiet, List.nil_append]
      | destroying inbox record stopping stopped =>
          left
          rw [inbox] at taken
          cases taken
          refine ⟨⟨starts, ⟨native, rfl, rfl, rfl, by rintro _ ⟨⟩⟩, ?_, ?_⟩, rfl⟩
          · intro other member
            rcases List.mem_append.mp member with old | new
            · exact spent other old
            · cases List.mem_singleton.mp new
              rcases stopping with quiet | going
              · exact .inl quiet
              · exact .inr ⟨going, vpnInterface, socketPair, byedpi, xray⟩
          · exact .kept rfl (by rintro ⟨⟩) rfl rfl
  | step i outcome =>
      left
      obtain ⟨service, stepped, rfl⟩ := exec_step_iff.mp taken
      have idle : self.service.coroutines ≠ [] :=
        fun quiet => not_step_of_quiet quiet stepped
      cases place with
      | kept _ _ quiet | condemned _ _ quiet => exact absurd quiet idle
      | destroying inbox record stopping stopped =>
          obtain ⟨pc, only⟩ := stopping.resolve_left idle
          cases step_only only stepped
          have same := exec_stop only stepped
          subst same
          have kept := (stepStop_frame self.service 0 pc).2.2.2
          obtain ⟨silent, helpers, halts, coroutines, same, calls, _, goes, ends⟩ :=
            stepStop_cleared vpnInterface socketPair byedpi xray only
          rw [same] at kept ⊢
          refine ⟨⟨starts, ⟨?_, vpnInterface, socketPair, byedpi, xray⟩, spent, ?_⟩,
            kept⟩
          · exact calls.elim (fun unchanged => unchanged.trans native) And.left
          · refine .destroying inbox record goes ?_
            exact ends.elim (fun unchanged => unchanged.trans stopped) id
  | stepEarlier k i outcome =>
      left
      obtain ⟨left, silent, helpers, same, calls, _, _⟩ := spent.stepEarlier taken
      rw [same]
      refine ⟨⟨starts, ⟨?_, vpnInterface, socketPair, byedpi, xray⟩, left, ?_⟩, rfl⟩
      · exact calls.elim (fun unchanged => unchanged.trans native) id
      · exact place.of_same rfl rfl rfl rfl
  | drop k i =>
      left
      obtain ⟨left, same⟩ := spent.drop taken
      rw [same]
      exact ⟨⟨starts, cleared, left, place.of_same rfl rfl rfl rfl⟩, rfl⟩

/-! ## Up to the end of the STOP -/

/-- No destroyed instance has a coroutine in flight. -/
def Idle (self : TunnelLifecycle) : Prop :=
  ∀ remains ∈ self.earlier, remains.coroutines = []

theorem Idle.not_stepEarlier {self next : TunnelLifecycle} {k i : Nat}
    {outcome : Outcome} (idle : self.Idle)
    (taken : self.stepEarlier k i outcome = some next) : False := by
  obtain ⟨remains, _, found, stepped, _⟩ := stepEarlier_cases taken
  have quiet : (self.service.swap remains).coroutines = [] :=
    idle remains (List.mem_of_getElem? found)
  simp only [stepCancelled, quiet, List.getElem?_nil] at stepped
  cases stepped

theorem Idle.not_drop {self next : TunnelLifecycle} {k i : Nat}
    (idle : self.Idle) (taken : self.drop k i = some next) : False := by
  obtain ⟨remains, found, rest⟩ := Option.bind_eq_some_iff.mp taken
  rw [idle remains (List.mem_of_getElem? found)] at rest
  cases rest

/-- A STOP was sent, and has not called `stopSelf()` yet. -/
inductive BeforeStop (n : Nat) (state : TunnelLifecycle) : Prop where
  | sent (inbox : state.inbox = [.command .stop])
      (record : state.record ≠ .condemned)
      (quiet : state.service.coroutines = [])
      (xray : ∀ session, state.service.xrayProcess = some session → session ≤ n)
  | going (pc : StopPc) (inbox : state.inbox = [])
      (record : state.record = .present)
      (only : state.service.coroutines = [.stop pc])
      (clears : state.service.Clears n pc)

/-- A STOP that was sent while nothing was in flight is on its way, or over. -/
inductive Stopping (n : Nat) (state : TunnelLifecycle) : Prop where
  | before (starts : state.service.starts = n)
      (running : state.service.stopped = false) (idle : state.Idle)
      (before : state.BeforeStop n)
  | halted (halted : state.Halted n [])

theorem Stopping.step {n : Nat} {self next : TunnelLifecycle} {label : Label}
    (stopping : self.Stopping n) (unsent : self.Unsent label)
    (taken : self.exec label = some next) : next.Stopping n := by
  cases stopping with
  | halted halted =>
      rcases halted.step unsent taken with ⟨halted, _⟩ | ⟨rfl, inbox, _⟩
      · exact .halted halted
      · simp only [exec, main, inbox] at taken
        cases taken
  | before starts running idle before =>
      cases label with
      | send command => cases unsent
      | condemn =>
          obtain ⟨⟨_, stopped⟩, _⟩ := Option.ite_none_right_eq_some.mp taken
          rw [running] at stopped
          cases stopped
      | main =>
          simp only [exec, main] at taken
          cases before with
          | going _ inbox =>
              rw [inbox] at taken
              cases taken
          | sent inbox record quiet xray =>
              rw [inbox] at taken
              cases taken
              refine .before starts running idle (.going .stopNative rfl ?_ ?_ ?_)
              · cases found : self.record with
                | condemned => exact absurd found record
                | absent | present => rfl
              · simp only [onStartCommand, quiet, List.nil_append]
              · constructor <;> grind -linarith [onStartCommand]
      | step i outcome =>
          obtain ⟨service, stepped, rfl⟩ := exec_step_iff.mp taken
          cases before with
          | sent _ _ quiet _ => exact absurd stepped (not_step_of_quiet quiet)
          | going pc inbox record only clears =>
              cases step_only only stepped
              have same := exec_stop only stepped
              subst same
              have kept := (stepStop_frame self.service 0 pc).1.trans starts
              rcases clears.step only with ⟨later, goesOn, same, clears⟩ |
                ⟨quiet, stopped, cleared⟩
              · exact .before kept (same.trans running) idle
                  (.going later inbox record goesOn clears)
              · refine .halted ⟨kept, cleared, ?_, ?_⟩
                · exact fun remains member => .inl (idle remains member)
                · exact .kept inbox (by rw [record]; rintro ⟨⟩) quiet stopped
      | stepEarlier k i outcome => exact (idle.not_stepEarlier taken).elim
      | drop k i => exact (idle.not_drop taken).elim

/-- While nothing else is sent, a STOP is on its way or over. -/
theorem Stopping.run {n : Nat} {first last : TunnelLifecycle}
    {labels : List Label} (stopping : first.Stopping n)
    (taken : (system.restrict Unsent).Run first labels last) :
    last.Stopping n :=
  taken.preserves (fun _ _ _ before step => before.step step.1 step.2) stopping

/-- A STOP that is sent while nothing is in flight is on its way. -/
theorem Quiet.stopping {self : TunnelLifecycle} (quiet : self.Quiet)
    (tidy : self.Tidy) : (self.send .stop).Stopping self.service.starts := by
  have kept : self.record ≠ .condemned := by
    intro decided
    rcases tidy.condemned decided with member | member <;>
    · rw [quiet.inbox] at member
      cases member
  refine .before rfl ?_ quiet.earlier (.sent ?_ kept quiet.coroutines tidy.xray)
  · simp [send, kept]
  · simp [send, quiet.inbox]

/-! ## A START that is sent too early -/

/-- Commands, and behind them at most the end of the instance. -/
def NothingBehind (self : TunnelLifecycle) : Prop :=
  (self.record ≠ .condemned ∧ ∃ commands : List Command,
      self.inbox = commands.map .command) ∨
    (self.record = .condemned ∧ ((∃ commands : List Command,
      self.inbox = commands.map .command ++ [.destroy]) ∨
        self.inbox = [.cancel]))

/-- `stopSelf()` has still to be called for good, or has been, with nothing sent
behind it. -/
inductive Doomed (state : TunnelLifecycle) : Prop where
  | waiting (settings : Settings)
      (inbox : state.inbox = [.command .stop, .command (.start settings)])
      (record : state.record ≠ .condemned)
      (quiet : state.service.coroutines = []) (idle : state.Idle)
      (running : state.service.stopped = false)
      (unstarted : state.service.started = none)
  | coming (commands : List Command) (inbox : state.inbox = commands.map .command)
      (record : state.record = .present) (pc : StopPc)
      (member : .stop pc ∈ state.service.coroutines)
      (running : state.service.stopped = false)
  | ended (stopped : state.service.stopped = true)
      (nothingBehind : state.NothingBehind)

/-- A stopped service stays stopped while nothing is sent. -/
theorem NothingBehind.step {self next : TunnelLifecycle} {label : Label}
    (nothingBehind : self.NothingBehind) (stopped : self.service.stopped = true)
    (unsent : self.Unsent label) (taken : self.exec label = some next) :
    next.NothingBehind ∧ next.service.stopped = true := by
  cases label with
  | send command => cases unsent
  | condemn =>
      obtain ⟨⟨present, _⟩, ⟨⟩⟩ := Option.ite_none_right_eq_some.mp taken
      rcases nothingBehind with ⟨_, commands, inbox⟩ | ⟨decided, _⟩
      · exact ⟨.inr ⟨rfl, .inl ⟨commands, congrArg (· ++ _) inbox⟩⟩, stopped⟩
      · rw [present] at decided
        cases decided
  | main =>
      simp only [exec, main] at taken
      rcases nothingBehind with ⟨kept, commands, inbox⟩ |
        ⟨decided, ⟨commands, inbox⟩ | inbox⟩
      · rw [inbox] at taken
        cases commands with
        | nil => cases taken
        | cons command commands =>
            cases taken
            refine ⟨.inl ⟨?_, commands, rfl⟩, ?_⟩
            · simp only
              split
              · rintro ⟨⟩
              · exact kept
            · cases command <;> exact stopped
      · rw [inbox] at taken
        cases commands with
        | nil =>
            cases taken
            exact ⟨.inr ⟨decided, .inr rfl⟩, stopped⟩
        | cons command commands =>
            cases taken
            refine ⟨.inr ⟨?_, .inl ⟨commands, rfl⟩⟩, ?_⟩
            · simp only [decided]
              rfl
            · cases command <;> exact stopped
      · rw [inbox] at taken
        cases taken
        exact ⟨.inl ⟨by rintro ⟨⟩, [], rfl⟩, rfl⟩
  | step i outcome =>
      obtain ⟨service, stepped, rfl⟩ := exec_step_iff.mp taken
      refine ⟨nothingBehind, ?_⟩
      rcases exec_step_cases stepped with ⟨call, _, rfl⟩ | ⟨pc, _, rfl⟩
      · exact (stepStart_stopped _ i call outcome).trans stopped
      · by_cases last : pc = .stopSelf
        · rw [last]
          rfl
        · exact (stepStop_stopped _ i last).trans stopped
  | stepEarlier k i outcome =>
      obtain ⟨remains, after, _, stepped, rfl⟩ := stepEarlier_cases taken
      exact ⟨nothingBehind, (stepCancelled_frame stepped).2.trans stopped⟩
  | drop k i =>
      obtain ⟨remains, _, rfl⟩ := drop_cases taken
      exact ⟨nothingBehind, stopped⟩

theorem Doomed.step {self next : TunnelLifecycle} {label : Label}
    (doomed : self.Doomed) (unsent : self.Unsent label)
    (taken : self.exec label = some next) : next.Doomed := by
  cases doomed with
  | ended stopped nothingBehind =>
      obtain ⟨nothingBehind, stopped⟩ := nothingBehind.step stopped unsent taken
      exact .ended stopped nothingBehind
  | waiting settings inbox record quiet idle running unstarted =>
      cases label with
      | send command => cases unsent
      | condemn =>
          obtain ⟨⟨_, stopped⟩, _⟩ := Option.ite_none_right_eq_some.mp taken
          rw [running] at stopped
          cases stopped
      | main =>
          simp only [exec, main, inbox] at taken
          cases taken
          refine .coming [.start settings] rfl ?_ .stopNative ?_ running
          · cases found : self.record with
            | condemned => exact absurd found record
            | absent | present => rfl
          · exact List.mem_append_right _ List.mem_cons_self
      | step i outcome =>
          obtain ⟨service, stepped, rfl⟩ := exec_step_iff.mp taken
          exact absurd stepped (not_step_of_quiet quiet)
      | stepEarlier k i outcome => exact (idle.not_stepEarlier taken).elim
      | drop k i => exact (idle.not_drop taken).elim
  | coming commands inbox record pc member running =>
      cases label with
      | send command => cases unsent
      | condemn =>
          obtain ⟨⟨_, stopped⟩, _⟩ := Option.ite_none_right_eq_some.mp taken
          rw [running] at stopped
          cases stopped
      | main =>
          simp only [exec, main, inbox] at taken
          cases commands with
          | nil => cases taken
          | cons command commands =>
              cases taken
              refine .coming commands rfl ?_ pc ?_ ?_
              · simp only [record]
                rfl
              · cases command <;> exact List.mem_append_left _ member
              · cases command <;> exact running
      | step i outcome =>
          obtain ⟨service, stepped, rfl⟩ := exec_step_iff.mp taken
          rcases step_stopComing member running stepped with
            ⟨later, member, running⟩ | stopped
          · exact .coming commands inbox record later member running
          · exact .ended stopped (.inl ⟨by rw [record]; rintro ⟨⟩, commands, inbox⟩)
      | stepEarlier k i outcome =>
          obtain ⟨remains, after, _, stepped, rfl⟩ := stepEarlier_cases taken
          exact .coming commands inbox record pc member
            ((stepCancelled_frame stepped).2.trans running)
      | drop k i =>
          obtain ⟨remains, _, rfl⟩ := drop_cases taken
          exact .coming commands inbox record pc member running

theorem Doomed.run {first last : TunnelLifecycle} {labels : List Label}
    (doomed : first.Doomed)
    (taken : (system.restrict Unsent).Run first labels last) : last.Doomed :=
  taken.preserves (fun _ _ _ before step => before.step step.1 step.2) doomed

/-- A START that is sent before the STOP has called `stopSelf()` is stopped with
it. -/
theorem BeforeStop.doomed {n : Nat} {self : TunnelLifecycle}
    {settings : Settings} (before : self.BeforeStop n)
    (running : self.service.stopped = false) (idle : self.Idle) :
    (self.send (.start settings)).Doomed := by
  have goesOn : (self.send (.start settings)).service.stopped = false := by
    simp [send, running]
  cases before with
  | sent inbox record quiet _ =>
      refine .waiting settings ?_ record quiet idle goesOn rfl
      simp [send, inbox]
  | going pc inbox record only _ =>
      refine .coming [.start settings] ?_ record pc ?_ goesOn
      · simp [send, inbox]
      · change Coroutine.stop pc ∈ self.service.coroutines
        rw [only]
        exact List.mem_cons_self

/-! ## A START that cannot end on its tunnel any more -/

/-- Every coroutine in flight, of whatever instance, is one of these, and no
command waits. -/
structure Left (state : TunnelLifecycle) (allowed : Coroutine → Prop) : Prop where
  inbox : ∀ command, .command command ∉ state.inbox
  present : ∀ coroutine ∈ state.service.coroutines, allowed coroutine
  earlier : ∀ remains ∈ state.earlier, ∀ coroutine ∈ remains.coroutines,
    allowed coroutine

/-- The START has failed. -/
structure Failed (state : TunnelLifecycle) : Prop where
  unstarted : state.service.started = none
  left : state.Left IsStop

/-- The native service was stopped under the START. -/
structure Silenced (state : TunnelLifecycle) : Prop where
  silent : state.service.native = none
  left : state.Left IsLate

theorem Left.mono {state : TunnelLifecycle} {allowed other : Coroutine → Prop}
    (left : state.Left allowed)
    (weaker : ∀ coroutine, allowed coroutine → other coroutine) :
    state.Left other where
  inbox := left.inbox
  present := fun coroutine member => weaker coroutine (left.present coroutine member)
  earlier := fun remains member coroutine inside =>
    weaker coroutine (left.earlier remains member coroutine inside)

/-- The system and the main thread start no coroutine but that of `onDestroy`. -/
theorem Left.main {self next : TunnelLifecycle} {allowed : Coroutine → Prop}
    (left : self.Left allowed) (stop : allowed (.stop .stopNative))
    (taken : self.main = some next) :
    next.Left allowed ∧ next.service.native = self.service.native ∧
      next.service.started = self.service.started := by
  obtain ⟨noCommand, present, earlier⟩ := left
  unfold TunnelLifecycle.main at taken
  split at taken
  case h_1 => cases taken
  case h_2 command rest inbox =>
    rw [inbox] at noCommand
    exact absurd List.mem_cons_self (noCommand command)
  case h_3 rest inbox =>
    cases taken
    rw [inbox] at noCommand
    refine ⟨⟨?_, ?_, earlier⟩, rfl, rfl⟩
    · intro command member
      exact noCommand command
        (List.mem_cons_of_mem _ ((List.mem_cons.mp member).resolve_left (by rintro ⟨⟩)))
    · intro coroutine member
      rcases List.mem_append.mp member with old | new
      · exact present coroutine old
      · rw [List.mem_singleton.mp new]
        exact stop
  case h_4 rest inbox =>
    cases taken
    rw [inbox] at noCommand
    refine ⟨⟨?_, by rintro _ ⟨⟩, ?_⟩, rfl, rfl⟩
    · exact fun command member => noCommand command (List.mem_cons_of_mem _ member)
    · intro remains member
      rcases List.mem_append.mp member with old | new
      · exact earlier remains old
      · cases List.mem_singleton.mp new
        exact present

theorem Left.drop {self next : TunnelLifecycle} {allowed : Coroutine → Prop}
    {k i : Nat} (left : self.Left allowed) (taken : self.drop k i = some next) :
    next.Left allowed ∧ next.service = self.service := by
  obtain ⟨noCommand, present, earlier⟩ := left
  obtain ⟨remains, found, rfl⟩ := drop_cases taken
  refine ⟨⟨noCommand, present, ?_⟩, rfl⟩
  intro other member coroutine inside
  rcases List.mem_or_eq_of_mem_set member with old | rfl
  · exact earlier other old coroutine inside
  · exact earlier remains (List.mem_of_getElem? found) coroutine
      (List.mem_of_mem_eraseIdx inside)

/-- Where only late coroutines are left, only late ones are from then on. -/
theorem Left.step {self next : TunnelLifecycle} {label : Label}
    (left : self.Left IsLate) (unsent : self.Unsent label)
    (taken : self.exec label = some next) :
    next.Left IsLate ∧
      (self.service.native = none → next.service.native = none) ∧
      (self.Left IsStop →
        next.Left IsStop ∧ next.service.started = self.service.started) := by
  cases label with
  | send command => cases unsent
  | condemn =>
      obtain ⟨_, ⟨⟩⟩ := Option.ite_none_right_eq_some.mp taken
      have noCommand {state : TunnelLifecycle} {allowed : Coroutine → Prop}
          (left : state.Left allowed) :
          ∀ command, .command command ∉ state.inbox ++ [.destroy] := by
        intro command member
        rcases List.mem_append.mp member with old | new
        · exact left.inbox command old
        · cases List.mem_singleton.mp new
      exact ⟨⟨noCommand left, left.present, left.earlier⟩, id, fun stops =>
        ⟨⟨noCommand stops, stops.present, stops.earlier⟩, rfl⟩⟩
  | main =>
      obtain ⟨late, native, started⟩ := left.main (.inl ⟨_, rfl⟩) taken
      exact ⟨late, native.trans, fun stops => ⟨(stops.main ⟨_, rfl⟩ taken).1, started⟩⟩
  | step i outcome =>
      obtain ⟨service, stepped, rfl⟩ := exec_step_iff.mp taken
      have stays := step_staysLate left.present stepped
      refine ⟨⟨left.inbox, ?_, left.earlier⟩, stays.native, ?_⟩
      · exact fun coroutine member =>
          (stays.late coroutine member).elim (left.present coroutine) id
      · intro stops
        obtain ⟨same, present⟩ := stays.stop stops.present
        exact ⟨⟨stops.inbox, present, stops.earlier⟩, same⟩
  | stepEarlier k i outcome =>
      obtain ⟨remains, after, found, stepped, rfl⟩ := stepEarlier_cases taken
      have member := List.mem_of_getElem? found
      have stays := stepCancelled_staysLate (left.earlier remains member) stepped
      refine ⟨⟨left.inbox, left.present, ?_⟩, stays.native, ?_⟩
      · intro other inEarlier coroutine inside
        rcases List.mem_or_eq_of_mem_set inEarlier with old | rfl
        · exact left.earlier other old coroutine inside
        · exact (stays.late coroutine inside).elim
            (left.earlier remains member coroutine) id
      · intro stops
        obtain ⟨same, present⟩ := stays.stop (stops.earlier remains member)
        refine ⟨⟨stops.inbox, stops.present, ?_⟩, same⟩
        intro other inEarlier
        rcases List.mem_or_eq_of_mem_set inEarlier with old | rfl
        · exact stops.earlier other old
        · exact present
  | drop k i =>
      obtain ⟨late, same⟩ := left.drop taken
      rw [same]
      exact ⟨late, id, fun stops => ⟨(stops.drop taken).1, rfl⟩⟩

theorem Failed.step {self next : TunnelLifecycle} {label : Label}
    (failed : self.Failed) (unsent : self.Unsent label)
    (taken : self.exec label = some next) : next.Failed := by
  obtain ⟨_, _, stops⟩ :=
    (failed.left.mono fun _ => IsStop.late).step unsent taken
  obtain ⟨left, same⟩ := stops failed.left
  exact ⟨same.trans failed.unstarted, left⟩

theorem Silenced.step {self next : TunnelLifecycle} {label : Label}
    (silenced : self.Silenced) (unsent : self.Unsent label)
    (taken : self.exec label = some next) : next.Silenced := by
  obtain ⟨left, native, _⟩ := silenced.left.step unsent taken
  exact ⟨native silenced.silent, left⟩

/-- Without the native service the START does not end on its tunnel. -/
theorem Silenced.not_endsOnNew {state : TunnelLifecycle}
    (silenced : state.Silenced) : ¬state.service.EndsOnNew := by
  intro ends
  have silent := silenced.silent
  rcases ends.native with native | ⟨native, _⟩
  · rw [silent] at native
    cases native
  · rw [silent] at native
    cases native

/-- A START that has failed has not got to its notification. -/
theorem Failed.not_started {state : TunnelLifecycle} {call : StartCall}
    (failed : state.Failed) : state.service.started ≠ some call := by
  rw [failed.unstarted]
  rintro ⟨⟩

/-! ## A START behind the end of the STOP -/

/-- A START that was sent behind the end of the STOP waits, or is on its own. -/
inductive Switching (n : Nat) (state : TunnelLifecycle) : Prop where
  | waiting (settings : Settings)
      (halted : state.Halted n [.command (.start settings)])
      (unstarted : state.service.started = none)
  | running (inbox : state.inbox = []) (record : state.record = .present)
      (starts : state.service.starts = n + 1) (spent : state.AllSpent n)
      (own : state.service.OnItsOwn)

theorem AllSpent.isStop {state : TunnelLifecycle} {n : Nat}
    (spent : state.AllSpent n) :
    ∀ remains ∈ state.earlier, ∀ coroutine ∈ remains.coroutines,
      IsStop coroutine := by
  intro remains member coroutine inside
  rcases spent remains member with quiet | ⟨⟨pc, only⟩, _⟩
  · rw [quiet] at inside
    cases inside
  · rw [only] at inside
    exact ⟨pc, List.mem_singleton.mp inside⟩

theorem failed_of_only {state : TunnelLifecycle} {n : Nat}
    (inbox : state.inbox = []) (spent : state.AllSpent n)
    (only : state.service.coroutines = [.stop .stopNative])
    (unended : state.service.started = none) : state.Failed := by
  refine ⟨unended, ?_, ?_, spent.isStop⟩
  · intro command member
    rw [inbox] at member
    cases member
  · intro coroutine member
    rw [only] at member
    exact ⟨_, List.mem_singleton.mp member⟩

/-- A harmless step of a destroyed instance leaves the START on its own. -/
theorem running_stepEarlier {n k i : Nat} {self next : TunnelLifecycle}
    {outcome : Outcome} (inbox : self.inbox = []) (record : self.record = .present)
    (starts : self.service.starts = n + 1) (spent : self.AllSpent n)
    (own : self.service.OnItsOwn)
    (harmless : self.Harmless (.stepEarlier k i outcome))
    (taken : self.stepEarlier k i outcome = some next) : next.Switching n := by
  obtain ⟨left, native, helpers, same, _, calls, kept⟩ := spent.stepEarlier taken
  have silent := calls harmless
  rw [same]
  refine .running inbox record starts left ?_
  rw [silent]
  apply own.of_helpers
  intro helper member young
  refine kept helper member ?_
  rw [young, starts]
  exact Nat.lt_succ_self n

/-- A destroyed instance that stops the native service of the START leaves it
without one for good. -/
theorem Switching.silenced {n : Nat} {self next : TunnelLifecycle} {label : Label}
    (switching : self.Switching n) (harmful : ¬self.Harmless label)
    (taken : self.exec label = some next) : next.Silenced := by
  cases label with
  | send _ | condemn | main | step _ _ | drop _ _ => exact absurd trivial harmful
  | stepEarlier k i outcome =>
      obtain ⟨remains, found, coroutine, inFlight, calls, native⟩ :
          ∃ remains ∈ self.earlier[k]?, ∃ coroutine ∈ remains.coroutines[i]?,
            coroutine.stopsNative = true ∧ self.service.native ≠ none := by
        by_contra all
        apply harmful
        intro remains found coroutine inFlight calls
        by_contra native
        exact all ⟨remains, found, coroutine, inFlight, calls, native⟩
      cases switching with
      | waiting _ halted _ => exact absurd halted.cleared.native native
      | running inbox record starts spent own =>
          obtain ⟨left, silent, helpers, same, _, _, _⟩ := spent.stepEarlier taken
          have stop := spent.isStop remains (List.mem_of_getElem? found) coroutine
            (List.mem_of_getElem? inFlight)
          have silenced : next.service.native = none := by
            obtain ⟨other, after, known, stepped, rfl⟩ := stepEarlier_cases taken
            cases Option.some.inj (found.symm.trans known)
            obtain ⟨pc, rfl⟩ := stop
            have called : pc = .stopNative := of_decide_eq_true calls
            have inFlight : (self.service.swap remains).coroutines[i]? =
                some (.stop .stopNative) := by
              rw [← called]
              exact inFlight
            simp only [stepCancelled, inFlight] at stepped
            cases stepped
            rfl
          rw [same] at silenced ⊢
          refine ⟨silenced, ?_, ?_, fun remains member coroutine inside =>
            (left.isStop remains member coroutine inside).late⟩
          · intro command member
            rw [inbox] at member
            cases member
          · intro other member
            cases own with
            | failed only _ =>
                rw [only] at member
                exact .inl ⟨_, List.mem_singleton.mp member⟩
            | ended _ quiet =>
                rw [quiet] at member
                cases member
            | going call only _ phase =>
                rw [only] at member
                refine .inr ⟨call, List.mem_singleton.mp member, ?_⟩
                by_contra early
                push Not at early
                exact native (phase.silent early.1 early.2)

/-- As long as destroyed instances are harmless, the START goes on, or fails by
itself. -/
theorem Switching.step {n : Nat} {self next : TunnelLifecycle} {label : Label}
    (switching : self.Switching n) (unsent : self.Unsent label)
    (harmless : self.Harmless label) (taken : self.exec label = some next) :
    next.Switching n ∨ next.Failed := by
  cases switching with
  | waiting settings halted unstarted =>
      rcases halted.step unsent taken with ⟨halted, same⟩ |
        ⟨rfl, inbox, record, quiet, running⟩
      · exact .inl (.waiting settings halted (same.trans unstarted))
      · left
        simp only [exec, main, inbox] at taken
        cases taken
        refine .running rfl ?_ (congrArg (· + 1) halted.starts) halted.spent ?_
        · cases found : self.record with
          | condemned => exact absurd found record
          | absent | present => rfl
        · exact onStartCommand_onItsOwn quiet running halted.cleared.native
  | running inbox record starts spent own =>
      by_cases failed : self.service.coroutines = [.stop .stopNative] ∧
        self.service.started = none
      · exact .inr ((failed_of_only inbox spent failed.1 failed.2).step unsent taken)
      · left
        cases label with
        | send command => cases unsent
        | condemn =>
            obtain ⟨⟨_, stopped⟩, _⟩ := Option.ite_none_right_eq_some.mp taken
            rw [own.running failed] at stopped
            cases stopped
        | main =>
            simp only [exec, main, inbox] at taken
            cases taken
        | step i outcome =>
            obtain ⟨service, stepped, rfl⟩ := exec_step_iff.mp taken
            cases own with
            | failed only unended => exact absurd ⟨only, unended⟩ failed
            | ended _ quiet => exact absurd stepped (not_step_of_quiet quiet)
            | going call only unended phase =>
                cases step_only only stepped
                have same := exec_start only stepped
                subst same
                exact .running inbox record
                  ((stepStart_frame _ 0 call outcome).1.trans starts) spent
                  (phase.step only unended)
        | stepEarlier k i outcome =>
            exact running_stepEarlier inbox record starts spent own harmless taken
        | drop k i =>
            obtain ⟨left, same⟩ := spent.drop taken
            rw [same]
            exact .running inbox record starts left own

/-! ## A STOP and the START after it -/

/-- A START that is sent behind the end of the STOP waits for the main thread. -/
theorem Halted.switching {n : Nat} {self : TunnelLifecycle} {settings : Settings}
    (halted : self.Halted n []) : (self.send (.start settings)).Switching n := by
  obtain ⟨starts, cleared, spent, place⟩ := halted
  refine .waiting settings ⟨starts, { cleared with }, spent, ?_⟩ rfl
  cases place with
  | kept inbox record quiet stopped =>
      refine .kept ?_ record quiet ?_
      · simp [send, inbox]
      · simp [send, record]
  | condemned inbox record quiet stopped =>
      refine .condemned ?_ record quiet ?_
      · simp [send, inbox]
      · simp [send, record, stopped]
  | destroying inbox record stopping stopped =>
      refine .destroying ?_ record stopping ?_
      · simp [send, inbox]
      · simp [send, record, stopped]

theorem Switching.run {n : Nat} {first last : TunnelLifecycle}
    {labels : List Label} (switching : first.Switching n)
    (taken : (system.restrict fun state label =>
      state.Unsent label ∧ state.Harmless label).Run first labels last) :
    last.Switching n ∨ last.Failed := by
  apply taken.preserves
  · rintro state label next before ⟨⟨unsent, harmless⟩, stepped⟩
    rcases before with switching | failed
    · exact switching.step unsent harmless stepped
    · exact .inr (failed.step unsent stepped)
  · exact .inl switching

/-- Either destroyed instances are harmless throughout, or the START has failed in
the end, or has been silenced. -/
theorem Switching.run_or_silenced {n : Nat} {first last : TunnelLifecycle}
    {labels : List Label} (switching : first.Switching n)
    (taken : (system.restrict Unsent).Run first labels last) :
    (system.restrict fun state label =>
        state.Unsent label ∧ state.Harmless label).Run first labels last ∨
      last.Failed ∨ last.Silenced := by
  induction taken with
  | nil => exact .inl (.nil first)
  | @snoc middle last labels label _ lastTaken inductionHypothesis =>
      obtain ⟨unsent, stepped⟩ := lastTaken
      rcases inductionHypothesis with restricted | failed | silenced
      · rcases switching.run restricted with before | failed
        · by_cases harmless : middle.Harmless label
          · exact .inl (restricted.snoc ⟨⟨unsent, harmless⟩, stepped⟩)
          · exact .inr (.inr (before.silenced harmless stepped))
        · exact .inr (.inl (failed.step unsent stepped))
      · exact .inr (.inl (failed.step unsent stepped))
      · exact .inr (.inr (silenced.step unsent stepped))

/-- What is still on its own when the START has got to its notification runs on
the tunnel of the START. -/
theorem Switching.endsOnNew {n : Nat} {state : TunnelLifecycle} {call : StartCall}
    (switching : state.Switching n) (done : state.service.coroutines = [])
    (success : state.service.started = some call)
    (launched : call.launched = true) : state.service.EndsOnNew := by
  cases switching with
  | waiting _ _ unstarted =>
      rw [success] at unstarted
      cases unstarted
  | running _ _ _ _ own =>
      cases own with
      | going _ only _ _ | failed only _ =>
          rw [done] at only
          cases only
      | ended same _ successful _ ends =>
          rw [success] at successful
          cases successful
          exact ends launched

/-- A START that is doomed does not end on its tunnel. -/
theorem Doomed.not_endsOnNew {state : TunnelLifecycle} {call : StartCall}
    (doomed : state.Doomed) (done : state.service.coroutines = [])
    (success : state.service.started = some call) :
    ¬state.service.EndsOnNew := by
  intro ends
  cases doomed with
  | waiting _ _ _ _ _ _ unstarted =>
      rw [success] at unstarted
      cases unstarted
  | coming _ _ _ _ member _ =>
      rw [done] at member
      cases member
  | ended stopped _ =>
      rw [ends.running] at stopped
      cases stopped

/-- A STOP and the START that is sent after it, whatever the order of the steps
of their coroutines, of the main thread and of the system: once both are done,
and the START has succeeded, the service runs on the tunnel of the START exactly
when the START was sent after the STOP had called `stopSelf()`, and no instance
that was destroyed stops the native service of the START. -/
theorem switch_ends_on_new_iff {running sent last : TunnelLifecycle}
    {settings : Settings} {before after : List Label} {call : StartCall}
    (reached : system.Reachable running) (quiet : running.Quiet)
    (stopRuns : (system.restrict Unsent).Run (running.send .stop) before sent)
    (bothRun : (system.restrict Unsent).Run (sent.send (.start settings)) after last)
    (done : last.service.coroutines = [])
    (success : last.service.started = some call)
    (launched : call.launched = true) :
    last.service.EndsOnNew ↔
      sent.service.stopped = true ∧
        (system.restrict fun state label =>
          state.Unsent label ∧ state.Harmless label).Run
          (sent.send (.start settings)) after last := by
  have stopping := (quiet.stopping (tidy_of_reachable reached)).run stopRuns
  constructor
  · intro ends
    cases stopping with
    | before _ running idle before =>
        have doomed : (sent.send (.start settings)).Doomed :=
          before.doomed running idle
        exact absurd ends ((doomed.run bothRun).not_endsOnNew done success)
    | halted halted =>
        refine ⟨halted.stopped, ?_⟩
        rcases halted.switching.run_or_silenced bothRun with
          restricted | failed | silenced
        · exact restricted
        · exact absurd success failed.not_started
        · exact absurd ends silenced.not_endsOnNew
  · rintro ⟨stopped, restricted⟩
    cases stopping with
    | before _ running _ _ =>
        rw [running] at stopped
        cases stopped
    | halted halted =>
        rcases halted.switching.run restricted with switching | failed
        · exact switching.endsOnNew done success launched
        · exact absurd success failed.not_started

/-! ### A switch of a plain proxy -/

/-- A running tunnel of a plain proxy. -/
def plainTunnel : List Label :=
  [.send (.start plainSettings), .main] ++ List.replicate 7 (.step 0 .ok)

/-- The STOP ends, the system destroys the service, and the coroutine of
`onDestroy` is cancelled before it begins. -/
def stopAndDestroy : List Label :=
  .main :: (List.replicate 9 (.step 0 .ok) ++ [.condemn, .main, .main, .drop 0 0])

/-- One step after the other, each allowed while no command is sent. -/
def goOn (state : TunnelLifecycle) (labels : List Label) :
    Option TunnelLifecycle :=
  labels.foldlM (fun (state : TunnelLifecycle) label =>
    if state.Unsent label ∧ state.Harmless label then state.exec label else none)
    state

theorem run_of_goOn {first last : TunnelLifecycle} {labels : List Label}
    (taken : goOn first labels = some last) :
    (system.restrict fun state label =>
      state.Unsent label ∧ state.Harmless label).Run first labels last :=
  System.run_restrict_of_foldlM taken

/-- Where the START is sent after the end of the instance, it ends on its
tunnel. -/
theorem switch_ends_on_new_after_destroy :
    ∃ running sent last : TunnelLifecycle,
      system.Run initial plainTunnel running ∧
      goOn (running.send .stop) stopAndDestroy = some sent ∧
      goOn (sent.send (.start plainSettings))
        (.main :: List.replicate 7 (.step 0 .ok)) = some last ∧
      last.service.EndsOnNew := by
  have replayed : ((plainTunnel.foldlM exec initial).bind fun running =>
      (goOn (running.send .stop) stopAndDestroy).bind fun sent =>
        (goOn (sent.send (.start plainSettings))
          (.main :: List.replicate 7 (.step 0 .ok))).map fun last =>
            ((running.inbox, running.service.coroutines, running.earlier),
              sent.service.stopped, last.service.coroutines,
              last.service.started.map StartCall.launched)) =
        some (([], [], []), true, [], some true) := by
    decide +kernel
  obtain ⟨running, started, rest⟩ := Option.bind_eq_some_iff.mp replayed
  obtain ⟨sent, stopRuns, rest⟩ := Option.bind_eq_some_iff.mp rest
  obtain ⟨last, bothRun, seen⟩ := Option.map_eq_some_iff.mp rest
  obtain ⟨⟨inbox, coroutines, earlier⟩, stopped, done, call, success, launched⟩ := by
    simpa using seen
  have reached : system.Run initial plainTunnel running :=
    System.run_of_foldlM started
  have stopRun := run_of_goOn stopRuns
  have startRun := run_of_goOn bothRun
  have quiet : running.Quiet := ⟨inbox, coroutines, by rw [earlier]; rintro _ ⟨⟩⟩
  have correct := switch_ends_on_new_iff ⟨initial, _, rfl, reached⟩ quiet
    (stopRun.mono fun _ _ _ step => ⟨step.1.1, step.2⟩)
    (startRun.mono fun _ _ _ step => ⟨step.1.1, step.2⟩) done success launched
  exact ⟨running, sent, last, reached, stopRuns, bothRun,
    correct.mpr ⟨stopped, startRun⟩⟩

/-- Where the START is sent before the STOP has run, it is stopped with it. -/
theorem switch_stopped :
    ¬∀ (running sent last : TunnelLifecycle) (settings : Settings)
      (before after : List Label) (call : StartCall),
      system.Reachable running → running.Quiet →
      (system.restrict Unsent).Run (running.send .stop) before sent →
      (system.restrict Unsent).Run (sent.send (.start settings)) after last →
      last.service.coroutines = [] → last.service.started = some call →
      call.launched = true → last.service.EndsOnNew := by
  intro always
  have replayed : ((plainTunnel.foldlM exec initial).bind fun running =>
      (goOn ((running.send .stop).send (.start plainSettings))
        (.main :: .main :: List.replicate 16 (.step 0 .ok))).map fun last =>
          ((running.inbox, running.service.coroutines, running.earlier),
            last.service.coroutines, last.service.started.map StartCall.launched,
            last.service.stopped)) =
        some (([], [], []), [], some true, true) := by
    decide +kernel
  obtain ⟨running, started, rest⟩ := Option.bind_eq_some_iff.mp replayed
  obtain ⟨last, bothRun, seen⟩ := Option.map_eq_some_iff.mp rest
  obtain ⟨⟨inbox, coroutines, earlier⟩, done, ⟨call, success, launched⟩, stopped⟩ := by
    simpa using seen
  have reached : system.Run initial plainTunnel running :=
    System.run_of_foldlM started
  have startRun := run_of_goOn bothRun
  have ends := always running _ last plainSettings [] _ call
    ⟨initial, _, rfl, reached⟩
    ⟨inbox, coroutines, by rw [earlier]; rintro _ ⟨⟩⟩ (.nil _)
    (startRun.mono fun _ _ _ step => ⟨step.1.1, step.2⟩) done success launched
  rw [ends.running] at stopped
  cases stopped

end TunnelLifecycle

end ProxyVPN
