/-
Module: ProxyVPN.Hev.TunnelStops
Purpose: When a stop request reaches the tunnel thread: the lock that
  `SYNC_WAIT` makes of the stop calls, what the other flags say about the
  thread, and the runs in which every stop call is answered.
Trusted boundary: none
Main exports: TunnelSync.LockedBy, TunnelSync.Agrees, TunnelSync.Answered,
  TunnelSync.stop_never_lost
-/
import ProxyVPN.Hev.TunnelSync

namespace ProxyVPN

open Transition

namespace TunnelSync

/-! ## The lock of the stop calls -/

/-- Between `SYNC_WAIT` set and cleared. -/
def StopPc.inside : StopPc → Bool
  | .entered _ | .write | .leave => true
  | .absent | .retry | .returned => false

/-- On the way to write for the event task. -/
def StopPc.sending : StopPc → Bool
  | .entered true | .write => true
  | .absent | .retry | .entered false | .leave | .returned => false

/-- Between `SYNC_SEND` set and the end of run. -/
def Pc.accepting : Pc → Bool
  | .run | .eventWait | .eventRead | .eventDone => true
  | .idle | .init | .fini | .close => false

/-- Between `SYNC_SEND` set and the end of the retry loop of fini. -/
def Pc.open : Pc → Bool
  | .run | .eventWait | .eventRead | .eventDone | .fini => true
  | .idle | .init | .close => false

/-- `SYNC_WAIT` is a lock: it is set while one stop call is inside, and the
holder is the only one that is. -/
structure LockedBy (state : TunnelSync) (holder : Option Nat) : Prop where
  wait : state.tsync.wait = holder.isSome
  inside : ∀ i, (state.stops i).pc.inside = true ↔ holder = some i

theorem LockedBy.alone {state : TunnelSync} {holder : Option Nat}
    (locked : state.LockedBy holder) {i j : Nat}
    (left : (state.stops i).pc.inside = true)
    (right : (state.stops j).pc.inside = true) : i = j := by
  have leftHolds := (locked.inside i).mp left
  rw [(locked.inside j).mp right] at leftHolds
  exact (Option.some.inj leftHolds).symm

/-- One stop call moves on, and the lock follows it. -/
theorem LockedBy.move {state next : TunnelSync} {holder later : Option Nat}
    {i : Nat} (locked : state.LockedBy holder)
    (others : ∀ j, j ≠ i → next.stops j = state.stops j)
    (own : (next.stops i).pc.inside = true ↔ later = some i)
    (rest : ∀ j, j ≠ i → (later = some j ↔ holder = some j))
    (wait : next.tsync.wait = later.isSome) : next.LockedBy later := by
  constructor
  · exact wait
  · intro j
    by_cases same : j = i
    · subst same
      exact own
    · rw [others j same, rest j same]
      exact locked.inside j

/-- A stop call that stays inside keeps the lock. -/
theorem LockedBy.within {state next : TunnelSync} {holder : Option Nat}
    {i : Nat} (locked : state.LockedBy holder)
    (others : ∀ j, j ≠ i → next.stops j = state.stops j)
    (before : (state.stops i).pc.inside = true)
    (after : (next.stops i).pc.inside = true)
    (wait : next.tsync.wait = state.tsync.wait) : next.LockedBy holder := by
  apply locked.move others
  · rw [after, ← locked.inside i, before]
  · intro j _
    exact Iff.rfl
  · rw [wait]
    exact locked.wait

theorem setStop_others (state : TunnelSync) (i : Nat) (pc : StopPc) :
    ∀ j, j ≠ i → (state.setStop i pc).stops j = state.stops j :=
  fun _ different => Function.update_of_ne different _ _

theorem setStop_keeps_write {state : TunnelSync} {i : Nat} {pc : StopPc}
    (notWrite : (state.stops i).pc ≠ .write) :
    ∀ j, (state.stops j).pc = .write →
      ((state.setStop i pc).stops j).pc = .write := by
  intro j write
  have different : j ≠ i := fun same => notWrite (same ▸ write)
  rw [setStop_others state i pc j different]
  exact write

theorem LockedBy.step {state next : TunnelSync} {label : Label}
    {holder : Option Nat} (locked : state.LockedBy holder)
    (taken : exec state label = some next) : ∃ later, next.LockedBy later := by
  cases label with
  | initCall | eventTaskInit | initFails | initSend | runCheck | eventTaskRead
  | eventTaskClear | runReturns | finiClear | finiClose =>
      obtain ⟨_, ⟨⟩⟩ := Option.ite_none_right_eq_some.mp taken
      exact ⟨holder, locked.wait, locked.inside⟩
  | stopCall i =>
      obtain ⟨absent, ⟨⟩⟩ := Option.ite_none_right_eq_some.mp taken
      have outside := locked.inside i
      rw [absent] at outside
      refine ⟨holder, locked.move (i := i) ?_ ?_ ?_ locked.wait⟩
      · intro j different
        exact Function.update_of_ne different _ _
      · rw [← outside]
        simp [StopPc.inside]
      · intro j _
        exact Iff.rfl
  | stopWait i =>
      obtain ⟨_, entered⟩ := Option.ite_none_right_eq_some.mp taken
      cases free : state.tsync.wait with
      | true =>
          rw [free] at entered
          cases entered
          exact ⟨holder, locked⟩
      | false =>
          rw [free] at entered
          cases entered
          have nobody : holder = none := by
            rw [locked.wait] at free
            exact Option.not_isSome_iff_eq_none.mp (by simp [free])
          refine ⟨some i, locked.move (setStop_others state i _) ?_ ?_ rfl⟩
          · simp [setStop, StopPc.inside]
          · intro j different
            simp [nobody, different.symm]
  | stopSent i =>
      obtain ⟨entered, ⟨⟩⟩ := Option.ite_none_right_eq_some.mp taken
      refine ⟨holder, locked.within (setStop_others state i _) ?_ ?_ rfl⟩
      · rw [entered]
        rfl
      · cases sentEq : state.tsync.sent <;> simp [setStop, StopPc.inside]
  | stopWrite i =>
      obtain ⟨⟨write, _⟩, ⟨⟩⟩ := Option.ite_none_right_eq_some.mp taken
      refine ⟨holder, locked.within (setStop_others state i _) ?_ ?_ rfl⟩
      · rw [write]
        rfl
      · simp [setStop, StopPc.inside]
  | stopStop i =>
      obtain ⟨entered, ⟨⟩⟩ := Option.ite_none_right_eq_some.mp taken
      refine ⟨holder, locked.within (setStop_others state i _) ?_ ?_ rfl⟩
      · rw [entered]
        rfl
      · simp [setStop, StopPc.inside]
  | stopLeave i =>
      obtain ⟨leave, ⟨⟩⟩ := Option.ite_none_right_eq_some.mp taken
      have holds : holder = some i := by
        apply (locked.inside i).mp
        rw [leave]
        rfl
      refine ⟨none, locked.move (setStop_others state i _) ?_ ?_ rfl⟩
      · simp [setStop, StopPc.inside]
      · intro j different
        simp [holds, different.symm]

/-! ## The flags and the thread -/

/-- What the flags and the stop calls inside say about the tunnel thread. -/
structure Agrees (state : TunnelSync) : Prop where
  accepting : state.pc.accepting = true → state.tsync.send = true
  send : state.tsync.send = true →
    state.eventFds = true ∧ state.pc.open = true
  sent : state.tsync.sent = true → state.pc.open = true
  sending : ∀ i, (state.stops i).pc.sending = true →
    state.eventFds = true ∧ state.pc.open = true
  unwritten : state.pc = .init → state.written = 0
  began : ∀ i session, (state.stops i).began = some session →
    session ≤ state.session
  quiet : ∀ i, state.pc = .run → (state.stops i).pc = .entered false →
    state.written = 0

/-- `SYNC_SENT` stands for a byte that was written or is about to be. -/
def SentWritten (state : TunnelSync) : Prop :=
  state.tsync.sent = true →
    0 < state.written ∨ ∃ i, (state.stops i).pc = .write

theorem StopPc.inside_of_sending {pc : StopPc} (sending : pc.sending = true) :
    pc.inside = true := by
  cases pc with
  | entered send => rfl
  | write => rfl
  | absent | retry | leave | returned => cases sending

theorem Agrees.step {state next : TunnelSync} {label : Label} {holder : Option Nat}
    (locked : state.LockedBy holder) (agrees : state.Agrees)
    (taken : exec state label = some next) : next.Agrees := by
  obtain ⟨accepting, send, sent, sending, unwritten, began, quiet⟩ := agrees
  have alone := @LockedBy.alone _ _ locked
  have within := @StopPc.inside_of_sending
  obtain ⟨wait, inside⟩ := locked
  cases label with
  | initCall | eventTaskInit | initFails | initSend | runCheck | eventTaskRead
  | eventTaskClear | runReturns | finiClear | finiClose =>
      obtain ⟨guard, ⟨⟩⟩ := Option.ite_none_right_eq_some.mp taken
      constructor <;> grind -linarith [Pc.accepting, Pc.open]
  | stopCall i =>
      obtain ⟨guard, ⟨⟩⟩ := Option.ite_none_right_eq_some.mp taken
      constructor <;> grind -linarith [StopPc.sending]
  | stopWait i =>
      obtain ⟨guard, entered⟩ := Option.ite_none_right_eq_some.mp taken
      split at entered
      · cases entered
        constructor <;> assumption
      · cases entered
        constructor <;> simp only [setStop] <;>
          grind -linarith [StopPc.sending, Pc.accepting, Pc.open]
  | stopSent i | stopWrite i | stopStop i | stopLeave i =>
      obtain ⟨guard, ⟨⟩⟩ := Option.ite_none_right_eq_some.mp taken
      constructor <;> simp only [setStop] <;>
        grind -linarith [StopPc.inside, StopPc.sending, Pc.open]

theorem SentWritten.step {state next : TunnelSync} {label : Label}
    (agrees : state.Agrees) (sentWritten : state.SentWritten)
    (taken : exec state label = some next) : next.SentWritten := by
  intro sent
  have keeps : state.tsync.sent = true → state.written ≤ next.written →
      (∀ i, (state.stops i).pc = .write → (next.stops i).pc = .write) →
      0 < next.written ∨ ∃ i, (next.stops i).pc = .write := by
    intro before more writers
    rcases sentWritten before with positive | ⟨i, write⟩
    · exact .inl (Nat.lt_of_lt_of_le positive more)
    · exact .inr ⟨i, writers i write⟩
  cases label with
  | initCall =>
      obtain ⟨idle, ⟨⟩⟩ := Option.ite_none_right_eq_some.mp taken
      have isOpen := agrees.sent sent
      rw [idle] at isOpen
      cases isOpen
  | eventTaskInit | initFails | initSend | runCheck | eventTaskRead
  | runReturns | finiClose =>
      obtain ⟨_, ⟨⟩⟩ := Option.ite_none_right_eq_some.mp taken
      exact sentWritten sent
  | eventTaskClear =>
      obtain ⟨_, ⟨⟩⟩ := Option.ite_none_right_eq_some.mp taken
      cases sent
  | finiClear =>
      obtain ⟨_, ⟨⟩⟩ := Option.ite_none_right_eq_some.mp taken
      cases sent
  | stopCall i =>
      obtain ⟨absent, ⟨⟩⟩ := Option.ite_none_right_eq_some.mp taken
      apply keeps sent (Nat.le_refl _)
      intro j write
      have different : j ≠ i := by
        rintro rfl
        rw [absent] at write
        cases write
      simp [Function.update_of_ne different, write]
  | stopWait i =>
      obtain ⟨retry, entered⟩ := Option.ite_none_right_eq_some.mp taken
      split at entered
      · cases entered
        exact sentWritten sent
      · cases entered
        apply keeps sent (Nat.le_refl _)
        apply setStop_keeps_write
        rw [retry]
        decide
  | stopSent i =>
      obtain ⟨entered, ⟨⟩⟩ := Option.ite_none_right_eq_some.mp taken
      by_cases before : state.tsync.sent = true
      · apply keeps before (Nat.le_refl _)
        apply setStop_keeps_write
        rw [entered]
        decide
      · right
        exact ⟨i, by simp [setStop, before]⟩
  | stopWrite i =>
      obtain ⟨_, ⟨⟩⟩ := Option.ite_none_right_eq_some.mp taken
      exact .inl (Nat.succ_pos _)
  | stopStop i =>
      obtain ⟨entered, ⟨⟩⟩ := Option.ite_none_right_eq_some.mp taken
      apply keeps sent (Nat.le_refl _)
      apply setStop_keeps_write
      rw [entered]
      decide
  | stopLeave i =>
      obtain ⟨leave, ⟨⟩⟩ := Option.ite_none_right_eq_some.mp taken
      apply keeps sent (Nat.le_refl _)
      apply setStop_keeps_write
      rw [leave]
      decide

/-! ## Stop calls that are answered -/

/-- Past the flag or the byte that the call leaves behind. -/
def StopPc.answered : StopPc → Bool
  | .leave | .returned => true
  | .absent | .retry | .entered _ | .write => false

/-- Before its check the thread has the flag or a byte of every stop call of
the session that got so far; past the check it has a byte. -/
structure Answered (state : TunnelSync) : Prop where
  before : ∀ i, (state.stops i).began = some state.session →
    (state.stops i).pc.answered = true → state.pc = .init ∨ state.pc = .run →
    state.tsync.stop = true ∨ 0 < state.written
  after : ∀ i, (state.stops i).began = some state.session →
    (state.stops i).pc.answered = true → state.pc.inTaskSystem = true →
    0 < state.written
  settled : ∀ i, (state.stops i).began = some state.session →
    state.pc.inTaskSystem = true → (state.stops i).pc ≠ .entered false

theorem Answered.step {state next : TunnelSync} {label : Label}
    {holder : Option Nat} (locked : state.LockedBy holder)
    (agrees : state.Agrees) (sentWritten : state.SentWritten)
    (answered : state.Answered) (allowed : StopSettled state label)
    (taken : exec state label = some next) : next.Answered := by
  obtain ⟨before, after, settled⟩ := answered
  cases label with
  | initCall =>
      obtain ⟨_, ⟨⟩⟩ := Option.ite_none_right_eq_some.mp taken
      have old := agrees.began
      constructor <;> grind -linarith
  | runCheck =>
      obtain ⟨run, ⟨⟩⟩ := Option.ite_none_right_eq_some.mp taken
      have passes := allowed rfl
      constructor <;> grind -linarith [Pc.inTaskSystem]
  | eventTaskInit | initFails | initSend | eventTaskRead | eventTaskClear
  | runReturns | finiClear | finiClose =>
      obtain ⟨guard, ⟨⟩⟩ := Option.ite_none_right_eq_some.mp taken
      constructor <;> grind -linarith [Pc.inTaskSystem]
  | stopCall i =>
      obtain ⟨guard, ⟨⟩⟩ := Option.ite_none_right_eq_some.mp taken
      constructor <;> grind -linarith [StopPc.answered]
  | stopWait i =>
      obtain ⟨guard, entered⟩ := Option.ite_none_right_eq_some.mp taken
      split at entered
      · cases entered
        exact ⟨before, after, settled⟩
      · cases entered
        have sends : state.pc.inTaskSystem = true →
            state.tsync.send = true := by
          intro runs
          apply agrees.accepting
          cases pcEq : state.pc <;> rw [pcEq] at runs <;> first
            | rfl
            | cases runs
        constructor <;> simp only [setStop] <;>
          grind -linarith [StopPc.answered]
  | stopSent i =>
      obtain ⟨entered, ⟨⟩⟩ := Option.ite_none_right_eq_some.mp taken
      -- no other call is inside, so the byte of an earlier one was written
      have written : state.tsync.sent = true → 0 < state.written := by
        intro sent
        rcases sentWritten sent with positive | ⟨j, write⟩
        · exact positive
        · have same : i = j := by
            apply locked.alone
            · rw [entered]
              rfl
            · rw [write]
              rfl
          rw [← same, entered] at write
          cases write
      constructor <;> simp only [setStop] <;> grind -linarith [StopPc.answered]
  | stopWrite i | stopStop i | stopLeave i =>
      obtain ⟨guard, ⟨⟩⟩ := Option.ite_none_right_eq_some.mp taken
      constructor <;> simp only [setStop] <;> grind -linarith [StopPc.answered]

/-! ## Whole runs -/

/-- The flags, the thread and the stop calls fit together. -/
def Coherent (state : TunnelSync) : Prop :=
  (∃ holder, state.LockedBy holder) ∧ state.Agrees ∧ state.SentWritten

theorem coherent_invariant : Invariant system Coherent where
  initial := by
    rintro state rfl
    refine ⟨⟨none, rfl, ?_⟩, ?_, ?_⟩
    · intro i
      simp [initial, StopPc.inside]
    · constructor <;> simp [initial, Pc.accepting, StopPc.sending]
    · intro sent
      cases sent
  preserved := by
    rintro state label next ⟨⟨holder, locked⟩, agrees, sentWritten⟩ taken
    exact ⟨locked.step taken, agrees.step locked taken,
      sentWritten.step agrees taken⟩

theorem answered_invariant :
    Invariant (system.restrict StopSettled)
      (fun state => state.Coherent ∧ state.Answered) where
  initial := by
    rintro state rfl
    refine ⟨coherent_invariant.initial _ rfl, ?_⟩
    constructor <;> simp [initial]
  preserved := by
    rintro state label next ⟨coherent, answered⟩ ⟨allowed, taken⟩
    obtain ⟨⟨holder, locked⟩, agrees, sentWritten⟩ := id coherent
    exact ⟨coherent_invariant.preserved _ _ _ coherent taken,
      answered.step locked agrees sentWritten allowed taken⟩

/-- Where the check passes while a stop call of the session has yet to set
`SYNC_STOP`, that call finishes and is lost. -/
theorem lost_of_unsettled {state next : TunnelSync} (coherent : state.Coherent)
    (unsettled : ¬state.StopSettled .runCheck)
    (taken : exec state .runCheck = some next) :
    ∃ labels last, system.Run next labels last ∧ last.StopLost := by
  obtain ⟨run, ⟨⟩⟩ := Option.ite_none_right_eq_some.mp taken
  unfold StopSettled at unsettled
  simp only [forall_const, Classical.not_imp, not_forall, not_not]
    at unsettled
  obtain ⟨passes, i, began, entered⟩ := unsettled
  have unwritten := coherent.2.1.quiet i run entered
  let passed : TunnelSync :=
    { state with
      pc := if state.tsync.stop then .fini else .eventWait
      tsync := { state.tsync with stop := false } }
  let left : TunnelSync :=
    { passed.setStop i .leave with
      tsync := { passed.tsync with stop := true } }
  let last : TunnelSync :=
    { left.setStop i .returned with
      tsync := { left.tsync with wait := false } }
  have stopStop : exec passed (.stopStop i) = some left :=
    if_pos entered
  have stopLeave : exec left (.stopLeave i) = some last := by
    apply if_pos
    simp [left, setStop]
  refine ⟨[.stopStop i, .stopLeave i], last, ?_, ?_⟩
  · exact .cons stopStop (.cons stopLeave (.nil last))
  · refine ⟨?_, unwritten, i, ?_, ?_⟩
    · simp [last, left, passed, setStop, passes, Pc.inTaskSystem]
    · simp [last, setStop]
    · simp [last, left, passed, setStop, began]

/-- No stop call is lost in a run whose checks of `SYNC_STOP` never pass while a
stop call of the session has yet to set it; and where one does pass, the rest
of that call loses the stop. -/
theorem stop_never_lost (state : TunnelSync) :
    ((system.restrict StopSettled).Reachable state → ¬state.StopLost) ∧
    ∀ next, system.Reachable state →
      ¬state.StopSettled .runCheck → exec state .runCheck = some next →
      ∃ labels last, system.Run next labels last ∧ last.StopLost := by
  constructor
  · rintro reached ⟨runs, unwritten, i, returned, began⟩
    have answered := (answered_invariant.reachable reached).2
    have written := answered.after i began (by rw [returned]; rfl) runs
    rw [unwritten] at written
    cases written
  · intro next reached unsettled taken
    exact lost_of_unsettled (coherent_invariant.reachable reached) unsettled
      taken

/-- A stop call while the task system runs leaves a byte. -/
theorem stop_never_lost_in_task_system :
    ∃ state, (system.restrict StopSettled).Reachable state ∧
      (state.stops 0).pc = .returned ∧ state.pc = .eventWait ∧
      ¬state.StopLost := by
  have reached : ∃ state, (system.restrict StopSettled).Reachable state ∧
      (state.stops 0).pc = .returned ∧ state.pc = .eventWait :=
    ⟨_, ⟨initial,
      [.initCall, .eventTaskInit, .initSend, .runCheck, .stopCall 0,
        .stopWait 0, .stopSent 0, .stopWrite 0, .stopLeave 0], rfl,
      .cons ⟨nofun, rfl⟩ <| .cons ⟨nofun, rfl⟩ <| .cons ⟨nofun, rfl⟩ <|
      .cons ⟨fun _ _ _ => nofun, rfl⟩ <| .cons ⟨nofun, rfl⟩ <|
      .cons ⟨nofun, rfl⟩ <| .cons ⟨nofun, rfl⟩ <| .cons ⟨nofun, rfl⟩ <|
      .cons ⟨nofun, rfl⟩ <| .nil _⟩, rfl, rfl⟩
  obtain ⟨state, reachable, returned, runs⟩ := reached
  exact ⟨state, reachable, returned, runs, (stop_never_lost state).1 reachable⟩

/-- A stop call that sees no `SYNC_SEND` during init, and sets `SYNC_STOP` only
after the check, is lost. -/
theorem stop_during_init_lost :
    ¬∀ state, system.Reachable state → ¬state.StopLost := by
  intro never
  let labels : List Label :=
    [.initCall, .eventTaskInit, .stopCall 0, .stopWait 0, .initSend, .runCheck,
      .stopStop 0, .stopLeave 0]
  have replayed : (labels.foldlM exec initial).map
      (fun state => (state.pc, state.written, state.stops 0, state.session)) =
        some (.eventWait, 0, { pc := .returned, began := some 1 }, 1) := by
    decide
  obtain ⟨last, taken, seen⟩ := System.replay _ replayed
  obtain ⟨runs, unwritten, stopped, session⟩ := by simpa using seen
  apply never last ⟨initial, labels, rfl, taken⟩
  refine ⟨?_, unwritten, 0, ?_, ?_⟩
  · rw [runs]
    rfl
  · rw [stopped]
  · rw [stopped, session]

end TunnelSync

end ProxyVPN
