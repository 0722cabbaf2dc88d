/-
Module: ProxyVPN.Hev.TunnelSessionSet
Purpose: The bookkeeping of the session set of hev-socks5-tunnel.c over all
  interleavings: its nodes, its count, its tail, and what the shutdown leaves.
Trusted boundary: none
Main exports: TunnelSessions.Books, TunnelSessions.books_invariant,
  TunnelSessions.Stopped, TunnelSessions.session_books_exact
-/
import ProxyVPN.Hev.TunnelSessions

namespace ProxyVPN

open Transition

namespace TunnelSession

/-- A timeout of 0 stays. -/
theorem setTimeout_zero {self : TunnelSession} (zero : self.timeout = 0)
    (timeout : Int) : self.setTimeout timeout = self := by
  unfold setTimeout
  rw [if_neg (not_not_intro zero)]

theorem setTimeout_terminated (self : TunnelSession) (timeout : Int) :
    (self.setTimeout timeout).terminated = self.terminated := by
  unfold setTimeout
  split <;> rfl

theorem terminate_timeout (self : TunnelSession) :
    self.terminate.timeout = 0 := by
  unfold terminate setTimeout
  split
  · rfl
  · next zero => exact not_not.mp zero

/-- A change that leaves timeout 0 alone, and terminated sessions terminated. -/
structure Keeps (change : TunnelSession → TunnelSession) : Prop where
  timeout : ∀ session, session.timeout = 0 → (change session).timeout = 0
  terminated : ∀ session, session.terminated = true →
    (change session).terminated = true

/-- Setting the timeout, in any phase. -/
theorem Keeps.setTimeout (timeout : Int) (phase : TunnelSession → Phase) :
    Keeps fun session =>
      { session.setTimeout timeout with phase := phase session } where
  timeout := by
    intro session zero
    simpa only [session.setTimeout_zero zero] using zero
  terminated := by
    intro session terminated
    rw [← session.setTimeout_terminated timeout] at terminated
    exact terminated

theorem Keeps.terminate : Keeps TunnelSession.terminate where
  timeout session _ := session.terminate_timeout
  terminated _ _ := rfl

end TunnelSession

namespace TunnelSessions

/-- The nodes of the set in their order are the running sessions, each once;
they are counted; the session put at the tail last is there; and once `run` is
cleared all have timeout 0. -/
structure Books (state : TunnelSessions) (order : List Nat) : Prop where
  holds : state.sessionSet.Holds state.nodes order
  running : ∀ node, node ∈ order ↔ (state.sessions node).isSome
  count : state.sessionCount = order.length
  latest : ∀ node, state.latest = some node → node ∈ order →
    order.getLast? = some node
  stopped : state.run = false → ∀ node session,
    state.sessions node = some session → session.timeout = 0

/-! ## One operation -/

/-- A change of a session that leaves timeout 0 alone changes no book. -/
theorem Books.modify {state : TunnelSessions} {order : List Nat}
    (books : state.Books order) (node : Nat)
    {change : TunnelSession → TunnelSession}
    (keeps : TunnelSession.Keeps change) :
    (state.modify node change).Books order where
  holds := books.holds
  running := by
    intro other
    rw [books.running other]
    by_cases same : other = node
    · subst same
      simp [TunnelSessions.modify]
    · simp [TunnelSessions.modify, same]
  count := books.count
  latest := books.latest
  stopped := by
    intro stopped other session found
    by_cases same : other = node
    · subst same
      simp only [TunnelSessions.modify, Function.update_self,
        Option.map_eq_some_iff] at found
      obtain ⟨before, foundBefore, rfl⟩ := found
      exact keeps.timeout before
        (books.stopped stopped other before foundBefore)
    · simp only [TunnelSessions.modify, Function.update_of_ne same] at found
      exact books.stopped stopped other session found

/-- A new session at the tail of the set. -/
theorem Books.append {state : TunnelSessions} {order : List Nat} {node : Nat}
    {session : TunnelSession} (books : state.Books order)
    (fresh : state.sessions node = none) (running : state.run = true) :
    ((state.withSession node session).append node).Books (order ++ [node]) where
  holds := by
    refine books.holds.addTail ?_
    rw [books.running, fresh]
    exact Bool.false_ne_true
  running := by
    intro other
    rw [List.mem_append, List.mem_singleton, books.running other]
    by_cases same : other = node
    · subst same
      simp [TunnelSessions.append, addTail, withSession]
    · simp [TunnelSessions.append, addTail, withSession, same]
  count := by
    rw [List.length_append]
    change state.sessionCount + 1 = _
    rw [books.count]
    rfl
  latest := by
    intro last isLast _
    cases isLast
    exact List.getLast?_concat
  stopped := by
    intro stopped
    have runs : true = false := running.symm.trans stopped
    cases runs

/-- The insertion terminates the first session of the set where the limit is
reached. -/
theorem insertSession_eq (config : TunnelConfig) {state : TunnelSessions}
    {order : List Nat} {node : Nat}
    (books : (state.append node).Books (order ++ [node])) :
    state.insertSession config node =
      if config.maxSessionCount = 0 ∨
          state.sessionCount + 1 < config.maxSessionCount then
        state.append node
      else
        (state.append node).modify (order.head?.getD node) .terminate := by
  have head : (state.append node).sessionSet.head =
      some (order.head?.getD node) := by
    rw [books.holds.head]
    cases order <;> rfl
  unfold insertSession
  simp only [head]
  rfl

theorem Books.insertSession {config : TunnelConfig} {state : TunnelSessions}
    {order : List Nat} {node : Nat}
    (books : (state.append node).Books (order ++ [node])) :
    (state.insertSession config node).Books (order ++ [node]) := by
  rw [insertSession_eq config books]
  split
  · exact books
  · exact books.modify _ .terminate

/-- A session is taken out of the set, and its memory is freed. -/
theorem Books.taskExit {state : TunnelSessions} {front back : List Nat}
    {node : Nat} (books : state.Books (front ++ node :: back)) :
    Books
      { state.deleteSession node with
        sessions := Function.update state.sessions node none }
      (front ++ back) where
  holds := books.holds.del
  running := by
    intro other
    have distinct := books.holds.threads.distinct
    have before := books.running other
    rw [List.mem_append, List.mem_cons] at before
    rw [List.mem_append]
    by_cases same : other = node
    · subst same
      have gone : other ∉ front ++ back :=
        (List.nodup_middle.mp distinct).notMem
      rw [List.mem_append] at gone
      simp [gone]
    · simp only [Function.update_of_ne same]
      rw [← before]
      simp [same]
  count := by
    have count := books.count
    rw [List.length_append, List.length_cons] at count
    rw [List.length_append]
    change state.sessionCount - 1 = _
    omega
  latest := by
    intro last isLast member
    have atTail := books.latest last isLast (by
      rw [List.mem_append] at member
      rw [List.mem_append, List.mem_cons]
      exact member.imp id .inr)
    cases back with
    | nil =>
        rw [List.getLast?_concat, Option.some.injEq] at atTail
        subst atTail
        exact absurd member
          (List.nodup_middle.mp books.holds.threads.distinct).notMem
    | cons first rest =>
        rw [List.getLast?_append_cons, List.getLast?_cons_cons] at atTail
        rw [List.getLast?_append_cons]
        exact atTail
  stopped := by
    intro stopped other session found
    by_cases same : other = node
    · subst same
      simp at found
    · simp only [Function.update_of_ne same] at found
      exact books.stopped stopped other session found

/-- A session is moved to the tail. -/
theorem Books.move {state : TunnelSessions} {front back : List Nat}
    {node : Nat} (books : state.Books (front ++ node :: back)) :
    ((state.del node).addTail node).Books (front ++ back ++ [node]) where
  holds :=
    books.holds.del.addTail
      (List.nodup_middle.mp books.holds.threads.distinct).notMem
  running := by
    intro other
    change _ ↔ (state.sessions other).isSome
    rw [← books.running other]
    simp only [List.mem_append, List.mem_cons]
    tauto
  count := by
    change state.sessionCount = _
    rw [books.count]
    simp only [List.length_append, List.length_cons, List.length_nil]
    omega
  latest := by
    intro last isLast _
    cases isLast
    exact List.getLast?_concat
  stopped := books.stopped

/-- A running session stands somewhere in the set. -/
theorem Books.split {state : TunnelSessions} {order : List Nat}
    (books : state.Books order) {node : Nat}
    (running : (state.sessions node).isSome) :
    ∃ front back, order = front ++ node :: back :=
  List.append_of_mem ((books.running node).mpr running)

/-- Changing the sessions of some nodes one after another. -/
theorem foldl_modify {change : TunnelSession → TunnelSession}
    {order : List Nat} :
    ∀ {state : TunnelSessions}, order.Nodup →
      order.foldl (fun state node => state.modify node change) state =
        { state with
          sessions := fun node =>
            if node ∈ order then (state.sessions node).map change
            else state.sessions node } := by
  induction order with
  | nil =>
      intro state _
      simp
  | cons node rest inductionHypothesis =>
      intro state distinct
      obtain ⟨fresh, restDistinct⟩ := List.nodup_cons.mp distinct
      rw [List.foldl_cons, inductionHypothesis restDistinct]
      simp only [modify, TunnelSessions.mk.injEq, true_and, and_true]
      funext other
      by_cases same : other = node
      · subst same
        simp [fresh]
      · simp [same]

/-- What the sweep leaves: its loop ends, with every session terminated. -/
theorem Books.eventTask_eq {state : TunnelSessions} {order : List Nat}
    (books : state.Books order) (running : state.run = true) :
    state.eventTask = some
      { state with
        run := false
        sessions := fun node =>
          (state.sessions node).map TunnelSession.terminate } := by
  have rounds : state.sessionCount.toNat = order.length := by
    rw [books.count]
    rfl
  unfold TunnelSessions.eventTask
  rw [if_pos running, rounds, books.holds.walk (Nat.le_refl _), Option.map_some,
    foldl_modify books.holds.threads.distinct]
  simp only [Option.some.injEq, TunnelSessions.mk.injEq, true_and, and_true]
  funext node
  by_cases member : node ∈ order
  · rw [if_pos member]
  · rw [if_neg member]
    rw [books.running, Bool.not_eq_true, Option.isSome_eq_false_iff,
      Option.isNone_iff_eq_none] at member
    rw [member]
    rfl

theorem Books.eventTask {state : TunnelSessions} {order : List Nat}
    (books : state.Books order) :
    Books
      { state with
        run := false
        sessions := fun node =>
          (state.sessions node).map TunnelSession.terminate } order where
  holds := books.holds
  running := by
    intro node
    rw [books.running, Option.isSome_map]
  count := books.count
  latest := books.latest
  stopped := by
    intro _ node session found
    obtain ⟨before, _, rfl⟩ := Option.map_eq_some_iff.mp found
    exact before.terminate_timeout

/-! ## All steps -/

/-- A handler gets what it needs to insert a session. -/
def Label.inserts : Label → Bool
  | .tcpAccept false ⟨some _, true⟩ | .udpRecv false ⟨some _, true⟩ => true
  | _ => false

/-- What a step does to the set.  The flag tells whether it inserts a session. -/
inductive Effect (config : TunnelConfig) (state : TunnelSessions) :
    Bool → TunnelSessions → Prop where
  | nothing : Effect config state false state
  | inserts (node : Nat) (kind : TunnelSession.Kind) (runs : state.run = true)
      (free : state.sessions node = none) :
      Effect config state true
        ((state.withSession node (.construct kind)).insertSession config node)
  | changes (node : Nat) (change : TunnelSession → TunnelSession)
      (keeps : TunnelSession.Keeps change) :
      Effect config state false (state.modify node change)
  | updates (node : Nat) (running : (state.sessions node).isSome) :
      Effect config state false (state.updateSession config node)
  | exits (node : Nat) (running : (state.sessions node).isSome) :
      Effect config state false
        { state.deleteSession node with
          sessions := Function.update state.sessions node none }
  | sweeps (next : TunnelSessions) (runs : state.run = true)
      (taken : state.eventTask = some next) : Effect config state false next

theorem create_effect {config : TunnelConfig} {state next : TunnelSessions}
    {kind : TunnelSession.Kind} {node : Option Nat} {task : Bool}
    (runs : state.run = true)
    (taken : state.create config kind ⟨node, task⟩ = some next) :
    Effect config state (node.isSome && task) next := by
  unfold create at taken
  cases node with
  | none =>
      cases taken
      exact .nothing
  | some node =>
      simp only at taken
      split at taken
      case isTrue => cases taken
      case isFalse free =>
        rw [Bool.not_eq_true, Option.isSome_eq_false_iff,
          Option.isNone_iff_eq_none] at free
        cases task with
        | true =>
            cases taken
            exact .inserts node kind runs free
        | false =>
            cases taken
            exact .nothing

theorem advance_effect {config : TunnelConfig} {state next : TunnelSessions}
    {node : Nat} {here : TunnelSession.Phase}
    {change : TunnelSession → TunnelSession}
    (keeps : TunnelSession.Keeps change)
    (taken : state.advance node here change = some next) :
    Effect config state false next := by
  unfold advance at taken
  split at taken
  case h_1 =>
    obtain ⟨_, ⟨⟩⟩ := Option.ite_none_right_eq_some.mp taken
    exact .changes node change keeps
  case h_2 => cases taken

/-- A handler inserts while the tunnel runs, and no task does. -/
theorem exec_effect {config : TunnelConfig} {state next : TunnelSessions}
    {label : Label} (taken : state.exec config label = some next) :
    Effect config state (state.run && label.inserts) next := by
  have quiet : ∀ {inserting : Bool}, inserting = false →
      Effect config state false next →
      Effect config state (state.run && inserting) next := by
    rintro _ rfl effect
    rw [Bool.and_false]
    exact effect
  cases label with
  | tcpAccept err allocation =>
      obtain ⟨node, task⟩ := allocation
      simp only [exec, tcpAcceptHandler] at taken
      split at taken
      case isTrue refused =>
        cases taken
        rcases refused with rfl | stopped
        · exact quiet rfl .nothing
        · rw [stopped]
          exact .nothing
      case isFalse accepted =>
        rw [not_or, Bool.not_eq_true, Bool.not_eq_false] at accepted
        obtain ⟨rfl, runs⟩ := accepted
        have effect := create_effect runs taken
        rw [runs]
        cases node <;> cases task <;> exact effect
  | udpRecv dns allocation =>
      obtain ⟨node, task⟩ := allocation
      simp only [exec, udpRecvHandler] at taken
      split at taken
      case isTrue refused =>
        cases taken
        rcases refused with stopped | rfl
        · rw [stopped]
          exact .nothing
        · exact quiet rfl .nothing
      case isFalse accepted =>
        rw [not_or, Bool.not_eq_true, Bool.not_eq_false] at accepted
        obtain ⟨runs, rfl⟩ := accepted
        have effect := create_effect runs taken
        rw [runs]
        cases node <;> cases task <;> exact effect
  | connect node => exact quiet rfl (advance_effect (.setTimeout _ _) taken)
  | handshake node => exact quiet rfl (advance_effect (.setTimeout _ _) taken)
  | splice node ok =>
      refine quiet rfl (advance_effect ⟨?_, ?_⟩ taken)
      · intro session zero
        cases kind : session.kind with
        | tcp => simpa only [kind] using zero
        | udp => simpa only [kind, session.setTimeout_zero zero] using zero
      · intro session
        cases kind : session.kind with
        | tcp => exact id
        | udp =>
            simp only [session.setTimeout_terminated]
            exact id
  | yielder node =>
      simp only [exec, yielder] at taken
      split at taken
      case h_1 session found =>
        obtain ⟨_, ⟨⟩⟩ := Option.ite_none_right_eq_some.mp taken
        exact quiet rfl (.updates node (by rw [found]; rfl))
      case h_2 => cases taken
  | recvFails node =>
      simp only [exec, recvFails] at taken
      split at taken
      case h_1 session found =>
        obtain ⟨_, ⟨⟩⟩ := Option.ite_none_right_eq_some.mp taken
        exact quiet rfl (.changes node _ (.setTimeout 0 _))
      case h_2 => cases taken
  | errHandler node =>
      obtain ⟨_, ⟨⟩⟩ := Option.ite_none_right_eq_some.mp taken
      exact quiet rfl (.changes node _ .terminate)
  | taskExit node =>
      simp only [exec, taskExit] at taken
      split at taken
      case h_1 session found =>
        obtain ⟨_, ⟨⟩⟩ := Option.ite_none_right_eq_some.mp taken
        exact quiet rfl (.exits node (by rw [found]; rfl))
      case h_2 => cases taken
  | eventTask =>
      have runs : state.run = true := by
        by_contra stopped
        simp only [exec, eventTask, if_neg stopped] at taken
        cases taken
      exact quiet rfl (.sweeps next runs taken)

theorem Books.effect {config : TunnelConfig} {state next : TunnelSessions}
    {order : List Nat} {inserting : Bool} (books : state.Books order)
    (effect : Effect config state inserting next) :
    ∃ order, next.Books order := by
  cases effect with
  | nothing => exact ⟨order, books⟩
  | inserts node kind runs free =>
      exact ⟨order ++ [node], (books.append free runs).insertSession⟩
  | changes node change keeps => exact ⟨order, books.modify node keeps⟩
  | updates node running =>
      obtain ⟨front, back, rfl⟩ := books.split running
      unfold updateSession
      split
      · exact ⟨_, books⟩
      · exact ⟨_, books.move⟩
  | exits node running =>
      obtain ⟨front, back, rfl⟩ := books.split running
      exact ⟨_, books.taskExit⟩
  | sweeps next runs taken =>
      rw [books.eventTask_eq runs] at taken
      cases taken
      exact ⟨order, books.eventTask⟩

theorem books_invariant (config : TunnelConfig) :
    Invariant (system config) fun state => ∃ order, state.Books order where
  initial := by
    rintro state rfl
    refine ⟨[], HevList.empty_holds _, ?_, rfl, ?_, ?_⟩
    · intro node
      exact iff_of_false List.not_mem_nil Bool.false_ne_true
    · intro node isLatest
      cases isLatest
    · intro stopped
      cases stopped
  preserved := by
    rintro state label next ⟨order, books⟩ taken
    exact books.effect (exec_effect taken)

/-! ## After the shutdown -/

/-- `run` stays cleared, no session is inserted, and those that run ran when
it was cleared. -/
structure Stopped (before state : TunnelSessions) : Prop where
  run : state.run = false
  inserted : state.inserted = before.inserted
  running : ∀ node, (state.sessions node).isSome →
    (before.sessions node).isSome

theorem Stopped.effect {config : TunnelConfig}
    {before state next : TunnelSessions} {inserting : Bool}
    (stopped : Stopped before state)
    (effect : Effect config state inserting next) : Stopped before next := by
  obtain ⟨run, inserted, running⟩ := stopped
  cases effect with
  | nothing => exact ⟨run, inserted, running⟩
  | inserts _ _ runs _ =>
      rw [run] at runs
      cases runs
  | changes node change keeps =>
      refine ⟨run, inserted, ?_⟩
      intro other found
      apply running other
      by_cases same : other = node
      · subst same
        simpa [TunnelSessions.modify] using found
      · simpa [TunnelSessions.modify, same] using found
  | updates node _ =>
      unfold updateSession
      split
      · exact ⟨run, inserted, running⟩
      · exact ⟨run, inserted, running⟩
  | exits node _ =>
      refine ⟨run, inserted, ?_⟩
      intro other found
      apply running other
      by_cases same : other = node
      · subst same
        simp at found
      · simpa [same] using found
  | sweeps _ runs _ =>
      rw [run] at runs
      cases runs

theorem stopped_of_run {config : TunnelConfig} {state later : TunnelSessions}
    {labels : List Label} (cleared : state.run = false)
    (taken : (system config).Run state labels later) :
    Stopped state later :=
  taken.preserves (fun _ _ _ stopped step => stopped.effect (exec_effect step))
    ⟨cleared, rfl, fun _ => id⟩

/-! ## The bookkeeping is exact -/

/-- In every reachable state the set is a well-formed list with each running
session once, as many as are counted, and the session put at the tail last
stands there; the sweep comes to its end; and once it has cleared `run`, every
session has timeout 0, in every later state too, and none is inserted. -/
theorem session_books_exact (config : TunnelConfig) (state : TunnelSessions)
    (reached : (system config).Reachable state) :
    (∃ order, state.sessionSet.Holds state.nodes order ∧ order.Nodup ∧
      (∀ node, node ∈ order ↔ (state.sessions node).isSome) ∧
      state.sessionCount = order.length ∧
      ∀ node, state.latest = some node → node ∈ order →
        order.getLast? = some node) ∧
    (state.run = true → ∃ swept, state.eventTask = some swept ∧
      swept.run = false) ∧
    (state.run = false → ∀ labels later,
      (system config).Run state labels later →
        later.run = false ∧ later.inserted = state.inserted ∧
        ∀ node session, later.sessions node = some session →
          (state.sessions node).isSome ∧ session.timeout = 0) := by
  obtain ⟨order, books⟩ := (books_invariant config).reachable reached
  refine ⟨⟨order, books.holds, books.holds.threads.distinct, books.running,
    books.count, books.latest⟩, ?_, ?_⟩
  · intro runs
    exact ⟨_, books.eventTask_eq runs, rfl⟩
  · intro cleared labels later taken
    obtain ⟨run, inserted, running⟩ := stopped_of_run cleared taken
    obtain ⟨_, laterBooks⟩ := (books_invariant config).run taken ⟨order, books⟩
    refine ⟨run, inserted, ?_⟩
    intro node session found
    exact ⟨running node (by rw [found]; rfl),
      laterBooks.stopped run node session found⟩

/-- Two sessions, one of which moves behind the other and one of which ends, and
the shutdown. -/
theorem session_books_exact_two_sessions :
    ∃ state, (system ⟨8, 10000, 300000, 60000⟩).Reachable state ∧
      state.run = false ∧
      ∃ order, state.sessionSet.Holds state.nodes order ∧ order.Nodup := by
  let labels : List Label :=
    [.tcpAccept false ⟨some 1, true⟩, .udpRecv false ⟨some 2, true⟩,
      .connect 1, .handshake 1, .connect 2, .splice 1 true, .yielder 1,
      .taskExit 2, .eventTask]
  have replayed : (labels.foldlM (exec ⟨8, 10000, 300000, 60000⟩) initial).map
      TunnelSessions.run = some false := by
    decide
  obtain ⟨state, taken, seen⟩ := System.replay _ replayed
  have reached : (system ⟨8, 10000, 300000, 60000⟩).Reachable state :=
    ⟨initial, labels, rfl, taken⟩
  obtain ⟨order, holds, distinct, _⟩ := (session_books_exact _ state reached).1
  exact ⟨state, reached, seen, order, holds, distinct⟩

end TunnelSessions

end ProxyVPN
