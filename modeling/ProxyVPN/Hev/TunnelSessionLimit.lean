/-
Module: ProxyVPN.Hev.TunnelSessionLimit
Purpose: How many sessions of hev-socks5-tunnel.c live under a limit, when
  terminated ones stay in the set until their tasks have run.
Trusted boundary: none
Main exports: TunnelSessions.live, TunnelSessions.HeadLives,
  TunnelSessions.limited_invariant, TunnelSessions.session_limit_bounds_live
-/
import ProxyVPN.Hev.TunnelSessionSet

namespace ProxyVPN

open Transition

namespace TunnelSessions

/-- The nodes of the set, from the first to the last. -/
def order (self : TunnelSessions) : List Nat :=
  (HevList.walk self.nodes self.sessionCount.toNat self.sessionSet.head).getD []

/-- A session that was not told to terminate has this node. -/
def isLive (self : TunnelSessions) (node : Nat) : Bool :=
  (self.sessions node).any fun session => !session.terminated

/-- The number of sessions in the set that were not told to terminate. -/
def live (self : TunnelSessions) : Nat :=
  self.order.countP self.isLive

/-- The first session of the set was told to terminate before. -/
def headTerminated (self : TunnelSessions) : Bool :=
  (self.sessionSet.head.bind self.sessions).any TunnelSession.terminated

/-- A session is inserted only where the first of the set is still to be
terminated, or where fewer sessions live than the limit admits. -/
def HeadLives (config : TunnelConfig) (state : TunnelSessions) (label : Label) :
    Prop :=
  state.run = true → label.inserts = true → state.headTerminated = true →
    state.live < config.maxSessionCount

instance (config : TunnelConfig) (state : TunnelSessions) (label : Label) :
    Decidable (HeadLives config state label) :=
  inferInstanceAs (Decidable (_ → _))

/-! ## One step -/

theorem Books.order_eq {state : TunnelSessions} {order : List Nat}
    (books : state.Books order) : state.order = order := by
  unfold TunnelSessions.order
  rw [books.count, Int.toNat_natCast, books.holds.walk (Nat.le_refl _)]
  rfl

theorem Books.live_eq {state : TunnelSessions} {order : List Nat}
    (books : state.Books order) : state.live = order.countP state.isLive := by
  unfold live
  rw [books.order_eq]

theorem Books.live_le {state : TunnelSessions} {order : List Nat}
    (books : state.Books order) : (state.live : Int) ≤ state.sessionCount := by
  rw [books.live_eq, books.count]
  exact Int.ofNat_le.mpr List.countP_le_length

theorem isLive_iff {state : TunnelSessions} {node : Nat} :
    state.isLive node = true ↔
      ∃ session, state.sessions node = some session ∧
        session.terminated = false := by
  unfold isLive
  rw [Option.any_eq_true]
  exact exists_congr fun session => by
    rw [Bool.not_eq_true']

/-- Changing a session makes none live. -/
theorem isLive_of_modify {state : TunnelSessions} {node other : Nat}
    {change : TunnelSession → TunnelSession}
    (keeps : TunnelSession.Keeps change)
    (live : (state.modify node change).isLive other = true) :
    state.isLive other = true := by
  obtain ⟨session, found, lives⟩ := isLive_iff.mp live
  by_cases same : other = node
  · subst same
    simp only [modify, Function.update_self, Option.map_eq_some_iff] at found
    obtain ⟨before, foundBefore, rfl⟩ := found
    refine isLive_iff.mpr ⟨before, foundBefore, ?_⟩
    rw [← Bool.not_eq_true]
    intro terminated
    rw [keeps.terminated before terminated] at lives
    cases lives
  · simp only [modify, Function.update_of_ne same] at found
    exact isLive_iff.mpr ⟨session, found, lives⟩

/-- A step that inserts no session adds none to those that live. -/
theorem Books.live_quiet {config : TunnelConfig} {state next : TunnelSessions}
    {order : List Nat} (books : state.Books order)
    (effect : Effect config state false next) : next.live ≤ state.live := by
  cases effect with
  | nothing => exact Nat.le_refl _
  | changes node change keeps =>
      rw [(books.modify node keeps).live_eq, books.live_eq]
      exact List.countP_mono_left fun other _ => isLive_of_modify keeps
  | updates node running =>
      obtain ⟨front, back, rfl⟩ := books.split running
      unfold updateSession
      split
      · exact Nat.le_refl _
      · rw [books.move.live_eq, books.live_eq]
        have moved : (front ++ back ++ [node]).Perm (front ++ node :: back) :=
          (List.perm_append_singleton node (front ++ back)).trans
            List.perm_middle.symm
        exact Nat.le_of_eq (moved.countP_eq state.isLive)
  | exits node running =>
      obtain ⟨front, back, rfl⟩ := books.split running
      rw [books.taskExit.live_eq, books.live_eq]
      have fewer : (front ++ back).Sublist (front ++ node :: back) :=
        List.Sublist.append_left (List.sublist_cons_self node back) front
      refine Nat.le_trans (List.countP_mono_left ?_)
        fewer.countP_le
      intro other member live
      have different : other ≠ node := by
        rintro rfl
        exact (List.nodup_middle.mp books.holds.threads.distinct).notMem member
      simpa [isLive, different] using live
  | sweeps next runs taken =>
      rw [books.eventTask_eq runs] at taken
      cases taken
      rw [books.eventTask.live_eq, books.live_eq]
      apply List.countP_mono_left
      intro other _ live
      obtain ⟨session, found, lives⟩ := isLive_iff.mp live
      obtain ⟨before, _, rfl⟩ := Option.map_eq_some_iff.mp found
      cases lives

theorem isLive_append {state : TunnelSessions} {node : Nat}
    {session : TunnelSession} (other : Nat) :
    ((state.withSession node session).append node).isLive other =
      if other = node then !session.terminated else state.isLive other := by
  unfold isLive
  by_cases same : other = node
  · subst same
    simp [append, addTail, withSession]
  · simp [append, addTail, withSession, same]

theorem isLive_terminate {state : TunnelSessions} {node : Nat} (other : Nat) :
    (state.modify node .terminate).isLive other =
      (decide (other ≠ node) && state.isLive other) := by
  unfold isLive
  by_cases same : other = node
  · subst same
    cases found : state.sessions other with
    | none => simp [modify, found]
    | some session => simp [modify, found, TunnelSession.terminate]
  · simp [modify, same]

/-- The sessions that live when a new one stands at the tail. -/
theorem Books.live_append {state : TunnelSessions} {order : List Nat}
    {node : Nat} {kind : TunnelSession.Kind} (books : state.Books order)
    (runs : state.run = true) (free : state.sessions node = none) :
    ((state.withSession node (.construct kind)).append node).live =
      state.live + 1 := by
  have added : ((state.withSession node (.construct kind)).append node).Books
      (order ++ [node]) := books.append free runs
  have fresh : node ∉ order := by
    rw [books.running, free]
    exact Bool.false_ne_true
  rw [added.live_eq, books.live_eq, List.countP_append]
  congr 1
  · apply List.countP_congr
    intro other member
    have different : other ≠ node := by
      rintro rfl
      exact fresh member
    rw [isLive_append, if_neg different]
  · rw [List.countP_singleton, isLive_append, if_pos rfl]
    rfl

/-- When the first session is terminated besides, one less lives, unless it was
terminated before. -/
theorem Books.live_terminate {state : TunnelSessions} {first : Nat}
    {rest : List Nat} (books : state.Books (first :: rest)) :
    (state.modify first .terminate).live =
      state.live - if state.isLive first then 1 else 0 := by
  have distinct := List.nodup_cons.mp books.holds.threads.distinct
  rw [(books.modify first .terminate).live_eq, books.live_eq,
    List.countP_cons, List.countP_cons, isLive_terminate]
  have others : rest.countP (state.modify first .terminate).isLive =
      rest.countP state.isLive := by
    apply List.countP_congr
    intro other member
    have different : other ≠ first := fun same => distinct.1 (same ▸ member)
    simp [isLive_terminate, different]
  rw [others]
  simp

theorem Books.headTerminated_eq {state : TunnelSessions} {first : Nat}
    {rest : List Nat} (books : state.Books (first :: rest)) :
    state.headTerminated = !state.isLive first := by
  have running := (books.running first).mp List.mem_cons_self
  unfold headTerminated isLive
  rw [books.holds.head]
  cases found : state.sessions first with
  | none =>
      rw [found] at running
      cases running
  | some session => simp [found]

/-- After an insertion the limit holds exactly where it was not met before it or
the first session was still to be terminated. -/
theorem Books.live_insert {config : TunnelConfig} {state : TunnelSessions}
    {order : List Nat} {node : Nat} {kind : TunnelSession.Kind}
    (books : state.Books order) (limit : 0 < config.maxSessionCount)
    (bounded : (state.live : Int) ≤ config.maxSessionCount)
    (runs : state.run = true) (free : state.sessions node = none) :
    ((TunnelSessions.insertSession config
        (state.withSession node (.construct kind)) node).live : Int) ≤
        config.maxSessionCount ↔
      (state.headTerminated = true → state.live < config.maxSessionCount) := by
  have added : ((state.withSession node (.construct kind)).append node).Books
      (order ++ [node]) := books.append free runs
  have lives : ((state.withSession node (.construct kind)).append node).live =
      state.live + 1 := books.live_append runs free
  have counted := books.live_le
  rw [insertSession_eq config added]
  split
  case isTrue room =>
    have below : state.sessionCount + 1 < config.maxSessionCount :=
      room.resolve_left (by omega)
    rw [lives]
    exact iff_of_true (by omega) fun _ => by omega
  case isFalse =>
    cases order with
    | nil =>
        -- the new session is the first of the set, and is terminated itself
        have none : state.headTerminated = false := by
          unfold headTerminated
          rw [books.holds.head]
          rfl
        have alone := added.live_terminate
        rw [lives, isLive_append, if_pos rfl] at alone
        rw [List.head?_nil, Option.getD_none, alone, none]
        have zero : state.live = 0 := by
          rw [books.live_eq]
          rfl
        rw [zero]
        exact iff_of_true (by simpa [TunnelSession.construct] using Int.le_of_lt limit)
          (fun terminated => by cases terminated)
    | cons first rest =>
        have different : first ≠ node := by
          rintro rfl
          have running := (books.running first).mp List.mem_cons_self
          rw [free] at running
          cases running
        have fewer := added.live_terminate
        rw [lives, isLive_append, if_neg different] at fewer
        rw [List.head?_cons, Option.getD_some, fewer, books.headTerminated_eq]
        cases state.isLive first with
        | true => simpa using bounded
        | false =>
            rw [if_neg Bool.false_ne_true, Nat.sub_zero]
            constructor
            · intro within _
              omega
            · intro less
              have room := less rfl
              omega

/-! ## Whole runs -/

/-- The books are kept, and no more sessions live than the limit admits. -/
def Limited (config : TunnelConfig) (state : TunnelSessions) : Prop :=
  (∃ order, state.Books order) ∧ (state.live : Int) ≤ config.maxSessionCount

/-- A step keeps within the limit exactly where it meets the condition. -/
theorem Limited.live_iff {config : TunnelConfig} {state next : TunnelSessions}
    {label : Label} (limit : 0 < config.maxSessionCount)
    (limited : state.Limited config)
    (taken : state.exec config label = some next) :
    (next.live : Int) ≤ config.maxSessionCount ↔
      HeadLives config state label := by
  obtain ⟨⟨order, books⟩, bounded⟩ := limited
  have effect := exec_effect taken
  unfold HeadLives
  cases inserting : state.run && label.inserts with
  | false =>
      rw [inserting] at effect
      have fewer := books.live_quiet effect
      refine iff_of_true (by omega) ?_
      intro runs inserts
      rw [runs, inserts] at inserting
      cases inserting
  | true =>
      rw [inserting] at effect
      obtain ⟨runs, inserts⟩ := Bool.and_eq_true_iff.mp inserting
      cases effect with
      | inserts node kind _ free =>
          rw [books.live_insert limit bounded runs free]
          exact ⟨fun room _ _ => room, fun room => room runs inserts⟩

theorem limited_invariant {config : TunnelConfig}
    (limit : 0 < config.maxSessionCount) :
    Invariant ((system config).restrict (HeadLives config))
      (Limited config) where
  initial := by
    rintro state rfl
    refine ⟨(books_invariant config).initial _ rfl, ?_⟩
    exact Int.le_of_lt limit
  preserved := by
    rintro state label next limited ⟨admitted, taken⟩
    exact ⟨(books_invariant config).preserved _ _ _ limited.1 taken,
      (limited.live_iff limit taken).mpr admitted⟩

/-- In every run whose insertions meet the condition, no more sessions live than
the limit admits; and after such a run a step keeps within the limit if and
only if it meets the condition too. -/
theorem session_limit_bounds_live (config : TunnelConfig)
    (limit : 0 < config.maxSessionCount) (state : TunnelSessions)
    (reached : ((system config).restrict (HeadLives config)).Reachable state) :
    (state.live : Int) ≤ config.maxSessionCount ∧
      ∀ label next, (system config).step state label next →
        ((next.live : Int) ≤ config.maxSessionCount ↔
          HeadLives config state label) := by
  have limited := (limited_invariant limit).reachable reached
  exact ⟨limited.2, fun label next taken => limited.live_iff limit taken⟩

/-- A limit of two, and three sessions, the first of which ends in time. -/
theorem session_limit_bounds_live_prompt_exits :
    ∃ state, ((system ⟨2, 10000, 300000, 60000⟩).restrict
        (HeadLives ⟨2, 10000, 300000, 60000⟩)).Reachable state ∧
      state.order = [2, 3] ∧ (state.live : Int) ≤ 2 := by
  let labels : List Label :=
    [.tcpAccept false ⟨some 1, true⟩, .tcpAccept false ⟨some 2, true⟩,
      .connect 1, .taskExit 1, .udpRecv false ⟨some 3, true⟩]
  have replayed : (labels.foldlM (fun (state : TunnelSessions) label =>
      if HeadLives ⟨2, 10000, 300000, 60000⟩ state label then
        state.exec ⟨2, 10000, 300000, 60000⟩ label
      else none) initial).map order = some [2, 3] := by
    decide
  obtain ⟨state, taken, seen⟩ := System.replay_restrict _ replayed
  have reached : ((system ⟨2, 10000, 300000, 60000⟩).restrict
      (HeadLives ⟨2, 10000, 300000, 60000⟩)).Reachable state :=
    ⟨initial, labels, rfl, taken⟩
  exact ⟨state, reached, seen,
    (session_limit_bounds_live _ (by decide) state reached).1⟩

/-- With a limit of two, the third and the fourth session are inserted before
the task of the first, terminated one has run, and three live. -/
theorem terminated_head_lets_limit_pass :
    ¬∀ config : TunnelConfig, 0 < config.maxSessionCount →
      ∀ state, (system config).Reachable state →
        (state.live : Int) ≤ config.maxSessionCount := by
  intro bounded
  let labels : List Label :=
    [.tcpAccept false ⟨some 1, true⟩, .tcpAccept false ⟨some 2, true⟩,
      .tcpAccept false ⟨some 3, true⟩, .tcpAccept false ⟨some 4, true⟩]
  have replayed : (labels.foldlM (exec ⟨2, 10000, 300000, 60000⟩) initial).map
      live = some 3 := by
    decide
  obtain ⟨state, taken, seen⟩ := System.replay _ replayed
  have three := bounded ⟨2, 10000, 300000, 60000⟩ (by decide) state
    ⟨initial, labels, rfl, taken⟩
  rw [seen] at three
  exact absurd three (by decide)

end TunnelSessions

end ProxyVPN
