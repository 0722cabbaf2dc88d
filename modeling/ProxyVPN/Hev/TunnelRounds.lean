/-
Module: ProxyVPN.Hev.TunnelRounds
Purpose: Stop calls and the event socket over any number of rounds of init, run
  and fini: a stop call on its way to write is alone, the socket is open, and
  its round is the one whose init set `SYNC_SEND`.
Trusted boundary: none
Main exports: TunnelSync.SendSet, TunnelSync.sendSet_of_run,
  TunnelSync.stop_and_teardown_never_race
-/
import ProxyVPN.Hev.TunnelStops

namespace ProxyVPN

open Transition

namespace TunnelSync

/-! ## What a run has done to the event socket -/

/-- The last round of a run has set `SYNC_SEND` and has not closed the event
socket since. -/
def SendSet (labels : List Label) : Prop :=
  ∃ before after, labels = before ++ Label.initSend :: after ∧
    Label.initCall ∉ after ∧ Label.finiClose ∉ after

theorem SendSet.initSend (labels : List Label) :
    SendSet (labels ++ [.initSend]) :=
  ⟨labels, [], rfl, List.not_mem_nil, List.not_mem_nil⟩

theorem SendSet.snoc {labels : List Label} {label : Label}
    (sendSet : SendSet labels) (notCall : label ≠ .initCall)
    (notClose : label ≠ .finiClose) : SendSet (labels ++ [label]) := by
  obtain ⟨before, after, rfl, noCall, noClose⟩ := sendSet
  refine ⟨before, after ++ [label], by simp, ?_, ?_⟩
  · simp [noCall, notCall.symm]
  · simp [noClose, notClose.symm]

/-- `SYNC_SEND` is set, or a stop call that saw it has not written yet. -/
def Sends (state : TunnelSync) : Prop :=
  state.tsync.send = true ∨ ∃ i, (state.stops i).pc.sending = true

theorem Agrees.open_of_sends {state : TunnelSync} (agrees : state.Agrees)
    (sends : state.Sends) : state.pc.open = true := by
  rcases sends with send | ⟨i, sending⟩
  · exact (agrees.send send).2
  · exact (agrees.sending i sending).2

/-- A stop call that goes on to something else than writing adds no sender. -/
theorem Sends.of_setStop {state : TunnelSync} {i : Nat} {pc : StopPc}
    (sends : (state.setStop i pc).Sends)
    (quiet : pc.sending = true → (state.stops i).pc.sending = true) :
    state.Sends := by
  rcases sends with send | ⟨j, sending⟩
  · exact .inl send
  · by_cases same : j = i
    · subst same
      simp only [setStop, Function.update_self] at sending
      exact .inr ⟨j, quiet sending⟩
    · rw [setStop_others state i pc j same] at sending
      exact .inr ⟨j, sending⟩

/-- Only `hev_socks5_tunnel_init` makes senders. -/
theorem Sends.of_step {state next : TunnelSync} {label : Label}
    (sends : next.Sends) (taken : exec state label = some next)
    (notSend : label ≠ .initSend) : state.Sends := by
  cases label with
  | initSend => exact absurd rfl notSend
  | initCall | eventTaskInit | initFails | runCheck | eventTaskRead
  | eventTaskClear | runReturns | finiClose =>
      obtain ⟨_, ⟨⟩⟩ := Option.ite_none_right_eq_some.mp taken
      exact sends
  | finiClear =>
      obtain ⟨_, ⟨⟩⟩ := Option.ite_none_right_eq_some.mp taken
      rcases sends with send | sending
      · cases send
      · exact .inr sending
  | stopCall i =>
      obtain ⟨absent, ⟨⟩⟩ := Option.ite_none_right_eq_some.mp taken
      rcases sends with send | ⟨j, sending⟩
      · exact .inl send
      · by_cases same : j = i
        · subst same
          simp [StopPc.sending] at sending
        · simp only [Function.update_of_ne same] at sending
          exact .inr ⟨j, sending⟩
  | stopWait i =>
      obtain ⟨_, entered⟩ := Option.ite_none_right_eq_some.mp taken
      split at entered
      · cases entered
        exact sends
      · cases entered
        by_cases send : state.tsync.send = true
        · exact .inl send
        · apply Sends.of_setStop (i := i) sends
          intro sending
          rw [Bool.not_eq_true] at send
          rw [send] at sending
          cases sending
  | stopSent i =>
      obtain ⟨entered, ⟨⟩⟩ := Option.ite_none_right_eq_some.mp taken
      apply Sends.of_setStop (i := i) sends
      intro _
      rw [entered]
      rfl
  | stopWrite i | stopStop i | stopLeave i =>
      obtain ⟨_, ⟨⟩⟩ := Option.ite_none_right_eq_some.mp taken
      apply Sends.of_setStop (i := i) sends
      intro sending
      cases sending

theorem sendSet_of_run {labels : List Label} {state : TunnelSync}
    (taken : system.Run initial labels state) :
    state.Sends → SendSet labels := by
  induction taken with
  | nil =>
      rintro (send | ⟨i, sending⟩)
      · cases send
      · cases sending
  | @snoc state last labels label before lastTaken inductionHypothesis =>
      intro sends
      by_cases isSend : label = .initSend
      · subst isSend
        exact .initSend labels
      · have earlier := sends.of_step lastTaken isSend
        have coherent := coherent_invariant.reachable ⟨_, _, rfl, before⟩
        have isOpen := coherent.2.1.open_of_sends earlier
        apply (inductionHypothesis earlier).snoc
        · rintro rfl
          obtain ⟨idle, _⟩ := Option.ite_none_right_eq_some.mp lastTaken
          rw [idle] at isOpen
          cases isOpen
        · rintro rfl
          obtain ⟨close, _⟩ := Option.ite_none_right_eq_some.mp lastTaken
          rw [close] at isOpen
          cases isOpen

/-! ## Whole runs -/

/-- In every run, with any number of stop calls and rounds: one stop call at a
time holds `SYNC_WAIT`; a stop call that is about to write finds the socket
open, after the init of the round set `SYNC_SEND` and before its fini closes
the socket; and fini leaves its retry loop, and closes, with no stop call that
saw `SYNC_SEND` inside. -/
theorem stop_and_teardown_never_race (labels : List Label) (state : TunnelSync)
    (taken : system.Run initial labels state) :
    (∀ i j, (state.stops i).pc.inside = true →
      (state.stops j).pc.inside = true → i = j) ∧
    (∀ i, (state.stops i).pc = .write →
      state.eventFds = true ∧ SendSet labels) ∧
    (∀ next, exec state .finiClear = some next → next.pc = .close →
      ∀ i, (state.stops i).pc.inside = false) ∧
    ∀ next, exec state .finiClose = some next →
      ∀ i, (state.stops i).pc.sending = false := by
  have coherent := coherent_invariant.reachable ⟨_, _, rfl, taken⟩
  obtain ⟨⟨holder, locked⟩, agrees, _⟩ := coherent
  refine ⟨?_, ?_, ?_, ?_⟩
  · intro i j left right
    exact locked.alone left right
  · intro i write
    have sending : (state.stops i).pc.sending = true := by
      rw [write]
      rfl
    exact ⟨(agrees.sending i sending).1,
      sendSet_of_run taken (.inr ⟨i, sending⟩)⟩
  · intro next left closes i
    obtain ⟨_, ⟨⟩⟩ := Option.ite_none_right_eq_some.mp left
    have free : state.tsync.wait = false := by
      cases wait : state.tsync.wait with
      | false => rfl
      | true => simp [wait] at closes
    rw [locked.wait, Option.isSome_eq_false_iff, Option.isNone_iff_eq_none] at free
    rw [← Bool.not_eq_true, locked.inside i, free]
    exact nofun
  · intro next closed i
    obtain ⟨close, _⟩ := Option.ite_none_right_eq_some.mp closed
    rw [← Bool.not_eq_true]
    intro sending
    have isOpen := (agrees.sending i sending).2
    rw [close] at isOpen
    cases isOpen

/-- In a second round, one stop call is about to write while another waits. -/
theorem second_round_never_races :
    ∃ labels state, system.Run initial labels state ∧ state.session = 2 ∧
      (state.stops 1).pc = .write ∧ (state.stops 2).pc = .retry ∧
      state.eventFds = true ∧ SendSet labels := by
  let labels : List Label :=
    [.initCall, .eventTaskInit, .initSend, .runCheck, .stopCall 0, .stopWait 0,
      .stopSent 0, .stopWrite 0, .stopLeave 0, .eventTaskRead, .eventTaskClear,
      .runReturns, .finiClear, .finiClose, .initCall, .eventTaskInit, .initSend,
      .stopCall 1, .stopCall 2, .stopWait 1, .stopWait 2, .stopSent 1]
  have replayed : (labels.foldlM exec initial).map
      (fun state => (state.session, (state.stops 1).pc, (state.stops 2).pc)) =
        some (2, .write, .retry) := by
    decide
  obtain ⟨last, taken, seen⟩ := System.replay _ replayed
  simp only [Prod.mk.injEq] at seen
  obtain ⟨session, write, retry⟩ := seen
  have never := stop_and_teardown_never_race labels last taken
  exact ⟨labels, last, taken, session, write, retry, never.2.1 1 write⟩

end TunnelSync

end ProxyVPN
