/-
Module: ProxyVPN.Hev.Socks5UdpReplies
Purpose: One round of the loop of hev_socks5_session_udp_fwd_b, and what the
  whole loop hands to udp_sendfrom, as a function of the messages alone.
Trusted boundary: none
Main exports: HevSocks5UDPMsg.data, SessionUdp.Verdict, SessionUdp.handle,
  SessionUdp.deliveries, fwdBLoop_succ, handle_skipped, handle_refused,
  handle_sent, fwdBLoop_eq_deliveries
-/
import ProxyVPN.Hev.Socks5Udp

namespace ProxyVPN

/-- The data that a message points to. -/
def HevSocks5UDPMsg.data (memory : Nat → UInt8) (msg : HevSocks5UDPMsg) :
    List UInt8 :=
  (List.range' msg.buf msg.len).map memory

namespace SessionUdp

/-- What the loop does with one message: it goes on with the next, it returns
-1, or it goes on after a datagram was sent. -/
inductive Verdict where
  | skipped
  | refused
  | sent (datagram : Datagram)
deriving Repr, DecidableEq

/-- The body of the loop of `hev_socks5_session_udp_fwd_b`.  Nothing is said
about a message whose `addr` was never assigned. -/
def handle (client : SessionUdp) (memory : Nat → UInt8) (send : SendResult)
    (msg : HevSocks5UDPMsg) : Option Verdict :=
  match msg.addr with
  | .indeterminate => none
  | .null => some .skipped
  | .cell addr =>
      if msg.len = 0 then
        some .skipped
      else
        match client.source memory addr with
        | none => some .refused
        | some (source, port) =>
            match send with
            | .sent => some (.sent ⟨source, port, msg.data memory⟩)
            | .noBuffer => some .refused
            | .refused => some .refused

/-- A mapped address is remembered, so replies get it as their source. -/
def Remembers (client : SessionUdp) : Prop :=
  client.addr.any (· ≠ 0) = true ∧ client.port ≠ 0

instance (client : SessionUdp) : Decidable client.Remembers :=
  inferInstanceAs (Decidable (_ ∧ _))

theorem source_eq (client : SessionUdp) (memory : Nat → UInt8) (addr : Nat) :
    client.source memory addr =
      if client.Remembers then some (.v4 client.addr, client.port)
      else addrIntoLwip memory addr := rfl

variable (client : SessionUdp) (sends : Nat → SendResult)
  (memory : Nat → UInt8)

/-- One round of the loop is its body, and what follows from it. -/
theorem fwdBLoop_succ {msgv : List HevSocks5UDPMsg} {index : Nat}
    {msg : HevSocks5UDPMsg} (entry : msgv[index]? = some msg) (left : Nat)
    (sent : List Datagram) :
    client.fwdBLoop sends msgv memory (left + 1) index sent =
      match client.handle memory (sends index) msg with
      | none => .error (.uninitialised index)
      | some .skipped =>
          client.fwdBLoop sends msgv memory left (index + 1) sent
      | some .refused => .ok (-1, sent)
      | some (.sent datagram) =>
          client.fwdBLoop sends msgv memory left (index + 1)
            (sent ++ [datagram]) := by
  conv_lhs => unfold fwdBLoop
  unfold handle
  rw [entry]
  simp only
  cases msg.addr with
  | indeterminate => rfl
  | null => rfl
  | cell addr =>
      simp only
      by_cases empty : msg.len = 0
      · rw [if_pos empty, if_pos empty]
      · rw [if_neg empty, if_neg empty]
        cases client.source memory addr with
        | none => rfl
        | some source =>
            cases sends index with
            | sent => rfl
            | noBuffer => rfl
            | refused => rfl

/-- The datagrams that are sent for some messages, the first of which has this
index. -/
def deliveries : Nat → List HevSocks5UDPMsg → List Datagram
  | _, [] => []
  | index, msg :: msgv =>
      match client.handle memory (sends index) msg with
      | none => []
      | some .skipped => deliveries (index + 1) msgv
      | some .refused => []
      | some (.sent datagram) => datagram :: deliveries (index + 1) msgv

theorem handle_isSome {msg : HevSocks5UDPMsg} (send : SendResult)
    (set : msg.addr ≠ .indeterminate) :
    ∃ verdict, client.handle memory send msg = some verdict := by
  unfold handle
  cases addr : msg.addr with
  | indeterminate => exact absurd addr set
  | null => exact ⟨_, rfl⟩
  | cell address =>
      simp only
      split
      · exact ⟨_, rfl⟩
      · cases client.source memory address with
        | none => exact ⟨_, rfl⟩
        | some source => cases send <;> exact ⟨_, rfl⟩

/-- What can become of a message. -/
theorem handle_cases {msg : HevSocks5UDPMsg} {send : SendResult}
    {verdict : Verdict}
    (handled : client.handle memory send msg = some verdict) :
    (verdict = .skipped ∧ (msg.addr = .null ∨ msg.len = 0)) ∨
    ∃ addr, msg.addr = .cell addr ∧ msg.len ≠ 0 ∧
      ((verdict = .refused ∧
          (send ≠ .sent ∨ client.source memory addr = none)) ∨
        ∃ source port, verdict = .sent ⟨source, port, msg.data memory⟩ ∧
          send = .sent ∧
          client.source memory addr = some (source, port)) := by
  unfold handle at handled
  cases addr : msg.addr with
  | indeterminate => simp [addr] at handled
  | null =>
      rw [addr] at handled
      exact .inl ⟨(Option.some.inj handled).symm, .inl rfl⟩
  | cell address =>
      rw [addr] at handled
      simp only at handled
      split at handled
      case isTrue empty =>
        exact .inl ⟨(Option.some.inj handled).symm, .inr empty⟩
      case isFalse nonempty =>
        right
        refine ⟨address, rfl, nonempty, ?_⟩
        cases source : client.source memory address with
        | none =>
            rw [source] at handled
            exact .inl ⟨(Option.some.inj handled).symm, .inr rfl⟩
        | some found =>
            rw [source] at handled
            cases send with
            | sent =>
                exact .inr ⟨found.1, found.2, (Option.some.inj handled).symm,
                  rfl, rfl⟩
            | noBuffer | refused =>
                exact .inl ⟨(Option.some.inj handled).symm, .inl nofun⟩

/-- What the loop passes over is unset, or has no data. -/
theorem handle_skipped {msg : HevSocks5UDPMsg} {send : SendResult}
    (handled : client.handle memory send msg = some .skipped) :
    msg.addr = .null ∨ msg.len = 0 := by
  rcases client.handle_cases memory handled with
    ⟨_, skipped⟩ | ⟨_, _, _, ⟨other, _⟩ | ⟨_, _, other, _⟩⟩
  · exact skipped
  · cases other
  · cases other

/-- Where the loop ends early, there is no source or lwIP refuses. -/
theorem handle_refused {msg : HevSocks5UDPMsg} {send : SendResult}
    (handled : client.handle memory send msg = some .refused) :
    ∃ addr, msg.addr = .cell addr ∧ msg.len ≠ 0 ∧
      (send ≠ .sent ∨ client.source memory addr = none) := by
  rcases client.handle_cases memory handled with
    ⟨other, _⟩ | ⟨addr, cell, nonempty, ⟨_, refused⟩ | ⟨_, _, other, _⟩⟩
  · cases other
  · exact ⟨addr, cell, nonempty, refused⟩
  · cases other

/-- What is sent has the source that was found, and the message's data. -/
theorem handle_sent {msg : HevSocks5UDPMsg} {send : SendResult}
    {datagram : Datagram}
    (handled : client.handle memory send msg = some (.sent datagram)) :
    ∃ addr, msg.addr = .cell addr ∧ msg.len ≠ 0 ∧ send = .sent ∧
      client.source memory addr = some (datagram.source, datagram.port) ∧
      datagram.payload = msg.data memory := by
  rcases client.handle_cases memory handled with
    ⟨other, _⟩ | ⟨addr, cell, nonempty, ⟨other, _⟩ | ⟨_, _, same, sent, found⟩⟩
  · cases other
  · cases other
  · cases same
    exact ⟨addr, cell, nonempty, sent, found, rfl⟩

/-- Over messages that were all set the loop sends these datagrams, whatever it
returns. -/
theorem fwdBLoop_eq_deliveries {msgv : List HevSocks5UDPMsg} :
    ∀ (later : List HevSocks5UDPMsg) (index : Nat) (sent : List Datagram),
      (∀ msg ∈ later, msg.addr ≠ .indeterminate) →
      (msgv.drop index).take later.length = later →
      ∃ res, client.fwdBLoop sends msgv memory later.length index sent =
        .ok (res, sent ++ client.deliveries sends memory index later) := by
  intro later
  induction later with
  | nil =>
      intro index sent _ _
      exact ⟨1, by rw [deliveries, List.append_nil]; rfl⟩
  | cons msg later inductionHypothesis =>
      intro index sent set entries
      obtain ⟨entry, rest⟩ : msgv[index]? = some msg ∧
          (msgv.drop (index + 1)).take later.length = later := by
        cases dropped : msgv.drop index with
        | nil =>
            rw [dropped, List.take_nil] at entries
            cases entries
        | cons first behind =>
            rw [dropped, List.length_cons, List.take_succ_cons] at entries
            injection entries with same rest
            have next : msgv.drop (index + 1) = behind := by
              rw [← List.drop_drop, dropped, List.drop_one, List.tail_cons]
            have head : (msgv.drop index)[0]? = msgv[index + 0]? :=
              List.getElem?_drop
            rw [dropped, Nat.add_zero] at head
            rw [next, ← head, ← same]
            exact ⟨rfl, rest⟩
      have setLater : ∀ other ∈ later, other.addr ≠ .indeterminate :=
        fun other member => set other (List.mem_cons_of_mem _ member)
      obtain ⟨verdict, verdictEq⟩ := client.handle_isSome memory (sends index)
        (set msg List.mem_cons_self)
      rw [List.length_cons, fwdBLoop_succ client sends memory entry, deliveries,
        verdictEq]
      cases verdict with
      | skipped => exact inductionHypothesis (index + 1) sent setLater rest
      | refused => exact ⟨-1, by rw [List.append_nil]⟩
      | sent datagram =>
          obtain ⟨res, loop⟩ := inductionHypothesis (index + 1)
            (sent ++ [datagram]) setLater rest
          rw [List.append_assoc] at loop
          exact ⟨res, loop⟩

end SessionUdp

end ProxyVPN
