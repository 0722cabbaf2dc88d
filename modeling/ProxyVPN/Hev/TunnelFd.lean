/-
Module: ProxyVPN.Hev.TunnelFd
Purpose: The descriptor of the tunnel over the sessions of a process:
  `tunnel_init` and `tunnel_fini` with the static variables that outlive a
  session, and the sessions in which the tunnel is closed and its pre-down
  script run by the one that opened it.
Trusted boundary: human-reviewed model; the kernel's answers are inputs.
Main exports: TunnelFd, TunnelFd.Session, TunnelFd.tunnelInit,
  TunnelFd.tunnelFini, TunnelFd.history, TunnelFd.Owned, TunnelFd.Kept,
  TunnelFd.owned_iff_kept, TunnelFd.LeavesMark, TunnelFd.kept_iff_sessions
-/
import Mathlib.Data.List.Induction

namespace ProxyVPN

/-- The static variables `tun_fd` and `tun_fd_local`. -/
structure TunnelFd where
  tunFd : Int := -1
  tunFdLocal : Int := 0
deriving DecidableEq

namespace TunnelFd

/-- What a session is given and what it meets: the descriptor of the caller, the
configuration, and the result of every step of `hev_socks5_tunnel_init`. -/
structure Session where
  externTunFd : Int
  nonblock : Int
  tunnelOpen : Int
  setMtu : Int
  /-- There is no result where no address is configured. -/
  setIpv4 : Option Int
  setIpv6 : Option Int
  setState : Int
  postUpScript : Option (List UInt8)
  preDownScript : Option (List UInt8)
  gatewayInit : Int
  eventTaskInit : Int
  lwipIoTaskInit : Int
  lwipTimerTaskInit : Int
  mappedDnsInit : Int
deriving DecidableEq

/-- What a session does outside the process. -/
inductive Event where
  | opened (fd : Int)
  | postUp (script : List UInt8)
  | preDown (script : List UInt8)
  | close (fd : Int)
deriving DecidableEq

/-- The steps of `tunnel_init` after the tunnel was opened. -/
def configure (session : Session) : Int × List Event :=
  if session.setMtu < 0 then (-1, [])
  else if session.setIpv4.any (· < 0) then (-1, [])
  else if session.setIpv6.any (· < 0) then (-1, [])
  else if session.setState < 0 then (-1, [])
  else (0, (session.postUpScript.map Event.postUp).toList)

def tunnelInit (session : Session) (self : TunnelFd) :
    Int × TunnelFd × List Event :=
  if 0 ≤ session.externTunFd then
    if session.nonblock < 0 then (-1, self, [])
    else (0, { self with tunFd := session.externTunFd }, [])
  else
    let self := { self with tunFdLocal := 1 }
    let self := { self with tunFd := session.tunnelOpen }
    if self.tunFd < 0 then (-1, self, [])
    else
      let (res, events) := configure session
      (res, self, .opened self.tunFd :: events)

def tunnelFini (preDownScript : Option (List UInt8)) (self : TunnelFd) :
    TunnelFd × List Event :=
  if self.tunFdLocal = 0 then (self, [])
  else
    let script := (preDownScript.map Event.preDown).toList
    if 0 ≤ self.tunFd then
      ({ tunFdLocal := 0, tunFd := -1 }, script ++ [.close self.tunFd])
    else (self, script)

/-- The steps after `tunnel_init`. -/
def laterSteps (session : Session) : List Int :=
  [session.gatewayInit, session.eventTaskInit, session.lwipIoTaskInit,
    session.lwipTimerTaskInit, session.mappedDnsInit]

/-- `hev_socks5_tunnel_init`, which calls the fini itself when a step fails. -/
def init (session : Session) (self : TunnelFd) : Int × TunnelFd × List Event :=
  let (res, self, events) := tunnelInit session self
  if res < 0 ∨ ∃ later ∈ laterSteps session, later < 0 then
    let (self, finished) := tunnelFini session.preDownScript self
    (-1, self, events ++ finished)
  else (0, self, events)

/-- A session as `hev_socks5_tunnel_main_inner` has it: only a session that was
set up is run and finished. -/
def exec (self : TunnelFd) (session : Session) : TunnelFd × List Event :=
  let (res, self, events) := init session self
  if res < 0 then (self, events)
  else
    let (self, finished) := tunnelFini session.preDownScript self
    (self, events ++ finished)

/-- A session of a process, with the variables before it. -/
structure Step where
  before : TunnelFd
  session : Session
  events : List Event

/-- The sessions of a process, one after another. -/
def history : TunnelFd → List Session → List Step
  | _, [] => []
  | self, session :: rest =>
      ⟨self, session, (self.exec session).2⟩ ::
        history (self.exec session).1 rest

/-- The session closes what it has opened and nothing else, in particular no
descriptor of the caller, and runs the pre-down script where it has opened the
tunnel. -/
structure Owned (session : Session) (events : List Event) : Prop where
  closed : ∀ fd, .close fd ∈ events ↔ .opened fd ∈ events
  preDown : ∀ script, .preDown script ∈ events ↔
    (∃ fd, .opened fd ∈ events) ∧ session.preDownScript = some script
  foreign : 0 ≤ session.externTunFd → ∀ fd, .close fd ∉ events

/-- The session opens the tunnel, or finds nothing to take down: it was to open
the tunnel itself and there is no script; or it brings a descriptor, and no
session before has left the mark behind, or the descriptor is refused and there
is no script. -/
def Kept (before : TunnelFd) (session : Session) : Prop :=
  if session.externTunFd < 0 then
    0 ≤ session.tunnelOpen ∨ session.preDownScript = none
  else
    before.tunFdLocal = 0 ∨ session.nonblock < 0 ∧ session.preDownScript = none

instance (before : TunnelFd) (session : Session) :
    Decidable (Kept before session) := by
  unfold Kept
  infer_instance

/-! ## A session -/

/-- However a session ends, the fini runs once on what `tunnel_init` left. -/
theorem exec_eq (self : TunnelFd) (session : Session) :
    self.exec session =
      ((tunnelFini session.preDownScript (tunnelInit session self).2.1).1,
        (tunnelInit session self).2.2 ++
          (tunnelFini session.preDownScript (tunnelInit session self).2.1).2) := by
  unfold exec init
  dsimp only
  by_cases failed : (tunnelInit session self).1 < 0 ∨
      ∃ later ∈ laterSteps session, later < 0
  · rw [if_pos failed]
    rfl
  · rw [if_neg failed]
    rfl

/-- What the configuration of the tunnel does outside the process is no closing
and no taking down. -/
theorem configure_events {session : Session} {event : Event}
    (member : event ∈ (configure session).2) :
    ∃ script, event = .postUp script := by
  have nothing : event ∉ ([] : List Event) := List.not_mem_nil
  unfold configure at member
  split at member
  · exact absurd member nothing
  split at member
  · exact absurd member nothing
  split at member
  · exact absurd member nothing
  split at member
  · exact absurd member nothing
  · obtain ⟨script, _, rfl⟩ :=
      Option.map_eq_some_iff.mp (Option.mem_toList.mp member)
    exact ⟨script, rfl⟩

/-- A session that brings a descriptor opens none. -/
theorem tunnelInit_brought {session : Session} (self : TunnelFd)
    (brought : 0 ≤ session.externTunFd) :
    (tunnelInit session self).2 =
      if session.nonblock < 0 then (self, [])
      else ({ self with tunFd := session.externTunFd }, []) := by
  unfold tunnelInit
  rw [if_pos brought]
  split <;> rfl

theorem tunnelInit_failed {session : Session} (self : TunnelFd)
    (own : session.externTunFd < 0) (failed : session.tunnelOpen < 0) :
    (tunnelInit session self).2 =
      ({ tunFd := session.tunnelOpen, tunFdLocal := 1 }, []) := by
  unfold tunnelInit
  rw [if_neg (Int.not_le.mpr own)]
  exact congrArg Prod.snd (if_pos failed)

theorem tunnelInit_opened {session : Session} (self : TunnelFd)
    (own : session.externTunFd < 0) (opened : 0 ≤ session.tunnelOpen) :
    (tunnelInit session self).2 =
      ({ tunFd := session.tunnelOpen, tunFdLocal := 1 },
        .opened session.tunnelOpen :: (configure session).2) := by
  unfold tunnelInit
  rw [if_neg (Int.not_le.mpr own)]
  exact congrArg Prod.snd (if_neg (Int.not_lt.mpr opened))

/-- What is between two sessions: the mark without a descriptor, if at all. -/
def Between (self : TunnelFd) : Prop :=
  self.tunFdLocal ≠ 0 → self.tunFd < 0

theorem between_start : Between {} := fun marked => absurd rfl marked

theorem between_tunnelFini (preDownScript : Option (List UInt8))
    (self : TunnelFd) : (tunnelFini preDownScript self).1.Between := by
  intro marked
  unfold tunnelFini at marked ⊢
  split at marked
  case isTrue unmarked => exact absurd unmarked marked
  case isFalse noted =>
    rw [if_neg noted]
    dsimp only at marked ⊢
    split at marked
    case isTrue => exact absurd rfl marked
    case isFalse negative =>
      rw [if_neg negative]
      exact Int.not_le.mp negative

theorem between_exec (self : TunnelFd) (session : Session) :
    (self.exec session).1.Between := by
  rw [exec_eq]
  exact between_tunnelFini _ _

theorem tunnelFini_unmarked {preDownScript : Option (List UInt8)}
    {self : TunnelFd} (unmarked : self.tunFdLocal = 0) :
    (tunnelFini preDownScript self).2 = [] := by
  unfold tunnelFini
  rw [if_pos unmarked]

theorem tunnelFini_closed {preDownScript : Option (List UInt8)}
    {self : TunnelFd} (marked : self.tunFdLocal ≠ 0) (negative : self.tunFd < 0) :
    (tunnelFini preDownScript self).2 =
      (preDownScript.map Event.preDown).toList := by
  unfold tunnelFini
  rw [if_neg marked]
  exact congrArg Prod.snd (if_neg (Int.not_le.mpr negative))

theorem tunnelFini_open {preDownScript : Option (List UInt8)}
    {self : TunnelFd} (marked : self.tunFdLocal ≠ 0) (isOpen : 0 ≤ self.tunFd) :
    (tunnelFini preDownScript self).2 =
      (preDownScript.map Event.preDown).toList ++ [.close self.tunFd] := by
  unfold tunnelFini
  rw [if_neg marked]
  exact congrArg Prod.snd (if_pos isOpen)

theorem mem_scripts_iff {preDownScript : Option (List UInt8)} {event : Event} :
    event ∈ (preDownScript.map Event.preDown).toList ↔
      ∃ script, preDownScript = some script ∧ event = .preDown script := by
  rw [Option.mem_toList, Option.map_eq_some_iff]
  exact exists_congr fun script => and_congr_right fun _ => eq_comm

theorem owned_nothing (session : Session) : Owned session [] where
  closed _ := iff_of_false List.not_mem_nil List.not_mem_nil
  preDown _ := iff_of_false List.not_mem_nil
    fun opened => List.not_mem_nil opened.1.choose_spec
  foreign _ _ := List.not_mem_nil

/-- Where nothing was opened, the script is all that can be wrong. -/
theorem owned_script_iff {session : Session} :
    Owned session (session.preDownScript.map Event.preDown).toList ↔
      session.preDownScript = none := by
  constructor
  · intro owned
    apply Option.eq_none_iff_forall_ne_some.mpr
    intro script configured
    obtain ⟨⟨fd, opened⟩, _⟩ := (owned.preDown script).mp
      (mem_scripts_iff.mpr ⟨script, configured, rfl⟩)
    obtain ⟨_, _, ⟨⟩⟩ := mem_scripts_iff.mp opened
  · intro unconfigured
    rw [unconfigured]
    exact owned_nothing session

/-- A session that opens the tunnel takes it down. -/
theorem owned_opened {session : Session} (own : session.externTunFd < 0)
    (fd : Int) :
    Owned session ((.opened fd :: (configure session).2) ++
      ((session.preDownScript.map Event.preDown).toList ++ [.close fd])) := by
  have members (event : Event) (other : ∀ script, event ≠ .postUp script) :
      event ∈ (.opened fd :: (configure session).2) ++
        ((session.preDownScript.map Event.preDown).toList ++ [.close fd]) ↔
      event = .opened fd ∨
        (∃ script, session.preDownScript = some script ∧
          event = .preDown script) ∨ event = .close fd := by
    have configured : event ∉ (configure session).2 := by
      intro member
      obtain ⟨script, same⟩ := configure_events member
      exact other script same
    rw [List.mem_append, List.mem_cons, List.mem_append, mem_scripts_iff,
      List.mem_singleton]
    simp only [configured, or_false]
  constructor
  · intro other
    rw [members (.close other) nofun, members (.opened other) nofun]
    simp
  · intro script
    have opened : .opened fd ∈ (.opened fd :: (configure session).2) ++
        ((session.preDownScript.map Event.preDown).toList ++ [.close fd]) :=
      List.mem_cons_self
    rw [members (.preDown script) nofun, and_iff_right ⟨fd, opened⟩]
    simp
  · intro brought
    omega

/-- The session is in order exactly where it opens the tunnel or finds nothing
to take down. -/
theorem owned_exec_iff {self : TunnelFd} {session : Session}
    (between : self.Between) :
    Owned session (self.exec session).2 ↔ Kept self session := by
  unfold Kept
  rw [exec_eq]
  split
  case isTrue own =>
    by_cases opened : 0 ≤ session.tunnelOpen
    · rw [tunnelInit_opened self own opened,
        tunnelFini_open Int.one_ne_zero opened]
      exact iff_of_true (owned_opened own _) (.inl opened)
    · have failed := Int.not_le.mp opened
      rw [tunnelInit_failed self own failed,
        tunnelFini_closed Int.one_ne_zero failed]
      exact owned_script_iff.trans (or_iff_right opened).symm
  case isFalse brought =>
    rw [tunnelInit_brought self (Int.not_lt.mp brought)]
    by_cases refused : session.nonblock < 0
    · rw [if_pos refused]
      by_cases unmarked : self.tunFdLocal = 0
      · rw [tunnelFini_unmarked unmarked]
        exact iff_of_true (owned_nothing session) (.inl unmarked)
      · rw [tunnelFini_closed unmarked (between unmarked), List.nil_append,
          owned_script_iff, or_iff_right unmarked, and_iff_right refused]
    · rw [if_neg refused]
      by_cases unmarked : self.tunFdLocal = 0
      · have quiet : (tunnelFini session.preDownScript
            { self with tunFd := session.externTunFd }).2 = [] :=
          tunnelFini_unmarked unmarked
        rw [quiet]
        exact iff_of_true (owned_nothing session) (.inl unmarked)
      · have closes : (tunnelFini session.preDownScript
            { self with tunFd := session.externTunFd }).2 =
              (session.preDownScript.map Event.preDown).toList ++
                [.close session.externTunFd] :=
          tunnelFini_open unmarked (Int.not_lt.mp brought)
        rw [closes]
        apply iff_of_false
        · intro owned
          refine owned.foreign (Int.not_lt.mp brought) session.externTunFd ?_
          simp
        · rintro (absent | ⟨denied, _⟩)
          · exact unmarked absent
          · exact refused denied

/-! ## The sessions of a process -/

/-- Every session of a history begins between two sessions. -/
theorem between_of_mem_history {sessions : List Session} {step : Step} :
    ∀ {self : TunnelFd}, self.Between → step ∈ history self sessions →
      step.before.Between ∧
        step.events = (step.before.exec step.session).2 := by
  induction sessions with
  | nil =>
      intro self _ member
      cases member
  | cons session rest inductionHypothesis =>
      intro self between member
      rcases List.mem_cons.mp member with rfl | later
      · exact ⟨between, rfl⟩
      · exact inductionHypothesis (between_exec self session) later

/-- In every sequence of sessions of a process: all of them close what they have
opened and nothing else, and run the pre-down script where they have opened the
tunnel, if and only if each opens the tunnel or finds nothing to take down. -/
theorem owned_iff_kept (sessions : List Session) :
    (∀ step ∈ history {} sessions, Owned step.session step.events) ↔
      ∀ step ∈ history {} sessions, Kept step.before step.session := by
  refine forall₂_congr fun step member => ?_
  obtain ⟨between, events⟩ := between_of_mem_history between_start member
  rw [events]
  exact owned_exec_iff between

/-! ## The mark before a session -/

/-- The static variables that a sequence of sessions leaves. -/
def leaves (self : TunnelFd) (sessions : List Session) : TunnelFd :=
  sessions.foldl (fun self session => (self.exec session).1) self

/-- The session is to open the tunnel and fails. -/
def Session.Fails (session : Session) : Prop :=
  session.externTunFd < 0 ∧ session.tunnelOpen < 0

/-- The session brings a descriptor, and the `ioctl` refuses it. -/
def Session.Refused (session : Session) : Prop :=
  0 ≤ session.externTunFd ∧ session.nonblock < 0

/-- A session has failed to open the tunnel, and every descriptor that was
brought since was refused. -/
def LeavesMark (sessions : List Session) : Prop :=
  ∃ before failing after, sessions = before ++ failing :: after ∧
    failing.Fails ∧ ∀ later ∈ after, later.Refused

theorem leaves_append (self : TunnelFd) (earlier : List Session)
    (session : Session) :
    self.leaves (earlier ++ [session]) = ((self.leaves earlier).exec session).1 := by
  unfold leaves
  rw [List.foldl_append, List.foldl_cons, List.foldl_nil]

/-- A fini without a mark changes nothing. -/
theorem tunnelFini_keeps {preDownScript : Option (List UInt8)}
    {self : TunnelFd} (unmarked : self.tunFdLocal = 0) :
    (tunnelFini preDownScript self).1 = self := by
  unfold tunnelFini
  rw [if_pos unmarked]

/-- After a fini there is a mark where there was one and no descriptor. -/
theorem tunnelFini_marked_iff {preDownScript : Option (List UInt8)}
    {self : TunnelFd} :
    (tunnelFini preDownScript self).1.tunFdLocal ≠ 0 ↔
      self.tunFdLocal ≠ 0 ∧ self.tunFd < 0 := by
  by_cases unmarked : self.tunFdLocal = 0
  · rw [tunnelFini_keeps unmarked]
    exact (and_iff_left_of_imp fun marked => absurd unmarked marked).symm
  · unfold tunnelFini
    rw [if_neg unmarked, and_iff_right unmarked]
    dsimp only
    split
    case isTrue isOpen =>
      exact iff_of_false (fun marked => marked rfl) (Int.not_lt.mpr isOpen)
    case isFalse negative => exact iff_of_true unmarked (Int.not_le.mp negative)

/-- A session leaves the mark where it fails, or where it finds one and its
descriptor is refused. -/
theorem exec_marked_iff {self : TunnelFd} {session : Session}
    (between : self.Between) :
    (self.exec session).1.tunFdLocal ≠ 0 ↔
      session.Fails ∨ self.tunFdLocal ≠ 0 ∧ session.Refused := by
  rw [exec_eq, tunnelFini_marked_iff]
  unfold Session.Fails Session.Refused
  rcases Int.lt_or_le session.externTunFd 0 with own | brought
  · rw [and_iff_right own, iff_false_intro (Int.not_le.mpr own), false_and,
      and_false, or_false]
    rcases Int.lt_or_le session.tunnelOpen 0 with failed | opened
    · rw [tunnelInit_failed self own failed]
      exact and_iff_right Int.one_ne_zero
    · rw [tunnelInit_opened self own opened]
      exact and_iff_right Int.one_ne_zero
  · rw [iff_false_intro (Int.not_lt.mpr brought), false_and, false_or,
      and_iff_right brought, tunnelInit_brought self brought]
    split
    case isTrue refused =>
      rw [iff_true_intro refused, and_true]
      exact and_iff_left_of_imp between
    case isFalse accepted =>
      rw [iff_false_intro accepted, and_false]
      exact iff_false_intro fun marked => absurd marked.2 (Int.not_lt.mpr brought)

theorem between_leaves {self : TunnelFd} (between : self.Between)
    (sessions : List Session) : (self.leaves sessions).Between := by
  induction sessions using List.reverseRecOn with
  | nil => exact between
  | append_singleton earlier session _ =>
      rw [leaves_append]
      exact between_exec _ session

theorem not_leavesMark_nil : ¬LeavesMark [] := by
  rintro ⟨before, failing, after, split, _⟩
  have cons : before ++ failing :: after ≠ [] := by simp
  exact cons split.symm

/-- The last session decides, unless its descriptor is refused. -/
theorem leavesMark_append_iff {earlier : List Session} {session : Session} :
    LeavesMark (earlier ++ [session]) ↔
      session.Fails ∨ LeavesMark earlier ∧ session.Refused := by
  constructor
  · rintro ⟨before, failing, after, split, failed, refused⟩
    rcases List.eq_nil_or_concat after with rfl | ⟨after, last, rfl⟩
    · obtain ⟨_, same⟩ := List.append_inj' split rfl
      cases same
      exact .inl failed
    · rw [List.concat_eq_append, ← List.cons_append, ← List.append_assoc] at split
      obtain ⟨rfl, same⟩ := List.append_inj' split rfl
      cases same
      right
      constructor
      · refine ⟨before, failing, after, rfl, failed, fun later member => ?_⟩
        exact refused later (by simp [member])
      · exact refused session (by simp)
  · rintro (failed | ⟨⟨before, failing, after, rfl, failed, refused⟩, last⟩)
    · exact ⟨earlier, session, [], rfl, failed, by simp⟩
    · refine ⟨before, failing, after ++ [session], by simp, failed, ?_⟩
      intro later member
      rcases List.mem_append.mp member with member | member
      · exact refused later member
      · rwa [List.mem_singleton.mp member]

/-- The mark is left by an own session that failed, until a session opens the
tunnel or brings a descriptor that is accepted. -/
theorem leaves_marked_iff (sessions : List Session) :
    (leaves {} sessions).tunFdLocal ≠ 0 ↔ LeavesMark sessions := by
  induction sessions using List.reverseRecOn with
  | nil => exact iff_of_false (fun marked => marked rfl) not_leavesMark_nil
  | append_singleton earlier session inductionHypothesis =>
      rw [leaves_append, exec_marked_iff (between_leaves between_start earlier),
        inductionHypothesis, leavesMark_append_iff]

/-- A history holds every session beside what those before it leave. -/
theorem forall_mem_history_iff {holds : TunnelFd → Session → Prop}
    {sessions : List Session} : ∀ {self : TunnelFd},
      (∀ step ∈ history self sessions, holds step.before step.session) ↔
        ∀ earlier session later, sessions = earlier ++ session :: later →
          holds (self.leaves earlier) session := by
  induction sessions with
  | nil =>
      intro self
      refine iff_of_true (fun step member => absurd member List.not_mem_nil) ?_
      intro earlier session later split
      have cons : earlier ++ session :: later ≠ [] := by simp
      exact absurd split.symm cons
  | cons session rest inductionHypothesis =>
      intro self
      rw [history, List.forall_mem_cons, inductionHypothesis]
      constructor
      · rintro ⟨first, others⟩ earlier chosen later split
        cases earlier with
        | nil =>
            cases split
            exact first
        | cons _ earlier =>
            cases split
            exact others earlier chosen later rfl
      · intro all
        refine ⟨all [] session rest rfl, fun earlier chosen later split => ?_⟩
        exact all (session :: earlier) chosen later (by rw [split, List.cons_append])

/-- `Kept` read on the sessions alone. -/
def KeptAfter (earlier : List Session) (session : Session) : Prop :=
  if session.externTunFd < 0 then
    0 ≤ session.tunnelOpen ∨ session.preDownScript = none
  else ¬LeavesMark earlier ∨ session.nonblock < 0 ∧ session.preDownScript = none

/-- The static variables before a session stand for the sessions before it: a
descriptor of the caller is safe where the last session that opened the tunnel,
failed to or brought an accepted descriptor is not one that failed. -/
theorem kept_iff_sessions (sessions : List Session) :
    (∀ step ∈ history {} sessions, Kept step.before step.session) ↔
      ∀ earlier session later, sessions = earlier ++ session :: later →
        KeptAfter earlier session := by
  rw [forall_mem_history_iff]
  refine forall₄_congr fun earlier session _ _ => ?_
  unfold Kept KeptAfter
  rw [← leaves_marked_iff, not_ne_iff]

/-- A session in which the tunnel is not opened, and a session that then brings
the descriptor 5: its fini closes it. -/
theorem closes_descriptor_of_caller :
    ¬∀ sessions, ∀ step ∈ history {} sessions,
      Owned step.session step.events := by
  let failing : Session :=
    { externTunFd := -1, nonblock := 0, tunnelOpen := -1, setMtu := 0
      setIpv4 := none, setIpv6 := none, setState := 0, postUpScript := none
      preDownScript := none, gatewayInit := 0, eventTaskInit := 0
      lwipIoTaskInit := 0, lwipTimerTaskInit := 0, mappedDnsInit := 0 }
  let bringing : Session := { failing with externTunFd := 5 }
  have second : ⟨{ tunFd := -1, tunFdLocal := 1 }, bringing, [.close 5]⟩ ∈
      history {} [failing, bringing] :=
    List.mem_cons_of_mem _ List.mem_cons_self
  intro owned
  exact (owned _ _ second).foreign (by decide) 5 List.mem_cons_self

end TunnelFd

end ProxyVPN
