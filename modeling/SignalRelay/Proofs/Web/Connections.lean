import SignalRelay.Proofs.Web.Flushing

/-!
# Connections

What happens at a gateway is one request to the server at a time, with sockets that are opened and closed
to match, and then nothing is left to be done.

* `Event` is what can happen at a gateway, and `accepted` are the connections that come of the handshakes.
* `Settled` is the state of a gateway that runs and has nothing left to do.
* `Step` says how one request leads from one such state to the next: `step_apply` and `Step.settled`.
-/

namespace SignalRelay

namespace Gateway

/-- Something that happens at a gateway. -/
inductive Event
  | connect (surface : Role) (target : String)
  | receive (c : ConnectionId) (frame : Inbound)
  | ping (c : ConnectionId) (octets : List UInt8)
  | closeByClient (c : ConnectionId)
  | abort (c : ConnectionId)
  | advance (milliseconds : Nat)
  | shutdown
  deriving DecidableEq

/-- What becomes of a gateway; nothing, if the event is impossible. -/
def apply (g : Gateway) : Event → Gateway
  | .connect surface target => (g.connect surface target).1
  | .receive c frame => (g.receive c frame).toOption.getD g
  | .ping c octets => (g.ping c octets).toOption.getD g
  | .closeByClient c => (g.closeByClient c).toOption.getD g
  | .abort c => g.abort c
  | .advance milliseconds => g.advance milliseconds
  | .shutdown => g.shutdown.toOption.getD g

def run (g : Gateway) (events : List Event) : Gateway := events.foldl apply g

/-- The connection that comes of an event, and the surface that it is on. -/
def accepted? (g : Gateway) : Event → Option (ConnectionId × Role)
  | .connect surface target => (g.connect surface target).2.toOption.map fun c => (c, surface)
  | _ => none

/-- The connections that come of what happens, in order, and their surfaces. -/
def accepted (g : Gateway) : List Event → List (ConnectionId × Role)
  | [] => []
  | e :: events => (g.accepted? e).toList ++ (g.apply e).accepted events

/-- The connection that its client ends: with a close frame, by going away, or with a ping that
carries too much. -/
def Event.leaver? : Event → Option ConnectionId
  | .ping c octets => if Socket.maxControl < octets.length then some c else none
  | .closeByClient c | .abort c => some c
  | _ => none

/-- What an event at a gateway means to the server, unless it is shut down. -/
def Event.request (g : Gateway) : Event → Request
  | .connect surface target =>
    match admission surface target with
    | .ok offerToReceive => .accept ⟨g.nextConnection⟩ surface offerToReceive
    | .error _ => .overview
  | .receive c frame => if (g.liveSocket? c).isSome then .frame c frame else .overview
  | .ping c octets =>
    if (g.liveSocket? c).isSome ∧ Socket.maxControl < octets.length then .close c else .overview
  | .closeByClient c | .abort c => if (g.liveSocket? c).isSome then .close c else .overview
  | .advance milliseconds => .advance milliseconds
  | .shutdown => .overview

/-- A gateway whose server runs, and where nothing is left to be done. -/
structure Settled (g : Gateway) : Prop where
  running : g.server.running = true
  onTime : g.server.relay.OnTime
  final : ∀ c, g.server.relay.Final c
  connected : ∀ c, (g.server.relay.outbox c).connected = true
  unused : ∀ c, g.nextConnection ≤ c.value → g.server.relay.Unused c ∧ g.sockets.get? c = none
  live_iff : ∀ c, (g.liveSocket? c).isSome ↔ (g.server.relay.session? c).isSome
  written : ∀ {c socket}, g.liveSocket? c = some socket →
    socket.written = (g.server.relay.outbox c).frames.length

/-- The gateway `g'` is `g` after the server has served a request and everything has been written. -/
structure Step (g : Gateway) (q : Request) (g' : Gateway) : Prop where
  server : g'.server = g.server.serve q
  nextConnection : g'.nextConnection = g.nextConnection + q.opened?.toList.length
  known : ∀ c, (g'.sockets.get? c).isSome ↔ (g.sockets.get? c).isSome ∨ q.opened? = some c
  live_iff : ∀ c, (g'.liveSocket? c).isSome ↔
    (q.opened? = some c ∨ (g.liveSocket? c).isSome ∧ q ≠ .close c) ∧ g'.server.relay.dismissed c = false
  written : ∀ {c socket}, g'.liveSocket? c = some socket →
    socket.written = (g'.server.relay.outbox c).frames.length

section
variable {g g' : Gateway} {q : Request} {e : Event} {c : ConnectionId}

/-! ### Numbers -/

theorem connect_snd (g : Gateway) (surface : Role) (target : String) :
    (g.connect surface target).2 = (admission surface target).map fun _ => ⟨g.nextConnection⟩ := by
  unfold connect
  cases admission surface target with
  | error refusal => rfl
  | ok offerToReceive =>
    simp only
    split <;> rfl

/-- A connection comes of a request to accept it. -/
theorem accepted?_eq_some_iff {surface : Role} :
    g.accepted? e = some (c, surface) ↔ ∃ offerToReceive, e.request g = .accept c surface offerToReceive := by
  cases e with
  | connect surface' target =>
    simp only [accepted?, connect_snd, Event.request]
    cases admission surface' target with
    | error refusal => simp [Except.map, Except.toOption]
    | ok offerToReceive => simp [Except.map, Except.toOption, and_comm, eq_comm]
  | receive _ _ | ping _ _ | closeByClient _ | abort _ =>
    simp only [accepted?, Event.request]
    split <;> simp
  | advance _ | shutdown => simp [accepted?, Event.request]

private theorem nextConnection_finish (g : Gateway) (c : ConnectionId) (arrivals : List Arrival) :
    (g.finish c arrivals).nextConnection = g.nextConnection := by
  rw [finish, closeSession_eq]
  rfl

private theorem nextConnection_flush (g : Gateway) : g.flush.nextConnection = g.nextConnection := by
  unfold flush
  generalize g.sockets.keys = keys
  induction keys generalizing g with
  | nil => rfl
  | cons c keys ih =>
    refine (ih (g.flushSocket c)).trans ?_
    unfold flushSocket
    split
    · rfl
    · dsimp only
      split
      · exact nextConnection_finish g c _
      · rfl

/-- Nothing but a handshake takes a number. -/
private theorem nextConnection_of_other (he : ∀ surface target, e ≠ .connect surface target) :
    (g.apply e).nextConnection = g.nextConnection := by
  cases e with
  | connect surface target => exact absurd rfl (he surface target)
  | receive c frame =>
    simp only [apply, receive]
    split
    · rfl
    · split
      · exact (nextConnection_finish _ c _).trans (nextConnection_flush _)
      · exact nextConnection_flush _
  | ping c octets =>
    simp only [apply, ping]
    split
    · rfl
    · split
      · exact (nextConnection_flush _).trans (nextConnection_finish g c _)
      · rfl
  | closeByClient c =>
    simp only [apply, closeByClient]
    split
    · rfl
    · exact (nextConnection_flush _).trans (nextConnection_finish g c _)
  | abort c =>
    simp only [apply, abort]
    split
    · rfl
    · exact (nextConnection_flush _).trans (nextConnection_finish g c _)
  | advance milliseconds => exact nextConnection_flush _
  | shutdown =>
    simp only [apply, shutdown]
    split
    · exact nextConnection_flush _
    · rfl

/-- Every connection that is accepted gets the next number. -/
theorem nextConnection_apply (g : Gateway) (e : Event) :
    (g.apply e).nextConnection = g.nextConnection + (g.accepted? e).toList.length ∧
      ∀ x ∈ g.accepted? e, x.1.value = g.nextConnection := by
  cases e with
  | connect surface target =>
    simp only [apply, accepted?, connect_snd]
    unfold connect
    cases admission surface target with
    | error refusal => simp [Except.map, Except.toOption]
    | ok offerToReceive =>
      dsimp only
      refine ⟨?_, by simp [Except.map, Except.toOption]⟩
      split
      · exact nextConnection_flush _
      · exact nextConnection_finish _ _ _
  | _ =>
    refine ⟨?_, fun x hx => by cases hx⟩
    exact nextConnection_of_other fun _ _ he => by cases he

/-- No two handshakes get the same connection. -/
theorem accepted_numbered (g : Gateway) (events : List Event) :
    g.nextConnection ≤ (g.run events).nextConnection ∧
      (∀ x ∈ g.accepted events, g.nextConnection ≤ x.1.value ∧ x.1.value < (g.run events).nextConnection) ∧
      ((g.accepted events).map Prod.fst).Nodup := by
  induction events generalizing g with
  | nil => exact ⟨Nat.le_refl _, by simp [accepted], by simp [accepted]⟩
  | cons e events ih =>
    obtain ⟨hle, hlater, hnodup⟩ := ih (g.apply e)
    obtain ⟨hnext, hnumber⟩ := nextConnection_apply g e
    have hrun : g.run (e :: events) = (g.apply e).run events := rfl
    rw [hrun, accepted]
    cases haccepted : g.accepted? e with
    | none =>
      rw [haccepted] at hnext
      have hnext : (g.apply e).nextConnection = g.nextConnection := hnext
      rw [hnext] at hle hlater
      exact ⟨hle, by simpa using hlater, by simpa using hnodup⟩
    | some x =>
      rw [haccepted] at hnext
      have hnext : (g.apply e).nextConnection = g.nextConnection + 1 := hnext
      have hx : x.1.value = g.nextConnection := hnumber x haccepted
      rw [hnext] at hle hlater
      refine ⟨by omega, fun y hy => ?_, ?_⟩
      · rcases List.mem_cons.1 hy with rfl | hy
        · omega
        · have := hlater y hy
          omega
      · refine List.nodup_cons.2 ⟨fun hmem => ?_, hnodup⟩
        obtain ⟨y, hy, hxy⟩ := List.mem_map.1 hmem
        have := hlater y hy
        rw [hxy] at this
        omega

/-- The next number has not been given yet. -/
theorem next_notMem_accepted (g : Gateway) (events : List Event) :
    ⟨(g.run events).nextConnection⟩ ∉ (g.accepted events).map Prod.fst := by
  intro hmem
  obtain ⟨x, hx, hnumber⟩ := List.mem_map.1 hmem
  have hlt := ((accepted_numbered g events).2.1 x hx).2
  rw [hnumber] at hlt
  exact Nat.lt_irrefl _ hlt

theorem accepted_append (g : Gateway) (events events' : List Event) :
    g.accepted (events ++ events') = g.accepted events ++ (g.run events).accepted events' := by
  induction events generalizing g with
  | nil => rfl
  | cons e events ih =>
    rw [List.cons_append, accepted, accepted, ih, List.append_assoc]
    rfl

/-! ### One request -/

/-- A live connection has not been queued a close. -/
theorem Settled.not_dismissed (h : g.Settled) (hc : (g.liveSocket? c).isSome) :
    g.server.relay.dismissed c = false := by
  by_contra hdismissed
  have hlive := (h.live_iff c).1 hc
  rw [(h.final c).dead (by simpa using hdismissed)] at hlive
  cases hlive

/-- A request that a gateway makes opens a session for the next connection, if at all. -/
structure Makes (g : Gateway) (q : Request) : Prop where
  opened : ∀ c, q.opened? = some c → c = ⟨g.nextConnection⟩
  stays : ∀ c, q ≠ .abandon c

theorem makes_request (g : Gateway) (e : Event) : Makes g (e.request g) := by
  cases e with
  | connect surface target =>
    simp only [Event.request]
    cases admission surface target with
    | error refusal => exact ⟨nofun, nofun⟩
    | ok offerToReceive => exact ⟨fun c hc => (Option.some.inj hc).symm, nofun⟩
  | receive _ _ | ping _ _ | closeByClient _ | abort _ =>
    simp only [Event.request]
    split <;> exact ⟨nofun, nofun⟩
  | advance _ | shutdown => exact ⟨nofun, nofun⟩

/-- What a request finds at the server, and what it leaves. -/
private theorem Settled.serve (h : g.Settled) (hq : Makes g q) :
    (∀ op ∈ q.operation?, op.Proper g.server.relay) ∧ (g.server.serve q).running = true ∧
      (g.server.serve q).relay.OnTime ∧ (∀ c, (g.server.serve q).relay.Final c) ∧
      Relay.Partings q.own? g.server.relay (g.server.serve q).relay := by
  have hunused : ∀ c, q.opened? = some c → g.server.relay.Unused c := by
    intro c hc
    exact (h.unused c (by rw [hq.opened c hc])).1
  have hproper := Server.proper_of_unused hunused
  exact ⟨hproper, Server.running_serve h.running q, Server.onTime_serve h.running h.onTime hproper,
    fun c => Server.final_serve h.running h.onTime.sound hproper (h.final c) (hunused c),
    Server.partings_serve h.running h.onTime.sound hproper hq.stays⟩

private theorem exists_accept (hq : q.opened? = some c) :
    ∃ role offerToReceive, q = .accept c role offerToReceive := by
  cases q with
  | accept c' role offerToReceive =>
    obtain rfl : c' = c := Option.some.inj hq
    exact ⟨role, offerToReceive, rfl⟩
  | _ => cases hq

/-- Others than the connection that is accepted or closed are not left out. -/
private theorem own?_ne (hopened : q.opened? ≠ some c) (hclose : q ≠ .close c) : q.own? ≠ some c := by
  intro hown
  cases q with
  | accept c' role offerToReceive => exact hopened hown
  | close c' => exact hclose (congrArg Request.close (Option.some.inj hown))
  | _ => cases hown

/-- A connection that is accepted has a session of its role, or has been queued a close. -/
private theorem Settled.role?_accept (h : g.Settled) {role : Role} {offerToReceive : Bool}
    (hq : Makes g (.accept c role offerToReceive)) :
    (g.server.serve (.accept c role offerToReceive)).relay.role? c = some role ∨
      (g.server.serve (.accept c role offerToReceive)).relay.dismissed c = true := by
  have hunused := (h.unused c (by rw [hq.opened c rfl])).1
  exact Server.role?_serve_accept h.running h.onTime.sound hunused.dead (h.connected c) role offerToReceive

section
variable (hstep : Step g q g') (h : g.Settled) (hq : Makes g q)
include hstep h hq

/-- Sessions come of accepted connections, and go when they are closed. -/
theorem Step.role? {role : Role} (hrole : g'.server.relay.role? c = some role) :
    (∃ offerToReceive, q = .accept c role offerToReceive) ∨ g.server.relay.role? c = some role ∧
      q ≠ .close c := by
  obtain ⟨-, -, -, hfinal, hpartings⟩ := h.serve hq
  rw [hstep.server] at hrole
  have hlive := Relay.isSome_session?_iff_role?.2 ⟨role, hrole⟩
  by_cases hopened : q.opened? = some c
  · left
    obtain ⟨role', offerToReceive, rfl⟩ := exists_accept hopened
    rcases h.role?_accept hq with hrole' | hdismissed
    · obtain rfl := Option.some.inj (hrole'.symm.trans hrole)
      exact ⟨offerToReceive, rfl⟩
    · rw [(hfinal c).dead hdismissed] at hlive
      cases hlive
  · right
    have hne : q ≠ .close c := by
      rintro rfl
      rw [Server.session?_serve_close h.running h.onTime.sound] at hlive
      cases hlive
    exact ⟨hpartings.role (own?_ne hopened hne) hrole, hne⟩

/-- A close that has been queued stays so. -/
theorem Step.dismissed (hc : g.server.relay.dismissed c = true) : g'.server.relay.dismissed c = true := by
  obtain ⟨-, -, -, -, hpartings⟩ := h.serve hq
  rw [hstep.server]
  exact Relay.dismissed_of_prefix (hpartings.queue c) hc

private theorem Step.unused (hc : g'.nextConnection ≤ c.value) :
    g'.server.relay.Unused c ∧ g'.sockets.get? c = none := by
  rw [hstep.nextConnection] at hc
  obtain ⟨hunused, hsocket⟩ := h.unused c (by omega)
  have hne : q.opened? ≠ some c := by
    intro hopened
    have hnumber := hq.opened c hopened
    rw [hopened, hnumber, Option.toList_some, List.length_singleton] at hc
    exact absurd hc (Nat.not_succ_le_self _)
  constructor
  · rw [hstep.server]
    exact Server.unused_serve h.running h.onTime.sound (h.serve hq).1 hunused hne
  · have hknown := hstep.known c
    rw [hsocket] at hknown
    simpa [hne] using hknown

/-- The sockets that are open are those of the sessions. -/
private theorem Step.live_iff_session : (g'.liveSocket? c).isSome ↔ (g'.server.relay.session? c).isSome := by
  obtain ⟨-, -, -, hfinal, hpartings⟩ := h.serve hq
  rw [← hstep.server] at hfinal hpartings
  rw [hstep.live_iff]
  constructor
  · rintro ⟨hcase, hdismissed⟩
    rw [Bool.eq_false_iff] at hdismissed
    by_cases hopened : q.opened? = some c
    · obtain ⟨role, offerToReceive, rfl⟩ := exists_accept hopened
      have hrole := h.role?_accept hq
      rw [← hstep.server] at hrole
      exact Relay.isSome_session?_iff_role?.2 ⟨role, hrole.resolve_right hdismissed⟩
    · obtain ⟨hlive, hne⟩ := hcase.resolve_left hopened
      by_contra hgone
      exact hdismissed (hpartings.told (own?_ne hopened hne) (h.connected c) ((h.live_iff c).1 hlive)
        (by simpa using hgone))
  · intro hlive
    refine ⟨?_, Bool.eq_false_iff.2 fun hdismissed => ?_⟩
    · obtain ⟨role, hrole⟩ := Relay.isSome_session?_iff_role?.1 hlive
      rcases hstep.role? h hq hrole with ⟨offerToReceive, rfl⟩ | ⟨hbefore, hne⟩
      · exact .inl rfl
      · exact .inr ⟨(h.live_iff c).2 (Relay.isSome_session?_iff_role?.2 ⟨role, hbefore⟩), hne⟩
    · rw [(hfinal c).dead hdismissed] at hlive
      cases hlive

/-- What is settled stays so from one event to the next. -/
theorem Step.settled : g'.Settled := by
  obtain ⟨-, hrunning, honTime, hfinal, hpartings⟩ := h.serve hq
  rw [← hstep.server] at hrunning honTime hfinal hpartings
  exact ⟨hrunning, honTime, hfinal, fun c => (hpartings.connected c).trans (h.connected c),
    fun _ hc => hstep.unused h hq hc, fun _ => hstep.live_iff_session h hq, hstep.written⟩

end

/-- A connection that was accepted or open, and is not left by its client, has been queued a close
if it is gone. -/
theorem Step.dismissed_of_gone (hstep : Step g q g') (hgone : g'.liveSocket? c = none)
    (hcase : q.opened? = some c ∨ (g.liveSocket? c).isSome ∧ q ≠ .close c) :
    g'.server.relay.dismissed c = true := by
  by_contra hdismissed
  have hlive := (hstep.live_iff c).2 ⟨hcase, by simpa using hdismissed⟩
  rw [hgone] at hlive
  cases hlive

/-! ### One event -/

/-- Only what its client does closes a connection. -/
theorem request_eq_close_iff : e.request g = .close c ↔ e.leaver? = some c ∧ (g.liveSocket? c).isSome := by
  have hclosed : ∀ c', (if (g.liveSocket? c').isSome then Request.close c' else .overview) = .close c ↔
      some c' = some c ∧ (g.liveSocket? c).isSome := by
    intro c'
    by_cases hc : c' = c
    · simp [hc, Option.isSome_iff_ne_none]
    · split <;> simp [hc]
  cases e with
  | connect surface target =>
    simp only [Event.request, Event.leaver?]
    cases admission surface target <;> simp
  | receive c' frame =>
    simp only [Event.request, Event.leaver?]
    split <;> simp
  | ping c' octets =>
    simp only [Event.request, Event.leaver?]
    by_cases hlong : Socket.maxControl < octets.length
    · simpa [hlong] using hclosed c'
    · simp [hlong]
  | closeByClient c' | abort c' => exact hclosed c'
  | advance _ | shutdown => simp [Event.request, Event.leaver?]

/-- Writing what a request has queued completes the step. -/
theorem step_flush (h : g.Settled) (hq : Makes g q) (hserver : g'.server = g.server.serve q)
    (hnext : g'.nextConnection = g.nextConnection + q.opened?.toList.length)
    (hknown : ∀ c, (g'.sockets.get? c).isSome ↔ (g.sockets.get? c).isSome ∨ q.opened? = some c)
    (hlive : ∀ c, (g'.liveSocket? c).isSome ↔ q.opened? = some c ∨ (g.liveSocket? c).isSome ∧ q ≠ .close c)
    (hwritten : ∀ {c socket}, g'.liveSocket? c = some socket → socket.written = 0 ∨
      (g.liveSocket? c).isSome ∧ socket.written = (g.server.relay.outbox c).frames.length) :
    Step g q g'.flush := by
  obtain ⟨-, hrunning, honTime, hfinal, hpartings⟩ := h.serve hq
  rw [← hserver] at hrunning honTime hfinal hpartings
  have hidle : g'.server.Idle := Server.idle_of_onTime hrunning honTime hfinal
  obtain ⟨hfserver, hfnext, hsocket⟩ := flush_spec hidle
  -- what was written before did not have a close in it
  have hunwritten : ∀ {c socket}, g'.liveSocket? c = some socket →
      ((g'.server.relay.outbox c).frames.drop socket.written).any Outbound.isClose =
        g'.server.relay.dismissed c := by
    intro c socket hs
    rcases hwritten hs with hzero | ⟨hbefore, hlength⟩
    · rw [hzero]
      rfl
    · obtain ⟨new, hnew⟩ := hpartings.queue c
      have hclean := h.not_dismissed hbefore
      rw [Relay.dismissed] at hclean ⊢
      rw [hlength, ← hnew, List.drop_left, List.any_append, hclean, Bool.false_or]
  have hflushed : ∀ c, g'.flush.liveSocket? c = (g'.liveSocket? c).bind fun socket =>
      if g'.server.relay.dismissed c then none
        else some (socket.flushed (g'.server.relay.outbox c).frames) := by
    intro c
    rw [liveSocket?_flush hidle]
    cases hs : g'.liveSocket? c with
    | none => rfl
    | some socket => rw [Option.bind_some, Option.bind_some, hunwritten hs]
  refine ⟨hfserver.trans hserver, hfnext.trans hnext, fun c => ?_, fun c => ?_, fun {c socket} hs => ?_⟩
  · rw [hsocket, Option.isSome_map, hknown]
  · rw [hflushed, hfserver, ← hlive]
    cases g'.liveSocket? c with
    | none => simp
    | some socket => cases g'.server.relay.dismissed c <;> simp
  · rw [hfserver]
    have hslive := (liveSocket?_eq_some_iff.1 hs).2
    rw [hflushed] at hs
    obtain ⟨before, -, hs⟩ := Option.bind_eq_some_iff.1 hs
    split at hs
    · cases hs
    · obtain rfl := Option.some.inj hs
      exact Socket.written_flushed hslive

/-- Without anything new, sockets may only receive. -/
private theorem step_overview (h : g.Settled) (hserver : g'.server = g.server)
    (hnext : g'.nextConnection = g.nextConnection)
    (hsocket : ∀ c, ∃ f : Socket → Socket,
    (∀ socket, (f socket).live = socket.live ∧ (f socket).written = socket.written) ∧
      g'.sockets.get? c = (g.sockets.get? c).map f) : Step g .overview g' := by
  have hlive : ∀ c, ∃ f : Socket → Socket, (∀ socket, (f socket).written = socket.written) ∧
      g'.liveSocket? c = (g.liveSocket? c).map f := by
    intro c
    obtain ⟨f, hf, hfc⟩ := hsocket c
    refine ⟨f, fun socket => (hf socket).2, ?_⟩
    rw [liveSocket?, hfc, liveSocket?]
    cases g.sockets.get? c with
    | none => rfl
    | some socket => cases hsl : socket.live <;> simp [Option.filter, (hf socket).1, hsl]
  refine ⟨hserver, hnext, fun c => ?_, fun c => ?_, fun {c socket} hs => ?_⟩
  · obtain ⟨f, -, hfc⟩ := hsocket c
    simp [hfc, Request.opened?, Request.operation?]
  · obtain ⟨f, -, hfc⟩ := hlive c
    rw [hserver, hfc, Option.isSome_map]
    constructor
    · intro hc
      exact ⟨.inr ⟨hc, fun he => by cases he⟩, h.not_dismissed hc⟩
    · rintro ⟨hopened | ⟨hc, -⟩, -⟩
      · cases hopened
      · exact hc
  · obtain ⟨f, hf, hfc⟩ := hlive c
    rw [hfc] at hs
    obtain ⟨before, hbefore, rfl⟩ := Option.map_eq_some_iff.1 hs
    rw [hserver, hf]
    exact h.written hbefore

private theorem step_refl (h : g.Settled) : Step g .overview g :=
  step_overview h rfl rfl fun _ => ⟨id, fun _ => ⟨rfl, rfl⟩, by simp⟩

theorem server_finish (g : Gateway) (c : ConnectionId) (arrivals : List Arrival) :
    (g.finish c arrivals).server = g.server.serve (.close c) := by
  rw [finish, closeSession_eq]
  rfl

theorem liveSocket?_finish (g : Gateway) (c d : ConnectionId) (arrivals : List Arrival) :
    (g.finish c arrivals).liveSocket? d = if d = c then none else g.liveSocket? d := by
  rw [finish, closeSession_eq, liveSocket?, liveSocket?]
  simp only [get?_adjustSocket]
  split
  · cases g.sockets.get? d <;> simp
  · rfl

/-- Whoever ends a connection closes it at the server. -/
private theorem step_finish (h : g.Settled) (arrivals : List Arrival) (hq : Makes g (.close c)) :
    Step g (.close c) (g.finish c arrivals).flush := by
  refine step_flush h hq (server_finish g c arrivals) (nextConnection_finish g c arrivals) (fun d => ?_)
    (fun d => ?_) fun {d socket} hs => ?_
  · rw [finish, closeSession_eq]
    simp only [get?_adjustSocket]
    split <;> simp [Request.opened?, Request.operation?, Operation.opened?]
  · rw [liveSocket?_finish]
    by_cases hd : d = c
    · simp [hd, Request.opened?, Request.operation?, Operation.opened?]
    · simp [hd, Ne.symm hd, Request.opened?, Request.operation?, Operation.opened?]
  · rw [liveSocket?_finish] at hs
    split at hs
    · cases hs
    · exact .inr ⟨by rw [hs]; rfl, h.written hs⟩

/-- A request that neither accepts nor closes a connection leaves the sockets alone. -/
private theorem step_serve (h : g.Settled) (hq : Makes g q) (hown : q.own? = none) :
    Step g q { g with server := g.server.serve q }.flush := by
  have hopened : ∀ c, q.opened? ≠ some c := by
    intro c hc
    obtain ⟨role, offerToReceive, rfl⟩ := exists_accept hc
    cases hown
  have hclose : ∀ c, q ≠ .close c := by
    rintro c rfl
    cases hown
  refine step_flush h hq rfl ?_ (fun c => ?_) (fun c => ?_) fun {c socket} hs => .inr ⟨?_, h.written hs⟩
  · rw [Option.eq_none_iff_forall_ne_some.2 hopened]
    rfl
  · simp [hopened c]
  · refine ⟨fun hc => .inr ⟨hc, hclose c⟩, fun hc => ?_⟩
    exact (hc.resolve_left (hopened c)).1
  · exact Option.isSome_iff_exists.2 ⟨socket, hs⟩

/-- A handshake that is accepted opens one socket, and nothing has been written to it before. -/
private theorem step_accept (h : g.Settled) {surface : Role} {offerToReceive : Bool}
    (hq : Makes g (.accept ⟨g.nextConnection⟩ surface offerToReceive)) :
    Step g (.accept ⟨g.nextConnection⟩ surface offerToReceive)
      { g with
        nextConnection := g.nextConnection + 1
        sockets := g.sockets.set ⟨g.nextConnection⟩ ⟨true, 0, []⟩
        server := g.server.serve (.accept ⟨g.nextConnection⟩ surface offerToReceive) }.flush := by
  have hopened : Request.opened? (.accept ⟨g.nextConnection⟩ surface offerToReceive) =
      some ⟨g.nextConnection⟩ := rfl
  refine step_flush h hq rfl rfl (fun c => ?_) (fun c => ?_) fun {c socket} hs => ?_
  · rw [Table.get?_set, hopened]
    by_cases hc : c = ⟨g.nextConnection⟩
    · simp [hc]
    · simp [hc, Ne.symm hc]
  · rw [liveSocket?, Table.get?_set, hopened]
    by_cases hc : c = ⟨g.nextConnection⟩
    · simp [hc]
    · simp [hc, Ne.symm hc, liveSocket?]
  · rw [liveSocket?_eq_some_iff] at hs
    dsimp only at hs
    rw [Table.get?_set] at hs
    split at hs
    · obtain rfl := Option.some.inj hs.1
      exact .inl rfl
    · have hbefore : g.liveSocket? c = some socket := liveSocket?_eq_some_iff.2 hs
      exact .inr ⟨by rw [hbefore]; rfl, h.written hbefore⟩

/-- A server that runs takes every frame. -/
private theorem receive_ne_error (h : g.Settled) (c : ConnectionId) (frame : Inbound) (m : Signal)
    (error : CommandError) :
    (g.server.receive c frame).2 ≠ some (m, .error error) := by
  simp only [Server.receive, Server.handle, Server.perform, h.running]
  cases (g.server.relay.outbox c).receive frame with
  | mk box m => cases m <;> simp

private theorem step_receive (h : g.Settled) {frame : Inbound} {socket : Socket}
    (hlive : g.liveSocket? c = some socket) (hq : Makes g (.frame c frame)) :
    Step g (.frame c frame) (g.apply (.receive c frame)) := by
  have hstep : Step g (.frame c frame) { g with server := (g.server.receive c frame).1 }.flush :=
    step_serve h hq rfl
  have hok := receive_ne_error h c frame
  simp only [apply, receive, hlive]
  generalize g.server.receive c frame = answer at hstep hok ⊢
  obtain ⟨server, result⟩ := answer
  cases result with
  | none => exact hstep
  | some answer =>
    obtain ⟨m, _ | _⟩ := answer
    · exact absurd rfl (hok _ _)
    · exact hstep

/-- A ping that is answered does not concern the server. -/
private theorem step_pong (h : g.Settled) (c : ConnectionId) (octets : List UInt8) : Step g .overview
    (g.adjustSocket c fun socket => { socket with arrivals := socket.arrivals ++ [.pong octets] }) := by
  refine step_overview h rfl rfl fun d => ?_
  simp only [get?_adjustSocket]
  split
  · exact ⟨fun socket => { socket with arrivals := socket.arrivals ++ [.pong octets] },
      fun _ => ⟨rfl, rfl⟩, rfl⟩
  · exact ⟨id, fun _ => ⟨rfl, rfl⟩, by simp⟩

/-- What happens at a settled gateway is one request to its server. -/
theorem step_apply (h : g.Settled) (he : e ≠ .shutdown) : Step g (e.request g) (g.apply e) := by
  have hq := makes_request g e
  cases e with
  | connect surface target =>
    simp only [Event.request, apply, connect] at hq ⊢
    cases hadmission : admission surface target with
    | error refusal => exact step_refl h
    | ok offerToReceive =>
      rw [hadmission] at hq
      have haccept : g.server.accept ⟨g.nextConnection⟩ surface offerToReceive =
          .ok (g.server.serve (.accept ⟨g.nextConnection⟩ surface offerToReceive)) := by
        simp [Server.serve, Server.accept, Server.perform, h.running, Except.toOption]
      dsimp only
      rw [haccept]
      exact step_accept h hq
  | receive c frame =>
    cases hlive : g.liveSocket? c with
    | none =>
      simp only [Event.request, apply, receive, hlive]
      exact step_refl h
    | some socket =>
      simp only [Event.request, hlive] at hq ⊢
      exact step_receive h hlive hq
  | ping c octets =>
    simp only [Event.request, apply, ping] at hq ⊢
    cases hlive : g.liveSocket? c with
    | none =>
      rw [if_neg (fun hc => by cases hc.1)]
      exact step_refl h
    | some socket =>
      by_cases hlong : Socket.maxControl < octets.length
      · rw [if_pos ⟨rfl, hlong⟩, if_pos hlong]
        exact step_finish h _ (by simpa [hlive, hlong] using hq)
      · rw [if_neg (fun hc => hlong hc.2), if_neg hlong]
        exact step_pong h c octets
  | closeByClient c =>
    simp only [Event.request, apply, closeByClient] at hq ⊢
    cases hlive : g.liveSocket? c with
    | none => exact step_refl h
    | some socket => exact step_finish h _ (by simpa [hlive] using hq)
  | abort c =>
    simp only [Event.request, apply, abort] at hq ⊢
    cases hlive : g.liveSocket? c with
    | none => exact step_refl h
    | some socket => exact step_finish h _ (by simpa [hlive] using hq)
  | advance milliseconds => exact step_serve h hq rfl
  | shutdown => exact absurd rfl he

end

end Gateway

end SignalRelay
