import Mathlib.Data.List.Induction
import SignalRelay.Proofs.Server.Shutdown
import SignalRelay.Proofs.Web.Connections

/-!
# Sessions

The gateway and the server behind it agree on who is there.  Whenever nothing is left to be done, the live
sessions are those of the connections that were accepted and have not ended, whichever side has ended the
others, and in whatever way.

* `Ended` says when a connection has ended.
* `Current` compares a gateway that runs with all that has happened, and `Stopped` is one that has been
  shut down.
* `sessions_match_connections`: the result.
-/

namespace SignalRelay

namespace Gateway

/-- The client has ended a connection after it had been accepted. -/
def Left (settings : Settings) (events : List Event) (c : ConnectionId) : Prop :=
  ∃ before e, before ++ [e] <+: events ∧ e.leaver? = some c ∧
    c ∈ ((fresh settings).accepted before).map Prod.fst

/-- A connection has ended: the server has queued a close for it, which was sent or was too long to be
sent, or its client has ended it, or the server has been shut down. -/
inductive Ended (settings : Settings) (events : List Event) (c : ConnectionId) : Prop
  | closed (h : ((fresh settings).run events).server.relay.dismissed c = true)
  | left (h : Left settings events c)
  | stopped (h : .shutdown ∈ events)

/-- A gateway is settled, and its connections are those that were accepted and have not ended. -/
structure Current (settings : Settings) (events : List Event) (g : Gateway) : Prop extends Settled g where
  role : ∀ {c role}, g.server.relay.role? c = some role → (c, role) ∈ (fresh settings).accepted events
  ended : ∀ {c}, c ∈ ((fresh settings).accepted events).map Prod.fst → g.liveSocket? c = none →
    g.server.relay.dismissed c = true ∨ Left settings events c
  stays : ∀ {c}, (g.liveSocket? c).isSome → ¬Left settings events c

/-- A gateway whose server does not run. -/
structure Stopped (g : Gateway) : Prop where
  running : g.server.running = false
  sound : g.server.relay.wiring.Sound
  dead : ∀ c, g.server.relay.session? c = none
  silent : ∀ c, g.liveSocket? c = none

section
variable {g : Gateway} {e : Event} {events : List Event} {settings : Settings} {c : ConnectionId}

/-! ### While the server runs -/

theorem run_concat (g : Gateway) (events : List Event) (e : Event) :
    g.run (events ++ [e]) = (g.run events).apply e :=
  List.foldl_concat apply g e events

theorem mem_accepted_concat {x : ConnectionId × Role} :
    x ∈ g.accepted (events ++ [e]) ↔ x ∈ g.accepted events ∨ (g.run events).accepted? e = some x := by
  simp [accepted_append, accepted]

theorem left_concat_iff : Left settings (events ++ [e]) c ↔
    Left settings events c ∨ e.leaver? = some c ∧ c ∈ ((fresh settings).accepted events).map Prod.fst := by
  simp only [Left, List.prefix_concat_iff]
  constructor
  · rintro ⟨before, e', heq | hprefix, hleaver, hmem⟩
    · obtain ⟨rfl, hlast⟩ := List.append_inj' heq rfl
      exact .inr ⟨List.singleton_inj.1 hlast ▸ hleaver, hmem⟩
    · exact .inl ⟨before, e', hprefix, hleaver, hmem⟩
  · rintro (⟨before, e', hprefix, hleaver, hmem⟩ | ⟨hleaver, hmem⟩)
    · exact ⟨before, e', .inr hprefix, hleaver, hmem⟩
    · exact ⟨events, e, .inl rfl, hleaver, hmem⟩

/-- Connections that have been left had been accepted. -/
theorem Left.mem_accepted (h : Left settings events c) :
    c ∈ ((fresh settings).accepted events).map Prod.fst := by
  obtain ⟨before, e, ⟨after, rfl⟩, -, hmem⟩ := h
  rw [List.append_assoc, accepted_append, List.map_append]
  exact List.mem_append_left _ hmem

theorem current_fresh (settings : Settings) : Current settings [] (fresh settings) where
  running := rfl
  onTime := Server.onTime_fresh settings
  final c := (Relay.unused_fresh settings c).final
  connected _ := rfl
  unused c _ := ⟨Relay.unused_fresh settings c, rfl⟩
  live_iff _ := Iff.rfl
  written hs := by cases hs
  role hrole := by cases hrole
  ended hc := by cases hc
  stays hc := by cases hc

/-- One more event is accounted for. -/
theorem Current.concat (h : Current settings events ((fresh settings).run events)) (he : e ≠ .shutdown) :
    Current settings (events ++ [e]) ((fresh settings).run (events ++ [e])) := by
  have hnew := next_notMem_accepted (fresh settings) events
  have haccepted : ∀ {x}, x ∈ (fresh settings).accepted (events ++ [e]) ↔
      x ∈ (fresh settings).accepted events ∨ ((fresh settings).run events).accepted? e = some x :=
        mem_accepted_concat
  rw [run_concat]
  generalize (fresh settings).run events = g at h hnew haccepted ⊢
  have hq := makes_request g e
  have hstep := step_apply h.toSettled he
  generalize g.apply e = g' at hstep ⊢
  have hsettled := hstep.settled h.toSettled hq
  refine ⟨hsettled, fun {c role} hrole => ?_, fun {c} hc hlive => ?_, fun {c} hlive => ?_⟩
  · rw [haccepted, accepted?_eq_some_iff]
    exact (hstep.role? h.toSettled hq hrole).symm.imp_left fun hbefore => h.role hbefore.1
  · rw [left_concat_iff]
    obtain ⟨x, hx, rfl⟩ := List.mem_map.1 hc
    rcases haccepted.1 hx with hx | hx
    · have hmem := List.mem_map_of_mem (f := Prod.fst) hx
      cases hbefore : g.liveSocket? x.1 with
      | none => exact (h.ended hmem hbefore).imp (hstep.dismissed h.toSettled hq) Or.inl
      | some socket =>
        by_cases hclose : e.request g = .close x.1
        · exact .inr (.inr ⟨(request_eq_close_iff.1 hclose).1, hmem⟩)
        · exact .inl (hstep.dismissed_of_gone hlive (.inr ⟨by rw [hbefore]; rfl, hclose⟩))
    · obtain ⟨offerToReceive, hrequest⟩ :=
        accepted?_eq_some_iff.1 (show g.accepted? e = some (x.1, x.2) from hx)
      exact .inl (hstep.dismissed_of_gone hlive (.inl (by rw [hrequest]; rfl)))
  · rw [left_concat_iff]
    rcases ((hstep.live_iff c).1 hlive).1 with hopened | ⟨hbefore, hclose⟩
    · -- a connection that is new has not been there before
      obtain rfl := hq.opened _ hopened
      rintro (hleft | ⟨-, hmem⟩)
      · exact hnew hleft.mem_accepted
      · exact hnew hmem
    · rintro (hleft | ⟨hleaver, -⟩)
      · exact h.stays hbefore hleft
      · exact hclose (request_eq_close_iff.2 ⟨hleaver, hbefore⟩)

/-- A connection that has ended has no session. -/
theorem Current.session?_of_ended (h : Current settings events ((fresh settings).run events))
    (hrunning : .shutdown ∉ events) (hc : Ended settings events c) :
    ((fresh settings).run events).server.relay.session? c = none := by
  cases hc with
  | closed hdismissed => exact (h.final c).dead hdismissed
  | left hleft =>
    have hgone := mt h.stays (not_not_intro hleft)
    rw [h.live_iff] at hgone
    simpa using hgone
  | stopped hshutdown => exact absurd hshutdown hrunning

/-- The roles in the server are those of the surfaces. -/
theorem Current.role?_eq_some_iff (h : Current settings events ((fresh settings).run events))
    (hrunning : .shutdown ∉ events) (c : ConnectionId) (role : Role) :
    ((fresh settings).run events).server.relay.role? c = some role ↔
      (c, role) ∈ (fresh settings).accepted events ∧ ¬Ended settings events c := by
  constructor
  · intro hrole
    refine ⟨h.role hrole, fun hc => ?_⟩
    rw [Relay.role?, h.session?_of_ended hrunning hc] at hrole
    cases hrole
  · rintro ⟨hmem, hopen⟩
    have hlive : (((fresh settings).run events).liveSocket? c).isSome := by
      by_contra hgone
      rcases h.ended (List.mem_map_of_mem hmem) (by simpa using hgone) with hdismissed | hleft
      · exact hopen (.closed hdismissed)
      · exact hopen (.left hleft)
    obtain ⟨role', hrole'⟩ := Relay.isSome_session?_iff_role?.1 ((h.live_iff c).1 hlive)
    have hsame :=
      List.inj_on_of_nodup_map (accepted_numbered (fresh settings) events).2.2 (h.role hrole') hmem rfl
    exact hrole'.trans (congrArg (fun x => some x.2) hsame)

/-! ### When the server is shut down -/

/-- Writing what is queued leaves nothing open if there is a close for everybody. -/
private theorem stopped_flush (hrunning : g.server.running = false) (hsound : g.server.relay.wiring.Sound)
    (hdead : ∀ c, g.server.relay.session? c = none)
    (hclose : ∀ c socket, g.liveSocket? c = some socket →
      ((g.server.relay.outbox c).frames.drop socket.written).any Outbound.isClose = true) :
        g.flush.Stopped := by
  have hidle := Server.idle_of_stopped hrunning
  have hserver := (flush_spec hidle).1
  refine ⟨hserver ▸ hrunning, hserver ▸ hsound, hserver ▸ hdead, fun c => ?_⟩
  rw [liveSocket?_flush hidle]
  cases hs : g.liveSocket? c with
  | none => rfl
  | some socket => rw [Option.bind_some, if_pos (hclose c socket hs)]

/-- A shutdown ends all connections. -/
theorem Settled.stopped (h : g.Settled) : (g.apply .shutdown).Stopped := by
  have hdrained := Server.drained_of_sound h.onTime.sound (Server.mem_keys_iff g.server)
  have hsound := Relay.sound_terminateAll h.onTime.sound Server.shuttingDown g.server.relay.sessions.keys
  have hshutdown : g.server.shutdown = .ok _ := Server.shutdownIn_of_running h.running _
  rw [apply, shutdown, hshutdown]
  refine stopped_flush rfl hsound (fun c => ?_) fun c socket hs => ?_
  · rw [Relay.session?, Table.get?, hdrained.sessions]
    rfl
  · have hs : g.liveSocket? c = some socket := hs
    have hlive := (h.live_iff c).1 (by rw [hs]; rfl)
    obtain ⟨-, -, told, reason, -, -, hbox, -⟩ := hdrained.closed c hlive
    dsimp only at hbox ⊢
    rw [hbox, Outbox.frames_pushAll (h.connected c), h.written hs, List.drop_left]
    simp [Outbound.isClose]

/-- A gateway that has been shut down accepts connections, but does not keep them. -/
theorem Stopped.apply (h : g.Stopped) (e : Event) : (g.apply e).Stopped := by
  have hrefuses := Server.refuses_of_stopped h.running
  cases e with
  | connect surface target =>
    simp only [Gateway.apply, connect]
    cases admission surface target with
    | error refusal => exact h
    | ok offerToReceive =>
      dsimp only
      rw [(hrefuses.accept ⟨g.nextConnection⟩ surface offerToReceive).1]
      dsimp only
      generalize hopened : Gateway.mk g.server _ _ = opened
      have hserver : (opened.finish ⟨g.nextConnection⟩ [.ended]).server = g.server := by
        rw [server_finish, ← hopened]
        exact (hrefuses.close ⟨g.nextConnection⟩).2
      refine ⟨hserver ▸ h.running, hserver ▸ h.sound, hserver ▸ h.dead, fun c => ?_⟩
      rw [liveSocket?_finish]
      split
      · rfl
      · rename_i hne
        rw [← hopened, liveSocket?, Table.get?_set, if_neg hne]
        exact h.silent c
  | receive c frame => simpa [Gateway.apply, receive, h.silent c, Except.toOption] using h
  | ping c octets => simpa [Gateway.apply, ping, h.silent c, Except.toOption] using h
  | closeByClient c => simpa [Gateway.apply, closeByClient, h.silent c, Except.toOption] using h
  | abort c => simpa [Gateway.apply, abort, h.silent c] using h
  | advance milliseconds =>
    have hadvance : g.server.advance milliseconds =
        ⟨{ g.server.relay with clock := g.server.relay.clock + milliseconds }, false⟩ := by
      simp [Server.advance, h.running]
    rw [Gateway.apply, advance, hadvance]
    refine stopped_flush rfl h.sound h.dead fun c socket hs => ?_
    have hs : g.liveSocket? c = some socket := hs
    rw [h.silent c] at hs
    cases hs
  | shutdown => simpa [Gateway.apply, shutdown, hrefuses.shutdown, Except.toOption] using h

theorem current_or_stopped (settings : Settings) (events : List Event) :
    (.shutdown ∉ events ∧ Current settings events ((fresh settings).run events)) ∨
      (.shutdown ∈ events ∧ ((fresh settings).run events).Stopped) := by
  induction events using List.reverseRecOn with
  | nil => exact .inl ⟨List.not_mem_nil, current_fresh settings⟩
  | append_singleton events e ih =>
    rcases ih with ⟨hrunning, hcurrent⟩ | ⟨hstopped, h⟩
    · by_cases he : e = .shutdown
      · right
        rw [run_concat, he]
        exact ⟨by simp, hcurrent.toSettled.stopped⟩
      · exact .inl ⟨by simp [hrunning, Ne.symm he], hcurrent.concat he⟩
    · right
      rw [run_concat]
      exact ⟨List.mem_append_left _ hstopped, h.apply e⟩

end

/-- After whatever has happened at a gateway, nothing is left to be written, and the live sessions of the
server are those of the connections that were accepted and have not ended, with the roles of their
surfaces.  No connection was accepted twice.  Those that have ended, or never came about, have no session
and no id; their sockets are closed. -/
theorem sessions_match_connections (settings : Settings) (events : List Event) :
    let g := (fresh settings).run events
    let accepted := (fresh settings).accepted events
    (accepted.map Prod.fst).Nodup ∧
    (∀ c role, g.server.relay.role? c = some role ↔ (c, role) ∈ accepted ∧ ¬Ended settings events c) ∧
    (∀ c, (g.liveSocket? c).isSome ↔ (g.server.relay.session? c).isSome) ∧
    (∀ c socket, g.liveSocket? c = some socket → socket.written = (g.server.relay.outbox c).frames.length) ∧
    ∀ c, c ∉ accepted.map Prod.fst ∨ Ended settings events c →
      g.server.relay.session? c = none ∧ g.liveSocket? c = none ∧
        c ∉ g.server.relay.streamers.entries.map (·.connection) ∧
        c ∉ g.server.relay.players.entries.map (·.connection) := by
  intro g accepted
  have hnodup : (accepted.map Prod.fst).Nodup := (accepted_numbered (fresh settings) events).2.2
  rcases current_or_stopped settings events with ⟨hrunning, h⟩ | ⟨hstopped, h⟩
  · refine ⟨hnodup, h.role?_eq_some_iff hrunning, h.live_iff, fun _ _ => h.written, fun c hc => ?_⟩
    have hdead : g.server.relay.session? c = none := by
      rcases hc with hc | hc
      · rw [Relay.session?_eq_none_iff_role?, Option.eq_none_iff_forall_ne_some]
        exact fun role hrole => hc (List.mem_map_of_mem (h.role hrole))
      · exact h.session?_of_ended hrunning hc
    have hsilent := h.live_iff c
    rw [hdead] at hsilent
    exact ⟨hdead, by simpa using hsilent, Relay.notMem_connections_of_session?_eq_none h.onTime.sound hdead⟩
  · refine ⟨hnodup, fun c role => ?_, fun c => ?_, fun c socket hs => ?_, fun c _ => ?_⟩
    · rw [Relay.role?, h.dead c]
      exact ⟨fun hrole => (by cases hrole), fun hc => absurd (.stopped hstopped) hc.2⟩
    · rw [h.dead c, h.silent c]
      exact Iff.rfl
    · rw [h.silent c] at hs
      cases hs
    · exact ⟨h.dead c, h.silent c, Relay.notMem_connections_of_session?_eq_none h.sound (h.dead c)⟩

/-- A streamer whose client goes away, a handshake on a path that is none, and a player that stays. -/
example :
    let events : List Event :=
      [.connect .streamer "/", .connect .player "*", .connect .player "/", .abort ⟨0⟩]
    let g := (fresh Settings.standard).run events
    (fresh Settings.standard).accepted events = [(⟨0⟩, .streamer), (⟨1⟩, .player)] ∧
      g.server.relay.sessions.keys = [⟨1⟩] := by
  decide +kernel

end Gateway

end SignalRelay
