import SignalRelay.Proofs.Server.Runs
import SignalRelay.Proofs.Teardown.Draining

/-!
# Shutdown

A shutdown leaves nothing behind, in whatever order the connections are terminated: no session, no id, and
a close at the end of every queue.  Afterwards the server refuses every command.

* `Drained` says what has become of a server, and `Refuses` what becomes of the commands.
* `shutdown_drains`: that is what a shutdown does.
-/

namespace SignalRelay

namespace Server

/-- Every command is refused and changes nothing. -/
structure Refuses (s : Server) : Prop where
  accept : ∀ c role offerToReceive, s.accept c role offerToReceive = .error .stopped ∧
    s.serve (.accept c role offerToReceive) = s
  handle : ∀ c m, s.handle c m = .error .stopped ∧ s.serve (.message c m) = s
  close : ∀ c, s.close c = .error .stopped ∧ s.serve (.close c) = s
  overview : s.overview = .error .stopped ∧ s.serve .overview = s
  shutdown : s.shutdown = .error .stopped
  shutdownIn : ∀ order, s.shutdownIn order = .error .stopped ∧ s.release order = s

/-- The server `t` is `s` after its connections have been terminated in some order. -/
structure Drained (s : Server) (order : List ConnectionId) (t : Server) : Prop where
  sessions : t.relay.sessions.entries = []
  streamers : t.relay.streamers.entries = []
  players : t.relay.players.entries = []
  /-- The departure of each id is published once. -/
  streamerIds : ∃ lost : List String, lost.Perm s.relay.streamers.ids ∧
    t.relay.streamers.published = s.relay.streamers.published ++ lost.map .removed
  playerIds : ∃ lost : List String, lost.Perm s.relay.players.ids ∧
    t.relay.players.published = s.relay.players.published ++ lost.map .removed
  /-- Everybody is told of the others, and then to close.  A forwarding unit that goes with a connection
  that comes before it is told that it has lost its source. -/
  closed : ∀ c, (s.relay.session? c).isSome →
    ∃ (before after : List ConnectionId) (told : List Signal) (reason : String),
      order = before ++ c :: after ∧ c ∉ before ∧
        t.relay.outbox c = (s.relay.outbox c).pushAll (told.map .message ++ [.close reason]) ∧
        (reason = shuttingDown ∧ (∀ x ∈ before, ¬s.relay.Downstream x c) ∨
          reason = Relay.sourceLost ∧ s.relay.isSfu c = true ∧ ∃ x ∈ before, s.relay.Downstream x c)
  silent : ∀ c, s.relay.session? c = none → t.relay.outbox c = s.relay.outbox c
  refuses : ∀ later, (t.run later).Refuses

section
variable {s : Server}

/-- The connections that `shutdown` terminates are those that are live. -/
theorem mem_keys_iff (s : Server) (c : ConnectionId) :
    c ∈ s.relay.sessions.keys ↔ (s.relay.session? c).isSome :=
  Table.mem_keys_iff

theorem shutdownIn_of_running (h : s.running = true) (order : List ConnectionId) :
    s.shutdownIn order = .ok ⟨s.relay.terminateAll shuttingDown order, false⟩ :=
  if_pos h

theorem release_of_running (h : s.running = true) (order : List ConnectionId) :
    s.release order = ⟨s.relay.terminateAll shuttingDown order, false⟩ := by
  rw [release, shutdownIn_of_running h]
  rfl

theorem refuses_of_stopped (h : s.running = false) : s.Refuses := by
  obtain ⟨haccept, hhandle, hclose, hoverview, hshutdown⟩ := error_of_stopped h
  refine ⟨fun c role offer => ⟨haccept c role offer, ?_⟩, fun c m => ⟨hhandle c m, ?_⟩,
    fun c => ⟨hclose c, ?_⟩, ⟨hoverview, rfl⟩, hshutdown _, fun order => ⟨hshutdown order, ?_⟩⟩
  · rw [serve, haccept]
    rfl
  · rw [serve, hhandle]
    rfl
  · rw [serve, hclose]
    rfl
  · rw [release, hshutdown]
    rfl

theorem drained_of_sound (h : s.relay.wiring.Sound) {order : List ConnectionId}
    (horder : ∀ c, c ∈ order ↔ (s.relay.session? c).isSome) :
    s.Drained order ⟨s.relay.terminateAll shuttingDown order, false⟩ := by
  have hdelivers := Relay.delivers_terminateAll h shuttingDown order
  have hdead : ∀ c, (s.relay.terminateAll shuttingDown order).session? c = none := by
    intro c
    by_cases hc : (s.relay.session? c).isSome
    · exact Relay.session?_terminateAll h ((horder c).2 hc) shuttingDown
    · exact hdelivers.live (by simpa using hc)
  obtain ⟨hsessions, hstreamers, hplayers⟩ :=
    Relay.entries_eq_nil_of_dead (Relay.sound_terminateAll h shuttingDown order) hdead
  obtain ⟨hlost, hlost'⟩ := Relay.sheds_terminateAll h shuttingDown order
  have hids : (s.relay.terminateAll shuttingDown order).streamers.ids = [] := congrArg _ hstreamers
  have hids' : (s.relay.terminateAll shuttingDown order).players.ids = [] :=
    PlayerDirectory.ids_eq_nil hplayers
  refine ⟨hsessions, hstreamers, hplayers, ?_, ?_, fun c hc => ?_, fun c hc => hdelivers.outbox_of_dead hc,
    fun later => refuses_of_stopped (running_run_of_stopped rfl later)⟩
  · rw [hids] at hlost
    exact hlost.of_nil (Relay.streamerIds_nodup h.toLinked)
  · rw [hids'] at hlost'
    exact hlost'.of_nil (Relay.playerIds_nodup h.toLinked)
  · obtain ⟨before, after, rfl, hbefore⟩ := List.eq_append_cons_of_mem ((horder c).2 hc)
    obtain ⟨told, reason, hbox, hreason⟩ :=
      Relay.outbox_terminateAll_of_live h hc shuttingDown hbefore after
    exact ⟨before, after, told, reason, rfl, hbefore, hbox, hreason⟩

end

/-- A server that is shut down, or left by everybody who could do so, terminates its connections in some
order; that of its table is one of them.  Whatever the order is, nothing is left afterwards, and `Drained`
says what has been published and queued.  No id was there twice, so the departure of each is published once.
If no connection was ever accepted twice, no live one had been closed before, so that each is closed once. -/
theorem shutdown_drains (settings : Settings) (requests : List Request)
    (hrequests : (fresh settings).Allows requests) (order : List ConnectionId)
    (horder : ∀ c, c ∈ order ↔ (((fresh settings).run requests).relay.session? c).isSome) :
    let s := (fresh settings).run requests
    (s.shutdown = s.shutdownIn s.relay.sessions.keys ∧
      ∀ c, c ∈ s.relay.sessions.keys ↔ (s.relay.session? c).isSome) ∧
    (s.relay.streamers.ids.Nodup ∧ s.relay.players.ids.Nodup) ∧
    ((requests.filterMap Request.opened?).Nodup →
      ∀ c, (s.relay.session? c).isSome → ∀ f ∈ (s.relay.outbox c).frames, f.isClose = false) ∧
    ∃ t, s.shutdownIn order = .ok t ∧ s.release order = t ∧ s.Drained order t := by
  intro s
  have hrunning : s.running = true := running_run rfl requests
  have h : s.relay.wiring.Sound := sound_run rfl (Relay.sound_fresh settings) hrequests
  refine ⟨⟨rfl, mem_keys_iff s⟩, ⟨Relay.streamerIds_nodup h.toLinked, Relay.playerIds_nodup h.toLinked⟩,
    fun hfresh c hc => ?_, _, shutdownIn_of_running hrunning order, release_of_running hrunning order,
    drained_of_sound h horder⟩
  -- a connection that has been closed is not live
  cases (final_run settings hfresh).2 c with
  | unclosed hunclosed => exact hunclosed
  | closed _ _ _ _ _ hgone =>
    rw [show s.relay.session? c = none from hgone] at hc
    cases hc

/-- A camera, a forwarding unit that watches it and a player that watches the unit: the unit loses its
source. -/
theorem shutdown_drains_chain :
    let requests : List Request :=
      [.accept ⟨1⟩ .streamer true, .message ⟨1⟩ (.endpointId "camera"), .accept ⟨2⟩ .sfu true,
        .message ⟨2⟩ (.subscribe "camera"), .accept ⟨3⟩ .player true, .message ⟨3⟩ (.subscribe "SFU")]
    let s := (fresh Settings.standard).run requests
    (fresh Settings.standard).Allows requests ∧ s.relay.sessions.keys = [⟨1⟩, ⟨2⟩, ⟨3⟩] ∧
      s.relay.Downstream ⟨1⟩ ⟨2⟩ ∧ ∃ t, s.shutdown = .ok t ∧ s.Drained [⟨1⟩, ⟨2⟩, ⟨3⟩] t := by
  intro requests s
  have hrequests : (fresh Settings.standard).Allows requests := by decide +kernel
  have hkeys : s.relay.sessions.keys = [⟨1⟩, ⟨2⟩, ⟨3⟩] := by decide +kernel
  have hdown : s.relay.Downstream ⟨1⟩ ⟨2⟩ := .unit .self (by decide +kernel) (by decide +kernel)
  obtain ⟨-, -, -, t, ht, -, hdrained⟩ :=
    shutdown_drains Settings.standard requests hrequests s.relay.sessions.keys (mem_keys_iff s)
  exact ⟨hrequests, hkeys, hdown, t, ht, hkeys ▸ hdrained⟩

end Server

end SignalRelay
