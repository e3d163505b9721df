import SignalRelay.Proofs.Server.Partings
import SignalRelay.Web.Gateway

/-!
# Flushing

Whatever has happened, the gateway writes what has been queued before anything else happens.  A connection
ends with a close in its queue, whether the close can be written or not.  The server is told of it, but
has no session for it any more, and does nothing.

* `Socket.flushed` is what becomes of one socket.
* `flush_spec`: that is what becomes of all of them, and of nothing else.
-/

namespace SignalRelay

namespace Socket

/-- What becomes of a socket when the frames of its outbox are written. -/
def flushed (frames : List Outbound) (socket : Socket) : Socket :=
  if socket.live then
    let (arrivals, closed) := arrivalsOf (frames.drop socket.written)
    if closed then { socket with live := false, arrivals := socket.arrivals ++ arrivals }
    else { socket with written := frames.length, arrivals := socket.arrivals ++ arrivals }
  else socket

variable {frames : List Outbound} {socket : Socket}

/-- A connection ends with the first close, whether its reason fits into a frame or not. -/
theorem arrivalsOf_snd (frames : List Outbound) : (arrivalsOf frames).2 = frames.any Outbound.isClose := by
  induction frames with
  | nil => rfl
  | cons f frames ih =>
    cases f with
    | message m => exact ih
    | close reason => rfl

theorem flushed_of_dead (h : socket.live = false) : socket.flushed frames = socket := by simp [flushed, h]

theorem live_flushed (h : socket.live = true) :
    (socket.flushed frames).live = !(frames.drop socket.written).any Outbound.isClose := by
  rw [← arrivalsOf_snd]
  simp only [flushed, h, if_true]
  split <;> simp_all

theorem written_flushed (h : (socket.flushed frames).live = true) :
    (socket.flushed frames).written = frames.length := by
  by_cases hlive : socket.live
  · simp only [flushed, hlive, if_true] at h ⊢
    split
    · rename_i hclosed
      rw [if_pos hclosed] at h
      cases h
    · rfl
  · rw [flushed_of_dead (by simpa using hlive)] at h
    exact absurd h hlive

/-- Writing twice is writing once. -/
theorem flushed_flushed (frames : List Outbound) (socket : Socket) :
    (socket.flushed frames).flushed frames = socket.flushed frames := by
  by_cases hlive : (socket.flushed frames).live = true
  · have hwritten := written_flushed hlive
    generalize socket.flushed frames = again at hlive hwritten ⊢
    obtain ⟨live, written, arrivals⟩ := again
    obtain rfl : live = true := hlive
    obtain rfl : written = frames.length := hwritten
    simp [flushed, arrivalsOf]
  · exact flushed_of_dead (by simpa using hlive)

end Socket

namespace Server

/-- Closing a connection that has been queued a close does nothing, or is refused. -/
def Idle (s : Server) : Prop := ∀ c t, s.relay.dismissed c = true → s.close c = .ok t → t = s

/-- When no timer is due and whoever has been queued a close is not live, nothing is left to do. -/
theorem idle_of_onTime {s : Server} (hs : s.running = true) (h : s.relay.OnTime)
    (hfinal : ∀ c, s.relay.Final c) :
    s.Idle := by
  intro c t hc hclose
  rw [close_of_dead hs h ((hfinal c).dead hc)] at hclose
  exact (Except.ok.inj hclose).symm

theorem idle_of_stopped {s : Server} (hs : s.running = false) : s.Idle := by
  intro c t _ hclose
  rw [(error_of_stopped hs).2.2.1] at hclose
  cases hclose

end Server

namespace Gateway

section
variable {g : Gateway} {c : ConnectionId}

theorem liveSocket?_eq_some_iff {socket : Socket} :
    g.liveSocket? c = some socket ↔ g.sockets.get? c = some socket ∧ socket.live = true := by
  simp [liveSocket?, Option.filter_eq_some_iff]

theorem closeSession_eq (g : Gateway) (c : ConnectionId) :
    g.closeSession c = { g with server := g.server.serve (.close c) } := by
  rw [closeSession, Server.serve]
  cases g.server.close c <;> rfl

theorem closeSession_of_idle (h : g.server.Idle) (hc : g.server.relay.dismissed c = true) :
    g.closeSession c = g := by
  unfold closeSession
  split
  · rename_i server hclose
    rw [h c server hc hclose]
  · rfl

theorem get?_adjustSocket (g : Gateway) (c d : ConnectionId) (f : Socket → Socket) :
    (g.adjustSocket c f).sockets.get? d = if d = c then (g.sockets.get? d).map f else g.sockets.get? d :=
  Table.get?_adjust g.sockets c d f

/-- Only sockets change, and only those of the connections in the list. -/
structure Writes (g : Gateway) (written : List ConnectionId) (g' : Gateway) : Prop where
  server : g'.server = g.server
  nextConnection : g'.nextConnection = g.nextConnection
  socket : ∀ d, g'.sockets.get? d =
    if d ∈ written then (g.sockets.get? d).map (Socket.flushed (g.server.relay.outbox d).frames)
      else g.sockets.get? d

theorem writes_flushSocket (h : g.server.Idle) (c : ConnectionId) : Writes g [c] (g.flushSocket c) := by
  unfold flushSocket
  cases hlive : g.liveSocket? c with
  | none =>
    refine (⟨rfl, rfl, fun d => ?_⟩ : Writes g [c] g)
    split
    · rename_i hd
      obtain rfl := List.mem_singleton.1 hd
      cases hsocket : g.sockets.get? d with
      | none => rfl
      | some socket =>
        have hdead : socket.live = false := by simpa [liveSocket?, hsocket] using hlive
        rw [Option.map_some, Socket.flushed_of_dead hdead]
    · rfl
  | some socket =>
    obtain ⟨hsocket, hlive⟩ := liveSocket?_eq_some_iff.1 hlive
    have hadjust : ∀ (f : Socket → Socket) (d : ConnectionId),
        f socket = socket.flushed (g.server.relay.outbox c).frames →
        (g.adjustSocket c f).sockets.get? d = if d ∈ [c] then
          (g.sockets.get? d).map (Socket.flushed (g.server.relay.outbox d).frames) else g.sockets.get? d := by
      intro f d hf
      rw [get?_adjustSocket]
      by_cases hd : d = c
      · simp [hd, hsocket, hf]
      · simp [hd]
    dsimp only
    split
    · rename_i hclosed
      have hdismissed : g.server.relay.dismissed c = true := by
        rw [Socket.arrivalsOf_snd] at hclosed
        obtain ⟨f, hf, hclose⟩ := List.any_eq_true.1 hclosed
        exact List.any_eq_true.2 ⟨f, List.mem_of_mem_drop hf, hclose⟩
      rw [finish, closeSession_of_idle (g := g.adjustSocket c _) h hdismissed]
      exact ⟨rfl, rfl, fun d => hadjust _ d (by simp [Socket.flushed, hlive, hclosed])⟩
    · rename_i hopen
      exact ⟨rfl, rfl, fun d => hadjust _ d (by simp [Socket.flushed, hlive, hopen])⟩

private theorem writes_foldl (h : g.server.Idle) (l : List ConnectionId) :
    Writes g l (l.foldl flushSocket g) := by
  induction l generalizing g with
  | nil => exact ⟨rfl, rfl, fun d => by simp⟩
  | cons c l ih =>
    have hfirst := writes_flushSocket h c
    have hrest := ih (g := g.flushSocket c) (hfirst.server ▸ h)
    refine ⟨hrest.server.trans hfirst.server, hrest.nextConnection.trans hfirst.nextConnection, fun d => ?_⟩
    rw [List.foldl_cons, hrest.socket, hfirst.server, hfirst.socket]
    by_cases hd : d = c
    · simp [hd, Function.comp_def, Socket.flushed_flushed]
    · by_cases hl : d ∈ l <;> simp [hd, hl]

/-- Flushing writes what is queued for every connection. -/
theorem flush_spec (h : g.server.Idle) :
    g.flush.server = g.server ∧ g.flush.nextConnection = g.nextConnection ∧
    ∀ d, g.flush.sockets.get? d =
      (g.sockets.get? d).map (Socket.flushed (g.server.relay.outbox d).frames) := by
  obtain ⟨hserver, hnext, hsocket⟩ := writes_foldl h g.sockets.keys
  refine ⟨hserver, hnext, fun d => (hsocket d).trans ?_⟩
  split
  · rfl
  · rename_i hd
    have hnone : g.sockets.get? d = none := by simpa [Table.mem_keys_iff] using hd
    rw [hnone]
    rfl

/-- A connection stays open unless a close is written. -/
theorem liveSocket?_flush (h : g.server.Idle) (c : ConnectionId) :
    g.flush.liveSocket? c = (g.liveSocket? c).bind fun socket =>
      if ((g.server.relay.outbox c).frames.drop socket.written).any Outbound.isClose then none
      else some (socket.flushed (g.server.relay.outbox c).frames) := by
  rw [liveSocket?, (flush_spec h).2.2 c, liveSocket?]
  cases g.sockets.get? c with
  | none => rfl
  | some socket =>
    rw [Option.map_some, Option.filter_some, Option.filter_some]
    by_cases hlive : socket.live = true
    · rw [Socket.live_flushed hlive, if_pos hlive, Option.bind_some]
      cases ((g.server.relay.outbox c).frames.drop socket.written).any Outbound.isClose <;> rfl
    · simp only [Bool.not_eq_true] at hlive
      rw [Socket.flushed_of_dead hlive, hlive]
      rfl

end

end Gateway

end SignalRelay
