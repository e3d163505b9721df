import SignalRelay.Relay.Operation

/-!
# What the building blocks of the relay change

Everything that happens to a relay is put together from a few building blocks: queueing frames, opening,
changing and taking out a session, starting and stopping timers, changing a directory.  For each of them
this module says what it does to the views of a relay:

* `session?`, the session of a connection;
* the two directories;
* `outbox`, where queueing is written as `Outbox.pushAll` of the frames that are new;
* `ambient`, which is the rest.
-/

namespace SignalRelay

/-! ### Queues -/

namespace Outbox

/-- Queues frames one after the other. -/
def pushAll (box : Outbox) (frames : List Outbound) : Outbox := frames.foldl push box

@[simp] theorem pushAll_nil (box : Outbox) : box.pushAll [] = box := rfl

@[simp] theorem pushAll_pushAll (box : Outbox) (first second : List Outbound) :
    (box.pushAll first).pushAll second = box.pushAll (first ++ second) := by
  simp [pushAll]

theorem pushAll_eq (box : Outbox) (frames : List Outbound) :
    box.pushAll frames = if box.connected then { box with frames := box.frames ++ frames } else box := by
  induction frames generalizing box with
  | nil => simp [pushAll]
  | cons f frames ih =>
    have hcons : box.pushAll (f :: frames) = (box.push f).pushAll frames := rfl
    rw [hcons, ih]
    by_cases hb : box.connected = true <;> simp [push, hb]

/-- Queueing neither ends nor revives a connection. -/
@[simp] theorem connected_pushAll (box : Outbox) (frames : List Outbound) :
    (box.pushAll frames).connected = box.connected := by
  rw [pushAll_eq]
  split <;> rfl

theorem frames_pushAll {box : Outbox} (h : box.connected = true) (frames : List Outbound) :
    (box.pushAll frames).frames = box.frames ++ frames := by
  rw [pushAll_eq, if_pos h]

/-- Frames are queued all together or lost all together. -/
theorem frames_pushAll_cases (box : Outbox) (frames : List Outbound) :
    (box.pushAll frames).frames = box.frames ∨ (box.pushAll frames).frames = box.frames ++ frames := by
  rw [pushAll_eq]
  split
  · exact .inr rfl
  · exact .inl rfl

theorem mem_frames_pushAll {box : Outbox} {frames : List Outbound} {f : Outbound}
    (hf : f ∈ (box.pushAll frames).frames) : f ∈ box.frames ∨ f ∈ frames := by
  rcases frames_pushAll_cases box frames with heq | heq
  · exact .inl (heq ▸ hf)
  · exact List.mem_append.1 (heq ▸ hf)

end Outbox

namespace Relay

/-- What no message touches: the settings, the clock and the timers. -/
def ambient (r : Relay) : Settings × Nat × List Timer × Nat :=
  (r.settings, r.clock, r.timers, r.nextTimer)

/-! ### Queueing -/

theorem outbox_setOutbox (r : Relay) (c d : ConnectionId) (box : Outbox) :
    (r.setOutbox c box).outbox d = if d = c then box else r.outbox d := by
  unfold setOutbox outbox
  rw [Table.get?_set]
  split <;> rfl

/-- Putting a queue back is as good as leaving it there. -/
theorem outbox_setOutbox_outbox (r : Relay) (c d : ConnectionId) :
    (r.setOutbox c (r.outbox c)).outbox d = r.outbox d := by
  rw [outbox_setOutbox]
  split
  · rename_i hd
    rw [hd]
  · rfl

theorem outbox_push (r : Relay) (c d : ConnectionId) (f : Outbound) :
    (r.push c f).outbox d = (r.outbox d).pushAll (if d = c then [f] else []) := by
  unfold push
  rw [outbox_setOutbox]
  split
  · rename_i hd
    subst hd
    rfl
  · rfl

theorem outbox_send (r : Relay) (c d : ConnectionId) (m : Signal) :
    (r.send c m).outbox d =
      (r.outbox d).pushAll (if d = c ∧ (r.session? c).isSome then [.message m] else []) := by
  unfold send
  by_cases hc : (r.session? c).isSome
  · simp [hc, outbox_push]
  · simp [hc]

@[simp] theorem session?_push (r : Relay) (c d : ConnectionId) (f : Outbound) :
    (r.push c f).session? d = r.session? d := rfl

@[simp] theorem streamers_push (r : Relay) (c : ConnectionId) (f : Outbound) :
    (r.push c f).streamers = r.streamers := rfl

@[simp] theorem players_push (r : Relay) (c : ConnectionId) (f : Outbound) :
    (r.push c f).players = r.players := rfl

@[simp] theorem ambient_push (r : Relay) (c : ConnectionId) (f : Outbound) :
    (r.push c f).ambient = r.ambient := rfl

@[simp] theorem session?_send (r : Relay) (c d : ConnectionId) (m : Signal) :
    (r.send c m).session? d = r.session? d := by
  unfold send
  split <;> rfl

@[simp] theorem streamers_send (r : Relay) (c : ConnectionId) (m : Signal) :
    (r.send c m).streamers = r.streamers := by
  unfold send
  split <;> rfl

@[simp] theorem players_send (r : Relay) (c : ConnectionId) (m : Signal) :
    (r.send c m).players = r.players := by
  unfold send
  split <;> rfl

@[simp] theorem ambient_send (r : Relay) (c : ConnectionId) (m : Signal) :
    (r.send c m).ambient = r.ambient := by
  unfold send
  split <;> rfl

/-! ### Sessions -/

theorem session?_insertSession (r : Relay) (c d : ConnectionId) (s : Session) :
    (r.insertSession c s).session? d = if d = c then some s else r.session? d :=
  Table.get?_set r.sessions c d s

theorem session?_eraseSession (r : Relay) (c d : ConnectionId) :
    (r.eraseSession c).session? d = if d = c then none else r.session? d :=
  Table.get?_erase r.sessions c d

theorem session?_adjustSource (r : Relay) (c d : ConnectionId) (f : Source → Source) :
    (r.adjustSource c f).session? d = if d = c then (r.session? d).map (Session.mapSource f)
      else r.session? d :=
  Table.get?_adjust r.sessions c d _

theorem session?_adjustViewer (r : Relay) (c d : ConnectionId) (f : Viewer → Viewer) :
    (r.adjustViewer c f).session? d = if d = c then (r.session? d).map (Session.mapViewer f)
      else r.session? d :=
  Table.get?_adjust r.sessions c d _

theorem session?_setSubscribed (r : Relay) (c d : ConnectionId) (id : Option String) :
    (r.setSubscribed c id).session? d =
      if d = c then (r.session? d).map (Session.mapViewer fun viewer => { viewer with subscribed := id })
      else r.session? d :=
  session?_adjustViewer r c d _

@[simp] theorem streamers_insertSession (r : Relay) (c : ConnectionId) (s : Session) :
    (r.insertSession c s).streamers = r.streamers := rfl

@[simp] theorem players_insertSession (r : Relay) (c : ConnectionId) (s : Session) :
    (r.insertSession c s).players = r.players := rfl

@[simp] theorem outbox_adjustSource (r : Relay) (c d : ConnectionId) (f : Source → Source) :
    (r.adjustSource c f).outbox d = r.outbox d := rfl

@[simp] theorem streamers_adjustSource (r : Relay) (c : ConnectionId) (f : Source → Source) :
    (r.adjustSource c f).streamers = r.streamers := rfl

@[simp] theorem players_adjustSource (r : Relay) (c : ConnectionId) (f : Source → Source) :
    (r.adjustSource c f).players = r.players := rfl

@[simp] theorem ambient_adjustSource (r : Relay) (c : ConnectionId) (f : Source → Source) :
    (r.adjustSource c f).ambient = r.ambient := rfl

@[simp] theorem outbox_setSubscribed (r : Relay) (c d : ConnectionId) (id : Option String) :
    (r.setSubscribed c id).outbox d = r.outbox d := rfl

@[simp] theorem streamers_setSubscribed (r : Relay) (c : ConnectionId) (id : Option String) :
    (r.setSubscribed c id).streamers = r.streamers := rfl

@[simp] theorem players_setSubscribed (r : Relay) (c : ConnectionId) (id : Option String) :
    (r.setSubscribed c id).players = r.players := rfl

@[simp] theorem ambient_setSubscribed (r : Relay) (c : ConnectionId) (id : Option String) :
    (r.setSubscribed c id).ambient = r.ambient := rfl

/-! ### Sides of sessions -/

theorem role?_of_session? {r : Relay} {c : ConnectionId} {s : Session} (h : r.session? c = some s) :
    r.role? c = some s.role := by
  rw [role?, h, Option.map_some]

theorem source?_of_session? {r : Relay} {c : ConnectionId} {s : Session} (h : r.session? c = some s) :
    r.source? c = s.source? := by
  rw [source?, h, Option.bind_some]

theorem viewer?_of_session? {r : Relay} {c : ConnectionId} {s : Session} (h : r.session? c = some s) :
    r.viewer? c = s.viewer? := by
  rw [viewer?, h, Option.bind_some]

@[simp] theorem viewer?_send (r : Relay) (c d : ConnectionId) (m : Signal) :
    (r.send c m).viewer? d = r.viewer? d := by
  simp [viewer?]

theorem role?_adjustSource (r : Relay) (c d : ConnectionId) (f : Source → Source) :
    (r.adjustSource c f).role? d = r.role? d := by
  simp only [role?, session?_adjustSource]
  split
  · cases r.session? d <;> simp
  · rfl

theorem source?_adjustSource (r : Relay) (c d : ConnectionId) (f : Source → Source) :
    (r.adjustSource c f).source? d = if d = c then (r.source? d).map f else r.source? d := by
  simp only [source?, session?_adjustSource]
  split
  · cases r.session? d <;> simp
  · rfl

@[simp] theorem viewer?_adjustSource (r : Relay) (c d : ConnectionId) (f : Source → Source) :
    (r.adjustSource c f).viewer? d = r.viewer? d := by
  simp only [viewer?, session?_adjustSource]
  split
  · cases r.session? d <;> simp
  · rfl

@[simp] theorem isSfu_adjustSource (r : Relay) (c d : ConnectionId) (f : Source → Source) :
    (r.adjustSource c f).isSfu d = r.isSfu d := by
  simp only [isSfu, session?_adjustSource]
  split
  · cases r.session? d <;> simp [Session.isSfu]
  · rfl

@[simp] theorem source?_setSubscribed (r : Relay) (c d : ConnectionId) (id : Option String) :
    (r.setSubscribed c id).source? d = r.source? d := by
  simp only [source?, session?_setSubscribed]
  split
  · cases r.session? d <;> simp
  · rfl

theorem viewer?_setSubscribed (r : Relay) (c d : ConnectionId) (id : Option String) :
    (r.setSubscribed c id).viewer? d =
      if d = c then (r.viewer? d).map (fun viewer => { viewer with subscribed := id }) else r.viewer? d := by
  simp only [viewer?, session?_setSubscribed]
  split
  · cases r.session? d <;> simp
  · rfl

@[simp] theorem isSfu_setSubscribed (r : Relay) (c d : ConnectionId) (id : Option String) :
    (r.setSubscribed c id).isSfu d = r.isSfu d := by
  simp only [isSfu, session?_setSubscribed]
  split
  · cases r.session? d <;> simp [Session.isSfu]
  · rfl

/-! ### Timers and directories -/

theorem ambient_stopTimer_congr {r r' : Relay} (h : r'.ambient = r.ambient) (timer : Option Nat) :
    (r'.stopTimer timer).ambient = (r.stopTimer timer).ambient := by
  simp only [ambient, Prod.mk.injEq] at h
  obtain ⟨hsettings, hclock, htimers, hnext⟩ := h
  simp only [ambient, stopTimer, hsettings, hclock, htimers, hnext]

@[simp] theorem session?_markStreaming (r : Relay) (c d : ConnectionId) (streaming : Bool) :
    (r.markStreaming c streaming).session? d = r.session? d := by
  unfold markStreaming
  split <;> rfl

@[simp] theorem outbox_markStreaming (r : Relay) (c d : ConnectionId) (streaming : Bool) :
    (r.markStreaming c streaming).outbox d = r.outbox d := by
  unfold markStreaming
  split <;> rfl

@[simp] theorem players_markStreaming (r : Relay) (c : ConnectionId) (streaming : Bool) :
    (r.markStreaming c streaming).players = r.players := by
  unfold markStreaming
  split <;> rfl

@[simp] theorem ambient_markStreaming (r : Relay) (c : ConnectionId) (streaming : Bool) :
    (r.markStreaming c streaming).ambient = r.ambient := by
  unfold markStreaming
  split <;> rfl

end Relay

end SignalRelay
