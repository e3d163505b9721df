import SignalRelay.Proofs.Relay.Views
import SignalRelay.Proofs.Relay.Wiring

/-!
# What the operations do to the wiring

`Relay.wiring` reads the wiring off a relay.  Queueing, timers and streaming flags leave it alone;
subscribing, registering, renaming and opening sessions are the changes of the same name.
-/

namespace SignalRelay

namespace Relay

/-- Who is registered under which id, and who watches whom. -/
def wiring (r : Relay) : Wiring where
  streamerId c := (r.source? c).bind (·.streamerId)
  subscribers c := ((r.source? c).map (·.subscribers)).getD []
  waiting c := ((r.source? c).bind (·.timer)).isSome
  unit c := r.isSfu c
  playerId c := (r.viewer? c).map (·.playerId)
  subscription c := (r.viewer? c).bind (·.subscribed)
  streamerSlots := r.streamers.slots
  playerSlots := r.players.slots
  nextNumber := r.players.nextNumber

/-! ### Reading the wiring -/

section
variable {r : Relay}

theorem streamerId_eq {c : ConnectionId} {source : Source} (h : r.source? c = some source) :
    r.wiring.streamerId c = source.streamerId := by
  simp [wiring, h]

theorem subscribers_eq {c : ConnectionId} {source : Source} (h : r.source? c = some source) :
    r.wiring.subscribers c = source.subscribers := by
  simp [wiring, h]

theorem playerId_eq {c : ConnectionId} {viewer : Viewer} (h : r.viewer? c = some viewer) :
    r.wiring.playerId c = some viewer.playerId := by
  simp [wiring, h]

theorem subscription_eq {c : ConnectionId} {viewer : Viewer} (h : r.viewer? c = some viewer) :
    r.wiring.subscription c = viewer.subscribed := by
  simp [wiring, h]

theorem exists_source_of_streamerId {c : ConnectionId} {id : String} (h : r.wiring.streamerId c = some id) :
    ∃ source, r.source? c = some source ∧ source.streamerId = some id := by
  simpa [wiring, Option.bind_eq_some_iff] using h

theorem exists_source_of_mem_subscribers {p u : ConnectionId} (h : p ∈ r.wiring.subscribers u) :
    ∃ source, r.source? u = some source ∧ p ∈ source.subscribers := by
  cases hu : r.source? u with
  | none => simp [wiring, hu] at h
  | some source => exact ⟨source, rfl, by simpa [wiring, hu] using h⟩

theorem exists_viewer_of_subscription {c : ConnectionId} {id : String}
    (h : r.wiring.subscription c = some id) :
    ∃ viewer, r.viewer? c = some viewer ∧ viewer.subscribed = some id := by
  simpa [wiring, Option.bind_eq_some_iff] using h

theorem exists_viewer_of_playerId {c : ConnectionId} {id : String} (h : r.wiring.playerId c = some id) :
    ∃ viewer, r.viewer? c = some viewer ∧ viewer.playerId = id := by
  simpa [wiring, Option.map_eq_some_iff] using h

theorem streamerIds_eq (r : Relay) : r.wiring.streamerSlots.map Prod.fst = r.streamers.ids :=
  r.streamers.ids_eq_map_slots.symm

theorem notMem_streamerSlots_of_add {r : Relay} {desired id : String} {c : ConnectionId} {streaming : Bool}
    {d : StreamerDirectory} (hadd : r.streamers.add desired c streaming = .ok (id, d)) :
    id ∉ r.wiring.streamerSlots.map Prod.fst := by
  rw [streamerIds_eq]
  exact (StreamerDirectory.of_add_eq_ok hadd).1

theorem mem_playerIds_iff {id : String} : id ∈ r.players.ids ↔ id ∈ r.wiring.playerSlots.map Prod.fst := by
  rw [PlayerDirectory.mem_ids_iff, ← PlayerDirectory.map_fst_slots]
  rfl

theorem streamerIds_nodup (h : r.wiring.Linked) : r.streamers.ids.Nodup := by
  rw [← streamerIds_eq]
  exact h.streamerIds_nodup

theorem playerIds_nodup (h : r.wiring.Linked) : r.players.ids.Nodup := by
  rw [PlayerDirectory.nodup_ids_iff, ← PlayerDirectory.map_fst_slots]
  exact h.playerIds_nodup

/-- An id stands for the source that holds it. -/
theorem owner?_eq_some_iff (h : r.wiring.Linked) {id : String} {u : ConnectionId} :
    r.streamers.owner? id = some u ↔ r.wiring.streamerId u = some id := by
  rw [← StreamerDirectory.mem_slots_iff (streamerIds_nodup h)]
  exact h.mem_streamerSlots

theorem exists_entry_iff (h : r.wiring.Linked) {id : String} {u : ConnectionId} :
    (∃ entry, r.streamers.find? id = some entry ∧ entry.connection = u) ↔
      r.wiring.streamerId u = some id := by
  rw [← owner?_eq_some_iff h]
  simp [StreamerDirectory.owner?]

/-- A viewer watches the source that holds the id it is subscribed to. -/
theorem watched?_eq_some_iff (h : r.wiring.Linked) {p u : ConnectionId} :
    r.watched? p = some u ↔ ∃ id, r.wiring.subscription p = some id ∧ r.wiring.streamerId u = some id := by
  simp only [watched?, Option.bind_eq_bind, Option.bind_eq_some_iff, Option.pure_def, Option.some.injEq]
  constructor
  · rintro ⟨viewer, hv, id, hid, entry, hentry, rfl⟩
    exact ⟨id, (subscription_eq hv).trans hid, (exists_entry_iff h).1 ⟨entry, hentry, rfl⟩⟩
  · rintro ⟨id, hp, hu⟩
    obtain ⟨viewer, hv, hid⟩ := exists_viewer_of_subscription hp
    obtain ⟨entry, hentry, hconn⟩ := (exists_entry_iff h).2 hu
    exact ⟨viewer, hv, id, hid, entry, hentry, hconn⟩

/-- The subscribers of a source are those who watch it. -/
theorem watched?_eq_some_iff_mem (h : r.wiring.Linked) {p u : ConnectionId} :
    r.watched? p = some u ↔ p ∈ r.wiring.subscribers u := by
  rw [watched?_eq_some_iff h, h.mem_subscribers]

theorem watched?_of_subscription_eq_none {c : ConnectionId} (h : r.wiring.subscription c = none) :
    r.watched? c = none := by
  cases hv : r.viewer? c with
  | none => simp [watched?, hv]
  | some viewer =>
    rw [subscription_eq hv] at h
    simp [watched?, hv, h]

/-- A viewer watches the source that is listed under the id of its subscription. -/
theorem watched?_of_subscription {c : ConnectionId} {id : String} (h : r.wiring.subscription c = some id) :
    r.watched? c = (r.streamers.find? id).map (·.connection) := by
  obtain ⟨viewer, hv, hid⟩ := exists_viewer_of_subscription h
  simp only [watched?, hv, hid, Option.bind_eq_bind, Option.bind_some]
  cases r.streamers.find? id <;> rfl

theorem watched?_ne_self (h : r.wiring.Linked) (p : ConnectionId) : r.watched? p ≠ some p := by
  rw [Ne, watched?_eq_some_iff_mem h]
  exact h.notMem_subscribers p

end

/-! ### What leaves the wiring alone -/

theorem wiring_withStreamers (r : Relay) (d : StreamerDirectory) :
    wiring { r with streamers := d } = { r.wiring with streamerSlots := d.slots } := rfl

theorem wiring_withPlayers (r : Relay) (d : PlayerDirectory) :
    wiring { r with players := d } =
      { r.wiring with playerSlots := d.slots, nextNumber := d.nextNumber } := rfl

theorem wiring_congr {r r' : Relay} (hs : ∀ d, r'.session? d = r.session? d)
    (hst : r'.streamers.slots = r.streamers.slots) (hp : r'.players = r.players) : r'.wiring = r.wiring := by
  simp only [wiring, source?, viewer?, isSfu, hs, hst, hp]

@[simp] theorem wiring_push (r : Relay) (c : ConnectionId) (f : Outbound) :
    (r.push c f).wiring = r.wiring := rfl

@[simp] theorem wiring_send (r : Relay) (c : ConnectionId) (m : Signal) : (r.send c m).wiring = r.wiring :=
  wiring_congr (by simp) (by simp) (by simp)

@[simp] theorem wiring_stopTimer (r : Relay) (timer : Option Nat) :
    (r.stopTimer timer).wiring = r.wiring := rfl

@[simp] theorem wiring_markStreaming (r : Relay) (c : ConnectionId) (streaming : Bool) :
    (r.markStreaming c streaming).wiring = r.wiring := by
  apply wiring_congr (by simp) _ (by simp)
  unfold markStreaming
  split
  · rfl
  · exact StreamerDirectory.slots_markStreaming _ _ _

/-! ### Sides of sessions -/

theorem wiring_adjustSource (r : Relay) (c : ConnectionId) (f : Source → Source) :
    (r.adjustSource c f).wiring =
      { r.wiring with
        streamerId := fun d => if d = c then ((r.source? c).map f).bind (·.streamerId)
          else r.wiring.streamerId d
        subscribers := fun d =>
          if d = c then (((r.source? c).map f).map (·.subscribers)).getD [] else r.wiring.subscribers d
        waiting := fun d => if d = c then (((r.source? c).map f).bind (·.timer)).isSome
          else r.wiring.waiting d } := by
  simp only [wiring, source?_adjustSource, viewer?_adjustSource, isSfu_adjustSource, streamers_adjustSource,
    players_adjustSource, Wiring.mk.injEq, and_true]
  refine ⟨?_, ?_, ?_⟩ <;> funext d <;> split
  all_goals first
    | rfl
    | (rename_i hd; subst hd; rfl)

/-- That a source has claimed an id is not in the wiring. -/
theorem wiring_setIdentified (r : Relay) (c : ConnectionId) :
    (r.adjustSource c fun source => { source with identified := true }).wiring = r.wiring := by
  simp only [wiring, source?_adjustSource, viewer?_adjustSource, isSfu_adjustSource, streamers_adjustSource,
    players_adjustSource, Wiring.mk.injEq, and_true]
  refine ⟨?_, ?_, ?_⟩ <;> funext d <;> split <;> cases r.source? d <;> simp

theorem wiring_setStreamerId {r : Relay} {c : ConnectionId} (hc : (r.source? c).isSome) (id : String) :
    (r.adjustSource c fun source => { source with streamerId := some id }).wiring =
      { r.wiring with streamerId := fun d => if d = c then some id else r.wiring.streamerId d } := by
  obtain ⟨source, hs⟩ := Option.isSome_iff_exists.1 hc
  rw [wiring_adjustSource]
  simp only [hs, Option.map_some, Option.bind_some, Option.getD_some, Wiring.mk.injEq, true_and, and_true]
  refine ⟨?_, ?_⟩ <;> funext d <;> split
  all_goals first
    | rfl
    | (rename_i hd; subst hd; simp [wiring, hs])

theorem wiring_setTimer {r : Relay} {c : ConnectionId} (hc : (r.source? c).isSome) (timer : Option Nat) :
    (r.adjustSource c fun source => { source with timer := timer }).wiring =
      r.wiring.setWaiting c timer.isSome := by
  obtain ⟨source, hs⟩ := Option.isSome_iff_exists.1 hc
  rw [wiring_adjustSource]
  simp only [hs, Option.map_some, Option.bind_some, Option.getD_some, Wiring.setWaiting,
    Wiring.mk.injEq, and_true]
  refine ⟨?_, ?_⟩ <;> funext d <;> split
  all_goals first
    | rfl
    | (rename_i hd; subst hd; simp [wiring, hs])

theorem wiring_setSubscribed (r : Relay) (c : ConnectionId) (id : Option String) :
    (r.setSubscribed c id).wiring =
      { r.wiring with subscription := fun d =>
          if d = c then (r.viewer? c).bind fun _ => id else r.wiring.subscription d } := by
  simp only [wiring, source?_setSubscribed, viewer?_setSubscribed, isSfu_setSubscribed,
    streamers_setSubscribed, players_setSubscribed, Wiring.mk.injEq, and_true, true_and]
  refine ⟨?_, ?_⟩ <;> funext d <;> split
  · cases r.viewer? d <;> rfl
  · rfl
  · rename_i hd
    subst hd
    cases r.viewer? d <;> rfl
  · rfl

theorem wiring_insertSession (r : Relay) (c : ConnectionId) (s : Session) :
    (r.insertSession c s).wiring =
      { r.wiring with
        streamerId := fun d => if d = c then s.source?.bind (·.streamerId) else r.wiring.streamerId d
        subscribers := fun d => if d = c then (s.source?.map (·.subscribers)).getD []
          else r.wiring.subscribers d
        waiting := fun d => if d = c then (s.source?.bind (·.timer)).isSome else r.wiring.waiting d
        unit := fun d => if d = c then s.isSfu else r.wiring.unit d
        playerId := fun d => if d = c then s.viewer?.map (·.playerId) else r.wiring.playerId d
        subscription :=
          fun d => if d = c then s.viewer?.bind (·.subscribed) else r.wiring.subscription d } := by
  simp only [wiring, source?, viewer?, isSfu, session?_insertSession, streamers_insertSession,
    players_insertSession, Wiring.mk.injEq, and_true]
  refine ⟨?_, ?_, ?_, ?_, ?_, ?_⟩ <;> funext d <;> split <;> rfl

/-! ### Subscriptions -/

theorem wiring_removeSubscriber (r : Relay) (u p : ConnectionId) :
    (r.adjustSource u (·.removeSubscriber p)).wiring =
      { r.wiring with subscribers := fun d =>
          if d = u then (r.wiring.subscribers d).filter (· ≠ p) else r.wiring.subscribers d } := by
  simp only [wiring, source?_adjustSource, viewer?_adjustSource, isSfu_adjustSource, streamers_adjustSource,
    players_adjustSource, Wiring.mk.injEq, and_true]
  refine ⟨?_, ?_, ?_⟩ <;> funext d <;> split <;> cases r.source? d <;> simp [Source.removeSubscriber]

theorem wiring_addSubscriber {r : Relay} {u p : ConnectionId} (hu : (r.source? u).isSome)
    (hp : p ∉ r.wiring.subscribers u) :
    (r.adjustSource u (·.addSubscriber p)).wiring =
      { r.wiring with subscribers := fun d =>
          if d = u then r.wiring.subscribers d ++ [p] else r.wiring.subscribers d } := by
  obtain ⟨source, hs⟩ := Option.isSome_iff_exists.1 hu
  rw [subscribers_eq hs] at hp
  simp only [wiring, source?_adjustSource, viewer?_adjustSource, isSfu_adjustSource, streamers_adjustSource,
    players_adjustSource, Wiring.mk.injEq, and_true]
  refine ⟨?_, ?_, ?_⟩ <;> funext d <;> split
  all_goals first
    | rfl
    | (rename_i hd; subst hd; simp [hs, Source.addSubscriber, hp])

theorem unsubscribe_eq_self {r : Relay} {c : ConnectionId} (h : r.wiring.subscription c = none) :
    r.unsubscribe c = r := by
  unfold unsubscribe
  cases hv : r.viewer? c with
  | none => rfl
  | some viewer =>
    rw [subscription_eq hv] at h
    simp only [h]

/-- Who ends a subscription has none, or has one to an id that nobody holds, or watches a source, which
is told. -/
theorem unsubscribe_cases (r : Relay) (c : ConnectionId) :
    (r.wiring.subscription c = none ∧ r.watched? c = none ∧ r.unsubscribe c = r) ∨
    (∃ id, r.wiring.subscription c = some id ∧ r.streamers.find? id = none ∧ r.watched? c = none ∧
      r.unsubscribe c = r.setSubscribed c none) ∨
    ∃ id entry viewer, r.wiring.subscription c = some id ∧ r.streamers.find? id = some entry ∧
      r.viewer? c = some viewer ∧ r.watched? c = some entry.connection ∧
      r.unsubscribe c = ((r.setSubscribed c none).adjustSource entry.connection (·.removeSubscriber c)).send
        entry.connection (.playerDisconnected viewer.playerId) := by
  cases hsub : r.wiring.subscription c with
  | none => exact .inl ⟨rfl, watched?_of_subscription_eq_none hsub, unsubscribe_eq_self hsub⟩
  | some id =>
    obtain ⟨viewer, hv, hid⟩ := exists_viewer_of_subscription hsub
    have hwatched := watched?_of_subscription hsub
    cases hentry : r.streamers.find? id with
    | none =>
      rw [hentry, Option.map_none] at hwatched
      refine .inr (.inl ⟨id, rfl, hentry, hwatched, ?_⟩)
      simp only [unsubscribe, hv, hid, streamers_setSubscribed, hentry]
    | some entry =>
      rw [hentry, Option.map_some] at hwatched
      refine .inr (.inr ⟨id, entry, viewer, rfl, hentry, hv, hwatched, ?_⟩)
      simp only [unsubscribe, hv, hid, streamers_setSubscribed, hentry]

/-- Ending a subscription takes the viewer out of the one list that it is in. -/
theorem wiring_unsubscribe {r : Relay} (h : r.wiring.Linked) (c : ConnectionId) :
    (r.unsubscribe c).wiring = r.wiring.release c := by
  have hnone : (r.setSubscribed c none).wiring =
      { r.wiring with subscription := fun d => if d = c then none else r.wiring.subscription d } := by
    rw [wiring_setSubscribed]
    simp
  -- no list but that of the holder of the id can have the viewer
  have hother : ∀ {id}, r.wiring.subscription c = some id → ∀ u, r.wiring.streamerId u ≠ some id →
      (r.wiring.subscribers u).filter (· ≠ c) = r.wiring.subscribers u := by
    intro id hsub u hu
    rw [List.filter_eq_self]
    intro d hd
    have hdc : d ≠ c := fun he => by
      obtain ⟨id', hp, hu'⟩ := h.mem_subscribers.1 (he ▸ hd)
      rw [hsub] at hp
      exact hu (Option.some.inj hp ▸ hu')
    simpa using hdc
  rcases r.unsubscribe_cases c with
    ⟨hsub, -, heq⟩ | ⟨id, hsub, hentry, -, heq⟩ | ⟨id, entry, viewer, hsub, hentry, -, -, heq⟩
  · rw [heq, h.release_eq_self hsub]
  · rw [heq, hnone]
    simp only [Wiring.release, Wiring.mk.injEq, true_and, and_true]
    funext u
    refine (hother hsub u fun hu => ?_).symm
    obtain ⟨entry, he, -⟩ := (exists_entry_iff h).2 hu
    rw [hentry] at he
    cases he
  · have howner : r.wiring.streamerId entry.connection = some id :=
      (exists_entry_iff h).1 ⟨entry, hentry, rfl⟩
    rw [heq, wiring_send, wiring_removeSubscriber, hnone]
    simp only [Wiring.release, Wiring.mk.injEq, true_and, and_true]
    funext u
    by_cases hu : u = entry.connection
    · simp [hu]
    · simp only [hu, if_false]
      exact (hother hsub u fun he => hu (h.streamerId_inj he howner)).symm

/-- What the end of the subscription of `c` changes in the session of `d`: a viewer has none any more, and
its source does not list it. -/
def detached (r : Relay) (c d : ConnectionId) (s : Session) : Session :=
  let s := if d = c then s.mapViewer fun viewer => { viewer with subscribed := none } else s
  if r.watched? c = some d then s.mapSource (·.removeSubscriber c) else s

private theorem mapViewer_eq_self {s : Session} (h : s.viewer?.bind (·.subscribed) = none) :
    (s.mapViewer fun viewer => { viewer with subscribed := none }) = s := by
  cases s with
  | streamer source => rfl
  | player viewer =>
    obtain ⟨id, subscribed, sendOffer⟩ := viewer
    obtain rfl : subscribed = none := h
    rfl
  | sfu source viewer =>
    obtain ⟨id, subscribed, sendOffer⟩ := viewer
    obtain rfl : subscribed = none := h
    rfl

theorem session?_unsubscribe (r : Relay) (c d : ConnectionId) :
    (r.unsubscribe c).session? d = (r.session? d).map (r.detached c d) := by
  rcases r.unsubscribe_cases c with
    ⟨hsub, hwatched, heq⟩ | ⟨_, -, -, hwatched, heq⟩ | ⟨_, entry, _, -, -, -, hwatched, heq⟩
  · rw [heq]
    cases hs : r.session? d with
    | none => rfl
    | some s =>
      simp only [detached, hwatched, Option.map_some, reduceCtorEq, if_false]
      by_cases hd : d = c
      · subst hd
        rw [if_pos rfl, mapViewer_eq_self (by simpa [wiring, viewer?, hs] using hsub)]
      · rw [if_neg hd]
  · rw [heq, session?_setSubscribed]
    cases r.session? d with
    | none => simp
    | some s => by_cases hd : d = c <;> simp [detached, hwatched, hd]
  · rw [heq, session?_send, session?_adjustSource, session?_setSubscribed]
    cases r.session? d with
    | none => simp
    | some s =>
      have hu : some entry.connection = some d ↔ d = entry.connection := by
        rw [Option.some.injEq]
        exact eq_comm
      simp only [detached, hwatched, hu, Option.map_some, apply_ite (Option.map (Session.mapSource _))]
      split <;> split <;> rfl

/-- Only the source hears of it. -/
theorem outbox_unsubscribe {r : Relay} (h : r.wiring.Linked) (c d : ConnectionId) :
    (r.unsubscribe c).outbox d = (r.outbox d).pushAll (if r.watched? c = some d then
      (r.wiring.playerId c).toList.map fun id => .message (.playerDisconnected id) else []) := by
  rcases r.unsubscribe_cases c with
    ⟨-, hwatched, heq⟩ | ⟨_, -, -, hwatched, heq⟩ | ⟨id, entry, viewer, -, hentry, hv, hwatched, heq⟩
  · simp [heq, hwatched]
  · simp [heq, hwatched]
  · obtain ⟨source, hsource, -⟩ := exists_source_of_streamerId ((exists_entry_iff h).1 ⟨entry, hentry, rfl⟩)
    have hlive : (((r.setSubscribed c none).adjustSource entry.connection (·.removeSubscriber c)).session?
        entry.connection).isSome := by
      obtain ⟨s, hs, -⟩ := Option.bind_eq_some_iff.1 hsource
      rw [session?_adjustSource, session?_setSubscribed]
      by_cases hc : entry.connection = c <;> simp_all
    rw [heq, outbox_send, outbox_adjustSource, outbox_setSubscribed, playerId_eq hv]
    by_cases hd : d = entry.connection
    · subst hd
      simp [hlive, hwatched]
    · have hne : entry.connection ≠ d := fun he => hd he.symm
      simp [hd, hwatched, hne]

@[simp] theorem ambient_unsubscribe (r : Relay) (c : ConnectionId) :
    (r.unsubscribe c).ambient = r.ambient := by
  rcases r.unsubscribe_cases c with ⟨-, -, h⟩ | ⟨_, -, -, -, h⟩ | ⟨_, _, _, -, -, -, -, h⟩ <;> simp [h]

@[simp] theorem isSfu_unsubscribe (r : Relay) (c d : ConnectionId) :
    (r.unsubscribe c).isSfu d = r.isSfu d := by
  simp only [isSfu, session?_unsubscribe]
  cases r.session? d with
  | none => rfl
  | some s =>
    simp only [Option.map_some, Option.any_some, Session.isSfu, detached]
    split <;> split <;> simp

@[simp] theorem streamers_unsubscribe (r : Relay) (c : ConnectionId) :
    (r.unsubscribe c).streamers = r.streamers := by
  rcases r.unsubscribe_cases c with ⟨-, -, h⟩ | ⟨_, -, -, -, h⟩ | ⟨_, _, _, -, -, -, -, h⟩ <;> simp [h]

@[simp] theorem players_unsubscribe (r : Relay) (c : ConnectionId) :
    (r.unsubscribe c).players = r.players := by
  rcases r.unsubscribe_cases c with ⟨-, -, h⟩ | ⟨_, -, -, -, h⟩ | ⟨_, _, _, -, -, -, -, h⟩ <;> simp [h]

theorem subscribe_eq_of_missing {r : Relay} {id : String} (hentry : r.streamers.find? id = none)
    (c : ConnectionId) :
    r.subscribe c id = r.send c (.subscribeFailed (missingStreamer id)) := by
  simp only [subscribe, hentry]

theorem subscribe_eq_self {r : Relay} {c : ConnectionId} {id : String} {entry : ListedStreamer}
    (hentry : r.streamers.find? id = some entry) (hc : entry.connection = c ∨ r.viewer? c = none) :
    r.subscribe c id = r := by
  simp only [subscribe, hentry]
  split
  · rfl
  · rename_i hne
    rw [hc.resolve_left hne]

/-- A viewer that subscribes to somebody else leaves its old source first. -/
theorem subscribe_eq_of_listed {r : Relay} {c : ConnectionId} {id : String} {entry : ListedStreamer}
    {viewer : Viewer} (hentry : r.streamers.find? id = some entry) (hne : entry.connection ≠ c)
    (hv : r.viewer? c = some viewer) :
    r.subscribe c id =
      (((r.unsubscribe c).setSubscribed c (some id)).adjustSource entry.connection (·.addSubscriber c)).send
        entry.connection (.playerConnected viewer.playerId true ((r.unsubscribe c).isSfu c)
        viewer.sendOffer) := by
  simp [subscribe, hentry, hne, hv]

theorem wiring_subscribe {r : Relay} (h : r.wiring.Linked) {c : ConnectionId} {id : String}
    {entry : ListedStreamer} {viewer : Viewer} (hentry : r.streamers.find? id = some entry)
    (hne : entry.connection ≠ c) (hv : r.viewer? c = some viewer) :
    (r.subscribe c id).wiring = (r.wiring.release c).attach c entry.connection id := by
  have howner : r.wiring.streamerId entry.connection = some id := (exists_entry_iff h).1 ⟨entry, hentry, rfl⟩
  have hw := wiring_unsubscribe h c
  -- the viewer is still there, and so is the source
  have hviewer : ((r.unsubscribe c).viewer? c).isSome := by
    have : (r.unsubscribe c).wiring.playerId c = some viewer.playerId := by
      rw [hw]
      exact playerId_eq hv
    obtain ⟨viewer', hv', -⟩ := exists_viewer_of_playerId this
    rw [hv']
    rfl
  have hsource : ((r.unsubscribe c).source? entry.connection).isSome := by
    have : (r.unsubscribe c).wiring.streamerId entry.connection = some id := by
      rw [hw]
      exact howner
    obtain ⟨source, hs, -⟩ := exists_source_of_streamerId this
    rw [hs]
    rfl
  have hset : ((r.unsubscribe c).setSubscribed c (some id)).wiring =
      { r.wiring.release c with
        subscription := fun d => if d = c then some id else (r.wiring.release c).subscription d } := by
    obtain ⟨viewer', hv'⟩ := Option.isSome_iff_exists.1 hviewer
    rw [wiring_setSubscribed, hw, hv']
    rfl
  have hfree : c ∉ ((r.unsubscribe c).setSubscribed c (some id)).wiring.subscribers entry.connection := by
    rw [hset]
    simp [Wiring.release]
  rw [subscribe_eq_of_listed hentry hne hv, wiring_send,
    wiring_addSubscriber (by simpa using hsource) hfree, hset]
  rfl

/-- Subscribing keeps the wiring sound, whatever comes of it. -/
theorem sound_subscribe {r : Relay} (h : r.wiring.Sound) (c : ConnectionId) (id : String) :
    (r.subscribe c id).wiring.Sound := by
  cases hentry : r.streamers.find? id with
  | none =>
    rw [subscribe_eq_of_missing hentry, wiring_send]
    exact h
  | some entry =>
    by_cases hne : entry.connection = c
    · rw [subscribe_eq_self hentry (.inl hne)]
      exact h
    · cases hv : r.viewer? c with
      | none =>
        rw [subscribe_eq_self hentry (.inr hv)]
        exact h
      | some viewer =>
        rw [wiring_subscribe h.toLinked hentry hne hv]
        have howner := (exists_entry_iff h.toLinked).1 ⟨entry, hentry, rfl⟩
        exact (h.release c).attach (by simp [Wiring.release]) howner hne

end Relay

end SignalRelay
