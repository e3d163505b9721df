import SignalRelay.Proofs.Relay.Runs

/-!
# Switching sources

A viewer that asks for a source gets it, or nothing happens but that it is told why.  There is nothing in
between: who cannot have the new source keeps the old one, on both sides.

* `Switched` says part by part what becomes of a relay when a viewer leaves the source that it watches, if it
  watches one, and comes to another one or to none; `switched_unsubscribe` and `switched_subscribe` show it.
* `outbox_subscribe`: the old source hears of it first, and then the new one, which may be the same.
* `subscribing_is_all_or_nothing` puts this together, after every run.
-/

namespace SignalRelay

/-- A subscriber that was taken off a list is added at its end. -/
private theorem Source.addSubscriber_removeSubscriber (source : Source) (p : ConnectionId) :
    (source.removeSubscriber p).addSubscriber p =
      { source with subscribers := source.subscribers.filter (· ≠ p) ++ [p] } := by
  simp [addSubscriber, removeSubscriber]

private theorem Source.removeSubscriber_of_notMem {source : Source} {p : ConnectionId}
    (h : p ∉ source.subscribers) :
    source.removeSubscriber p = source := by
  have hself : source.subscribers.filter (· ≠ p) = source.subscribers := by
    rw [List.filter_eq_self]
    intro d hd
    have hne : d ≠ p := fun he => h (he ▸ hd)
    simpa using hne
  rw [removeSubscriber, hself]

private theorem Session.mapSource_mapSource (f g : Source → Source) (s : Session) :
    (s.mapSource f).mapSource g = s.mapSource fun source => g (f source) := by
  cases s <;> rfl

private theorem Session.mapViewer_setSubscribed (first second : Option String) (s : Session) :
    ((s.mapViewer fun viewer => { viewer with subscribed := first }).mapViewer fun viewer =>
      { viewer with subscribed := second }) = s.mapViewer fun viewer =>
        { viewer with subscribed := second } := by
  cases s <;> rfl

/-- A source side that is left as it is leaves the session as it is. -/
private theorem Session.mapSource_eq_self {f : Source → Source} {s : Session}
    (h : ∀ source, s.source? = some source → f source = source) : s.mapSource f = s := by
  cases s with
  | streamer source => exact congrArg Session.streamer (h source rfl)
  | player viewer => rfl
  | sfu source viewer => exact congrArg (Session.sfu · viewer) (h source rfl)

namespace Relay

/-- The relay `r'` is `r` after the viewer `p` has left the source that it watched, if it watched one, and
has come to `target`, an id and the connection that holds it, or to nobody.  Apart from the queues,
everything else is as it was. -/
structure Switched (r : Relay) (p : ConnectionId) (target : Option (String × ConnectionId))
    (r' : Relay) : Prop where
  session_self : ∃ s, r.session? p = some s ∧ s.viewer?.isSome ∧
    r'.session? p = some (s.mapViewer fun viewer => { viewer with subscribed := target.map Prod.fst })
  session_left : ∀ u, r.watched? p = some u → target.map Prod.snd ≠ some u → ∃ s, r.session? u = some s ∧
    s.source?.isSome ∧ r'.session? u = some (s.mapSource fun source =>
      { source with subscribers := source.subscribers.filter (· ≠ p) })
  session_joined : ∀ u, target.map Prod.snd = some u → ∃ s, r.session? u = some s ∧ s.source?.isSome ∧
    r'.session? u = some (s.mapSource fun source =>
      { source with subscribers := source.subscribers.filter (· ≠ p) ++ [p] })
  session_other : ∀ d, d ≠ p → r.watched? p ≠ some d → target.map Prod.snd ≠ some d →
    r'.session? d = r.session? d
  watched : r'.watched? p = target.map Prod.snd
  streamers : r'.streamers = r.streamers
  players : r'.players = r.players
  ambient : r'.ambient = r.ambient

section
variable {r : Relay} {p : ConnectionId} {id : String} {entry : ListedStreamer} {viewer : Viewer}

/-! ### Sessions -/

theorem exists_session_of_viewer? (hv : r.viewer? p = some viewer) :
    ∃ s, r.session? p = some s ∧ s.viewer? = some viewer :=
  Option.bind_eq_some_iff.1 hv

theorem exists_session_of_source? {u : ConnectionId} (hu : (r.source? u).isSome) :
    ∃ s, r.session? u = some s ∧ s.source?.isSome := by
  obtain ⟨source, hsource⟩ := Option.isSome_iff_exists.1 hu
  obtain ⟨s, hs, hsource⟩ := Option.bind_eq_some_iff.1 hsource
  exact ⟨s, hs, by rw [hsource]; rfl⟩

theorem session?_unsubscribe_self (h : r.wiring.Linked) (p : ConnectionId) :
    (r.unsubscribe p).session? p =
      (r.session? p).map (Session.mapViewer fun viewer => { viewer with subscribed := none }) := by
  have hself : r.detached p p = Session.mapViewer fun viewer => { viewer with subscribed := none } := by
    funext s
    rw [detached, if_pos rfl, if_neg (watched?_ne_self h p)]
  rw [session?_unsubscribe, hself]

/-- A viewer that leaves is on no list any more, and on most lists it has not been. -/
theorem session?_unsubscribe_of_ne (h : r.wiring.Linked) {d : ConnectionId} (hd : d ≠ p) :
    (r.unsubscribe p).session? d = (r.session? d).map (Session.mapSource (·.removeSubscriber p)) := by
  rw [session?_unsubscribe]
  cases hs : r.session? d with
  | none => rfl
  | some s =>
    simp only [Option.map_some, detached, if_neg hd, Option.some.injEq]
    by_cases hwatch : r.watched? p = some d
    · rw [if_pos hwatch]
    · rw [if_neg hwatch]
      refine (Session.mapSource_eq_self fun source hsource => Source.removeSubscriber_of_notMem
        fun hmem => ?_).symm
      have hlisted : r.source? d = some source := (source?_of_session? hs).trans hsource
      exact hwatch ((watched?_eq_some_iff_mem h).2 (subscribers_eq hlisted ▸ hmem))

/-- What subscribing does to the sessions, after the viewer has left its old source. -/
private theorem session?_subscribe (hentry : r.streamers.find? id = some entry) (hne : entry.connection ≠ p)
    (hv : r.viewer? p = some viewer) (d : ConnectionId) :
    (r.subscribe p id).session? d =
      if d = entry.connection then
        ((r.unsubscribe p).session? d).map (Session.mapSource (·.addSubscriber p))
      else if d = p then
        ((r.unsubscribe p).session? d).map (Session.mapViewer fun viewer =>
          { viewer with subscribed := some id })
      else (r.unsubscribe p).session? d := by
  rw [subscribe_eq_of_listed hentry hne hv, session?_send, session?_adjustSource, session?_setSubscribed]
  by_cases hd : d = entry.connection
  · have hdp : d ≠ p := fun he => hne (hd.symm.trans he)
    rw [if_pos hd, if_pos hd, if_neg hdp]
  · rw [if_neg hd, if_neg hd]

/-- Subscribing leaves the directories and the timers alone. -/
private theorem subscribe_frame (hentry : r.streamers.find? id = some entry) (hne : entry.connection ≠ p)
    (hv : r.viewer? p = some viewer) : (r.subscribe p id).streamers = r.streamers ∧
      (r.subscribe p id).players = r.players ∧ (r.subscribe p id).ambient = r.ambient := by
  rw [subscribe_eq_of_listed hentry hne hv]
  simp

/-! ### Leaving and coming -/

theorem switched_unsubscribe (h : r.wiring.Sound) (hv : r.viewer? p = some viewer) :
    Switched r p none (r.unsubscribe p) where
  session_self := by
    obtain ⟨s, hs, hviewer⟩ := exists_session_of_viewer? hv
    refine ⟨s, hs, by rw [hviewer]; rfl, ?_⟩
    rw [session?_unsubscribe_self h.toLinked, hs]
    rfl
  session_left := by
    intro u hwatch _
    have hu : u ≠ p := fun he => watched?_ne_self h.toLinked p (he ▸ hwatch)
    obtain ⟨s, hs, hsource⟩ := exists_session_of_source? (isSome_source?_of_watched? h.toLinked hwatch)
    refine ⟨s, hs, hsource, ?_⟩
    rw [session?_unsubscribe_of_ne h.toLinked hu, hs]
    rfl
  session_joined u hu := by cases hu
  session_other := by
    intro d hd hwatch _
    rw [session?_unsubscribe]
    cases r.session? d with
    | none => rfl
    | some s => rw [Option.map_some, detached, if_neg hd, if_neg hwatch]
  watched := by
    refine watched?_of_subscription_eq_none ?_
    rw [wiring_unsubscribe h.toLinked]
    simp [Wiring.release]
  streamers := streamers_unsubscribe r p
  players := players_unsubscribe r p
  ambient := ambient_unsubscribe r p

theorem switched_subscribe (h : r.wiring.Sound) (hentry : r.streamers.find? id = some entry)
    (hne : entry.connection ≠ p) (hv : r.viewer? p = some viewer) :
    Switched r p (some (id, entry.connection)) (r.subscribe p id) where
  session_self := by
    obtain ⟨s, hs, hviewer⟩ := exists_session_of_viewer? hv
    refine ⟨s, hs, by rw [hviewer]; rfl, ?_⟩
    rw [session?_subscribe hentry hne hv, if_neg (Ne.symm hne), if_pos rfl,
      session?_unsubscribe_self h.toLinked, hs]
    exact congrArg some (Session.mapViewer_setSubscribed none (some id) s)
  session_left := by
    intro u hwatch hu
    have hup : u ≠ p := fun he => watched?_ne_self h.toLinked p (he ▸ hwatch)
    have hunew : u ≠ entry.connection := fun he => hu (congrArg some he.symm)
    obtain ⟨s, hs, hsource⟩ := exists_session_of_source? (isSome_source?_of_watched? h.toLinked hwatch)
    refine ⟨s, hs, hsource, ?_⟩
    rw [session?_subscribe hentry hne hv, if_neg hunew, if_neg hup,
      session?_unsubscribe_of_ne h.toLinked hup, hs]
    rfl
  session_joined := by
    intro u hu
    obtain rfl : entry.connection = u := Option.some.inj hu
    have howner := (exists_entry_iff h.toLinked).1 ⟨entry, hentry, rfl⟩
    obtain ⟨s, hs, hsource⟩ := exists_session_of_source? (isSome_source?_of_streamerId howner)
    refine ⟨s, hs, hsource, ?_⟩
    rw [session?_subscribe hentry hne hv, if_pos rfl, session?_unsubscribe_of_ne h.toLinked hne, hs,
      Option.map_some, Option.map_some, Session.mapSource_mapSource]
    simp only [Source.addSubscriber_removeSubscriber]
  session_other := by
    intro d hd hwatch hnew
    have hdnew : d ≠ entry.connection := fun he => hnew (congrArg some he.symm)
    rw [session?_subscribe hentry hne hv, if_neg hdnew, if_neg hd]
    exact (switched_unsubscribe h hv).session_other d hd hwatch (by simp)
  watched := watched?_subscribe h hentry hne hv
  streamers := (subscribe_frame hentry hne hv).1
  players := (subscribe_frame hentry hne hv).2.1
  ambient := (subscribe_frame hentry hne hv).2.2

/-! ### What is queued -/

/-- The source that a viewer leaves is told, and nobody else. -/
theorem outbox_unsubscribe_of_viewer? (h : r.wiring.Linked) (hv : r.viewer? p = some viewer)
    (u : ConnectionId) :
    (r.unsubscribe p).outbox u = (r.outbox u).pushAll
      (if r.watched? p = some u then [.message (.playerDisconnected viewer.playerId)] else []) := by
  rw [outbox_unsubscribe h, playerId_eq hv]
  rfl

/-- The source that a viewer leaves is told first, and then the one that it comes to. -/
theorem outbox_subscribe (h : r.wiring.Linked) (hentry : r.streamers.find? id = some entry)
    (hne : entry.connection ≠ p) (hv : r.viewer? p = some viewer) (u : ConnectionId) :
    (r.subscribe p id).outbox u = (r.outbox u).pushAll
      ((if r.watched? p = some u then [.message (.playerDisconnected viewer.playerId)] else []) ++
        if u = entry.connection then
          [.message (.playerConnected viewer.playerId true (r.isSfu p) viewer.sendOffer)] else []) := by
  rw [(sends_subscribe h hentry hne hv).outbox, outbox_unsubscribe_of_viewer? h hv, Outbox.pushAll_pushAll]
  rfl

/-! ### After every run -/

theorem Switched.viewer? {target : Option (String × ConnectionId)} {r' : Relay} (h : Switched r p target r')
    (hv : r.viewer? p = some viewer) :
    r'.viewer? p = some { viewer with subscribed := target.map Prod.fst } := by
  obtain ⟨s, hs, -, hs'⟩ := h.session_self
  have hviewer : s.viewer? = some viewer := by simpa [Relay.viewer?, hs] using hv
  rw [Relay.viewer?, hs', Option.bind_some, Session.viewer?_mapViewer, hviewer]
  rfl

/-- Who is not subscribed watches nobody. -/
theorem watched?_of_subscribed (hv : r.viewer? p = some viewer) (hsub : viewer.subscribed = none) :
    r.watched? p = none :=
  watched?_of_subscription_eq_none ((subscription_eq hv).trans hsub)

/-- A subscription leads to the source that it names. -/
theorem exists_entry_of_subscribed (h : r.wiring.Sound) (hv : r.viewer? p = some viewer)
    (hid : viewer.subscribed = some id) :
    ∃ entry, r.streamers.find? id = some entry ∧ r.watched? p = some entry.connection := by
  have hsub := (subscription_eq hv).trans hid
  obtain ⟨u, hu⟩ := h.resolves hsub
  obtain ⟨entry, hentry, rfl⟩ := (exists_entry_iff h.toLinked).2 hu
  exact ⟨entry, hentry, (watched?_eq_some_iff h.toLinked).2 ⟨id, hsub, hu⟩⟩

/-- A forwarding unit acts as a player does in what it shares with players. -/
theorem handle_eq_handlePlayer {m : Signal} (hv : r.viewer? p = some viewer)
    (hm : r.handleSfu p m = r.handlePlayer p m) : r.handle p m = r.handlePlayer p m := by
  obtain ⟨s, hs, hviewer⟩ := exists_session_of_viewer? hv
  have hrole := role?_of_session? hs
  cases s with
  | streamer source => cases hviewer
  | player viewer => simp only [handle, hrole, Session.role]
  | sfu source viewer => simp only [handle, hrole, Session.role, hm]

/-- A viewer with a subscription is on the list of the source that it names.  When it asks for an id that
is not registered it is told so and nothing else happens, and when it asks for its own nothing happens at
all.  In any other case it leaves its old source and comes to the new one, even if that is the same, the
two are told in this order, and unsubscribing then makes it leave again. -/
theorem subscribing_is_all_or_nothing (settings : Settings) (ops : List Operation)
    (hops : (fresh settings).Allows ops) (p : ConnectionId) (viewer : Viewer) (id : String)
    (hv : ((fresh settings).run ops).viewer? p = some viewer) :
    let r := (fresh settings).run ops
    let r' := r.handle p (.subscribe id)
    let r'' := r'.handle p .unsubscribe
    (∀ old, viewer.subscribed = some old → ∃ entry source, r.streamers.find? old = some entry ∧
      r.watched? p = some entry.connection ∧ r.source? entry.connection = some source ∧
        p ∈ source.subscribers) ∧
    (r.streamers.find? id = none → r' = r.push p (.message (.subscribeFailed (missingStreamer id)))) ∧
    ∀ entry, r.streamers.find? id = some entry →
      (entry.connection = p → r' = r) ∧
      (entry.connection ≠ p →
        (Switched r p (some (id, entry.connection)) r' ∧ ∀ u, r'.outbox u = (r.outbox u).pushAll
          ((if r.watched? p = some u then [.message (.playerDisconnected viewer.playerId)] else []) ++
            if u = entry.connection then
              [.message (.playerConnected viewer.playerId true (r.isSfu p) viewer.sendOffer)] else [])) ∧
        Switched r' p none r'' ∧ ∀ u, r''.outbox u = (r'.outbox u).pushAll
          (if u = entry.connection then [.message (.playerDisconnected viewer.playerId)] else [])) := by
  intro r r' r''
  have h : r.wiring.Sound := sound_run (sound_fresh settings) hops
  have hr' : r' = r.subscribe p id := handle_eq_handlePlayer hv rfl
  refine ⟨fun old hold => ?_, fun hmissing => ?_, fun entry hentry => ⟨fun hself => ?_, fun hne => ?_⟩⟩
  · obtain ⟨entry, hentry, hwatch⟩ := exists_entry_of_subscribed h hv hold
    obtain ⟨source, hs⟩ := Option.isSome_iff_exists.1 (isSome_source?_of_watched? h.toLinked hwatch)
    exact ⟨entry, source, hentry, hwatch, hs,
      subscribers_eq hs ▸ (watched?_eq_some_iff_mem h.toLinked).1 hwatch⟩
  · obtain ⟨s, hs, -⟩ := exists_session_of_viewer? hv
    rw [hr', subscribe_eq_of_missing hmissing, Relay.send, if_pos (by rw [hs]; rfl)]
  · rw [hr', subscribe_eq_self hentry (.inl hself)]
  · have hswitched : Switched r p (some (id, entry.connection)) r' := hr' ▸ switched_subscribe h hentry hne hv
    have hsound : r'.wiring.Sound := hr' ▸ sound_subscribe h p id
    have hv' := hswitched.viewer? hv
    have hr'' : r'' = r'.unsubscribe p := handle_eq_handlePlayer hv' rfl
    refine ⟨⟨hswitched, fun u => ?_⟩, hr'' ▸ switched_unsubscribe hsound hv', fun u => ?_⟩
    · rw [hr', outbox_subscribe h.toLinked hentry hne hv]
    · rw [hr'', outbox_unsubscribe_of_viewer? hsound.toLinked hv', hswitched.watched]
      simp only [Option.map_some, Option.some.injEq, @eq_comm _ entry.connection]

/-- A forwarding unit that a player watches moves from one camera to another. -/
theorem subscribing_is_all_or_nothing_between_cameras :
    let ops : List Operation :=
      [.accept ⟨1⟩ .streamer true, .message ⟨1⟩ (.endpointId "hall"), .accept ⟨2⟩ .sfu true,
        .accept ⟨3⟩ .player true, .message ⟨3⟩ (.subscribe "SFU"), .message ⟨2⟩ (.subscribe "hall"),
        .accept ⟨4⟩ .streamer true, .message ⟨4⟩ (.endpointId "stage")]
    let r := (fresh Settings.standard).run ops
    let r' := r.handle ⟨2⟩ (.subscribe "stage")
    (fresh Settings.standard).Allows ops ∧ r.viewer? ⟨2⟩ = some ⟨"Player0", some "hall", true⟩ ∧
      r.streamers.find? "stage" = some ⟨"stage", ⟨4⟩, true⟩ ∧ Switched r ⟨2⟩ (some ("stage", ⟨4⟩)) r' ∧
      r'.outbox ⟨1⟩ = (r.outbox ⟨1⟩).pushAll [.message (.playerDisconnected "Player0")] ∧
      r'.outbox ⟨4⟩ = (r.outbox ⟨4⟩).pushAll [.message (.playerConnected "Player0" true true true)] ∧
      r'.outbox ⟨3⟩ = r.outbox ⟨3⟩ := by
  intro ops r r'
  have hops : (fresh Settings.standard).Allows ops := by decide +kernel
  have hv : r.viewer? ⟨2⟩ = some ⟨"Player0", some "hall", true⟩ := by decide +kernel
  have hentry : r.streamers.find? "stage" = some ⟨"stage", ⟨4⟩, true⟩ := by decide +kernel
  have hwatch : r.watched? ⟨2⟩ = some ⟨1⟩ := by decide +kernel
  have hunit : r.isSfu ⟨2⟩ = true := by decide +kernel
  obtain ⟨-, -, hlisted⟩ := subscribing_is_all_or_nothing Settings.standard ops hops ⟨2⟩ _ "stage" hv
  obtain ⟨⟨hswitched, hbox⟩, -⟩ := (hlisted _ hentry).2 (by decide)
  refine ⟨hops, hv, hentry, hswitched, ?_, ?_, ?_⟩
  · rw [hbox ⟨1⟩, show ((fresh Settings.standard).run ops).watched? ⟨2⟩ = _ from hwatch]
    rfl
  · rw [hbox ⟨4⟩, show ((fresh Settings.standard).run ops).watched? ⟨2⟩ = _ from hwatch,
      show ((fresh Settings.standard).run ops).isSfu ⟨2⟩ = _ from hunit]
    rfl
  · rw [hbox ⟨3⟩, show ((fresh Settings.standard).run ops).watched? ⟨2⟩ = _ from hwatch]
    rfl

end

end Relay

end SignalRelay
