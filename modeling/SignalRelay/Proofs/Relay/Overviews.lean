import Mathlib.Data.List.Forall2
import Mathlib.Data.List.Perm.Basic
import SignalRelay.Proofs.Relay.Agreement
import SignalRelay.Proofs.Relay.Switching
import SignalRelay.Relay.Overview

/-!
# Overviews of a sound relay

An overview goes through the directories and looks every entry up among the sessions, leaving out what it
does not find.  In a relay whose wiring is sound it finds everything, so an overview is complete and free
of contradictions.

* `ShowsSource` and `ShowsViewer` say that a line of an overview is what there is to say about an entry.
* `forall₂_showsSource` and `forall₂_showsViewer`: the lines are those of the entries, in order and
  without a gap.
* `mem_subscribers_iff_subscribedTo`: the two halves of an overview agree on who watches whom.
* `overviews_are_complete` puts it together for every state that a relay can get into.
-/

namespace SignalRelay

namespace Relay

/-- The line `s` of an overview is what there is to say about the listed source `e`. -/
structure ShowsSource (r : Relay) (e : ListedStreamer) (s : StreamerSummary) : Prop where
  id : s.id = e.id
  streaming : s.streaming = e.streaming
  sfu : s.sfu = r.isSfu e.connection
  /-- All subscribers are shown, each in its place. -/
  source : ∃ source, r.source? e.connection = some source ∧ s.identified = source.identified ∧
    s.subscribers.map some = source.subscribers.map r.playerIdOf?

/-- The line `p` of an overview is what there is to say about the listed viewer `e`. -/
structure ShowsViewer (r : Relay) (e : ListedPlayer) (p : PlayerSummary) : Prop where
  id : p.id = e.id
  sfu : p.sfu = r.isSfu e.connection
  viewer : ∃ viewer, r.viewer? e.connection = some viewer ∧ viewer.playerId = e.id ∧
    p.subscribedTo = viewer.subscribed

/-! ### Lines without a gap -/

section
variable {α β γ : Type} {R : α → β → Prop} {l : List α} {l' : List β}

/-- If something is found for each element, nothing is left out. -/
private theorem forall₂_filterMap {f : α → Option β} (h : ∀ x ∈ l, ∃ y, f x = some y ∧ R x y) :
    List.Forall₂ R l (l.filterMap f) := by
  induction l with
  | nil => exact .nil
  | cons x l ih =>
    obtain ⟨y, hy, hR⟩ := h x List.mem_cons_self
    rw [List.filterMap_cons_some hy]
    exact .cons hR (ih fun z hz => h z (List.mem_cons_of_mem _ hz))

private theorem map_eq_of_forall₂ {f : α → γ} {g : β → γ} (h : List.Forall₂ R l l')
    (hR : ∀ x y, R x y → g y = f x) : l'.map g = l.map f := by
  induction h with
  | nil => rfl
  | cons hxy _ ih => rw [List.map_cons, List.map_cons, hR _ _ hxy, ih]

private theorem exists_right_of_forall₂ (h : List.Forall₂ R l l') {x : α} (hx : x ∈ l) : ∃ y ∈ l', R x y := by
  induction h with
  | nil => cases hx
  | cons hxy _ ih =>
    rcases List.mem_cons.1 hx with rfl | hx
    · exact ⟨_, List.mem_cons_self, hxy⟩
    · obtain ⟨y, hy, hR⟩ := ih hx
      exact ⟨y, List.mem_cons_of_mem _ hy, hR⟩

private theorem exists_left_of_forall₂ (h : List.Forall₂ R l l') {y : β} (hy : y ∈ l') : ∃ x ∈ l, R x y :=
  exists_right_of_forall₂ (R := flip R) h.flip hy

/-- Where an option is found for each element, mapping and picking out come to the same. -/
private theorem map_some_filterMap {f : α → Option β} (h : ∀ x ∈ l, ∃ y, f x = some y) :
    (l.filterMap f).map some = l.map f := by
  have hlines : List.Forall₂ (fun x y => f x = some y) l (l.filterMap f) := by
    refine forall₂_filterMap fun x hx => ?_
    obtain ⟨y, hy⟩ := h x hx
    exact ⟨y, hy, hy⟩
  exact map_eq_of_forall₂ hlines fun _ _ hxy => hxy.symm

end

section
variable {r : Relay}

/-- Whoever watches has a player id. -/
theorem exists_playerIdOf? (h : r.wiring.Linked) {p u : ConnectionId} (hp : p ∈ r.wiring.subscribers u) :
    ∃ id, r.playerIdOf? p = some id := by
  obtain ⟨x, hsub, -⟩ := h.mem_subscribers.1 hp
  obtain ⟨viewer, hv, -⟩ := exists_viewer_of_subscription hsub
  exact ⟨viewer.playerId, playerId_eq hv⟩

/-- A listed source has a line of its own. -/
theorem exists_streamerSummary? (h : r.wiring.Linked) {e : ListedStreamer} (he : e ∈ r.streamers.entries) :
    ∃ s, r.streamerSummary? e.id = some s ∧ r.ShowsSource e s := by
  have hfind : r.streamers.find? e.id = some e :=
    (StreamerDirectory.find?_eq_some_iff (streamerIds_nodup h)).2 ⟨he, rfl⟩
  obtain ⟨source, hsource, -⟩ := (exists_streamer_iff h).1 ⟨e, he, rfl, rfl⟩
  obtain ⟨session, hs, hside⟩ := Option.bind_eq_some_iff.1 hsource
  refine ⟨_, by
    simp only [streamerSummary?, hfind, hs, hside, Option.bind_eq_bind, Option.bind_some]; rfl, rfl, rfl, ?_,
    source, hsource, rfl, ?_⟩
  · simp [isSfu, hs]
  · refine map_some_filterMap fun p hp => exists_playerIdOf? h (u := e.connection) ?_
    rw [subscribers_eq hsource]
    exact hp

/-- A listed viewer has a line of its own. -/
theorem exists_playerSummary? (h : r.wiring.Sound) {e : ListedPlayer} (he : e ∈ r.players.entries) :
    ∃ p, r.playerSummary? e.id = some p ∧ r.ShowsViewer e p := by
  have hslot : (e.id, e.connection) ∈ r.players.slots := List.mem_map_of_mem he
  have hfind : r.players.find? e.id = some e.connection :=
    (PlayerDirectory.mem_slots_iff (playerIds_nodup h.toLinked)).1 hslot
  obtain ⟨viewer, hv, hid⟩ := (players_find?_iff h).1 hfind
  obtain ⟨session, hs, hside⟩ := Option.bind_eq_some_iff.1 hv
  refine ⟨_, by
    simp only [playerSummary?, hfind, hs, hside, Option.bind_eq_bind, Option.bind_some]; rfl, rfl, ?_,
    viewer, hv, hid, rfl⟩
  simp [isSfu, hs]

theorem forall₂_showsSource (h : r.wiring.Linked) :
    List.Forall₂ r.ShowsSource r.streamers.entries r.overview.streamers := by
  unfold overview StreamerDirectory.ids
  rw [List.filterMap_map]
  exact forall₂_filterMap fun e he => exists_streamerSummary? h he

theorem forall₂_showsViewer (h : r.wiring.Sound) :
    List.Forall₂ r.ShowsViewer r.players.listing r.overview.players := by
  unfold overview PlayerDirectory.ids
  rw [List.filterMap_map]
  exact forall₂_filterMap fun e he => exists_playerSummary? h (PlayerDirectory.mem_listing_iff.1 he)

/-! ### What the lines say -/

theorem ids_overview_streamers (h : r.wiring.Linked) : r.overview.streamers.map (·.id) = r.streamers.ids :=
  map_eq_of_forall₂ (forall₂_showsSource h) fun _ _ hline => hline.id

theorem ids_overview_players (h : r.wiring.Sound) : r.overview.players.map (·.id) = r.players.ids :=
  map_eq_of_forall₂ (forall₂_showsViewer h) fun _ _ hline => hline.id

/-- A line names the viewers that watch its source. -/
theorem ShowsSource.mem_subscribers_iff {e : ListedStreamer} {s : StreamerSummary} (h : r.ShowsSource e s)
    {id : String} :
    id ∈ s.subscribers ↔ ∃ p ∈ r.wiring.subscribers e.connection, r.playerIdOf? p = some id := by
  obtain ⟨source, hsource, -, hsubscribers⟩ := h.source
  rw [subscribers_eq hsource, ← List.mem_map, ← hsubscribers, List.mem_map]
  simp

/-- No viewer is named twice, since nobody subscribes twice and player ids are told apart. -/
theorem ShowsSource.subscribers_nodup {e : ListedStreamer} {s : StreamerSummary} (h : r.ShowsSource e s)
    (hr : r.wiring.Linked) : s.subscribers.Nodup := by
  obtain ⟨source, hsource, -, hsubscribers⟩ := h.source
  have hnodup : (source.subscribers.map r.playerIdOf?).Nodup := by
    rw [← subscribers_eq hsource]
    refine (hr.subscribers_nodup e.connection).map_on fun p hp q hq hpq => ?_
    obtain ⟨id, hid⟩ := exists_playerIdOf? hr hp
    exact hr.playerId_inj hid (hpq.symm.trans hid)
  rw [← hsubscribers] at hnodup
  exact hnodup.of_map some

/-- A viewer is named in the line of a source exactly if its own line names the source. -/
theorem mem_subscribers_iff_subscribedTo (h : r.wiring.Sound) {id x : String} :
    (∃ s ∈ r.overview.streamers, s.id = x ∧ id ∈ s.subscribers) ↔
      ∃ p ∈ r.overview.players, p.id = id ∧ p.subscribedTo = some x := by
  constructor
  · rintro ⟨s, hs, rfl, hid⟩
    obtain ⟨e, he, hline⟩ := exists_left_of_forall₂ (forall₂_showsSource h.toLinked) hs
    obtain ⟨p, hp, hname⟩ := hline.mem_subscribers_iff.1 hid
    obtain ⟨x, hsub, howner⟩ := h.mem_subscribers.1 hp
    -- the entry of the viewer is the one with its id
    obtain ⟨e', he', hslot⟩ := List.mem_map.1 (h.mem_playerSlots hname)
    obtain ⟨rfl, rfl⟩ := Prod.mk.inj hslot
    obtain ⟨p', hp', hline'⟩ :=
      exists_right_of_forall₂ (forall₂_showsViewer h) (PlayerDirectory.mem_listing_iff.2 he')
    obtain ⟨viewer, hv, -, hto⟩ := hline'.viewer
    refine ⟨p', hp', hline'.id, ?_⟩
    have hentry : r.wiring.streamerId e.connection = some e.id :=
      h.mem_streamerSlots.1 (StreamerDirectory.mem_slots_iff_entry.2 ⟨e, he, rfl, rfl⟩)
    rw [hto, ← subscription_eq hv, hsub, hline.id, ← howner, hentry]
  · rintro ⟨p, hp, rfl, hto⟩
    obtain ⟨e, he, hline⟩ := exists_left_of_forall₂ (forall₂_showsViewer h) hp
    obtain ⟨viewer, hv, hid, hsubscribed⟩ := hline.viewer
    have hsub : r.wiring.subscription e.connection = some x := by rw [subscription_eq hv, ← hsubscribed, hto]
    obtain ⟨u, hu⟩ := h.resolves hsub
    obtain ⟨e', he', rfl, rfl⟩ := StreamerDirectory.mem_slots_iff_entry.1 (h.mem_streamerSlots.2 hu)
    obtain ⟨s, hs, hline'⟩ := exists_right_of_forall₂ (forall₂_showsSource h.toLinked) he'
    refine ⟨s, hs, hline'.id,
      hline'.mem_subscribers_iff.2 ⟨e.connection, h.mem_subscribers.2 ⟨_, hsub, hu⟩, ?_⟩⟩
    rw [hline.id, ← hid]
    exact playerId_eq hv

/-- The connections of the listed sources that are forwarding units are those of the listed viewers that
are. -/
private theorem perm_units (h : r.wiring.Sound) :
    ((r.streamers.entries.map (·.connection)).filter r.isSfu).Perm
      ((r.players.listing.map (·.connection)).filter r.isSfu) := by
  have hlisted : (r.players.listing.map (·.connection)).Perm (r.players.entries.map (·.connection)) :=
    (PlayerDirectory.byNumber_perm r.players.entries).map _
  refine .trans ?_ (hlisted.filter r.isSfu).symm
  refine (List.perm_ext_iff_of_nodup ((streamerConnections_nodup h).filter _)
    ((playerConnections_nodup h).filter _)).2 fun c => ?_
  rw [List.mem_filter, List.mem_filter]
  constructor
  · rintro ⟨-, hc⟩
    exact ⟨(mem_connections_of_isSfu h hc).2, hc⟩
  · rintro ⟨-, hc⟩
    exact ⟨(mem_connections_of_isSfu h hc).1, hc⟩

/-- There are as many forwarding units among the sources as among the viewers. -/
theorem length_units_eq (h : r.wiring.Sound) :
    (r.overview.streamers.filter (·.sfu)).length = (r.overview.players.filter (·.sfu)).length := by
  have hstreamers :
      r.overview.streamers.map (·.sfu) = (r.streamers.entries.map (·.connection)).map r.isSfu := by
    rw [List.map_map]
    exact map_eq_of_forall₂ (forall₂_showsSource h.toLinked) fun _ _ hline => hline.sfu
  have hplayers : r.overview.players.map (·.sfu) = (r.players.listing.map (·.connection)).map r.isSfu := by
    rw [List.map_map]
    exact map_eq_of_forall₂ (forall₂_showsViewer h) fun _ _ hline => hline.sfu
  have hcount : ∀ {α : Type} (l : List α) (f : α → Bool), (l.filter f).length = (l.map f).count true := by
    intro α l f
    simp [← List.countP_eq_length_filter, List.count_eq_countP, List.countP_map, Function.comp_def]
  rw [hcount, hcount, hstreamers, hplayers, ← hcount, ← hcount]
  exact (perm_units h).length_eq

theorem streamingIds_overview (h : r.wiring.Linked) :
    r.overview.streamingIds = (r.overview.streamers.filter (·.streaming)).map (·.id) := by
  have hpairs : r.overview.streamers.map (fun s => (s.id, s.streaming)) =
      r.streamers.entries.map fun e => (e.id, e.streaming) :=
    map_eq_of_forall₂ (forall₂_showsSource h) fun _ _ hline => by rw [hline.id, hline.streaming]
  have hpick := congrArg (fun l => (l.filter Prod.snd).map Prod.fst) hpairs
  simpa [List.filter_map, Function.comp_def, overview, StreamerDirectory.streamingIds] using hpick.symm

end

/-- An overview is complete and agrees with itself.  It lists all registered sources and viewers in order,
and a viewer that asks for the sources is told the same ids; each line says what there is to say about its
entry.  The subscribers of a source are named in order, each once, and they are those whose own lines name
the source, so whatever a viewer is said to watch is listed.  As many forwarding units are listed on one
side as on the other, and the ids with media are those of the lines that say so. -/
theorem overviews_are_complete (settings : Settings) (ops : List Operation)
    (hops : (fresh settings).Allows ops) :
    let r := (fresh settings).run ops
    let o := r.overview
    o.streamers.map (·.id) = r.streamers.ids ∧
    (∀ c, (r.viewer? c).isSome →
      r.handle c .listStreamers = r.push c (.message (.streamerList (o.streamers.map (·.id))))) ∧
    o.players.map (·.id) = r.players.ids ∧
    List.Forall₂ r.ShowsSource r.streamers.entries o.streamers ∧
    List.Forall₂ r.ShowsViewer r.players.listing o.players ∧
    (∀ s ∈ o.streamers, s.subscribers.Nodup) ∧
    (∀ id x, (∃ s ∈ o.streamers, s.id = x ∧ id ∈ s.subscribers) ↔
      ∃ p ∈ o.players, p.id = id ∧ p.subscribedTo = some x) ∧
    (∀ p ∈ o.players, ∀ x, p.subscribedTo = some x → x ∈ o.streamers.map (·.id)) ∧
    (o.streamers.filter (·.sfu)).length = (o.players.filter (·.sfu)).length ∧
    o.streamingIds = (o.streamers.filter (·.streaming)).map (·.id) := by
  intro r o
  have h : r.wiring.Sound := sound_run (sound_fresh settings) hops
  refine ⟨ids_overview_streamers h.toLinked, fun c hc => ?_, ids_overview_players h,
    forall₂_showsSource h.toLinked, forall₂_showsViewer h, fun s hs => ?_, fun id x =>
      mem_subscribers_iff_subscribedTo h, fun p hp x hx => ?_,
    length_units_eq h, streamingIds_overview h.toLinked⟩
  · obtain ⟨viewer, hv⟩ := Option.isSome_iff_exists.1 hc
    obtain ⟨session, hs, -⟩ := exists_session_of_viewer? hv
    rw [ids_overview_streamers h.toLinked, handle_eq_handlePlayer hv rfl]
    exact if_pos (by rw [hs]; rfl)
  · obtain ⟨e, -, hline⟩ := exists_left_of_forall₂ (forall₂_showsSource h.toLinked) hs
    exact hline.subscribers_nodup h.toLinked
  · obtain ⟨s, hs, rfl, -⟩ := (mem_subscribers_iff_subscribedTo h).2 ⟨p, hp, rfl, hx⟩
    exact List.mem_map_of_mem hs

/-- A streamer, a forwarding unit behind it and a player behind that one. -/
theorem overviews_are_complete_chain :
    let ops : List Operation :=
      [.accept ⟨1⟩ .streamer true, .message ⟨1⟩ (.endpointId "cam"), .accept ⟨2⟩ .sfu true,
        .accept ⟨3⟩ .player true, .message ⟨2⟩ (.subscribe "cam"), .message ⟨3⟩ (.subscribe "SFU")]
    let r := (fresh Settings.standard).run ops
    (fresh Settings.standard).Allows ops ∧ r.streamers.ids = ["cam", "SFU"] ∧
      r.overview.streamers.map (·.id) = ["cam", "SFU"] ∧
      (∃ s ∈ r.overview.streamers, s.id = "SFU" ∧ "Player1" ∈ s.subscribers) ∧
      (∃ p ∈ r.overview.players, p.id = "Player1" ∧ p.subscribedTo = some "SFU") ∧
        r.overview.streamingIds = ["cam"] ∧
      (r.overview.streamers.filter (·.streaming)).map (·.id) = ["cam"] := by
  intro ops r
  have hops : (fresh Settings.standard).Allows ops := by decide +kernel
  obtain ⟨hids, -, -, -, -, -, hboth, -, -, hstreaming⟩ := overviews_are_complete Settings.standard ops hops
  have hlisted : r.streamers.ids = ["cam", "SFU"] := by decide +kernel
  have hnamed : ∃ s ∈ r.overview.streamers, s.id = "SFU" ∧ "Player1" ∈ s.subscribers := by decide +kernel
  have hmedia : r.overview.streamingIds = ["cam"] := by decide +kernel
  exact ⟨hops, hlisted, hids.trans hlisted, hnamed, (hboth "Player1" "SFU").1 hnamed, hmedia,
    hstreaming.symm.trans hmedia⟩

end Relay

end SignalRelay
