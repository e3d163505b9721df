import SignalRelay.Proofs.Relay.Runs

/-!
# What holds after every run

The statements here are about a fresh relay and any operations that it allows, so they hold after each
operation of a run.  They spell out, for sessions and directories themselves, what a sound wiring means.

* `registrations_agree`: who is registered under which id.
* `subscriptions_agree`: who watches whom.
* `teardown_removes_downstream`: what a teardown removes, whom it tells, and that it comes to an end.
-/

namespace SignalRelay

namespace Relay

section
variable {r : Relay}

/-- Somebody who owns a slot owns it alone. -/
private theorem length_filter_eq_one {α : Type} {l : List α} {f : α → ConnectionId} {c : ConnectionId}
    (hl : (l.map f).Nodup) (hc : c ∈ l.map f) : (l.filter (f · = c)).length = 1 := by
  obtain ⟨x, hx, rfl⟩ := List.mem_map.1 hc
  have hcount : (l.filter (f · = f x)).length = (l.map f).count (f x) := by
    rw [List.count_eq_countP, List.countP_map, List.countP_eq_length_filter]
    rfl
  rw [hcount]
  exact List.count_eq_one_of_mem hl hc

theorem exists_streamer_iff (h : r.wiring.Linked) {id : String} {c : ConnectionId} :
    (∃ e ∈ r.streamers.entries, e.id = id ∧ e.connection = c) ↔
      ∃ source, r.source? c = some source ∧ source.streamerId = some id := by
  rw [← StreamerDirectory.mem_slots_iff_entry]
  show (id, c) ∈ r.wiring.streamerSlots ↔ _
  rw [h.mem_streamerSlots]
  simp [wiring, Option.bind_eq_some_iff]

theorem players_find?_iff (h : r.wiring.Sound) {id : String} {c : ConnectionId} :
    r.players.find? id = some c ↔ ∃ viewer, r.viewer? c = some viewer ∧ viewer.playerId = id := by
  rw [← PlayerDirectory.mem_slots_iff (playerIds_nodup h.toLinked)]
  constructor
  · intro hmem
    exact exists_viewer_of_playerId (h.playerId_of_mem hmem)
  · rintro ⟨viewer, hv, rfl⟩
    exact h.mem_playerSlots (playerId_eq hv)

theorem streamerConnections_eq (r : Relay) :
    r.streamers.entries.map (·.connection) = r.wiring.streamerSlots.map Prod.snd := by
  simp [wiring, StreamerDirectory.slots, Function.comp_def]

theorem playerConnections_eq (r : Relay) :
    r.players.entries.map (·.connection) = r.wiring.playerSlots.map Prod.snd := by
  simp [wiring, PlayerDirectory.slots, Function.comp_def]

/-- No source is registered twice. -/
theorem streamerConnections_nodup (h : r.wiring.Sound) : (r.streamers.entries.map (·.connection)).Nodup := by
  rw [streamerConnections_eq]
  exact h.streamerConnections_nodup

/-- No viewer is registered twice. -/
theorem playerConnections_nodup (h : r.wiring.Sound) : (r.players.entries.map (·.connection)).Nodup := by
  rw [playerConnections_eq]
  exact h.playerConnections_nodup

/-- Only live connections are registered. -/
theorem notMem_connections_of_session?_eq_none (h : r.wiring.Sound) {c : ConnectionId}
    (hc : r.session? c = none) :
    c ∉ r.streamers.entries.map (·.connection) ∧ c ∉ r.players.entries.map (·.connection) := by
  rw [streamerConnections_eq, playerConnections_eq]
  constructor
  · intro hmem
    obtain ⟨⟨id, d⟩, hslot, rfl⟩ := List.mem_map.1 hmem
    have hid := h.mem_streamerSlots.1 hslot
    rw [show r.wiring.streamerId d = none by simp [wiring, source?, hc]] at hid
    cases hid
  · intro hmem
    obtain ⟨⟨id, d⟩, hslot, rfl⟩ := List.mem_map.1 hmem
    have hid := h.playerId_of_mem hslot
    rw [show r.wiring.playerId d = none by simp [wiring, viewer?, hc]] at hid
    cases hid

/-- A forwarding unit is registered as a source and as a viewer. -/
theorem mem_connections_of_isSfu (h : r.wiring.Sound) {c : ConnectionId} (hc : r.isSfu c = true) :
    c ∈ r.streamers.entries.map (·.connection) ∧ c ∈ r.players.entries.map (·.connection) := by
  rw [streamerConnections_eq, playerConnections_eq]
  constructor
  · obtain ⟨id, hid⟩ := Option.ne_none_iff_exists'.1 (h.streamerId_of_unit hc)
    exact List.mem_map_of_mem (h.mem_streamerSlots.2 hid)
  · obtain ⟨s, hs, hunit⟩ := (Option.any_eq_true _ _).1 hc
    cases s with
    | streamer source => cases hunit
    | player viewer => cases hunit
    | sfu source viewer =>
      have hid : r.wiring.playerId c = some viewer.playerId := by simp [wiring, viewer?, hs, Session.viewer?]
      exact List.mem_map_of_mem (h.mem_playerSlots hid)

end

/-! ### Registrations -/

/-- Sessions and directories agree on who is registered under which id: no id and no connection is listed
twice, the listed sources are those that hold an id, and the listed viewers are all there are.  A
forwarding unit is listed once in each directory, and a connection without a session in neither. -/
theorem registrations_agree (settings : Settings) (ops : List Operation)
    (hops : (fresh settings).Allows ops) :
    let r := (fresh settings).run ops
    r.streamers.ids.Nodup ∧
    (∀ id c, (∃ e ∈ r.streamers.entries, e.id = id ∧ e.connection = c) ↔
      ∃ source, r.source? c = some source ∧ source.streamerId = some id) ∧
    (r.streamers.entries.map (·.connection)).Nodup ∧
    (∀ id c, r.players.find? id = some c ↔ ∃ viewer, r.viewer? c = some viewer ∧ viewer.playerId = id) ∧
    r.players.ids.Nodup ∧ (r.players.entries.map (·.connection)).Nodup ∧
    (∀ c, r.isSfu c = true → (r.streamers.entries.filter (·.connection = c)).length = 1 ∧
      (r.players.entries.filter (·.connection = c)).length = 1) ∧
    (∀ c, r.session? c = none → c ∉ r.streamers.entries.map (·.connection) ∧
      c ∉ r.players.entries.map (·.connection)) := by
  intro r
  have h : r.wiring.Sound := sound_run (sound_fresh settings) hops
  have hstreamers := streamerConnections_nodup h
  have hplayers := playerConnections_nodup h
  refine ⟨streamerIds_nodup h.toLinked, fun id c => exists_streamer_iff h.toLinked, hstreamers,
    fun id c => players_find?_iff h, playerIds_nodup h.toLinked, hplayers, fun c hc => ?_,
    fun c hc => notMem_connections_of_session?_eq_none h hc⟩
  obtain ⟨hstreamer, hplayer⟩ := mem_connections_of_isSfu h hc
  exact ⟨length_filter_eq_one hstreamers hstreamer, length_filter_eq_one hplayers hplayer⟩

/-- Three connections on the three surfaces, one of which goes again: a run that is allowed, and one unit
left. -/
theorem registrations_agree_after_close :
    let ops : List Operation :=
      [.accept ⟨1⟩ .streamer true, .accept ⟨2⟩ .player true, .accept ⟨3⟩ .sfu true, .close ⟨2⟩]
    (fresh Settings.standard).Allows ops ∧
      ((fresh Settings.standard).run ops).players.find? "Player1" = some ⟨3⟩ ∧
      ∃ viewer, ((fresh Settings.standard).run ops).viewer? ⟨3⟩ = some viewer ∧
        viewer.playerId = "Player1" := by
  intro ops
  have hops : (fresh Settings.standard).Allows ops := by decide
  have hfind : ((fresh Settings.standard).run ops).players.find? "Player1" = some ⟨3⟩ := by decide +kernel
  exact ⟨hops, hfind, ((registrations_agree Settings.standard ops hops).2.2.2.1 "Player1" ⟨3⟩).1 hfind⟩

/-! ### Subscriptions -/

/-- Both ends agree on who watches whom: a source lists exactly the viewers whose subscription it holds,
each once.  Every subscription leads to a live source, and never back to the viewer. -/
theorem subscriptions_agree (settings : Settings) (ops : List Operation)
    (hops : (fresh settings).Allows ops) :
    let r := (fresh settings).run ops
    (∀ p u, (∃ source, r.source? u = some source ∧ p ∈ source.subscribers) ↔
      ∃ viewer id entry, r.viewer? p = some viewer ∧ viewer.subscribed = some id ∧
        r.streamers.find? id = some entry ∧ entry.connection = u) ∧
    (∀ u source, r.source? u = some source → source.subscribers.Nodup) ∧
    (∀ p viewer id, r.viewer? p = some viewer → viewer.subscribed = some id →
      ∃ entry, r.streamers.find? id = some entry ∧ (r.source? entry.connection).isSome ∧
        entry.connection ≠ p) := by
  intro r
  have h : r.wiring.Sound := sound_run (sound_fresh settings) hops
  have hlisted : ∀ p u, (∃ source, r.source? u = some source ∧ p ∈ source.subscribers) ↔
      p ∈ r.wiring.subscribers u := by
    intro p u
    constructor
    · rintro ⟨source, hs, hp⟩
      exact subscribers_eq hs ▸ hp
    · exact exists_source_of_mem_subscribers
  have hresolved : ∀ p u, (∃ viewer id entry, r.viewer? p = some viewer ∧ viewer.subscribed = some id ∧
      r.streamers.find? id = some entry ∧ entry.connection = u) ↔ p ∈ r.wiring.subscribers u := by
    intro p u
    rw [h.mem_subscribers]
    constructor
    · rintro ⟨viewer, id, entry, hv, hid, hentry, hu⟩
      exact ⟨id, (subscription_eq hv).trans hid, (exists_entry_iff h.toLinked).1 ⟨entry, hentry, hu⟩⟩
    · rintro ⟨id, hp, hu⟩
      obtain ⟨viewer, hv, hid⟩ := exists_viewer_of_subscription hp
      obtain ⟨entry, hentry, hconn⟩ := (exists_entry_iff h.toLinked).2 hu
      exact ⟨viewer, id, entry, hv, hid, hentry, hconn⟩
  -- both ends are the same list of the wiring
  refine ⟨fun p u => (hlisted p u).trans (hresolved p u).symm, ?_, ?_⟩
  · intro u source hs
    rw [← subscribers_eq hs]
    exact h.subscribers_nodup u
  · intro p viewer id hv hid
    obtain ⟨u, hu⟩ := h.resolves ((subscription_eq hv).trans hid)
    obtain ⟨entry, hentry, rfl⟩ := (exists_entry_iff h.toLinked).2 hu
    obtain ⟨source, hs, -⟩ := exists_source_of_streamerId hu
    refine ⟨entry, hentry, by rw [hs]; rfl, fun he => ?_⟩
    exact h.notMem_subscribers p ((hresolved p p).1 ⟨viewer, id, entry, hv, hid, hentry, he⟩)

/-- A unit and a player that watches it. -/
theorem subscriptions_agree_after_subscribe :
    let ops : List Operation :=
      [.accept ⟨1⟩ .sfu true, .accept ⟨2⟩ .player true, .message ⟨2⟩ (.subscribe "SFU")]
    (fresh Settings.standard).Allows ops ∧
      (∃ source, ((fresh Settings.standard).run ops).source? ⟨1⟩ = some source ∧ ⟨2⟩ ∈ source.subscribers) ∧
      ∃ viewer id entry, ((fresh Settings.standard).run ops).viewer? ⟨2⟩ = some viewer ∧
        viewer.subscribed = some id ∧
        ((fresh Settings.standard).run ops).streamers.find? id = some entry ∧ entry.connection = ⟨1⟩ := by
  intro ops
  have hops : (fresh Settings.standard).Allows ops := by decide +kernel
  have hlisted : ∃ source, ((fresh Settings.standard).run ops).source? ⟨1⟩ = some source ∧
      ⟨2⟩ ∈ source.subscribers :=
    ⟨⟨some "SFU", [⟨2⟩], none, false⟩, by decide +kernel, by decide⟩
  exact ⟨hops, hlisted, ((subscriptions_agree Settings.standard ops hops).1 ⟨2⟩ ⟨1⟩).1 hlisted⟩

/-! ### Teardowns -/

/-- A teardown comes to an end, however its fuel is chosen beyond the number of sessions, and it is
defined by itself.  Closing a live connection takes exactly those downstream with it, and `TornDown` says
what is left; so does terminating it, after it has been queued a close. -/
theorem teardown_removes_downstream (settings : Settings) (ops : List Operation)
    (hops : (fresh settings).Allows ops) (c : ConnectionId)
    (hc : (((fresh settings).run ops).session? c).isSome) :
    let r := (fresh settings).run ops
    (∀ fuel, r.sessions.size ≤ fuel → closeWithin fuel r c = r.close c) ∧
    r.close c = closeBy close r c ∧
    (∃ gone, TornDown r c gone [] (r.close c)) ∧
    (∀ reason, ∃ gone, TornDown r c gone [.close reason] (r.terminate c reason)) := by
  intro r
  have h : r.wiring.Sound := sound_run (sound_fresh settings) hops
  exact ⟨fun fuel hfuel => closeWithin_eq_close hfuel c, close_eq r c, exists_tornDown_close h.toLinked hc,
    exists_tornDown_terminate h.toLinked hc⟩

/-- Two units that watch each other, and a player behind one of them: all units go, and the player stays. -/
theorem teardown_removes_downstream_circle :
    let ops : List Operation :=
      [.accept ⟨1⟩ .sfu true, .accept ⟨2⟩ .sfu true, .accept ⟨3⟩ .player true,
        .message ⟨1⟩ (.subscribe "SFU1"), .message ⟨2⟩ (.subscribe "SFU"), .message ⟨3⟩ (.subscribe "SFU1")]
    (fresh Settings.standard).Allows ops ∧ (((fresh Settings.standard).run ops).session? ⟨1⟩).isSome ∧
      ∃ gone, TornDown ((fresh Settings.standard).run ops) ⟨1⟩ gone []
        (((fresh Settings.standard).run ops).close ⟨1⟩) ∧
        ⟨1⟩ ∈ gone ∧ ⟨2⟩ ∈ gone ∧ ⟨3⟩ ∉ gone := by
  intro ops
  have hops : (fresh Settings.standard).Allows ops := by decide +kernel
  have hc : (((fresh Settings.standard).run ops).session? ⟨1⟩).isSome := by decide +kernel
  obtain ⟨-, -, ⟨gone, htorn⟩, -⟩ := teardown_removes_downstream Settings.standard ops hops ⟨1⟩ hc
  have hgone : ∀ d, (((fresh Settings.standard).run ops).session? d).isSome →
      (((fresh Settings.standard).run ops).close ⟨1⟩).session? d = none → d ∈ gone := by
    intro d hlive hd
    rw [htorn.session?] at hd
    by_cases hmem : d ∈ gone
    · exact hmem
    · rw [if_neg hmem, Option.map_eq_none_iff] at hd
      rw [hd] at hlive
      cases hlive
  refine ⟨hops, hc, gone, htorn, hgone _ hc (by decide +kernel),
    hgone _ (by decide +kernel) (by decide +kernel), ?_⟩
  intro hmem
  have hd := htorn.session? ⟨3⟩
  rw [if_pos hmem] at hd
  exact absurd hd (by decide +kernel)

end Relay

end SignalRelay
