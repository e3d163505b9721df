import SignalRelay.Proofs.Teardown.Cascade

/-!
# Closing a connection that watches nobody

The induction behind a teardown.  A connection is taken out, those on its list are released one after the
other, and a forwarding unit among them is closed in the same way, in a relay that has fewer sessions.

The id of the connection has left the directory by then.  So whoever is still to be released watches an id
that nobody holds, is on nobody's list, and cannot be reached from those that come before it.
-/

namespace SignalRelay

namespace Relay

/-- Closing `c` releases exactly the connections below it, and registrations and subscriptions still agree. -/
def FellsBelow (r : Relay) (c : ConnectionId) : Prop :=
  ∃ hit : List ConnectionId, c ∉ hit ∧ r.wiring.Spread (r.wiring.subscribers c) hit ∧
    Closed r c hit (r.close c) ∧
    (r.close c).wiring.Linked

section
variable {r r' : Relay} {p : ConnectionId} {id : String}

/-- Whoever watches an id that nobody holds is on nobody's list. -/
theorem notMem_subscribers_of_dangling (h : r.wiring.Linked) (hid : id ∉ r.streamers.ids)
    (hp : r.wiring.subscription p = some id) (u : ConnectionId) : p ∉ r.wiring.subscribers u := by
  intro hmem
  obtain ⟨id', hp', hu⟩ := h.mem_subscribers.1 hmem
  rw [hp] at hp'
  obtain rfl := Option.some.inj hp'
  apply hid
  rw [← streamerIds_eq]
  exact List.mem_map_of_mem (h.mem_streamerSlots.2 hu)

/-- Losing its subscription is all that happens to the wiring of such a viewer. -/
theorem wiring_setSubscribed_none (hp : ∀ u, p ∉ r.wiring.subscribers u) :
    (r.setSubscribed p none).wiring = r.wiring.release p := by
  rw [wiring_setSubscribed, Wiring.release_eq_of_notMem hp]
  simp

/-! ### One released connection -/

private theorem felled_player {viewer : Viewer} (hs : r.session? p = some (.player viewer)) :
    Felled r [p] ((r.setSubscribed p none).send p .streamerDisconnected) where
  session? d := by
    rw [session?_send, session?_setSubscribed]
    by_cases hd : d = p
    · subst hd
      simp [hs, Session.orphan?, Session.mapViewer]
    · simp [hd]
  streamers := by
    have hsource : r.wiring.streamerId p = none := by simp [wiring, source?, hs, Session.source?]
    simp [hsource]
  players := by
    have hunit : r.isSfu p = false := by simp [isSfu, hs, Session.isSfu, Session.role]
    exact ⟨[], by simp [hunit], by simp⟩
  outbox d := by
    have hunit : r.isSfu p = false := by simp [isSfu, hs, Session.isSfu, Session.role]
    rw [outbox_send, outbox_setSubscribed, session?_setSubscribed]
    by_cases hd : d = p
    · subst hd
      simp [hs, farewell, hunit]
    · simp [hd]
  ambient := by simp

/-- The relay in which a forwarding unit that has lost its source is closed. -/
def bereave (r : Relay) (p : ConnectionId) : Relay :=
  ((r.setSubscribed p none).markStreaming p false).push p (.close sourceLost)

theorem session?_bereave (r : Relay) (p d : ConnectionId) : (r.bereave p).session? d =
    if d = p then (r.session? d).map (Session.mapViewer fun viewer => { viewer with subscribed := none })
    else r.session? d := by
  simp [bereave, session?_setSubscribed]

theorem wiring_bereave (hp : ∀ u, p ∉ r.wiring.subscribers u) :
    (r.bereave p).wiring = r.wiring.release p := by
  simp only [bereave, wiring_push, wiring_markStreaming, wiring_setSubscribed_none hp]

/-- The flag that is taken from a unit goes with its entry. -/
private theorem streamers_bereave {ids : List String}
    (hids : ∀ id, r.wiring.streamerId p = some id → id ∈ ids) :
    (r.bereave p).streamers.removeAll ids = r.streamers.removeAll ids := by
  have hflag : ((r.setSubscribed p none).source? p).bind (·.streamerId) = r.wiring.streamerId p := by
    simp [wiring]
  simp only [bereave, streamers_push, markStreaming, hflag]
  cases hid : r.wiring.streamerId p with
  | none => rfl
  | some id => exact StreamerDirectory.removeAll_markStreaming _ (hids id hid) false

/-- A forwarding unit that is closed after it has lost its subscription has been felled, and so have
those below it. -/
private theorem felled_unit {source : Source} {viewer : Viewer} {hit : List ConnectionId}
    (hs : r.session? p = some (.sfu source viewer)) (hp : p ∉ hit) (hfree : ∀ u, p ∉ r.wiring.subscribers u)
    (hclosed : Closed (r.bereave p) p hit r') : Felled r (p :: hit) r' := by
  have hunit : r.isSfu p = true := by simp [isSfu, hs, Session.isSfu, Session.role]
  have hids : (r.bereave p).wiring.streamerId = r.wiring.streamerId := by
    rw [wiring_bereave hfree, Wiring.release]
  have hplayers : (r.bereave p).wiring.playerId = r.wiring.playerId := by
    rw [wiring_bereave hfree, Wiring.release]
  have hsame : ∀ d ∈ hit, (r.bereave p).session? d = r.session? d := by
    intro d hd
    have hne : d ≠ p := fun he => hp (he ▸ hd)
    rw [session?_bereave, if_neg hne]
  constructor
  · intro d
    rw [hclosed.session?, session?_bereave]
    by_cases hd : d = p
    · subst hd
      simp [hs, Session.orphan?]
    · simp [hd]
  · rw [hclosed.streamers, hids, streamers_bereave]
    intro id hid
    exact List.mem_filterMap.2 ⟨p, List.mem_cons_self, hid⟩
  · obtain ⟨lost, hlost, hr'⟩ := hclosed.players
    have hunits : hit.filter (r.bereave p).isSfu = hit.filter r.isSfu :=
      List.filter_congr fun d hd => isSfu_congr (hsame d hd)
    rw [hunits, hplayers] at hlost
    refine ⟨lost, ?_, by simpa [bereave] using hr'⟩
    rwa [List.filter_cons_of_pos hunit]
  · intro d
    have hbox : (r.bereave p).outbox d =
        (r.outbox d).pushAll (if d = p then [.close sourceLost] else []) := by
      rw [bereave, outbox_push, outbox_markStreaming, outbox_setSubscribed]
    rw [hclosed.outbox, hbox, Outbox.pushAll_pushAll]
    by_cases hd : d = p
    · subst hd
      simp [hp, farewell, hunit]
    · by_cases hmem : d ∈ hit
      · simp [hd, hmem, farewell, isSfu_congr (hsame d hmem)]
      · simp [hd, hmem]
  · have htimer : (r.bereave p).ownTimer p = none := by
      simp [ownTimer, session?_bereave, hs, Session.mapViewer]
    rw [hclosed.ambient, htimer, stopTimer_none]
    simp [bereave]

/-- Releasing one connection fells it and those below it. -/
private theorem exists_felled_release (ih : ∀ s : Relay, s.size ≤ r.size → s.wiring.Linked →
      ∀ c, (s.session? c).isSome → s.wiring.subscription c = none → s.FellsBelow c)
    (h : r.wiring.Linked) (hid : id ∉ r.streamers.ids) (hp : r.wiring.subscription p = some id) :
    ∃ hit : List ConnectionId, r.wiring.Spread [p] hit ∧ Felled r hit (releaseBy close id r p) ∧
      (releaseBy close id r p).wiring.Linked := by
  have hfree := notMem_subscribers_of_dangling h hid hp
  obtain ⟨viewer, hv, hsub⟩ := exists_viewer_of_subscription hp
  obtain ⟨s, hs, hviewer⟩ := Option.bind_eq_some_iff.1 hv
  cases s with
  | streamer source => cases hviewer
  | player viewer' =>
    obtain rfl : viewer' = viewer := Option.some.inj hviewer
    have hlist : r.wiring.subscribers p = [] := by simp [wiring, source?, hs, Session.source?]
    have hrelease : releaseBy close id r p = (r.setSubscribed p none).send p .streamerDisconnected := by
      simp [releaseBy, hs, hsub]
    rw [hrelease]
    refine ⟨[p], ?_, felled_player hs, ?_⟩
    · apply Wiring.Spread.cons _ List.not_mem_nil
      rw [hlist]
      exact Wiring.Spread.nil
    · rw [wiring_send, wiring_setSubscribed_none hfree]
      exact h.release p
  | sfu source viewer' =>
    obtain rfl : viewer' = viewer := Option.some.inj hviewer
    have hlive : ((r.bereave p).session? p).isSome := by simp [session?_bereave, hs]
    have hrelease : releaseBy close id r p = (r.bereave p).close p := by
      have : (((r.setSubscribed p none).markStreaming p false).session? p).isSome := by
        simp [session?_setSubscribed, hs]
      simp only [releaseBy, hs, if_pos hsub, terminateBy, if_pos this, bereave]
    have hwiring := wiring_bereave hfree
    -- this is where one unit takes the next one with it
    obtain ⟨hit, hmem, hspread, hclosed, hlinked⟩ :=
      ih (r.bereave p) (by simp [bereave]) (hwiring ▸ h.release p) p hlive (by simp [hwiring, Wiring.release])
    rw [hrelease]
    refine ⟨p :: hit, ?_, felled_unit hs hmem hfree hclosed, hlinked⟩
    have hlists : (r.bereave p).wiring.subscribers = r.wiring.subscribers := by
      rw [hwiring, Wiring.release_eq_of_notMem hfree]
    apply Wiring.Spread.cons _ hmem
    have hspread' : r.wiring.Spread ((r.bereave p).wiring.subscribers p) hit :=
      hspread.congr (fun u => by rw [hlists]; exact fun _ hx => hx) (fun u _ => by rw [hlists])
    rwa [hlists] at hspread'

/-! ### The whole list -/

/-- Releasing several connections that watch the same lost source fells them and those below them. -/
private theorem exists_felled_foldl {n : Nat} (ih : ∀ s : Relay, s.size ≤ n → s.wiring.Linked →
      ∀ c, (s.session? c).isSome → s.wiring.subscription c = none → s.FellsBelow c)
    (list : List ConnectionId) (hlist : list.Nodup) (hr : r.size ≤ n) (h : r.wiring.Linked)
    (hid : id ∉ r.streamers.ids) (hsub : ∀ p ∈ list, r.wiring.subscription p = some id) :
    ∃ hit : List ConnectionId, r.wiring.Spread list hit ∧ Felled r hit (list.foldl (releaseBy close id) r) ∧
      (list.foldl (releaseBy close id) r).wiring.Linked := by
  induction list generalizing r with
  | nil => exact ⟨[], Wiring.Spread.nil, Felled.nil r, h⟩
  | cons p list ihl =>
    rw [List.nodup_cons] at hlist
    have hp := hsub p List.mem_cons_self
    obtain ⟨hit, hspread, hfelled, hlinked⟩ :=
      exists_felled_release (fun s hs => ih s (Nat.le_trans hs hr)) h hid hp
    have hsize := size_release_le id r p
    -- the others are still waiting
    have hrest : ∀ q ∈ list, q ∉ hit := by
      intro q hq hmem
      cases (hspread.mem_iff q).1 hmem with
      | root hroot => exact hlist.1 (List.mem_singleton.1 hroot ▸ hq)
      | watcher _ hwatch =>
        exact notMem_subscribers_of_dangling h hid (hsub q (List.mem_cons_of_mem _ hq)) _ hwatch
    have hsub' : ∀ q ∈ list, (releaseBy close id r p).wiring.subscription q = some id := by
      intro q hq
      rw [subscription_congr (hfelled.session?_of_notMem (hrest q hq))]
      exact hsub q (List.mem_cons_of_mem _ hq)
    have hid' : id ∉ (releaseBy close id r p).streamers.ids := by
      rw [hfelled.streamers, StreamerDirectory.mem_ids_removeAll]
      exact fun hmem => hid hmem.1
    obtain ⟨hit', hspread', hfelled', hlinked'⟩ := ihl hlist.2 (by omega) hlinked hid' hsub'
    have hdisj : ∀ d ∈ hit', d ∉ hit := by
      intro d hd hmem
      apply hspread'.subscribed hlinked _ hd (hfelled.wiring_of_mem hmem).1
      intro q hq
      rw [hsub' q hq]
      exact Option.some_ne_none id
    refine ⟨hit ++ hit', ?_, hfelled.append hfelled' hdisj, hlinked'⟩
    exact hspread.append hspread' hdisj (fun u hu => subscribers_congr (hfelled.session?_of_notMem hu))
      fun u hu => (hfelled.wiring_of_mem hu).2

/-! ### The connection itself -/

section
variable {c : ConnectionId} {hit : List ConnectionId}

/-- Nobody else holds the player id of `c`, so it is still listed when those below have gone. -/
private theorem mem_playerSlots_of_lost (h : r.wiring.Linked) (hc : c ∉ hit) {lost : List String}
    (hlost : lost.Perm ((hit.filter r.isSfu).filterMap r.wiring.playerId))
    (hplayers : r'.players = r.players.removeAll lost) {id : String} (hid : r.wiring.playerId c = some id) :
    (id, c) ∈ r'.wiring.playerSlots := by
  have hkept : id ∉ lost := by
    intro hmem
    obtain ⟨d, hd, hdid⟩ := List.mem_filterMap.1 (hlost.mem_iff.1 hmem)
    exact hc (h.playerId_inj hid hdid ▸ List.mem_of_mem_filter hd)
  have hmem : (id, c) ∈ r.players.slots := h.mem_playerSlots hid
  show (id, c) ∈ r'.players.slots
  rw [hplayers, PlayerDirectory.slots_removeAll]
  exact List.mem_filter.2 ⟨hmem, by simpa using hkept⟩

/-- When those below `c` have been felled in the relay without `c`, the player id of `c` is still to be
taken out. -/
private theorem closed_of_felled (h : r.wiring.Linked) (hc : c ∉ hit) (hfelled : Felled (r.uproot c) hit r')
    (hlinked : r'.wiring.Linked) :
    Closed r c hit (r'.retireViewer (r.wiring.playerId c)) ∧
      (r'.retireViewer (r.wiring.playerId c)).wiring.Linked := by
  have hsame : ∀ d ∈ hit, (r.uproot c).session? d = r.session? d := by
    intro d hd
    have hne : d ≠ c := fun he => hc (he ▸ hd)
    rw [session?_uproot, if_neg hne]
  have hunits : hit.filter (r.uproot c).isSfu = hit.filter r.isSfu :=
    List.filter_congr fun d hd => isSfu_congr (hsame d hd)
  have hlostIds : (hit.filter r.isSfu).filterMap (r.uproot c).wiring.playerId =
      (hit.filter r.isSfu).filterMap r.wiring.playerId :=
    List.filterMap_congr fun d hd => playerId_congr (hsame d (List.mem_of_mem_filter hd))
  obtain ⟨lost, hlost, hplayers⟩ := hfelled.players
  rw [hunits, hlostIds] at hlost
  -- what holds of the relay whatever becomes of the player id
  have hsession : ∀ d, r'.session? d =
      if d = c then none else if d ∈ hit then (r.session? d).bind Session.orphan? else r.session? d := by
    intro d
    rw [hfelled.session?, session?_uproot]
    by_cases hd : d = c
    · subst hd
      simp [hc]
    · simp [hd]
  have hstreamers : r'.streamers = r.streamers.removeAll ((c :: hit).filterMap r.wiring.streamerId) := by
    have hids : hit.filterMap (r.uproot c).wiring.streamerId = hit.filterMap r.wiring.streamerId :=
      List.filterMap_congr fun d hd => streamerId_congr (hsame d hd)
    rw [hfelled.streamers, hids, streamers_uproot h, StreamerDirectory.removeAll_removeAll]
    cases hid : r.wiring.streamerId c <;> simp [hid]
  have houtbox : ∀ d, r'.outbox d = (r.outbox d).pushAll (if d ∈ hit then [r.farewell d] else []) := by
    intro d
    have hbox : (r.uproot c).outbox d = r.outbox d := rfl
    rw [hfelled.outbox, hbox]
    by_cases hd : d ∈ hit
    · simp [hd, farewell, isSfu_congr (hsame d hd)]
    · simp [hd]
  have hambient : r'.ambient = (r.stopTimer (r.ownTimer c)).ambient := hfelled.ambient
  cases hid : r.wiring.playerId c with
  | none =>
    have hnone : (c :: hit.filter r.isSfu).filterMap r.wiring.playerId =
        (hit.filter r.isSfu).filterMap r.wiring.playerId := by simp [hid]
    exact ⟨⟨hsession, hstreamers, ⟨lost, hnone ▸ hlost, hplayers⟩, houtbox, hambient⟩, hlinked⟩
  | some id =>
    have hslot := mem_playerSlots_of_lost h hc hlost hplayers hid
    have hids : id ∈ r'.players.ids := by
      rw [mem_playerIds_iff]
      exact List.mem_map_of_mem hslot
    have hgone : r'.wiring.playerId c = none := by
      have hnone := hsession c
      rw [if_pos rfl] at hnone
      simp [wiring, viewer?, hnone]
    refine ⟨⟨hsession, hstreamers, ⟨lost ++ [id], ?_, ?_⟩, houtbox, hambient⟩, ?_⟩
    · have hcons : (c :: hit.filter r.isSfu).filterMap r.wiring.playerId =
          id :: (hit.filter r.isSfu).filterMap r.wiring.playerId := by simp [hid]
      rw [hcons]
      exact (List.perm_append_singleton id lost).trans (hlost.cons id)
    · show r'.players.remove id = _
      rw [PlayerDirectory.remove_eq_removeAll (playerIds_nodup hlinked) hids, hplayers,
        PlayerDirectory.removeAll_removeAll]
      rfl
    · show (r'.retirePlayer id).wiring.Linked
      rw [wiring_retirePlayer hlinked hslot]
      exact hlinked.strike hslot hgone

end

/-- A live connection that watches nobody takes with it exactly those below it. -/
theorem fellsBelow (h : r.wiring.Linked) (c : ConnectionId) (hc : (r.session? c).isSome)
    (hsub : r.wiring.subscription c = none) : r.FellsBelow c := by
  induction hn : r.size using Nat.strongRecOn generalizing r c with
  | ind n ih =>
    subst hn
    have hfree := h.notMem_subscribers_of_subscription hsub
    have hwiring := wiring_uproot (c := c) h
    have hlinked : (r.uproot c).wiring.Linked := hwiring ▸ h.erase hfree
    have hsize := size_uproot_lt hc
    have hspread_of : ∀ {hit : List ConnectionId}, c ∉ hit →
        (r.uproot c).wiring.Spread (r.wiring.subscribers c) hit →
          r.wiring.Spread (r.wiring.subscribers c) hit := by
      intro hit hmem hspread
      apply hspread.congr
      · intro u
        rw [hwiring, Wiring.erase]
        by_cases hu : u = c
        · simp [hu]
        · simp [hu]
      · intro u hu
        have hne : u ≠ c := fun he => hmem (he ▸ hu)
        simp [hwiring, Wiring.erase, hne]
    rw [FellsBelow, close_eq_of_unsubscribed hc hsub]
    cases hid : r.wiring.streamerId c with
    | none =>
      obtain ⟨hclosed, hend⟩ := closed_of_felled h List.not_mem_nil (Felled.nil (r.uproot c)) hlinked
      refine ⟨[], List.not_mem_nil, ?_, hclosed, hend⟩
      rw [h.subscribers_eq_nil hid]
      exact Wiring.Spread.nil
    | some id =>
      have hlost : id ∉ (r.uproot c).streamers.ids := by
        rw [streamers_uproot h, StreamerDirectory.mem_ids_removeAll, hid]
        simp
      have hwatch : ∀ p ∈ r.wiring.subscribers c, (r.uproot c).wiring.subscription p = some id := by
        intro p hp
        have hne : p ≠ c := fun he => h.notMem_subscribers c (he ▸ hp)
        obtain ⟨id', hp', hc'⟩ := h.mem_subscribers.1 hp
        rw [hid] at hc'
        simp [hwiring, Wiring.erase, hne, hp', Option.some.inj hc']
      obtain ⟨hit, hspread, hfelled, hend⟩ := exists_felled_foldl (n := (r.uproot c).size)
        (fun s hs hlinked d hd hnone => ih s.size (by omega) hlinked d hd hnone rfl) (r.wiring.subscribers c)
        (h.subscribers_nodup c) (Nat.le_refl _) hlinked hlost hwatch
      have hmem : c ∉ hit := by
        intro hmem
        apply hspread.subscribed hlinked (fun p hp => by rw [hwatch p hp]; exact Option.some_ne_none id) hmem
        simp [hwiring, Wiring.erase]
      obtain ⟨hclosed, hend'⟩ := closed_of_felled h hmem hfelled hend
      exact ⟨hit, hmem, hspread_of hmem hspread, hclosed, hend'⟩

end

end Relay

end SignalRelay
