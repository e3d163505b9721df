import SignalRelay.Proofs.Teardown.Descent
import SignalRelay.Relay.Overview

/-!
# What a teardown leaves

A connection that is closed takes with it the forwarding units that watch it, those that watch these, and
so on (`Downstream`), in chains and in circles.  Everybody else stays.  `TornDown` says what has become of
a relay then: sessions, directories, published events, queued frames and timers.

* `exists_tornDown_close` and `exists_tornDown_terminate`: that is what `close` and `terminate` do to a
  live connection.  With `close_cases` and `terminate_cases` it need not be known to be live.
* `TornDown.wiring_eq`: those who go lose their registrations and subscriptions, and nothing else is lost.
-/

namespace SignalRelay

namespace Relay

/-- The connections that go when `c` does: `c`, and every forwarding unit whose source goes. -/
inductive Downstream (r : Relay) (c : ConnectionId) : ConnectionId → Prop
  | self : Downstream r c c
  | unit {u d : ConnectionId} (hu : Downstream r c u) (hd : r.isSfu d = true)
      (hwatch : r.watched? d = some u) :
      Downstream r c d

/-- Whether a connection watches one of several. -/
def watchesAny (r : Relay) (sources : List ConnectionId) (d : ConnectionId) : Bool :=
  (r.watched? d).any (· ∈ sources)

/-- What becomes of the session of `d`, which stays, when `c` is closed and the connections `gone` go: it
does not list `c` any more, and it is left without a subscription if its source is gone. -/
def settled (r : Relay) (c : ConnectionId) (gone : List ConnectionId) (d : ConnectionId) (s : Session) :
    Session :=
  let s := if r.watched? c = some d then s.mapSource (·.removeSubscriber c) else s
  if r.watchesAny gone d then s.mapViewer fun viewer => { viewer with subscribed := none } else s

/-- What `d` is told when `c` is closed and the connections `gone` go: that `c` has gone if `c` watched
it, and that its source has gone if that is so. -/
def notices (r : Relay) (c : ConnectionId) (gone : List ConnectionId) (d : ConnectionId) : List Outbound :=
  (if r.watched? c = some d then
      (r.playerIdOf? c).toList.map fun id => .message (.playerDisconnected id)
    else []) ++
    if d = c then []
    else if d ∈ gone then [.close sourceLost]
    else if r.watchesAny gone d then [.message .streamerDisconnected]
    else []

/-- The relay `r'` is `r` after the connection `c` has been closed, when the connections `gone` have gone
and `c` has been queued the frames `first`. -/
structure TornDown (r : Relay) (c : ConnectionId) (gone : List ConnectionId) (first : List Outbound)
    (r' : Relay) : Prop where
  nodup : gone.Nodup
  mem_gone : ∀ d, d ∈ gone ↔ r.Downstream c d
  session? : ∀ d, r'.session? d = if d ∈ gone then none else (r.session? d).map (r.settled c gone d)
  streamers : r'.streamers = r.streamers.removeAll (gone.filterMap fun d => (r.source? d).bind (·.streamerId))
  players : ∃ lost : List String, lost.Perm (gone.filterMap r.playerIdOf?) ∧
    r'.players = r.players.removeAll lost
  outbox : ∀ d, r'.outbox d = (r.outbox d).pushAll ((if d = c then first else []) ++ r.notices c gone d)
  ambient : r'.ambient = (r.stopTimer (r.ownTimer c)).ambient

section
variable {r r' : Relay} {c : ConnectionId}

/-! ### Downstream -/

theorem Downstream.trans {d b : ConnectionId} (h : r.Downstream c d) (h' : r.Downstream d b) :
    r.Downstream c b := by
  induction h' with
  | self => exact h
  | unit _ hunit hwatch ih => exact .unit ih hunit hwatch

/-- Whoever goes with a live connection is live. -/
theorem Downstream.live {d : ConnectionId} (h : r.Downstream c d) (hc : (r.session? c).isSome) :
    (r.session? d).isSome := by
  cases h with
  | self => exact hc
  | unit _ hunit _ =>
    obtain ⟨s, hs, -⟩ := (Option.any_eq_true _ _).1 hunit
    rw [hs]
    rfl

/-! ### Closing after the subscription has ended -/

/-- Ending the subscription is the first thing that happens to a connection that is closed. -/
theorem close_unsubscribe (r : Relay) (c : ConnectionId) (h : r.wiring.Linked) :
    (r.unsubscribe c).close c = r.close c := by
  have hnone : (r.unsubscribe c).wiring.subscription c = none := by
    rw [wiring_unsubscribe h]
    simp [Wiring.release]
  cases hs : r.session? c with
  | none =>
    have hsub : r.wiring.subscription c = none := by simp [wiring, viewer?, hs]
    rw [unsubscribe_eq_self hsub]
  | some s =>
    rw [close_eq, close_eq, closeBy, closeBy, unsubscribe_eq_self hnone, hs]
    cases s with
    | streamer source =>
      have hsub : r.wiring.subscription c = none := by simp [wiring, viewer?, hs, Session.viewer?]
      rw [unsubscribe_eq_self hsub, hs]
    | player viewer =>
      have hs' : ∃ viewer', (r.unsubscribe c).session? c = some (.player viewer') ∧
          viewer'.playerId = viewer.playerId := by
        rw [session?_unsubscribe, hs]
        simp only [Option.map_some, detached]
        split <;> exact ⟨_, rfl, rfl⟩
      obtain ⟨viewer', hs', hid⟩ := hs'
      simp [hs', hid]
    | sfu source viewer =>
      have hs' : ∃ source' viewer', (r.unsubscribe c).session? c = some (.sfu source' viewer') := by
        rw [session?_unsubscribe, hs]
        simp only [Option.map_some, detached]
        split <;> exact ⟨_, _, rfl⟩
      obtain ⟨source', viewer', hs'⟩ := hs'
      simp [hs']

theorem watchesAny_iff {sources : List ConnectionId} {d : ConnectionId} :
    r.watchesAny sources d = true ↔ ∃ u ∈ sources, r.watched? d = some u := by
  simp only [watchesAny, Option.any_eq_true, decide_eq_true_eq]
  exact ⟨fun ⟨u, hd, hu⟩ => ⟨u, hu, hd⟩, fun ⟨u, hu, hd⟩ => ⟨u, hd, hu⟩⟩

/-! ### Who goes -/

section
variable {hit : List ConnectionId}

private theorem mem_subscribers_unsubscribe (h : r.wiring.Linked) {d : ConnectionId} (hd : d ≠ c)
    (u : ConnectionId) :
    d ∈ (r.unsubscribe c).wiring.subscribers u ↔ r.watched? d = some u := by
  rw [watched?_eq_some_iff_mem h, wiring_unsubscribe h]
  simp [Wiring.release, hd]

/-- Whoever is released and has subscribers itself is a forwarding unit. -/
private theorem isSfu_of_mem_hit (h : r.wiring.Linked)
    (hspread : (r.unsubscribe c).wiring.Spread ((r.unsubscribe c).wiring.subscribers c) hit)
    {u d : ConnectionId} (hu : u ∈ hit) (hd : d ∈ (r.unsubscribe c).wiring.subscribers u) :
    r.isSfu u = true := by
  have hlinked : (r.unsubscribe c).wiring.Linked := wiring_unsubscribe h c ▸ h.release c
  have hroots : ∀ p ∈ (r.unsubscribe c).wiring.subscribers c,
      (r.unsubscribe c).wiring.subscription p ≠ none := by
    intro p hp
    obtain ⟨id, hid, -⟩ := hlinked.mem_subscribers.1 hp
    rw [hid]
    exact Option.some_ne_none id
  obtain ⟨id, hid⟩ := Option.ne_none_iff_exists'.1 (hspread.subscribed hlinked hroots hu)
  obtain ⟨viewer, hv, -⟩ := exists_viewer_of_subscription hid
  obtain ⟨source, hsource, -⟩ := exists_source_of_mem_subscribers hd
  obtain ⟨s, hs, hviewer⟩ := Option.bind_eq_some_iff.1 hv
  obtain ⟨s', hs', hsource'⟩ := Option.bind_eq_some_iff.1 hsource
  obtain rfl : s = s' := Option.some.inj (hs.symm.trans hs')
  rw [← isSfu_unsubscribe r c u]
  cases s with
  | streamer source => cases hviewer
  | player viewer => cases hsource'
  | sfu source viewer => simp [isSfu, hs, Session.isSfu, Session.role]

/-- Those who are released are those who watch somebody who goes. -/
private theorem mem_hit_iff (h : r.wiring.Linked)
    (hspread : (r.unsubscribe c).wiring.Spread ((r.unsubscribe c).wiring.subscribers c) hit)
    {d : ConnectionId} (hd : d ≠ c) : d ∈ hit ↔ r.watchesAny (c :: hit.filter r.isSfu) d = true := by
  rw [watchesAny_iff]
  constructor
  · intro hmem
    cases (hspread.mem_iff d).1 hmem with
    | root hroot => exact ⟨c, List.mem_cons_self, (mem_subscribers_unsubscribe h hd c).1 hroot⟩
    | @watcher u _ hu hwatch =>
      have hu' := (hspread.mem_iff u).2 hu
      have hunit := isSfu_of_mem_hit h hspread hu' hwatch
      exact ⟨u, List.mem_cons_of_mem _ (List.mem_filter.2 ⟨hu', hunit⟩),
        (mem_subscribers_unsubscribe h hd u).1 hwatch⟩
  · rintro ⟨u, hu, hwatch⟩
    rw [← mem_subscribers_unsubscribe h hd] at hwatch
    rcases List.mem_cons.1 hu with rfl | hu
    · exact hspread.subset hwatch
    · exact hspread.closed u (List.mem_of_mem_filter hu) hwatch

/-- The connections that go are those downstream. -/
private theorem mem_gone_iff (h : r.wiring.Linked) (hc : c ∉ hit)
    (hspread : (r.unsubscribe c).wiring.Spread ((r.unsubscribe c).wiring.subscribers c) hit)
    (d : ConnectionId) :
    d ∈ c :: hit.filter r.isSfu ↔ r.Downstream c d := by
  have hunit : ∀ d, (r.unsubscribe c).wiring.Below ((r.unsubscribe c).wiring.subscribers c) d →
      r.isSfu d = true → r.Downstream c d := by
    intro d hbelow
    induction hbelow with
    | @root d hroot =>
      intro hunit
      have hd : d ≠ c := fun he => hc (he ▸ hspread.subset hroot)
      exact .unit .self hunit ((mem_subscribers_unsubscribe h hd c).1 hroot)
    | @watcher u d hu hwatch ih =>
      intro hunit
      have hu' := (hspread.mem_iff u).2 hu
      have hd : d ≠ c := fun he => hc (he ▸ hspread.closed u hu' hwatch)
      exact .unit (ih (isSfu_of_mem_hit h hspread hu' hwatch)) hunit
        ((mem_subscribers_unsubscribe h hd u).1 hwatch)
  constructor
  · intro hmem
    rcases List.mem_cons.1 hmem with rfl | hmem
    · exact .self
    · obtain ⟨hhit, hsfu⟩ := List.mem_filter.1 hmem
      exact hunit d ((hspread.mem_iff d).1 hhit) hsfu
  · intro hdown
    induction hdown with
    | self => exact List.mem_cons_self
    | @unit u d _ hunit hwatch ih =>
      by_cases hd : d = c
      · exact hd ▸ List.mem_cons_self
      · have hhit := (mem_hit_iff h hspread hd).2 (watchesAny_iff.2 ⟨u, ih, hwatch⟩)
        exact List.mem_cons_of_mem _ (List.mem_filter.2 ⟨hhit, hunit⟩)

end

/-! ### The whole relay -/

private theorem streamerId_of_player {u d : ConnectionId} (hwatch : r.watched? d = some u)
    (hd : r.isSfu d = false) :
    r.wiring.streamerId d = none := by
  cases hs : r.session? d with
  | none => simp [wiring, source?, hs]
  | some s =>
    cases s with
    | streamer source => simp [watched?, viewer?, hs, Session.viewer?] at hwatch
    | player viewer => simp [wiring, source?, hs, Session.source?]
    | sfu source viewer => simp [isSfu, hs, Session.isSfu, Session.role] at hd

section
variable {hit : List ConnectionId}

/-- The sessions that are left, once it is known who has been released. -/
private theorem session?_of_hit
    (hhit : ∀ d, d ≠ c → (d ∈ hit ↔ r.watchesAny (c :: hit.filter r.isSfu) d = true)) (d : ConnectionId) :
    (if d = c then none else if d ∈ hit then ((r.session? d).map (r.detached c d)).bind Session.orphan?
      else (r.session? d).map (r.detached c d)) =
      if d ∈ c :: hit.filter r.isSfu then none
      else (r.session? d).map (r.settled c (c :: hit.filter r.isSfu) d) := by
  by_cases hd : d = c
  · simp [hd]
  · have hgone : d ∈ c :: hit.filter r.isSfu ↔ d ∈ hit ∧ r.isSfu d = true := by simp [hd]
    by_cases hdh : d ∈ hit
    · have hany := (hhit d hd).1 hdh
      cases hs : r.session? d with
      | none => simp
      | some s =>
        cases s with
        | streamer source =>
          have hnone : r.watched? d = none := by simp [watched?, viewer?, hs, Session.viewer?]
          rw [watchesAny, hnone] at hany
          cases hany
        | player viewer =>
          have hunit : r.isSfu d = false := by simp [isSfu, hs, Session.isSfu, Session.role]
          have hstay : d ∉ c :: hit.filter r.isSfu := by simp [hgone, hunit]
          simp only [hd, hdh, hstay, if_false, if_true, Option.map_some, Option.bind_some, detached,
            settled, hany, Session.mapSource, ite_self, Session.orphan?, Session.mapViewer]
        | sfu source viewer =>
          have hunit : r.isSfu d = true := by simp [isSfu, hs, Session.isSfu, Session.role]
          have hgo : d ∈ c :: hit.filter r.isSfu := hgone.2 ⟨hdh, hunit⟩
          simp only [hd, hdh, hgo, if_false, if_true, Option.map_some, Option.bind_some, detached]
          split <;> rfl
    · have hstay : d ∉ c :: hit.filter r.isSfu := fun hmem => hdh (hgone.1 hmem).1
      have hany : ¬r.watchesAny (c :: hit.filter r.isSfu) d = true := fun hany => hdh ((hhit d hd).2 hany)
      have hsame : r.settled c (c :: hit.filter r.isSfu) d = r.detached c d := by
        funext s
        simp only [settled, detached, hd, hany, if_false]
        rfl
      simp only [hd, hdh, hstay, if_false, hsame]

/-- Of those who have been released, only the units held streamer ids. -/
private theorem streamerIds_of_hit (hmem : c ∉ hit)
    (hhit : ∀ d, d ≠ c → (d ∈ hit ↔ r.watchesAny (c :: hit.filter r.isSfu) d = true)) :
    (c :: hit).filterMap r.wiring.streamerId = (c :: hit.filter r.isSfu).filterMap r.wiring.streamerId := by
  have hrest : hit.filterMap r.wiring.streamerId = (hit.filter r.isSfu).filterMap r.wiring.streamerId := by
    rw [List.filterMap_filter]
    apply List.filterMap_congr
    intro d hd
    have hdc : d ≠ c := fun he => hmem (he ▸ hd)
    obtain ⟨u, -, hwatch⟩ := watchesAny_iff.1 ((hhit d hdc).1 hd)
    by_cases hunit : r.isSfu d = true
    · rw [if_pos hunit]
    · rw [if_neg hunit, streamerId_of_player hwatch (by simpa using hunit)]
  rw [List.filterMap_cons, List.filterMap_cons, hrest]

private theorem notices_of_hit (hmem : c ∉ hit)
    (hhit : ∀ d, d ≠ c → (d ∈ hit ↔ r.watchesAny (c :: hit.filter r.isSfu) d = true)) (d : ConnectionId) :
    (if r.watched? c = some d then
        (r.wiring.playerId c).toList.map fun id => .message (.playerDisconnected id)
      else []) ++ (if d ∈ hit then [(r.unsubscribe c).farewell d] else []) =
      r.notices c (c :: hit.filter r.isSfu) d := by
  unfold notices
  by_cases hd : d = c
  · simp [hd, hmem]
    rfl
  · have hgone : d ∈ c :: hit.filter r.isSfu ↔ d ∈ hit ∧ r.isSfu d = true := by simp [hd]
    rw [if_neg hd]
    by_cases hdh : d ∈ hit
    · have hany := (hhit d hd).1 hdh
      by_cases hunit : r.isSfu d = true
      · simp [hdh, hgone, hunit, farewell, playerIdOf?, wiring]
      · simp [hdh, hgone, hunit, farewell, hany, playerIdOf?, wiring]
    · have hany : ¬r.watchesAny (c :: hit.filter r.isSfu) d = true := fun hany => hdh ((hhit d hd).2 hany)
      simp [hdh, hgone, hany, playerIdOf?, wiring]

private theorem ownTimer_unsubscribe (h : r.wiring.Linked) : (r.unsubscribe c).ownTimer c = r.ownTimer c := by
  simp only [ownTimer, session?_unsubscribe]
  cases hs : r.session? c with
  | none => rfl
  | some s =>
    simp only [Option.map_some, detached, if_true, if_neg (watched?_ne_self h c)]
    cases s <;> rfl

end

/-- Closing a live connection takes exactly those downstream with it. -/
theorem exists_tornDown_close (h : r.wiring.Linked) (hc : (r.session? c).isSome) :
    ∃ gone : List ConnectionId, TornDown r c gone [] (r.close c) := by
  have hwiring := wiring_unsubscribe h c
  have hlive : ((r.unsubscribe c).session? c).isSome := by simpa [session?_unsubscribe] using hc
  obtain ⟨hit, hmem, hspread, hclosed, -⟩ := fellsBelow (hwiring ▸ h.release c) c hlive
    (by rw [hwiring]; simp [Wiring.release])
  rw [close_unsubscribe r c h] at hclosed
  have hids : (r.unsubscribe c).wiring.streamerId = r.wiring.streamerId := by rw [hwiring, Wiring.release]
  have hplayerIds : (r.unsubscribe c).wiring.playerId = r.wiring.playerId := by rw [hwiring, Wiring.release]
  have hunits : hit.filter (r.unsubscribe c).isSfu = hit.filter r.isSfu :=
    List.filter_congr fun d _ => isSfu_unsubscribe r c d
  have hhit : ∀ d, d ≠ c → (d ∈ hit ↔ r.watchesAny (c :: hit.filter r.isSfu) d = true) := fun d hd =>
    mem_hit_iff h hspread hd
  refine ⟨c :: hit.filter r.isSfu, ?_, mem_gone_iff h hmem hspread, ?_, ?_, ?_, ?_, ?_⟩
  · exact List.nodup_cons.2 ⟨fun hc => hmem (List.mem_of_mem_filter hc), hspread.nodup.filter _⟩
  · intro d
    rw [hclosed.session?, session?_unsubscribe]
    exact session?_of_hit hhit d
  · rw [hclosed.streamers, hids, streamers_unsubscribe, streamerIds_of_hit hmem hhit]
    rfl
  · obtain ⟨lost, hlost, hplayers⟩ := hclosed.players
    rw [hunits, hplayerIds] at hlost
    exact ⟨lost, hlost, by rw [hplayers, players_unsubscribe]⟩
  · intro d
    rw [hclosed.outbox, outbox_unsubscribe h, Outbox.pushAll_pushAll, ite_self, List.nil_append,
      notices_of_hit hmem hhit]
  · rw [hclosed.ambient, ownTimer_unsubscribe h]
    exact ambient_stopTimer_congr (ambient_unsubscribe r c) _

/-! ### Terminating -/

private theorem Downstream.of_same {r r' : Relay} {c d : ConnectionId} (hunit : ∀ d, r.isSfu d = r'.isSfu d)
    (hwatch : ∀ d, r.watched? d = r'.watched? d) (h : r.Downstream c d) : r'.Downstream c d := by
  induction h with
  | self => exact .self
  | unit _ hd hw ih => exact .unit ih (hunit _ ▸ hd) (hwatch _ ▸ hw)

/-- A terminated connection is queued a close, and then closed. -/
theorem exists_tornDown_terminate (h : r.wiring.Linked) (hc : (r.session? c).isSome) (reason : String) :
    ∃ gone : List ConnectionId, TornDown r c gone [.close reason] (r.terminate c reason) := by
  rw [terminate_of_live hc]
  obtain ⟨gone, htorn⟩ :=
    exists_tornDown_close (r := r.push c (.close reason)) (by simpa using h) (by simpa using hc)
  refine ⟨gone, htorn.nodup, fun d => ?_, htorn.session?, htorn.streamers, htorn.players, fun d => ?_,
    htorn.ambient⟩
  · rw [htorn.mem_gone]
    exact ⟨.of_same (fun _ => rfl) fun _ => rfl, .of_same (fun _ => rfl) fun _ => rfl⟩
  · rw [htorn.outbox, outbox_push, Outbox.pushAll_pushAll]
    have hnotices : (r.push c (.close reason)).notices c gone d = r.notices c gone d := rfl
    by_cases hd : d = c <;> simp [hd, hnotices]
    exact congrArg _ (congrArg _ rfl)

/-- Closing does nothing, or tears down. -/
theorem close_cases (h : r.wiring.Linked) (c : ConnectionId) : r.session? c = none ∧ r.close c = r ∨
    (r.session? c).isSome ∧ ∃ gone : List ConnectionId, TornDown r c gone [] (r.close c) := by
  cases hc : r.session? c with
  | none => exact .inl ⟨rfl, close_of_not_live hc⟩
  | some s => exact .inr ⟨rfl, exists_tornDown_close h (by rw [hc]; rfl)⟩

theorem terminate_cases (h : r.wiring.Linked) (c : ConnectionId) (reason : String) :
    r.session? c = none ∧ r.terminate c reason = r ∨
      (r.session? c).isSome ∧ ∃ gone : List ConnectionId,
        TornDown r c gone [.close reason] (r.terminate c reason) := by
  cases hc : r.session? c with
  | none => exact .inl ⟨rfl, terminate_of_not_live hc reason⟩
  | some s => exact .inr ⟨rfl, exists_tornDown_terminate h (by rw [hc]; rfl) reason⟩

theorem session?_terminate_self (h : r.wiring.Linked) (c : ConnectionId) (reason : String) :
    (r.terminate c reason).session? c = none := by
  rcases terminate_cases h c reason with ⟨hnone, heq⟩ | ⟨-, gone, htorn⟩
  · rw [heq, hnone]
  · rw [htorn.session?, if_pos ((htorn.mem_gone c).2 .self)]

end

/-! ### Registrations and subscriptions -/

section
variable {r r' : Relay} {c : ConnectionId} {gone : List ConnectionId} {first : List Outbound}

/-- The ids of those who go are those whose slots are behind them. -/
private theorem mem_lostIds_iff {id : String} {d : ConnectionId} {held : ConnectionId → Option String}
    (hd : held d = some id) (hinj : ∀ {u}, held u = some id → u = d) :
    id ∈ gone.filterMap held ↔ d ∈ gone := by
  rw [List.mem_filterMap]
  constructor
  · rintro ⟨u, hu, hid⟩
    exact hinj hid ▸ hu
  · intro hmem
    exact ⟨d, hmem, hd⟩

private theorem slots_tornDown (h : r.wiring.Sound) (htorn : TornDown r c gone first r') :
    r'.streamers.slots = r.wiring.streamerSlots.filter (·.2 ∉ gone) ∧
      r'.players.slots = r.wiring.playerSlots.filter (·.2 ∉ gone) := by
  constructor
  · rw [htorn.streamers, StreamerDirectory.slots_removeAll]
    apply List.filter_congr
    rintro ⟨id, d⟩ hmem
    have hd := h.mem_streamerSlots.1 hmem
    have hiff : id ∈ gone.filterMap r.wiring.streamerId ↔ d ∈ gone :=
      mem_lostIds_iff hd fun hu => h.streamerId_inj hu hd
    exact decide_eq_decide.2 (not_congr hiff)
  · obtain ⟨lost, hlost, hplayers⟩ := htorn.players
    rw [hplayers, PlayerDirectory.slots_removeAll]
    apply List.filter_congr
    rintro ⟨id, d⟩ hmem
    have hd := h.playerId_of_mem hmem
    have hiff : id ∈ gone.filterMap r.wiring.playerId ↔ d ∈ gone :=
      mem_lostIds_iff hd fun hu => h.playerId_inj hu hd
    exact decide_eq_decide.2 (not_congr (hlost.mem_iff.trans hiff))

theorem TornDown.source? (htorn : TornDown r c gone first r') (d : ConnectionId) : r'.source? d =
    if d ∈ gone then none
    else if r.watched? c = some d then (r.source? d).map (·.removeSubscriber c) else r.source? d := by
  simp only [Relay.source?, htorn.session?]
  split
  · rfl
  · cases r.session? d with
    | none => simp
    | some s =>
      simp only [Option.map_some, Option.bind_some, settled]
      split <;> split <;> simp

private theorem viewer?_tornDown (htorn : TornDown r c gone first r') (d : ConnectionId) : r'.viewer? d =
    if d ∈ gone then none
    else if r.watchesAny gone d then (r.viewer? d).map fun viewer => { viewer with subscribed := none }
    else r.viewer? d := by
  simp only [viewer?, htorn.session?]
  split
  · rfl
  · cases r.session? d with
    | none => simp
    | some s =>
      simp only [Option.map_some, Option.bind_some, settled]
      split <;> split <;> simp

/-- Of those who go, a source that stays can only have listed `c`. -/
theorem TornDown.filter_gone (h : r.wiring.Linked) (htorn : TornDown r c gone first r') {u : ConnectionId}
    (hu : u ∉ gone) :
    (r.wiring.subscribers u).filter (· ∉ gone) = (r.wiring.subscribers u).filter (· ≠ c) := by
  apply List.filter_congr
  intro d hd
  have hwatch := (watched?_eq_some_iff_mem h).2 hd
  apply decide_eq_decide.2
  constructor
  · rintro hdg rfl
    exact hdg ((htorn.mem_gone d).2 .self)
  · intro hdc hmem
    cases (htorn.mem_gone d).1 hmem with
    | self => exact hdc rfl
    | @unit v _ hv _ hwatch' =>
      obtain rfl : v = u := Option.some.inj (hwatch'.symm.trans hwatch)
      exact hu ((htorn.mem_gone v).2 hv)

private theorem subscribers_tornDown (h : r.wiring.Linked) (htorn : TornDown r c gone first r')
    {u : ConnectionId} (hu : u ∉ gone) :
    r'.wiring.subscribers u = (r.wiring.subscribers u).filter (· ∉ gone) := by
  have hsource := htorn.source? u
  rw [if_neg hu] at hsource
  rw [htorn.filter_gone h hu]
  by_cases hc : r.watched? c = some u
  · rw [if_pos hc] at hsource
    simp only [wiring, hsource]
    cases r.source? u <;> rfl
  · have hself : (r.wiring.subscribers u).filter (· ≠ c) = r.wiring.subscribers u := by
      rw [List.filter_eq_self]
      intro d hd
      have : d ≠ c := fun he => hc (he ▸ (watched?_eq_some_iff_mem h).2 hd)
      simpa using this
    rw [if_neg hc] at hsource
    rw [hself]
    simp only [wiring, hsource]

/-- Those who stay keep their subscription unless its source goes. -/
private theorem subscription_tornDown (h : r.wiring.Linked) (htorn : TornDown r c gone first r')
    {p : ConnectionId} (hp : p ∉ gone) : r'.wiring.subscription p =
      (r.wiring.subscription p).filter fun id => gone.all fun u => r.wiring.streamerId u ≠ some id := by
  have hviewer := viewer?_tornDown htorn p
  rw [if_neg hp] at hviewer
  by_cases hw : r.watchesAny gone p = true
  · obtain ⟨u, hu, hwatch⟩ := watchesAny_iff.1 hw
    obtain ⟨id, hid, huid⟩ := (watched?_eq_some_iff h).1 hwatch
    have hnone : r'.wiring.subscription p = none := by
      rw [if_pos hw] at hviewer
      simp only [wiring, hviewer]
      cases r.viewer? p <;> rfl
    rw [hnone, hid, eq_comm, Option.filter_eq_none_iff]
    intro id' hid' hall
    have := List.all_eq_true.1 hall u hu
    simp [huid, Option.some.inj hid'] at this
  · have hsame : r'.wiring.subscription p = r.wiring.subscription p := by
      rw [if_neg hw] at hviewer
      simp only [wiring, hviewer]
    rw [hsame]
    cases hid : r.wiring.subscription p with
    | none => rfl
    | some id =>
      rw [eq_comm, Option.filter_eq_some_iff]
      refine ⟨rfl, List.all_eq_true.2 fun u hu => ?_⟩
      have : r.wiring.streamerId u ≠ some id := fun huid =>
        hw (watchesAny_iff.2 ⟨u, hu, (watched?_eq_some_iff h).2 ⟨id, hid, huid⟩⟩)
      simpa using this

/-- Those who go lose their registrations and subscriptions, and those who watched one of them their
subscriptions. -/
theorem TornDown.wiring_eq (h : r.wiring.Sound) (htorn : TornDown r c gone first r') :
    r'.wiring = r.wiring.without gone := by
  obtain ⟨hstreamers, hplayers⟩ := slots_tornDown h htorn
  have hsource := htorn.source?
  have hviewer := viewer?_tornDown htorn
  have hnumber : r'.players.nextNumber = r.players.nextNumber := by
    obtain ⟨lost, -, hplayers⟩ := htorn.players
    rw [hplayers]
    rfl
  have hids : r'.wiring.streamerId = (r.wiring.without gone).streamerId := by
    funext d
    simp only [wiring, hsource, Wiring.without]
    split
    · rfl
    · split
      · cases r.source? d <;> rfl
      · rfl
  have hwaiting : r'.wiring.waiting = (r.wiring.without gone).waiting := by
    funext d
    simp only [wiring, hsource, Wiring.without]
    split
    · rfl
    · split
      · cases r.source? d <;> rfl
      · rfl
  have hunits : r'.wiring.unit = (r.wiring.without gone).unit := by
    funext d
    simp only [wiring, isSfu, htorn.session?, Wiring.without]
    split
    · rfl
    · cases r.session? d with
      | none => rfl
      | some s =>
        simp only [Option.map_some, Option.any_some, Session.isSfu, settled]
        split <;> split <;> simp
  have hplayerIds : r'.wiring.playerId = (r.wiring.without gone).playerId := by
    funext d
    simp only [wiring, hviewer, Wiring.without]
    split
    · rfl
    · split
      · cases r.viewer? d <;> rfl
      · rfl
  have hlists : r'.wiring.subscribers = (r.wiring.without gone).subscribers := by
    funext u
    by_cases hu : u ∈ gone
    · simp [wiring, hsource, Wiring.without, hu]
    · rw [subscribers_tornDown h.toLinked htorn hu]
      simp only [Wiring.without, if_neg hu]
  have hsubs : r'.wiring.subscription = (r.wiring.without gone).subscription := by
    funext p
    by_cases hp : p ∈ gone
    · simp [wiring, hviewer, Wiring.without, hp]
    · rw [subscription_tornDown h.toLinked htorn hp]
      simp only [Wiring.without, if_neg hp]
  calc r'.wiring
      = ⟨r'.wiring.streamerId, r'.wiring.subscribers, r'.wiring.waiting, r'.wiring.unit, r'.wiring.playerId,
          r'.wiring.subscription, r'.streamers.slots, r'.players.slots, r'.players.nextNumber⟩ := rfl
    _ = r.wiring.without gone := by
        rw [hids, hwaiting, hunits, hplayerIds, hlists, hsubs, hstreamers, hplayers, hnumber]
        rfl

end

end Relay

end SignalRelay
