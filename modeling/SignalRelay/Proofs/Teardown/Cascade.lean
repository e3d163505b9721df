import SignalRelay.Proofs.Relay.Rewiring
import SignalRelay.Proofs.Teardown.Recursion

/-!
# What goes down the line

When a source goes, everybody who watches it is released: a player is left without a subscription, a
forwarding unit goes as well, and then those who watch it are released in turn.

* `Wiring.Below` are the connections that this reaches, and `Wiring.Spread` lists them without repetition.
* `Felled` is what becomes of a relay when the listed connections are released.
* `close_eq_of_unsubscribed`: closing a connection without a subscription takes it out and releases
  those who watch it.

The list may be walked in any way that comes back to a connection that has been released before: such a
connection is not subscribed any more and nothing happens to it.  So the proof is an induction on the
number of live sessions.
-/

namespace SignalRelay

/-- What is left of a session that has lost its source. -/
def Session.orphan? : Session → Option Session
  | .player viewer => some (.player { viewer with subscribed := none })
  | .streamer _ | .sfu _ _ => none

namespace Wiring

/-- The connections `roots`, and whoever watches one that is below them. -/
inductive Below (w : Wiring) (roots : List ConnectionId) : ConnectionId → Prop
  | root {p : ConnectionId} (h : p ∈ roots) : Below w roots p
  | watcher {u p : ConnectionId} (hu : Below w roots u) (h : p ∈ w.subscribers u) : Below w roots p

/-- The list of the connections that are below `roots`. -/
structure Spread (w : Wiring) (roots hit : List ConnectionId) : Prop where
  nodup : hit.Nodup
  mem_iff : ∀ d, d ∈ hit ↔ w.Below roots d

section
variable {w w' : Wiring} {roots roots' hit hit' : List ConnectionId}

theorem Below.mono (hroots : roots ⊆ roots') (hsub : ∀ u, w.subscribers u ⊆ w'.subscribers u)
    {d : ConnectionId} (h : w.Below roots d) : w'.Below roots' d := by
  induction h with
  | root h => exact .root (hroots h)
  | watcher _ h ih => exact .watcher ih (hsub _ h)

/-- Nobody else is below connections that are closed under watching. -/
theorem Below.mem_of_closed (hroots : roots ⊆ hit) (hclosed : ∀ u ∈ hit, w.subscribers u ⊆ hit)
    {d : ConnectionId} (h : w.Below roots d) : d ∈ hit := by
  induction h with
  | root h => exact hroots h
  | watcher _ h ih => exact hclosed _ ih h

theorem Spread.nil : w.Spread [] [] := by
  refine ⟨List.nodup_nil, fun d => ⟨fun h => absurd h List.not_mem_nil, fun h => ?_⟩⟩
  exact h.mem_of_closed (fun _ h => h) (fun u hu => absurd hu List.not_mem_nil)

theorem Spread.subset (h : w.Spread roots hit) : roots ⊆ hit := fun d hd => (h.mem_iff d).2 (.root hd)

theorem Spread.closed (h : w.Spread roots hit) : ∀ u ∈ hit, w.subscribers u ⊆ hit := fun u hu d hd =>
  (h.mem_iff d).2 (.watcher ((h.mem_iff u).1 hu) hd)

/-- Everybody below somebody with a subscription has one. -/
theorem Spread.subscribed (hw : w.Linked) (h : w.Spread roots hit)
    (hroots : ∀ p ∈ roots, w.subscription p ≠ none) {d : ConnectionId} (hd : d ∈ hit) :
    w.subscription d ≠ none := by
  have hbelow := (h.mem_iff d).1 hd
  cases hbelow with
  | root hmem => exact hroots d hmem
  | watcher _ hmem =>
    obtain ⟨id, hid, -⟩ := hw.mem_subscribers.1 hmem
    rw [hid]
    exact Option.some_ne_none id

/-- Who is below the first of several connections can be listed first, and then the rest, in a wiring that
has lost the first list. -/
theorem Spread.append {p : ConnectionId} (h : w.Spread [p] hit) (h' : w'.Spread roots hit')
    (hdisj : ∀ d ∈ hit', d ∉ hit) (hsub : ∀ u, u ∉ hit → w'.subscribers u = w.subscribers u)
    (hnone : ∀ u ∈ hit, w'.subscribers u = []) : w.Spread (p :: roots) (hit ++ hit') := by
  constructor
  · rw [List.nodup_append]
    exact ⟨h.nodup, h'.nodup, fun a ha b hb hab => hdisj b hb (hab ▸ ha)⟩
  · intro d
    constructor
    · intro hd
      rcases List.mem_append.1 hd with hd | hd
      · exact ((h.mem_iff d).1 hd).mono (by simp) fun _ _ hx => hx
      · -- the wiring that is left has no lists but those it had
        refine ((h'.mem_iff d).1 hd).mono (List.subset_cons_self p roots) fun u x hx => ?_
        by_cases hu : u ∈ hit
        · rw [hnone u hu] at hx
          cases hx
        · rwa [← hsub u hu]
    · -- both lists together are closed, so they hold everybody below
      intro hd
      apply hd.mem_of_closed
      · intro x hx
        rcases List.mem_cons.1 hx with rfl | hx
        · exact List.mem_append_left _ (h.subset List.mem_cons_self)
        · exact List.mem_append_right _ (h'.subset hx)
      · intro u hu x hx
        by_cases hmem : u ∈ hit
        · exact List.mem_append_left _ (h.closed u hmem hx)
        · have hu' : u ∈ hit' := (List.mem_append.1 hu).resolve_left hmem
          exact List.mem_append_right _ (h'.closed u hu' (hsub u hmem ▸ hx))

/-- Whoever is below a connection is the connection itself or below those who watch it. -/
theorem Spread.cons {p : ConnectionId} (h : w.Spread (w.subscribers p) hit) (hp : p ∉ hit) :
    w.Spread [p] (p :: hit) := by
  constructor
  · exact List.nodup_cons.2 ⟨hp, h.nodup⟩
  · have hroot : w.Below [p] p := .root List.mem_cons_self
    have hbelow : ∀ d, w.Below (w.subscribers p) d → w.Below [p] d := by
      intro d hd
      induction hd with
      | root hmem => exact .watcher hroot hmem
      | watcher _ hmem ih => exact .watcher ih hmem
    intro d
    constructor
    · intro hd
      rcases List.mem_cons.1 hd with rfl | hd
      · exact hroot
      · exact hbelow d ((h.mem_iff d).1 hd)
    · intro hd
      apply hd.mem_of_closed (by simp)
      intro u hu x hx
      rcases List.mem_cons.1 hu with rfl | hu
      · exact List.mem_cons_of_mem _ (h.subset hx)
      · exact List.mem_cons_of_mem _ (h.closed u hu hx)

/-- The lists of connections that are not below do not matter. -/
theorem Spread.congr (h : w.Spread roots hit) (hsub : ∀ u, w.subscribers u ⊆ w'.subscribers u)
    (heq : ∀ u ∈ hit, w'.subscribers u = w.subscribers u) : w'.Spread roots hit := by
  refine ⟨h.nodup, fun d => ⟨fun hd => ?_, fun hd => ?_⟩⟩
  · exact ((h.mem_iff d).1 hd).mono (fun _ hx => hx) hsub
  · apply hd.mem_of_closed h.subset
    intro u hu
    rw [heq u hu]
    exact h.closed u hu

end

end Wiring

namespace Relay

/-! ### The parts of a relay at one connection -/

section
variable {r r' : Relay} {d : ConnectionId}

theorem isSfu_congr (h : r'.session? d = r.session? d) : r'.isSfu d = r.isSfu d := by
  simp only [isSfu, h]

theorem streamerId_congr (h : r'.session? d = r.session? d) :
    r'.wiring.streamerId d = r.wiring.streamerId d := by
  simp only [wiring, source?, h]

theorem subscribers_congr (h : r'.session? d = r.session? d) :
    r'.wiring.subscribers d = r.wiring.subscribers d := by
  simp only [wiring, source?, h]

theorem playerId_congr (h : r'.session? d = r.session? d) : r'.wiring.playerId d = r.wiring.playerId d := by
  simp only [wiring, viewer?, h]

theorem subscription_congr (h : r'.session? d = r.session? d) :
    r'.wiring.subscription d = r.wiring.subscription d := by
  simp only [wiring, viewer?, h]

end

/-! ### Felled connections -/

/-- The last frame of a connection whose source has gone. -/
def farewell (r : Relay) (d : ConnectionId) : Outbound :=
  if r.isSfu d then .close sourceLost else .message .streamerDisconnected

/-- The relay `r'` is `r` after the connections `hit` have been released: the forwarding units among them
have gone with their ids, the players are left without a subscription, and each has got its farewell. -/
structure Felled (r : Relay) (hit : List ConnectionId) (r' : Relay) : Prop where
  session? : ∀ d, r'.session? d = if d ∈ hit then (r.session? d).bind Session.orphan? else r.session? d
  streamers : r'.streamers = r.streamers.removeAll (hit.filterMap r.wiring.streamerId)
  players : ∃ lost : List String,
    lost.Perm ((hit.filter r.isSfu).filterMap r.wiring.playerId) ∧ r'.players = r.players.removeAll lost
  outbox : ∀ d, r'.outbox d = (r.outbox d).pushAll (if d ∈ hit then [r.farewell d] else [])
  ambient : r'.ambient = r.ambient

section
variable {r r' r'' : Relay} {hit hit' : List ConnectionId}

theorem Felled.nil (r : Relay) : Felled r [] r where
  session? d := by simp
  streamers := by simp
  players := ⟨[], by simp, by simp⟩
  outbox d := by simp
  ambient := rfl

theorem Felled.session?_of_notMem (h : Felled r hit r') {d : ConnectionId} (hd : d ∉ hit) :
    r'.session? d = r.session? d := by
  rw [h.session?, if_neg hd]

/-- A felled connection has no subscription and no subscribers. -/
theorem Felled.wiring_of_mem (h : Felled r hit r') {d : ConnectionId} (hd : d ∈ hit) :
    r'.wiring.subscription d = none ∧ r'.wiring.subscribers d = [] := by
  have hs := h.session? d
  rw [if_pos hd] at hs
  cases hr : r.session? d with
  | none => simp [wiring, viewer?, source?, hs, hr]
  | some s => cases s <;> simp [wiring, viewer?, source?, hs, hr, Session.orphan?, Session.viewer?,
      Session.source?]

theorem Felled.append (h : Felled r hit r') (h' : Felled r' hit' r'') (hdisj : ∀ d ∈ hit', d ∉ hit) :
    Felled r (hit ++ hit') r'' where
  session? d := by
    rw [h'.session?, h.session?]
    by_cases hd' : d ∈ hit'
    · simp [hd', hdisj d hd']
    · by_cases hd : d ∈ hit <;> simp [hd, hd']
  streamers := by
    have hids : hit'.filterMap r'.wiring.streamerId = hit'.filterMap r.wiring.streamerId :=
      List.filterMap_congr fun d hd => streamerId_congr (h.session?_of_notMem (hdisj d hd))
    rw [h'.streamers, h.streamers, StreamerDirectory.removeAll_removeAll, hids, List.filterMap_append]
  players := by
    obtain ⟨lost, hlost, hp⟩ := h.players
    obtain ⟨lost', hlost', hp'⟩ := h'.players
    have hunits : hit'.filter r'.isSfu = hit'.filter r.isSfu :=
      List.filter_congr fun d hd => isSfu_congr (h.session?_of_notMem (hdisj d hd))
    have hids : (hit'.filter r.isSfu).filterMap r'.wiring.playerId =
        (hit'.filter r.isSfu).filterMap r.wiring.playerId :=
      List.filterMap_congr fun d hd =>
        playerId_congr (h.session?_of_notMem (hdisj d (List.mem_of_mem_filter hd)))
    rw [hunits, hids] at hlost'
    refine ⟨lost ++ lost', ?_, by rw [hp', hp, PlayerDirectory.removeAll_removeAll]⟩
    rw [List.filter_append, List.filterMap_append]
    exact hlost.append hlost'
  outbox d := by
    rw [h'.outbox, h.outbox, Outbox.pushAll_pushAll]
    by_cases hd' : d ∈ hit'
    · have hd := hdisj d hd'
      simp [hd', hd, farewell, isSfu_congr (h.session?_of_notMem hd)]
    · by_cases hd : d ∈ hit <;> simp [hd, hd']
  ambient := h'.ambient.trans h.ambient

end

/-! ### Closed connections -/

/-- The timer that stops when a connection is closed. -/
def ownTimer (r : Relay) (c : ConnectionId) : Option Nat :=
  match r.session? c with
  | some (.streamer source) => source.timer
  | _ => none

/-- The relay `r'` is `r` after the connection `c` has been closed, which watched nobody, and the
connections `hit` have been released. -/
structure Closed (r : Relay) (c : ConnectionId) (hit : List ConnectionId) (r' : Relay) : Prop where
  session? : ∀ d, r'.session? d =
    if d = c then none else if d ∈ hit then (r.session? d).bind Session.orphan? else r.session? d
  streamers : r'.streamers = r.streamers.removeAll ((c :: hit).filterMap r.wiring.streamerId)
  players : ∃ lost : List String,
    lost.Perm ((c :: hit.filter r.isSfu).filterMap r.wiring.playerId) ∧ r'.players = r.players.removeAll lost
  outbox : ∀ d, r'.outbox d = (r.outbox d).pushAll (if d ∈ hit then [r.farewell d] else [])
  ambient : r'.ambient = (r.stopTimer (r.ownTimer c)).ambient

/-- Takes the session of a connection out, and its streamer id. -/
def uproot (r : Relay) (c : ConnectionId) : Relay :=
  { (r.eraseSession c).stopTimer (r.ownTimer c) with
    streamers := (r.wiring.streamerId c).elim r.streamers r.streamers.remove }

/-- Takes a player id out, if there is one. -/
def retireViewer (r : Relay) (id : Option String) : Relay := id.elim r r.retirePlayer

section
variable {r : Relay} {c : ConnectionId}

@[simp] theorem stopTimer_none (r : Relay) : r.stopTimer none = r := by
  have hall : r.timers.filter (fun t => some t.number ≠ none) = r.timers := List.filter_eq_self.2 (by simp)
  unfold stopTimer
  rw [hall]

/-- A connection without a subscription is taken out, those who watch it are released, and its
player id goes last. -/
theorem close_eq_of_unsubscribed (hc : (r.session? c).isSome) (hsub : r.wiring.subscription c = none) :
    r.close c = ((r.wiring.streamerId c).elim (r.uproot c) fun id =>
      (r.wiring.subscribers c).foldl (releaseBy close id) (r.uproot c)).retireViewer
        (r.wiring.playerId c) := by
  obtain ⟨s, hs⟩ := Option.isSome_iff_exists.1 hc
  rw [close_eq, closeBy, hs]
  cases s with
  | streamer source =>
    have hsource : r.source? c = some source := source?_of_session? hs
    have hviewer : r.wiring.playerId c = none := by simp [wiring, viewer?, hs, Session.viewer?]
    simp only [hviewer, retireViewer, Option.elim_none, streamerId_eq hsource, subscribers_eq hsource,
      uproot, ownTimer, hs, retireSourceBy, retireBy]
    cases source.streamerId <;> rfl
  | player viewer =>
    have hviewer : r.viewer? c = some viewer := viewer?_of_session? hs
    have hsource : r.wiring.streamerId c = none := by simp [wiring, source?, hs, Session.source?]
    simp only [hsource, playerId_eq hviewer, retireViewer, Option.elim_none, Option.elim_some, uproot,
      ownTimer, hs, stopTimer_none, unsubscribe_eq_self hsub]
    rfl
  | sfu source viewer =>
    have hsource : r.source? c = some source := source?_of_session? hs
    have hviewer : r.viewer? c = some viewer := viewer?_of_session? hs
    simp only [playerId_eq hviewer, retireViewer, Option.elim_some, streamerId_eq hsource,
      subscribers_eq hsource, uproot, ownTimer, hs, stopTimer_none, unsubscribe_eq_self hsub,
      retireSourceBy, retireBy]
    cases source.streamerId <;> rfl

theorem session?_uproot (r : Relay) (c d : ConnectionId) :
    (r.uproot c).session? d = if d = c then none else r.session? d :=
  session?_eraseSession r c d

theorem size_uproot_lt (hc : (r.session? c).isSome) : (r.uproot c).size < r.size := by
  obtain ⟨s, hs⟩ := Option.isSome_iff_exists.1 hc
  exact size_eraseSession_lt hs

theorem streamers_uproot (h : r.wiring.Linked) :
    (r.uproot c).streamers = r.streamers.removeAll (r.wiring.streamerId c).toList := by
  simp only [uproot]
  cases hid : r.wiring.streamerId c with
  | none => simp
  | some id =>
    have hmem : id ∈ r.streamers.ids := by
      rw [← streamerIds_eq]
      exact List.mem_map_of_mem (h.mem_streamerSlots.2 hid)
    exact StreamerDirectory.remove_eq_removeAll (streamerIds_nodup h) hmem

theorem wiring_uproot (h : r.wiring.Linked) : (r.uproot c).wiring = r.wiring.erase c := by
  have hslots : (r.uproot c).streamers.slots = r.wiring.streamerSlots.filter (·.2 ≠ c) := by
    rw [streamers_uproot h, StreamerDirectory.slots_removeAll]
    apply List.filter_congr
    rintro ⟨id, d⟩ hmem
    have hd := h.mem_streamerSlots.1 hmem
    by_cases hdc : d = c
    · subst hdc
      simp [hd]
    · have hne : r.wiring.streamerId c ≠ some id := fun hid => hdc (h.streamerId_inj hd hid)
      simp [hdc, hne]
  simp only [wiring, source?, viewer?, isSfu, session?_uproot, hslots, Wiring.erase,
    Wiring.mk.injEq, true_and]
  refine ⟨?_, ?_, ?_, ?_, ?_, ?_, rfl, rfl⟩ <;> funext d <;> split <;> rfl

theorem wiring_retirePlayer (h : r.wiring.Linked) {id : String} (hmem : (id, c) ∈ r.wiring.playerSlots) :
    (r.retirePlayer id).wiring = r.wiring.strike id := by
  have hids : id ∈ r.players.ids := by
    rw [mem_playerIds_iff]
    exact List.mem_map_of_mem hmem
  have hremove := PlayerDirectory.remove_eq_removeAll (playerIds_nodup h) hids
  have hslots : (r.players.removeAll [id]).slots = r.wiring.playerSlots.filter (·.1 ≠ id) := by
    rw [PlayerDirectory.slots_removeAll]
    apply List.filter_congr
    intro s _
    simp
  unfold retirePlayer
  rw [wiring_withPlayers, hremove, hslots]
  rfl

end

end Relay

end SignalRelay
