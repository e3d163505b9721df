import SignalRelay.Proofs.Relay.Fallbacks

/-!
# What a player can do to others

A player cannot disturb anybody but the source that it leaves and the one that it comes to, and those
only by its leaving and coming.  Whatever it sends, kinds of message that are not for players included,
both directories stay as they are, except that the player's own entry goes if it has something for a
source and there is none.

* `Confined` says part by part what may become of the relay when a player stays; when it is thrown out,
  that is `Expelled`.
* `confined_subscribe`, `confined_unsubscribe` and `confined_relayToSource` go through what a player can
  ask for.
* `players_disturb_nobody` puts them together, after every run.
-/

namespace SignalRelay

namespace Relay

/-- The relay `r'` is `r` after the player `p` has done something.  Nobody else has noticed, apart from
the source that it has left and the one that it has come to. -/
structure Confined (r : Relay) (p : ConnectionId) (viewer : Viewer) (r' : Relay) : Prop where
  session_self : ∃ id, r'.session? p = some (.player { viewer with subscribed := id })
  session_other : ∀ d, d ≠ p → r'.session? d = r.session? d ∨
    (r.watched? p = some d ∨ r'.watched? p = some d) ∧
    r'.session? d = (r.session? d).map (Session.mapSource fun source => { source with
      subscribers := source.subscribers.filter (· ≠ p) ++ if r'.watched? p = some d then [p] else [] })
  streamers : r'.streamers = r.streamers
  players : r'.players = r.players
  outbox : ∀ d, d ≠ p → r.watched? p ≠ some d → r'.watched? p ≠ some d → r'.outbox d = r.outbox d
  ambient : r'.ambient = r.ambient

/-- The message of a player goes nowhere, and costs it its session. -/
def Strands (r : Relay) (viewer : Viewer) (m : Signal) : Prop :=
  (m.upward? .player).isSome ∧ viewer.subscribed = none ∧ r.streamers.entries = []

/-- A player has sent a message, and at most its own entry has gone. -/
structure Contained (r : Relay) (p : ConnectionId) (viewer : Viewer) (m : Signal) (r' : Relay) : Prop where
  stays : ¬ r.Strands viewer m → Confined r p viewer r'
  leaves : r.Strands viewer m → Expelled r p viewer noStreamers r'

section
variable {r r' : Relay} {p : ConnectionId} {viewer : Viewer} {kind : RoutedKind} {payload : Payload}

/-! ### Building blocks -/

theorem confined_refl (hp : r.session? p = some (.player viewer)) : Confined r p viewer r where
  session_self := ⟨viewer.subscribed, hp⟩
  session_other _ _ := .inl rfl
  streamers := rfl
  players := rfl
  outbox _ _ _ _ := rfl
  ambient := rfl

/-- The player itself or its source is sent something. -/
theorem confined_push (hp : r.session? p = some (.player viewer)) {u : ConnectionId}
    (hu : u = p ∨ r.watched? p = some u) (f : Outbound) : Confined r p viewer (r.push u f) where
  session_self := ⟨viewer.subscribed, hp⟩
  session_other _ _ := .inl rfl
  streamers := rfl
  players := rfl
  outbox := by
    intro d hd hwatch _
    have hne : d ≠ u := by
      rintro rfl
      exact hu.elim hd hwatch
    rw [outbox_push, if_neg hne, Outbox.pushAll_nil]
  ambient := rfl

theorem confined_send (hp : r.session? p = some (.player viewer)) (m : Signal) :
    Confined r p viewer (r.send p m) := by
  rw [Relay.send, if_pos (by rw [hp]; rfl)]
  exact confined_push hp (.inl rfl) _

/-- Who leaves a source and comes to another one is noticed by these two. -/
theorem Switched.confined {target : Option (String × ConnectionId)} (h : Switched r p target r')
    (hp : r.session? p = some (.player viewer))
    (hbox : ∀ d, r.watched? p ≠ some d → target.map Prod.snd ≠ some d → r'.outbox d = r.outbox d) :
    Confined r p viewer r' where
  session_self := by
    obtain ⟨s, hs, -, hs'⟩ := h.session_self
    obtain rfl := Option.some.inj (hp.symm.trans hs)
    exact ⟨_, hs'⟩
  session_other := by
    intro d hd
    rw [h.watched]
    by_cases hnew : target.map Prod.snd = some d
    · obtain ⟨s, hs, -, hs'⟩ := h.session_joined d hnew
      exact .inr ⟨.inr hnew, by rw [hs', hs, if_pos hnew]; rfl⟩
    · by_cases hold : r.watched? p = some d
      · obtain ⟨s, hs, -, hs'⟩ := h.session_left d hold hnew
        exact .inr ⟨.inl hold, by rw [hs', hs, if_neg hnew]; simp⟩
      · exact .inl (h.session_other d hd hold hnew)
  streamers := h.streamers
  players := h.players
  outbox d _ hold hnew := hbox d hold (h.watched ▸ hnew)
  ambient := h.ambient

/-! ### What a player can ask for -/

theorem confined_subscribe (h : r.wiring.Sound) (hp : r.session? p = some (.player viewer)) (id : String) :
    Confined r p viewer (r.subscribe p id) := by
  have hv : r.viewer? p = some viewer := viewer?_of_session? hp
  cases hentry : r.streamers.find? id with
  | none =>
    rw [subscribe_eq_of_missing hentry]
    exact confined_send hp _
  | some entry =>
    have hne := connection_ne_of_player h.toLinked hp hentry
    refine (switched_subscribe h hentry hne hv).confined hp fun d hold hnew => ?_
    have hd : d ≠ entry.connection := fun he => hnew (congrArg some he.symm)
    rw [outbox_subscribe h.toLinked hentry hne hv, if_neg hold, if_neg hd]
    rfl

theorem confined_unsubscribe (h : r.wiring.Sound) (hp : r.session? p = some (.player viewer)) :
    Confined r p viewer (r.unsubscribe p) := by
  have hv : r.viewer? p = some viewer := viewer?_of_session? hp
  refine (switched_unsubscribe h hv).confined hp fun d hold _ => ?_
  rw [outbox_unsubscribe_of_viewer? h.toLinked hv, if_neg hold]
  rfl

theorem confined_relayToSource (h : r.wiring.Sound) (hp : r.session? p = some (.player viewer))
    (hsome : viewer.subscribed = none → r.streamers.entries ≠ []) :
    Confined r p viewer (r.relayToSource p kind payload) := by
  have hv : r.viewer? p = some viewer := viewer?_of_session? hp
  cases hid : viewer.subscribed with
  | some id =>
    obtain ⟨entry, -, hwatch⟩ := exists_entry_of_subscribed h hv hid
    rw [relayToSource_of_watched? h.toLinked hv hwatch]
    exact confined_push hp (.inr hwatch) _
  | none =>
    have hwatch : r.watched? p = none := watched?_of_subscribed hv hid
    obtain ⟨first, rest, hfirst⟩ := List.exists_cons_of_ne_nil (hsome hid)
    have hne := connection_ne_of_player h.toLinked hp (find?_of_entries_cons hfirst)
    have hback : FallsBack r p viewer first (.message (.routed kind (payload.withStamp viewer.playerId)))
        (r.relayToSource p kind payload) := fallsBack_relayToSource h hv hwatch hfirst hne
    refine hback.switched.confined hp fun d _ hnew => ?_
    have hd : d ≠ first.connection := fun he => hnew (congrArg some he.symm)
    rw [hback.outbox, if_neg hd, Outbox.pushAll_nil]

/-! ### Whole messages -/

/-- A player that has nothing for its source stays. -/
theorem contained_of_confined {m : Signal} (hup : m.upward? .player = none) (h : Confined r p viewer r') :
    Contained r p viewer m r' where
  stays _ := h
  leaves hleave := by simp [Strands, hup] at hleave

theorem contained_handle (h : r.wiring.Sound) (hp : r.session? p = some (.player viewer)) (m : Signal) :
    Contained r p viewer m (r.handle p m) := by
  have hrole : r.role? p = some .player := role?_of_session? hp
  cases hup : m.upward? .player with
  | some up =>
    obtain ⟨kind, payload⟩ := up
    rw [handle_of_upward? hrole hup]
    exact {
      stays := fun hstay => confined_relayToSource h hp fun hsub hnil => hstay ⟨by rw [hup]; rfl, hsub, hnil⟩
      leaves := fun hleave => expelled_relayToSource h hp hleave.2.2 }
  | none =>
    refine contained_of_confined hup ?_
    simp only [handle, hrole]
    cases m with
    | subscribe id => exact confined_subscribe h hp id
    | unsubscribe => exact confined_unsubscribe h hp
    | listStreamers => exact confined_send hp _
    | routed kind payload =>
      cases kind with
      | layerPreference | streamerDataChannels | peerDataChannels => exact confined_refl hp
      | _ => cases hup
    | _ => exact confined_refl hp

/-- What comes in a frame does no more than the message that it brings. -/
theorem contained_receive (h : r.wiring.Sound) (hp : r.session? p = some (.player viewer))
    (content : Inbound) :
    match Signal.ofFrame? content with
    | .ok m => Contained r p viewer m (r.receive p content).1
    | .error _ => Confined r p viewer (r.receive p content).1 := by
  have hbox := outbox_setOutbox_outbox r p
  rcases receive_cases r p content with ⟨m, hm, -, heq⟩ | ⟨hin, heq | ⟨time, hm, heq⟩⟩
  · have hhandled := contained_handle (r := r.setOutbox p (r.outbox p)) h hp m
    rw [heq]
    simp only [hm]
    exact {
      stays := fun hstay => { hhandled.stays hstay with
        outbox := fun d hd hold hnew => ((hhandled.stays hstay).outbox d hd hold hnew).trans (hbox d) }
      leaves := fun hleave => { hhandled.leaves hleave with
        outbox := fun u => hbox u ▸ (hhandled.leaves hleave).outbox u } }
  · have hkept : Confined r p viewer (r.setOutbox p (r.outbox p)) :=
      { confined_refl hp with outbox := fun d _ _ _ => hbox d }
    rw [heq]
    cases hm : Signal.ofFrame? content with
    | error e => exact hkept
    | ok m =>
      refine contained_of_confined ?_ hkept
      cases m with
      | routed kind payload => simp [Operation.inbound?, hm] at hin
      | _ => rfl
  · rw [heq]
    simp only [hm]
    exact contained_of_confined rfl (confined_push hp (.inl rfl) _)

/-! ### After every run -/

/-- Whatever a player sends, as a message or as a frame, nobody else is disturbed by it. -/
theorem players_disturb_nobody (settings : Settings) (ops : List Operation)
    (hops : (fresh settings).Allows ops) (p : ConnectionId) (viewer : Viewer)
    (hp : ((fresh settings).run ops).session? p = some (.player viewer)) :
    let r := (fresh settings).run ops
    (∀ m, Contained r p viewer m (r.handle p m)) ∧
    ∀ content, match Signal.ofFrame? content with
      | .ok m => Contained r p viewer m (r.receive p content).1
      | .error _ => Confined r p viewer (r.receive p content).1 := by
  intro r
  have h : r.wiring.Sound := sound_run (sound_fresh settings) hops
  exact ⟨contained_handle h hp, contained_receive h hp⟩

/-- A player moves from a camera to a forwarding unit, and another player on the camera goes on
undisturbed. -/
theorem players_disturb_nobody_between_sources :
    let ops : List Operation :=
      [.accept ⟨1⟩ .streamer true, .message ⟨1⟩ (.endpointId "hall"), .accept ⟨2⟩ .sfu true,
        .accept ⟨3⟩ .player true, .message ⟨3⟩ (.subscribe "hall"), .accept ⟨4⟩ .player true,
        .message ⟨4⟩ (.subscribe "hall")]
    let r := (fresh Settings.standard).run ops
    let r' := r.handle ⟨3⟩ (.subscribe "SFU")
    (fresh Settings.standard).Allows ops ∧ r.session? ⟨3⟩ = some (.player ⟨"Player1", some "hall", false⟩) ∧
      ¬ r.Strands ⟨"Player1", some "hall", false⟩ (.subscribe "SFU") ∧
      Confined r ⟨3⟩ ⟨"Player1", some "hall", false⟩ r' ∧ r'.session? ⟨4⟩ = r.session? ⟨4⟩ ∧
      r'.outbox ⟨4⟩ = r.outbox ⟨4⟩ := by
  intro ops r r'
  have hops : (fresh Settings.standard).Allows ops := by decide +kernel
  have hp : r.session? ⟨3⟩ = some (.player ⟨"Player1", some "hall", false⟩) := by decide +kernel
  have hstay : ¬ r.Strands ⟨"Player1", some "hall", false⟩ (.subscribe "SFU") := fun hleave => by
    cases hleave.1
  have hold : r.watched? ⟨3⟩ ≠ some ⟨4⟩ := by decide +kernel
  have hnew : r'.watched? ⟨3⟩ ≠ some ⟨4⟩ := by decide +kernel
  have hconfined :=
    ((players_disturb_nobody Settings.standard ops hops ⟨3⟩ _ hp).1 (.subscribe "SFU")).stays hstay
  refine ⟨hops, hp, hstay, hconfined, ?_, hconfined.outbox ⟨4⟩ (by decide) hold hnew⟩
  rcases hconfined.session_other ⟨4⟩ (by decide) with hsame | ⟨hwatch, -⟩
  · exact hsame
  · exact absurd hwatch (not_or.2 ⟨hold, hnew⟩)

end

end Relay

end SignalRelay
