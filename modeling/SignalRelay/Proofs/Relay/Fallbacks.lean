import SignalRelay.Proofs.Relay.Preferences
import SignalRelay.Proofs.Relay.Switching

/-!
# Falling back

A viewer that has something for its source, but no source, is subscribed to the first one that is
registered.  If there is none it is thrown out.

* `FallsBack` and `Expelled` say part by part what becomes of the relay in the two cases.
* `forwarding_falls_back`: this is what happens to a player after every run, and nothing of what it sends
  is lost.
* A forwarding unit is itself registered, and may be the first.  Then it is not subscribed to anybody, and
  what it has sent is dropped, whoever else is registered: `units_fall_back_unless_first`.
-/

namespace SignalRelay

/-- Whatever is for the source of a player goes up. -/
theorem Signal.upward?_player {kind : RoutedKind} (hkind : kind.isUplink = true) (payload : Payload) :
    (Signal.routed kind payload).upward? .player = some (kind, payload) := by
  cases kind with
  | layerPreference | streamerDataChannels | peerDataChannels => cases hkind
  | _ => rfl

namespace Relay

/-- The viewer `p`, which watches nobody, is subscribed to `first`, which is told so and then gets what
`p` has for it. -/
structure FallsBack (r : Relay) (p : ConnectionId) (viewer : Viewer) (first : ListedStreamer)
    (forwarded : Outbound) (r' : Relay) : Prop where
  switched : Switched r p (some (first.id, first.connection)) r'
  outbox : ∀ u, r'.outbox u = (r.outbox u).pushAll (if u = first.connection then
    [.message (.playerConnected viewer.playerId true (r.isSfu p) viewer.sendOffer), forwarded] else [])

/-- The player `p`, which watches nobody, is told why and leaves.  Nobody else notices. -/
structure Expelled (r : Relay) (p : ConnectionId) (viewer : Viewer) (reason : String)
    (r' : Relay) : Prop where
  session? : ∀ d, r'.session? d = if d = p then none else r.session? d
  streamers : r'.streamers = r.streamers
  listed : r.players.find? viewer.playerId = some p
  players : r'.players = { r.players with
    entries := r.players.entries.filter (·.id ≠ viewer.playerId)
    published := r.players.published ++ [.removed viewer.playerId] }
  outbox : ∀ u, r'.outbox u = (r.outbox u).pushAll (if u = p then [.close reason] else [])
  ambient : r'.ambient = r.ambient

section
variable {r : Relay} {p : ConnectionId} {viewer : Viewer} {kind : RoutedKind} {payload : Payload}
variable {first : ListedStreamer} {rest : List ListedStreamer}

/-- What goes up is relayed to the source, whoever sends it. -/
theorem handle_of_upward? {role : Role} {m : Signal} (hrole : r.role? p = some role)
    (hup : m.upward? role = some (kind, payload)) : r.handle p m = r.relayToSource p kind payload := by
  cases m with
  | routed kind' payload' =>
    cases role with
    | streamer => cases kind' <;> cases hup
    | player =>
      simp only [handle, hrole]
      cases kind' <;> cases hup <;> rfl
    | sfu =>
      simp only [handle, hrole]
      cases kind' with
      | iceCandidate =>
        simp only [Signal.upward?] at hup
        split at hup
        · cases hup
        · rename_i hstamp
          obtain ⟨rfl, rfl⟩ := Prod.mk.inj (Option.some.inj hup)
          simp only [handleSfu, if_neg hstamp]
      | _ => cases hup <;> rfl
  | _ => cases role <;> cases hup

/-! ### The first source -/

theorem find?_of_entries_cons (hfirst : r.streamers.entries = first :: rest) :
    r.streamers.find? first.id = some first := by
  simp [StreamerDirectory.find?, hfirst]

theorem first?_of_entries_cons (hfirst : r.streamers.entries = first :: rest) :
    r.streamers.first? = some first.id := by
  simp [StreamerDirectory.first?, StreamerDirectory.ids, hfirst]

theorem first?_of_entries_nil (hnil : r.streamers.entries = []) : r.streamers.first? = none := by
  simp [StreamerDirectory.first?, StreamerDirectory.ids, hnil]

theorem isSfu_iff_role? : r.isSfu p = true ↔ r.role? p = some .sfu := by
  cases hs : r.session? p <;> simp [isSfu, role?, hs, Session.isSfu]

/-- A forwarding unit is registered, so somebody is. -/
theorem exists_first_of_isSfu (h : r.wiring.Sound) (hp : r.isSfu p = true) :
    ∃ first rest, r.streamers.entries = first :: rest := by
  obtain ⟨id, hid⟩ := Option.ne_none_iff_exists'.1 (h.streamerId_of_unit hp)
  obtain ⟨entry, hentry, -⟩ := (exists_entry_iff h.toLinked).2 hid
  cases hentries : r.streamers.entries with
  | nil => simp [StreamerDirectory.find?, hentries] at hentry
  | cons first rest => exact ⟨first, rest, rfl⟩

/-- Nobody is subscribed when nobody is registered. -/
theorem subscribed_of_entries_nil (h : r.wiring.Sound) (hv : r.viewer? p = some viewer)
    (hnil : r.streamers.entries = []) : viewer.subscribed = none := by
  by_contra hsome
  obtain ⟨id, hid⟩ := Option.ne_none_iff_exists'.1 hsome
  obtain ⟨entry, hentry, -⟩ := exists_entry_of_subscribed h hv hid
  simp [StreamerDirectory.find?, hnil] at hentry

/-- A player is not registered as a source. -/
theorem connection_ne_of_player (h : r.wiring.Linked) (hp : r.session? p = some (.player viewer))
    {id : String} {entry : ListedStreamer} (hentry : r.streamers.find? id = some entry) :
    entry.connection ≠ p := by
  rintro rfl
  have hsource := isSome_source?_of_streamerId ((exists_entry_iff h).1 ⟨entry, hentry, rfl⟩)
  simp [source?, hp, Session.source?] at hsource

/-! ### The three cases -/

theorem relayToSource_of_watched? (h : r.wiring.Linked) {u : ConnectionId} (hv : r.viewer? p = some viewer)
    (hwatch : r.watched? p = some u) :
    r.relayToSource p kind payload =
      r.push u (.message (.routed kind (payload.withStamp viewer.playerId))) := by
  rw [relayToSource, if_pos (by rw [hwatch]; rfl), relayToWatched_of_watched? h hv hwatch]

/-- A queue is no part of a subscription. -/
theorem Switched.push {target : Option (String × ConnectionId)} {r' : Relay} (h : Switched r p target r')
    (u : ConnectionId) (f : Outbound) : Switched r p target (r'.push u f) :=
  ⟨h.session_self, h.session_left, h.session_joined, h.session_other, h.watched, h.streamers,
    h.players, h.ambient⟩

theorem fallsBack_relayToSource (h : r.wiring.Sound) (hv : r.viewer? p = some viewer)
    (hwatch : r.watched? p = none) (hfirst : r.streamers.entries = first :: rest)
    (hne : first.connection ≠ p) :
    FallsBack r p viewer first (.message (.routed kind (payload.withStamp viewer.playerId)))
      (r.relayToSource p kind payload) := by
  have hentry := find?_of_entries_cons hfirst
  have hswitched := switched_subscribe h hentry hne hv
  -- the subscription is there by now, under the same player id
  have hrelay : r.relayToSource p kind payload = (r.subscribe p first.id).push first.connection
      (.message (.routed kind (payload.withStamp viewer.playerId))) := by
    rw [relayToSource, if_neg (by simp [hwatch]), first?_of_entries_cons hfirst]
    exact relayToWatched_of_watched? (sound_subscribe h p first.id).toLinked (hswitched.viewer? hv)
      hswitched.watched kind payload
  rw [hrelay]
  refine ⟨hswitched.push _ _, fun u => ?_⟩
  rw [outbox_push, outbox_subscribe h.toLinked hentry hne hv, hwatch, Outbox.pushAll_pushAll]
  congr 1
  by_cases hu : u = first.connection <;> simp [hu]

/-- Nobody falls back on itself. -/
theorem relayToSource_of_first_self (hwatch : r.watched? p = none)
    (hfirst : r.streamers.entries = first :: rest) (hself : first.connection = p) :
    r.relayToSource p kind payload = r := by
  rw [relayToSource, if_neg (by simp [hwatch]), first?_of_entries_cons hfirst]
  dsimp only
  rw [subscribe_eq_self (find?_of_entries_cons hfirst) (.inl hself), relayToWatched, hwatch]

theorem expelled_terminate (h : r.wiring.Sound) (hp : r.session? p = some (.player viewer))
    (hsub : viewer.subscribed = none) (reason : String) :
    Expelled r p viewer reason (r.terminate p reason) := by
  have hv : r.viewer? p = some viewer := viewer?_of_session? hp
  have hslot := h.mem_playerSlots (playerId_eq hv)
  have hids : viewer.playerId ∈ r.players.ids := by
    rw [mem_playerIds_iff]
    exact List.mem_map_of_mem hslot
  have hidle : (r.push p (.close reason)).unsubscribe p = r.push p (.close reason) :=
    unsubscribe_eq_self ((subscription_eq hv).trans hsub)
  have hclose : r.terminate p reason =
      ((r.push p (.close reason)).eraseSession p).retirePlayer viewer.playerId := by
    rw [terminate_of_live (by rw [hp]; rfl), close_eq, closeBy, session?_push, hp]
    dsimp only
    rw [hidle]
  rw [hclose]
  exact {
    session? := fun d => session?_eraseSession (r.push p (.close reason)) p d
    streamers := rfl
    listed := (PlayerDirectory.mem_slots_iff (playerIds_nodup h.toLinked)).1 hslot
    players := PlayerDirectory.remove_eq (playerIds_nodup h.toLinked) hids
    outbox := fun u => outbox_push r p u (.close reason)
    ambient := rfl }

/-- Without anybody to fall back on, a player is thrown out. -/
theorem expelled_relayToSource (h : r.wiring.Sound) (hp : r.session? p = some (.player viewer))
    (hnil : r.streamers.entries = []) : Expelled r p viewer noStreamers (r.relayToSource p kind payload) := by
  have hv : r.viewer? p = some viewer := viewer?_of_session? hp
  have hsub := subscribed_of_entries_nil h hv hnil
  have hwatch : r.watched? p = none := watched?_of_subscribed hv hsub
  have hout : r.relayToSource p kind payload = r.terminate p noStreamers := by
    rw [relayToSource, if_neg (by simp [hwatch]), first?_of_entries_nil hnil]
  exact hout ▸ expelled_terminate h hp hsub noStreamers

/-! ### After every run -/

/-- What a player has for its source is queued, under the player's stamp, for the one it is subscribed to,
and that is all.  One that is not subscribed comes to the first source, which is told of it, with the
preference that the player was admitted with, before it gets the message.  If there is no source, the
player is thrown out. -/
theorem forwarding_falls_back (settings : Settings) (ops : List Operation)
    (hops : (fresh settings).Allows ops) (p : ConnectionId) (viewer : Viewer)
    (hp : ((fresh settings).run ops).session? p = some (.player viewer)) (kind : RoutedKind)
    (hkind : kind.isUplink = true) (payload : Payload) :
    let r := (fresh settings).run ops
    let r' := r.handle p (.routed kind payload)
    let forwarded := Outbound.message (.routed kind (payload.withStamp viewer.playerId))
    (∀ id, viewer.subscribed = some id → ∃ entry source, r.streamers.find? id = some entry ∧
      r.source? entry.connection = some source ∧ source.streamerId = some id ∧
      r' = r.push entry.connection forwarded) ∧
    (viewer.subscribed = none → ∀ first rest, r.streamers.entries = first :: rest →
      FallsBack r p viewer first forwarded r' ∧ r.isSfu p = false ∧
      ∃ offerToReceive, lastAdmission? p ops = some (.player, offerToReceive) ∧
        viewer.sendOffer = !offerToReceive) ∧
    (r.streamers.entries = [] → Expelled r p viewer noStreamers r') := by
  intro r r' forwarded
  have h : r.wiring.Sound := sound_run (sound_fresh settings) hops
  have hv : r.viewer? p = some viewer := viewer?_of_session? hp
  have hrole : r.role? p = some .player := role?_of_session? hp
  have hr' : r' = r.relayToSource p kind payload :=
    handle_of_upward? hrole (Signal.upward?_player hkind payload)
  refine ⟨fun id hid => ?_, fun hsub first rest hfirst => ⟨?_, ?_, ?_⟩, fun hnil => ?_⟩
  · obtain ⟨entry, hentry, hwatch⟩ := exists_entry_of_subscribed h hv hid
    obtain ⟨source, hs, hown⟩ :=
      exists_source_of_streamerId ((exists_entry_iff h.toLinked).1 ⟨entry, hentry, rfl⟩)
    exact ⟨entry, source, hentry, hs, hown, hr'.trans (relayToSource_of_watched? h.toLinked hv hwatch)⟩
  · have hwatch : r.watched? p = none := watched?_of_subscribed hv hsub
    have hne := connection_ne_of_player h.toLinked hp (find?_of_entries_cons hfirst)
    exact hr' ▸ fallsBack_relayToSource h hv hwatch hfirst hne
  · show (r.session? p).any Session.isSfu = false
    rw [hp]
    rfl
  · obtain ⟨offerToReceive, hadmission, hpref⟩ := openedAs_run hops p _ hp
    exact ⟨offerToReceive, hadmission, Option.some.inj hpref⟩
  · exact hr' ▸ expelled_relayToSource h hp hnil

/-- A player that asked to make the offer itself answers before it has subscribed. -/
theorem forwarding_falls_back_to_camera :
    let ops : List Operation :=
      [.accept ⟨1⟩ .streamer false, .message ⟨1⟩ (.endpointId "hall"), .accept ⟨2⟩ .player true]
    let r := (fresh Settings.standard).run ops
    let r' := r.handle ⟨2⟩ (.routed .answer Payload.empty)
    (fresh Settings.standard).Allows ops ∧ r.session? ⟨2⟩ = some (.player ⟨"Player0", none, false⟩) ∧
      RoutedKind.answer.isUplink = true ∧
      FallsBack r ⟨2⟩ ⟨"Player0", none, false⟩ ⟨"hall", ⟨1⟩, true⟩
        (.message (.routed .answer (Payload.empty.withStamp "Player0"))) r' ∧
      r'.outbox ⟨1⟩ = (r.outbox ⟨1⟩).pushAll [.message (.playerConnected "Player0" true false false),
        .message (.routed .answer (Payload.empty.withStamp "Player0"))] := by
  intro ops r r'
  have hops : (fresh Settings.standard).Allows ops := by decide +kernel
  have hp : r.session? ⟨2⟩ = some (.player ⟨"Player0", none, false⟩) := by decide +kernel
  have hentries : r.streamers.entries = [⟨"hall", ⟨1⟩, true⟩] := by decide +kernel
  obtain ⟨-, hfalls, -⟩ :=
    forwarding_falls_back Settings.standard ops hops ⟨2⟩ _ hp .answer rfl Payload.empty
  obtain ⟨hback, hplain, -⟩ := hfalls rfl _ [] hentries
  refine ⟨hops, hp, rfl, hback, ?_⟩
  rw [hback.outbox ⟨1⟩, hplain]
  rfl

/-- What a forwarding unit without a source has for one goes the way of a player's, unless the unit itself
is the first that is registered.  Then it is dropped. -/
theorem units_fall_back_unless_first (settings : Settings) (ops : List Operation)
    (hops : (fresh settings).Allows ops) (k : ConnectionId) (viewer : Viewer)
    (hk : ((fresh settings).run ops).role? k = some .sfu)
    (hv : ((fresh settings).run ops).viewer? k = some viewer) (hsub : viewer.subscribed = none)
    (kind : RoutedKind) (payload : Payload)
    (hup : (Signal.routed kind payload).upward? .sfu = some (kind, payload)) :
    let r := (fresh settings).run ops
    let r' := r.handle k (.routed kind payload)
    let forwarded := Outbound.message (.routed kind (payload.withStamp viewer.playerId))
    ∃ first rest, r.streamers.entries = first :: rest ∧
      (FallsBack r k viewer first forwarded r' ↔ first.connection ≠ k) ∧ (first.connection = k → r' = r) := by
  intro r r' forwarded
  have h : r.wiring.Sound := sound_run (sound_fresh settings) hops
  have hunit : r.isSfu k = true := isSfu_iff_role?.2 hk
  have hwatch : r.watched? k = none := watched?_of_subscribed hv hsub
  have hr' : r' = r.relayToSource k kind payload := handle_of_upward? hk hup
  obtain ⟨first, rest, hfirst⟩ := exists_first_of_isSfu h hunit
  have hdrop : first.connection = k → r' = r :=
    fun hself => hr'.trans (relayToSource_of_first_self hwatch hfirst hself)
  refine ⟨first, rest, hfirst, ⟨fun hback hself => ?_, fun hne => ?_⟩, hdrop⟩
  · have hwatch' := hback.switched.watched
    rw [hdrop hself, hwatch] at hwatch'
    cases hwatch'
  · exact hr' ▸ fallsBack_relayToSource h hv hwatch hfirst hne

/-- A unit that comes after the camera has its answer delivered. -/
theorem units_fall_back_unless_first_late :
    let ops : List Operation :=
      [.accept ⟨1⟩ .streamer true, .message ⟨1⟩ (.endpointId "hall"), .accept ⟨2⟩ .sfu true]
    let r := (fresh Settings.standard).run ops
    let r' := r.handle ⟨2⟩ (.routed .answer Payload.empty)
    (fresh Settings.standard).Allows ops ∧ r.role? ⟨2⟩ = some .sfu ∧
    r.viewer? ⟨2⟩ = some ⟨"Player0", none, true⟩ ∧
      (Signal.routed .answer Payload.empty).upward? .sfu = some (.answer, Payload.empty) ∧
      FallsBack r ⟨2⟩ ⟨"Player0", none, true⟩ ⟨"hall", ⟨1⟩, true⟩
        (.message (.routed .answer (Payload.empty.withStamp "Player0"))) r' := by
  intro ops r r'
  have hops : (fresh Settings.standard).Allows ops := by decide +kernel
  have hk : r.role? ⟨2⟩ = some .sfu := by decide +kernel
  have hv : r.viewer? ⟨2⟩ = some ⟨"Player0", none, true⟩ := by decide +kernel
  have hentries : r.streamers.entries = [⟨"hall", ⟨1⟩, true⟩, ⟨"SFU", ⟨2⟩, false⟩] := by decide +kernel
  obtain ⟨first, rest, hfirst, hback, -⟩ :=
    units_fall_back_unless_first Settings.standard ops hops ⟨2⟩ _ hk hv rfl .answer Payload.empty rfl
  obtain ⟨rfl, -⟩ := List.cons.inj (hentries.symm.trans hfirst)
  exact ⟨hops, hk, hv, rfl, hback.2 (by decide)⟩

/-- A unit that comes before the camera has its answer dropped, although the camera is registered. -/
theorem early_unit_loses_answer :
    let ops : List Operation :=
      [.accept ⟨1⟩ .sfu true, .accept ⟨2⟩ .streamer true, .message ⟨2⟩ (.endpointId "hall")]
    let r := (fresh Settings.standard).run ops
    let r' := r.handle ⟨1⟩ (.routed .answer Payload.empty)
    (fresh Settings.standard).Allows ops ∧ r.role? ⟨1⟩ = some .sfu ∧
    r.viewer? ⟨1⟩ = some ⟨"Player0", none, true⟩ ∧
      r.streamers.owner? "hall" = some ⟨2⟩ ∧ r'.viewer? ⟨1⟩ = some ⟨"Player0", none, true⟩ ∧
      ∀ u, r'.outbox u = r.outbox u := by
  intro ops r r'
  have hdropped : r' = r := by decide +kernel
  refine ⟨by decide +kernel, by decide +kernel, by decide +kernel, by decide +kernel, ?_, fun u => ?_⟩
  · rw [hdropped]
    decide +kernel
  · rw [hdropped]

end

end Relay

end SignalRelay
