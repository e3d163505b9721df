import SignalRelay.Proofs.Relay.Upkeep

/-!
# One operation

What a single operation can do.  It opens a session (`Opening`), or the far side of a connection goes
away, or it is a `Turn`: some upkeep, and then at most one frame that is relayed to a source.

* `uplink?` is the frame that a viewer's message becomes, with the source that it is for.
* `channels?` is the same for the data channels of a forwarding unit.
* `subscriber?` is the viewer that a message may subscribe to a source, and `mover?` the one whose
  subscription it may also end.
* `outcome_apply` says that there are no other operations.  What holds of all runs follows from it.
-/

namespace SignalRelay

/-- The message that an operation brings, and from whom.  Keep-alives and frames that are no message bring
none. -/
def Operation.inbound? : Operation → Option (ConnectionId × Signal)
  | .message c m => some (c, m)
  | .frame c content =>
    match Signal.ofFrame? content with
    | .error _ => none
    | .ok (.ping _) => none
    | .ok m => some (c, m)
  | _ => none

/-- The connection that an operation opens a session for. -/
def Operation.opened? : Operation → Option ConnectionId
  | .accept c _ _ => some c
  | _ => none

/-- What a viewer of a role has passed on to its source.  A forwarding unit makes no offers, and a
candidate of it that is stamped is for a player. -/
def Signal.upward? (role : Role) : Signal → Option (RoutedKind × Payload)
  | .routed kind payload =>
    match role, kind with
    | .player, .offer | .player, .answer | .player, .iceCandidate | .player, .dataChannelRequest
    | .player, .peerDataChannelsReady | .sfu, .answer | .sfu, .dataChannelRequest
    | .sfu, .peerDataChannelsReady =>
      some (kind, payload)
    | .sfu, .iceCandidate => if payload.playerId.isSome then none else some (kind, payload)
    | _, _ => none
  | _ => none

/-- An operation that can happen to a relay: no connection is accepted twice while it is live. -/
def Operation.Proper (r : Relay) : Operation → Prop
  | .accept c _ _ => r.session? c = none
  | _ => True

instance (r : Relay) (op : Operation) : Decidable (op.Proper r) := by
  cases op <;> unfold Operation.Proper <;> infer_instance

namespace Relay

/-- The source that a viewer's messages are for: the one it watches, or else the first one that is
registered, unless that is the viewer itself. -/
def sourceFor? (r : Relay) (c : ConnectionId) : Option ConnectionId :=
  if (r.watched? c).isSome then r.watched? c
  else (r.streamers.first?.bind r.streamers.owner?).filter (· ≠ c)

/-- What a message is relayed to a source as, under the stamp of its sender. -/
def uplink? (r : Relay) (c : ConnectionId) (m : Signal) : Option (ConnectionId × Outbound) := do
  let role ← r.role? c
  let viewer ← r.viewer? c
  let (kind, payload) ← m.upward? role
  let source ← r.sourceFor? c
  return (source, .message (.routed kind (payload.withStamp viewer.playerId)))

/-- What the data channels of a forwarding unit are relayed to its source as. -/
def channels? (r : Relay) (c : ConnectionId) (m : Signal) : Option (ConnectionId × Outbound) :=
  match r.role? c, r.viewer? c, r.watched? c, m with
  | some .sfu, some viewer, some source, .routed .streamerDataChannels payload =>
    let payload := payload.insert "sfuId" (.str viewer.playerId)
    let payload := if payload.playerId.isSome then payload else payload.withStamp viewer.playerId
    some (source, .message (.routed .streamerDataChannels payload))
  | _, _, _, _ => none

/-- What an operation relays to a source under a stamp. -/
def uplinkOf? (r : Relay) (op : Operation) : Option (ConnectionId × Outbound) :=
  op.inbound?.bind fun (c, m) => r.uplink? c m

/-- What an operation relays to a source of a unit's data channels. -/
def channelsOf? (r : Relay) (op : Operation) : Option (ConnectionId × Outbound) :=
  op.inbound?.bind fun (c, m) => r.channels? c m

/-- What an operation relays to a source. -/
def relayOf? (r : Relay) (op : Operation) : Option (ConnectionId × Outbound) :=
  (r.uplinkOf? op).or (r.channelsOf? op)

/-- A viewer that is subscribed before its message can go to a source. -/
def fallback? (r : Relay) (c : ConnectionId) : Option ConnectionId :=
  if (r.watched? c).isSome then none else (r.sourceFor? c).map fun _ => c

/-- The viewer that a message may subscribe to a source, because it asks for that or has something
for its source. -/
def subscriber? (r : Relay) (c : ConnectionId) (m : Signal) : Option ConnectionId :=
  match m with
  | .subscribe _ => some c
  | m => if (r.role? c).any (fun role => (m.upward? role).isSome) then r.fallback? c else none

/-- The viewer whose own subscription a message may end or start. -/
def mover? (r : Relay) (c : ConnectionId) (m : Signal) : Option ConnectionId :=
  match m with
  | .unsubscribe => if (r.watched? c).isSome then some c else none
  | m => r.subscriber? c m

/-- The viewer that an operation may subscribe to a source. -/
def subscriberOf? (r : Relay) (op : Operation) : Option ConnectionId :=
  op.inbound?.bind fun (c, m) => r.subscriber? c m

/-- The viewer whose own subscription an operation may end or start. -/
def moverOf? (r : Relay) (op : Operation) : Option ConnectionId :=
  op.inbound?.bind fun (c, m) => r.mover? c m

/-- Some upkeep, and then a frame is relayed to the source that it is for, if there is one.  A stamp on it
is that of somebody who watches the source. -/
inductive Turn (r : Relay) (mover : Option ConnectionId) (relayed : Option (ConnectionId × Outbound)) :
    Relay → Prop
  | upkeep {r' : Relay} (h : Upkeep mover r r') (hnone : relayed = none) : Turn r mover relayed r'
  | relay {s : Relay} {u : ConnectionId} {f : Outbound} (h : Upkeep mover r s) (hsome : relayed = some (u, f))
      (hf : f.relayed = true) (hsource : (s.source? u).isSome)
      (hstamp : ∀ id, f.uplinkStamp? = some id → id ∈ s.watchers u) : Turn r mover relayed (s.push u f)

/-- A session is opened for `c` in some role, or refused.  If it is a viewer's, it gets the next player id. -/
structure Opening (r : Relay) (c : ConnectionId) (role : Role) (r' : Relay) : Prop extends Quiet r r' where
  outbox : ∃ frames, (∀ f ∈ frames, f.plain = true ∨ ∃ reason, f = .close reason) ∧
    ∀ u, r'.outbox u = (r.outbox u).pushAll (if u = c then frames else [])
  roles : ∀ {d x}, r'.role? d = some x → r.role? d = some x ∨ d = c ∧ x = role
  sound : r'.wiring.Sound
  subscribers : r'.wiring.subscribers = r.wiring.subscribers
  /-- Nobody but a forwarding unit is registered from the start. -/
  streamerId : ∀ {d}, d ≠ c ∨ role = .streamer → r'.wiring.streamerId d = r.wiring.streamerId d
  playerId : ∀ {d id}, r'.wiring.playerId d = some id → r.wiring.playerId d = some id ∨
    d = c ∧ id = PlayerDirectory.idOf r.wiring.nextNumber ∧ r'.wiring.nextNumber = r.wiring.nextNumber + 1
  nextNumber : r.wiring.nextNumber ≤ r'.wiring.nextNumber

/-- What can come of an operation. -/
inductive Outcome (r : Relay) (op : Operation) : Relay → Prop
  | turn {r' : Relay} (hop : op.opened? = none) (hstay : ∀ c, op ≠ .abandon c)
      (h : Turn r (r.moverOf? op) (r.relayOf? op) r') : Outcome r op r'
  | opening {c : ConnectionId} {role : Role} {offerToReceive : Bool} {r' : Relay}
      (hop : op = .accept c role offerToReceive) (hnew : r.session? c = none) (h : Opening r c role r') :
      Outcome r op r'
  | abandoned {c : ConnectionId} (hop : op = .abandon c) : Outcome r op (r.abandon c)

section
variable {r r' : Relay} {c : ConnectionId}

theorem watched?_subscribe (h : r.wiring.Sound) {id : String} {entry : ListedStreamer} {viewer : Viewer}
    (hentry : r.streamers.find? id = some entry) (hne : entry.connection ≠ c)
    (hv : r.viewer? c = some viewer) :
    (r.subscribe c id).watched? c = some entry.connection := by
  have howner := (exists_entry_iff h.toLinked).1 ⟨entry, hentry, rfl⟩
  rw [watched?_eq_some_iff (sound_subscribe h c id).toLinked, wiring_subscribe h.toLinked hentry hne hv]
  exact ⟨id, by simp [Wiring.attach], howner⟩

theorem find?_of_first? {id : String} (h : r.streamers.first? = some id) :
    ∃ entry, r.streamers.find? id = some entry := by
  have hmem : id ∈ r.streamers.ids := List.mem_of_mem_head? h
  exact Option.isSome_iff_exists.1 (StreamerDirectory.contains_iff.2 hmem)

/-- A viewer without a source is subscribed to the first one, and that is where its message goes. -/
theorem sourceFor?_eq (h : r.wiring.Sound) (hc : (r.viewer? c).isSome) (hnone : r.watched? c = none) :
    r.sourceFor? c = r.streamers.first?.bind fun first => (r.subscribe c first).watched? c := by
  obtain ⟨viewer, hv⟩ := Option.isSome_iff_exists.1 hc
  simp only [sourceFor?, hnone, Option.isSome_none, Bool.false_eq_true, if_false]
  cases hfirst : r.streamers.first? with
  | none => rfl
  | some first =>
    obtain ⟨entry, hentry⟩ := find?_of_first? hfirst
    simp only [Option.bind_some, StreamerDirectory.owner?, hentry, Option.map_some]
    by_cases hne : entry.connection = c
    · rw [subscribe_eq_self hentry (.inl hne), hnone]
      simp [hne]
    · rw [watched?_subscribe h hentry hne hv]
      simp [hne]

/-! ### Turns -/

variable {mover : Option ConnectionId} {relayed : Option (ConnectionId × Outbound)}

theorem Turn.sound (h : Turn r mover relayed r') : r'.wiring.Sound := by
  cases h with
  | upkeep h => exact h.sound
  | relay h => exact h.sound

/-- What is relayed changes nothing but a queue. -/
theorem Turn.exists_changes (h : Turn r mover relayed r') :
    ∃ s, Changes mover r s ∧ r'.wiring = s.wiring ∧ ∀ d, r'.session? d = s.session? d := by
  cases h with
  | upkeep h => exact ⟨r', h.changes, rfl, fun _ => rfl⟩
  | @relay s _ _ h => exact ⟨s, h.changes, rfl, fun _ => rfl⟩

/-- Changes are a turn in which nothing is relayed. -/
private theorem turn_of_changes (h : r.wiring.Sound) (hchanges : Changes mover r r')
    (hnone : relayed = none) :
    Turn r mover relayed r' :=
  .upkeep (hchanges.upkeep h) hnone

/-- Changes before a turn belong to it. -/
theorem Turn.after {s : Relay} (h : Turn s mover relayed r') (hr : r.wiring.Sound)
    (hbefore : Changes mover r s) :
    Turn r mover relayed r' := by
  cases h with
  | upkeep h hnone => exact .upkeep ((hbefore.upkeep hr).trans h) hnone
  | relay h hsome hf hsource hstamp => exact .relay ((hbefore.upkeep hr).trans h) hsome hf hsource hstamp

theorem isSome_source?_of_watched? (h : r.wiring.Linked) {u : ConnectionId} (hwatch : r.watched? c = some u) :
    (r.source? u).isSome := by
  obtain ⟨id, -, hu⟩ := (watched?_eq_some_iff h).1 hwatch
  exact isSome_source?_of_streamerId hu

/-- A payload of a viewer that watches somebody goes to the queue of that source. -/
theorem relayToWatched_of_watched? (h : r.wiring.Linked) {viewer : Viewer} {u : ConnectionId}
    (hv : r.viewer? c = some viewer) (hwatch : r.watched? c = some u) (kind : RoutedKind)
    (payload : Payload) :
    r.relayToWatched c kind payload =
      r.push u (.message (.routed kind (payload.withStamp viewer.playerId))) := by
  have hlive := isSome_session?_of_source? (isSome_source?_of_watched? h hwatch)
  simp only [relayToWatched, hwatch, hv, Relay.send, if_pos hlive]

private theorem turn_relayToWatched (h : r.wiring.Sound) {viewer : Viewer} {u : ConnectionId}
    {kind : RoutedKind} (hkind : kind.isUplink = true) (hv : r.viewer? c = some viewer)
    (hwatch : r.watched? c = some u) (payload : Payload) :
    Turn r mover (some (u, .message (.routed kind (payload.withStamp viewer.playerId))))
      (r.relayToWatched c kind payload) := by
  have hsource := isSome_source?_of_watched? h.toLinked hwatch
  rw [relayToWatched_of_watched? h.toLinked hv hwatch]
  have hp : viewer.playerId ∈ r.watchers u := by
    rw [watchers, List.mem_filterMap]
    exact ⟨c, (watched?_eq_some_iff_mem h.toLinked).1 hwatch, playerId_eq hv⟩
  have hstamp : Outbound.uplinkStamp? (.message (.routed kind (payload.withStamp viewer.playerId))) =
      some viewer.playerId := by
    simp [Outbound.uplinkStamp?, hkind, Payload.withStamp]
  refine .relay (.refl h) rfl (by simp [Outbound.relayed, hstamp]) hsource fun id hid => ?_
  rw [hstamp, Option.some.injEq] at hid
  exact hid ▸ hp

/-- A message of a viewer goes to one source, if any. -/
private theorem turn_relayToSource (h : r.wiring.Sound) {viewer : Viewer} {kind : RoutedKind}
    (hkind : kind.isUplink = true) (hv : r.viewer? c = some viewer) (payload : Payload) :
    Turn r (r.fallback? c)
      ((r.sourceFor? c).map fun u => (u, .message (.routed kind (payload.withStamp viewer.playerId))))
      (r.relayToSource c kind payload) := by
  unfold relayToSource fallback?
  cases hwatch : r.watched? c with
  | some u =>
    simp only [sourceFor?, hwatch, Option.isSome_some, if_true, Option.map_some]
    exact turn_relayToWatched h hkind hv hwatch payload
  | none =>
    rw [sourceFor?_eq h (by rw [hv]; rfl) hwatch]
    simp only [Option.isSome_none, Bool.false_eq_true, if_false]
    cases hfirst : r.streamers.first? with
    | none => exact turn_of_changes h (changes_terminate h c noStreamers) rfl
    | some first =>
      simp only [Option.bind_some]
      obtain ⟨entry, hentry⟩ := find?_of_first? hfirst
      by_cases hne : entry.connection = c
      · have hself := subscribe_eq_self hentry (.inl hne)
        have hdrop : r.relayToWatched c kind payload = r := by simp [relayToWatched, hwatch]
        rw [hself, hwatch, hdrop]
        exact turn_of_changes h .refl rfl
      · have hbefore := changes_subscribe h c first
        have hsub := watched?_subscribe h hentry hne hv
        -- the viewer has kept its player id
        have hid : (r.subscribe c first).wiring.playerId c = some viewer.playerId := by
          rw [wiring_subscribe h.toLinked hentry hne hv]
          exact playerId_eq hv
        obtain ⟨viewer', hv', hid'⟩ := exists_viewer_of_playerId hid
        rw [hsub, Option.map_some, ← hid']
        exact (turn_relayToWatched (hbefore.sound h) hkind hv' hsub payload).after h hbefore

private theorem turn_sendDataChannels (h : r.wiring.Sound) {viewer : Viewer} (hrole : r.role? c = some .sfu)
    (hv : r.viewer? c = some viewer) (payload : Payload) :
    Turn r mover (r.channels? c (.routed .streamerDataChannels payload)) (r.sendDataChannels c payload) := by
  cases hwatch : r.watched? c with
  | none =>
    have hdrop : r.sendDataChannels c payload = r := by simp [sendDataChannels, hv, hwatch]
    rw [hdrop]
    exact turn_of_changes h .refl (by simp [channels?, hrole, hv, hwatch])
  | some u =>
    have hsource := isSome_source?_of_watched? h.toLinked hwatch
    simp only [sendDataChannels, channels?, hrole, hv, hwatch, Relay.send,
      isSome_session?_of_source? hsource, if_true]
    exact .relay (.refl h) rfl rfl hsource fun id hid => by cases hid

/-! ### Messages -/

private theorem uplink?_eq {role : Role} {viewer : Viewer} (hrole : r.role? c = some role)
    (hv : r.viewer? c = some viewer) (m : Signal) :
    r.uplink? c m = (m.upward? role).bind fun (kind, payload) =>
      (r.sourceFor? c).map fun u => (u, .message (.routed kind (payload.withStamp viewer.playerId))) := by
  simp only [uplink?, hrole, hv, Option.bind_eq_bind, Option.bind_some, Option.pure_def]
  cases m.upward? role with
  | none => rfl
  | some up => cases r.sourceFor? c <;> rfl

/-- Only a forwarding unit has data channels to set up. -/
private theorem channels?_eq_none {m : Signal}
    (h : r.role? c ≠ some .sfu ∨ ∀ payload, m ≠ .routed .streamerDataChannels payload) :
    r.channels? c m = none := by
  unfold channels?
  split
  · rename_i hrole _ _
    exact h.elim (fun hne => absurd hrole hne) fun hne => absurd rfl (hne _)
  · rfl

/-- What a viewer has for its source lets it move only if it has none. -/
private theorem mover?_of_upward? {role : Role} {kind : RoutedKind} {payload : Payload}
    (hrole : r.role? c = some role) (hup : ((Signal.routed kind payload).upward? role).isSome) :
    r.mover? c (.routed kind payload) = r.fallback? c := by
  simp only [mover?, subscriber?, hrole, Option.any_some, hup, if_true]

/-- A viewer that has a subscription may end it. -/
private theorem changes_mover?_unsubscribe (h : r.wiring.Sound) (c : ConnectionId) :
    Changes (r.mover? c .unsubscribe) r (r.unsubscribe c) := by
  cases hsub : r.wiring.subscription c with
  | none => rw [unsubscribe_eq_self hsub]
  | some id =>
    have hwatch : (r.watched? c).isSome := by
      obtain ⟨u, hu⟩ := h.resolves hsub
      rw [(watched?_eq_some_iff h.toLinked).2 ⟨id, hsub, hu⟩]
      rfl
    have hmover : r.mover? c .unsubscribe = some c := if_pos hwatch
    rw [hmover]
    exact .single (change_unsubscribe h.toLinked c)

private theorem turn_handlePlayer (h : r.wiring.Sound) {viewer : Viewer} (hrole : r.role? c = some .player)
    (hv : r.viewer? c = some viewer) (m : Signal) :
    Turn r (r.mover? c m) ((r.uplink? c m).or (r.channels? c m)) (r.handlePlayer c m) := by
  rw [uplink?_eq hrole hv, channels?_eq_none (.inl (by rw [hrole]; simp)), Option.or_none]
  cases m with
  | subscribe id => exact turn_of_changes h (changes_subscribe h c id) rfl
  | unsubscribe => exact turn_of_changes h (changes_mover?_unsubscribe h c) rfl
  | listStreamers => exact turn_of_changes h (changes_send rfl r c) rfl
  | routed kind payload =>
    cases kind with
    | layerPreference | streamerDataChannels | peerDataChannels => exact turn_of_changes h .refl rfl
    | _ =>
      rw [mover?_of_upward? hrole rfl]
      exact turn_relayToSource h rfl hv payload
  | _ => exact turn_of_changes h .refl rfl

private theorem turn_handleSfu (h : r.wiring.Sound) {viewer : Viewer} (hrole : r.role? c = some .sfu)
    (hv : r.viewer? c = some viewer) (m : Signal) :
    Turn r (r.mover? c m) ((r.uplink? c m).or (r.channels? c m)) (r.handleSfu c m) := by
  rw [uplink?_eq hrole hv]
  cases m with
  | routed kind payload =>
    cases kind with
    | streamerDataChannels => exact turn_sendDataChannels h hrole hv payload
    | iceCandidate =>
      -- with a stamp it goes down to a player, without one up to the source
      rw [channels?_eq_none (.inr (by simp)), Option.or_none]
      by_cases hstamp : payload.playerId.isSome
      · simp only [Signal.upward?, handleSfu, if_pos hstamp]
        exact turn_of_changes h (changes_relayToPlayer (by simp) r payload) rfl
      · rw [mover?_of_upward? hrole (by simp only [Signal.upward?, if_neg hstamp]; rfl)]
        simp only [Signal.upward?, handleSfu, if_neg hstamp]
        exact turn_relayToSource h rfl hv payload
    | offer | peerDataChannels =>
      rw [channels?_eq_none (.inr (by simp)), Option.or_none]
      exact turn_of_changes h (changes_relayToPlayer (by simp) r payload) rfl
    | layerPreference =>
      rw [channels?_eq_none (.inr (by simp)), Option.or_none]
      exact turn_of_changes h .refl rfl
    | answer | dataChannelRequest | peerDataChannelsReady =>
      rw [channels?_eq_none (.inr (by simp)), Option.or_none, mover?_of_upward? hrole rfl]
      exact turn_relayToSource h rfl hv payload
  | disconnectPlayer playerId reason =>
    have hmover : r.mover? c (.disconnectPlayer playerId reason) = none := by
      simp [mover?, subscriber?, hrole, Signal.upward?]
    rw [channels?_eq_none (.inr (by simp)), Option.or_none, hmover]
    exact turn_of_changes h (changes_disconnectPlayer h playerId _) rfl
  | _ =>
    rw [channels?_eq_none (.inr (by simp)), Option.or_none]
    refine turn_of_changes h ?_ rfl
    first
      | exact .refl
      | exact changes_subscribe h c _
      | exact changes_mover?_unsubscribe h c
      | exact changes_send rfl r c
      | exact changes_setIdentified r c
      | exact changes_markStreaming r c _

/-- A streamer has no subscription, and its messages relay nothing upward. -/
private theorem turn_handleStreamer (h : r.wiring.Sound) (hrole : r.role? c = some .streamer)
    (hv : r.viewer? c = none) (m : Signal) :
    Turn r (r.mover? c m) ((r.uplink? c m).or (r.channels? c m)) (r.handleStreamer c m) := by
  rw [channels?_eq_none (.inl (by simp [hrole])), Option.or_none]
  have hnone : r.uplink? c m = none := by simp [uplink?, hv]
  have hup : m.upward? .streamer = none := by
    cases m with
    | routed kind payload => cases kind <;> rfl
    | _ => rfl
  by_cases hsub : ∃ id, m = .subscribe id
  · obtain ⟨id, rfl⟩ := hsub
    exact turn_of_changes h .refl hnone
  · have hmover : r.mover? c m = none := by
      unfold mover? subscriber?
      split
      · simp [watched?, hv]
      · split
        · exact absurd ⟨_, rfl⟩ hsub
        · simp [hrole, hup]
    rw [hmover]
    exact turn_of_changes h (changes_handleStreamer h c m) hnone

/-- Handling a message is a turn. -/
theorem turn_handle (h : r.wiring.Sound) (c : ConnectionId) (m : Signal) :
    Turn r (r.mover? c m) ((r.uplink? c m).or (r.channels? c m)) (r.handle c m) := by
  cases hs : r.session? c with
  | none =>
    have hrole : r.role? c = none := by simp [role?, hs]
    have hdrop : r.handle c m = r := by simp [handle, hrole]
    rw [hdrop, channels?_eq_none (.inl (by simp [hrole])), Option.or_none]
    exact turn_of_changes h .refl (by simp [uplink?, hrole])
  | some s =>
    have hrole : r.role? c = some s.role := role?_of_session? hs
    cases s with
    | streamer source =>
      have hhandle : r.handle c m = r.handleStreamer c m := by simp [handle, hrole, Session.role]
      have hv : r.viewer? c = none := viewer?_of_session? hs
      rw [hhandle]
      exact turn_handleStreamer h hrole hv m
    | player viewer =>
      have hhandle : r.handle c m = r.handlePlayer c m := by simp [handle, hrole, Session.role]
      have hv : r.viewer? c = some viewer := viewer?_of_session? hs
      rw [hhandle]
      exact turn_handlePlayer h hrole hv m
    | sfu source viewer =>
      have hhandle : r.handle c m = r.handleSfu c m := by simp [handle, hrole, Session.role]
      have hv : r.viewer? c = some viewer := viewer?_of_session? hs
      rw [hhandle]
      exact turn_handleSfu h hrole hv m

/-! ### Sessions that are opened -/

/-- A session that is put in its place and then queued frames has been opened. -/
private theorem opening_of_sends {role : Role} {s : Relay} {w : Wiring} {frames : List Outbound}
    (h : r.wiring.Linked) (hc : r.session? c = none)
    (hsends : Sends s (fun u => if u = c then frames else []) r')
    (hframes : ∀ f ∈ frames, f.plain = true ∨ ∃ reason, f = .close reason)
    (hbox : ∀ u, s.outbox u = r.outbox u)
    (hrole : ∀ {d x}, s.role? d = some x → r.role? d = some x ∨ d = c ∧ x = role)
    (hwiring : r'.wiring = w) (hsound : w.Sound) (hlists : w.subscribers = r.wiring.subscribers)
    (hstreamer : ∀ {d}, d ≠ c ∨ role = .streamer → w.streamerId d = r.wiring.streamerId d)
    (hids : ∀ d, d ≠ c → w.playerId d = r.wiring.playerId d)
    (hnew : ∀ id, w.playerId c = some id →
      id = PlayerDirectory.idOf r.wiring.nextNumber ∧ w.nextNumber = r.wiring.nextNumber + 1)
    (hnext : r.wiring.nextNumber ≤ w.nextNumber) : Opening r c role r' where
  queue u := by
    have hidle : ∀ f ∈ if u = c then frames else [], f.idle = true := by
      intro f hf
      split at hf
      · rcases hframes f hf with hplain | ⟨reason, rfl⟩
        · exact Outbound.idle_of_plain hplain
        · rfl
      · cases hf
    refine ⟨_, by rw [hsends.outbox, hbox], fun f hf => Outbound.relayed_of_idle (hidle f hf), fun _ => ?_⟩
    -- the new connection cannot be on a list yet
    have hsub : r.wiring.subscription c = none := (wiring_of_session?_eq_none hc).2.2.2.2.2
    rw [Outbound.foldlM_tally?_of_idle hidle, watchers, watchers, hwiring, hlists, Option.some.injEq]
    apply List.filterMap_congr
    intro d hd
    have hne : d ≠ c := fun he => h.notMem_subscribers_of_subscription hsub u (he ▸ hd)
    exact (hids d hne).symm
  outbox := ⟨frames, hframes, fun u => by rw [hsends.outbox, hbox]⟩
  roles hd := hrole (hsends.role _ ▸ hd)
  sound := hwiring ▸ hsound
  subscribers := hwiring ▸ hlists
  streamerId hd := hwiring ▸ hstreamer hd
  playerId := by
    intro d id hid
    rw [hwiring] at hid ⊢
    by_cases hd : d = c
    · subst hd
      obtain ⟨hnumber, hnext⟩ := hnew id hid
      exact .inr ⟨rfl, hnumber, hnext⟩
    · exact .inl (hids d hd ▸ hid)
  nextNumber := hwiring ▸ hnext

private theorem role?_insertSession (r : Relay) (s : Session) {d : ConnectionId} {x : Role}
    (hd : (r.insertSession c s).role? d = some x) : r.role? d = some x ∨ d = c ∧ x = s.role := by
  rw [role?, session?_insertSession] at hd
  split at hd
  · exact .inr ⟨‹_›, (Option.some.inj hd).symm⟩
  · exact .inl hd

/-- A connection whose session has just been put in its place is live. -/
private theorem isSome_session?_insertSession (r : Relay) (c : ConnectionId) (s : Session) :
    ((r.insertSession c s).session? c).isSome := by
  rw [session?_insertSession, if_pos rfl]
  rfl

/-- Two frames for one connection. -/
private theorem sends_two {s : Relay} (hc : (s.session? c).isSome) (m m' : Signal) :
    Sends s (fun u => if u = c then [.message m, .message m'] else []) ((s.send c m).send c m') := by
  have hfirst := Sends.send hc m
  have hlive : ((s.send c m).session? c).isSome := by
    obtain ⟨x, hx⟩ := isSome_session?_iff_role?.1 hc
    exact isSome_session?_iff_role?.2 ⟨x, (hfirst.role c).trans hx⟩
  refine (hfirst.trans (.send hlive m')).congr fun u => ?_
  unfold only
  split <;> rfl

private theorem sends_startTimer (r : Relay) (c : ConnectionId) : Sends r (fun _ => []) (r.startTimer c) :=
  .of_same (fun _ => rfl) (Sends.adjustSource r c fun source =>
    { source with timer := some r.nextTimer }).role

private theorem opening_openStreamer (h : r.wiring.Sound) (hc : r.session? c = none) :
    Opening r c .streamer (r.openStreamer c) := by
  obtain ⟨hid, -, -, -, hpid, -⟩ := wiring_of_session?_eq_none hc
  have hsends : Sends (r.insertSession c (.streamer (Source.fresh none))) (fun u => if u = c then
      [.message (.config r.settings.peerOptions r.settings.protocolVersion), .message .identify] else [])
      (r.openStreamer c) := by
    have htold := sends_two (isSome_session?_insertSession r c (.streamer (Source.fresh none)))
      (.config r.settings.peerOptions r.settings.protocolVersion) .identify
    exact (htold.trans (sends_startTimer _ c)).congr fun u => List.append_nil _
  refine opening_of_sends h.toLinked hc hsends (by simp [Outbound.plain])
    (fun _ => rfl) (role?_insertSession r _) (wiring_openStreamer hc)
    (h.setWaiting fun _ => hid) rfl (fun _ => rfl) (fun _ _ => rfl) (fun id hnew => ?_) (Nat.le_refl _)
  rw [show (r.wiring.setWaiting c true).playerId c = none from hpid] at hnew
  cases hnew

private theorem opening_openPlayer (h : r.wiring.Sound) (hc : r.session? c = none) (offerToReceive : Bool) :
    Opening r c .player (r.openPlayer c offerToReceive) := by
  obtain ⟨-, -, -, -, hpid, -⟩ := wiring_of_session?_eq_none hc
  have hsends := Sends.send (isSome_session?_insertSession { r with players := (r.players.add c).2 } c
    (.player ⟨(r.players.add c).1, none, !offerToReceive⟩))
    (.config r.settings.peerOptions r.settings.protocolVersion)
  refine opening_of_sends h.toLinked hc hsends (by simp [Outbound.plain]) (fun _ => rfl)
    (role?_insertSession _ _) (wiring_openPlayer hc offerToReceive) (h.enlist hpid) rfl (fun _ => rfl)
    (fun d hd => if_neg hd) (fun id hnew => ?_) (Nat.le_succ _)
  simp only [Wiring.enlist, if_true, Option.some.injEq] at hnew
  exact ⟨hnew.symm, rfl⟩

private theorem opening_openSfu (h : r.wiring.Sound) (hc : r.session? c = none) :
    Opening r c .sfu (r.openSfu c) := by
  obtain ⟨hid, -, hwait, -, hpid, -⟩ := wiring_of_session?_eq_none hc
  cases hadd : r.streamers.add r.settings.sfuStreamerId c false with
  | error e =>
    have hrefused : r.openSfu c = r.push c (.close sfuRefused) := by simp only [openSfu, hadd]
    rw [hrefused]
    refine opening_of_sends h.toLinked hc (.push r c _) (by simp) (fun _ => rfl) (fun hd => .inl hd)
      (wiring_push r c _) h rfl (fun _ => rfl) (fun _ _ => rfl) (fun id hnew => ?_) (Nat.le_refl _)
    rw [hpid] at hnew
    cases hnew
  | ok added =>
    obtain ⟨id, d⟩ := added
    have hsound := (h.enlist hpid).inscribe hid hwait (notMem_streamerSlots_of_add hadd)
    have hsends : Sends (insertSession { r with streamers := d, players := (r.players.add c).2 } c
        (.sfu (Source.fresh (some id)) ⟨(r.players.add c).1, none, true⟩)) (fun u => if u = c then
          [.message (.config r.settings.peerOptions r.settings.protocolVersion), .message .identify] else [])
        (r.openSfu c) := by
      simp only [openSfu, hadd]
      exact sends_two (isSome_session?_insertSession _ c _) _ _
    refine opening_of_sends h.toLinked hc hsends (by simp [Outbound.plain]) (fun _ => rfl)
      (role?_insertSession _ _) (wiring_openSfu hc hadd) (hsound.commission (if_pos rfl)) rfl
      (fun {e} he => ?_) (fun d hd => if_neg hd) (fun id hnew => ?_) (Nat.le_succ _)
    · exact if_neg (he.resolve_right (by simp))
    · simp only [Wiring.commission, Wiring.inscribe, Wiring.enlist, if_true, Option.some.injEq] at hnew
      exact ⟨hnew.symm, rfl⟩

theorem opening_accept (h : r.wiring.Sound) (hc : r.session? c = none) (role : Role) (offerToReceive : Bool) :
    Opening r c role (r.accept c role offerToReceive) := by
  cases role with
  | streamer => exact opening_openStreamer h hc
  | player => exact opening_openPlayer h hc offerToReceive
  | sfu => exact opening_openSfu h hc

/-! ### All operations -/

/-- A frame that brings a message has it handled, and any other is dropped or answered. -/
theorem receive_cases (r : Relay) (c : ConnectionId) (content : Inbound) :
    (∃ m, Signal.ofFrame? content = .ok m ∧ (Operation.frame c content).inbound? = some (c, m) ∧
      (r.receive c content).1 = (r.setOutbox c (r.outbox c)).handle c m) ∨
    (Operation.frame c content).inbound? = none ∧ ((r.receive c content).1 = r.setOutbox c (r.outbox c) ∨
      ∃ time, Signal.ofFrame? content = .ok (.ping time) ∧
        (r.receive c content).1 = r.push c (.message (.pong time))) := by
  simp only [receive, Outbox.receive, Operation.inbound?]
  cases Signal.ofFrame? content with
  | error e => exact .inr ⟨rfl, .inl rfl⟩
  | ok m =>
    cases m with
    | ping time => exact .inr ⟨rfl, .inr ⟨time, rfl, rfl⟩⟩
    | _ => exact .inl ⟨_, rfl, rfl, rfl⟩

theorem Outcome.sound {op : Operation} (h : Outcome r op r') (hr : r.wiring.Sound) : r'.wiring.Sound := by
  cases h with
  | turn _ _ h => exact h.sound
  | opening _ _ h => exact h.sound
  | abandoned _ => exact hr

/-- There are no other operations. -/
theorem outcome_apply (h : r.wiring.Sound) {op : Operation} (hop : op.Proper r) :
    Outcome r op (r.apply op) := by
  cases op with
  | accept c role offerToReceive => exact .opening rfl hop (opening_accept h hop role offerToReceive)
  | message c m => exact .turn rfl (by simp) (turn_handle h c m)
  | frame c content =>
    refine .turn rfl (by simp) ?_
    show Turn r _ _ (r.receive c content).1
    simp only [relayOf?, uplinkOf?, channelsOf?, moverOf?]
    rcases receive_cases r c content with ⟨m, -, hin, heq⟩ | ⟨hin, heq | ⟨time, -, heq⟩⟩
    · have hsame : Changes none r (r.setOutbox c (r.outbox c)) := changes_setOutbox_outbox r c
      rw [hin, heq]
      exact (turn_handle (hsame.sound h) c m).after h (changes_setOutbox_outbox r c)
    · rw [hin, heq]
      exact turn_of_changes h (changes_setOutbox_outbox r c) rfl
    · rw [hin, heq]
      exact turn_of_changes h (changes_push rfl r c) rfl
  | identifyTimeout c => exact .turn rfl (by simp) (turn_of_changes h (changes_identifyTimeout h c) rfl)
  | close c => exact .turn rfl (by simp) (turn_of_changes h (changes_close h c) rfl)
  | terminate c reason => exact .turn rfl (by simp) (turn_of_changes h (changes_terminate h c reason) rfl)
  | abandon c => exact .abandoned rfl

end

end Relay

end SignalRelay
