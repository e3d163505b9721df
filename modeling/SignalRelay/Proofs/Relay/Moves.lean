import SignalRelay.Proofs.Lists.Folds
import SignalRelay.Proofs.Relay.Runs

/-!
# Moves

Handling a message comes down to a few moves: a message is sent to somebody, one side of a session or a
directory is rewritten, the timer of a source is taken from it, or a connection is terminated.  `Move`
lists them, each with what has to be known of it, so that what all of them do is shown for these moves and
then holds for all operations.

Unlike a `Change`, a move need not leave the relay in order or find it so, and it says what is sent.

* `Signal.Yields` says which messages can come of one that is handled: the relay's own notices, and its
  payload with another stamp or none.
* `moves_handle` and `moves_identifyTimeout` take the operations apart.
-/

namespace SignalRelay

namespace Signal

/-- Whether a message is a notice of the relay's own making. -/
def isNotice : Signal → Bool
  | .endpointIdConfirm _ | .streamerList _ | .subscribeFailed _ | .playerConnected .. | .playerDisconnected _
  | .streamerIdChanged _ | .streamerDisconnected => true
  | _ => false

/-- The messages that can come of one that is handled. -/
inductive Yields (m : Signal) : Signal → Prop
  | notice {m' : Signal} (h : m'.isNotice = true) : Yields m m'
  | preference {payload : Payload} (h : m = .routed .layerPreference payload) : Yields m m
  | unstamped {kind : RoutedKind} {payload : Payload} (h : m = .routed kind payload) :
      Yields m (.routed kind payload.withoutStamp)
  | stamped {kind : RoutedKind} {payload : Payload} (h : m = .routed kind payload) (id : String) :
      Yields m (.routed kind (payload.withStamp id))
  | channels {payload : Payload} (h : m = .routed .streamerDataChannels payload) (id : String) :
      Yields m (.routed .streamerDataChannels (payload.insert "sfuId" (.str id)))
  | stampedChannels {payload : Payload} (h : m = .routed .streamerDataChannels payload) (id : String) :
      Yields m (.routed .streamerDataChannels ((payload.insert "sfuId" (.str id)).withStamp id))

end Signal

/-- What may happen to a source while it keeps its timer: its id, if it has one, may be replaced but not
taken. -/
def Source.Kept (f : Source → Source) : Prop :=
  ∀ s, (f s).timer = s.timer ∧ (s.streamerId.isSome → (f s).streamerId.isSome)

namespace Relay

/-- One move, in which messages with the property `P` are sent and only `owner` may lose its timer.
Connections are terminated in a relay that is in order, if it was in order when the moves began, which is
what `sound` says. -/
inductive Move (P : Signal → Prop) (owner : Option ConnectionId) (sound : Prop) (r : Relay) : Relay → Prop
  | send {m : Signal} (hm : P m) (c : ConnectionId) : Move P owner sound r (r.send c m)
  | source (c : ConnectionId) {f : Source → Source} (hf : Source.Kept f) :
      Move P owner sound r (r.adjustSource c f)
  | viewer (c : ConnectionId) (id : Option String) : Move P owner sound r (r.setSubscribed c id)
  | listed {d : StreamerDirectory} (hd : d.fallbackStem = r.streamers.fallbackStem) :
      Move P owner sound r { r with streamers := d }
  /-- A source is not waited for any longer. -/
  | cancelled {c : ConnectionId} {source : Source} (howner : owner = some c)
      (hs : r.source? c = some source) :
      Move P owner sound r ((r.stopTimer source.timer).adjustSource c fun source =>
        { source with timer := none })
  /-- The timer of a source has gone off. -/
  | expired {c : ConnectionId} (howner : owner = some c) :
      Move P owner sound r (r.adjustSource c fun source => { source with timer := none })
  | terminated (h : sound → r.wiring.Sound) (c : ConnectionId) (reason : String) :
      Move P owner sound r (r.terminate c reason)

/-- Moves one after the other. -/
abbrev Moves (P : Signal → Prop) (owner : Option ConnectionId) (sound : Prop) : Relay → Relay → Prop :=
  Relation.ReflTransGen (Move P owner sound)

/-- Admits a source under an id of the relay's making. -/
def enroll (r : Relay) (c : ConnectionId) : Relay :=
  { r with streamers := r.streamers.takeFallbackId.2 }.register c r.streamers.takeFallbackId.1

/-- The source that a message may take the timer from, since it claims an id with it. -/
def claimant? (r : Relay) (c : ConnectionId) (m : Signal) : Option ConnectionId :=
  match r.role? c, m with
  | some .streamer, .endpointId _ => some c
  | _, _ => none

section
variable {P : Signal → Prop} {owner : Option ConnectionId} {sound : Prop} {r : Relay} {c : ConnectionId}
    {m : Signal}

/-! ### Building blocks -/

theorem moves_send (hm : P m) (r : Relay) (c : ConnectionId) : Moves P owner sound r (r.send c m) :=
  .single (.send hm c)

/-- A notice of the relay's own may be sent at any time. -/
private theorem moves_notice (hm : m.isNotice = true) (r : Relay) (c : ConnectionId) :
    Moves (·.isNotice = true) owner sound r (r.send c m) :=
  moves_send (P := (·.isNotice = true)) hm r c

theorem moves_adjustSource (r : Relay) (c : ConnectionId) {f : Source → Source} (hf : Source.Kept f) :
    Moves P owner sound r (r.adjustSource c f) :=
  .single (.source c hf)

theorem moves_setSubscribed (r : Relay) (c : ConnectionId) (id : Option String) :
    Moves P owner sound r (r.setSubscribed c id) :=
  .single (.viewer c id)

theorem moves_markStreaming (r : Relay) (c : ConnectionId) (streaming : Bool) :
    Moves P owner sound r (r.markStreaming c streaming) := by
  unfold markStreaming
  split
  · exact .refl
  · exact .single (.listed rfl)

theorem kept_addSubscriber (c : ConnectionId) : Source.Kept (·.addSubscriber c) := by
  intro s
  dsimp only [Source.addSubscriber]
  split <;> exact ⟨rfl, id⟩

theorem kept_removeSubscriber (c : ConnectionId) : Source.Kept (·.removeSubscriber c) := fun _ => ⟨rfl, id⟩

theorem kept_setIdentified : Source.Kept fun source => { source with identified := true } :=
  fun _ => ⟨rfl, id⟩

theorem kept_setStreamerId (id : String) : Source.Kept fun source => { source with streamerId := some id } :=
  fun _ => ⟨rfl, fun _ => rfl⟩

theorem Moves.mono {Q : Signal → Prop} {r' : Relay} (h : Moves P owner sound r r') (hPQ : ∀ m, P m → Q m) :
    Moves Q owner sound r r' := by
  refine Relation.ReflTransGen.mono (fun r r' hmove => ?_) r r' h
  cases hmove with
  | send hm c => exact .send (hPQ _ hm) c
  | source c hf => exact .source c hf
  | viewer c id => exact .viewer c id
  | listed hd => exact .listed hd
  | cancelled howner hs => exact .cancelled howner hs
  | expired howner => exact .expired howner
  | terminated h c reason => exact .terminated h c reason

/-! ### Teardowns -/

theorem moves_terminate (h : sound → r.wiring.Sound) (c : ConnectionId) (reason : String) :
    Moves P owner sound r (r.terminate c reason) :=
  .single (.terminated h c reason)

theorem moves_disconnectPlayer (h : sound → r.wiring.Sound) (playerId reason : String) :
    Moves P owner sound r (r.disconnectPlayer playerId reason) := by
  unfold disconnectPlayer
  split
  · exact .refl
  · exact moves_terminate h _ reason

/-! ### Subscriptions -/

theorem moves_unsubscribe (r : Relay) (c : ConnectionId) :
    Moves (·.isNotice = true) owner sound r (r.unsubscribe c) := by
  unfold unsubscribe
  split
  · exact .refl
  · split
    · exact .refl
    · dsimp only
      split
      · exact moves_setSubscribed r c none
      · apply (moves_setSubscribed r c none).trans
        apply (moves_adjustSource _ _ (kept_removeSubscriber c)).trans
        exact moves_notice rfl _ _

theorem moves_subscribe (r : Relay) (c : ConnectionId) (id : String) :
    Moves (·.isNotice = true) owner sound r (r.subscribe c id) := by
  unfold subscribe
  split
  · exact moves_notice rfl r c
  · split
    · exact .refl
    · split
      · exact .refl
      · apply (moves_unsubscribe r c).trans
        apply (moves_setSubscribed _ c (some id)).trans
        apply (moves_adjustSource _ _ (kept_addSubscriber c)).trans
        exact moves_notice rfl _ _

/-! ### Claims -/

/-- What is refused is torn down, and a claim adds to the directory or leaves it as it was. -/
theorem moves_register (h : sound → r.wiring.Sound) (c : ConnectionId) (desired : String) :
    Moves (·.isNotice = true) owner sound r (r.register c desired) := by
  unfold register
  split
  · rename_i id d hadd
    have hlisted : Move (·.isNotice = true) owner sound r { r with streamers := d } :=
      .listed (by rw [(StreamerDirectory.of_add_eq_ok hadd).2])
    apply Relation.ReflTransGen.head hlisted
    apply (moves_adjustSource _ c (kept_setStreamerId id)).trans
    exact moves_notice rfl _ c
  · exact moves_terminate h c streamerRefused

theorem moves_followRename (new : String) (r : Relay) (c : ConnectionId) :
    Moves (·.isNotice = true) owner sound r (followRename new r c) := by
  unfold followRename
  split
  · exact (moves_setSubscribed r c _).trans (moves_notice rfl _ c)
  · exact .refl

theorem moves_renameStreamer (r : Relay) (c : ConnectionId) (current desired : String) :
    Moves (·.isNotice = true) owner sound r (r.renameStreamer c current desired) := by
  unfold renameStreamer
  split
  · exact .refl
  · rename_i new d hrename
    have hlisted : Move (·.isNotice = true) owner sound r { r with streamers := d } :=
      .listed (StreamerDirectory.fallbackStem_rename hrename)
    apply Relation.ReflTransGen.head hlisted
    apply (moves_adjustSource _ c (kept_setStreamerId new)).trans
    refine .trans ?_ (moves_notice rfl _ c)
    split
    · exact .refl
    · exact rel_foldl (fun _ => .refl) .trans (moves_followRename new) _ _

/-- The timer of a source that holds no id can be taken from it. -/
theorem sound_withoutTimer (h : r.wiring.Sound) {source : Source} (hs : r.source? c = some source) :
    (r.adjustSource c fun source => { source with timer := none }).wiring.Sound := by
  rw [wiring_setTimer (by rw [hs]; rfl)]
  exact h.setWaiting fun hwait => by cases hwait

theorem moves_claimId (h : sound → r.wiring.Sound) (c : ConnectionId) (desired : String) :
    Moves (·.isNotice = true) (some c) sound r (r.claimId c desired) := by
  unfold claimId
  cases hs : r.source? c with
  | none => exact .refl
  | some source =>
    have hmarked : Moves (·.isNotice = true) (some c) sound r
        (r.adjustSource c fun source => { source with identified := true }) :=
        moves_adjustSource r c kept_setIdentified
    have hsound :
        sound → (r.adjustSource c fun source => { source with identified := true }).wiring.Sound := by
      rw [wiring_setIdentified]
      exact h
    have hsource : (r.adjustSource c fun source => { source with identified := true }).source? c =
        some { source with identified := true } := by
      rw [source?_adjustSource, if_pos rfl, hs]
      rfl
    cases hid : source.streamerId with
    | some current =>
      simp only [hid]
      exact hmarked.trans (moves_renameStreamer _ c current desired)
    | none =>
      simp only [hid]
      refine (hmarked.tail (.cancelled rfl hsource)).trans (moves_register (fun hs => ?_) c desired)
      exact sound_withoutTimer (r := stopTimer _ source.timer) (by rw [wiring_stopTimer]; exact hsound hs)
        hsource

theorem moves_enroll (h : sound → r.wiring.Sound) (c : ConnectionId) :
    Moves (·.isNotice = true) owner sound r (r.enroll c) := by
  have htaken : Move (·.isNotice = true) owner sound r { r with streamers := r.streamers.takeFallbackId.2 } :=
    .listed rfl
  exact .head htaken (moves_register (r := { r with streamers := r.streamers.takeFallbackId.2 }) h c _)

/-- A source that is waited for loses its timer and is admitted. -/
theorem identifyTimeout_eq_enroll {source : Source} (hs : r.source? c = some source)
    (htimer : source.timer.isSome) :
    r.identifyTimeout c = (r.adjustSource c fun source => { source with timer := none }).enroll c := by
  rw [identifyTimeout, hs]
  exact if_pos htimer

/-- Nothing happens when there is no timer. -/
theorem identifyTimeout_eq_self (hc : ∀ source, r.source? c = some source → source.timer = none) :
    r.identifyTimeout c = r := by
  unfold identifyTimeout
  cases hs : r.source? c with
  | none => rfl
  | some source => simp [hc source hs]

theorem moves_identifyTimeout (h : sound → r.wiring.Sound) (c : ConnectionId) :
    Moves (·.isNotice = true) (some c) sound r (r.identifyTimeout c) := by
  by_cases htimer : ∃ source, r.source? c = some source ∧ source.timer.isSome
  · obtain ⟨source, hs, htimer⟩ := htimer
    rw [identifyTimeout_eq_enroll hs htimer]
    exact .head (.expired rfl) (moves_enroll (fun hgood => sound_withoutTimer (h hgood) hs) c)
  · rw [identifyTimeout_eq_self fun source hs => by_contra fun hne =>
      htimer ⟨source, hs, Option.isSome_iff_ne_none.2 hne⟩]

/-! ### Messages that are relayed -/

theorem moves_relayToPlayer (r : Relay) (kind : RoutedKind) (payload : Payload) :
    Moves (Signal.Yields (.routed kind payload)) owner sound r (r.relayToPlayer kind payload) := by
  unfold relayToPlayer Payload.takeStamp
  split
  · exact .refl
  · rename_i heq
    obtain ⟨-, rfl⟩ := Prod.mk.inj heq
    split
    · exact .refl
    · exact moves_send (.unstamped rfl) r _

theorem moves_relayToUnits (hm : P m) (r : Relay) (c : ConnectionId) :
    Moves P owner sound r (r.relayToUnits c m) := by
  unfold relayToUnits
  refine rel_foldl (fun _ => .refl) .trans (fun r d => ?_) _ r
  split
  · exact moves_send hm r d
  · exact .refl

theorem moves_relayToWatched (r : Relay) (c : ConnectionId) (kind : RoutedKind) (payload : Payload) :
    Moves (Signal.Yields (.routed kind payload)) owner sound r (r.relayToWatched c kind payload) := by
  unfold relayToWatched
  split
  · exact moves_send (.stamped rfl _) r _
  · exact .refl

theorem moves_relayToSource (h : sound → r.wiring.Sound) (c : ConnectionId) (kind : RoutedKind)
    (payload : Payload) :
    Moves (Signal.Yields (.routed kind payload)) owner sound r (r.relayToSource c kind payload) := by
  unfold relayToSource
  split
  · exact moves_relayToWatched r c kind payload
  · split
    · exact moves_terminate h c noStreamers
    · rename_i first _
      exact ((moves_subscribe r c first).mono fun _ => .notice).trans (moves_relayToWatched _ c kind payload)

theorem moves_sendDataChannels (r : Relay) (c : ConnectionId) (payload : Payload) :
    Moves (Signal.Yields (.routed .streamerDataChannels payload)) owner sound r
      (r.sendDataChannels c payload) := by
  unfold sendDataChannels
  split
  · dsimp only
    split
    · exact moves_send (.channels rfl _) r _
    · exact moves_send (.stampedChannels rfl _) r _
  · exact .refl

/-! ### Whole messages -/

theorem moves_handlePlayer (h : sound → r.wiring.Sound) (c : ConnectionId) (m : Signal) :
    Moves m.Yields owner sound r (r.handlePlayer c m) := by
  unfold handlePlayer
  split
  · exact (moves_subscribe r c _).mono fun _ => .notice
  · exact (moves_unsubscribe r c).mono fun _ => .notice
  · exact moves_send (.notice rfl) r c
  · split
    all_goals first
      | exact moves_relayToSource h c _ _
      | exact .refl
  · exact .refl

/-- Only a claim takes the timer from the source. -/
theorem moves_handleStreamer (h : sound → r.wiring.Sound) (hrole : r.role? c = some .streamer) (m : Signal) :
    Moves m.Yields (r.claimant? c m) sound r (r.handleStreamer c m) := by
  unfold handleStreamer
  split
  · simp only [claimant?, hrole]
    exact (moves_claimId h c _).mono fun _ => .notice
  · exact moves_disconnectPlayer h _ _
  · split
    all_goals first
      | exact moves_relayToPlayer r _ _
      | exact moves_relayToUnits (.preference rfl) r c
      | exact .refl
  · exact .refl

theorem moves_handleSfu (h : sound → r.wiring.Sound) (c : ConnectionId) (m : Signal) :
    Moves m.Yields owner sound r (r.handleSfu c m) := by
  unfold handleSfu
  split
  · exact moves_adjustSource r c kept_setIdentified
  · exact moves_markStreaming r c true
  · exact moves_markStreaming r c false
  · exact moves_handlePlayer h c _
  · exact moves_handlePlayer h c _
  · exact moves_handlePlayer h c _
  · exact moves_disconnectPlayer h _ _
  · split
    · exact moves_handlePlayer h c _
    · exact moves_handlePlayer h c _
    · exact moves_handlePlayer h c _
    · exact moves_relayToPlayer r _ _
    · exact moves_relayToPlayer r _ _
    · split
      · exact moves_relayToPlayer r _ _
      · exact moves_relayToSource h c _ _
    · exact moves_sendDataChannels r c _
    · exact .refl
  · exact .refl

theorem moves_handle (h : sound → r.wiring.Sound) (c : ConnectionId) (m : Signal) :
    Moves m.Yields (r.claimant? c m) sound r (r.handle c m) := by
  unfold handle
  split
  · exact .refl
  · exact moves_handleStreamer h ‹_› m
  · exact moves_handlePlayer h c m
  · exact moves_handleSfu h c m

end

end Relay

end SignalRelay
