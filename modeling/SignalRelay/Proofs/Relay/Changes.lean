import Mathlib.Logic.Relation
import SignalRelay.Proofs.Relay.Queues
import SignalRelay.Proofs.Relay.Registration
import SignalRelay.Proofs.Teardown.Closure

/-!
# Changes

Apart from opening a session and relaying a frame to a source, everything that happens to a relay is put
together from eight changes.  `Change` lists them, each by what becomes of the wiring and by the frames
that are queued, so that an invariant is shown for these eight and then holds for all operations.

* `Sends` relates two relays if frames were queued in between and no session has come, gone or
  changed its role.
* A change has a mover, the only viewer that may end or start its own subscription; if there is one,
  nobody is torn down.
* `Changes.sound` and `Changes.role` are what all changes have in common.
* `change_unsubscribe`, `changes_subscribe`, `changes_terminate`, `changes_claimId` and so on take the
  operations apart.
-/

namespace SignalRelay

namespace Outbound

/-- Whether a frame closes nothing, is not about the viewers or the id of a source, and has no stamp. -/
def plain : Outbound → Bool
  | .close _ => false
  | .message (.playerConnected ..) | .message (.playerDisconnected _) | .message (.endpointIdConfirm _) =>
    false
  | .message (.routed kind payload) => payload.playerId.isNone && kind != .streamerDataChannels
  | .message _ => true

theorem idle_of_plain {f : Outbound} (h : f.plain = true) : f.idle = true := by
  cases f with
  | close reason => cases h
  | message m =>
    cases m with
    | playerConnected playerId dataChannel sfu sendOffer => cases h
    | playerDisconnected playerId => cases h
    | endpointIdConfirm committedId => cases h
    | routed kind payload => cases kind <;> simp_all [plain, idle, relayed, uplinkStamp?, setsUpChannels]
    | _ => rfl

theorem plain_withoutStamp {kind : RoutedKind} (hkind : kind ≠ .streamerDataChannels) (payload : Payload) :
    plain (.message (.routed kind payload.withoutStamp)) = true := by
  simp [plain, Payload.withoutStamp, hkind]

end Outbound

namespace Relay

/-- Frames are queued for connections, and no session comes, goes or changes its role. -/
structure Sends (r : Relay) (frames : ConnectionId → List Outbound) (r' : Relay) : Prop where
  outbox : ∀ u, r'.outbox u = (r.outbox u).pushAll (frames u)
  role : ∀ c, r'.role? c = r.role? c

/-- One frame for one connection. -/
def only (c : ConnectionId) (f : Outbound) (u : ConnectionId) : List Outbound := if u = c then [f] else []

/-- What a source `c` is told when it gets the id `new`, and those who watch it if that is not the id it
had. -/
def renameNotices (r : Relay) (c : ConnectionId) (current new : String) (u : ConnectionId) : List Outbound :=
  (if new ≠ current ∧ u ∈ r.wiring.subscribers c then [.message (.streamerIdChanged new)] else []) ++
    only c (.message (.endpointIdConfirm new)) u

/-- One change, in which only the viewer `mover` may end or start its subscription. -/
inductive Change (mover : Option ConnectionId) (r r' : Relay) : Prop
  /-- Plain frames are queued. -/
  | plain {frames : ConnectionId → List Outbound} (h : Sends r frames r')
      (hplain : ∀ u, ∀ f ∈ frames u, f.plain = true) (hwiring : r'.wiring = r.wiring)
  /-- A forwarding unit is told the preferences of its source. -/
  | preference {u : ConnectionId} {payload : Payload}
      (h : Sends r (only u (.message (.routed .layerPreference payload))) r') (hu : r.isSfu u = true)
      (hwiring : r'.wiring = r.wiring)
  /-- A source gets or loses the time to claim an id. -/
  | waiting {c : ConnectionId} {waiting : Bool} (h : Sends r (fun _ => []) r')
      (hc : waiting = true → r.wiring.streamerId c = none)
      (hwiring : r'.wiring = r.wiring.setWaiting c waiting)
  /-- A viewer stops watching, and its source is told. -/
  | release {c : ConnectionId} (hmover : mover = some c)
      (h : Sends r (fun u => if r.watched? c = some u then
        (r.wiring.playerId c).toList.map fun id => .message (.playerDisconnected id) else []) r')
      (hwiring : r'.wiring = r.wiring.release c)
  /-- A viewer that watches nobody starts to watch a source, and the source is told. -/
  | attach {c u : ConnectionId} {id playerId : String} {dataChannel sfu sendOffer : Bool}
      (hmover : mover = some c)
      (h : Sends r (only u (.message (.playerConnected playerId dataChannel sfu sendOffer))) r')
      (hplayerId : r.wiring.playerId c = some playerId) (hfree : r.wiring.subscription c = none)
      (hu : r.wiring.streamerId u = some id) (hne : u ≠ c) (hwiring : r'.wiring = r.wiring.attach c u id)
  /-- A live connection is closed, possibly after it has been queued a close. -/
  | tornDown {c : ConnectionId} {gone : List ConnectionId} {first : List Outbound} (hmover : mover = none)
      (hc : (r.session? c).isSome) (hfirst : ∀ f ∈ first, ∃ reason, f = .close reason)
      (h : TornDown r c gone first r')
  /-- A source is registered under a free id, and told so. -/
  | register {c : ConnectionId} {id : String} (h : Sends r (only c (.message (.endpointIdConfirm id))) r')
      (hc : (r.source? c).isSome) (hid : r.wiring.streamerId c = none) (hwait : r.wiring.waiting c = false)
      (hfree : id ∉ r.wiring.streamerSlots.map Prod.fst) (hwiring : r'.wiring = r.wiring.inscribe c id)
  /-- A registered source gets another id that is free, or its own again, and all who have to know are
  told. -/
  | rename {c : ConnectionId} {current new : String} (h : Sends r (r.renameNotices c current new) r')
      (hc : r.wiring.streamerId c = some current)
      (hfree : new ∈ r.wiring.streamerSlots.map Prod.fst → new = current)
      (hwiring : r'.wiring = r.wiring.rename c new)

/-- Changes one after the other. -/
abbrev Changes (mover : Option ConnectionId) : Relay → Relay → Prop := Relation.ReflTransGen (Change mover)

section
variable {r r' r'' : Relay} {c : ConnectionId} {mover : Option ConnectionId}

/-! ### Queueing frames -/

theorem isSome_session?_iff_role? : (r.session? c).isSome ↔ ∃ x, r.role? c = some x := by
  cases hs : r.session? c <;> simp [role?, hs]

theorem session?_eq_none_iff_role? : r.session? c = none ↔ r.role? c = none := by
  simp [role?]

theorem isSome_session?_of_source? (h : (r.source? c).isSome) : (r.session? c).isSome := by
  obtain ⟨source, hs⟩ := Option.isSome_iff_exists.1 h
  obtain ⟨s, hs, -⟩ := Option.bind_eq_some_iff.1 hs
  rw [hs]
  rfl

theorem isSome_session?_of_playerId {id : String} (h : r.wiring.playerId c = some id) :
    (r.session? c).isSome := by
  obtain ⟨viewer, hv, -⟩ := exists_viewer_of_playerId h
  obtain ⟨s, hs, -⟩ := Option.bind_eq_some_iff.1 hv
  rw [hs]
  rfl

theorem isSome_source?_iff_role? : (r.source? c).isSome ↔ ∃ x, r.role? c = some x ∧ x ≠ .player := by
  cases hs : r.session? c with
  | none => simp [source?, role?, hs]
  | some s => cases s <;> simp [source?, role?, hs, Session.source?, Session.role]

/-- A connection that holds a streamer id is live. -/
theorem isSome_source?_of_streamerId {id : String} (h : r.wiring.streamerId c = some id) :
    (r.source? c).isSome := by
  obtain ⟨source, hs, -⟩ := exists_source_of_streamerId h
  rw [hs]
  rfl

theorem Sends.of_same (hbox : ∀ u, r'.outbox u = r.outbox u) (hrole : ∀ d, r'.role? d = r.role? d) :
    Sends r (fun _ => []) r' :=
  ⟨fun u => by simpa using hbox u, hrole⟩

theorem Sends.trans {frames frames' : ConnectionId → List Outbound} (h : Sends r frames r')
    (h' : Sends r' frames' r'') : Sends r (fun u => frames u ++ frames' u) r'' :=
  ⟨fun u => by rw [h'.outbox, h.outbox, Outbox.pushAll_pushAll], fun d => (h'.role d).trans (h.role d)⟩

/-- Frames come to the same if they do so for each connection. -/
theorem Sends.congr {frames frames' : ConnectionId → List Outbound} (h : Sends r frames r')
    (heq : ∀ u, frames u = frames' u) : Sends r frames' r' :=
  ⟨fun u => heq u ▸ h.outbox u, h.role⟩

/-- What is sent after a relay has only been rearranged. -/
theorem Sends.after {frames : ConnectionId → List Outbound} (h : Sends r' frames r'')
    (hbefore : Sends r (fun _ => []) r') : Sends r frames r'' :=
  (hbefore.trans h).congr fun _ => rfl

theorem Sends.push (r : Relay) (c : ConnectionId) (f : Outbound) : Sends r (only c f) (r.push c f) :=
  ⟨fun u => outbox_push r c u f, fun _ => rfl⟩

theorem Sends.send (hc : (r.session? c).isSome) (m : Signal) :
    Sends r (only c (.message m)) (r.send c m) := by
  have hpush : r.send c m = r.push c (.message m) := if_pos hc
  exact hpush ▸ .push r c _

theorem Sends.adjustSource (r : Relay) (c : ConnectionId) (f : Source → Source) :
    Sends r (fun _ => []) (r.adjustSource c f) := by
  refine .of_same (fun _ => rfl) fun d => ?_
  rw [role?, role?, session?_adjustSource]
  split
  · cases r.session? d <;> simp
  · rfl

theorem Sends.setSubscribed (r : Relay) (c : ConnectionId) (id : Option String) :
    Sends r (fun _ => []) (r.setSubscribed c id) := by
  refine .of_same (fun _ => rfl) fun d => ?_
  rw [role?, role?, session?_setSubscribed]
  split
  · cases r.session? d <;> simp
  · rfl

theorem Sends.withStreamers (r : Relay) (d : StreamerDirectory) :
    Sends r (fun _ => []) { r with streamers := d } :=
  .of_same (fun _ => rfl) fun _ => rfl

/-- A plain frame is queued for a connection, or dropped if that is not live. -/
theorem exists_sends_send {m : Signal} (hm : (Outbound.message m).plain = true) (r : Relay)
    (c : ConnectionId) :
    ∃ frames, Sends r frames (r.send c m) ∧ ∀ u, ∀ f ∈ frames u, f.plain = true := by
  by_cases hc : (r.session? c).isSome
  · refine ⟨_, .send hc m, fun u f hf => ?_⟩
    unfold only at hf
    split at hf
    · exact List.mem_singleton.1 hf ▸ hm
    · cases hf
  · have hdrop : r.send c m = r := if_neg hc
    refine ⟨fun _ => [], ?_, by simp⟩
    rw [hdrop]
    exact .of_same (fun _ => rfl) fun _ => rfl

theorem mem_only {u : ConnectionId} {f g : Outbound} (h : g ∈ only c f u) : u = c ∧ g = f := by
  unfold only at h
  split at h
  · exact ⟨‹_›, List.mem_singleton.1 h⟩
  · cases h

/-- A teardown queues closes, and notices that a viewer or a source has gone. -/
theorem cases_of_mem_tornDown {gone : List ConnectionId} {first : List Outbound} {u : ConnectionId}
    {f : Outbound} (hfirst : ∀ f ∈ first, ∃ reason, f = .close reason)
    (hf : f ∈ (if u = c then first else []) ++ r.notices c gone u) :
    (∃ reason, f = .close reason) ∨ (∃ id, f = .message (.playerDisconnected id)) ∨
      f = .message .streamerDisconnected := by
  rcases List.mem_append.1 hf with hf | hf
  · split at hf
    · exact .inl (hfirst f hf)
    · cases hf
  rcases List.mem_append.1 hf with hf | hf
  · split at hf
    · obtain ⟨id, -, rfl⟩ := List.mem_map.1 hf
      exact .inr (.inl ⟨id, rfl⟩)
    · cases hf
  · split at hf
    · cases hf
    · split at hf
      · exact .inl ⟨sourceLost, List.mem_singleton.1 hf⟩
      · split at hf
        · exact .inr (.inr (List.mem_singleton.1 hf))
        · cases hf

/-! ### What all changes have in common -/

theorem Change.sound (h : Change mover r r') (hr : r.wiring.Sound) : r'.wiring.Sound := by
  cases h with
  | plain _ _ hwiring => exact hwiring ▸ hr
  | preference _ _ hwiring => exact hwiring ▸ hr
  | waiting _ hc hwiring => exact hwiring ▸ hr.setWaiting hc
  | release _ _ hwiring => exact hwiring ▸ hr.release _
  | attach _ _ _ hfree hu hne hwiring => exact hwiring ▸ hr.attach hfree hu hne
  | tornDown _ _ _ htorn => exact htorn.wiring_eq hr ▸ hr.without _
  | register _ _ hid hwait hfree hwiring => exact hwiring ▸ hr.inscribe hid hwait hfree
  | rename _ hc hfree hwiring => exact hwiring ▸ hr.rename hc hfree

theorem TornDown.role? {gone : List ConnectionId} {first : List Outbound} (h : TornDown r c gone first r')
    (d : ConnectionId) : r'.role? d = if d ∈ gone then none else r.role? d := by
  simp only [Relay.role?, h.session?]
  split
  · rfl
  · cases r.session? d with
    | none => rfl
    | some s =>
      simp only [Option.map_some, settled]
      split <;> split <;> simp

/-- No session is opened, and those that stay are what they were. -/
theorem Change.role (h : Change mover r r') {x : Role} (hc : r'.role? c = some x) : r.role? c = some x := by
  cases h with
  | plain h => exact h.role c ▸ hc
  | preference h => exact h.role c ▸ hc
  | waiting h => exact h.role c ▸ hc
  | release _ h => exact h.role c ▸ hc
  | attach _ h => exact h.role c ▸ hc
  | tornDown _ _ _ h =>
    rw [h.role?] at hc
    split at hc
    · cases hc
    · exact hc
  | register h => exact h.role c ▸ hc
  | rename h => exact h.role c ▸ hc

/-- Nobody goes while a viewer moves. -/
theorem Change.role?_of_mover (h : Change mover r r') (hmover : mover ≠ none) (c : ConnectionId) :
    r'.role? c = r.role? c := by
  cases h with
  | plain h => exact h.role c
  | preference h => exact h.role c
  | waiting h => exact h.role c
  | release _ h => exact h.role c
  | attach _ h => exact h.role c
  | tornDown hnone => exact absurd hnone hmover
  | register h => exact h.role c
  | rename h => exact h.role c

theorem Changes.sound (h : Changes mover r r') (hr : r.wiring.Sound) : r'.wiring.Sound := by
  induction h with
  | refl => exact hr
  | tail _ hchange ih => exact hchange.sound ih

theorem Changes.role (h : Changes mover r r') {x : Role} (hc : r'.role? c = some x) : r.role? c = some x := by
  induction h with
  | refl => exact hc
  | tail _ hchange ih => exact ih (hchange.role hc)

theorem Changes.live (h : Changes mover r r') (hc : r.session? c = none) : r'.session? c = none := by
  rw [session?_eq_none_iff_role?] at hc ⊢
  cases hc' : r'.role? c with
  | none => rfl
  | some x =>
    rw [h.role hc'] at hc
    cases hc

theorem Changes.isSome_of_isSome (h : Changes mover r r') (hc : (r'.session? c).isSome) :
    (r.session? c).isSome := by
  obtain ⟨x, hx⟩ := isSome_session?_iff_role?.1 hc
  exact isSome_session?_iff_role?.2 ⟨x, h.role hx⟩

theorem Changes.role?_of_mover (h : Changes mover r r') (hmover : mover ≠ none) (c : ConnectionId) :
    r'.role? c = r.role? c := by
  induction h with
  | refl => rfl
  | tail _ hchange ih => exact (hchange.role?_of_mover hmover c).trans ih

/-! ### Subscriptions -/

/-- Plain frames that leave the wiring alone are a change, whoever the mover is. -/
private theorem changes_of_sends {frames : ConnectionId → List Outbound} (h : Sends r frames r')
    (hplain : ∀ u, ∀ f ∈ frames u, f.plain = true) (hwiring : r'.wiring = r.wiring) : Changes mover r r' :=
  .single (.plain h hplain hwiring)

private theorem changes_of_same (h : Sends r (fun _ => []) r') (hwiring : r'.wiring = r.wiring) :
    Changes mover r r' :=
  changes_of_sends h (by simp) hwiring

theorem changes_send {m : Signal} (hm : (Outbound.message m).plain = true) (r : Relay) (c : ConnectionId) :
    Changes mover r (r.send c m) := by
  obtain ⟨frames, hsends, hplain⟩ := exists_sends_send hm r c
  exact changes_of_sends hsends hplain (wiring_send r c m)

theorem role?_unsubscribe (r : Relay) (c d : ConnectionId) : (r.unsubscribe c).role? d = r.role? d := by
  rw [role?, role?, session?_unsubscribe]
  cases r.session? d with
  | none => rfl
  | some s =>
    simp only [Option.map_some, detached]
    split <;> split <;> simp

theorem change_unsubscribe (h : r.wiring.Linked) (c : ConnectionId) : Change (some c) r (r.unsubscribe c) :=
  .release rfl ⟨outbox_unsubscribe h c, role?_unsubscribe r c⟩ (wiring_unsubscribe h c)

/-- A source that a viewer subscribes to is told, after the viewer has left the source before. -/
theorem sends_subscribe (h : r.wiring.Linked) {id : String} {entry : ListedStreamer} {viewer : Viewer}
    (hentry : r.streamers.find? id = some entry) (hne : entry.connection ≠ c)
    (hv : r.viewer? c = some viewer) :
    Sends (r.unsubscribe c)
      (only entry.connection
      (.message (.playerConnected viewer.playerId true (r.isSfu c) viewer.sendOffer)))
      (r.subscribe c id) := by
  have howner : (r.unsubscribe c).wiring.streamerId entry.connection = some id := by
    rw [wiring_unsubscribe h]
    exact (exists_entry_iff h).1 ⟨entry, hentry, rfl⟩
  -- both sides are written before the source is told
  have hwritten := (Sends.setSubscribed (r.unsubscribe c) c (some id)).trans
    (.adjustSource _ entry.connection (·.addSubscriber c))
  have hlive : ((((r.unsubscribe c).setSubscribed c (some id)).adjustSource entry.connection
      (·.addSubscriber c)).session? entry.connection).isSome := by
    obtain ⟨x, hx⟩ :=
      isSome_session?_iff_role?.1 (isSome_session?_of_source? (isSome_source?_of_streamerId howner))
    exact isSome_session?_iff_role?.2 ⟨x, (hwritten.role _).trans hx⟩
  rw [subscribe_eq_of_listed hentry hne hv, isSfu_unsubscribe]
  exact (Sends.send hlive _).after hwritten

/-- The old subscription ends first, and then the new one is as if it were the only one. -/
theorem changes_subscribe (h : r.wiring.Sound) (c : ConnectionId) (id : String) :
    Changes (some c) r (r.subscribe c id) := by
  cases hentry : r.streamers.find? id with
  | none =>
    rw [subscribe_eq_of_missing hentry]
    exact changes_send rfl r c
  | some entry =>
    by_cases hne : entry.connection = c
    · rw [subscribe_eq_self hentry (.inl hne)]
    · cases hv : r.viewer? c with
      | none => rw [subscribe_eq_self hentry (.inr hv)]
      | some viewer =>
        have hleft := wiring_unsubscribe h.toLinked c
        have hplayerId : (r.unsubscribe c).wiring.playerId c = some viewer.playerId := by
          rw [hleft]
          exact playerId_eq hv
        have hfree : (r.unsubscribe c).wiring.subscription c = none := by
          rw [hleft]
          simp [Wiring.release]
        have howner : (r.unsubscribe c).wiring.streamerId entry.connection = some id := by
          rw [hleft]
          exact (exists_entry_iff h.toLinked).1 ⟨entry, hentry, rfl⟩
        have hwiring : (r.subscribe c id).wiring = (r.unsubscribe c).wiring.attach c entry.connection id := by
          rw [hleft]
          exact wiring_subscribe h.toLinked hentry hne hv
        exact .tail (.single (change_unsubscribe h.toLinked c))
          (.attach rfl (sends_subscribe h.toLinked hentry hne hv) hplayerId hfree howner hne hwiring)

/-! ### Teardowns -/

theorem changes_close (h : r.wiring.Sound) (c : ConnectionId) : Changes none r (r.close c) := by
  rcases close_cases h.toLinked c with ⟨-, heq⟩ | ⟨hc, gone, htorn⟩
  · rw [heq]
  · exact .single (.tornDown rfl hc (by simp) htorn)

theorem changes_terminate (h : r.wiring.Sound) (c : ConnectionId) (reason : String) :
    Changes none r (r.terminate c reason) := by
  rcases terminate_cases h.toLinked c reason with ⟨-, heq⟩ | ⟨hc, gone, htorn⟩
  · rw [heq]
  · exact .single (.tornDown rfl hc (fun f hf => ⟨reason, List.mem_singleton.1 hf⟩) htorn)

theorem changes_disconnectPlayer (h : r.wiring.Sound) (playerId reason : String) :
    Changes none r (r.disconnectPlayer playerId reason) := by
  unfold disconnectPlayer
  split
  · exact .refl
  · exact changes_terminate h _ reason

/-! ### Claims -/

/-- A source that has no id and no more time to claim one is registered or goes. -/
private theorem changes_register (h : r.wiring.Sound) (hc : (r.source? c).isSome)
    (hid : r.wiring.streamerId c = none) (hwait : r.wiring.waiting c = false) (desired : String) :
    Changes none r (r.register c desired) := by
  unfold register
  cases hadd : r.streamers.add desired c true with
  | error e => exact changes_terminate h c streamerRefused
  | ok added =>
    obtain ⟨id, d⟩ := added
    have hwritten := (Sends.withStreamers r d).trans
      (.adjustSource _ c fun source => { source with streamerId := some id })
    have hlive : ((adjustSource { r with streamers := d } c
        fun source => { source with streamerId := some id }).session? c).isSome := by
      obtain ⟨x, hx⟩ := isSome_session?_iff_role?.1 (isSome_session?_of_source? hc)
      exact isSome_session?_iff_role?.2 ⟨x, (hwritten.role c).trans hx⟩
    exact .single (.register ((Sends.send hlive _).after hwritten) hc hid hwait
      (notMem_streamerSlots_of_add hadd) ((wiring_send _ c _).trans (wiring_of_add hadd hc)))

/-- Everybody on a list of viewers without repetition is told the new id once. -/
private theorem sends_foldl_followRename (new : String) (r : Relay) {subscribers : List ConnectionId}
    (hnodup : subscribers.Nodup) (hviewer : ∀ p ∈ subscribers, (r.viewer? p).isSome) :
    Sends r (fun u => if u ∈ subscribers then [.message (.streamerIdChanged new)] else [])
      (subscribers.foldl (followRename new) r) := by
  induction subscribers generalizing r with
  | nil => exact .of_same (fun _ => rfl) fun _ => rfl
  | cons p subscribers ih =>
    obtain ⟨hp, hnodup⟩ := List.nodup_cons.1 hnodup
    have hv := hviewer p List.mem_cons_self
    have hwritten := Sends.setSubscribed r p (some new)
    have hlive : ((r.setSubscribed p (some new)).session? p).isSome := by
      obtain ⟨viewer, hv⟩ := Option.isSome_iff_exists.1 hv
      obtain ⟨s, hs, -⟩ := Option.bind_eq_some_iff.1 hv
      rw [session?_setSubscribed, if_pos rfl, hs]
      rfl
    have hfirst : Sends r (only p (.message (.streamerIdChanged new))) (followRename new r p) := by
      rw [followRename, if_pos hv]
      exact (Sends.send hlive _).after hwritten
    have hrest := ih (followRename new r p) hnodup fun q hq => by
      rw [isSome_viewer?_followRename]
      exact hviewer q (List.mem_cons_of_mem p hq)
    refine (hfirst.trans hrest).congr fun u => ?_
    by_cases hu : u = p
    · subst hu
      simp [only, hp]
    · simp [only, hu]

/-- A rename tells those who watch, and then the source. -/
theorem sends_renameStreamer (h : r.wiring.Sound) {current desired new : String} {d : StreamerDirectory}
    (hc : r.wiring.streamerId c = some current) (hren : r.streamers.rename current desired = .ok (new, d)) :
    Sends r (r.renameNotices c current new) (r.renameStreamer c current desired) := by
  obtain ⟨source, hs, -⟩ := exists_source_of_streamerId hc
  have hmoved := (Sends.withStreamers r d).trans
    (.adjustSource _ c fun source => { source with streamerId := some new })
  have hviewer : ∀ p ∈ source.subscribers, ((adjustSource { r with streamers := d } c
      fun source => { source with streamerId := some new }).viewer? p).isSome := by
    intro p hp
    obtain ⟨id, hid, -⟩ := h.mem_subscribers.1 (subscribers_eq hs ▸ hp)
    obtain ⟨viewer, hv, -⟩ := exists_viewer_of_subscription hid
    rw [viewer?_adjustSource, show viewer? { r with streamers := d } p = r.viewer? p from rfl, hv]
    rfl
  have hnodup : source.subscribers.Nodup := subscribers_eq hs ▸ h.subscribers_nodup c
  have htold :
      Sends r
        (fun u =>
          if new ≠ current ∧ u ∈ r.wiring.subscribers c then [.message (.streamerIdChanged new)] else [])
        ((if new = current then [] else source.subscribers).foldl (followRename new)
          (adjustSource { r with streamers := d } c
            fun source => { source with streamerId := some new })) := by
    by_cases hnew : new = current
    · rw [if_pos hnew]
      exact hmoved.congr fun u => by simp [hnew]
    · rw [if_neg hnew]
      refine ((sends_foldl_followRename new _ hnodup hviewer).after hmoved).congr fun u => ?_
      simp [hnew, subscribers_eq hs]
  rw [renameStreamer_eq hs hren]
  refine htold.trans (.send ?_ _)
  obtain ⟨x, hx⟩ := isSome_session?_iff_role?.1 (isSome_session?_of_source? (isSome_source?_of_streamerId hc))
  exact isSome_session?_iff_role?.2 ⟨x, (htold.role c).trans hx⟩

theorem changes_renameStreamer (h : r.wiring.Sound) {current : String}
    (hc : r.wiring.streamerId c = some current) (desired : String) :
    Changes mover r (r.renameStreamer c current desired) := by
  cases hren : r.streamers.rename current desired with
  | error e =>
    simp only [renameStreamer, hren]
    exact .refl
  | ok renamed =>
    obtain ⟨new, d⟩ := renamed
    have hfree : new ∈ r.wiring.streamerSlots.map Prod.fst → new = current := by
      rw [streamerIds_eq]
      exact (StreamerDirectory.of_rename_eq_ok (streamerIds_nodup h.toLinked) hren).2.1
    exact .single (.rename (sends_renameStreamer h hc hren) hc hfree
      (wiring_renameStreamer h.toLinked hc hren))

/-- When its timer has stopped, a source without an id is registered or goes. -/
private theorem changes_register_of_stopped (h : r.wiring.Sound) (hc : (r.source? c).isSome)
    (hid : r.wiring.streamerId c = none) (desired : String) :
    Changes none r ((r.adjustSource c fun source => { source with timer := none }).register c desired) := by
  have hwiring := wiring_setTimer hc none
  have hstopped : Change none r (r.adjustSource c fun source => { source with timer := none }) :=
    .waiting (.adjustSource r c _) (fun hwait => by cases hwait) hwiring
  apply Relation.ReflTransGen.head hstopped
  apply changes_register (hstopped.sound h)
  · simpa [source?_adjustSource] using hc
  · rw [hwiring]
    exact hid
  · rw [hwiring]
    simp [Wiring.setWaiting]

theorem changes_claimId (h : r.wiring.Sound) (c : ConnectionId) (desired : String) :
    Changes none r (r.claimId c desired) := by
  unfold claimId
  cases hs : r.source? c with
  | none => exact .refl
  | some source =>
    have hwiring := wiring_setIdentified r c
    have hmarked : Changes none r (r.adjustSource c fun source => { source with identified := true }) :=
      changes_of_same (.adjustSource r c _) hwiring
    cases hid : source.streamerId with
    | some current =>
      simp only [hid]
      apply hmarked.trans
      apply changes_renameStreamer (hmarked.sound h)
      rw [hwiring, streamerId_eq hs, hid]
    | none =>
      simp only [hid]
      -- a timer is nothing that the wiring or the queues know of
      have hstopped :
          Changes none r ((r.adjustSource c fun source => { source with identified := true }).stopTimer
            source.timer) := hmarked.trans (changes_of_same (.of_same (fun _ => rfl) fun _ => rfl) rfl)
      apply hstopped.trans
      apply changes_register_of_stopped (hstopped.sound h)
      · show ((r.adjustSource c fun source => { source with identified := true }).source? c).isSome = true
        simp [source?_adjustSource, hs]
      · rw [wiring_stopTimer, hwiring, streamerId_eq hs, hid]

theorem changes_identifyTimeout (h : r.wiring.Sound) (c : ConnectionId) :
    Changes none r (r.identifyTimeout c) := by
  unfold identifyTimeout
  cases hs : r.source? c with
  | none => exact .refl
  | some source =>
    dsimp only
    by_cases htimer : source.timer.isSome
    · -- a streamer that still has time has no id
      have hnone : r.wiring.streamerId c = none :=
        h.streamerId_of_waiting (by simpa [wiring, hs] using htimer)
      have htaken : Changes none r { r with streamers := r.streamers.takeFallbackId.2 } :=
        changes_of_same (.withStreamers r _) rfl
      have hlive : (source? { r with streamers := r.streamers.takeFallbackId.2 } c).isSome := by
        show (r.source? c).isSome = true
        rw [hs]
        rfl
      rw [if_pos htimer]
      exact htaken.trans (changes_register_of_stopped (htaken.sound h) hlive hnone _)
    · rw [if_neg htimer]

/-! ### Messages from above -/

theorem changes_relayToPlayer {kind : RoutedKind} (hkind : kind ≠ .streamerDataChannels) (r : Relay)
    (payload : Payload) : Changes mover r (r.relayToPlayer kind payload) := by
  unfold relayToPlayer Payload.takeStamp
  split
  · exact .refl
  · rename_i heq
    obtain ⟨-, rfl⟩ := Prod.mk.inj heq
    split
    · exact .refl
    · exact changes_send (Outbound.plain_withoutStamp hkind payload) r _

theorem changes_relayToUnits (r : Relay) (c : ConnectionId) (payload : Payload) :
    Changes mover r (r.relayToUnits c (.routed .layerPreference payload)) := by
  unfold relayToUnits
  generalize ((r.source? c).map (·.subscribers)).getD [] = subscribers
  induction subscribers generalizing r with
  | nil => exact .refl
  | cons d subscribers ih =>
    rw [List.foldl_cons]
    by_cases hd : r.isSfu d = true
    · have hlive : (r.session? d).isSome := by
        obtain ⟨s, hs, -⟩ := (Option.any_eq_true _ _).1 hd
        rw [hs]
        rfl
      rw [if_pos hd]
      exact .head (.preference (.send hlive _) hd (wiring_send r d _)) (ih _)
    · rw [if_neg hd]
      exact ih r

theorem changes_setIdentified (r : Relay) (c : ConnectionId) :
    Changes mover r (r.adjustSource c fun source => { source with identified := true }) :=
  changes_of_same (.adjustSource r c _) (wiring_setIdentified r c)

theorem changes_markStreaming (r : Relay) (c : ConnectionId) (streaming : Bool) :
    Changes mover r (r.markStreaming c streaming) :=
  changes_of_same (.of_same (by simp) (by simp [role?])) (wiring_markStreaming r c streaming)

theorem changes_handleStreamer (h : r.wiring.Sound) (c : ConnectionId) (m : Signal) :
    Changes none r (r.handleStreamer c m) := by
  unfold handleStreamer
  split
  · exact changes_claimId h c _
  · exact changes_disconnectPlayer h _ _
  · split
    · exact changes_relayToPlayer (by simp) r _
    · exact changes_relayToPlayer (by simp) r _
    · exact changes_relayToPlayer (by simp) r _
    · exact changes_relayToUnits r c _
    all_goals exact .refl
  · exact .refl

/-- Putting a queue back is no change, and pushing a plain frame is one. -/
theorem changes_setOutbox_outbox (r : Relay) (c : ConnectionId) :
    Changes mover r (r.setOutbox c (r.outbox c)) :=
  changes_of_same (.of_same (outbox_setOutbox_outbox r c) fun _ => rfl) rfl

theorem changes_push {f : Outbound} (hf : f.plain = true) (r : Relay) (c : ConnectionId) :
    Changes mover r (r.push c f) := by
  refine changes_of_sends (.push r c f) (fun u g hg => ?_) rfl
  unfold only at hg
  split at hg
  · exact List.mem_singleton.1 hg ▸ hf
  · cases hg

end

end Relay

end SignalRelay
