import SignalRelay.Proofs.Lists.Folds
import SignalRelay.Proofs.Relay.Agreement
import SignalRelay.Proofs.Relay.Dispatches

/-!
# Standing

Whether a source has claimed an id, whether it has media to offer and under which id a forwarding unit
goes are up to the source alone: its own claims, and what a forwarding unit says about its media.

* `Spares p` relates two relays if what has happened in between was none of these messages of `p`: the
  session of `p` is as it was as far as this goes, and so is its entry in the directory.  An entry that a
  streamer has got in between has media.
* `spares_apply`: an operation that brings neither a claim of `p` nor word of its media spares `p`.
* `Stands` says how it stands with a session, and `Stands.run` that this follows from the messages
  of its connection.
* `standing_follows_own_messages` puts it together for a session from its admission on.
-/

namespace SignalRelay

namespace Session

/-- Whether a source has claimed an id. -/
def identified? (s : Session) : Option Bool := s.source?.map (·.identified)

/-- The id that a forwarding unit goes by. -/
def unitId? : Session → Option String
  | .sfu source _ => source.streamerId
  | _ => none

/-- What a session is as far as only its own messages can change it. -/
def standing (s : Session) : Role × Option Bool × Option String := (s.role, s.identified?, s.unitId?)

@[simp] theorem standing_mapViewer (f : Viewer → Viewer) (s : Session) :
    (s.mapViewer f).standing = s.standing := by
  cases s <;> rfl

theorem standing_mapSource {f : Source → Source}
    (hf : ∀ source, (f source).identified = source.identified ∧ (f source).streamerId = source.streamerId)
    (s : Session) : (s.mapSource f).standing = s.standing := by
  cases s <;> simp [standing, mapSource, role, identified?, unitId?, source?, hf]

@[simp] theorem standing_removeSubscriber (c : ConnectionId) (s : Session) :
    (s.mapSource (·.removeSubscriber c)).standing = s.standing :=
  standing_mapSource (f := (·.removeSubscriber c)) (fun _ => ⟨rfl, rfl⟩) s

@[simp] theorem standing_setTimer (timer : Option Nat) (s : Session) :
    (s.mapSource fun source => { source with timer := timer }).standing = s.standing :=
  standing_mapSource (f := fun source => { source with timer := timer }) (fun _ => ⟨rfl, rfl⟩) s

/-- A streamer may get another id at any time. -/
theorem standing_setStreamerId (id : String) {s : Session} (hs : s.role = .streamer) :
    (s.mapSource fun source => { source with streamerId := some id }).standing = s.standing := by
  cases s with
  | streamer source => rfl
  | player viewer => cases hs
  | sfu source viewer => cases hs

end Session

namespace Signal

/-- Whether a message is a claim to an id. -/
def isClaim : Signal → Bool
  | .endpointId _ => true
  | _ => false

/-- What a message says about the sender's media. -/
def media? : Signal → Option Bool
  | .startStreaming => some true
  | .stopStreaming => some false
  | _ => none

end Signal

theorem Signal.isClaim_iff {m : Signal} : m.isClaim = true ↔ ∃ id, m = .endpointId id := by
  cases m <;> simp [isClaim]

namespace Operation

/-- Whether an operation brings a claim of `p`. -/
def claims (p : ConnectionId) (op : Operation) : Bool := op.inbound?.any fun x => x.1 = p && x.2.isClaim

/-- What `p` says about its media by an operation. -/
def media? (p : ConnectionId) (op : Operation) : Option Bool :=
  op.inbound?.bind fun x => if x.1 = p then x.2.media? else none

theorem claims_iff {p : ConnectionId} {op : Operation} :
    op.claims p = true ↔ ∃ id, op.inbound? = some (p, .endpointId id) := by
  cases hop : op.inbound? with
  | none => simp [claims, hop]
  | some x => simp [claims, hop, Signal.isClaim_iff, Prod.ext_iff]

end Operation

/-- What `p` has said last about its media. -/
def lastMedia? (p : ConnectionId) (ops : List Operation) : Option Bool :=
  (ops.filterMap (Operation.media? p)).getLast?

theorem lastMedia?_cons (p : ConnectionId) (op : Operation) (ops : List Operation) :
    lastMedia? p (op :: ops) = (lastMedia? p ops).or (op.media? p) :=
  getLast?_filterMap_cons _ op ops

namespace Role

/-- What is noted about the claims of a session that has claimed an id, or has not. -/
def noted (claimed : Bool) : Role → Option Bool
  | .player => none
  | .streamer | .sfu => some claimed

/-- Whether a source is listed as one with media after it has said `said` about them last.  A streamer is
in any case, a forwarding unit only if it says so. -/
def streaming (said : Option Bool) : Role → Bool
  | .sfu => said.getD false
  | .streamer | .player => true

end Role

/-! ### Directories -/

namespace StreamerDirectory

theorem exists_of_mem_relabel {old new : String} {entries : List ListedStreamer} {e' : ListedStreamer}
    (h : e' ∈ relabel old new entries) :
    ∃ e ∈ entries, e'.connection = e.connection ∧ e'.streaming = e.streaming := by
  induction entries with
  | nil => cases h
  | cons e entries ih =>
    unfold relabel at h
    split at h
    · rcases List.mem_cons.1 h with rfl | h
      · exact ⟨e, List.mem_cons_self, rfl, rfl⟩
      · exact ⟨e', List.mem_cons_of_mem _ h, rfl, rfl⟩
    · rcases List.mem_cons.1 h with rfl | h
      · exact ⟨e', List.mem_cons_self, rfl, rfl⟩
      · obtain ⟨x, hx, hsame⟩ := ih h
        exact ⟨x, List.mem_cons_of_mem _ hx, hsame⟩

theorem cases_of_mem_setFlag {id : String} {streaming : Bool} {entries : List ListedStreamer}
    {e' : ListedStreamer} (hentries : (entries.map (·.id)).Nodup) (h : e' ∈ setFlag id streaming entries) :
    (e' ∈ entries ∧ e'.id ≠ id) ∨ ∃ e ∈ entries, e.id = id ∧ e' = { e with streaming } := by
  induction entries with
  | nil => cases h
  | cons e entries ih =>
    rw [List.map_cons, List.nodup_cons] at hentries
    unfold setFlag at h
    split at h
    · rename_i he
      rcases List.mem_cons.1 h with rfl | h
      · exact .inr ⟨e, List.mem_cons_self, he, rfl⟩
      · exact .inl ⟨List.mem_cons_of_mem _ h, fun hid => hentries.1 (he ▸ hid ▸ List.mem_map_of_mem h)⟩
    · rename_i he
      rcases List.mem_cons.1 h with rfl | h
      · exact .inl ⟨List.mem_cons_self, he⟩
      · rcases ih hentries.2 h with ⟨hmem, hne⟩ | ⟨x, hx, hid, rfl⟩
        · exact .inl ⟨List.mem_cons_of_mem _ hmem, hne⟩
        · exact .inr ⟨x, List.mem_cons_of_mem _ hx, hid, rfl⟩

end StreamerDirectory

namespace Relay

/-- What has happened between two relays has changed nothing about how it stands with `p`, if `p` is still
there. -/
structure Spares (p : ConnectionId) (r r' : Relay) : Prop where
  session : ∀ {s'}, r'.session? p = some s' → ∃ s, r.session? p = some s ∧ s'.standing = s.standing
  entry : ∀ {e'}, e' ∈ r'.streamers.entries → e'.connection = p →
    (∃ e ∈ r.streamers.entries, e.connection = p ∧ e'.streaming = e.streaming) ∨
      r.role? p = some .streamer ∧ e'.streaming = true

section
variable {r r' r'' : Relay} {c p : ConnectionId}

/-! ### Building blocks -/

theorem Spares.of_same (hsession : r'.session? p = r.session? p)
    (hentries : r'.streamers.entries = r.streamers.entries) : Spares p r r' where
  session {s'} hs' := ⟨s', hsession ▸ hs', rfl⟩
  entry {e'} he' hp := .inl ⟨e', hentries ▸ he', hp, rfl⟩

theorem Spares.refl (r : Relay) : Spares p r r := .of_same rfl rfl

theorem Spares.role? (h : Spares p r r') {x : Role} (hp : r'.role? p = some x) : r.role? p = some x := by
  obtain ⟨s', hs', rfl⟩ := Option.map_eq_some_iff.1 hp
  obtain ⟨s, hs, hsame⟩ := h.session hs'
  rw [role?_of_session? hs, show s'.role = s.role from congrArg Prod.fst hsame]

theorem Spares.trans (h : Spares p r r') (h' : Spares p r' r'') : Spares p r r'' where
  session hs'' := by
    obtain ⟨s', hs', hsame'⟩ := h'.session hs''
    obtain ⟨s, hs, hsame⟩ := h.session hs'
    exact ⟨s, hs, hsame'.trans hsame⟩
  entry he'' hp := by
    rcases h'.entry he'' hp with ⟨e', he', hp', hflag'⟩ | ⟨hrole, hflag⟩
    · rcases h.entry he' hp' with ⟨e, he, hpe, hflag⟩ | ⟨hrole, hflag⟩
      · exact .inl ⟨e, he, hpe, hflag'.trans hflag⟩
      · exact .inr ⟨hrole, hflag'.trans hflag⟩
    · exact .inr ⟨h.role? hrole, hflag⟩

/-- Whoever is not a player can be watched. -/
theorem exists_source_of_role? {x : Role} (hc : r.role? c = some x) (hx : x ≠ .player) :
    ∃ source, r.source? c = some source := by
  obtain ⟨s, hs, rfl⟩ := Option.map_eq_some_iff.1 hc
  rw [source?_of_session? hs]
  cases s with
  | streamer source => exact ⟨source, rfl⟩
  | player viewer => exact absurd rfl hx
  | sfu source viewer => exact ⟨source, rfl⟩

theorem spares_send (r : Relay) (c : ConnectionId) (m : Signal) : Spares p r (r.send c m) :=
  .of_same (session?_send r c p m) (by rw [streamers_send])

theorem spares_adjustSource (r : Relay) (c : ConnectionId) {f : Source → Source}
    (hf : c ≠ p ∨ ∀ s, r.session? p = some s → (s.mapSource f).standing = s.standing) :
    Spares p r (r.adjustSource c f) where
  session {s'} hs' := by
    rw [session?_adjustSource] at hs'
    split at hs'
    · rename_i hp
      obtain ⟨s, hs, rfl⟩ := Option.map_eq_some_iff.1 hs'
      exact ⟨s, hs, hf.resolve_left (fun hne => hne hp.symm) s hs⟩
    · exact ⟨s', hs', rfl⟩
  entry {e'} he' hp := .inl ⟨e', he', hp, rfl⟩

theorem spares_setSubscribed (r : Relay) (c : ConnectionId) (id : Option String) :
    Spares p r (r.setSubscribed c id) where
  session {s'} hs' := by
    rw [session?_setSubscribed] at hs'
    split at hs'
    · obtain ⟨s, hs, rfl⟩ := Option.map_eq_some_iff.1 hs'
      exact ⟨s, hs, Session.standing_mapViewer _ s⟩
    · exact ⟨s', hs', rfl⟩
  entry {e'} he' hp := .inl ⟨e', he', hp, rfl⟩

theorem spares_setTimer (r : Relay) (c : ConnectionId) (timer : Option Nat) :
    Spares p r (r.adjustSource c fun source => { source with timer := timer }) :=
  spares_adjustSource r c (.inr fun s _ => Session.standing_setTimer timer s)

theorem spares_startTimer (r : Relay) (c : ConnectionId) : Spares p r (r.startTimer c) :=
  have h := spares_setTimer (p := p) r c (some r.nextTimer)
  ⟨h.session, h.entry⟩

/-- A source that says something about its media says it about itself only. -/
theorem spares_markStreaming (h : r.wiring.Linked) (hc : c ≠ p) (streaming : Bool) :
    Spares p r (r.markStreaming c streaming) := by
  unfold markStreaming
  split
  · exact .refl r
  · rename_i id hid
    refine ⟨fun {s'} hs' => ⟨s', hs', rfl⟩, fun {e'} he' hp => ?_⟩
    rcases StreamerDirectory.cases_of_mem_setFlag (streamerIds_nodup h) he' with ⟨hmem, -⟩ | ⟨e, he, rfl, rfl⟩
    · exact .inl ⟨e', hmem, hp, rfl⟩
    · have hslot := StreamerDirectory.mem_slots_iff_entry.2 ⟨e, he, rfl, rfl⟩
      exact absurd ((h.streamerId_inj hid (h.mem_streamerSlots.1 hslot)).trans hp) hc

/-! ### Teardowns -/

theorem TornDown.spares {gone : List ConnectionId} {first : List Outbound} (h : TornDown r c gone first r') :
    Spares p r r' where
  session {s'} hs' := by
    rw [h.session?] at hs'
    split at hs'
    · cases hs'
    · obtain ⟨s, hs, rfl⟩ := Option.map_eq_some_iff.1 hs'
      refine ⟨s, hs, ?_⟩
      unfold settled
      split <;> split <;> simp
  entry {e'} he' hp := by
    rw [h.streamers] at he'
    exact .inl ⟨e', List.mem_of_mem_filter he', hp, rfl⟩

theorem spares_close (h : r.wiring.Linked) (c : ConnectionId) : Spares p r (r.close c) := by
  rcases close_cases h c with ⟨-, heq⟩ | ⟨-, gone, htorn⟩
  · rw [heq]
    exact .refl r
  · exact htorn.spares

theorem spares_terminate (h : r.wiring.Linked) (c : ConnectionId) (reason : String) :
    Spares p r (r.terminate c reason) := by
  rcases terminate_cases h c reason with ⟨-, heq⟩ | ⟨-, gone, htorn⟩
  · rw [heq]
    exact .refl r
  · exact htorn.spares

theorem spares_disconnectPlayer (h : r.wiring.Linked) (playerId reason : String) :
    Spares p r (r.disconnectPlayer playerId reason) := by
  unfold disconnectPlayer
  split
  · exact .refl r
  · exact spares_terminate h _ reason

/-! ### Subscriptions and relaying -/

theorem spares_unsubscribe (r : Relay) (c : ConnectionId) : Spares p r (r.unsubscribe c) := by
  unfold unsubscribe
  split
  · exact .refl r
  · split
    · exact .refl r
    · dsimp only
      split
      · exact spares_setSubscribed r c none
      · apply (spares_setSubscribed r c none).trans
        apply (spares_adjustSource _ _ (.inr fun s _ => Session.standing_removeSubscriber c s)).trans
        exact spares_send _ _ _

theorem spares_subscribe (r : Relay) (c : ConnectionId) (id : String) : Spares p r (r.subscribe c id) := by
  have hadd : ∀ s : Session, (s.mapSource (·.addSubscriber c)).standing = s.standing := by
    refine Session.standing_mapSource fun source => ?_
    unfold Source.addSubscriber
    split <;> exact ⟨rfl, rfl⟩
  unfold subscribe
  split
  · exact spares_send r c _
  · split
    · exact .refl r
    · split
      · exact .refl r
      · apply (spares_unsubscribe r c).trans
        apply (spares_setSubscribed _ c (some id)).trans
        apply (spares_adjustSource _ _ (.inr fun s _ => hadd s)).trans
        exact spares_send _ _ _

theorem spares_relayToPlayer (r : Relay) (kind : RoutedKind) (payload : Payload) :
    Spares p r (r.relayToPlayer kind payload) := by
  unfold relayToPlayer
  split
  · exact .refl r
  · split
    · exact .refl r
    · exact spares_send r _ _

theorem spares_relayToUnits (r : Relay) (c : ConnectionId) (m : Signal) :
    Spares p r (r.relayToUnits c m) := by
  unfold relayToUnits
  refine rel_foldl .refl .trans (fun r d => ?_) _ r
  split
  · exact spares_send r d m
  · exact .refl r

theorem spares_relayToWatched (r : Relay) (c : ConnectionId) (kind : RoutedKind) (payload : Payload) :
    Spares p r (r.relayToWatched c kind payload) := by
  unfold relayToWatched
  split
  · exact spares_send r _ _
  · exact .refl r

theorem spares_relayToSource (h : r.wiring.Linked) (c : ConnectionId) (kind : RoutedKind)
    (payload : Payload) :
    Spares p r (r.relayToSource c kind payload) := by
  unfold relayToSource
  split
  · exact spares_relayToWatched r c kind payload
  · split
    · exact spares_terminate h c noStreamers
    · exact (spares_subscribe r c _).trans (spares_relayToWatched _ c kind payload)

theorem spares_sendDataChannels (r : Relay) (c : ConnectionId) (payload : Payload) :
    Spares p r (r.sendDataChannels c payload) := by
  unfold sendDataChannels
  split
  · exact spares_send r _ _
  · exact .refl r

/-! ### Claims -/

/-- A streamer may be given an id, and nobody else notices. -/
private theorem spares_setStreamerId (hc : c ≠ p ∨ r.role? p = some .streamer) (id : String) :
    Spares p r (r.adjustSource c fun source => { source with streamerId := some id }) := by
  refine spares_adjustSource r c (hc.imp_right fun hrole s hs => Session.standing_setStreamerId id ?_)
  rw [role?_of_session? hs] at hrole
  exact Option.some.inj hrole

theorem spares_register (h : r.wiring.Linked) (hc : c ≠ p ∨ r.role? p = some .streamer) (desired : String) :
    Spares p r (r.register c desired) := by
  unfold register
  split
  · rename_i id d hadd
    have hlisted : Spares p r { r with streamers := d } := by
      refine ⟨fun {s'} hs' => ⟨s', hs', rfl⟩, fun {e'} he' hp => ?_⟩
      rw [(StreamerDirectory.of_add_eq_ok hadd).2] at he'
      rcases List.mem_append.1 he' with he' | he'
      · exact .inl ⟨e', he', hp, rfl⟩
      · obtain rfl := List.mem_singleton.1 he'
        exact .inr ⟨hc.resolve_left fun hne => hne hp, rfl⟩
    exact (hlisted.trans (spares_setStreamerId (r := { r with streamers := d }) hc id)).trans
      (spares_send _ c _)
  · exact spares_terminate h c streamerRefused

theorem spares_followRename (new : String) (r : Relay) (c : ConnectionId) :
    Spares p r (followRename new r c) := by
  unfold followRename
  split
  · exact (spares_setSubscribed r c _).trans (spares_send _ c _)
  · exact .refl r

theorem spares_renameStreamer (hc : c ≠ p ∨ r.role? p = some .streamer) (current desired : String) :
    Spares p r (r.renameStreamer c current desired) := by
  unfold renameStreamer
  split
  · exact .refl r
  · rename_i new d hrename
    have hlisted : Spares p r { r with streamers := d } := by
      refine ⟨fun {s'} hs' => ⟨s', hs', rfl⟩, fun {e'} he' hp => .inl ?_⟩
      obtain ⟨-, -, rfl⟩ := StreamerDirectory.rename_eq_ok_iff.1 hrename
      obtain ⟨e, he, hconnection, hflag⟩ := StreamerDirectory.exists_of_mem_relabel he'
      exact ⟨e, he, hconnection.symm.trans hp, hflag⟩
    have hnamed := hlisted.trans (spares_setStreamerId (r := { r with streamers := d }) hc new)
    refine (hnamed.trans ?_).trans (spares_send _ c _)
    split
    · exact .refl _
    · exact rel_foldl .refl .trans (spares_followRename new) _ _

/-- Once a claim has been noted, it is settled without any further effect on how it stands with the source. -/
theorem spares_claimId (h : r.wiring.Sound) (hc : c ≠ p ∨ r.role? p = some .streamer) {source : Source}
    (hs : r.source? c = some source) (desired : String) :
    Spares p (r.adjustSource c fun source => { source with identified := true }) (r.claimId c desired) := by
  have hnoted : (r.adjustSource c fun source => { source with identified := true }).source? c =
      some { source with identified := true } := by
    rw [source?_adjustSource, if_pos rfl, hs]
    rfl
  have hrole : c ≠ p ∨
      (r.adjustSource c fun source => { source with identified := true }).role? p = some .streamer :=
    hc.imp_right fun hp => by rw [role?_adjustSource, hp]
  unfold claimId
  simp only [hs]
  cases hid : source.streamerId with
  | some current => exact spares_renameStreamer hrole current desired
  | none =>
    have hsound : ((r.adjustSource c fun source => { source with identified := true }).stopTimer
        source.timer).wiring.Sound := by
      rw [wiring_stopTimer, wiring_setIdentified]
      exact h
    have hstopped : Spares p (r.adjustSource c fun source => { source with identified := true })
        ((r.adjustSource c fun source => { source with identified := true }).stopTimer source.timer) :=
        .of_same rfl rfl
    refine (hstopped.trans (spares_setTimer _ c none)).trans ?_
    refine spares_register (sound_withoutTimer hsound hnoted).toLinked (hrole.imp_right fun hp => ?_) desired
    rw [role?_adjustSource]
    exact hp

theorem spares_enroll (h : r.wiring.Linked) (hc : c ≠ p ∨ r.role? p = some .streamer) :
    Spares p r (r.enroll c) := by
  have hnumbered : Spares p r { r with streamers := r.streamers.takeFallbackId.2 } := .of_same rfl rfl
  exact hnumbered.trans (spares_register (r := { r with streamers := r.streamers.takeFallbackId.2 }) h hc _)

/-- Only a streamer is waited for. -/
private theorem role?_of_timer (h : r.wiring.Sound) {source : Source} (hs : r.source? c = some source)
    (htimer : source.timer.isSome) : r.role? c = some .streamer := by
  obtain ⟨s, hsession, hsource⟩ := Option.bind_eq_some_iff.1 hs
  rw [role?_of_session? hsession]
  cases s with
  | streamer _ => rfl
  | player viewer => cases hsource
  | sfu _ viewer =>
    have hwaiting : r.wiring.waiting c = true := by simpa [wiring, hs] using htimer
    have hunit : r.wiring.unit c = true := by simp [wiring, isSfu, hsession, Session.isSfu, Session.role]
    exact absurd (h.streamerId_of_waiting hwaiting) (h.streamerId_of_unit hunit)

theorem spares_identifyTimeout (h : r.wiring.Sound) (p c : ConnectionId) :
    Spares p r (r.identifyTimeout c) := by
  by_cases htimer : ∃ source, r.source? c = some source ∧ source.timer.isSome
  · obtain ⟨source, hs, htimer⟩ := htimer
    rw [identifyTimeout_eq_enroll hs htimer]
    refine (spares_setTimer r c none).trans (spares_enroll (sound_withoutTimer h hs).toLinked ?_)
    by_cases hc : c = p
    · subst hc
      right
      rw [role?_adjustSource, role?_of_timer h hs htimer]
    · exact .inl hc
  · rw [identifyTimeout_eq_self fun source hs => by_contra fun hne =>
      htimer ⟨source, hs, Option.isSome_iff_ne_none.2 hne⟩]
    exact .refl r

/-- The entries that a session brings along have no media yet. -/
private theorem streamers_accept_cases (r : Relay) (c : ConnectionId) (role : Role) (offerToReceive : Bool)
    {e : ListedStreamer} (he : e ∈ (r.accept c role offerToReceive).streamers.entries) :
    e ∈ r.streamers.entries ∨ role = .sfu ∧ e.connection = c ∧ e.streaming = false := by
  cases role with
  | streamer =>
    left
    change e ∈ (r.openStreamer c).streamers.entries at he
    simpa [openStreamer, startTimer, sendSettings] using he
  | player =>
    left
    change e ∈ (r.openPlayer c offerToReceive).streamers.entries at he
    simpa [openPlayer, sendSettings] using he
  | sfu =>
    change e ∈ (r.openSfu c).streamers.entries at he
    unfold openSfu at he
    split at he
    · exact .inl (by simpa using he)
    · rename_i id d hadd
      simp only [sendSettings, streamers_send, streamers_insertSession] at he
      rw [(StreamerDirectory.of_add_eq_ok hadd).2] at he
      rcases List.mem_append.1 he with he | he
      · exact .inl he
      · obtain rfl := List.mem_singleton.1 he
        exact .inr ⟨rfl, rfl, rfl⟩

theorem spares_accept (hc : c ≠ p) (role : Role) (offerToReceive : Bool) :
    Spares p r (r.accept c role offerToReceive) where
  session {s'} hs' := ⟨s', (session?_accept_of_ne r role offerToReceive hc.symm) ▸ hs', rfl⟩
  entry {e'} he' hp := by
    rcases streamers_accept_cases r c role offerToReceive he' with he' | ⟨-, hconnection, -⟩
    · exact .inl ⟨e', he', hp, rfl⟩
    · exact absurd (hconnection.symm.trans hp) hc

/-! ### Messages -/

theorem spares_handlePlayer (h : r.wiring.Linked) (c : ConnectionId) (m : Signal) :
    Spares p r (r.handlePlayer c m) := by
  unfold handlePlayer
  split
  · exact spares_subscribe r c _
  · exact spares_unsubscribe r c
  · exact spares_send r c _
  · split
    all_goals first
      | exact spares_relayToSource h c _ _
      | exact .refl r
  · exact .refl r

/-- A streamer says nothing about its media. -/
theorem spares_handleStreamer (h : r.wiring.Sound) (hrole : r.role? c = some .streamer) {m : Signal}
    (hm : c ≠ p ∨ m.isClaim = false) : Spares p r (r.handleStreamer c m) := by
  unfold handleStreamer
  split
  · have hc : c ≠ p := hm.resolve_right (by simp [Signal.isClaim])
    obtain ⟨source, hs⟩ := exists_source_of_role? hrole (by decide)
    exact (spares_adjustSource r c (.inl hc)).trans (spares_claimId h (.inl hc) hs _)
  · exact spares_disconnectPlayer h.toLinked _ _
  · split
    · exact spares_relayToPlayer r _ _
    · exact spares_relayToPlayer r _ _
    · exact spares_relayToPlayer r _ _
    · exact spares_relayToUnits r c _
    all_goals exact .refl r
  · exact .refl r

theorem spares_handleSfu (h : r.wiring.Sound) {m : Signal}
    (hm : c ≠ p ∨ m.isClaim = false ∧ m.media? = none) :
    Spares p r (r.handleSfu c m) := by
  unfold handleSfu
  split
  · exact spares_adjustSource r c (.inl (hm.resolve_right (by simp [Signal.isClaim])))
  · exact spares_markStreaming h.toLinked (hm.resolve_right (by simp [Signal.media?])) true
  · exact spares_markStreaming h.toLinked (hm.resolve_right (by simp [Signal.media?])) false
  · exact spares_handlePlayer h.toLinked c _
  · exact spares_handlePlayer h.toLinked c _
  · exact spares_handlePlayer h.toLinked c _
  · exact spares_disconnectPlayer h.toLinked _ _
  · split
    · exact spares_handlePlayer h.toLinked c _
    · exact spares_handlePlayer h.toLinked c _
    · exact spares_handlePlayer h.toLinked c _
    · exact spares_relayToPlayer r _ _
    · exact spares_relayToPlayer r _ _
    · split
      · exact spares_relayToPlayer r _ _
      · exact spares_relayToSource h.toLinked c _ _
    · exact spares_sendDataChannels r c _
    · exact .refl r
  · exact .refl r

/-- What anybody else sends, and what is no claim and says nothing about media, changes nothing. -/
theorem spares_handle (h : r.wiring.Sound) {m : Signal} (hm : c ≠ p ∨ m.isClaim = false ∧ m.media? = none) :
    Spares p r (r.handle c m) := by
  unfold handle
  split
  · exact .refl r
  · exact spares_handleStreamer h ‹_› (hm.imp_right And.left)
  · exact spares_handlePlayer h.toLinked c m
  · exact spares_handleSfu h hm

/-! ### Whole operations -/

/-- An operation that brings no message of `p` changes nothing about how it stands with `p`, unless it opens a
session for it. -/
theorem spares_apply (h : r.wiring.Sound) {op : Operation} (hop : op.opened? ≠ some p)
    (hquiet : ∀ m, op.inbound? = some (p, m) → m.isClaim = false ∧ m.media? = none) :
    Spares p r (r.apply op) := by
  cases op with
  | accept c role offerToReceive => exact spares_accept (fun hc => hop (congrArg some hc)) role offerToReceive
  | message c m => exact spares_handle h (by_cases (fun hc : c = p => .inr (hquiet m (hc ▸ rfl))) .inl)
  | frame c content =>
    show Spares p r (r.receive c content).1
    rcases receive_cases r c content with ⟨m, -, hin, heq⟩ | ⟨-, heq | ⟨time, -, heq⟩⟩
    · rw [heq]
      have hsame : Spares p r (r.setOutbox c (r.outbox c)) := .of_same rfl rfl
      exact hsame.trans (spares_handle (r := r.setOutbox c (r.outbox c)) h
        (by_cases (fun hc : c = p => .inr (hquiet m (hc ▸ hin))) .inl))
    · exact heq ▸ .of_same rfl rfl
    · exact heq ▸ .of_same rfl rfl
  | identifyTimeout c => exact spares_identifyTimeout h p c
  | close c => exact spares_close h.toLinked c
  | terminate c reason => exact spares_terminate h.toLinked c reason
  | abandon c => exact .of_same rfl rfl

/-! ### How it stands -/

/-- How it stands with the session of `p`, if it is live: it has the role `role`, it goes by the id `id`
if it is a forwarding unit, `claimed` is whether it has claimed an id, and `said` is what it has said last
about its media. -/
structure Stands (p : ConnectionId) (role : Role) (id : Option String) (claimed : Bool) (said : Option Bool)
    (r : Relay) : Prop where
  session : ∀ {s}, r.session? p = some s → s.standing = (role, role.noted claimed, id)
  entry : ∀ {e}, e ∈ r.streamers.entries → e.connection = p → e.streaming = role.streaming said

variable {role : Role} {id : Option String} {claimed : Bool} {said : Option Bool}

theorem Stands.role_eq (h : Stands p role id claimed said r) {x : Role} (hp : r.role? p = some x) :
    x = role := by
  obtain ⟨s, hs, rfl⟩ := Option.map_eq_some_iff.1 hp
  exact congrArg Prod.fst (h.session hs)

private theorem notMem_entries_of_dead (h : r.wiring.Sound) (hp : r.session? p = none) {e : ListedStreamer}
    (he : e ∈ r.streamers.entries) : e.connection ≠ p := by
  rintro rfl
  exact (notMem_connections_of_session?_eq_none h hp).1 (List.mem_map_of_mem he)

/-- There is nothing to say about a connection that is not live. -/
theorem stands_of_dead (h : r.wiring.Sound) (hp : r.session? p = none) : Stands p role id claimed said r where
  session hs := by
    rw [hp] at hs
    cases hs
  entry he hc := absurd hc (notMem_entries_of_dead h hp he)

theorem Stands.spares (h : Stands p role id claimed said r) (hr : Spares p r r') :
    Stands p role id claimed said r' where
  session hs' := by
    obtain ⟨s, hs, hsame⟩ := hr.session hs'
    exact hsame.trans (h.session hs)
  entry he' hp := by
    rcases hr.entry he' hp with ⟨e, he, hc, hflag⟩ | ⟨hrole, hflag⟩
    · exact hflag.trans (h.entry he hc)
    · rw [hflag, ← h.role_eq hrole]
      rfl

/-- What a session is when it is put in its place, it is when it has been greeted. -/
private theorem Spares.of_insertSession {s : Relay} {new s' : Session}
    (h : Spares p (s.insertSession p new) r') (hs' : r'.session? p = some s') :
    s'.standing = new.standing := by
  obtain ⟨found, hfound, hsame⟩ := h.session hs'
  rw [session?_insertSession, if_pos rfl] at hfound
  obtain rfl := Option.some.inj hfound
  exact hsame

private theorem role_and_identified_accept (hp : r.session? p = none) (role : Role)
    (offerToReceive : Bool) {s : Session} (hs : (r.accept p role offerToReceive).session? p = some s) :
    s.role = role ∧ s.identified? = role.noted false := by
  have hstanding : ∃ new : Session, s.standing = new.standing ∧ new.role = role ∧
      new.identified? = role.noted false := by
    cases role with
    | streamer =>
      have hgreeted : Spares p (r.insertSession p (.streamer (Source.fresh none)))
          (((r.insertSession p (.streamer (Source.fresh none))).sendSettings p).send p .identify) :=
        (spares_send _ p _).trans (spares_send _ p .identify)
      exact ⟨_, (hgreeted.trans (spares_startTimer _ p)).of_insertSession hs, rfl, rfl⟩
    | player =>
      exact ⟨_, (spares_send (insertSession { r with players := (r.players.add p).2 } p
        (.player ⟨(r.players.add p).1, none, !offerToReceive⟩)) p _).of_insertSession hs, rfl, rfl⟩
    | sfu =>
      change (r.openSfu p).session? p = some s at hs
      unfold openSfu at hs
      split at hs
      · rw [session?_push, hp] at hs
        cases hs
      · exact ⟨_,
          ((spares_send (insertSession _ p _) p _).trans (spares_send _ p .identify)).of_insertSession hs,
            rfl, rfl⟩
  obtain ⟨new, hsame, hrole, hnoted⟩ := hstanding
  exact ⟨hrole ▸ congrArg Prod.fst hsame, hnoted ▸ congrArg (·.2.1) hsame⟩

/-- A session that has just been opened has claimed nothing and has said nothing. -/
theorem stands_accept (h : r.wiring.Sound) (hp : r.session? p = none) (role : Role) (offerToReceive : Bool) :
    Stands p role (((r.accept p role offerToReceive).session? p).bind Session.unitId?) false none
      (r.accept p role offerToReceive) where
  session {s} hs := by
    rw [hs]
    obtain ⟨hrole, hnoted⟩ := role_and_identified_accept hp role offerToReceive hs
    rw [← hnoted, ← hrole]
    rfl
  entry {e} he hc := by
    rcases streamers_accept_cases r p role offerToReceive he with he | ⟨rfl, -, hflag⟩
    · exact absurd hc (notMem_entries_of_dead h hp he)
    · exact hflag

/-- A claim is noted, whatever becomes of it. -/
theorem Stands.note (h : Stands p role id claimed said r) :
    Stands p role id true said (r.adjustSource p fun source => { source with identified := true }) where
  session {s'} hs' := by
    rw [session?_adjustSource, if_pos rfl] at hs'
    obtain ⟨s, hs, rfl⟩ := Option.map_eq_some_iff.1 hs'
    have hstands := h.session hs
    cases s <;> obtain ⟨rfl, -, rfl⟩ := hstands <;> rfl
  entry he hp := h.entry he hp

theorem Stands.claim (h : Stands p role id claimed said r) (hr : r.wiring.Sound) (desired : String) :
    Stands p role id true said (r.handle p (.endpointId desired)) := by
  cases hrole : r.role? p with
  | none =>
    simp only [handle, hrole]
    exact stands_of_dead hr (session?_eq_none_iff_role?.2 hrole)
  | some x =>
    cases x with
    | streamer =>
      obtain ⟨source, hs⟩ := exists_source_of_role? hrole (by decide)
      simp only [handle, hrole]
      exact h.note.spares (spares_claimId hr (.inr hrole) hs desired)
    | player =>
      simp only [handle, hrole]
      obtain rfl := h.role_eq hrole
      exact ⟨h.session, h.entry⟩
    | sfu =>
      simp only [handle, hrole]
      exact h.note

/-- What a forwarding unit says about its media counts from then on. -/
private theorem Stands.mark (h : Stands p .sfu id claimed said r) (hr : r.wiring.Linked) (streaming : Bool) :
    Stands p .sfu id claimed (some streaming) (r.markStreaming p streaming) where
  session {s} hs := by
    rw [session?_markStreaming] at hs
    exact h.session hs
  entry {e} he hp := by
    unfold markStreaming at he
    split at he
    · rename_i hnone
      have hslot := StreamerDirectory.mem_slots_iff_entry.2 ⟨e, he, rfl, hp⟩
      have hid : r.wiring.streamerId p = some e.id := hr.mem_streamerSlots.1 hslot
      exact absurd (hnone.symm.trans hid) (by simp)
    · rename_i x hx
      rcases StreamerDirectory.cases_of_mem_setFlag (streamerIds_nodup hr) he with
        ⟨hmem, hne⟩ | ⟨e, -, -, rfl⟩
      · have hslot := StreamerDirectory.mem_slots_iff_entry.2 ⟨e, hmem, rfl, hp⟩
        have hid : r.wiring.streamerId p = some e.id := hr.mem_streamerSlots.1 hslot
        exact absurd (Option.some.inj (hid.symm.trans hx)) hne
      · rfl

/-- What a source says about its media is passed over unless it is a forwarding unit. -/
theorem Stands.media (h : Stands p role id claimed said r) (hr : r.wiring.Sound) {m : Signal}
    {streaming : Bool} (hm : m.media? = some streaming) :
    Stands p role id claimed (some streaming) (r.handle p m) := by
  cases hrole : r.role? p with
  | none =>
    simp only [handle, hrole]
    exact stands_of_dead hr (session?_eq_none_iff_role?.2 hrole)
  | some x =>
    obtain rfl := h.role_eq hrole
    cases x with
    | streamer =>
      have hself : r.handle p m = r := by
        simp only [handle, hrole]
        cases m <;> first | rfl | cases hm
      rw [hself]
      exact ⟨h.session, h.entry⟩
    | player =>
      have hself : r.handle p m = r := by
        simp only [handle, hrole]
        cases m <;> first | rfl | cases hm
      rw [hself]
      exact ⟨h.session, h.entry⟩
    | sfu =>
      have hmarked : r.handle p m = r.markStreaming p streaming := by
        simp only [handle, hrole]
        cases m <;> cases hm <;> rfl
      rw [hmarked]
      exact h.mark hr.toLinked streaming

/-! ### Runs -/

/-- A message is handled by a relay that differs in nothing but how its queues are kept. -/
private theorem exists_handle_of_inbound? {op : Operation} {m : Signal} (hop : op.inbound? = some (c, m))
    (r : Relay) :
    ∃ s : Relay, r.apply op = s.handle c m ∧ (∀ d, s.session? d = r.session? d) ∧ s.streamers = r.streamers ∧
      s.wiring = r.wiring := by
  cases op with
  | message d m' =>
    obtain ⟨rfl, rfl⟩ := Prod.mk.inj (Option.some.inj hop)
    exact ⟨r, rfl, fun _ => rfl, rfl, rfl⟩
  | frame d content =>
    rcases receive_cases r d content with ⟨m', -, hin, heq⟩ | ⟨hnone, -⟩
    · obtain ⟨rfl, rfl⟩ := Prod.mk.inj (Option.some.inj (hin.symm.trans hop))
      exact ⟨_, heq, fun _ => rfl, rfl, rfl⟩
    · rw [hnone] at hop
      cases hop
  | _ => cases hop

theorem Stands.apply (h : Stands p role id claimed said r) (hr : r.wiring.Sound) {op : Operation}
    (hop : op.opened? ≠ some p) :
    Stands p role id (claimed || op.claims p) ((op.media? p).or said) (r.apply op) := by
  by_cases hown : ∃ m, op.inbound? = some (p, m) ∧ (m.isClaim = true ∨ m.media? ≠ none)
  · obtain ⟨m, hin, hm⟩ := hown
    obtain ⟨s, heq, hsession, hstreamers, hwiring⟩ := exists_handle_of_inbound? hin r
    have hs : Stands p role id claimed said s := h.spares (.of_same (hsession p) (by rw [hstreamers]))
    have hsound : s.wiring.Sound := hwiring ▸ hr
    rw [heq, Operation.claims, Operation.media?, hin]
    cases hmedia : m.media? with
    | none =>
      obtain ⟨desired, rfl⟩ := Signal.isClaim_iff.1 (hm.resolve_right fun hne => hne hmedia)
      simpa [Signal.isClaim, hmedia] using hs.claim hsound desired
    | some streaming =>
      have hnoclaim : m.isClaim = false := by cases m <;> first | rfl | cases hmedia
      simpa [hnoclaim, hmedia] using hs.media hsound hmedia
  · have hquiet : ∀ m, op.inbound? = some (p, m) → m.isClaim = false ∧ m.media? = none := fun m hin =>
      ⟨Bool.eq_false_iff.2 fun hm => hown ⟨m, hin, .inl hm⟩, by_contra fun hm => hown ⟨m, hin, .inr hm⟩⟩
    have hclaims : op.claims p = false := Bool.eq_false_iff.2 fun hclaim => by
      obtain ⟨desired, hin⟩ := Operation.claims_iff.1 hclaim
      cases (hquiet _ hin).1
    have hmedia : op.media? p = none := by
      cases hin : op.inbound? with
      | none => simp [Operation.media?, hin]
      | some x =>
        obtain ⟨c, m⟩ := x
        by_cases hc : c = p
        · subst hc
          simp [Operation.media?, hin, (hquiet m hin).2]
        · simp [Operation.media?, hin, hc]
    rw [hclaims, hmedia, Bool.or_false, Option.none_or]
    exact h.spares (spares_apply hr hop hquiet)

theorem Stands.run {ops : List Operation} (h : Stands p role id claimed said r) (hr : r.wiring.Sound)
    (hops : r.Allows ops) (hnew : p ∉ ops.filterMap Operation.opened?) :
    Stands p role id (claimed || ops.any (·.claims p)) ((lastMedia? p ops).or said) (r.run ops) := by
  induction ops generalizing r claimed said with
  | nil => simpa [lastMedia?, Relay.run] using h
  | cons op ops ih =>
    obtain ⟨hop, hrest⟩ := notMem_filterMap_cons.1 hnew
    rw [List.any_cons, ← Bool.or_assoc, lastMedia?_cons, Option.or_assoc]
    exact ih (h.apply hr hop) ((outcome_apply hr hops.1).sound hr) hops.2 hrest

end

/-- A forwarding unit goes by the id that it holds. -/
private theorem streamerId_of_unitId? {r : Relay} {c : ConnectionId} {s : Session} {id : String}
    (hs : r.session? c = some s) (hid : s.unitId? = some id) : r.wiring.streamerId c = some id := by
  cases s with
  | streamer source => cases hid
  | player viewer => cases hid
  | sfu source viewer =>
    rw [streamerId_eq (source?_of_session? hs)]
    exact hid

private theorem unitId?_of_isSfu {s : Session} (hs : s.isSfu = true) :
    s.unitId? = s.source?.bind (·.streamerId) := by
  cases s with
  | streamer source => cases hs
  | player viewer => cases hs
  | sfu source viewer => rfl

private theorem noted_of_source? {s : Session} {source : Source} (hs : s.source? = some source)
    (claimed : Bool) :
    s.role.noted claimed = some claimed := by
  cases s with
  | streamer _ => rfl
  | player viewer => cases hs
  | sfu _ viewer => rfl

/-- How it stands with a session follows from how it was opened and from its own messages since, whatever
others have done in between: who has been renamed, refused, timed out, or has gone.  A forwarding unit
goes by the id that it was admitted under.  Whoever holds an id has the one entry of it in the directory:
that of a streamer always has media, and that of a forwarding unit has what it said last, if it has said
anything.  And a source counts as identified if and only if it has claimed an id. -/
theorem standing_follows_own_messages (settings : Settings) (before after : List Operation) (c : ConnectionId)
    (role : Role) (offerToReceive : Bool)
    (hops : (fresh settings).Allows (before ++ .accept c role offerToReceive :: after))
    (hnew : c ∉ after.filterMap Operation.opened?) :
    let admitted := ((fresh settings).run before).accept c role offerToReceive
    let r := (fresh settings).run (before ++ .accept c role offerToReceive :: after)
    (r.session? c).isSome →
      r.role? c = some role ∧
      (role = .sfu → ∃ id, admitted.wiring.streamerId c = some id ∧ r.wiring.streamerId c = some id) ∧
      (∀ e, e ∈ r.streamers.entries ∧ e.connection = c ↔
        ∃ id, r.wiring.streamerId c = some id ∧ e = ⟨id, c, role.streaming (lastMedia? c after)⟩) ∧
      ∀ source, r.source? c = some source →
        (source.identified = true ↔ ∃ op ∈ after, ∃ id, op.inbound? = some (c, .endpointId id)) := by
  intro admitted r hlive
  obtain ⟨s, hs⟩ := Option.isSome_iff_exists.1 hlive
  obtain ⟨hbefore, hproper, hafter⟩ := allows_append.1 hops
  have hsound₀ := sound_run (sound_fresh settings) hbefore
  have hsound₁ : admitted.wiring.Sound := (outcome_apply hsound₀ hproper).sound hsound₀
  have hrun : r = admitted.run after := run_append _ _ _
  have hsound : r.wiring.Sound := hrun ▸ sound_run hsound₁ hafter
  have hstands := (stands_accept hsound₀ hproper role offerToReceive).run hsound₁ hafter hnew
  rw [← hrun, Bool.false_or, Option.or_none] at hstands
  obtain ⟨hrole, hnoted, hid⟩ : s.role = role ∧ s.identified? = role.noted (after.any (·.claims c)) ∧
      s.unitId? = (admitted.session? c).bind Session.unitId? := by
        simpa [Session.standing] using hstands.session hs
  refine ⟨by rw [role?_of_session? hs, hrole], fun hunit => ?_, fun e => ⟨?_, ?_⟩, fun source hsource => ?_⟩
  · have hsfu : s.isSfu = true := by simp [Session.isSfu, hrole, hunit]
    have hlisted : r.wiring.unit c = true := by simp [wiring, isSfu, hs, hsfu]
    obtain ⟨id, hheld⟩ := Option.ne_none_iff_exists'.1 (hsound.streamerId_of_unit hlisted)
    have hunitId : s.unitId? = some id := by
      rw [unitId?_of_isSfu hsfu, ← source?_of_session? hs]
      exact hheld
    obtain ⟨s₀, hs₀, hid₀⟩ := Option.bind_eq_some_iff.1 (hid.symm.trans hunitId)
    exact ⟨id, streamerId_of_unitId? hs₀ hid₀, hheld⟩
  · rintro ⟨he, hc⟩
    have hslot := StreamerDirectory.mem_slots_iff_entry.2 ⟨e, he, rfl, hc⟩
    exact ⟨e.id, hsound.mem_streamerSlots.1 hslot, by rw [← hstands.entry he hc, ← hc]⟩
  · rintro ⟨id, hheld, rfl⟩
    obtain ⟨e, he, rfl, hc⟩ := StreamerDirectory.mem_slots_iff_entry.1 (hsound.mem_streamerSlots.2 hheld)
    rw [← hstands.entry he hc, ← hc]
    exact ⟨he, rfl⟩
  · rw [source?_of_session? hs] at hsource
    have hclaimed : some source.identified = some (after.any (·.claims c)) :=
      calc some source.identified
        _ = s.identified? := by rw [Session.identified?, hsource, Option.map_some]
        _ = role.noted (after.any (·.claims c)) := hnoted
        _ = some (after.any (·.claims c)) := by rw [← hrole, noted_of_source? hsource]
    simp [Option.some.inj hclaimed, Operation.claims_iff]

/-- A forwarding unit says that it has media, takes it back and says so again.  In between its neighbour
takes the id that the unit asks for in vain, and is renamed. -/
theorem standing_follows_own_messages_unit :
    let before : List Operation := [.accept ⟨1⟩ .streamer true, .message ⟨1⟩ (.endpointId "SFU")]
    let after : List Operation :=
      [.message ⟨2⟩ .startStreaming, .message ⟨2⟩ (.endpointId "camera"), .message ⟨1⟩ (.endpointId "camera"),
        .message ⟨2⟩ .stopStreaming, .message ⟨1⟩ .stopStreaming, .message ⟨2⟩ .startStreaming,
        .identifyTimeout ⟨2⟩]
    let r := (fresh Settings.standard).run (before ++ .accept ⟨2⟩ .sfu true :: after)
    (r.session? ⟨2⟩).isSome ∧ r.wiring.streamerId ⟨2⟩ = some "SFU1" ∧
      (∀ e, e ∈ r.streamers.entries ∧ e.connection = ⟨2⟩ ↔ e = ⟨"SFU1", ⟨2⟩, true⟩) ∧
      ∀ source, r.source? ⟨2⟩ = some source → source.identified = true := by
  intro before after r
  have hlive : (r.session? ⟨2⟩).isSome := by decide +kernel
  have hheld : r.wiring.streamerId ⟨2⟩ = some "SFU1" := by decide +kernel
  have hsaid : lastMedia? ⟨2⟩ after = some true := by decide
  obtain ⟨-, -, hentries, hidentified⟩ :=
    standing_follows_own_messages Settings.standard before after ⟨2⟩ .sfu true (by decide +kernel)
      (by decide) hlive
  refine ⟨hlive, hheld, fun e => (hentries e).trans ?_, fun source hs => ?_⟩
  · rw [hsaid]
    constructor
    · rintro ⟨id, hid, rfl⟩
      obtain rfl := Option.some.inj (hheld.symm.trans hid)
      rfl
    · rintro rfl
      exact ⟨_, hheld, rfl⟩
  · exact (hidentified source hs).2 ⟨_, List.mem_cons_of_mem _ List.mem_cons_self, "camera", rfl⟩

end Relay

end SignalRelay
