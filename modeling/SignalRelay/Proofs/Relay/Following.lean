import SignalRelay.Proofs.Lists.Folds
import SignalRelay.Proofs.Relay.History

/-!
# Subscriptions follow the session

A subscription is kept as an id, and ids change hands: a source can take another one, and whoever comes
later can claim the one that it had.  All the same a viewer watches the same session until it asks for
something else, or until one of the two goes; and when its source has gone, nobody inherits the viewer.

* `Follows` is what a viewer is left with: its source, or nothing once one of the two has gone.  Every
  change but the viewer's own keeps it.
* `Outcome.subscription_eq_none`: a viewer without a source gets one only if it is subscribed.
* `Outcome.frames`: a queue only grows, and what a viewer has relayed says from whom it comes
  (`Outbound.origin?`).
-/

namespace SignalRelay

/-- The player id of the viewer that a relayed frame comes from. -/
def Outbound.origin? : Outbound → Option String
  | .message (.routed .streamerDataChannels payload) =>
    match payload.get? "sfuId" with
    | some (.str id) => some id
    | _ => none
  | f => f.uplinkStamp?

theorem Outbound.relayed_of_origin? {f : Outbound} {id : String} (h : f.origin? = some id) :
    f.relayed = true := by
  unfold origin? at h
  split at h
  · rfl
  · simp [relayed, h]

namespace Relay

/-- The viewer `p` is on the list of `u`, or it watches nobody and one of the two has gone. -/
def Follows (p u : ConnectionId) (r : Relay) : Prop :=
  p ∈ r.wiring.subscribers u ∨
    r.wiring.subscription p = none ∧ (r.session? u = none ∨ r.session? p = none)

section
variable {r r' : Relay} {p u : ConnectionId} {mover : Option ConnectionId} {op : Operation}

/-! ### One change -/

/-- A viewer that does not move keeps watching nobody. -/
theorem Change.subscription_eq_none (h : Change mover r r') (hr : r.wiring.Sound)
    (hmover : mover ≠ some p) (hp : r.wiring.subscription p = none) : r'.wiring.subscription p = none := by
  cases h with
  | plain _ _ hwiring => exact hwiring ▸ hp
  | preference _ _ hwiring => exact hwiring ▸ hp
  | waiting _ _ hwiring => exact hwiring ▸ hp
  | release _ _ hwiring =>
    rw [hwiring]
    simp [Wiring.release, hp]
  | @attach c _ _ _ _ _ _ hc _ _ _ _ _ hwiring =>
    have hne : p ≠ c := fun he => hmover (he ▸ hc)
    rw [hwiring]
    simpa [Wiring.attach, hne] using hp
  | tornDown _ _ _ htorn =>
    rw [htorn.wiring_eq hr]
    simp [Wiring.without, hp]
  | register _ _ _ _ _ hwiring => exact hwiring ▸ hp
  | @rename c _ _ _ _ _ hwiring =>
    have hlist := hr.notMem_subscribers_of_subscription hp c
    rw [hwiring]
    simpa [Wiring.rename, hlist] using hp

/-- Unless the viewer moves, a change leaves it its source or nothing. -/
theorem Change.follows (h : Change mover r r') (hr : r.wiring.Sound) (hmover : mover ≠ some p)
    (hp : Follows p u r) : Follows p u r' := by
  rcases hp with hp | ⟨hnone, hgone⟩
  · cases h with
    | plain _ _ hwiring => exact .inl (hwiring ▸ hp)
    | preference _ _ hwiring => exact .inl (hwiring ▸ hp)
    | waiting _ _ hwiring => exact .inl (hwiring ▸ hp)
    | @release c hc _ hwiring =>
      have hne : p ≠ c := fun he => hmover (he ▸ hc)
      refine .inl ?_
      rw [hwiring]
      simpa [Wiring.release, hne] using hp
    | attach _ _ _ _ _ _ hwiring =>
      refine .inl ?_
      rw [hwiring]
      simp only [Wiring.attach]
      split
      · exact List.mem_append_left _ hp
      · exact hp
    | @tornDown c gone _ _ _ _ htorn =>
      -- a source that goes takes the subscription with it, whoever holds its id later
      by_cases hu : u ∈ gone
      · obtain ⟨id, hid, hu'⟩ := hr.mem_subscribers.1 hp
        refine .inr ⟨?_, .inl (by rw [htorn.session?, if_pos hu])⟩
        rw [htorn.wiring_eq hr]
        simp only [Wiring.without, hid]
        split
        · rfl
        · rw [Option.filter_some, if_neg]
          simpa using ⟨u, hu, hu'⟩
      · by_cases hpgone : p ∈ gone
        · refine .inr ⟨?_, .inr (by rw [htorn.session?, if_pos hpgone])⟩
          rw [htorn.wiring_eq hr]
          simp [Wiring.without, hpgone]
        · refine .inl ?_
          rw [htorn.wiring_eq hr]
          simpa [Wiring.without, hu, hpgone] using hp
    | register _ _ _ _ _ hwiring => exact .inl (hwiring ▸ hp)
    | rename _ _ _ hwiring => exact .inl (hwiring ▸ hp)
  · exact .inr ⟨h.subscription_eq_none hr hmover hnone,
      hgone.imp (Changes.live (.single h)) (Changes.live (.single h))⟩

theorem Changes.subscription_eq_none (h : Changes mover r r') (hr : r.wiring.Sound) (hmover : mover ≠ some p)
    (hp : r.wiring.subscription p = none) : r'.wiring.subscription p = none := by
  induction h with
  | refl => exact hp
  | tail hbefore hchange ih => exact hchange.subscription_eq_none (Changes.sound hbefore hr) hmover ih

theorem Changes.follows (h : Changes mover r r') (hr : r.wiring.Sound) (hmover : mover ≠ some p)
    (hp : Follows p u r) : Follows p u r' := by
  induction h with
  | refl => exact hp
  | tail hbefore hchange ih => exact hchange.follows (Changes.sound hbefore hr) hmover ih

/-! ### One operation -/

/-- An operation that moves a viewer which watches nobody subscribes it. -/
private theorem moverOf?_ne_some (hp : r.watched? p = none) (hsubscriber : r.subscriberOf? op ≠ some p) :
    r.moverOf? op ≠ some p := by
  intro hmover
  apply hsubscriber
  obtain ⟨⟨c, m⟩, hin, hmover⟩ := Option.bind_eq_some_iff.1 hmover
  rw [subscriberOf?, hin, Option.bind_some, ← hmover]
  cases m with
  | unsubscribe =>
    simp only [mover?] at hmover
    split at hmover
    · obtain rfl := Option.some.inj hmover
      simp_all
    · cases hmover
  | _ => rfl

/-- A viewer that watches somebody moves only if it asks for that. -/
private theorem moverOf?_ne_some_of_watched? (hp : r.watched? p = some u)
    (hunsubscribe : op.inbound? ≠ some (p, .unsubscribe))
    (hsubscribe : ∀ id, op.inbound? ≠ some (p, .subscribe id)) :
    r.moverOf? op ≠ some p := by
  intro hmover
  obtain ⟨⟨c, m⟩, hin, hmover⟩ := Option.bind_eq_some_iff.1 hmover
  cases m with
  | subscribe id =>
    obtain rfl : c = p := Option.some.inj hmover
    exact hsubscribe id hin
  | unsubscribe =>
    simp only [mover?] at hmover
    split at hmover
    · obtain rfl := Option.some.inj hmover
      exact hunsubscribe hin
    · cases hmover
  | _ =>
    simp only [mover?, subscriber?, fallback?] at hmover
    split at hmover
    · split at hmover
      · cases hmover
      · rename_i hnone
        obtain ⟨-, -, rfl⟩ := Option.map_eq_some_iff.1 hmover
        exact hnone (by rw [hp]; rfl)
    · cases hmover

/-- A viewer without a source has none as long as it is not subscribed to one. -/
theorem Outcome.subscription_eq_none (h : Outcome r op r') (hr : r.wiring.Sound)
    (hsubscriber : r.subscriberOf? op ≠ some p) (hp : r.wiring.subscription p = none) :
    r'.wiring.subscription p = none := by
  cases h with
  | turn _ _ hturn =>
    obtain ⟨s, hchanges, hwiring, -⟩ := hturn.exists_changes
    rw [hwiring]
    exact hchanges.subscription_eq_none hr
      (moverOf?_ne_some (watched?_of_subscription_eq_none hp) hsubscriber) hp
  | opening _ _ hopening =>
    rw [hopening.sound.subscription_eq_none_iff, hopening.subscribers]
    exact hr.subscription_eq_none_iff.1 hp
  | abandoned _ => exact hp

/-- Unless the viewer moves, an operation leaves it its source or nothing. -/
theorem Outcome.follows (h : Outcome r op r') (hr : r.wiring.Sound) (hmover : r.moverOf? op ≠ some p)
    (hp : p ∈ r.wiring.subscribers u) : Follows p u r' := by
  cases h with
  | turn _ _ hturn =>
    obtain ⟨s, hchanges, hwiring, hsession⟩ := hturn.exists_changes
    rw [Follows, hwiring, hsession, hsession]
    exact hchanges.follows hr hmover (.inl hp)
  | opening _ _ hopening => exact .inl (hopening.subscribers ▸ hp)
  | abandoned _ => exact .inl hp

/-- When its source goes, a viewer is left with nothing. -/
theorem Outcome.subscription_of_gone (h : Outcome r op r') (hr : r.wiring.Sound)
    (hp : p ∈ r.wiring.subscribers u) (hu : r'.session? u = none) : r'.wiring.subscription p = none := by
  have hmover : r.moverOf? op ≠ some p := by
    -- nobody goes while somebody moves
    intro hmover
    obtain ⟨id, -, hid⟩ := hr.mem_subscribers.1 hp
    obtain ⟨x, hx⟩ :=
      isSome_session?_iff_role?.1 (isSome_session?_of_source? (isSome_source?_of_streamerId hid))
    rw [session?_eq_none_iff_role?] at hu
    cases h with
    | turn _ _ hturn =>
      obtain ⟨s, hchanges, -, hsession⟩ := hturn.exists_changes
      have hrole := hchanges.role?_of_mover (by simp [hmover]) u
      rw [role?, hsession, ← role?, hrole, hx] at hu
      cases hu
    | opening hop => simp [hop, moverOf?, Operation.inbound?] at hmover
    | abandoned hop => simp [hop, moverOf?, Operation.inbound?] at hmover
  rcases h.follows hr hmover hp with hlist | ⟨hnone, -⟩
  · rw [(wiring_of_session?_eq_none hu).2.1] at hlist
    cases hlist
  · exact hnone

/-- What an operation queues has not been relayed, except for one frame. -/
theorem Outcome.frames (h : Outcome r op r') (u : ConnectionId) :
    ∃ frames, (r'.outbox u).frames = (r.outbox u).frames ++ frames ∧
      ∀ f ∈ frames, f.relayed = true → r.relayOf? op = some (u, f) := by
  have hquiet : ∀ {s}, Quiet r s → ∃ frames, (s.outbox u).frames = (r.outbox u).frames ++ frames ∧
      ∀ f ∈ frames, f.relayed = true → r.relayOf? op = some (u, f) := by
    intro s hquiet
    obtain ⟨frames, heq, hrelayed⟩ := hquiet.frames u
    refine ⟨frames, heq, fun f hf hkeep => ?_⟩
    rw [hrelayed f hf] at hkeep
    cases hkeep
  cases h with
  | turn _ _ hturn =>
    cases hturn with
    | upkeep hbefore => exact hquiet hbefore.toQuiet
    | @relay s v f hbefore hsome =>
      obtain ⟨frames, heq, hrelayed⟩ := hquiet hbefore.toQuiet
      rw [outbox_push, Outbox.pushAll_eq]
      by_cases hbox : v = u ∧ (s.outbox u).connected = true
      · obtain ⟨rfl, hconnected⟩ := hbox
        refine ⟨frames ++ [f], by simp [hconnected, heq], fun g hg => ?_⟩
        rcases List.mem_append.1 hg with hg | hg
        · exact hrelayed g hg
        · obtain rfl := List.mem_singleton.1 hg
          exact fun _ => hsome
      · refine ⟨frames, ?_, hrelayed⟩
        split
        · rw [if_neg fun he => hbox ⟨he.symm, ‹_›⟩, ← heq]
          exact List.append_nil _
        · exact heq
  | opening _ _ hopening => exact hquiet hopening.toQuiet
  | abandoned _ => exact ⟨[], by rw [frames_abandon, List.append_nil], by simp⟩

/-- What is relayed says from which viewer it comes. -/
theorem origin?_of_relayOf? {f : Outbound} (h : r.relayOf? op = some (u, f)) :
    ∃ q id, op.sender? = some q ∧ r.wiring.playerId q = some id ∧ f.origin? = some id := by
  rcases Option.or_eq_some_iff.1 h with hup | ⟨-, hchannels⟩
  · obtain ⟨⟨c, m⟩, hin, hup⟩ := Option.bind_eq_some_iff.1 hup
    obtain ⟨viewer, kind, payload, hv, -, -, hkind, rfl⟩ := of_uplink?_eq_some hup
    refine ⟨c, viewer.playerId, by simp [Operation.sender?, hin], playerId_eq hv, ?_⟩
    cases kind <;> simp_all [RoutedKind.isUplink, Outbound.origin?, Outbound.uplinkStamp?, Payload.withStamp]
  · obtain ⟨⟨c, m⟩, hin, hchannels⟩ := Option.bind_eq_some_iff.1 hchannels
    obtain ⟨unit, payload, -, hv, -, -, payload', rfl, hid, -⟩ := of_channels?_eq_some hchannels
    exact ⟨c, unit.playerId, by
      simp [Operation.sender?, hin], playerId_eq hv, by simp [Outbound.origin?, hid]⟩

/-- A viewer that watches nobody relays nothing unless it is subscribed for it. -/
theorem relayOf?_eq_none (hsender : op.sender? = some p) (hp : r.watched? p = none)
    (hsubscriber : r.subscriberOf? op ≠ some p) : r.relayOf? op = none := by
  obtain ⟨⟨c, m⟩, hin, rfl⟩ := Option.map_eq_some_iff.1 hsender
  have hchannels : r.channels? c m = none := by
    by_contra hsome
    obtain ⟨⟨v, f⟩, hsome⟩ := Option.ne_none_iff_exists'.1 hsome
    obtain ⟨-, -, -, -, hwatch, -⟩ := of_channels?_eq_some hsome
    rw [hp] at hwatch
    cases hwatch
  have hup : r.uplink? c m = none := by
    by_contra hsome
    obtain ⟨⟨v, f⟩, hsome⟩ := Option.ne_none_iff_exists'.1 hsome
    exact hsubscriber (by simp [subscriberOf?, hin, subscriber?_of_uplink?_eq_some hsome hp])
  simp [relayOf?, uplinkOf?, channelsOf?, hin, hup, hchannels]

/-! ### Whole runs -/

/-- A run in which a viewer is not subscribed leaves it without a source, and relays nothing from it. -/
private theorem unsubscribed_run {ops : List Operation} {id : String} (hr : r.wiring.Sound)
    (hops : r.Allows ops) (howns : Owns p id r) (hnew : p ∉ ops.filterMap Operation.opened?)
    (hp : r.wiring.subscription p = none) (hsteps : ∀ x ∈ r.steps ops, x.1.subscriberOf? x.2 ≠ some p) :
    (r.run ops).wiring.subscription p = none ∧ Owns p id (r.run ops) ∧
      ∀ v, ∃ frames, ((r.run ops).outbox v).frames = (r.outbox v).frames ++ frames ∧
        ∀ f ∈ frames, f.origin? ≠ some id := by
  refine run_induction (motive := fun s => s.wiring.subscription p = none ∧ Owns p id s ∧
    ∀ v, ∃ frames, (s.outbox v).frames = (r.outbox v).frames ++ frames ∧ ∀ f ∈ frames, f.origin? ≠ some id)
    (fun {s op} hmem hs hkept hop => ?_) hr hops ⟨hp, howns, fun v => ⟨[], (List.append_nil _).symm, by simp⟩⟩
  obtain ⟨hnone, howns, hqueues⟩ := hkept
  have hunopened : op.opened? ≠ some p := fun he =>
    hnew (List.mem_filterMap.2 ⟨op, mem_of_mem_steps hmem, he⟩)
  refine ⟨hop.subscription_eq_none hs (hsteps _ hmem) hnone, howns.outcome hunopened hop, fun v => ?_⟩
  obtain ⟨frames, heq, hframes⟩ := hqueues v
  obtain ⟨frames', heq', hrelayed⟩ := hop.frames v
  refine ⟨frames ++ frames', by rw [heq', heq, List.append_assoc], fun f hf horigin => ?_⟩
  rcases List.mem_append.1 hf with hf | hf
  · exact hframes f hf horigin
  · -- a frame that says so would have been sent by `p`
    have hrelay := hrelayed f hf (Outbound.relayed_of_origin? horigin)
    obtain ⟨q, id', hsender, hid', horigin'⟩ := origin?_of_relayOf? hrelay
    obtain rfl : q = p := (howns.holder hid').1 (Option.some.inj (horigin'.symm.trans horigin))
    rw [relayOf?_eq_none hsender (watched?_of_subscription_eq_none hnone) (hsteps _ hmem)] at hrelay
    cases hrelay

/-- A viewer `p` watches a session `u`.  Unless an operation is `p`'s own and asks for another source or
for none, `p` watches `u` afterwards as long as both are there, whatever ids change hands.  When `u` has
gone, `p` is unsubscribed, and it stays so until it is subscribed anew: until then it is on nobody's list,
and nothing that is queued for anybody comes from it. -/
theorem subscription_follows_session (settings : Settings) (before : List Operation) (op : Operation)
    (after : List Operation) (hops : ((before ++ op :: after).filterMap Operation.opened?).Nodup)
    {p u : ConnectionId} (hwatch : ((fresh settings).run before).watched? p = some u) :
    let r := (fresh settings).run before
    let s := r.apply op
    let t := s.run after
    (op.inbound? ≠ some (p, .unsubscribe) → (∀ id, op.inbound? ≠ some (p, .subscribe id)) →
      (s.session? p).isSome → (s.session? u).isSome → s.watched? p = some u) ∧
    (s.session? u = none →
      (∀ viewer, s.viewer? p = some viewer → viewer.subscribed = none) ∧
      ((∀ x ∈ s.steps after, x.1.subscriberOf? x.2 ≠ some p) →
        (∀ viewer, t.viewer? p = some viewer → viewer.subscribed = none) ∧
        (∀ v source, t.source? v = some source → p ∉ source.subscribers) ∧
        ∀ v viewer, r.viewer? p = some viewer →
          ∃ frames, (t.outbox v).frames = (s.outbox v).frames ++ frames ∧
            ∀ f ∈ frames, f.origin? ≠ some viewer.playerId)) := by
  intro r s t
  have hallows : (fresh settings).Allows (before ++ op :: after) := allows_fresh hops
  obtain ⟨hbefore, hproper, hafter⟩ := allows_append.1 hallows
  have hr : r.wiring.Sound := sound_run (sound_fresh settings) hbefore
  have hop : Outcome r op s := outcome_apply hr hproper
  have hs : s.wiring.Sound := hop.sound hr
  have ht : t.wiring.Sound := sound_run hs hafter
  have hlist : p ∈ r.wiring.subscribers u := (watched?_eq_some_iff_mem hr.toLinked).1 hwatch
  have hunsubscribed : ∀ {x : Relay} {viewer : Viewer}, x.wiring.subscription p = none →
      x.viewer? p = some viewer → viewer.subscribed = none :=
        fun hnone hv => (subscription_eq hv).symm.trans hnone
  refine ⟨fun hunsubscribe hsubscribe hplive hulive => ?_, fun hgone => ?_⟩
  · rw [watched?_eq_some_iff_mem hs.toLinked]
    rcases hop.follows hr (moverOf?_ne_some_of_watched? hwatch hunsubscribe hsubscribe) hlist with
      hlist | ⟨-, hnone | hnone⟩
    · exact hlist
    · simp [hnone] at hulive
    · simp [hnone] at hplive
  · have hnone := hop.subscription_of_gone hr hlist hgone
    refine ⟨fun viewer => hunsubscribed hnone, fun hsteps => ?_⟩
    obtain ⟨id, hid, -⟩ := hr.mem_subscribers.1 hlist
    obtain ⟨viewer, hv, -⟩ := exists_viewer_of_subscription hid
    obtain ⟨hnew, hlater⟩ := notMem_filterMap_cons.1
      (notMem_opened_of_live hops (isSome_session?_of_playerId (playerId_eq hv)))
    have howns : Owns p viewer.playerId s := (owns_of_playerId hr (playerId_eq hv)).outcome hnew hop
    obtain ⟨hnone', -, hqueues⟩ := unsubscribed_run hs hafter howns hlater hnone hsteps
    refine ⟨fun viewer => hunsubscribed hnone', fun v source hsource => ?_, fun v viewer' hv' => ?_⟩
    · rw [← subscribers_eq hsource]
      exact ht.notMem_subscribers_of_subscription hnone' v
    · obtain rfl : viewer = viewer' := Option.some.inj (hv.symm.trans hv')
      exact hqueues v

/-- A camera takes another id, and another camera its old one; a player of the first stays with it.  Then
the first goes and a third takes its last id: the player is nobody's. -/
theorem subscription_follows_session_past_claims :
    let before : List Operation :=
      [.accept ⟨1⟩ .streamer true, .message ⟨1⟩ (.endpointId "camera"), .accept ⟨2⟩ .player true,
        .message ⟨2⟩ (.subscribe "camera"), .message ⟨1⟩ (.endpointId "studio"), .accept ⟨3⟩ .streamer true,
        .message ⟨3⟩ (.endpointId "camera")]
    let after : List Operation := [.accept ⟨4⟩ .streamer true, .message ⟨4⟩ (.endpointId "studio")]
    let r := (fresh Settings.standard).run before
    let t := (r.apply (.close ⟨1⟩)).run after
    ((before ++ .close ⟨1⟩ :: after).filterMap Operation.opened?).Nodup ∧ r.watched? ⟨2⟩ = some ⟨1⟩ ∧
      (t.streamers.find? "studio").map (·.connection) = some ⟨4⟩ ∧
      ∀ v source, t.source? v = some source → ⟨2⟩ ∉ source.subscribers := by
  intro before after r t
  have hops : ((before ++ .close ⟨1⟩ :: after).filterMap Operation.opened?).Nodup := by decide
  have hwatch : r.watched? ⟨2⟩ = some ⟨1⟩ := by decide +kernel
  have hgone : (r.apply (.close ⟨1⟩)).session? ⟨1⟩ = none := by decide +kernel
  have hsteps : ∀ x ∈ (r.apply (.close ⟨1⟩)).steps after,
      x.1.subscriberOf? x.2 ≠ some ⟨2⟩ := by decide +kernel
  have hfollows := subscription_follows_session Settings.standard before (.close ⟨1⟩) after hops hwatch
  exact ⟨hops, hwatch, by decide +kernel, ((hfollows.2 hgone).2 hsteps).2.1⟩

end

end Relay

end SignalRelay
