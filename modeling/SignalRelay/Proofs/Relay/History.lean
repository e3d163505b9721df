import SignalRelay.Proofs.Relay.Runs

/-!
# What a source has been relayed

A source can rely on the stamp of a frame.  After any run in which no connection is accepted twice, the
frames in its queue that have the stamp of a viewer are the messages of that viewer, in their order and each
once, with nothing changed but the stamp.  They stand behind the notice that the viewer has come, and no
notice that it has left is in between.  The data channels of forwarding units come through in the same way.
-/

namespace SignalRelay

namespace Relay

/-- The frame sets up the data channels of `payload` for the unit with the player id `id`: it says
so in `sfuId`, whatever stood there, and has all other members of `payload` and its stamp, or else
that of the unit. -/
def CarriesChannels (id : String) (payload : Payload) (f : Outbound) : Prop :=
  ∃ payload', f = .message (.routed .streamerDataChannels payload') ∧ payload'.get? "sfuId" = some (.str id) ∧
    (∀ key, key ≠ "sfuId" → payload'.get? key = payload.get? key) ∧
    payload'.playerId = some (payload.playerId.getD id)

section
variable {r : Relay} {c p : ConnectionId} {m : Signal} {u : ConnectionId} {f : Outbound}

/-! ### What is relayed for one message -/

private theorem of_upward? {role : Role} {kind : RoutedKind} {payload : Payload}
    (h : m.upward? role = some (kind, payload)) : m = .routed kind payload ∧ kind.isUplink = true := by
  cases m with
  | routed kind' payload' =>
    have hsame : (kind', payload') = (kind, payload) ∧ kind'.isUplink = true := by
      simp only [Signal.upward?] at h
      split at h
      case h_9 =>
        split at h
        · cases h
        · exact ⟨Option.some.inj h, rfl⟩
      case h_10 => cases h
      all_goals exact ⟨Option.some.inj h, rfl⟩
    obtain ⟨heq, hkind⟩ := hsame
    obtain ⟨rfl, rfl⟩ := Prod.mk.inj heq
    exact ⟨rfl, hkind⟩
  | _ => cases h

/-- A message that is relayed keeps its kind and its members, and gets the stamp of its sender. -/
theorem of_uplink?_eq_some (h : r.uplink? c m = some (u, f)) :
    ∃ viewer kind payload, r.viewer? c = some viewer ∧ r.sourceFor? c = some u ∧ m = .routed kind payload ∧
      kind.isUplink = true ∧ f = .message (.routed kind (payload.withStamp viewer.playerId)) := by
  simp only [uplink?, Option.bind_eq_bind, Option.bind_eq_some_iff, Option.pure_def, Option.some.injEq,
    Prod.mk.injEq] at h
  obtain ⟨role, -, viewer, hv, ⟨kind, payload⟩, hup, source, hsource, rfl, rfl⟩ := h
  obtain ⟨rfl, hkind⟩ := of_upward? hup
  exact ⟨viewer, kind, payload, hv, hsource, rfl, hkind, rfl⟩

/-- Who has something for a source and watches none is subscribed to it. -/
theorem subscriber?_of_uplink?_eq_some (h : r.uplink? c m = some (u, f)) (hc : r.watched? c = none) :
    r.subscriber? c m = some c := by
  simp only [uplink?, Option.bind_eq_bind, Option.bind_eq_some_iff, Option.pure_def, Option.some.injEq,
    Prod.mk.injEq] at h
  obtain ⟨role, hrole, viewer, -, ⟨kind, payload⟩, hup, source, hsource, -, -⟩ := h
  obtain ⟨rfl, -⟩ := of_upward? hup
  simp [subscriber?, fallback?, hrole, hup, hc, hsource]

/-- The data channels of a forwarding unit are relayed with its player id as `sfuId`, and under its own
stamp if there was none. -/
theorem of_channels?_eq_some (h : r.channels? c m = some (u, f)) :
    ∃ viewer payload, r.role? c = some .sfu ∧ r.viewer? c = some viewer ∧ r.watched? c = some u ∧
      m = .routed .streamerDataChannels payload ∧ CarriesChannels viewer.playerId payload f := by
  unfold channels? at h
  split at h
  · rename_i viewer source payload hrole hv hwatch
    simp only [Option.some.injEq, Prod.mk.injEq] at h
    obtain ⟨rfl, rfl⟩ := h
    refine ⟨viewer, payload, hrole, hv, hwatch, rfl, _, rfl, ?_, fun key hkey => ?_, ?_⟩
    · have hmember : (payload.insert "sfuId" (.str viewer.playerId)).get? "sfuId" =
          some (.str viewer.playerId) := by
        rw [Payload.insert, Payload.get?, Fields.get?_insert, if_pos rfl]
        rfl
      split
      · exact hmember
      · exact hmember
    · have hmember : (payload.insert "sfuId" (.str viewer.playerId)).get? key = payload.get? key := by
        rw [Payload.insert, Payload.get?, Fields.get?_insert, if_neg hkey]
        rfl
      split
      · exact hmember
      · exact hmember
    · cases hstamp : payload.playerId with
      | none => simp [Payload.insert, Payload.withStamp, hstamp]
      | some id => simp [Payload.insert, hstamp]
  · cases h

theorem uplinkStamp?_of_uplink? (h : r.uplink? c m = some (u, f)) :
    f.setsUpChannels = false ∧ ∃ id, f.uplinkStamp? = some id ∧ r.wiring.playerId c = some id := by
  obtain ⟨viewer, kind, payload, hv, -, -, hkind, rfl⟩ := of_uplink?_eq_some h
  refine ⟨?_, viewer.playerId, by simp [Outbound.uplinkStamp?, hkind, Payload.withStamp], playerId_eq hv⟩
  cases kind <;> simp_all [RoutedKind.isUplink, Outbound.setsUpChannels]

theorem uplinkStamp?_of_channels? (h : r.channels? c m = some (u, f)) :
    f.setsUpChannels = true ∧ f.uplinkStamp? = none := by
  obtain ⟨viewer, payload, -, -, -, -, payload', rfl, -⟩ := of_channels?_eq_some h
  exact ⟨rfl, rfl⟩

/-- A message that sets up data channels is not relayed in any other way. -/
theorem uplink?_eq_none_of_channels? (h : r.channels? c m = some (u, f)) : r.uplink? c m = none := by
  obtain ⟨-, payload, -, -, -, rfl, -⟩ := of_channels?_eq_some h
  by_contra hsome
  obtain ⟨⟨v, g⟩, hup⟩ := Option.ne_none_iff_exists'.1 hsome
  obtain ⟨viewer, kind, payload', -, -, heq, hkind, -⟩ := of_uplink?_eq_some hup
  obtain ⟨rfl, -⟩ := Signal.routed.inj heq
  cases hkind

/-! ### What is relayed by one operation -/

private theorem filter_queued? (r : Relay) (u : ConnectionId) (relayed : Option (ConnectionId × Outbound))
    (keep : Outbound → Bool) :
    (r.queued? u relayed).filter keep = r.queued? u (relayed.filter (keep ·.2)) := by
  cases relayed with
  | none => rfl
  | some relayed =>
    by_cases hqueue : relayed.1 = u ∧ (r.outbox u).connected = true <;>
      by_cases hkeep : keep relayed.2 = true <;>
        simp [queued?, hqueue, Option.filter_some, hkeep]

theorem filter_relayOf?_channels (r : Relay) (op : Operation) :
    (r.relayOf? op).filter (·.2.setsUpChannels) = r.channelsOf? op := by
  unfold relayOf? uplinkOf? channelsOf?
  cases op.inbound? with
  | none => rfl
  | some inbound =>
    obtain ⟨c, m⟩ := inbound
    simp only [Option.bind_some]
    cases hchannels : r.channels? c m with
    | none =>
      cases hup : r.uplink? c m with
      | none => rfl
      | some relayed => simp [(uplinkStamp?_of_uplink? hup).1]
    | some relayed => simp [uplink?_eq_none_of_channels? hchannels, (uplinkStamp?_of_channels? hchannels).1]

/-- If `id` is the player id of `p` and of nobody else, what is relayed under the stamp `id` is what `p`
sends. -/
theorem filter_relayOf?_stamp {id : String}
    (howner : ∀ q id', r.wiring.playerId q = some id' → (id' = id ↔ q = p)) (op : Operation) :
    (r.relayOf? op).filter (·.2.uplinkStamp? = some id) = if op.sender? = some p then r.uplinkOf? op
      else none := by
  unfold relayOf? uplinkOf? channelsOf? Operation.sender?
  cases op.inbound? with
  | none => rfl
  | some inbound =>
    obtain ⟨c, m⟩ := inbound
    simp only [Option.bind_some, Option.map_some, Option.some.injEq]
    cases hup : r.uplink? c m with
    | none =>
      have hchannels : (r.channels? c m).filter (·.2.uplinkStamp? = some id) = none := by
        cases hchannels : r.channels? c m with
        | none => rfl
        | some relayed => simp [(uplinkStamp?_of_channels? hchannels).2]
      simpa using hchannels
    | some relayed =>
      obtain ⟨-, id', hstamp, hid'⟩ := uplinkStamp?_of_uplink? hup
      have howner := howner c id' hid'
      by_cases hc : c = p
      · simp [hstamp, hc, howner.2 hc]
      · simp [hstamp, hc, howner]

end

/-! ### Whole runs -/

section
variable {settings : Settings} {ops ops' ops'' : List Operation} {p q : ConnectionId} {id id' : String}

theorem session?_fresh (settings : Settings) (c : ConnectionId) : (fresh settings).session? c = none := rfl

theorem allows_fresh (hops : (ops.filterMap Operation.opened?).Nodup) : (fresh settings).Allows ops :=
  allows_of_nodup (sound_fresh settings) hops fun _ _ => rfl

/-- Whoever is live has been accepted. -/
theorem mem_opened_of_live (hops : (fresh settings).Allows ops)
    (hp : (((fresh settings).run ops).session? p).isSome) :
    p ∈ ops.filterMap Operation.opened? := by
  by_contra hnew
  rw [session?_run_eq_none (sound_fresh settings) hops (session?_fresh settings p) hnew] at hp
  cases hp

private theorem nodup_initial (h : ops' <+: ops) (hops : (ops.filterMap Operation.opened?).Nodup) :
    (ops'.filterMap Operation.opened?).Nodup :=
  hops.sublist (h.sublist.filterMap _)

/-- Whoever is live is not accepted again. -/
theorem notMem_opened_of_live (hops : ((ops ++ ops').filterMap Operation.opened?).Nodup)
    (hp : (((fresh settings).run ops).session? p).isSome) : p ∉ ops'.filterMap Operation.opened? := by
  have hopened := mem_opened_of_live (allows_append.1 (allows_fresh hops)).1 hp
  rw [List.filterMap_append, List.nodup_append] at hops
  exact fun hmem => hops.2.2 p hopened p hmem rfl

/-- A player id that has been given to `p` belongs to nobody else for the rest of the run, and `p` has no
other. -/
private theorem playerId_eq_iff_of_initial (hops : (ops.filterMap Operation.opened?).Nodup)
    (hinitial : ops' <+: ops) (hp : ((fresh settings).run ops').wiring.playerId p = some id)
    (hq : ((fresh settings).run ops).wiring.playerId q = some id') : id' = id ↔ q = p := by
  have hallows : (fresh settings).Allows ops := allows_fresh hops
  obtain ⟨rest, rfl⟩ := hinitial
  obtain ⟨hbefore, hrest⟩ := allows_append.1 hallows
  have hsound := sound_run (sound_fresh settings) hbefore
  have hnew := notMem_opened_of_live hops (isSome_session?_of_playerId hp)
  have howns := (owns_of_playerId hsound hp).run hsound hrest hnew
  rw [run_append] at hq
  exact howns.holder hq

/-- Throughout a run, a player id belongs to one connection and a connection to one player id. -/
theorem playerId_eq_iff (hops : (ops.filterMap Operation.opened?).Nodup) (h' : ops' <+: ops)
    (h'' : ops'' <+: ops) (hp : ((fresh settings).run ops').wiring.playerId p = some id)
    (hq : ((fresh settings).run ops'').wiring.playerId q = some id') : id' = id ↔ q = p := by
  -- of two beginnings of a run one is the longer
  rcases List.prefix_or_prefix_of_prefix h' h'' with hinitial | hinitial
  · exact playerId_eq_iff_of_initial (nodup_initial h'' hops) hinitial hp hq
  · have heq := playerId_eq_iff_of_initial (nodup_initial h' hops) hinitial hq hp
    rw [eq_comm, heq, eq_comm]

/-- The steps of a run happen to what the operations before them have made of the relay. -/
theorem exists_prefix_of_mem_steps {r : Relay} {s : Relay × Operation} (hs : s ∈ r.steps ops) :
    ∃ before, before <+: ops ∧ s.1 = r.run before := by
  obtain ⟨before, after, heq, hrun⟩ := mem_steps hs
  exact ⟨before, ⟨_, heq.symm⟩, hrun⟩

private theorem filter_of_relayed {keep : Outbound → Bool} (hkeep : ∀ f, keep f = true → f.relayed = true)
    (frames : List Outbound) : frames.filter keep = (frames.filter Outbound.relayed).filter keep := by
  rw [List.filter_filter]
  apply List.filter_congr
  intro f _
  by_cases hf : keep f = true
  · simp [hf, hkeep f hf]
  · simp [hf]

/-- What has been relayed to a source, as far as it is kept, is what its operations have relayed. -/
theorem filter_queue_run (hops : (ops.filterMap Operation.opened?).Nodup) (u : ConnectionId)
    {keep : Outbound → Bool} (hkeep : ∀ f, keep f = true → f.relayed = true) :
    (((fresh settings).run ops).outbox u).frames.filter keep =
      ((fresh settings).steps ops).filterMap fun s =>
        s.1.queued? u ((s.1.relayOf? s.2).filter (keep ·.2)) := by
  have hfresh : (((fresh settings).outbox u).frames.filter Outbound.relayed) = [] := rfl
  rw [filter_of_relayed hkeep, relayed_run (sound_fresh settings) (allows_fresh hops) u, hfresh,
    List.nil_append, List.filter_filterMap]
  apply List.filterMap_congr
  intro s _
  exact filter_queued? s.1 u _ keep

/-- The queue of a source `u` after a run, and a viewer `p` that has been there at some time.  The frames
under the stamp of `p` are exactly the messages of `p` that were for `u` when they came, unchanged but for
the stamp, and each of them stands behind the notice that `p` has come.  The frames that set up data
channels are exactly those of units that watched `u` when they came.  Nothing is lost unless the far side
of `u` has gone away. -/
theorem relays_agree (settings : Settings) (before after : List Operation)
    (hops : ((before ++ after).filterMap Operation.opened?).Nodup) {p : ConnectionId} {viewer : Viewer}
    (hp : ((fresh settings).run before).viewer? p = some viewer) (u : ConnectionId) :
    let id := viewer.playerId
    let steps := (fresh settings).steps (before ++ after)
    let queue := (((fresh settings).run (before ++ after)).outbox u).frames
    queue.filter (·.uplinkStamp? = some id) =
      (steps.filter (·.2.sender? = some p)).filterMap (fun s => s.1.queued? u (s.1.uplinkOf? s.2)) ∧
    (∀ s ∈ steps, ∀ f, s.2.sender? = some p → s.1.uplinkOf? s.2 = some (u, f) →
      ∃ kind payload, s.2.inbound? = some (p, .routed kind payload) ∧ kind.isUplink = true ∧
        s.1.sourceFor? p = some u ∧ f = .message (.routed kind (payload.withStamp id))) ∧
    (∀ earlier f later, queue = earlier ++ f :: later → f.uplinkStamp? = some id → Announced id earlier) ∧
    queue.filter (·.setsUpChannels) = steps.filterMap (fun s => s.1.queued? u (s.1.channelsOf? s.2)) ∧
    (∀ s ∈ steps, ∀ f, s.1.channelsOf? s.2 = some (u, f) →
      ∃ c unit payload, s.2.inbound? = some (c, .routed .streamerDataChannels payload) ∧
        s.1.role? c = some .sfu ∧
        s.1.viewer? c = some unit ∧ s.1.watched? c = some u ∧ CarriesChannels unit.playerId payload f) ∧
    (Operation.abandon u ∉ before ++ after → ∀ s ∈ steps, (s.1.outbox u).connected = true) := by
  intro id steps queue
  have hallows : (fresh settings).Allows (before ++ after) := allows_fresh hops
  -- whoever holds the player id when a step is taken is `p`
  have howner : ∀ s ∈ steps, ∀ q id', s.1.wiring.playerId q = some id' → (id' = id ↔ q = p) := by
    intro s hs q id' hq
    obtain ⟨before', hinitial, hrun⟩ := exists_prefix_of_mem_steps hs
    rw [hrun] at hq
    exact playerId_eq_iff hops (List.prefix_append before after) hinitial (playerId_eq hp) hq
  refine ⟨?_, ?_, ?_, ?_, ?_, ?_⟩
  · have hkeep : ∀ f : Outbound, decide (f.uplinkStamp? = some id) = true → f.relayed = true := by
      intro f hf
      simp [Outbound.relayed, of_decide_eq_true hf]
    rw [filter_queue_run hops u hkeep, List.filterMap_filter]
    -- step by step: a frame under the stamp is one that `p` has sent
    apply List.filterMap_congr
    intro s hs
    rw [filter_relayOf?_stamp (howner s hs)]
    by_cases hsender : s.2.sender? = some p
    · simp [hsender]
    · simp [hsender, queued?]
  · intro s hs f hsender hup
    obtain ⟨⟨c, m⟩, hin, hup⟩ := Option.bind_eq_some_iff.1 hup
    obtain rfl : c = p := by simpa [Operation.sender?, hin] using hsender
    obtain ⟨viewer', kind, payload, hv, hsource, rfl, hkind, rfl⟩ := of_uplink?_eq_some hup
    have hid : viewer'.playerId = id := (howner s hs c _ (playerId_eq hv)).2 rfl
    exact ⟨kind, payload, hin, hkind, hsource, by rw [hid]⟩
  · intro earlier f later heq hstamp
    exact ((orderly_run (sound_fresh settings) hallows (orderly_fresh settings)).guarded u).announced heq
      hstamp
  · have hkeep : ∀ f : Outbound, f.setsUpChannels = true → f.relayed = true := fun f hf => by
      simp [Outbound.relayed, hf]
    rw [filter_queue_run hops u hkeep]
    apply List.filterMap_congr
    intro s _
    rw [filter_relayOf?_channels]
  · intro s _ f hchannels
    obtain ⟨⟨c, m⟩, hin, hchannels⟩ := Option.bind_eq_some_iff.1 hchannels
    obtain ⟨unit, payload, hrole, hv, hwatch, rfl, hcarries⟩ := of_channels?_eq_some hchannels
    exact ⟨c, unit, payload, hin, hrole, hv, hwatch, hcarries⟩
  · intro hstay s hs
    obtain ⟨before', ⟨rest, heq⟩, hrun⟩ := exists_prefix_of_mem_steps hs
    rw [← heq] at hallows hstay
    have hbefore : Operation.abandon u ∉ before' := fun hmem => hstay (List.mem_append_left rest hmem)
    rw [hrun, connected_run (sound_fresh settings) (allows_append.1 hallows).1 hbefore]
    rfl

/-- A streamer and two players, of which the first puts the stamp of the second on its offer. -/
theorem relays_agree_after_spoofing :
    let payload := Payload.empty.insert "sdp" (.str "v=0")
    let before : List Operation :=
      [.accept ⟨1⟩ .streamer true, .message ⟨1⟩ (.endpointId "camera"), .accept ⟨2⟩ .player true,
        .accept ⟨3⟩ .player true]
    let after : List Operation :=
      [.message ⟨2⟩ (.routed .offer (payload.withStamp "Player1")), .message ⟨3⟩ (.routed .answer payload)]
    let queue := (((fresh Settings.standard).run (before ++ after)).outbox ⟨1⟩).frames
    ((before ++ after).filterMap Operation.opened?).Nodup ∧
      ((fresh Settings.standard).run before).viewer? ⟨2⟩ = some ⟨"Player0", none, false⟩ ∧
      queue.filter (·.uplinkStamp? = some "Player0") =
        [.message (.routed .offer (payload.withStamp "Player0"))] := by
  intro payload before after queue
  have hops : ((before ++ after).filterMap Operation.opened?).Nodup := by decide
  have hp : ((fresh Settings.standard).run before).viewer? ⟨2⟩ =
      some ⟨"Player0", none, false⟩ := by decide +kernel
  refine ⟨hops, hp, ?_⟩
  rw [show "Player0" = Viewer.playerId ⟨"Player0", none, false⟩ from rfl,
    (relays_agree Settings.standard before after hops hp ⟨1⟩).1]
  decide +kernel

end

end Relay

end SignalRelay
