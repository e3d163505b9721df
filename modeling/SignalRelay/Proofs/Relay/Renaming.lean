import SignalRelay.Proofs.Directory.Refusals
import SignalRelay.Proofs.Relay.Runs

/-!
# Renaming

A streamer that is registered may claim another id at any time.  It is refused without hearing of it, or
it gets an id, and then everybody who watches it goes on watching it under that id.

* `Renamed` says part by part what becomes of a relay if the claim is not refused;
  `renamed_of_rename` shows it.
* `claims_rename_or_leave_alone`: it is one or the other, after every run.
* `reclaiming_is_idle`: a streamer that claims its own id again keeps it and disturbs nobody, unless the id
  with a number behind it is registered as well.  Then it is moved, which `reclaiming_moves_numbered` shows.
-/

namespace SignalRelay

/-- Makes a viewer watch another id. -/
abbrev Session.follow (id : String) (s : Session) : Session :=
  s.mapViewer fun viewer => { viewer with subscribed := some id }

namespace Relay

/-- The relay `r'` is `r` after the source `c` has got the id `new` instead of `current`.  Its session and
its entry bear the new id, its viewers watch that, and they are told if it is another one than before;
everything else is as it was. -/
structure Renamed (r : Relay) (c : ConnectionId) (source : Source) (current new : String)
    (r' : Relay) : Prop where
  session_self : r'.session? c = some (.streamer { source with streamerId := some new, identified := true })
  session_subscriber : ∀ p ∈ source.subscribers, ∃ s, r.session? p = some s ∧ s.viewer?.isSome ∧
    r'.session? p = some (s.follow new)
  session_other : ∀ p, p ≠ c → p ∉ source.subscribers → r'.session? p = r.session? p
  /-- The entry keeps its place and its flag. -/
  streamers : ∃ before streaming after, r.streamers.entries = before ++ ⟨current, c, streaming⟩ :: after ∧
    r'.streamers = { r.streamers with
      entries := before ++ ⟨new, c, streaming⟩ :: after
      published := if new = current then r.streamers.published else r.streamers.published ++
        [.renamed current new] }
  unresolved : new ≠ current → r'.streamers.find? current = none
  players : r'.players = r.players
  outbox : ∀ u, r'.outbox u = (r.outbox u).pushAll
    ((if new ≠ current ∧ u ∈ source.subscribers then [.message (.streamerIdChanged new)] else []) ++
      if u = c then [.message (.endpointIdConfirm new)] else [])
  ambient : r'.ambient = r.ambient

section
variable {r : Relay} {c : ConnectionId} {source : Source} {current desired new : String}
    {d : StreamerDirectory}

/-! ### Viewers that follow -/

private theorem follow_eq_self {s : Session} (h : s.viewer?.isSome = false) (id : String) :
    s.follow id = s := by
  cases s with
  | streamer source => rfl
  | player viewer => cases h
  | sfu source viewer => cases h

private theorem follow_of_subscribed {s : Session} {viewer : Viewer} {id : String}
    (hv : s.viewer? = some viewer) (hid : viewer.subscribed = some id) : s.follow id = s := by
  cases s with
  | streamer source => rfl
  | player viewer' =>
    obtain rfl := Option.some.inj hv
    simp only [Session.follow, Session.mapViewer, ← hid]
  | sfu source viewer' =>
    obtain rfl := Option.some.inj hv
    simp only [Session.follow, Session.mapViewer, ← hid]

@[simp] private theorem follow_follow (s : Session) (first second : String) :
    (s.follow first).follow second = s.follow second := by
  cases s <;> rfl

theorem session?_followRename (new : String) (r : Relay) (c p : ConnectionId) :
    (followRename new r c).session? p = if p = c then (r.session? p).map (Session.follow new)
      else r.session? p := by
  unfold followRename
  split
  · rw [session?_send, session?_setSubscribed]
  · rename_i hv
    split
    · rename_i hp
      cases hs : r.session? p with
      | none => rfl
      | some s =>
        -- who has no viewer side is left alone
        have hs' : s.viewer?.isSome = false := by simpa [viewer?, ← hp, hs] using hv
        rw [Option.map_some, follow_eq_self hs']
    · rfl

theorem session?_foldl_followRename (new : String) (r : Relay) (subscribers : List ConnectionId)
    (p : ConnectionId) :
    (subscribers.foldl (followRename new) r).session? p =
      if p ∈ subscribers then (r.session? p).map (Session.follow new) else r.session? p := by
  induction subscribers generalizing r with
  | nil => simp
  | cons c subscribers ih =>
    rw [List.foldl_cons, ih, session?_followRename]
    by_cases hp : p = c
    · subst hp
      simp [Function.comp_def]
    · simp [hp]

/-- Those who follow change nothing but their own sessions and queues. -/
theorem followRename_frame (new : String) (r : Relay) (c : ConnectionId) :
    (followRename new r c).streamers = r.streamers ∧ (followRename new r c).players = r.players ∧
      (followRename new r c).ambient = r.ambient := by
  unfold followRename
  split <;> simp

theorem foldl_followRename_frame (new : String) (r : Relay) (subscribers : List ConnectionId) :
    (subscribers.foldl (followRename new) r).streamers = r.streamers ∧
      (subscribers.foldl (followRename new) r).players = r.players ∧
      (subscribers.foldl (followRename new) r).ambient = r.ambient := by
  induction subscribers generalizing r with
  | nil => exact ⟨rfl, rfl, rfl⟩
  | cons c subscribers ih =>
    obtain ⟨hstreamers, hplayers, hambient⟩ := followRename_frame new r c
    rw [List.foldl_cons, ← hstreamers, ← hplayers, ← hambient]
    exact ih (followRename new r c)

/-! ### What a claim comes to -/

private theorem source?_setIdentified (hs : r.session? c = some (.streamer source)) :
    (r.adjustSource c fun source => { source with identified := true }).source? c =
      some { source with identified := true } := by
  rw [source?_adjustSource, if_pos rfl, source?_of_session? hs]
  rfl

theorem claim_eq (hs : r.session? c = some (.streamer source)) (hid : source.streamerId = some current)
    (desired : String) : r.handle c (.endpointId desired) =
      (r.adjustSource c fun source => { source with identified := true }).renameStreamer c current
        desired := by
  have hrole : r.role? c = some .streamer := role?_of_session? hs
  simp only [handle, hrole, handleStreamer, claimId, source?_of_session? hs, Session.source?, hid]

/-- A claim that is refused changes nothing but the note that there was one. -/
theorem claim_of_refused (hs : r.session? c = some (.streamer source))
    (hid : source.streamerId = some current) {e : DirectoryError}
    (hren : r.streamers.rename current desired = .error e) :
    r.handle c (.endpointId desired) = r.adjustSource c fun source => { source with identified := true } := by
  rw [claim_eq hs hid]
  simp only [renameStreamer, streamers_adjustSource, hren]

/-- What is not about sessions and queues. -/
private theorem claim_frame (hs : r.session? c = some (.streamer source))
    (hid : source.streamerId = some current) (hren : r.streamers.rename current desired = .ok (new, d)) :
    (r.handle c (.endpointId desired)).streamers = d ∧
      (r.handle c (.endpointId desired)).players = r.players ∧
      (r.handle c (.endpointId desired)).ambient = r.ambient := by
  rw [claim_eq hs hid, renameStreamer_eq (source?_setIdentified hs) hren, streamers_send, players_send,
    ambient_send]
  exact foldl_followRename_frame new _ _

section
variable (h : r.wiring.Sound) (hs : r.session? c = some (.streamer source))
    (hid : source.streamerId = some current)
include h hs hid

/-- The viewers of a source are those who watch its id. -/
theorem mem_subscribers_iff {p : ConnectionId} :
    p ∈ source.subscribers ↔ ∃ viewer, r.viewer? p = some viewer ∧ viewer.subscribed = some current := by
  have hsource := source?_of_session? hs
  rw [← subscribers_eq hsource, h.mem_subscribers, streamerId_eq hsource, hid]
  constructor
  · rintro ⟨id, hp, hcid⟩
    rw [Option.some.inj hcid]
    exact exists_viewer_of_subscription hp
  · rintro ⟨viewer, hv, hp⟩
    exact ⟨current, (subscription_eq hv).trans hp, rfl⟩

theorem mem_ids_of_session? : current ∈ r.streamers.ids := by
  have hslot : (current, c) ∈ r.wiring.streamerSlots :=
    h.mem_streamerSlots.2 ((streamerId_eq (source?_of_session? hs)).trans hid)
  exact streamerIds_eq r ▸ List.mem_map_of_mem hslot

/-- The entry with the id of a source is its own. -/
theorem connection_of_mem_entries {entry : ListedStreamer} (hmem : entry ∈ r.streamers.entries)
    (hentry : entry.id = current) : entry.connection = c := by
  have hslot : (current, entry.connection) ∈ r.wiring.streamerSlots :=
    StreamerDirectory.mem_slots_iff_entry.2 ⟨entry, hmem, hentry, rfl⟩
  exact h.streamerId_inj (h.mem_streamerSlots.1 hslot) ((streamerId_eq (source?_of_session? hs)).trans hid)

omit hid in
theorem notMem_subscribers_self : c ∉ source.subscribers :=
  subscribers_eq (source?_of_session? hs) ▸ h.notMem_subscribers c

/-- Sessions after a claim that was not refused. -/
private theorem session?_claim (hren : r.streamers.rename current desired = .ok (new, d)) (p : ConnectionId) :
    (r.handle c (.endpointId desired)).session? p =
      if p = c then some (.streamer { source with streamerId := some new, identified := true })
      else if new ≠ current ∧ p ∈ source.subscribers then (r.session? p).map (Session.follow new)
      else r.session? p := by
  have hmoved :
      (adjustSource
        { r.adjustSource c (fun source => { source with identified := true }) with streamers := d } c
        fun source => { source with streamerId := some new }).session? p =
          if p = c then some (.streamer { source with streamerId := some new, identified := true })
            else r.session? p := by
    rw [session?_adjustSource]
    show (if p = c then ((r.adjustSource c _).session? p).map _ else (r.adjustSource c _).session? p) = _
    rw [session?_adjustSource]
    by_cases hp : p = c
    · rw [if_pos hp, if_pos hp, if_pos hp, hp, hs]
      rfl
    · rw [if_neg hp, if_neg hp, if_neg hp]
  rw [claim_eq hs hid, renameStreamer_eq (source?_setIdentified hs) hren, session?_send,
    session?_foldl_followRename, hmoved]
  by_cases hp : p = c
  · have hself := notMem_subscribers_self h hs
    by_cases hnew : new = current <;> simp [hp, hnew, hself]
  · by_cases hnew : new = current <;> simp [hp, hnew]

/-- Everything after a claim that was not refused. -/
theorem renamed_of_rename (hren : r.streamers.rename current desired = .ok (new, d)) :
    Renamed r c source current new (r.handle c (.endpointId desired)) where
  session_self := by rw [session?_claim h hs hid hren, if_pos rfl]
  session_subscriber := by
    intro p hp
    have hpc : p ≠ c := fun hpc => notMem_subscribers_self h hs (hpc ▸ hp)
    obtain ⟨viewer, hv, hwatched⟩ := (mem_subscribers_iff h hs hid).1 hp
    obtain ⟨s, hsession, hviewer⟩ := Option.bind_eq_some_iff.1 hv
    refine ⟨s, hsession, by rw [hviewer]; rfl, ?_⟩
    rw [session?_claim h hs hid hren, if_neg hpc, hsession]
    by_cases hnew : new = current
    · -- it watches the id already
      rw [if_neg fun hand => hand.1 hnew, follow_of_subscribed hviewer (hnew ▸ hwatched)]
    · rw [if_pos ⟨hnew, hp⟩]
      rfl
  session_other := by
    intro p hpc hp
    rw [session?_claim h hs hid hren, if_neg hpc, if_neg fun hand => hp hand.2]
  streamers := by
    obtain ⟨before, entry, after, hentries, hcurrent, hd⟩ := StreamerDirectory.exists_place_of_rename hren
    have hconnection : entry.connection = c :=
      connection_of_mem_entries h hs hid
        (by rw [hentries]; exact List.mem_append_right _ List.mem_cons_self) hcurrent
    obtain ⟨id, connection, streaming⟩ := entry
    obtain rfl : id = current := hcurrent
    obtain rfl : connection = c := hconnection
    exact ⟨before, streaming, after, hentries, (claim_frame hs hid hren).1.trans hd⟩
  unresolved hnew := by
    rw [(claim_frame hs hid hren).1]
    exact StreamerDirectory.find?_rename_eq_none (streamerIds_nodup h.toLinked) hren hnew
  players := (claim_frame hs hid hren).2.1
  outbox u := by
    have hwiring := wiring_setIdentified r c
    have hsource := source?_of_session? hs
    have hmarked : (r.adjustSource c fun source => { source with identified := true }).wiring.Sound :=
      hwiring ▸ h
    have hsent := sends_renameStreamer hmarked (by rw [hwiring, streamerId_eq hsource, hid]) hren
    rw [claim_eq hs hid, hsent.outbox, renameNotices, hwiring, subscribers_eq hsource]
    rfl
  ambient := (claim_frame hs hid hren).2.2

end

end

/-! ### After every run -/

/-- A claim of a registered streamer is refused, and then nothing happens but that it counts as
identified; or the streamer gets an id, and then `Renamed` says what has become of everybody.  Its
subscribers are all who watch it. -/
theorem claims_rename_or_leave_alone (settings : Settings) (ops : List Operation)
    (hops : (fresh settings).Allows ops) (c : ConnectionId) (source : Source) (current desired : String)
    (hs : ((fresh settings).run ops).session? c = some (.streamer source))
    (hid : source.streamerId = some current) :
    let r := (fresh settings).run ops
    let r' := r.handle c (.endpointId desired)
    (source.subscribers.Nodup ∧ ∀ p, p ∈ source.subscribers ↔
      ∃ viewer, r.viewer? p = some viewer ∧ viewer.subscribed = some current) ∧
    ((∃ id, r.streamers.rename current desired = .error (.idCollision id)) ∧
        r' = r.adjustSource c (fun source => { source with identified := true }) ∨
      ∃ new d, r.streamers.rename current desired = .ok (new, d) ∧ Renamed r c source current new r') := by
  intro r r'
  have h : r.wiring.Sound := sound_run (sound_fresh settings) hops
  have hnodup : source.subscribers.Nodup := subscribers_eq (source?_of_session? hs) ▸ h.subscribers_nodup c
  refine ⟨⟨hnodup, fun p => mem_subscribers_iff h hs hid⟩, ?_⟩
  rcases StreamerDirectory.rename_cases (mem_ids_of_session? h hs hid) desired with
    ⟨id, hren⟩ | ⟨new, d, hren⟩
  · exact .inl ⟨⟨id, hren⟩, claim_of_refused hs hid hren⟩
  · exact .inr ⟨new, d, hren, renamed_of_rename h hs hid hren⟩

/-- A streamer that a player and a forwarding unit watch gets another id. -/
theorem claims_rename_or_leave_alone_watched :
    let ops : List Operation :=
      [.accept ⟨1⟩ .streamer true, .message ⟨1⟩ (.endpointId "cam"), .accept ⟨2⟩ .sfu true,
        .accept ⟨3⟩ .player true, .message ⟨3⟩ (.subscribe "cam"), .message ⟨2⟩ (.subscribe "cam")]
    let r := (fresh Settings.standard).run ops
    let source : Source := ⟨some "cam", [⟨3⟩, ⟨2⟩], none, true⟩
    (fresh Settings.standard).Allows ops ∧ r.session? ⟨1⟩ = some (.streamer source) ∧
      source.streamerId = some "cam" ∧
      Renamed r ⟨1⟩ source "cam" "hall" (r.handle ⟨1⟩ (.endpointId "hall")) := by
  intro ops r source
  have hops : (fresh Settings.standard).Allows ops := by decide +kernel
  have hs : r.session? ⟨1⟩ = some (.streamer source) := by decide +kernel
  have hnew : (r.streamers.rename "cam" "hall").toOption.map Prod.fst = some "hall" := by decide +kernel
  refine ⟨hops, hs, rfl, ?_⟩
  rcases (claims_rename_or_leave_alone Settings.standard ops hops ⟨1⟩ source "cam" "hall" hs rfl).2 with
    ⟨⟨id, hren⟩, -⟩ | ⟨new, d, hren, hrenamed⟩
  · rw [show r.streamers.rename "cam" "hall" = _ from hren] at hnew
    cases hnew
  · rw [show r.streamers.rename "cam" "hall" = _ from hren] at hnew
    obtain rfl : new = "hall" := Option.some.inj hnew
    exact hrenamed

/-! ### Claiming one's own id again -/

/-- The first of two cameras claims its id once more.  The id with a number behind it is taken by the
second one, so it is moved to the next number, and its viewer is told. -/
theorem reclaiming_moves_numbered :
    let ops : List Operation :=
      [.accept ⟨1⟩ .streamer true, .message ⟨1⟩ (.endpointId "camera"), .accept ⟨2⟩ .streamer true,
        .message ⟨2⟩ (.endpointId "camera"), .accept ⟨3⟩ .player true, .message ⟨3⟩ (.subscribe "camera")]
    let r := (fresh Settings.standard).run ops
    let r' := r.handle ⟨1⟩ (.endpointId "camera")
    (fresh Settings.standard).Allows ops ∧
      r.session? ⟨1⟩ = some (.streamer ⟨some "camera", [⟨3⟩], none, true⟩) ∧
      r.streamers.ids = ["camera", "camera1"] ∧
      r.streamers.rename "camera" "camera" = .ok ("camera2", r'.streamers) ∧
      r'.streamers.ids = ["camera2", "camera1"] ∧
      r'.streamers.published = r.streamers.published ++ [.renamed "camera" "camera2"] ∧
      r.session? ⟨3⟩ = some (.player ⟨"Player0", some "camera", false⟩) ∧
      r'.session? ⟨3⟩ = some (.player ⟨"Player0", some "camera2", false⟩) ∧
      r'.outbox ⟨3⟩ = (r.outbox ⟨3⟩).push (.message (.streamerIdChanged "camera2")) ∧
      r'.outbox ⟨1⟩ = (r.outbox ⟨1⟩).push (.message (.endpointIdConfirm "camera2")) := by
  decide +kernel

/-- A directory gives a source that claims its own id again that id exactly if the id is alone, which it
is if it ends in a digit or nobody has it with a number behind it.  Then nothing changes in the directory,
nor in a relay but that the source counts as identified, and nobody hears of it but the source. -/
theorem reclaiming_is_idle :
    (∀ (defaultId fallbackStem : String) (updates : List StreamerDirectory.Update) (id : String),
      let d := updates.foldl StreamerDirectory.update (.fresh defaultId fallbackStem)
      id ∈ d.ids →
        ((∃ d', d.rename id id = .ok (id, d')) ↔ d.Alone id) ∧ (d.Alone id → d.rename id id = .ok (id, d))) ∧
    ∀ (settings : Settings) (ops : List Operation) (c : ConnectionId) (source : Source) (id : String),
      (fresh settings).Allows ops →
      let r := (fresh settings).run ops
      let r' := r.handle c (.endpointId id)
      r.session? c = some (.streamer source) → source.streamerId = some id → id ≠ "" → r.streamers.Alone id →
        r'.streamers = r.streamers ∧ r'.players = r.players ∧
        (∀ p, r'.session? p =
          if p = c then some (.streamer { source with identified := true }) else r.session? p) ∧
        (∀ u, r'.outbox u = (r.outbox u).pushAll (if u = c then [.message (.endpointIdConfirm id)] else [])) ∧
        r'.ambient = r.ambient := by
  constructor
  · intro defaultId fallbackStem updates id d hid
    have hd : d.Regular defaultId :=
      StreamerDirectory.regular_foldl (StreamerDirectory.regular_fresh defaultId fallbackStem) updates
    have hdefault : id = "" → d.defaultId = "" := fun hempty =>
      hd.defaultId_eq.trans (hd.default_of_empty (hempty ▸ hid))
    exact ⟨StreamerDirectory.rename_self_iff hd.nodup hid hdefault,
      StreamerDirectory.rename_self hd.nodup hid hdefault⟩
  · intro settings ops c source id hops r r' hs hid hne halone
    have h : r.wiring.Sound := sound_run (sound_fresh settings) hops
    have hren : r.streamers.rename id id = .ok (id, r.streamers) :=
      StreamerDirectory.rename_self (streamerIds_nodup h.toLinked) (mem_ids_of_session? h hs hid)
        (fun hempty => absurd hempty hne) halone
    obtain ⟨hstreamers, hplayers, hambient⟩ := claim_frame hs hid hren
    refine ⟨hstreamers, hplayers, fun p => ?_, fun u => ?_, hambient⟩
    · rw [session?_claim h hs hid hren p, ← hid]
      simp only [ne_eq, not_true_eq_false, false_and, if_false]
    · rw [(renamed_of_rename h hs hid hren).outbox u, if_neg fun hand => hand.1 rfl, List.nil_append]

/-- An id with a number behind it that is registered with another one behind that: it can be claimed
again, and the streamer that has it hears of nothing but the confirmation. -/
theorem reclaiming_is_idle_numbered :
    let ops : List Operation :=
      [.accept ⟨1⟩ .streamer true, .message ⟨1⟩ (.endpointId "cam1"), .accept ⟨2⟩ .streamer true,
        .message ⟨2⟩ (.endpointId "cam12"), .accept ⟨3⟩ .player true, .message ⟨3⟩ (.subscribe "cam1")]
    let r := (fresh Settings.standard).run ops
    let r' := r.handle ⟨1⟩ (.endpointId "cam1")
    let d := [StreamerDirectory.Update.add "hall" ⟨1⟩ true, .add "hall" ⟨2⟩ true].foldl
      StreamerDirectory.update (.fresh "camera" "source")
    ("hall" ∈ d.ids ∧ ¬ d.Alone "hall" ∧ "hall1" ∈ d.ids ∧ d.Alone "hall1" ∧
      d.rename "hall1" "hall1" = .ok ("hall1", d)) ∧
    (fresh Settings.standard).Allows ops ∧
      r.session? ⟨1⟩ = some (.streamer ⟨some "cam1", [⟨3⟩], none, true⟩) ∧
      r.streamers.Alone "cam1" ∧ r'.streamers = r.streamers ∧
      r'.session? ⟨3⟩ = r.session? ⟨3⟩ ∧ r'.outbox ⟨3⟩ = r.outbox ⟨3⟩ ∧
      r'.outbox ⟨1⟩ = (r.outbox ⟨1⟩).pushAll [.message (.endpointIdConfirm "cam1")] := by
  intro ops r r' d
  obtain ⟨hdirectory, hrelay⟩ := reclaiming_is_idle
  have hhall : "hall" ∈ d.ids := by decide +kernel
  have hnext : "hall1" ∈ d.ids := by decide +kernel
  have hmoved : (d.rename "hall" "hall").toOption.map Prod.fst = some "hall2" := by decide +kernel
  have hfirst := (hdirectory "camera" "source" _ "hall" hhall).1
  have hsecond := (hdirectory "camera" "source" _ "hall1" hnext).2
  have hnumbered : d.Alone "hall1" := .inr (.inl (by decide +kernel))
  have hops : (fresh Settings.standard).Allows ops := by decide +kernel
  have hs : r.session? ⟨1⟩ = some (.streamer ⟨some "cam1", [⟨3⟩], none, true⟩) := by decide +kernel
  have halone : r.streamers.Alone "cam1" := .inr (.inl (by decide +kernel))
  obtain ⟨hstreamers, -, hsession, hbox, -⟩ :=
    hrelay Settings.standard ops ⟨1⟩ _ "cam1" hops hs rfl (by decide) halone
  refine ⟨⟨hhall, fun hhallAlone => ?_, hnext, hnumbered, hsecond hnumbered⟩, hops, hs, halone, hstreamers,
    hsession ⟨3⟩, hbox ⟨3⟩, hbox ⟨1⟩⟩
  obtain ⟨d', hd'⟩ := hfirst.2 hhallAlone
  rw [show d.rename "hall" "hall" = _ from hd'] at hmoved
  have hname : "hall" = "hall2" := Option.some.inj hmoved
  exact absurd hname (by decide)

end Relay

end SignalRelay
