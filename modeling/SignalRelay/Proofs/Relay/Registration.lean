import SignalRelay.Proofs.Relay.Rewiring

/-!
# Registration

How ids are given out: to a source that claims one, to a source that claims another, and to sessions that are
opened with one.  Each is a change of the wiring, and a refusal changes nothing.
-/

namespace SignalRelay

namespace Wiring

/-- A source that is given its own id again has not changed. -/
theorem Linked.rename_eq_self {w : Wiring} (h : w.Linked) {c : ConnectionId} {current : String}
    (hc : w.streamerId c = some current) : w.rename c current = w := by
  have hids : (fun d => if d = c then some current else w.streamerId d) = w.streamerId := by
    funext d
    split
    · rename_i hd
      rw [hd, hc]
    · rfl
  have hslots : (w.streamerSlots.map fun s => if s.2 = c then (current, c) else s) = w.streamerSlots := by
    conv => rhs; rw [← List.map_id w.streamerSlots]
    apply List.map_congr_left
    rintro ⟨id', d⟩ hs
    by_cases hd : d = c
    · subst hd
      have hid := h.mem_streamerSlots.1 hs
      rw [hc] at hid
      simp [Option.some.inj hid]
    · simp [hd]
  have hsubs : (fun p => if p ∈ w.subscribers c then some current else w.subscription p) =
      w.subscription := by
    funext p
    split
    · rename_i hp
      obtain ⟨id', hpid, hcid⟩ := h.mem_subscribers.1 hp
      rw [hc] at hcid
      rw [hpid, hcid]
    · rfl
  simp only [Wiring.rename, hids, hslots, hsubs]

end Wiring

namespace Relay

/-! ### Claims -/

/-- Writing an admitted id into its source completes the registration. -/
theorem wiring_of_add {r : Relay} {c : ConnectionId} {desired id : String} {streaming : Bool}
    {d : StreamerDirectory} (hadd : r.streamers.add desired c streaming = .ok (id, d))
    (hc : (r.source? c).isSome) :
    (adjustSource { r with streamers := d } c fun source => { source with streamerId := some id }).wiring =
      r.wiring.inscribe c id := by
  obtain ⟨-, hd⟩ := StreamerDirectory.of_add_eq_ok hadd
  rw [wiring_setStreamerId (r := { r with streamers := d }) hc, wiring_withStreamers]
  simp [Wiring.inscribe, wiring, StreamerDirectory.slots, hd]

private theorem wiring_followRename (new : String) (r : Relay) (c : ConnectionId) :
    (followRename new r c).wiring =
      { r.wiring with subscription := fun p =>
          if p = c ∧ (r.viewer? p).isSome then some new else r.wiring.subscription p } := by
  unfold followRename
  by_cases hc : (r.viewer? c).isSome
  · obtain ⟨viewer, hv⟩ := Option.isSome_iff_exists.1 hc
    rw [if_pos hc, wiring_send, wiring_setSubscribed, hv]
    simp only [Option.bind_some, Wiring.mk.injEq, true_and, and_true]
    funext p
    by_cases hp : p = c
    · subst hp
      simp [hv]
    · simp [hp]
  · rw [if_neg hc]
    have : (fun p => if p = c ∧ (r.viewer? p).isSome then some new else r.wiring.subscription p) =
        r.wiring.subscription := by
      funext p
      by_cases hp : p = c
      · subst hp
        simp [hc]
      · simp [hp]
    rw [this]

theorem isSome_viewer?_followRename (new : String) (r : Relay) (c p : ConnectionId) :
    ((followRename new r c).viewer? p).isSome = (r.viewer? p).isSome := by
  unfold followRename
  split
  · rw [viewer?_send, viewer?_setSubscribed]
    split <;> simp
  · rfl

theorem wiring_foldl_followRename (new : String) (r : Relay) (subscribers : List ConnectionId) :
    (subscribers.foldl (followRename new) r).wiring =
      { r.wiring with subscription := fun p =>
          if p ∈ subscribers ∧ (r.viewer? p).isSome then some new else r.wiring.subscription p } := by
  induction subscribers generalizing r with
  | nil => simp
  | cons c subscribers ih =>
    rw [List.foldl_cons, ih, wiring_followRename]
    simp only [isSome_viewer?_followRename, List.mem_cons, Wiring.mk.injEq, true_and, and_true]
    funext p
    by_cases hp : p = c
    · subst hp
      by_cases hv : (r.viewer? p).isSome <;> simp [hv]
    · simp [hp]

/-- A source is given its new id, those who watch it follow if it is another one than before, and it is
confirmed. -/
theorem renameStreamer_eq {r : Relay} {c : ConnectionId} {source : Source} {current desired new : String}
    {d : StreamerDirectory} (hs : r.source? c = some source)
    (hren : r.streamers.rename current desired = .ok (new, d)) : r.renameStreamer c current desired =
      ((if new = current then [] else source.subscribers).foldl (followRename new)
        (adjustSource { r with streamers := d } c fun source =>
        { source with streamerId := some new })).send c
          (.endpointIdConfirm new) := by
  have hsource :
      (adjustSource { r with streamers := d } c fun source =>
        { source with streamerId := some new }).source? c =
        some { source with streamerId := some new } := by
    rw [source?_adjustSource, if_pos rfl, show source? { r with streamers := d } c = r.source? c from rfl, hs]
    rfl
  simp only [renameStreamer, hren, hsource, Option.map_some, Option.getD_some]
  split <;> rfl

/-- A new id of a source reaches its entry, its session and everybody who watches it. -/
theorem wiring_renameStreamer {r : Relay} (h : r.wiring.Linked) {c : ConnectionId}
    {current desired new : String} {d : StreamerDirectory} (hc : r.wiring.streamerId c = some current)
    (hren : r.streamers.rename current desired = .ok (new, d)) :
    (r.renameStreamer c current desired).wiring = r.wiring.rename c new := by
  obtain ⟨source, hs, hid⟩ := exists_source_of_streamerId hc
  obtain ⟨-, -, hd⟩ := StreamerDirectory.of_rename_eq_ok (streamerIds_nodup h) hren
  have hslots : d.slots = r.wiring.streamerSlots.map fun s => if s.2 = c then (new, c) else s := by
    simp only [hd, StreamerDirectory.slots, wiring, List.map_map]
    apply List.map_congr_left
    intro e he
    have hmem : (e.id, e.connection) ∈ r.wiring.streamerSlots := List.mem_map_of_mem he
    by_cases hec : e.connection = c
    · have : e.id = current := Option.some.inj ((h.mem_streamerSlots.1 hmem).symm.trans (hec ▸ hc))
      simp [this, hec]
    · have : e.id ≠ current := fun heq => hec (h.streamerId_inj (heq ▸ h.mem_streamerSlots.1 hmem) hc)
      simp [this, hec]
  have hlive : (source? { r with streamers := d } c).isSome := by
    show (r.source? c).isSome = true
    rw [hs]
    rfl
  have hmoved :
      (adjustSource { r with streamers := d } c fun source => { source with streamerId := some new }).wiring =
        { r.wiring with
          streamerId := fun x => if x = c then some new else r.wiring.streamerId x
          streamerSlots := r.wiring.streamerSlots.map fun s => if s.2 = c then (new, c) else s } := by
    rw [← hslots, wiring_setStreamerId hlive, wiring_withStreamers]
  -- everybody who watches the source has a viewer side
  have hviewer : ∀ p ∈ source.subscribers, (r.viewer? p).isSome := by
    intro p hp
    obtain ⟨id', hp', -⟩ := h.mem_subscribers.1 (subscribers_eq hs ▸ hp)
    obtain ⟨viewer, hv, -⟩ := exists_viewer_of_subscription hp'
    rw [hv]
    rfl
  have hfollow : (source.subscribers.foldl (followRename new)
      (adjustSource { r with streamers := d } c fun source =>
      { source with streamerId := some new })).wiring =
      r.wiring.rename c new := by
    rw [wiring_foldl_followRename, hmoved]
    simp only [Wiring.rename, subscribers_eq hs, viewer?_adjustSource, Wiring.mk.injEq, true_and, and_true]
    funext p
    by_cases hp : p ∈ source.subscribers
    · have hv : (viewer? { r with streamers := d } p).isSome := hviewer p hp
      simp [hp, hv]
    · simp [hp]
  rw [renameStreamer_eq hs hren, wiring_send]
  by_cases hnew : new = current
  · -- nobody is told, but nobody has to be
    have hself := h.rename_eq_self hc
    have hids := congrArg Wiring.streamerId hself
    have hslots' := congrArg Wiring.streamerSlots hself
    simp only [Wiring.rename] at hids hslots'
    rw [if_pos hnew, List.foldl_nil, hmoved, hnew, hself, hids, hslots']
  · rw [if_neg hnew]
    exact hfollow

/-! ### New sessions -/

section
variable {r : Relay} {c : ConnectionId}

/-- A connection without a session has nothing in the wiring. -/
theorem wiring_of_session?_eq_none (hc : r.session? c = none) :
    r.wiring.streamerId c = none ∧ r.wiring.subscribers c = [] ∧ r.wiring.waiting c = false ∧
      r.wiring.unit c = false ∧ r.wiring.playerId c = none ∧ r.wiring.subscription c = none := by
  simp [wiring, source?, viewer?, isSfu, hc]

/-- Who gets what it has already leaves everything as it was. -/
private theorem given_eq_self {α : Type} {f : ConnectionId → α} {x : α} (h : f c = x) :
    (fun d => if d = c then x else f d) = f := by
  funext d
  split
  · rename_i hd
    rw [hd, h]
  · rfl

/-- A new streamer has no id, but time to claim one. -/
theorem wiring_openStreamer (hc : r.session? c = none) :
    (r.openStreamer c).wiring = r.wiring.setWaiting c true := by
  obtain ⟨hid, hsubs, -, hunit, hpid, hsub⟩ := wiring_of_session?_eq_none hc
  have hinsert : (r.insertSession c (.streamer (Source.fresh none))).wiring =
      r.wiring.setWaiting c false := by
    rw [wiring_insertSession]
    simp only [Session.source?, Session.viewer?, Source.fresh, Option.bind_some, Option.map_some,
      Option.getD_some, Option.map_none, Option.bind_none, Option.isSome_none, Wiring.setWaiting,
      Wiring.mk.injEq, true_and, and_true]
    exact ⟨given_eq_self hid, given_eq_self hsubs, given_eq_self hunit, given_eq_self hpid,
      given_eq_self hsub⟩
  have hstart : ∀ s : Relay, (s.startTimer c).wiring =
      (s.adjustSource c fun source => { source with timer := some s.nextTimer }).wiring := fun s => rfl
  unfold openStreamer
  rw [hstart, wiring_setTimer, wiring_send, sendSettings, wiring_send, hinsert]
  · simp only [Wiring.setWaiting, Option.isSome_some, Wiring.mk.injEq, true_and, and_true]
    funext d
    split <;> rfl
  · simp [sendSettings, source?, session?_insertSession, Session.source?]

/-- A new player is registered under the next id. -/
theorem wiring_openPlayer (hc : r.session? c = none) (offerToReceive : Bool) :
    (r.openPlayer c offerToReceive).wiring = r.wiring.enlist c := by
  obtain ⟨hid, hsubs, hwait, hunit, -, hsub⟩ := wiring_of_session?_eq_none hc
  simp only [openPlayer, sendSettings, wiring_send, PlayerDirectory.add]
  rw [wiring_insertSession, wiring_withPlayers]
  simp only [Session.source?, Session.viewer?, Option.bind_some, Option.map_some, Option.map_none,
    Option.bind_none, Option.getD_none, Option.isSome_none, Wiring.enlist, Wiring.mk.injEq, true_and]
  exact ⟨given_eq_self hid, given_eq_self hsubs, given_eq_self hwait, given_eq_self hunit, rfl,
    given_eq_self hsub, by simp [wiring, PlayerDirectory.slots], rfl⟩

/-- A new forwarding unit is registered as a source and as a viewer. -/
theorem wiring_openSfu (hc : r.session? c = none) {id : String} {d : StreamerDirectory}
    (hadd : r.streamers.add r.settings.sfuStreamerId c false = .ok (id, d)) :
    (r.openSfu c).wiring = ((r.wiring.enlist c).inscribe c id).commission c := by
  obtain ⟨hid, hsubs, hwait, -, hpid, hsub⟩ := wiring_of_session?_eq_none hc
  obtain ⟨-, hd⟩ := StreamerDirectory.of_add_eq_ok hadd
  simp only [openSfu, hadd, sendSettings, wiring_send, PlayerDirectory.add]
  rw [wiring_insertSession]
  simp only [Session.source?, Session.viewer?, Source.fresh, Option.bind_some, Option.map_some,
    Option.getD_some, Option.isSome_none, Wiring.enlist, Wiring.inscribe, Wiring.commission, Wiring.mk.injEq]
  exact ⟨rfl, given_eq_self hsubs, given_eq_self hwait, rfl, rfl, given_eq_self hsub,
    by simp [wiring, StreamerDirectory.slots, hd], by simp [wiring, PlayerDirectory.slots], rfl⟩

end

end Relay

end SignalRelay
