import SignalRelay.Proofs.Relay.Agreement
import SignalRelay.Proofs.Relay.History

/-!
# What players are sent

Toward players a stamp says whom a message is for.  It is taken off on the way, so a player sees no stamp
at all.

* `Signal.downward?` is what a source has passed on to a player, and `handle_of_downward?` how: one frame
  for the owner of the player id in the stamp, or none.
* `relayToUnits_eq`: the preferences of a streamer go to the forwarding units that watch it, each once.
* `Change.queued` and `unstamped_run`: only sources are queued stamps.
-/

namespace SignalRelay

/-- What a source of a role has passed on to a player.  A candidate of a forwarding unit goes down if
it is stamped. -/
def Signal.downward? (role : Role) : Signal → Option (RoutedKind × Payload)
  | .routed kind payload =>
    match role, kind with
    | .streamer, .offer | .streamer, .answer | .streamer, .iceCandidate
    | .sfu, .offer | .sfu, .peerDataChannels =>
      some (kind, payload)
    | .sfu, .iceCandidate => if payload.playerId.isSome then some (kind, payload) else none
    | _, _ => none
  | _ => none

/-- The stamp of a routed frame. -/
def Outbound.stamp? : Outbound → Option String
  | .message (.routed _ payload) => payload.playerId
  | _ => none

theorem Outbound.stamp?_of_plain {f : Outbound} (h : f.plain = true) : f.stamp? = none := by
  unfold stamp?
  split
  · rename_i kind payload
    have hnone : payload.playerId.isNone = true := (Bool.and_eq_true_iff.1 h).1
    simpa using hnone
  · rfl

namespace Relay

section
variable {r r' : Relay} {c u : ConnectionId} {m : Signal} {mover : Option ConnectionId}

/-! ### One message -/

/-- What is for a player goes through the player directory. -/
theorem handle_of_downward? {role : Role} {kind : RoutedKind} {payload : Payload}
    (hrole : r.role? c = some role) (hm : m.downward? role = some (kind, payload)) :
    r.handle c m = r.relayToPlayer kind payload := by
  cases m with
  | routed kind' payload' =>
    cases role with
    | player => cases hm
    | streamer =>
      simp only [handle, hrole]
      cases kind' <;> simp_all [Signal.downward?, handleStreamer]
    | sfu =>
      simp only [handle, hrole]
      cases kind' with
      | iceCandidate =>
        by_cases hstamp : payload'.playerId.isSome
        · simp_all [Signal.downward?, handleSfu]
        · simp [Signal.downward?, hstamp] at hm
      | _ => simp_all [Signal.downward?, handleSfu]
  | _ => cases hm

/-- A stamp that names a player brings that player one frame. -/
theorem relayToPlayer_of_find? (h : r.wiring.Sound) {kind : RoutedKind} {payload : Payload} {id : String}
    {target : ConnectionId} (hstamp : payload.playerId = some id)
    (htarget : r.players.find? id = some target) :
    r.relayToPlayer kind payload = r.push target (.message (.routed kind payload.withoutStamp)) ∧
      (r.session? target).isSome := by
  obtain ⟨viewer, hv, -⟩ := (players_find?_iff h).1 htarget
  have hlive := isSome_session?_of_playerId (playerId_eq hv)
  exact ⟨by simp [relayToPlayer, Payload.takeStamp, hstamp, htarget, Relay.send, hlive], hlive⟩

/-- A payload without a stamp, or with one that names no player, is dropped. -/
theorem relayToPlayer_eq_self {kind : RoutedKind} {payload : Payload}
    (h : ∀ id, payload.playerId = some id → r.players.find? id = none) :
    r.relayToPlayer kind payload = r := by
  cases hstamp : payload.playerId with
  | none => simp [relayToPlayer, Payload.takeStamp, hstamp]
  | some id => simp [relayToPlayer, Payload.takeStamp, hstamp, h id hstamp]

/-! ### Preferences -/

private theorem sendToUnit (m : Signal) (r : Relay) (d : ConnectionId) :
    let s := if r.isSfu d then r.send d m else r
    s = { r with outboxes := s.outboxes } ∧
      ∀ u, s.outbox u = (r.outbox u).pushAll (if u = d ∧ r.isSfu d = true then [.message m] else []) := by
  by_cases hd : r.isSfu d = true
  · have hlive : (r.session? d).isSome := by
      obtain ⟨s, hs, -⟩ := (Option.any_eq_true _ _).1 hd
      rw [hs]
      rfl
    simp only [hd, if_true, and_true]
    refine ⟨?_, fun u => ?_⟩
    · simp [Relay.send, hlive, push, setOutbox]
    · rw [outbox_send]
      simp [hlive]
  · simp [hd]

/-- Every forwarding unit on a list without repetition is queued the message once. -/
private theorem foldl_units (m : Signal) {subscribers : List ConnectionId} (hnodup : subscribers.Nodup)
    (r : Relay) :
    let r' := subscribers.foldl (fun r d => if r.isSfu d then r.send d m else r) r
    r' = { r with outboxes := r'.outboxes } ∧
      ∀ u, r'.outbox u =
        (r.outbox u).pushAll (if u ∈ subscribers ∧ r.isSfu u = true then [.message m] else []) := by
  induction subscribers generalizing r with
  | nil => exact ⟨rfl, fun u => by simp⟩
  | cons d subscribers ih =>
    obtain ⟨hd, hnodup⟩ := List.nodup_cons.1 hnodup
    obtain ⟨hfirst, hbox⟩ := sendToUnit m r d
    rw [List.foldl_cons]
    generalize (if r.isSfu d then r.send d m else r) = s at hfirst hbox
    obtain ⟨hrest, hbox'⟩ := ih hnodup s
    refine ⟨?_, fun u => ?_⟩
    · refine hrest.trans ?_
      generalize (subscribers.foldl (fun r d => if r.isSfu d then r.send d m else r) s).outboxes = boxes
      rw [hfirst]
    · have hunit : s.isSfu u = r.isSfu u := by rw [hfirst]; rfl
      rw [hbox', hbox, hunit, Outbox.pushAll_pushAll]
      by_cases hu : u = d
      · simp [hu, hd]
      · simp [hu]

/-- The preferences of a source go, as they are, to every forwarding unit that watches it, and
nothing else happens. -/
theorem relayToUnits_eq (h : r.wiring.Sound) (c : ConnectionId) (m : Signal) :
    r.relayToUnits c m = { r with outboxes := (r.relayToUnits c m).outboxes } ∧
      ∀ u, (r.relayToUnits c m).outbox u = (r.outbox u).pushAll
        (if r.watched? u = some c ∧ r.isSfu u = true then [.message m] else []) := by
  have hlist : ((r.source? c).map (·.subscribers)).getD [] = r.wiring.subscribers c := rfl
  unfold relayToUnits
  rw [hlist]
  obtain ⟨hsame, hbox⟩ := foldl_units m (h.subscribers_nodup c) r
  refine ⟨hsame, fun u => ?_⟩
  rw [hbox]
  simp only [watched?_eq_some_iff_mem h.toLinked]

/-! ### Confinement -/

/-- A change queues stamps only for sources. -/
theorem Change.queued (h : Change mover r r') (u : ConnectionId) :
    ∃ frames, r'.outbox u = (r.outbox u).pushAll frames ∧ ∀ f ∈ frames, f.stamp? = none ∨
      (r.source? u).isSome := by
  cases h with
  | plain h hplain => exact ⟨_, h.outbox u, fun f hf => .inl (Outbound.stamp?_of_plain (hplain u f hf))⟩
  | preference h hunit =>
    refine ⟨_, h.outbox u, fun f hf => .inr ?_⟩
    obtain ⟨s, hs, hsfu⟩ := (Option.any_eq_true _ _).1 hunit
    rw [(mem_only hf).1]
    cases s <;> simp_all [source?, Session.source?, Session.isSfu, Session.role]
  | waiting h => exact ⟨_, h.outbox u, fun f hf => by cases hf⟩
  | release _ h =>
    refine ⟨_, h.outbox u, fun f hf => .inl ?_⟩
    split at hf
    · obtain ⟨id, -, rfl⟩ := List.mem_map.1 hf
      rfl
    · cases hf
  | attach _ h => exact ⟨_, h.outbox u, fun f hf => .inl ((mem_only hf).2 ▸ rfl)⟩
  | tornDown _ _ hfirst htorn =>
    refine ⟨_, htorn.outbox u, fun f hf => .inl ?_⟩
    rcases cases_of_mem_tornDown hfirst hf with ⟨reason, rfl⟩ | ⟨id, rfl⟩ | rfl <;> rfl
  | register h => exact ⟨_, h.outbox u, fun f hf => .inl ((mem_only hf).2 ▸ rfl)⟩
  | rename h =>
    refine ⟨_, h.outbox u, fun f hf => .inl ?_⟩
    rcases List.mem_append.1 hf with hf | hf
    · split at hf
      · rw [List.mem_singleton.1 hf]
        rfl
      · cases hf
    · rw [(mem_only hf).2]
      rfl

/-- The connection `u` is a player's if anybody's, and has been queued no stamp. -/
structure Unstamped (u : ConnectionId) (r : Relay) : Prop where
  role : ∀ x, r.role? u = some x → x = .player
  frames : ∀ f ∈ (r.outbox u).frames, f.stamp? = none

private theorem Unstamped.source?_eq_none (h : Unstamped u r) : r.source? u = none := by
  by_contra hsome
  obtain ⟨x, hx, hne⟩ := isSome_source?_iff_role?.1 (Option.isSome_iff_ne_none.2 hsome)
  exact hne (h.role x hx)

theorem Unstamped.changes (h : Unstamped u r) (hchanges : Changes mover r r') : Unstamped u r' := by
  induction hchanges with
  | refl => exact h
  | tail _ hchange ih =>
    refine ⟨fun x hx => ih.role x (hchange.role hx), fun f hf => ?_⟩
    obtain ⟨frames, hbox, hframes⟩ := hchange.queued u
    rw [hbox] at hf
    rcases Outbox.mem_frames_pushAll hf with hf | hf
    · exact ih.frames f hf
    · refine (hframes f hf).resolve_right ?_
      rw [ih.source?_eq_none]
      simp

theorem Unstamped.outcome {op : Operation} (h : Unstamped u r) (hop : Outcome r op r')
    (hplayer : ∀ x offerToReceive, op = .accept u x offerToReceive → x = .player) : Unstamped u r' := by
  refine ⟨fun x hx => ?_, ?_⟩
  · rcases hop.role hx with hx | ⟨offerToReceive, hop⟩
    · exact h.role x hx
    · exact hplayer x offerToReceive hop
  cases hop with
  | turn _ _ hturn =>
    cases hturn with
    | upkeep hbefore => exact (h.changes hbefore.changes).frames
    | @relay s v f hbefore _ _ hsource =>
      -- what is relayed upward goes to a source, and `u` is none
      have hs := h.changes hbefore.changes
      have hne : u ≠ v := by
        rintro rfl
        rw [hs.source?_eq_none] at hsource
        cases hsource
      rw [outbox_push, if_neg hne]
      exact hs.frames
  | opening _ _ hopening =>
    obtain ⟨frames, hframes, hbox⟩ := hopening.outbox
    intro f hf
    rw [hbox] at hf
    rcases Outbox.mem_frames_pushAll hf with hf | hf
    · exact h.frames f hf
    · split at hf
      · rcases hframes f hf with hplain | ⟨reason, rfl⟩
        · exact Outbound.stamp?_of_plain hplain
        · rfl
      · cases hf
  | abandoned _ =>
    rw [frames_abandon]
    exact h.frames

end

/-! ### Whole runs -/

section
variable {settings : Settings} {ops : List Operation} {c u : ConnectionId}

/-- A connection is accepted in one role only. -/
private theorem role_of_accept (hops : (ops.filterMap Operation.opened?).Nodup) {x y : Role}
    {offer offer' : Bool} (hx : Operation.accept u x offer ∈ ops)
    (hy : Operation.accept u y offer' ∈ ops) : x = y := by
  obtain ⟨earlier, later, rfl⟩ := List.append_of_mem hx
  have hopened : (Operation.accept u x offer).opened? = some u := rfl
  rw [List.filterMap_append, List.filterMap_cons_some hopened, List.nodup_append] at hops
  obtain ⟨-, hlater, hearlier⟩ := hops
  rcases List.mem_append.1 hy with hy | hy
  · exact absurd rfl (hearlier u (List.mem_filterMap.2 ⟨_, hy, rfl⟩) u List.mem_cons_self)
  · rcases List.mem_cons.1 hy with heq | hy
    · exact (Operation.accept.inj heq).2.1.symm
    · exact absurd (List.mem_filterMap.2 ⟨_, hy, by rfl⟩) (List.nodup_cons.1 hlater).1

/-- A player is queued no stamp. -/
theorem unstamped_run (hops : (ops.filterMap Operation.opened?).Nodup) {offerToReceive : Bool}
    (hu : Operation.accept u .player offerToReceive ∈ ops) : Unstamped u ((fresh settings).run ops) := by
  have hinitial : Unstamped u (fresh settings) := by
    refine ⟨fun x hx => ?_, fun f hf => by cases hf⟩
    rw [session?_eq_none_iff_role?.1 (session?_fresh settings u)] at hx
    cases hx
  refine run_induction (fun hmem _ hr hop => hr.outcome hop fun x offer he => ?_) (sound_fresh settings)
    (allows_fresh hops) hinitial
  exact role_of_accept hops (he ▸ mem_of_mem_steps hmem) hu

/-- A message of a source for a player is one frame for the connection that has the player id in its stamp,
and had it in the whole run: the message without the stamp.  If the stamp names no player, nothing is queued
at all.  In neither case does anything else change.  The preferences of a streamer are queued as they are,
once for each forwarding unit that watches it.  So nothing that is queued for a player has a stamp. -/
theorem deliveries_agree (settings : Settings) (before after : List Operation)
    (hops : ((before ++ after).filterMap Operation.opened?).Nodup) :
    let r := (fresh settings).run before
    (∀ c role m kind payload, r.role? c = some role → m.downward? role = some (kind, payload) →
      (∀ id target, payload.playerId = some id → r.players.find? id = some target →
        r.handle c m = r.push target (.message (.routed kind payload.withoutStamp)) ∧
          (r.session? target).isSome ∧
        ∀ part, part <+: before ++ after → ∀ d,
          ((fresh settings).run part).players.find? id = some d → d = target) ∧
      ((∀ id, payload.playerId = some id → r.players.find? id = none) → r.handle c m = r)) ∧
    (∀ c payload, r.role? c = some .streamer →
      let m : Signal := .routed .layerPreference payload
      r.handle c m = { r with outboxes := (r.handle c m).outboxes } ∧
      ∀ u, (r.handle c m).outbox u = (r.outbox u).pushAll
        (if r.watched? u = some c ∧ r.isSfu u = true then [.message m] else [])) ∧
    (∀ u offerToReceive, .accept u .player offerToReceive ∈ before ++ after →
      ∀ f ∈ (((fresh settings).run (before ++ after)).outbox u).frames, f.stamp? = none) := by
  intro r
  have hallows : (fresh settings).Allows (before ++ after) := allows_fresh hops
  have hr : r.wiring.Sound := sound_run (sound_fresh settings) (allows_append.1 hallows).1
  refine ⟨fun c role m kind payload hrole hm => ?_, fun c payload hrole => ?_, fun u offerToReceive hu => ?_⟩
  · rw [handle_of_downward? hrole hm]
    refine ⟨fun id target hstamp htarget => ?_, relayToPlayer_eq_self⟩
    obtain ⟨hpush, hlive⟩ := relayToPlayer_of_find? hr hstamp htarget
    refine ⟨hpush, hlive, fun part hpart d hd => ?_⟩
    -- the id is compared at two beginnings of the run
    obtain ⟨rest, heq⟩ := hpart
    have hpart : (fresh settings).Allows part := (allows_append.1 (heq ▸ hallows)).1
    obtain ⟨viewer, hv, hid⟩ := (players_find?_iff hr).1 htarget
    obtain ⟨viewer', hv', hid'⟩ := (players_find?_iff (sound_run (sound_fresh settings) hpart)).1 hd
    exact (playerId_eq_iff hops (List.prefix_append before after) ⟨rest, heq⟩ (playerId_eq hv)
      (playerId_eq hv')).1 (hid'.trans hid.symm)
  · have hhandle : r.handle c (.routed .layerPreference payload) =
        r.relayToUnits c (.routed .layerPreference payload) := by
      simp [handle, hrole, handleStreamer]
    intro m
    rw [hhandle]
    exact relayToUnits_eq hr c m
  · exact (unstamped_run hops hu).frames

/-- A camera answers a player by its stamp. -/
theorem deliveries_agree_after_answer :
    let answer := Payload.empty.insert "sdp" (.str "v=0")
    let before : List Operation :=
      [.accept ⟨1⟩ .streamer true, .message ⟨1⟩ (.endpointId "camera"), .accept ⟨2⟩ .player true]
    let after : List Operation := [.message ⟨1⟩ (.routed .answer (answer.withStamp "Player0"))]
    let r := (fresh Settings.standard).run before
    ((before ++ after).filterMap Operation.opened?).Nodup ∧ r.role? ⟨1⟩ = some .streamer ∧
      r.players.find? "Player0" = some ⟨2⟩ ∧
      r.handle ⟨1⟩ (.routed .answer (answer.withStamp "Player0")) =
        r.push ⟨2⟩ (.message (.routed .answer answer)) ∧
      ∀ f ∈ (((fresh Settings.standard).run (before ++ after)).outbox ⟨2⟩).frames, f.stamp? = none := by
  intro answer before after r
  have hops : ((before ++ after).filterMap Operation.opened?).Nodup := by decide
  have hrole : r.role? ⟨1⟩ = some .streamer := by decide +kernel
  have hfind : r.players.find? "Player0" = some ⟨2⟩ := by decide +kernel
  obtain ⟨hdown, -, hplayers⟩ := deliveries_agree Settings.standard before after hops
  obtain ⟨hstamped, -⟩ := hdown ⟨1⟩ .streamer (.routed .answer (answer.withStamp "Player0")) .answer
    (answer.withStamp "Player0") hrole rfl
  exact ⟨hops, hrole, hfind, (hstamped "Player0" ⟨2⟩ rfl hfind).1, hplayers ⟨2⟩ true (by simp [before])⟩

end

end Relay

end SignalRelay
