import SignalRelay.Proofs.Lists.Folds
import SignalRelay.Proofs.Relay.Effects

/-!
# Observers

Two things that those outside can rely on, since they hold of every single effect.

* `Evolves`: the directories of a relay change as directories do.
* `directories_replay`: whoever hears what the directories publish knows who is registered, and in which
  order.
* `departures_disturb_nobody`: whether and when the far side of a connection goes away makes no
  difference to anybody else.
-/

namespace SignalRelay

namespace Relay

/-- The directories of `r'` have come about from those of `r` by changes of directories. -/
structure Evolves (r r' : Relay) : Prop where
  streamers : ∃ updates : List StreamerDirectory.Update,
    r'.streamers = updates.foldl StreamerDirectory.update r.streamers
  players : ∃ updates : List PlayerDirectory.Update,
    r'.players = updates.foldl PlayerDirectory.update r.players

/-- The relay `r` is `s`, except that some connections have gone away from `r`, and may have missed frames. -/
structure Deserted (r s : Relay) : Prop where
  twins : Twins r s
  outbox : ∀ c, (r.outbox c).connected = true → r.outbox c = s.outbox c

section
variable {r s : Relay}

/-! ### Events -/

theorem Evolves.of_eq (hstreamers : s.streamers = r.streamers) (hplayers : s.players = r.players) :
    Evolves r s :=
  ⟨⟨[], hstreamers⟩, [], hplayers⟩

theorem Evolves.refl (r : Relay) : Evolves r r := .of_eq rfl rfl

theorem Evolves.trans {t : Relay} (h : Evolves r s) (h' : Evolves s t) : Evolves r t := by
  obtain ⟨⟨us, hus⟩, vs, hvs⟩ := h
  obtain ⟨⟨us', hus'⟩, vs', hvs'⟩ := h'
  exact ⟨⟨us ++ us', by rw [hus', hus, List.foldl_append]⟩, vs ++ vs', by rw [hvs', hvs, List.foldl_append]⟩

theorem evolves_effect (r : Relay) (e : Effect) : Evolves r (r.effect e) := by
  cases e with
  | streamers update => exact ⟨⟨[update], rfl⟩, [], rfl⟩
  | players update => exact ⟨⟨[], rfl⟩, [update], rfl⟩
  | _ => exact .of_eq rfl rfl

theorem evolves_apply (r : Relay) (op : Operation) : Evolves r (r.apply op) := by
  cases hop : op.isAbandon with
  | true =>
    cases op with
    | abandon c => exact .of_eq rfl rfl
    | _ => cases hop
  | false =>
    obtain ⟨-, effects, heffects, -⟩ := (Twins.refl r).apply hop
    exact heffects ▸ rel_foldl .refl .trans evolves_effect effects r

theorem evolves_run (r : Relay) (ops : List Operation) : Evolves r (r.run ops) :=
  rel_foldl .refl .trans evolves_apply ops r

/-- The events that a directory has published come to the list of its ids, in order, and every one of them
fits the list that those before it come to: what is added is not there yet, what is removed or renamed is
there, and the new name is not there and is not the old one.  That is so for the directories of a relay,
whatever happens to it, and for any directory by itself.

Whatever is done to such a directory next publishes the one event that it has to tell, or nothing
exactly if the ids stay as they are; players are listed in the order of admission, and neither the
listing nor anything else depends on the order of the table; and what happens to a relay next does
nothing else to its directories. -/
theorem directories_replay (settings : Settings) (ops : List Operation) (defaultId fallbackStem : String)
    (streamerUpdates : List StreamerDirectory.Update) (playerUpdates : List PlayerDirectory.Update) :
    let r := (fresh settings).run ops
    let streamers := streamerUpdates.foldl StreamerDirectory.update (.fresh defaultId fallbackStem)
    let players := playerUpdates.foldl PlayerDirectory.update .fresh
    ((Replays r.streamers.published r.streamers.ids ∧ Replays r.players.published r.players.ids) ∧
      Replays streamers.published streamers.ids ∧ Replays players.published players.ids) ∧
    (∀ d ∈ [r.streamers, streamers], ∀ u,
      Publishes d.ids d.published (d.event? u) (d.update u).ids (d.update u).published) ∧
    (∀ d ∈ [r.players, players], ∀ u,
      Publishes d.ids d.published (d.event? u) (d.update u).ids (d.update u).published) ∧
    (∀ d ∈ [r.players, players], d.ids = (admitted d.published).filter d.contains ∧
      ∀ d', d.Reordered d' → d'.ids = d.ids ∧ (∀ id, d'.find? id = d.find? id) ∧
        ∀ u, (d.update u).Reordered (d'.update u)) ∧
    ∀ op, Evolves r (r.apply op) := by
  intro r streamers players
  have hrun : Evolves (fresh settings) r := evolves_run (fresh settings) ops
  obtain ⟨⟨us, hus⟩, vs, hvs⟩ := hrun
  have hnumbered : ∀ d ∈ [r.players, players], d.Numbered :=
    List.forall_mem_cons.2 ⟨hvs ▸ PlayerDirectory.numbered_fresh.foldl vs,
      List.forall_mem_singleton.2 (PlayerDirectory.numbered_fresh.foldl playerUpdates)⟩
  refine ⟨⟨⟨?_, ?_⟩, ?_, ?_⟩, fun d _ => d.publishes_update,
    fun d hd => PlayerDirectory.publishes_update (hnumbered d hd), fun d hd =>
      ⟨(hnumbered d hd).ids_eq_filter_admitted, fun d' h =>
      ⟨h.ids (hnumbered d hd), h.find? (hnumbered d hd), h.update (hnumbered d hd)⟩⟩, evolves_apply r⟩
  · exact hus ▸ StreamerDirectory.replays_foldl .nil us
  · exact hvs ▸ PlayerDirectory.replays_foldl PlayerDirectory.replays_fresh PlayerDirectory.numbered_fresh vs
  · exact StreamerDirectory.replays_foldl .nil streamerUpdates
  · exact PlayerDirectory.replays_foldl PlayerDirectory.replays_fresh PlayerDirectory.numbered_fresh
      playerUpdates

/-- Sources and viewers come and go, and a source gives itself another name and then claims it once more.
The table of the viewers ends up in another order than that of admission; it is listed in the order of
admission all the same, and also if it is turned around. -/
theorem directories_replay_coming_and_going :
    let ops : List Operation :=
      [.accept ⟨1⟩ .streamer true, .message ⟨1⟩ (.endpointId "cam"), .accept ⟨2⟩ .player true,
        .accept ⟨3⟩ .sfu true, .accept ⟨4⟩ .player true, .message ⟨1⟩ (.endpointId "hall"), .close ⟨2⟩,
        .message ⟨1⟩ (.endpointId "hall"), .close ⟨3⟩, .accept ⟨5⟩ .player true]
    let r := (fresh Settings.standard).run ops
    let turned : PlayerDirectory := { r.players with entries := r.players.entries.reverse }
    (r.streamers.published = [.added "cam", .added "SFU", .renamed "cam" "hall", .removed "SFU"] ∧
      r.streamers.ids = ["hall"]) ∧
    (r.players.published = [.added "Player0", .added "Player1", .added "Player2", .removed "Player0",
        .removed "Player1", .added "Player3"] ∧ r.players.entries.map (·.id) = ["Player3", "Player2"] ∧
      r.players.ids = ["Player2", "Player3"]) ∧
    (r.players.Reordered turned ∧ turned.ids = ["Player2", "Player3"]) ∧
    (r.streamers.event? (.rename "hall" "hall") = none ∧
      (r.streamers.update (.rename "hall" "hall")).published = r.streamers.published) ∧
    r.players.event? (.remove "Player2") = some (.removed "Player2") ∧
      (r.players.update (.remove "Player2")).ids = ["Player3"] := by
  intro ops r turned
  have hpublished :
      r.streamers.published = [.added "cam", .added "SFU", .renamed "cam" "hall", .removed "SFU"] := by
    decide +kernel
  have hpublished' :
      r.players.published = [.added "Player0", .added "Player1", .added "Player2", .removed "Player0",
        .removed "Player1", .added "Player3"] := by decide +kernel
  have hsilent : r.streamers.event? (.rename "hall" "hall") = none := by decide +kernel
  have htold : r.players.event? (.remove "Player2") = some (.removed "Player2") := by decide +kernel
  have hturned : r.players.Reordered turned := ⟨List.reverse_perm _, rfl, rfl⟩
  obtain ⟨⟨⟨hstreamers, hplayers⟩, -⟩, htells, htells', hlists, -⟩ :=
    directories_replay Settings.standard ops "" "" [] []
  have hids : r.streamers.ids = ["hall"] := by rw [← hstreamers.eq, hpublished]; decide
  have hids' : r.players.ids = ["Player2", "Player3"] := by rw [← hplayers.eq, hpublished']; decide
  have hrename := (htells _ List.mem_cons_self (.rename "hall" "hall")).published_eq
  have hremove := (htells' _ List.mem_cons_self (.remove "Player2")).ids_eq
  rw [hsilent] at hrename
  rw [htold, hids'] at hremove
  exact ⟨⟨hpublished, hids⟩, ⟨hpublished', by decide +kernel, hids'⟩,
    ⟨hturned, ((hlists _ List.mem_cons_self).2 turned hturned).1.trans hids'⟩,
    ⟨hsilent, hrename.trans (List.append_nil _)⟩, htold, hremove.trans (by decide)⟩

/-! ### Departures -/

theorem Deserted.refl (r : Relay) : Deserted r r := ⟨rfl, fun _ _ => rfl⟩

theorem Deserted.effect (h : Deserted r s) (e : Effect) : Deserted (r.effect e) (s.effect e) where
  twins := h.twins.effect e
  outbox := by
    cases e with
    | queue c frames =>
      intro u hu
      simp only [Relay.effect, outbox_setOutbox] at hu ⊢
      split
      · rename_i huc
        rw [if_pos huc, Outbox.connected_pushAll] at hu
        rw [h.outbox c hu]
      · rename_i huc
        rw [if_neg huc] at hu
        exact h.outbox u hu
    | _ => exact h.outbox

theorem Deserted.effects (h : Deserted r s) (effects : List Effect) :
    Deserted (effects.foldl Relay.effect r) (effects.foldl Relay.effect s) := by
  induction effects generalizing r s with
  | nil => exact h
  | cons e effects ih => exact ih (h.effect e)

theorem Deserted.apply (h : Deserted r s) {op : Operation} (hop : op.isAbandon = false) :
    Deserted (r.apply op) (s.apply op) := by
  obtain ⟨-, effects, hr, hs⟩ := h.twins.apply hop
  exact hr ▸ hs ▸ h.effects effects

theorem Deserted.abandon (h : Deserted r s) (c : ConnectionId) : Deserted (r.abandon c) s where
  twins := h.twins
  outbox := by
    intro u hu
    unfold Relay.abandon at hu ⊢
    rw [outbox_setOutbox] at hu ⊢
    by_cases huc : u = c
    · rw [if_pos huc] at hu
      cases hu
    · rw [if_neg huc] at hu ⊢
      exact h.outbox u hu

/-- A run is the same run without departures, except for those who have gone away. -/
theorem Deserted.run (h : Deserted r s) (ops : List Operation) :
    Deserted (r.run ops) (s.run (ops.filter (!·.isAbandon))) := by
  induction ops generalizing r s with
  | nil => exact h
  | cons op ops ih =>
    cases hop : op.isAbandon with
    | true =>
      cases op with
      | abandon c =>
        rw [List.filter_cons_of_neg (by simp [hop])]
        exact ih (h.abandon c)
      | _ => cases hop
    | false =>
      rw [List.filter_cons_of_pos (by simp [hop])]
      exact ih (h.apply hop)

private theorem eq_of_prefix {l l' before before' : List Operation} (hsame : l = l') (h : before <+: l)
    (h' : before' <+: l') (hlength : before.length = before'.length) : before = before' := by
  subst hsame
  exact (List.prefix_of_prefix_length_le h h' (Nat.le_of_eq hlength)).eq_of_length hlength

/-- In two runs of the same operations, connections may go away, and not the same ones, and not at the same
times.  After the same number of operations the relays have the same sessions, directories, published events,
counters and timers, and whoever has not gone away in either of them has been queued the same frames. -/
theorem departures_disturb_nobody (r : Relay) {ops ops' before before' : List Operation}
    (hsame : ops.filter (!·.isAbandon) = ops'.filter (!·.isAbandon)) (hbefore : before <+: ops)
    (hbefore' : before' <+: ops')
    (hlength : (before.filter (!·.isAbandon)).length = (before'.filter (!·.isAbandon)).length) :
    let a := r.run before
    let b := r.run before'
    a.sessions = b.sessions ∧ a.streamers = b.streamers ∧ a.players = b.players ∧ a.ambient = b.ambient ∧
      ∀ c, (a.outbox c).connected = true → (b.outbox c).connected = true →
        (a.outbox c).frames = (b.outbox c).frames := by
  intro a b
  have heq := eq_of_prefix hsame (hbefore.filter _) (hbefore'.filter _) hlength
  have ha := (Deserted.refl r).run before
  have hb := heq ▸ (Deserted.refl r).run before'
  have htwins : Twins b a := hb.twins.trans ha.twins.symm
  refine ⟨htwins.sessions, htwins.streamers, htwins.players, htwins.ambient, fun c hac hbc => ?_⟩
  rw [ha.outbox c hac, hb.outbox c hbc]

/-- A player goes away before it subscribes in one run, and not at all in the other: the streamer and the
other player hear the same. -/
theorem departures_disturb_nobody_player :
    let opening : List Operation :=
      [.accept ⟨1⟩ .streamer true, .message ⟨1⟩ (.endpointId "camera"), .accept ⟨2⟩ .player true,
        .accept ⟨3⟩ .player true]
    let rest : List Operation :=
      [.message ⟨2⟩ (.subscribe "camera"), .message ⟨3⟩ (.subscribe "camera"),
        .message ⟨1⟩ (.endpointId "stage")]
    let ops := opening ++ .abandon ⟨2⟩ :: rest
    let ops' := opening ++ rest
    let r := fresh Settings.standard
    (ops.filter (!·.isAbandon) = ops'.filter (!·.isAbandon) ∧ ops <+: ops ∧ ops' <+: ops' ∧
      (ops.filter (!·.isAbandon)).length = (ops'.filter (!·.isAbandon)).length) ∧
      (r.run ops).sessions = (r.run ops').sessions ∧
      ((r.run ops).outbox ⟨3⟩).frames = ((r.run ops').outbox ⟨3⟩).frames ∧
      ((r.run ops).outbox ⟨2⟩).frames ≠ ((r.run ops').outbox ⟨2⟩).frames := by
  intro opening rest ops ops' r
  have hsame : ops.filter (!·.isAbandon) = ops'.filter (!·.isAbandon) := by decide +kernel
  obtain ⟨hsessions, -, -, -, hframes⟩ :=
    departures_disturb_nobody r hsame (List.prefix_refl ops) (List.prefix_refl ops')
      (congrArg List.length hsame)
  exact ⟨⟨hsame, List.prefix_refl _, List.prefix_refl _, congrArg List.length hsame⟩, hsessions,
    hframes ⟨3⟩ (by decide +kernel) (by decide +kernel), by decide +kernel⟩

end

end Relay

end SignalRelay
