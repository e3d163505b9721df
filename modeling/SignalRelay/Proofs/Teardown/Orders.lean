import SignalRelay.Proofs.Teardown.Draining

/-!
# The order in which connections close

When several connections are closed one after the other, those go that are downstream of one of them, and
it does not matter when: a connection that has been taken along already is left alone when it is its turn,
and so is a source that has lost a subscriber before.

* `Pruned` says what is left of a relay when the connections `roots` have been closed in some order.
* `Pruned.cons`: closing one more, and then the others in what is left, comes to closing them all.
* `Pruned.alike`: what is left depends on who was closed only.
-/

namespace SignalRelay

/-- The connection that an operation closes, if that is all it does. -/
def Operation.closed? : Operation → Option ConnectionId
  | .close c | .terminate c _ => some c
  | _ => none

namespace Source

/-- Takes several connections from the list of subscribers. -/
def removeSubscribers (source : Source) (gone : List ConnectionId) : Source :=
  { source with subscribers := source.subscribers.filter (· ∉ gone) }

@[simp] theorem removeSubscribers_nil (source : Source) : source.removeSubscribers [] = source := by
  simp [removeSubscribers]

@[simp] theorem removeSubscribers_removeSubscribers (source : Source) (gone gone' : List ConnectionId) :
    (source.removeSubscribers gone).removeSubscribers gone' = source.removeSubscribers (gone ++ gone') := by
  simp only [removeSubscribers, List.filter_filter, Source.mk.injEq, true_and, and_true]
  apply List.filter_congr
  intro c _
  by_cases hc : c ∈ gone <;> simp [hc]

end Source

namespace Relay

/-- Two relays have the same sessions, entries, counters and timers, and have published the same events,
in whatever order. -/
structure Alike (r r' : Relay) : Prop where
  session? : ∀ c, r.session? c = r'.session? c
  streamers : r.streamers.entries = r'.streamers.entries
  naming : (r.streamers.defaultId, r.streamers.fallbackStem) =
    (r'.streamers.defaultId, r'.streamers.fallbackStem)
  fallbackNumber : r.streamers.fallbackNumber = r'.streamers.fallbackNumber
  streamerEvents : r.streamers.published.Perm r'.streamers.published
  players : r.players.entries = r'.players.entries
  nextNumber : r.players.nextNumber = r'.players.nextNumber
  playerEvents : r.players.published.Perm r'.players.published
  ambient : r.ambient = r'.ambient

/-- What becomes of the session of `d`, which stays, when the connections `gone` go: it lists none of them
any more, and it is left without a subscription if its source is gone. -/
def spared (r : Relay) (gone : List ConnectionId) (d : ConnectionId) (s : Session) : Session :=
  let s := s.mapSource (·.removeSubscribers gone)
  if r.watchesAny gone d then s.mapViewer fun viewer => { viewer with subscribed := none } else s

/-- The timers that still run when those of the connections `gone` have been stopped. -/
def timersWithout (r : Relay) (gone : List ConnectionId) : List Timer :=
  r.timers.filter fun t => gone.all fun d => some t.number ≠ r.ownTimer d

/-- The relay `r'` is `r` after the connections `roots` have been closed one after the other, when the
connections `gone` have gone. -/
structure Pruned (r : Relay) (roots gone : List ConnectionId) (r' : Relay) : Prop where
  nodup : gone.Nodup
  mem_gone : ∀ d, d ∈ gone ↔ ∃ c ∈ roots, (r.session? c).isSome ∧ r.Downstream c d
  session? : ∀ d, r'.session? d = if d ∈ gone then none else (r.session? d).map (r.spared gone d)
  streamers : r'.streamers = r.streamers.removeAll (gone.filterMap r.wiring.streamerId)
  players : ∃ lost : List String, lost.Perm (gone.filterMap r.wiring.playerId) ∧
    r'.players = r.players.removeAll lost
  ambient : r'.ambient = (r.settings, r.clock, r.timersWithout gone, r.nextTimer)

section
variable {r r' r'' : Relay} {c d u x : ConnectionId} {gone gone' roots roots' : List ConnectionId}
  {first : List Outbound}

/-! ### Timers -/

/-- Only streamers wait for an id, so units have no timer to stop. -/
private theorem ownTimer_of_isSfu (h : r.isSfu d = true) : r.ownTimer d = none := by
  unfold isSfu at h
  unfold ownTimer
  cases hs : r.session? d with
  | none => rfl
  | some s =>
    cases s with
    | streamer source => simp [hs, Session.isSfu, Session.role] at h
    | player viewer => rfl
    | sfu source viewer => rfl

theorem ownTimer_spared {s : Session} (hs : r.session? d = some s)
    (hs' : r'.session? d = some (r.spared gone d s)) :
    r'.ownTimer d = r.ownTimer d := by
  simp only [ownTimer, hs, hs', spared]
  cases s <;> cases r.watchesAny gone d <;> rfl

/-! ### One connection -/

private theorem settled_eq_spared (h : r.wiring.Linked) (htorn : TornDown r c gone first r') (hd : d ∉ gone)
    {s : Session} (hs : r.session? d = some s) : r.settled c gone d s = r.spared gone d s := by
  have hlist : (if r.watched? c = some d then s.mapSource (·.removeSubscriber c) else s) =
      s.mapSource (·.removeSubscribers gone) := by
    have hfilter := htorn.filter_gone h hd
    have hmem := watched?_eq_some_iff_mem h (p := c) (u := d)
    cases s with
    | player viewer => exact ite_self _
    | streamer source | sfu source viewer =>
      have hlisted : r.wiring.subscribers d = source.subscribers :=
        subscribers_eq (source?_of_session? hs)
      rw [hlisted] at hfilter hmem
      have hboth : source.removeSubscribers gone = source.removeSubscriber c := by
        simp only [Source.removeSubscribers, Source.removeSubscriber, hfilter]
      split
      · simp only [Session.mapSource, hboth]
      · rename_i hwatch
        have hself : source.removeSubscriber c = source := by
          have hall : source.subscribers.filter (· ≠ c) = source.subscribers :=
            List.filter_eq_self.2 fun a ha => by
              have : a ≠ c := fun he => hwatch (hmem.2 (he ▸ ha))
              simpa using this
          simp only [Source.removeSubscriber, hall]
        simp only [Session.mapSource, hboth, hself]
  simp only [settled, spared, hlist]

/-- Closing one connection leaves what `Pruned` says. -/
theorem TornDown.pruned (h : r.wiring.Linked) (hc : (r.session? c).isSome)
    (htorn : TornDown r c gone first r') :
    Pruned r [c] gone r' where
  nodup := htorn.nodup
  mem_gone d := by simp [htorn.mem_gone, hc]
  session? d := by
    rw [htorn.session?]
    split
    · rfl
    · rename_i hd
      cases hs : r.session? d with
      | none => rfl
      | some s => simp only [Option.map_some, settled_eq_spared h htorn hd hs]
  streamers := htorn.streamers
  players := htorn.players
  ambient := by
    rw [htorn.ambient]
    have hself : c ∈ gone := (htorn.mem_gone c).2 .self
    -- all the others that go are units
    have hstop : ∀ t : Timer, some t.number ≠ r.ownTimer c ↔ ∀ d ∈ gone, some t.number ≠ r.ownTimer d := by
      intro t
      refine ⟨fun ht d hd => ?_, fun ht => ht c hself⟩
      cases (htorn.mem_gone d).1 hd with
      | self => exact ht
      | unit _ hunit _ => simp [ownTimer_of_isSfu hunit]
    have htimers : r.timers.filter (fun t => some t.number ≠ r.ownTimer c) = r.timersWithout gone := by
      apply List.filter_congr
      intro t _
      rw [Bool.eq_iff_iff]
      simpa using hstop t
    simp only [Relay.ambient, stopTimer, htimers]

/-! ### One more connection -/

private theorem spared_spared (h : r.wiring.Sound) (htorn : TornDown r c gone first r') (hd : d ∉ gone)
    (s : Session) :
    r'.spared gone' d (r.spared gone d s) = r.spared (gone ++ gone') d s := by
  have hwatch : r.watchesAny (gone ++ gone') d = (r.watchesAny gone d || r'.watchesAny gone' d) := by
    rw [Bool.eq_iff_iff, Bool.or_eq_true, watchesAny_iff, watchesAny_iff, watchesAny_iff]
    constructor
    · rintro ⟨u, hu, hdu⟩
      by_cases hug : u ∈ gone
      · exact .inl ⟨u, hug, hdu⟩
      · exact .inr ⟨u, (List.mem_append.1 hu).resolve_left hug, (htorn.watched?_iff h).2 ⟨hdu, hd, hug⟩⟩
    · rintro (⟨u, hu, hdu⟩ | ⟨u, hu, hdu⟩)
      · exact ⟨u, List.mem_append_left _ hu, hdu⟩
      · exact ⟨u, List.mem_append_right _ hu, ((htorn.watched?_iff h).1 hdu).1⟩
  simp only [spared, hwatch]
  cases s <;> cases r.watchesAny gone d <;> cases r'.watchesAny gone' d <;>
    simp [Session.mapSource, Session.mapViewer]

section
variable (h : r.wiring.Sound) (htorn : TornDown r c gone first r') (hrest : Pruned r' roots gone' r'')
include htorn

private theorem TornDown.isSome_session?_iff : (r'.session? x).isSome ↔ (r.session? x).isSome ∧ x ∉ gone := by
  rw [htorn.session?]
  by_cases hx : x ∈ gone <;> simp [hx]

include hrest

/-- Whoever goes later was live all the time. -/
private theorem Pruned.stayed (hd : d ∈ gone') : (r.session? d).isSome ∧ d ∉ gone := by
  obtain ⟨y, -, hy, hdown⟩ := (hrest.mem_gone d).1 hd
  exact htorn.isSome_session?_iff.1 (hdown.live hy)

/-- Those who go later still have their timers. -/
private theorem Pruned.timersWithout_append (hone : Pruned r [c] gone r') :
    r'.timersWithout gone' = r.timersWithout (gone ++ gone') := by
  have htimers : r'.timers = r.timersWithout gone := congrArg (·.2.2.1) hone.ambient
  have htimer : ∀ d ∈ gone', r'.ownTimer d = r.ownTimer d := by
    intro d hd
    obtain ⟨hdlive, hdg⟩ := hrest.stayed htorn hd
    obtain ⟨s, hs⟩ := Option.isSome_iff_exists.1 hdlive
    exact ownTimer_spared hs (by rw [hone.session?, if_neg hdg, hs]; rfl)
  simp only [timersWithout, htimers, List.filter_filter, List.all_append]
  apply List.filter_congr
  intro t _
  have hall : (gone'.all fun d => some t.number ≠ r'.ownTimer d) =
      gone'.all fun d => some t.number ≠ r.ownTimer d := by
    rw [Bool.eq_iff_iff, List.all_eq_true, List.all_eq_true]
    exact forall₂_congr fun d hd => by rw [htimer d hd]
  rw [hall, Bool.and_comm]

include h

private theorem Pruned.mem_append (hc : (r.session? c).isSome) :
    d ∈ gone ++ gone' ↔ ∃ y ∈ c :: roots, (r.session? y).isSome ∧ r.Downstream y d := by
  rw [List.mem_append]
  constructor
  · rintro (hd | hd)
    · exact ⟨c, List.mem_cons_self, hc, (htorn.mem_gone d).1 hd⟩
    · obtain ⟨y, hy, hylive, hdown⟩ := (hrest.mem_gone d).1 hd
      have hdown' := (htorn.downstream_iff h (hrest.stayed htorn hd).2).1 hdown
      exact ⟨y, List.mem_cons_of_mem c hy, (htorn.isSome_session?_iff.1 hylive).1, hdown'⟩
  · rintro ⟨y, hy, hylive, hdown⟩
    by_cases hd : d ∈ gone
    · exact .inl hd
    · rcases List.mem_cons.1 hy with rfl | hy
      · exact absurd ((htorn.mem_gone d).2 hdown) hd
      · -- if `y` had gone with `c`, so would `d`
        have hyg : y ∉ gone := fun hyg => hd ((htorn.mem_gone d).2 (((htorn.mem_gone y).1 hyg).trans hdown))
        exact .inr ((hrest.mem_gone d).2
          ⟨y, hy, htorn.isSome_session?_iff.2 ⟨hylive, hyg⟩, (htorn.downstream_iff h hd).2 hdown⟩)

/-- Those who go later still have their ids. -/
private theorem Pruned.ids_eq : gone'.filterMap r'.wiring.streamerId = gone'.filterMap r.wiring.streamerId ∧
    gone'.filterMap r'.wiring.playerId = gone'.filterMap r.wiring.playerId := by
  have hwiring := htorn.wiring_eq h
  constructor <;> refine List.filterMap_congr fun d hd => ?_ <;>
    simp [hwiring, Wiring.without, (hrest.stayed htorn hd).2]

/-- Closing one connection, and then others in what is left, comes to closing them all. -/
theorem Pruned.cons (hc : (r.session? c).isSome) : Pruned r (c :: roots) (gone ++ gone') r'' := by
  have hone := htorn.pruned h.toLinked hc
  obtain ⟨hstreamerIds, hplayerIds⟩ := hrest.ids_eq h htorn
  constructor
  · refine List.nodup_append.2 ⟨hone.nodup, hrest.nodup, ?_⟩
    rintro d hd _ hd' rfl
    exact (hrest.stayed htorn hd').2 hd
  · exact fun d => hrest.mem_append h htorn hc
  · intro d
    rw [hrest.session?, hone.session?]
    by_cases hd : d ∈ gone
    · simp [hd]
    · by_cases hd' : d ∈ gone'
      · simp [hd']
      · simp only [hd, hd', List.mem_append, or_self, if_false, Option.map_map]
        cases r.session? d with
        | none => rfl
        | some s => simp only [Option.map_some, Function.comp_apply, spared_spared h htorn hd]
  · rw [hrest.streamers, hone.streamers, hstreamerIds, StreamerDirectory.removeAll_removeAll,
      List.filterMap_append]
  · obtain ⟨lost, hlost, hplayers⟩ := hone.players
    obtain ⟨lost', hlost', hplayers'⟩ := hrest.players
    refine ⟨lost ++ lost', ?_, by rw [hplayers', hplayers, PlayerDirectory.removeAll_removeAll]⟩
    rw [List.filterMap_append, ← hplayerIds]
    exact hlost.append hlost'
  · have hambient := hone.ambient
    simp only [Relay.ambient, Prod.mk.injEq] at hambient
    obtain ⟨hsettings, hclock, -, hnext⟩ := hambient
    rw [hrest.ambient, hsettings, hclock, hnext, hrest.timersWithout_append htorn hone]

end

/-! ### Several connections -/

private theorem pruned_nil (r : Relay) : Pruned r [] [] r where
  nodup := List.nodup_nil
  mem_gone d := by simp
  session? d := by
    have hspared : r.spared [] d = id := by
      funext s
      cases s <;> simp [spared, watchesAny, Session.mapSource]
    simp [hspared]
  streamers := by simp
  players := ⟨[], by simp, by simp⟩
  ambient := by simp [Relay.ambient, timersWithout]

/-- A connection that is not live makes no difference to what `Pruned` says. -/
private theorem Pruned.cons_of_dead (hc : r.session? c = none) (hrest : Pruned r roots gone r') :
    Pruned r (c :: roots) gone r' where
  nodup := hrest.nodup
  mem_gone d := by simp [hrest.mem_gone, hc]
  session? := hrest.session?
  streamers := hrest.streamers
  players := hrest.players
  ambient := hrest.ambient

variable {op : Operation} {order order' : List Operation}

private theorem exists_tornDown_apply (h : r.wiring.Linked) (hop : op.closed? = some c)
    (hc : (r.session? c).isSome) :
    ∃ (gone : List ConnectionId) (first : List Outbound), TornDown r c gone first (r.apply op) := by
  cases op with
  | close d =>
    obtain rfl := Option.some.inj hop
    obtain ⟨gone, htorn⟩ := exists_tornDown_close h hc
    exact ⟨gone, [], htorn⟩
  | terminate d reason =>
    obtain rfl := Option.some.inj hop
    obtain ⟨gone, htorn⟩ := exists_tornDown_terminate h hc reason
    exact ⟨gone, _, htorn⟩
  | _ => cases hop

private theorem apply_of_dead (hop : op.closed? = some c) (hc : r.session? c = none) : r.apply op = r := by
  cases op with
  | close d =>
    obtain rfl := Option.some.inj hop
    exact close_of_not_live hc
  | terminate d reason =>
    obtain rfl := Option.some.inj hop
    exact terminate_of_not_live hc reason
  | _ => cases hop

/-- Closing connections one after the other leaves what `Pruned` says. -/
theorem exists_pruned_run (h : r.wiring.Sound) (horder : ∀ op ∈ order, op.closed?.isSome) :
    ∃ gone, Pruned r (order.filterMap Operation.closed?) gone (r.run order) := by
  induction order generalizing r with
  | nil => exact ⟨[], pruned_nil r⟩
  | cons op order ih =>
    have hrest : ∀ op ∈ order, op.closed?.isSome := fun op hop => horder op (List.mem_cons_of_mem _ hop)
    obtain ⟨c, hc⟩ := Option.isSome_iff_exists.1 (horder op List.mem_cons_self)
    rw [List.filterMap_cons_some hc]
    show ∃ gone, Pruned r _ gone ((r.apply op).run order)
    by_cases hlive : (r.session? c).isSome
    · obtain ⟨gone, first, htorn⟩ := exists_tornDown_apply h.toLinked hc hlive
      obtain ⟨gone', hgone'⟩ := ih (htorn.wiring_eq h ▸ h.without gone) hrest
      exact ⟨gone ++ gone', .cons h htorn hgone' hlive⟩
    · have hdead : r.session? c = none := by simpa using hlive
      rw [apply_of_dead hc hdead]
      obtain ⟨gone, hgone⟩ := ih h hrest
      exact ⟨gone, hgone.cons_of_dead hdead⟩

/-! ### Two orders -/

/-- What is left depends on who was closed only. -/
theorem Pruned.alike (hroots : ∀ c, c ∈ roots ↔ c ∈ roots') (h : Pruned r roots gone r')
    (h' : Pruned r roots' gone' r'') : Alike r' r'' := by
  have hmem : ∀ d, d ∈ gone ↔ d ∈ gone' := fun d => by simp only [h.mem_gone, h'.mem_gone, hroots]
  have hperm : gone.Perm gone' := (List.perm_ext_iff_of_nodup h.nodup h'.nodup).2 hmem
  have hids := hperm.filterMap r.wiring.streamerId
  obtain ⟨lost, hlost, hplayers⟩ := h.players
  obtain ⟨lost', hlost', hplayers'⟩ := h'.players
  have hplayerIds : lost.Perm lost' := hlost.trans ((hperm.filterMap _).trans hlost'.symm)
  have hspared : ∀ d, r.spared gone d = r.spared gone' d := by
    intro d
    have hwatch : r.watchesAny gone d = r.watchesAny gone' d := by
      rw [Bool.eq_iff_iff, watchesAny_iff, watchesAny_iff]
      simp only [hmem]
    funext s
    simp only [spared, hwatch, Source.removeSubscribers, hmem]
  constructor
  · intro d
    simp only [h.session?, h'.session?, hmem, hspared]
  · simp only [h.streamers, h'.streamers, StreamerDirectory.removeAll, hids.mem_iff]
  · simp only [h.streamers, h'.streamers, StreamerDirectory.removeAll]
  · simp only [h.streamers, h'.streamers, StreamerDirectory.removeAll]
  · simp only [h.streamers, h'.streamers, StreamerDirectory.removeAll]
    exact (hids.map _).append_left _
  · simp only [hplayers, hplayers', PlayerDirectory.removeAll, hplayerIds.mem_iff]
  · simp only [hplayers, hplayers', PlayerDirectory.removeAll]
  · simp only [hplayers, hplayers', PlayerDirectory.removeAll]
    exact (hplayerIds.map _).append_left _
  · have htimers : r.timersWithout gone = r.timersWithout gone' := by
      apply List.filter_congr
      intro t _
      rw [Bool.eq_iff_iff, List.all_eq_true, List.all_eq_true]
      simp only [hmem]
    rw [h.ambient, h'.ambient, htimers]

/-- Closes and terminations may come in any order, and each may be either. -/
theorem alike_run (h : r.wiring.Sound) (horder : ∀ op ∈ order, op.closed?.isSome)
    (horder' : ∀ op ∈ order', op.closed?.isSome)
    (hsame : ∀ c, c ∈ order.filterMap Operation.closed? ↔ c ∈ order'.filterMap Operation.closed?) :
    Alike (r.run order) (r.run order') := by
  obtain ⟨gone, hgone⟩ := exists_pruned_run h horder
  obtain ⟨gone', hgone'⟩ := exists_pruned_run h horder'
  exact hgone.alike hsame hgone'

end

/-- Connections that are closed one after the other may come in any order, and so may connections that are
terminated, whatever the reasons are that they are given. -/
theorem alike_closing_in_any_order (settings : Settings) (ops : List Operation)
    (hops : (fresh settings).Allows ops) {order order' : List ConnectionId}
    (hsame : ∀ c, c ∈ order ↔ c ∈ order') :
    let r := (fresh settings).run ops
    Alike (r.run (order.map .close)) (r.run (order'.map .close)) ∧
    ∀ reason reason' : ConnectionId → String,
      Alike (r.run (order.map fun c => .terminate c (reason c)))
        (r.run (order'.map fun c => .terminate c (reason' c))) := by
  intro r
  have h : r.wiring.Sound := sound_run (sound_fresh settings) hops
  -- only the connections of the operations count
  have hclosed : ∀ (f : ConnectionId → Operation) (order : List ConnectionId), (∀ c, (f c).closed? = some c) →
      (∀ op ∈ order.map f, op.closed?.isSome) ∧ (order.map f).filterMap Operation.closed? = order := by
    intro f order hf
    constructor
    · intro op hop
      obtain ⟨c, -, rfl⟩ := List.mem_map.1 hop
      rw [hf]
      rfl
    · rw [List.filterMap_map]
      simp [hf]
  have halike : ∀ f f' : ConnectionId → Operation,
      (∀ c, (f c).closed? = some c) → (∀ c, (f' c).closed? = some c) →
      Alike (r.run (order.map f)) (r.run (order'.map f')) := by
    intro f f' hf hf'
    obtain ⟨horder, hroots⟩ := hclosed f order hf
    obtain ⟨horder', hroots'⟩ := hclosed f' order' hf'
    exact alike_run h horder horder' (by rw [hroots, hroots']; exact hsame)
  exact ⟨halike _ _ (fun _ => rfl) fun _ => rfl, fun _ _ => halike _ _ (fun _ => rfl) fun _ => rfl⟩

/-- Two units that watch each other and a player behind one of them are closed in two orders, once
from each side. -/
theorem alike_closing_in_any_order_circle :
    let ops : List Operation :=
      [.accept ⟨1⟩ .sfu true, .accept ⟨2⟩ .sfu true, .accept ⟨3⟩ .player true, .accept ⟨4⟩ .player true,
        .message ⟨1⟩ (.subscribe "SFU1"), .message ⟨2⟩ (.subscribe "SFU"), .message ⟨3⟩ (.subscribe "SFU1"),
        .message ⟨4⟩ (.subscribe "SFU")]
    let r := (fresh Settings.standard).run ops
    (fresh Settings.standard).Allows ops ∧
    (∀ c, c ∈ [(⟨1⟩ : ConnectionId), ⟨3⟩] ↔ c ∈ [(⟨3⟩ : ConnectionId), ⟨1⟩]) ∧
      Alike (r.run [.close ⟨1⟩, .close ⟨3⟩]) (r.run [.close ⟨3⟩, .close ⟨1⟩]) ∧
      r.session? ⟨2⟩ ≠ none ∧ (r.run [.close ⟨1⟩, .close ⟨3⟩]).session? ⟨2⟩ = none := by
  intro ops r
  have hops : (fresh Settings.standard).Allows ops := by decide +kernel
  have hsame : ∀ c, c ∈ [(⟨1⟩ : ConnectionId), ⟨3⟩] ↔ c ∈ [(⟨3⟩ : ConnectionId), ⟨1⟩] :=
    fun c => (List.Perm.swap _ _ []).mem_iff
  exact ⟨hops, hsame, (alike_closing_in_any_order Settings.standard ops hops hsame).1, by decide +kernel,
    by decide +kernel⟩

end Relay

end SignalRelay
