import SignalRelay.Proofs.Relay.Changes

/-!
# What happens apart from relaying

`Upkeep` says what all changes have in common, as far as relaying to sources goes: the wiring stays
sound, what is queued is quiet, and nobody is new.  It composes, so it is shown for one change and
follows for several.
-/

namespace SignalRelay

namespace Relay

/-- Nothing is relayed to a source and no session is opened. -/
structure Upkeep (mover : Option ConnectionId) (r r' : Relay) : Prop extends Quiet r r' where
  changes : Changes mover r r'
  sound : r'.wiring.Sound
  playerId : ∀ {c id}, r'.wiring.playerId c = some id → r.wiring.playerId c = some id
  nextNumber : r'.wiring.nextNumber = r.wiring.nextNumber

section
variable {r r' r'' : Relay} {c : ConnectionId} {mover : Option ConnectionId}

theorem Upkeep.live (h : Upkeep mover r r') (hc : r.session? c = none) : r'.session? c = none :=
  h.changes.live hc

/-! ### Queues -/

theorem watchers_congr (hlists : r'.wiring.subscribers = r.wiring.subscribers)
    (hids : r'.wiring.playerId = r.wiring.playerId) (u : ConnectionId) : r'.watchers u = r.watchers u := by
  rw [watchers, watchers, hlists, hids]

/-- Idle frames are quiet if the lists of viewers are what they were. -/
private theorem quiet_of_idle {frames : ConnectionId → List Outbound} (h : Sends r frames r')
    (hidle : ∀ u, ∀ f ∈ frames u, f.idle = true) (hwatchers : ∀ u, r'.watchers u = r.watchers u) :
    Quiet r r' where
  queue u := ⟨frames u, h.outbox u, fun f hf => Outbound.relayed_of_idle (hidle u f hf), fun _ => by
    rw [Outbound.foldlM_tally?_of_idle (hidle u), hwatchers]⟩

/-- Who leaves a list takes its player id off it, and no other. -/
private theorem filterMap_filter_ne {w : Wiring} (h : w.Linked) {id : String} (hc : w.playerId c = some id)
    (l : List ConnectionId) :
    (l.filter (· ≠ c)).filterMap w.playerId = (l.filterMap w.playerId).filter (· ≠ id) := by
  induction l with
  | nil => rfl
  | cons d l ih =>
    by_cases hd : d = c
    · subst hd
      simpa [hc] using ih
    · cases hid : w.playerId d with
      | none => simpa [hd, hid] using ih
      | some id' =>
        have hne : id' ≠ id := fun he => hd (h.playerId_inj (he ▸ hid) hc)
        simpa [hd, hid, hne] using ih

/-- When `c` leaves the list of its source, the source is told just that. -/
private theorem tally?_departure (h : r.wiring.Linked) (u : ConnectionId) :
    (if r.watched? c = some u then (r.wiring.playerId c).toList.map fun id =>
      .message (.playerDisconnected id)
      else []).foldlM Outbound.tally? (r.watchers u) =
      some (((r.wiring.subscribers u).filter (· ≠ c)).filterMap r.wiring.playerId) := by
  by_cases hwatch : r.watched? c = some u
  · obtain ⟨id', hsub, -⟩ := (watched?_eq_some_iff h).1 hwatch
    obtain ⟨viewer, hv, -⟩ := exists_viewer_of_subscription hsub
    have hmem : viewer.playerId ∈ r.watchers u :=
      List.mem_filterMap.2 ⟨c, (watched?_eq_some_iff_mem h).1 hwatch, playerId_eq hv⟩
    rw [if_pos hwatch, filterMap_filter_ne h (playerId_eq hv), playerId_eq hv]
    show Outbound.tally? (r.watchers u) (.message (.playerDisconnected viewer.playerId)) >>= _ = _
    rw [Outbound.tally?, if_pos hmem]
    rfl
  · have hself : (r.wiring.subscribers u).filter (· ≠ c) = r.wiring.subscribers u := by
      rw [List.filter_eq_self]
      intro d hd
      have : d ≠ c := fun he => hwatch (he ▸ (watched?_eq_some_iff_mem h).2 hd)
      simpa using this
    rw [if_neg hwatch, hself]
    rfl

private theorem quiet_of_release (h : r.wiring.Linked)
    (hsends : Sends r (fun u => if r.watched? c = some u then
      (r.wiring.playerId c).toList.map fun id => .message (.playerDisconnected id) else []) r')
    (hwiring : r'.wiring = r.wiring.release c) : Quiet r r' where
  queue u := by
    refine ⟨_, hsends.outbox u, fun f hf => ?_, fun _ => ?_⟩
    · split at hf
      · obtain ⟨id, -, rfl⟩ := List.mem_map.1 hf
        rfl
      · cases hf
    · rw [tally?_departure h, watchers, hwiring]
      rfl

/-- A source that gets a viewer on its list and is told so knows its viewers. -/
private theorem quiet_of_attach (h : r.wiring.Linked) {v : ConnectionId} {id playerId : String}
    {dataChannel sfu sendOffer : Bool}
    (hsends : Sends r (only v (.message (.playerConnected playerId dataChannel sfu sendOffer))) r')
    (hplayerId : r.wiring.playerId c = some playerId) (hfree : r.wiring.subscription c = none)
    (hwiring : r'.wiring = r.wiring.attach c v id) : Quiet r r' where
  queue u := by
    refine ⟨_, hsends.outbox u, fun f hf => ?_, fun _ => ?_⟩
    · rw [(mem_only hf).2]
      rfl
    · have hlists : r'.watchers u = ((r.wiring.attach c v id).subscribers u).filterMap r.wiring.playerId := by
        rw [watchers, hwiring]
        rfl
      rw [hlists]
      by_cases hu : u = v
      · -- its player id is nobody else's, so it was not there before
        have hnew : playerId ∉ r.watchers u := by
          intro hmem
          obtain ⟨d, hd, hid⟩ := List.mem_filterMap.1 hmem
          exact h.notMem_subscribers_of_subscription hfree u (h.playerId_inj hid hplayerId ▸ hd)
        simp only [only, hu, if_true, List.foldlM_cons, List.foldlM_nil, Outbound.tally?, hu ▸ hnew, if_false]
        simp [Wiring.attach, hplayerId, watchers]
      · simp [Wiring.attach, only, hu, watchers]

/-! ### Teardowns -/

/-- Only live connections go. -/
theorem TornDown.isSome_of_mem {gone : List ConnectionId} {first : List Outbound}
    (htorn : TornDown r c gone first r') (hc : (r.session? c).isSome) {u : ConnectionId} (hu : u ∈ gone) :
    (r.session? u).isSome :=
  ((htorn.mem_gone u).1 hu).live hc

private theorem TornDown.quiet {gone : List ConnectionId} {first : List Outbound} (h : r.wiring.Sound)
    (htorn : TornDown r c gone first r') (hc : (r.session? c).isSome)
    (hfirst : ∀ f ∈ first, ∃ reason, f = .close reason) : Quiet r r' where
  queue u := by
    refine ⟨_, htorn.outbox u, fun f hf => ?_, fun hlive => ?_⟩
    · rcases cases_of_mem_tornDown hfirst hf with ⟨reason, rfl⟩ | ⟨id, rfl⟩ | rfl <;> rfl
    · -- a source that has not gone now has a list without those who have
      have hu : u ∉ gone := by
        intro hmem
        have hgone := hlive (htorn.isSome_of_mem hc hmem)
        rw [htorn.session?, if_pos hmem] at hgone
        cases hgone
      have huc : u ≠ c := fun he => hu (he ▸ (htorn.mem_gone c).2 .self)
      have hlists :
          r'.watchers u = ((r.wiring.subscribers u).filter (· ≠ c)).filterMap r.wiring.playerId := by
        rw [watchers, htorn.wiring_eq h, ← htorn.filter_gone h.toLinked hu]
        simp only [Wiring.without, if_neg hu]
        apply List.filterMap_congr
        intro d hd
        rw [if_neg (by simpa using (List.mem_filter.1 hd).2)]
      rw [if_neg huc, List.nil_append, notices, List.foldlM_append, hlists]
      rw [show (r.playerIdOf? c) = r.wiring.playerId c from rfl, tally?_departure h.toLinked,
        if_neg huc, if_neg hu]
      by_cases hany : r.watchesAny gone u = true
      · rw [if_pos hany]
        rfl
      · rw [if_neg hany]
        rfl

/-! ### All changes -/

/-- A change relays nothing to a source, and tells every source how its viewers have changed. -/
theorem Change.quiet (h : Change mover r r') (hr : r.wiring.Sound) : Quiet r r' := by
  cases h with
  | plain hsends hplain hwiring =>
    exact quiet_of_idle hsends (fun u f hf => Outbound.idle_of_plain (hplain u f hf))
      (watchers_congr (by rw [hwiring]) (by rw [hwiring]))
  | preference hsends _ hwiring =>
    refine quiet_of_idle hsends (fun u f hf => ?_) (watchers_congr (by rw [hwiring]) (by rw [hwiring]))
    rw [(mem_only hf).2]
    rfl
  | waiting hsends _ hwiring =>
    refine quiet_of_idle hsends (fun u f hf => ?_)
      (watchers_congr (by rw [hwiring]; rfl) (by rw [hwiring]; rfl))
    cases hf
  | release _ hsends hwiring => exact quiet_of_release hr.toLinked hsends hwiring
  | attach _ hsends hplayerId hfree _ _ hwiring =>
    exact quiet_of_attach hr.toLinked hsends hplayerId hfree hwiring
  | tornDown _ hc hfirst htorn => exact htorn.quiet hr hc hfirst
  | register hsends _ _ _ _ hwiring =>
    refine quiet_of_idle hsends (fun u f hf => ?_)
      (watchers_congr (by rw [hwiring]; rfl) (by rw [hwiring]; rfl))
    rw [(mem_only hf).2]
    rfl
  | rename hsends _ _ hwiring =>
    refine quiet_of_idle hsends (fun u f hf => ?_)
      (watchers_congr (by rw [hwiring]; rfl) (by rw [hwiring]; rfl))
    rcases List.mem_append.1 hf with hf | hf
    · split at hf
      · rw [List.mem_singleton.1 hf]
        rfl
      · cases hf
    · rw [(mem_only hf).2]
      rfl

/-- Nobody gets a player id, and no number is given out. -/
theorem Change.players (h : Change mover r r') (hr : r.wiring.Sound) :
    (∀ {d id}, r'.wiring.playerId d = some id → r.wiring.playerId d = some id) ∧
      r'.wiring.nextNumber = r.wiring.nextNumber := by
  cases h with
  | tornDown _ _ _ htorn =>
    rw [htorn.wiring_eq hr]
    refine ⟨fun {d id} hid => ?_, rfl⟩
    simp only [Wiring.without] at hid
    split at hid
    · cases hid
    · exact hid
  | plain _ _ hwiring => exact hwiring ▸ ⟨id, rfl⟩
  | preference _ _ hwiring => exact hwiring ▸ ⟨id, rfl⟩
  | waiting _ _ hwiring => exact hwiring ▸ ⟨id, rfl⟩
  | release _ _ hwiring => exact hwiring ▸ ⟨id, rfl⟩
  | attach _ _ _ _ _ _ hwiring => exact hwiring ▸ ⟨id, rfl⟩
  | register _ _ _ _ _ hwiring => exact hwiring ▸ ⟨id, rfl⟩
  | rename _ _ _ hwiring => exact hwiring ▸ ⟨id, rfl⟩

theorem Upkeep.refl (h : r.wiring.Sound) : Upkeep mover r r where
  queue _ := ⟨[], rfl, by simp, fun _ => rfl⟩
  changes := .refl
  sound := h
  playerId := id
  nextNumber := rfl

theorem Change.upkeep (h : Change mover r r') (hr : r.wiring.Sound) : Upkeep mover r r' where
  toQuiet := h.quiet hr
  changes := .single h
  sound := h.sound hr
  playerId := (h.players hr).1
  nextNumber := (h.players hr).2

theorem Upkeep.trans (h : Upkeep mover r r') (h' : Upkeep mover r' r'') : Upkeep mover r r'' where
  queue u := by
    obtain ⟨frames, hbox, hframes, htally⟩ := h.queue u
    obtain ⟨frames', hbox', hframes', htally'⟩ := h'.queue u
    refine ⟨frames ++ frames', by rw [hbox', hbox, Outbox.pushAll_pushAll], fun f hf => ?_, fun hlive => ?_⟩
    · exact (List.mem_append.1 hf).elim (hframes f) (hframes' f)
    · rw [List.foldlM_append, htally fun hu => h'.changes.isSome_of_isSome (hlive hu)]
      exact htally' fun hu => hlive (h.changes.isSome_of_isSome hu)
  changes := h.changes.trans h'.changes
  sound := h'.sound
  playerId hid := h.playerId (h'.playerId hid)
  nextNumber := h'.nextNumber.trans h.nextNumber

theorem Changes.upkeep (h : Changes mover r r') (hr : r.wiring.Sound) : Upkeep mover r r' := by
  induction h with
  | refl => exact .refl hr
  | tail _ hchange ih => exact ih.trans (hchange.upkeep ih.sound)

end

end Relay

end SignalRelay
