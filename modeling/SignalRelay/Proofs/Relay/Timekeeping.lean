import SignalRelay.Proofs.Relay.Dispatches

/-!
# Keeping time

A streamer that holds no id has a timer, and it has one no longer than that.

* `Punctual` says that whoever holds no id has a timer, and that every timer that somebody holds does run.
* `Timekeeping` relates two relays if no source came, and none lost its id or, except for some, its timer.
  What is `Punctual` stays so if those who lost their timers hold an id afterwards.
* `Moves.timekeeping`: everything but the opening of a session keeps time.
-/

namespace SignalRelay

namespace Relay

/-- Every timer that a source holds runs for it, and no number is given out twice. -/
structure Timed (r : Relay) : Prop where
  numbered : ∀ t ∈ r.timers, t.number < r.nextTimer
  nodup : (r.timers.map Timer.number).Nodup
  running : ∀ {c source n}, r.source? c = some source → source.timer = some n →
    ∃ t ∈ r.timers, t.number = n ∧ t.connection = c

/-- The timers are in order, and every source that holds no id has one. -/
structure Punctual (r : Relay) : Prop extends Timed r where
  stem : r.streamers.fallbackStem = r.settings.fallbackStem
  waits : ∀ {c source}, r.source? c = some source → source.streamerId = none → source.timer.isSome

/-- A connection holds an id, if it is a source at all. -/
def Named (c : ConnectionId) (r : Relay) : Prop :=
  ∀ source, r.source? c = some source → source.streamerId.isSome

/-- The timer of a connection, if it has one, goes off at a certain time. -/
def Expects (c : ConnectionId) (deadline : Nat) (r : Relay) : Prop :=
  ∀ source n, r.source? c = some source → source.timer = some n → ⟨n, c, deadline⟩ ∈ r.timers

/-- Between two relays no time has passed, no source came or lost its id, and only sources with the
property `loses` lost their timers. -/
structure Timekeeping (loses : ConnectionId → Prop) (r r' : Relay) : Prop where
  settings : r'.settings = r.settings
  clock : r'.clock = r.clock
  nextTimer : r'.nextTimer = r.nextTimer
  stem : r'.streamers.fallbackStem = r.streamers.fallbackStem
  source : ∀ {c source'}, r'.source? c = some source' → ∃ source, r.source? c = some source ∧
    (source.streamerId.isSome → source'.streamerId.isSome) ∧
    (source'.timer = source.timer ∨ loses c ∧ source'.timer = none)
  timers : r'.timers.Sublist r.timers
  held : ∀ {t c source'}, t ∈ r.timers → r'.source? c = some source' → source'.timer = some t.number →
    t ∈ r'.timers

section
variable {P : Signal → Prop} {owner : Option ConnectionId} {sound : Prop} {loses : ConnectionId → Prop}
variable {r r' r'' : Relay} {c d : ConnectionId} {source : Source} {deadline : Nat}

/-! ### What order gives -/

/-- A timer is held by one source only. -/
theorem Timed.inj (h : Timed r) {source' : Source} {n : Nat} (hc : r.source? c = some source)
    (hn : source.timer = some n) (hd : r.source? d = some source') (hn' : source'.timer = some n) :
    c = d := by
  obtain ⟨t, ht, htn, rfl⟩ := h.running hc hn
  obtain ⟨t', ht', htn', rfl⟩ := h.running hd hn'
  rw [List.inj_on_of_nodup_map h.nodup ht ht' (htn.trans htn'.symm)]

/-- Whoever has a timer is a streamer without an id. -/
theorem streamer_of_timer (h : r.wiring.Sound) (hs : r.source? c = some source)
    (htimer : source.timer.isSome) :
    r.session? c = some (.streamer source) ∧ source.streamerId = none := by
  have hwait : r.wiring.waiting c = true := by simpa [wiring, hs] using htimer
  have hnone := h.streamerId_of_waiting hwait
  have hunit := fun hunit : r.wiring.unit c = true => h.streamerId_of_unit hunit hnone
  rw [streamerId_eq hs] at hnone
  obtain ⟨s, hsession, hsource⟩ := Option.bind_eq_some_iff.1 hs
  cases s with
  | streamer source' => exact ⟨by rw [hsession, Option.some.inj hsource], hnone⟩
  | player viewer => cases hsource
  | sfu source' viewer => exact absurd (by simp [wiring, isSfu, hsession, Session.isSfu, Session.role]) hunit

theorem Punctual.isSome_timer_iff (hp : Punctual r) (h : r.wiring.Sound) (hs : r.source? c = some source) :
    source.timer.isSome ↔ source.streamerId = none :=
  ⟨fun htimer => (streamer_of_timer h hs htimer).2, hp.waits hs⟩

/-! ### Composition -/

theorem Timekeeping.of_same (hsource : ∀ c, r'.source? c = r.source? c) (hambient : r'.ambient = r.ambient)
    (hstem : r'.streamers.fallbackStem = r.streamers.fallbackStem) : Timekeeping loses r r' := by
  simp only [ambient, Prod.mk.injEq] at hambient
  obtain ⟨hsettings, hclock, htimers, hnext⟩ := hambient
  exact {
    settings := hsettings
    clock := hclock
    nextTimer := hnext
    stem := hstem
    source := fun {c source'} hs => ⟨source', hsource c ▸ hs, id, .inl rfl⟩
    timers := htimers ▸ List.Sublist.refl _
    held := fun ht _ _ => htimers ▸ ht }

theorem Timekeeping.refl (r : Relay) : Timekeeping loses r r := .of_same (fun _ => rfl) rfl rfl

theorem Timekeeping.trans (h : Timekeeping loses r r') (h' : Timekeeping loses r' r'') :
    Timekeeping loses r r'' where
  settings := h'.settings.trans h.settings
  clock := h'.clock.trans h.clock
  nextTimer := h'.nextTimer.trans h.nextTimer
  stem := h'.stem.trans h.stem
  source := by
    intro c source'' hs''
    obtain ⟨source', hs', hid', htimer'⟩ := h'.source hs''
    obtain ⟨source, hs, hid, htimer⟩ := h.source hs'
    refine ⟨source, hs, hid' ∘ hid, ?_⟩
    rcases htimer' with htimer' | hlost
    · rw [htimer']
      exact htimer
    · exact .inr hlost
  timers := h'.timers.trans h.timers
  held := by
    intro t c source'' ht hs'' hheld
    refine h'.held ?_ hs'' hheld
    -- who holds a timer in the end held it all the time
    obtain ⟨source', hs', -, htimer' | ⟨-, hnone⟩⟩ := h'.source hs''
    · exact h.held ht hs' (htimer' ▸ hheld)
    · rw [hnone] at hheld
      cases hheld

theorem Timekeeping.mono {loses' : ConnectionId → Prop} (h : Timekeeping loses r r')
    (hle : ∀ c, loses c → loses' c) :
    Timekeeping loses' r r' :=
  { h with
    source := fun hs => by
      obtain ⟨source, hs, hid, htimer⟩ := h.source hs
      exact ⟨source, hs, hid, htimer.imp_right (.imp_left (hle _))⟩ }

theorem Timekeeping.timed (h : Timekeeping loses r r') (hr : Timed r) : Timed r' where
  numbered t ht := h.nextTimer ▸ hr.numbered t (h.timers.subset ht)
  nodup := hr.nodup.sublist (h.timers.map _)
  running := by
    intro c source' n hs' hn
    obtain ⟨source, hs, -, htimer | ⟨-, hnone⟩⟩ := h.source hs'
    · obtain ⟨t, ht, rfl, htc⟩ := hr.running hs (htimer ▸ hn)
      exact ⟨t, h.held ht hs' hn, rfl, htc⟩
    · rw [hnone] at hn
      cases hn

/-- Who may lose its timer has to hold an id afterwards. -/
theorem Timekeeping.punctual (h : Timekeeping loses r r') (hr : Punctual r)
    (hloses : ∀ c, loses c → Named c r') :
    Punctual r' where
  toTimed := h.timed hr.toTimed
  stem := by rw [h.stem, h.settings, hr.stem]
  waits := by
    intro c source' hs' hnone
    obtain ⟨source, hs, hid, htimer | ⟨hc, -⟩⟩ := h.source hs'
    · have hnone' : source.streamerId = none := by
        by_contra hsome
        have hsome' := hid (Option.isSome_iff_ne_none.2 hsome)
        rw [hnone] at hsome'
        cases hsome'
      exact htimer ▸ hr.waits hs hnone'
    · have hsome := hloses c hc source' hs'
      rw [hnone] at hsome
      cases hsome

theorem Timekeeping.named (h : Timekeeping loses r r') (hc : Named c r) : Named c r' := by
  intro source' hs'
  obtain ⟨source, hs, hid, -⟩ := h.source hs'
  exact hid (hc source hs)

theorem Timekeeping.expects (h : Timekeeping loses r r') (hc : Expects c deadline r) :
    Expects c deadline r' := by
  intro source' n hs' hn
  obtain ⟨source, hs, -, htimer | ⟨-, hnone⟩⟩ := h.source hs'
  · exact h.held (hc source n hs (htimer ▸ hn)) hs' hn
  · rw [hnone] at hn
    cases hn

/-! ### Moves -/

theorem timekeeping_adjustSource (r : Relay) (c : ConnectionId) {f : Source → Source} (hf : Source.Kept f) :
    Timekeeping loses r (r.adjustSource c f) :=
  { (Timekeeping.refl r : Timekeeping loses r r) with
    source := by
      intro d source' hs
      rw [source?_adjustSource] at hs
      split at hs
      · obtain ⟨source, hd, rfl⟩ := Option.map_eq_some_iff.1 hs
        exact ⟨source, hd, (hf source).2, .inl (hf source).1⟩
      · exact ⟨source', hs, id, .inl rfl⟩
    held := fun ht _ _ => ht }

/-- The timer of a source is taken from it. -/
private theorem timekeeping_withoutTimer (r : Relay) (hc : loses c) :
    Timekeeping loses r (r.adjustSource c fun source => { source with timer := none }) :=
  { (Timekeeping.refl r : Timekeeping loses r r) with
    source := by
      intro d source' hs
      rw [source?_adjustSource] at hs
      split at hs
      · rename_i hd
        obtain ⟨source, hsource, rfl⟩ := Option.map_eq_some_iff.1 hs
        exact ⟨source, hsource, id, .inr ⟨hd ▸ hc, rfl⟩⟩
      · exact ⟨source', hs, id, .inl rfl⟩
    held := fun ht _ _ => ht }

/-- A timer that nobody holds any more can be stopped. -/
theorem timekeeping_stopTimer {timer : Option Nat}
    (hfree : ∀ {c source}, r.source? c = some source → source.timer ≠ none → source.timer ≠ timer) :
    Timekeeping loses r (r.stopTimer timer) :=
  { (Timekeeping.refl r : Timekeeping loses r r) with
    timers := List.filter_sublist
    held := by
      intro t c source ht hs hheld
      refine List.mem_filter.2 ⟨ht, ?_⟩
      have hne := hfree hs (by rw [hheld]; exact Option.some_ne_none _)
      rw [hheld] at hne
      simpa using hne }

/-- The two halves of a timer go together. -/
private theorem timekeeping_cancelled (hr : Timed r) (hc : loses c) (hs : r.source? c = some source) :
    Timekeeping loses r ((r.stopTimer source.timer).adjustSource c fun source =>
      { source with timer := none }) := by
  have htaken := timekeeping_withoutTimer (c := c) r hc
  refine htaken.trans
    (timekeeping_stopTimer (r := r.adjustSource c fun source => { source with timer := none }) ?_)
  intro d source' hs' hsome hsame
  rw [source?_adjustSource] at hs'
  split at hs'
  · obtain ⟨s, -, rfl⟩ := Option.map_eq_some_iff.1 hs'
    exact hsome rfl
  · rename_i hd
    obtain ⟨n, hn⟩ := Option.ne_none_iff_exists'.1 hsome
    exact hd (hr.inj hs' hn hs (hsame ▸ hn))

theorem TornDown.timekeeping {gone : List ConnectionId} {first : List Outbound}
    (htorn : TornDown r c gone first r') (hr : Timed r) : Timekeeping loses r r' := by
  have hambient := htorn.ambient
  simp only [Relay.ambient, stopTimer, Prod.mk.injEq] at hambient
  obtain ⟨hsettings, hclock, htimers, hnext⟩ := hambient
  have hsource : ∀ {d source'}, r'.source? d = some source' → d ∉ gone ∧ ∃ source, r.source? d = some source ∧
      source'.streamerId = source.streamerId ∧ source'.timer = source.timer := by
    intro d source' hs'
    rw [htorn.source?] at hs'
    split at hs'
    · cases hs'
    · rename_i hd
      refine ⟨hd, ?_⟩
      split at hs'
      · obtain ⟨source, hs, rfl⟩ := Option.map_eq_some_iff.1 hs'
        exact ⟨source, hs, rfl, rfl⟩
      · exact ⟨source', hs', rfl, rfl⟩
  refine ⟨hsettings, hclock, hnext, by rw [htorn.streamers]; rfl, ?_, htimers ▸ List.filter_sublist, ?_⟩
  · intro d source' hs'
    obtain ⟨-, source, hs, hid, htimer⟩ := hsource hs'
    exact ⟨source, hs, fun hsome => hid ▸ hsome, .inl htimer⟩
  · intro t d source' ht hs' hheld
    obtain ⟨hd, source, hs, -, htimer⟩ := hsource hs'
    rw [htimers]
    refine List.mem_filter.2 ⟨ht, decide_eq_true fun hown => hd ?_⟩
    -- the timer that stops is one that the closed connection held
    unfold ownTimer at hown
    split at hown
    · rename_i own hsession
      have hc : r.source? c = some own := source?_of_session? hsession
      rw [hr.inj hs (htimer ▸ hheld) hc hown.symm]
      exact (htorn.mem_gone c).2 .self
    · cases hown

theorem timekeeping_close (h : r.wiring.Sound) (hr : Timed r) (c : ConnectionId) :
    Timekeeping loses r (r.close c) := by
  rcases close_cases h.toLinked c with ⟨-, heq⟩ | ⟨-, gone, htorn⟩
  · rw [heq]
    exact .refl r
  · exact htorn.timekeeping hr

theorem timekeeping_terminate (h : r.wiring.Sound) (hr : Timed r) (c : ConnectionId) (reason : String) :
    Timekeeping loses r (r.terminate c reason) := by
  rcases terminate_cases h.toLinked c reason with ⟨-, heq⟩ | ⟨-, gone, htorn⟩
  · rw [heq]
    exact .refl r
  · exact htorn.timekeeping hr

theorem Move.timekeeping (h : Move P owner sound r r') (hsound : sound) (hr : Timed r) :
    Timekeeping (owner = some ·) r r' := by
  cases h with
  | send hm c =>
    refine .of_same (fun d => ?_) (ambient_send r c _) (by rw [streamers_send])
    rw [Relay.source?, session?_send, Relay.source?]
  | source c hf => exact timekeeping_adjustSource r c hf
  | viewer c id => exact .of_same (fun d => source?_setSubscribed r c d id) (ambient_setSubscribed r c id) rfl
  | listed hd => exact .of_same (fun _ => rfl) rfl hd
  | cancelled howner hs => exact timekeeping_cancelled hr howner hs
  | expired howner => exact timekeeping_withoutTimer r howner
  | terminated h c reason => exact timekeeping_terminate (h hsound) hr c reason

theorem Moves.timekeeping (h : Moves P owner sound r r') (hsound : sound) (hr : Timed r) :
    Timekeeping (owner = some ·) r r' := by
  induction h with
  | refl => exact .refl r
  | tail _ hmove ih => exact ih.trans (hmove.timekeeping hsound (ih.timed hr))

end

end Relay

end SignalRelay
