import SignalRelay.Proofs.Directory.Fallback
import SignalRelay.Proofs.Lists.Folds
import SignalRelay.Proofs.Relay.History
import SignalRelay.Proofs.Relay.Timekeeping

/-!
# Timers

What a run does to the timers.

* `admitted_identifyTimeout` and `identifyTimeout_eq_self`: a streamer without an id is admitted under an
  id of the relay's making when its time is over, and in any other case nothing happens.
* `timekeeping_apply` and `accept_streamer`: only a claim or the end of its time takes the timer from a
  streamer, which has had it since its session was opened.
* `punctual_run`, `named_run`: timers are in order after every run, and who holds an id never loses it.
-/

namespace SignalRelay

namespace Relay

/-- The source that an operation may take the timer from. -/
def claimantOf? (r : Relay) : Operation → Option ConnectionId
  | .identifyTimeout c => some c
  | op => op.inbound?.bind fun (c, m) => r.claimant? c m

/-- A streamer that held no id has been admitted under one of the relay's making, and told so; nothing
else has happened. -/
structure Admitted (r : Relay) (c : ConnectionId) (id : String) (r' : Relay) : Prop where
  free : id ∉ r.streamers.ids
  made : ∃ n, id = r.settings.fallbackStem ++ numeral n ∧ r'.streamers = { r.streamers with
    entries := r.streamers.entries ++ [⟨id, c, true⟩]
    fallbackNumber := n + 1
    published := r.streamers.published ++ [.added id] }
  named : ∃ source, r.session? c = some (.streamer source) ∧ source.streamerId = none ∧
    r'.session? c = some (.streamer { source with streamerId := some id, timer := none })
  others : ∀ d, d ≠ c → r'.session? d = r.session? d
  players : r'.players = r.players
  outbox : ∀ d, r'.outbox d = (r.outbox d).pushAll (only c (.message (.endpointIdConfirm id)) d)
  ambient : r'.ambient = r.ambient

section
variable {loses : ConnectionId → Prop} {r : Relay} {c d : ConnectionId} {source : Source}

/-! ### Claims and timeouts -/

/-- A streamer that is admitted holds an id, and one that is refused is gone. -/
theorem named_register (h : r.wiring.Sound) (c : ConnectionId) (desired : String) :
    Named c (r.register c desired) := by
  intro source hs
  unfold register at hs
  split at hs
  · rename_i id d _
    rw [Relay.source?, session?_send] at hs
    change (adjustSource _ c _).source? c = some source at hs
    rw [source?_adjustSource, if_pos rfl] at hs
    obtain ⟨source', -, rfl⟩ := Option.map_eq_some_iff.1 hs
    rfl
  · rw [Relay.source?, session?_terminate_self h.toLinked] at hs
    cases hs

theorem named_enroll (h : r.wiring.Sound) (c : ConnectionId) : Named c (r.enroll c) :=
  named_register (r := { r with streamers := r.streamers.takeFallbackId.2 }) h c _

theorem named_claimId (h : r.wiring.Sound) (hr : Timed r) (c : ConnectionId) (desired : String) :
    Named c (r.claimId c desired) := by
  cases hs : r.source? c with
  | none =>
    intro source hs'
    simp only [claimId, hs] at hs'
    cases hs'
  | some source =>
    cases hid : source.streamerId with
    | some current =>
      have hnamed : Named c r := by
        intro source' hs'
        rw [hs] at hs'
        rw [← Option.some.inj hs', hid]
        rfl
      exact ((moves_claimId id c desired).timekeeping h hr).named hnamed
    | none =>
      have hmarked : ((r.adjustSource c fun source => { source with identified := true }).stopTimer
          source.timer).source? c = some { source with identified := true } := by
        show (r.adjustSource c fun source => { source with identified := true }).source? c = _
        rw [source?_adjustSource, if_pos rfl, hs]
        rfl
      simp only [claimId, hs, hid]
      refine named_register (sound_withoutTimer ?_ hmarked) c desired
      rw [wiring_stopTimer, wiring_setIdentified]
      exact h

/-- Whoever is waited for holds an id when its time is over. -/
theorem named_identifyTimeout (h : r.wiring.Sound)
    (hwaits : ∀ source, r.source? c = some source → source.streamerId = none → source.timer.isSome) :
    Named c (r.identifyTimeout c) := by
  intro source' hs'
  by_cases htimer : ∃ source, r.source? c = some source ∧ source.timer.isSome
  · obtain ⟨source, hs, htimer⟩ := htimer
    have hsound := sound_withoutTimer h hs
    rw [identifyTimeout_eq_enroll hs htimer] at hs'
    exact named_enroll hsound c source' hs'
  · have hnone : ∀ source, r.source? c = some source → source.timer = none := fun source hs =>
      by_contra fun hne => htimer ⟨source, hs, Option.isSome_iff_ne_none.2 hne⟩
    rw [identifyTimeout_eq_self hnone] at hs'
    exact Option.isSome_iff_ne_none.2 fun hid => htimer ⟨source', hs', hwaits source' hs' hid⟩

/-- The end of its time is nothing to a streamer that holds an id, and nothing to anybody else. -/
theorem identifyTimeout_of_named (h : r.wiring.Sound)
    (hc : ∀ source, r.session? c = some (.streamer source) → source.streamerId ≠ none) :
    r.identifyTimeout c = r := by
  refine identifyTimeout_eq_self fun source hs => by_contra fun htimer => ?_
  obtain ⟨hsession, hnone⟩ := streamer_of_timer h hs (Option.isSome_iff_ne_none.2 htimer)
  exact hc source hsession hnone

/-- A streamer whose time is over is never refused: the id that it gets is free, and stays as it is. -/
theorem admitted_identifyTimeout (h : r.wiring.Sound)
    (hstem : r.streamers.fallbackStem = r.settings.fallbackStem) (hs : r.source? c = some source)
    (htimer : source.timer.isSome) : ∃ id, Admitted r c id (r.identifyTimeout c) := by
  obtain ⟨hsession, hnone⟩ := streamer_of_timer h hs htimer
  obtain ⟨n, htaken, hfree, -⟩ := r.streamers.takeFallbackId_spec
  generalize hid : r.streamers.fallbackStem ++ numeral n = id at htaken hfree
  have hdigit : endsInDigit id = true := hid ▸ endsInDigit_append_numeral _ n
  have hadd :=
    StreamerDirectory.add_of_endsInDigit (d := { r.streamers with fallbackNumber := n + 1 }) hdigit
      hfree c true
  have hregister := identifyTimeout_eq_enroll hs htimer
  simp only [enroll, streamers_adjustSource, htaken, register, hadd] at hregister
  have hsessions : ∀ d, (r.identifyTimeout c).session? d =
      if d = c then some (.streamer { source with streamerId := some id, timer := none })
        else r.session? d := by
    intro d
    rw [hregister, session?_send, session?_adjustSource]
    show (if d = c then ((r.adjustSource c _).session? d).map _ else (r.adjustSource c _).session? d) = _
    rw [session?_adjustSource]
    by_cases hd : d = c
    · simp [hd, hsession, Session.mapSource]
    · simp [hd]
  refine ⟨id, hfree, ⟨n, by rw [← hid, hstem], ?_⟩, ⟨source, hsession, hnone, by rw [hsessions, if_pos rfl]⟩,
    fun d hd => by rw [hsessions, if_neg hd], ?_, fun d => ?_, ?_⟩
  · rw [hregister, streamers_send]
    rfl
  · rw [hregister, players_send]
    rfl
  · have hlive := hsessions c
    rw [hregister, session?_send, if_pos rfl] at hlive
    rw [hregister, outbox_send, hlive]
    unfold only
    by_cases hd : d = c
    · simp only [hd, Option.isSome_some, and_self, if_true]
      rfl
    · simp only [hd, false_and, if_false]
      rfl
  · rw [hregister, ambient_send]
    rfl

/-! ### Operations on the sessions that are there -/

private theorem timekeeping_setOutbox (r : Relay) (c : ConnectionId) (box : Outbox) :
    Timekeeping loses r (r.setOutbox c box) :=
  .of_same (fun _ => rfl) rfl rfl

/-- Only a claimant may lose its timer. -/
theorem timekeeping_apply (h : r.wiring.Sound) (hr : Timed r) {op : Operation} (hop : op.opened? = none) :
    Timekeeping (r.claimantOf? op = some ·) r (r.apply op) := by
  cases op with
  | accept c role offerToReceive => cases hop
  | message c m => exact (moves_handle id c m).timekeeping h hr
  | frame c content =>
    show Timekeeping _ r (r.receive c content).1
    rcases receive_cases r c content with ⟨m, -, hin, heq⟩ | ⟨-, heq | ⟨time, -, heq⟩⟩
    · have hclaimant : r.claimantOf? (.frame c content) = r.claimant? c m := by
        simp only [claimantOf?, hin, Option.bind_some]
      rw [heq, hclaimant]
      exact (timekeeping_setOutbox r c _).trans
        ((moves_handle (r := r.setOutbox c (r.outbox c)) id c m).timekeeping h
          ⟨hr.numbered, hr.nodup, hr.running⟩)
    · exact heq ▸ timekeeping_setOutbox r c _
    · exact heq ▸ timekeeping_setOutbox r c _
  | identifyTimeout c => exact (moves_identifyTimeout id c).timekeeping h hr
  | close c => exact timekeeping_close h hr c
  | terminate c reason =>
    exact timekeeping_terminate h hr c reason
  | abandon c => exact timekeeping_setOutbox r c _

private theorem of_claimant?_eq_some {m : Signal} (hm : r.claimant? d m = some c) :
    d = c ∧ r.role? c = some .streamer ∧ ∃ id, m = .endpointId id := by
  unfold claimant? at hm
  split at hm
  · rename_i id hrole
    obtain rfl := Option.some.inj hm
    exact ⟨rfl, hrole, id, rfl⟩
  · cases hm

private theorem named_handle (h : r.wiring.Sound) (hr : Timed r) {m : Signal}
    (hm : r.claimant? d m = some c) :
    Named c (r.handle d m) := by
  obtain ⟨rfl, hrole, id, rfl⟩ := of_claimant?_eq_some hm
  simp only [handle, hrole, handleStreamer]
  exact named_claimId h hr d id

/-- A claimant holds an id afterwards. -/
theorem named_of_claimant (h : r.wiring.Sound) (hr : Punctual r) {op : Operation}
    (hop : r.claimantOf? op = some c) :
    Named c (r.apply op) := by
  cases op with
  | message d m => exact named_handle h hr.toTimed hop
  | frame d content =>
    show Named c (r.receive d content).1
    obtain ⟨⟨d', m⟩, hin, hm⟩ := Option.bind_eq_some_iff.1 hop
    rcases receive_cases r d content with ⟨m', -, hin', heq⟩ | ⟨hin', -⟩
    · rw [hin] at hin'
      obtain ⟨rfl, rfl⟩ := Prod.mk.inj (Option.some.inj hin')
      rw [heq]
      exact named_handle (r := r.setOutbox d' (r.outbox d')) h ⟨hr.numbered, hr.nodup, hr.running⟩ hm
    · rw [hin] at hin'
      cases hin'
  | identifyTimeout d =>
    obtain rfl : d = c := Option.some.inj hop
    exact named_identifyTimeout h fun source hs => hr.waits hs
  | accept d role offerToReceive => cases hop
  | close d => cases hop
  | terminate d reason => cases hop
  | abandon d => cases hop

/-! ### Sessions that are opened -/

theorem source?_accept (r : Relay) (role : Role) (offerToReceive : Bool) (hd : d ≠ c) :
    (r.accept c role offerToReceive).source? d = r.source? d := by
  rw [source?, source?, session?_accept_of_ne r role offerToReceive hd]

/-- A streamer has its timer from the start. -/
theorem accept_streamer (r : Relay) (c : ConnectionId) (offerToReceive : Bool) :
    (r.accept c .streamer offerToReceive).source? c =
      some { Source.fresh none with timer := some r.nextTimer } ∧
      (r.accept c .streamer offerToReceive).ambient = (r.settings, r.clock,
        r.timers ++ [⟨r.nextTimer, c, r.clock + r.settings.identifyTimeout⟩], r.nextTimer + 1) ∧
      (r.accept c .streamer offerToReceive).streamers = r.streamers := by
  generalize hasked :
    ((r.insertSession c (.streamer (Source.fresh none))).sendSettings c).send c .identify = s
  have hsession : s.session? c = some (.streamer (Source.fresh none)) := by
    rw [← hasked, session?_send, sendSettings, session?_send, session?_insertSession, if_pos rfl]
  have hambient : s.ambient = r.ambient := by
    rw [← hasked, ambient_send, sendSettings, ambient_send]
    rfl
  have hstreamers : s.streamers = r.streamers := by
    rw [← hasked, streamers_send, sendSettings, streamers_send]
    rfl
  have haccept : r.accept c .streamer offerToReceive = s.startTimer c := by
    rw [← hasked]
    rfl
  simp only [ambient, Prod.mk.injEq] at hambient
  obtain ⟨hsettings, hclock, htimers, hnext⟩ := hambient
  rw [haccept]
  refine ⟨?_, ?_, hstreamers⟩
  · show (s.adjustSource c _).source? c = _
    rw [source?_adjustSource, if_pos rfl, source?, hsession, hnext]
    rfl
  · show (s.settings, s.clock, s.timers ++ [⟨s.nextTimer, c, s.clock + s.settings.identifyTimeout⟩],
      s.nextTimer + 1) = _
    rw [hsettings, hclock, htimers, hnext]

/-- Anybody else needs none. -/
theorem accept_of_ne_streamer (hc : r.session? c = none) {role : Role} (hrole : role ≠ .streamer)
    (offerToReceive : Bool) :
    (∀ source, (r.accept c role offerToReceive).source? c = some source →
      source.streamerId.isSome ∧ source.timer = none) ∧
      (r.accept c role offerToReceive).ambient = r.ambient ∧
      (r.accept c role offerToReceive).streamers.fallbackStem = r.streamers.fallbackStem := by
  cases role with
  | streamer => exact absurd rfl hrole
  | player =>
    simp only [accept, openPlayer, sendSettings, ambient_send, streamers_send]
    refine ⟨fun source hs => ?_, rfl, rfl⟩
    rw [source?, session?_send, session?_insertSession, if_pos rfl] at hs
    cases hs
  | sfu =>
    simp only [accept]
    cases hadd : r.streamers.add r.settings.sfuStreamerId c false with
    | error e =>
      simp only [openSfu, hadd]
      refine ⟨fun source hs => ?_, rfl, rfl⟩
      rw [source?, session?_push, hc] at hs
      cases hs
    | ok added =>
      obtain ⟨id, d⟩ := added
      obtain ⟨-, hd⟩ := StreamerDirectory.of_add_eq_ok hadd
      simp only [openSfu, hadd, sendSettings, ambient_send, streamers_send]
      refine ⟨fun source hs => ?_, rfl, by rw [streamers_insertSession, hd]⟩
      rw [source?, session?_send, session?_send, session?_insertSession, if_pos rfl] at hs
      obtain rfl := Option.some.inj hs
      exact ⟨rfl, rfl⟩

/-- The timer of a new streamer is the last one that was started. -/
theorem expects_accept_self (r : Relay) (c : ConnectionId) (offerToReceive : Bool) :
    Expects c (r.clock + r.settings.identifyTimeout) (r.accept c .streamer offerToReceive) := by
  obtain ⟨hsource, hambient, -⟩ := accept_streamer r c offerToReceive
  simp only [ambient, Prod.mk.injEq] at hambient
  intro source n hs hn
  rw [hsource] at hs
  obtain rfl := Option.some.inj hs
  obtain rfl := Option.some.inj hn
  rw [hambient.2.2.1]
  exact List.mem_append_right _ (List.mem_singleton.2 rfl)

/-- No timer stops when a session is opened. -/
theorem timers_accept (hc : r.session? c = none) (role : Role) (offerToReceive : Bool) :
    r.timers ⊆ (r.accept c role offerToReceive).timers := by
  by_cases hrole : role = .streamer
  · subst hrole
    have hambient := (accept_streamer r c offerToReceive).2.1
    simp only [ambient, Prod.mk.injEq] at hambient
    rw [hambient.2.2.1]
    exact List.subset_append_left _ _
  · have hambient := (accept_of_ne_streamer hc hrole offerToReceive).2.1
    simp only [ambient, Prod.mk.injEq] at hambient
    rw [hambient.2.2.1]
    exact List.Subset.refl _

theorem punctual_accept (hr : Punctual r) (hc : r.session? c = none) (role : Role) (offerToReceive : Bool) :
    Punctual (r.accept c role offerToReceive) := by
  by_cases hrole : role = .streamer
  · subst hrole
    obtain ⟨hsource, hambient, hstreamers⟩ := accept_streamer r c offerToReceive
    simp only [ambient, Prod.mk.injEq] at hambient
    obtain ⟨hsettings, -, htimers, hnext⟩ := hambient
    refine ⟨⟨?_, ?_, ?_⟩, by rw [hstreamers, hsettings, hr.stem], ?_⟩
    · intro t ht
      rw [htimers, List.mem_append, List.mem_singleton] at ht
      rw [hnext]
      rcases ht with ht | rfl
      · exact Nat.lt_succ_of_lt (hr.numbered t ht)
      · exact Nat.lt_succ_self _
    · rw [htimers, List.map_append, List.nodup_append]
      refine ⟨hr.nodup, List.nodup_singleton _, ?_⟩
      intro n hn n' hn' he
      obtain ⟨t, ht, rfl⟩ := List.mem_map.1 hn
      have hnew : n' = r.nextTimer := by simpa using hn'
      exact absurd (hr.numbered t ht) (by omega)
    · intro d source n hs hn
      by_cases hd : d = c
      · subst hd
        rw [hsource] at hs
        obtain rfl := Option.some.inj hs
        obtain rfl := Option.some.inj hn
        exact ⟨_, htimers ▸ List.mem_append_right _ (List.mem_singleton.2 rfl), rfl, rfl⟩
      · rw [source?_accept r .streamer offerToReceive hd] at hs
        obtain ⟨t, ht, htn, htd⟩ := hr.running hs hn
        exact ⟨t, htimers ▸ List.mem_append_left _ ht, htn, htd⟩
    · intro d source hs hnone
      by_cases hd : d = c
      · subst hd
        rw [hsource] at hs
        obtain rfl := Option.some.inj hs
        rfl
      · rw [source?_accept r .streamer offerToReceive hd] at hs
        exact hr.waits hs hnone
  · obtain ⟨hnew, hambient, hstem⟩ := accept_of_ne_streamer hc hrole offerToReceive
    simp only [ambient, Prod.mk.injEq] at hambient
    obtain ⟨hsettings, -, htimers, hnext⟩ := hambient
    refine ⟨⟨?_, ?_, ?_⟩, by rw [hstem, hsettings, hr.stem], ?_⟩
    · rw [htimers, hnext]
      exact hr.numbered
    · rw [htimers]
      exact hr.nodup
    · intro d source n hs hn
      by_cases hd : d = c
      · subst hd
        rw [(hnew source hs).2] at hn
        cases hn
      · rw [source?_accept r role offerToReceive hd] at hs
        exact htimers ▸ hr.running hs hn
    · intro d source hs hnone
      by_cases hd : d = c
      · subst hd
        have hsome := (hnew source hs).1
        rw [hnone] at hsome
        cases hsome
      · rw [source?_accept r role offerToReceive hd] at hs
        exact hr.waits hs hnone

/-! ### Runs -/

theorem punctual_fresh (settings : Settings) : Punctual (fresh settings) where
  numbered := by simp [fresh]
  nodup := by simp [fresh]
  running hs := by cases hs
  stem := rfl
  waits hs := by cases hs

theorem punctual_apply (h : r.wiring.Sound) (hr : Punctual r) {op : Operation} (hop : op.Proper r) :
    Punctual (r.apply op) := by
  cases hopened : op.opened? with
  | none =>
    exact (timekeeping_apply h hr.toTimed hopened).punctual hr fun _ hc => named_of_claimant h hr hc
  | some c =>
    cases op with
    | accept d role offerToReceive => exact punctual_accept hr hop role offerToReceive
    | _ => cases hopened

theorem punctual_run {ops : List Operation} (h : r.wiring.Sound) (hr : Punctual r) (hops : r.Allows ops) :
    Punctual (r.run ops) := by
  induction ops generalizing r with
  | nil => exact hr
  | cons op ops ih => exact ih ((outcome_apply h hops.1).sound h) (punctual_apply h hr hops.1) hops.2

/-- Who holds an id goes on holding one, unless it is opened anew. -/
theorem named_apply (h : r.wiring.Sound) (hr : Punctual r) {op : Operation} (hne : op.opened? ≠ some c)
    (hc : Named c r) : Named c (r.apply op) := by
  cases hopened : op.opened? with
  | none => exact (timekeeping_apply h hr.toTimed hopened).named hc
  | some d =>
    cases op with
    | accept d' role offerToReceive =>
      have hd : c ≠ d' := fun he => hne (by rw [he]; rfl)
      intro source hs
      exact hc source (source?_accept r role offerToReceive hd ▸ hs)
    | _ => cases hopened

theorem named_run {ops : List Operation} (h : r.wiring.Sound) (hr : Punctual r) (hops : r.Allows ops)
    (hnew : c ∉ ops.filterMap Operation.opened?) (hc : Named c r) : Named c (r.run ops) := by
  induction ops generalizing r with
  | nil => exact hc
  | cons op ops ih =>
    obtain ⟨hop, hrest⟩ := notMem_filterMap_cons.1 hnew
    exact ih ((outcome_apply h hops.1).sound h) (punctual_apply h hr hops.1) hops.2 hrest
      (named_apply h hr hop hc)

/-- Once its time has been over, or it has claimed an id, a streamer is not waited for any more. -/
theorem identifyTimeout_run_of_claimant {before after : List Operation} {op : Operation} {settings : Settings}
    (hops : ((before ++ op :: after).filterMap Operation.opened?).Nodup)
    (hlive : (((fresh settings).run before).session? c).isSome)
    (hop : ((fresh settings).run before).claimantOf? op = some c) :
    ((fresh settings).run (before ++ op :: after)).identifyTimeout c =
      (fresh settings).run (before ++ op :: after) := by
  have hallows : (fresh settings).Allows (before ++ op :: after) := allows_fresh hops
  obtain ⟨hbefore, hproper, hafter⟩ := allows_append.1 hallows
  have hsound := sound_run (sound_fresh settings) hbefore
  have hpunctual := punctual_run (sound_fresh settings) (punctual_fresh settings) hbefore
  have hnew : c ∉ after.filterMap Operation.opened? :=
    (notMem_filterMap_cons.1 (notMem_opened_of_live hops hlive)).2
  have hnamed : Named c ((fresh settings).run (before ++ op :: after)) := by
    rw [run_append]
    show Named c ((((fresh settings).run before).apply op).run after)
    exact named_run ((outcome_apply hsound hproper).sound hsound)
      (punctual_apply hsound hpunctual hproper) hafter hnew (named_of_claimant hsound hpunctual hop)
  refine identifyTimeout_of_named (sound_run (sound_fresh settings) hallows) fun source hs => ?_
  exact Option.isSome_iff_ne_none.1 (hnamed source (by rw [source?, hs]; rfl))

end

end Relay

end SignalRelay
