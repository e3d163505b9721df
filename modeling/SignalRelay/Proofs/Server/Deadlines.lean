import SignalRelay.Proofs.Relay.Timers
import SignalRelay.Proofs.Server.Runs

/-!
# Deadlines

A server lets the timers go off that are due, one after the other, and when it is done none is left that
is due.  Since a streamer without an id has a timer, and the timer has its deadline from when the session
was opened, a streamer that has been there for long enough holds an id.

* `timekeeping_fire`: a timer that goes off takes no other with it.
* `fireDue_spec`: nothing is due afterwards.
* `OnTime` is what every request keeps, and `expects_serve` says that deadlines are not moved.
-/

namespace SignalRelay

namespace Relay

/-- Everything is in order, and no timer is due. -/
structure OnTime (r : Relay) : Prop where
  sound : r.wiring.Sound
  punctual : Punctual r
  ahead : ∀ t ∈ r.timers, r.clock < t.deadline

/-- Streamers that hold no id are waited for, and nobody else is. -/
structure Awaits (r : Relay) : Prop where
  timer_iff : ∀ {c source}, r.session? c = some (.streamer source) →
    (source.timer.isSome ↔ source.streamerId = none)
  registered_iff : ∀ {c source}, r.session? c = some (.streamer source) →
    (source.streamerId = none ↔ ∀ e ∈ r.streamers.entries, e.connection ≠ c)
  running : ∀ {c source n}, r.session? c = some (.streamer source) → source.timer = some n →
    ∃ t ∈ r.timers, t.number = n ∧ t.connection = c
  /-- A timeout that is late, or for anybody else, does nothing. -/
  ignored : ∀ {c}, (∀ source, r.session? c = some (.streamer source) → source.streamerId ≠ none) →
    r.identifyTimeout c = r
  admitted : ∀ {c source}, r.session? c = some (.streamer source) → source.streamerId = none →
    ∃ id, Admitted r c id (r.identifyTimeout c)

section
variable {r r' : Relay} {c : ConnectionId} {t : Timer} {deadline : Nat}

/-! ### Timers that go off -/

/-- A timer that goes off is taken from the one source that may hold it, and does not run any more. -/
theorem timekeeping_fire (h : r.wiring.Sound) (hr : Timed r)
    (hown : ∀ {c source}, r.source? c = some source → source.timer = some t.number → c = t.connection) :
    Timekeeping (t.connection = ·) r (r.fire t) ∧ t ∉ (r.fire t).timers := by
  have hstopped : t ∉ (r.stopTimer (some t.number)).timers := by simp [stopTimer]
  have hmono : ∀ {s s' : Relay}, Timekeeping (some t.connection = some ·) s s' →
      Timekeeping (t.connection = ·) s s' :=
    fun hkeep => hkeep.mono fun _ => Option.some.inj
  by_cases hheld : ∃ source, r.source? t.connection = some source ∧ source.timer = some t.number
  · obtain ⟨source, hs, htimer⟩ := hheld
    have hcancelled : Move (·.isNotice = true) (some t.connection) True r _ := .cancelled rfl hs
    have hfirst := hcancelled.timekeeping trivial hr
    have hsound := sound_withoutTimer (r := r.stopTimer source.timer) h hs
    have hmoves : Moves (·.isNotice = true) (some t.connection) True _ _ :=
      moves_enroll (fun _ => hsound) t.connection
    have hrest := hmoves.timekeeping trivial (hfirst.timed hr)
    have hfire := identifyTimeout_eq_enroll (r := r.stopTimer (some t.number)) hs (by rw [htimer]; rfl)
    rw [htimer] at hfirst hrest
    rw [fire, hfire]
    exact ⟨hmono (hfirst.trans hrest), fun ht => hstopped (hrest.timers.subset ht)⟩
  · -- nobody waits for it, so it is as if it had not been there
    have hstop : Timekeeping (t.connection = ·) r (r.stopTimer (some t.number)) :=
      timekeeping_stopTimer fun hs _ htimer => hheld ⟨_, hown hs htimer ▸ hs, htimer⟩
    have hmoves := moves_identifyTimeout (r := r.stopTimer (some t.number)) id t.connection
    have hrest := hmoves.timekeeping h (hstop.timed hr)
    exact ⟨hstop.trans (hmono hrest), fun ht => hstopped (hrest.timers.subset ht)⟩

private theorem named_fire (h : r.wiring.Sound) (hr : Punctual r) : Named t.connection (r.fire t) :=
  named_identifyTimeout (r := r.stopTimer (some t.number)) h fun _ hs => hr.waits hs

/-- Timers of an earlier relay go off one after the other, whatever has become of them in the meantime. -/
private theorem foldl_fire_spec {r₀ : Relay} (h₀ : Timed r₀) {due : List Timer}
    (hdue : ∀ t ∈ due, t ∈ r₀.timers) (h : r.wiring.Sound) (hr : Punctual r) (hsub : r.timers ⊆ r₀.timers) :
    Punctual (due.foldl fire r) ∧ Timekeeping (fun _ => True) r (due.foldl fire r) ∧
      ∀ t ∈ due, t ∉ (due.foldl fire r).timers := by
  induction due generalizing r with
  | nil => exact ⟨hr, .refl r, by simp⟩
  | cons t due ih =>
    -- who holds the number of `t` is the one for whom `t` was started
    have hown : ∀ {c source}, r.source? c = some source → source.timer = some t.number →
        c = t.connection := by
      intro c source hs htimer
      obtain ⟨t', ht', hnumber, rfl⟩ := hr.running hs htimer
      rw [List.inj_on_of_nodup_map h₀.nodup (hsub ht') (hdue t List.mem_cons_self) hnumber]
    obtain ⟨hkeep, hgone⟩ := timekeeping_fire h hr.toTimed hown
    have hpunctual : Punctual (r.fire t) := hkeep.punctual hr fun c hc => hc ▸ named_fire h hr
    obtain ⟨hr', hkeep', hgone'⟩ :=
      ih (fun t' ht' => hdue t' (List.mem_cons_of_mem t ht')) (sound_fire h t) hpunctual fun t' ht' =>
        hsub (hkeep.timers.subset ht')
    refine ⟨hr', (hkeep.mono fun _ _ => trivial).trans hkeep', fun t' ht' => ?_⟩
    rcases List.mem_cons.1 ht' with rfl | ht'
    · exact fun hmem => hgone (hkeep'.timers.subset hmem)
    · exact hgone' t' ht'

/-- When all timers have gone off that are due, none is due. -/
theorem fireDue_spec (h : r.wiring.Sound) (hr : Punctual r) :
    OnTime r.fireDue ∧ Timekeeping (fun _ => True) r r.fireDue := by
  have hdue : ∀ t ∈ r.dueTimers, t ∈ r.timers := fun t ht =>
    List.mem_of_mem_filter (List.mem_mergeSort.1 ht)
  obtain ⟨hr', hkeep, hgone⟩ := foldl_fire_spec hr.toTimed hdue h hr (List.Subset.refl _)
  refine ⟨⟨sound_fireDue h, hr', fun t ht => ?_⟩, hkeep⟩
  by_contra hlate
  refine hgone t (List.mem_mergeSort.2 (List.mem_filter.2 ⟨hkeep.timers.subset ht, decide_eq_true ?_⟩)) ht
  have hclock : r.fireDue.clock = r.clock := hkeep.clock
  omega

/-! ### What is to be expected -/

/-- No session that is opened moves the deadline of another. -/
theorem expects_apply (h : r.wiring.Sound) (hr : Punctual r) {op : Operation} (hop : op.Proper r)
    (hne : op.opened? ≠ some c) (hc : Expects c deadline r) : Expects c deadline (r.apply op) := by
  cases hopened : op.opened? with
  | none => exact (timekeeping_apply h hr.toTimed hopened).expects hc
  | some d =>
    cases op with
    | accept d' role offerToReceive =>
      have hd : c ≠ d' := fun he => hne (by rw [he]; rfl)
      intro source n hs hn
      rw [show (r.apply (.accept d' role offerToReceive)).source? c = r.source? c from
        source?_accept r role offerToReceive hd] at hs
      exact timers_accept hop role offerToReceive (hc source n hs hn)
    | _ => cases hopened

/-- When the deadline is over, the connection holds an id. -/
theorem OnTime.named (h : OnTime r) (hc : Expects c deadline r) (hover : deadline ≤ r.clock) : Named c r := by
  intro source hs
  by_contra hnone
  obtain ⟨n, hn⟩ := Option.isSome_iff_exists.1 (h.punctual.waits hs (by simpa using hnone))
  have hahead := h.ahead _ (hc source n hs hn)
  simp only at hahead
  omega

/-- A source holds an id if and only if it is in the directory. -/
theorem streamerId_eq_none_iff (h : r.wiring.Sound) {source : Source} (hs : r.source? c = some source) :
    source.streamerId = none ↔ ∀ e ∈ r.streamers.entries, e.connection ≠ c := by
  rw [← streamerId_eq hs]
  constructor
  · rintro hnone e he rfl
    have hid :=
      h.mem_streamerSlots.1 (List.mem_map_of_mem (f := fun e : ListedStreamer => (e.id, e.connection)) he)
    rw [hnone] at hid
    cases hid
  · intro hfree
    by_contra hsome
    obtain ⟨id, hid⟩ := Option.ne_none_iff_exists'.1 hsome
    obtain ⟨e, he, hslot⟩ := List.mem_map.1 (h.mem_streamerSlots.2 hid)
    exact hfree e he (congrArg Prod.snd hslot)

theorem awaits (h : r.wiring.Sound) (hr : Punctual r) : Awaits r := by
  have hsource : ∀ {c source}, r.session? c = some (.streamer source) → r.source? c = some source := by
    intro c source hs
    rw [source?, hs]
    rfl
  refine ⟨fun hs => hr.isSome_timer_iff h (hsource hs), fun hs => streamerId_eq_none_iff h (hsource hs),
    fun hs hn => hr.running (hsource hs) hn, identifyTimeout_of_named h, fun hs hnone => ?_⟩
  exact admitted_identifyTimeout h hr.stem (hsource hs) (hr.waits (hsource hs) hnone)

end

end Relay

/-! ### Runs of a server -/

namespace Server

section
variable {s : Server} {q : Request} {requests : List Request} {settings : Settings} {c : ConnectionId}
    {deadline : Nat}

private theorem punctual_act {r : Relay} (h : r.wiring.Sound) (hr : r.Punctual)
    (hq : ∀ op ∈ q.operation?, op.Proper r) : (q.act r).Punctual := by
  unfold Request.act
  split
  · rename_i op hop
    exact Relay.punctual_apply h hr (hq op hop)
  · exact ⟨⟨hr.numbered, hr.nodup, hr.running⟩, hr.stem, hr.waits⟩

/-- Every request leaves the server on time. -/
theorem onTime_serve (hs : s.running = true) (h : s.relay.OnTime)
    (hq : ∀ op ∈ q.operation?, op.Proper s.relay) :
    (s.serve q).relay.OnTime := by
  have hact := punctual_act h.sound h.punctual hq
  have hsound := sound_act h.sound hq
  rcases serve_cases hs q with ⟨heq, hambient⟩ | heq
  · simp only [Relay.ambient, Prod.mk.injEq] at hambient
    obtain ⟨-, hclock, htimers, -⟩ := hambient
    rw [heq]
    refine ⟨hsound, hact, ?_⟩
    rw [hclock, htimers]
    exact h.ahead
  · rw [heq]
    exact (Relay.fireDue_spec hsound hact).1

private theorem expects_act {r : Relay} (h : r.wiring.Sound) (hr : r.Punctual)
    (hq : ∀ op ∈ q.operation?, op.Proper r) (hne : q.opened? ≠ some c) (hc : r.Expects c deadline) :
    (q.act r).Expects c deadline := by
  unfold Request.act
  split
  · rename_i op hop
    refine Relay.expects_apply h hr (hq op hop) (fun hopened => hne ?_) hc
    rw [Request.opened?, hop]
    exact hopened
  · exact hc

/-- A deadline stays what it is. -/
theorem expects_serve (hs : s.running = true) (h : s.relay.OnTime)
    (hq : ∀ op ∈ q.operation?, op.Proper s.relay) (hne : q.opened? ≠ some c)
    (hc : s.relay.Expects c deadline) : (s.serve q).relay.Expects c deadline := by
  have hact := expects_act h.sound h.punctual hq hne hc
  rcases serve_cases hs q with ⟨heq, -⟩ | heq
  · rw [heq]
    exact hact
  · rw [heq]
    exact (Relay.fireDue_spec (sound_act h.sound hq) (punctual_act h.sound h.punctual hq)).2.expects hact

theorem allows_append {requests' : List Request} :
    s.Allows (requests ++ requests') ↔ s.Allows requests ∧ (s.run requests).Allows requests' := by
  induction requests generalizing s with
  | nil => simp [Allows, run]
  | cons q requests ih =>
    rw [List.cons_append, Allows, Allows, ih, and_assoc]
    rfl

theorem onTime_fresh (settings : Settings) : (fresh settings).relay.OnTime :=
  ⟨Relay.sound_fresh settings, Relay.punctual_fresh settings, fun t ht => by cases ht⟩

theorem onTime_run (hs : s.running = true) (h : s.relay.OnTime) (hrequests : s.Allows requests) :
    (s.run requests).relay.OnTime ∧ (s.run requests).relay.settings = s.relay.settings := by
  induction requests generalizing s with
  | nil => exact ⟨h, rfl⟩
  | cons q requests ih =>
    obtain ⟨h', hsettings⟩ := ih (running_serve hs q) (onTime_serve hs h hrequests.1) hrequests.2
    exact ⟨h', hsettings.trans (settings_serve hs h.sound hrequests.1)⟩

theorem expects_run (hs : s.running = true) (h : s.relay.OnTime) (hrequests : s.Allows requests)
    (hnew : c ∉ requests.filterMap Request.opened?) (hc : s.relay.Expects c deadline) :
    (s.run requests).relay.Expects c deadline := by
  induction requests generalizing s with
  | nil => exact hc
  | cons q requests ih =>
    obtain ⟨hne, hrest⟩ := notMem_filterMap_cons.1 hnew
    exact ih (running_serve hs q) (onTime_serve hs h hrequests.1) hrequests.2 hrest
      (expects_serve hs h hrequests.1 hne hc)

/-- The time of a streamer begins when its session is opened. -/
theorem expects_serve_accept (hs : s.running = true) (h : s.relay.OnTime) (hc : s.relay.session? c = none)
    (offerToReceive : Bool) : (s.serve (.accept c .streamer offerToReceive)).relay.Expects c
      (s.relay.clock + s.relay.settings.identifyTimeout) := by
  have hact : (Request.act (.accept c .streamer offerToReceive) s.relay).Expects c
      (s.relay.clock + s.relay.settings.identifyTimeout) := Relay.expects_accept_self s.relay c offerToReceive
  have hq : ∀ op ∈ Request.operation? (.accept c .streamer offerToReceive), op.Proper s.relay := by
    intro op hop
    obtain rfl := Option.some.inj hop
    exact hc
  rcases serve_cases hs (.accept c .streamer offerToReceive) with ⟨heq, -⟩ | heq
  · rw [heq]
    exact hact
  · rw [heq]
    exact (Relay.fireDue_spec (sound_act h.sound hq) (punctual_act h.sound h.punctual hq)).2.expects hact

/-- Streamers that hold no id, and nobody else, are waited for.  The end of the time is only ever felt
by such a streamer, which is then admitted under an id that was free; it is felt once, and not at all
after the streamer has claimed an id itself.  A server sees to it that no streamer is without an id for
longer than that. -/
theorem streamers_identified_in_time (settings : Settings) :
    (∀ ops : List Operation, (ops.filterMap Operation.opened?).Nodup →
      ((Relay.fresh settings).run ops).Awaits) ∧
    (∀ (before : List Operation) (op : Operation) (after : List Operation) (c : ConnectionId),
      ((before ++ op :: after).filterMap Operation.opened?).Nodup →
      ((Relay.fresh settings).run before).role? c = some .streamer →
      (op = .identifyTimeout c ∨ ∃ id, op.inbound? = some (c, .endpointId id)) →
      let r := (Relay.fresh settings).run (before ++ op :: after)
      r.identifyTimeout c = r) ∧
    (∀ requests : List Request, (requests.filterMap Request.opened?).Nodup →
      ((fresh settings).run requests).relay.Awaits) ∧
    ∀ (before after : List Request) (c : ConnectionId) (offerToReceive : Bool),
      ((before ++ .accept c .streamer offerToReceive :: after).filterMap Request.opened?).Nodup →
      let s := (fresh settings).run (before ++ .accept c .streamer offerToReceive :: after)
      ((fresh settings).run before).relay.clock + settings.identifyTimeout ≤ s.relay.clock →
      ∀ source, s.relay.session? c = some (.streamer source) →
        ∃ e ∈ s.relay.streamers.entries, e.connection = c ∧ source.streamerId = some e.id := by
  refine ⟨fun ops hops => ?_, fun before op after c hops hrole hop => ?_, fun requests hrequests => ?_,
    fun before after c offerToReceive hrequests => ?_⟩
  · have hallows : (Relay.fresh settings).Allows ops := Relay.allows_fresh hops
    exact Relay.awaits (Relay.sound_run (Relay.sound_fresh settings) hallows)
      (Relay.punctual_run (Relay.sound_fresh settings) (Relay.punctual_fresh settings) hallows)
  · have hlive := Relay.isSome_session?_iff_role?.2 ⟨_, hrole⟩
    refine Relay.identifyTimeout_run_of_claimant hops hlive ?_
    rcases hop with rfl | ⟨id, hin⟩
    · rfl
    · cases op with
      | identifyTimeout d => cases hin
      | _ => simp only [Relay.claimantOf?, hin, Option.bind_some, Relay.claimant?, hrole]
  · have h :=
      (onTime_run (s := fresh settings) rfl (onTime_fresh settings) (final_run settings hrequests).1).1
    exact Relay.awaits h.sound h.punctual
  · intro s hover source hs
    have hallows := (final_run settings hrequests).1
    obtain ⟨hbefore, hproper, hafter⟩ := allows_append.1 hallows
    obtain ⟨h, hsettings⟩ := onTime_run (s := fresh settings) rfl (onTime_fresh settings) hbefore
    have hrunning := running_run (s := fresh settings) rfl before
    have hserve := onTime_serve hrunning h hproper
    have hnew : c ∉ after.filterMap Request.opened? := by
      rw [List.filterMap_append] at hrequests
      exact (List.nodup_cons.1 (List.nodup_append.1 hrequests).2.1).1
    have hexpects := expects_run (running_serve hrunning _) hserve hafter hnew
      (expects_serve_accept hrunning h (hproper _ rfl) offerToReceive)
    have hlast := (onTime_run (running_serve hrunning _) hserve hafter).1
    have hrun : s = (((fresh settings).run before).serve (.accept c .streamer offerToReceive)).run after :=
      run_append _ before _
    rw [hsettings, ← hrun] at hexpects
    rw [← hrun] at hlast
    have hsource : s.relay.source? c = some source := by
      rw [Relay.source?, hs]
      rfl
    obtain ⟨id, hid⟩ := Option.isSome_iff_exists.1 (hlast.named hexpects hover source hsource)
    obtain ⟨e, he, hslot⟩ := List.mem_map.1
      (hlast.sound.mem_streamerSlots.2 ((Relay.streamerId_eq hsource).trans hid))
    obtain ⟨rfl, rfl⟩ := Prod.mk.inj hslot
    exact ⟨e, he, rfl, hid⟩

/-- A streamer says nothing while another one claims the first of the ids that it might be given. -/
theorem streamers_identified_in_time_of_silent :
    let before : List Request :=
      [.advance 300, .accept ⟨1⟩ .streamer true, .message ⟨1⟩ (.endpointId "__LEGACY_STREAMER__0")]
    let after : List Request := [.advance 4000, .accept ⟨3⟩ .streamer true, .advance 1000]
    let s := (fresh Settings.standard).run (before ++ .accept ⟨2⟩ .streamer true :: after)
    ((before ++ .accept ⟨2⟩ .streamer true :: after).filterMap Request.opened?).Nodup ∧
      ((fresh Settings.standard).run before).relay.clock + Settings.standard.identifyTimeout ≤ s.relay.clock ∧
      s.relay.session? ⟨2⟩ = some (.streamer ⟨some "__LEGACY_STREAMER__1", [], none, false⟩) ∧
      (∃ e ∈ s.relay.streamers.entries, e.connection = ⟨2⟩ ∧ some "__LEGACY_STREAMER__1" = some e.id) ∧
      s.relay.Awaits := by
  intro before after s
  have hrequests :
      ((before ++ .accept ⟨2⟩ .streamer true :: after).filterMap Request.opened?).Nodup := by decide
  have hover : ((fresh Settings.standard).run before).relay.clock + Settings.standard.identifyTimeout ≤
      s.relay.clock := by
    decide +kernel
  have hsession : s.relay.session? ⟨2⟩ = some (.streamer ⟨some "__LEGACY_STREAMER__1", [], none, false⟩) := by
    decide +kernel
  obtain ⟨-, -, hawaits, htime⟩ := streamers_identified_in_time Settings.standard
  exact ⟨hrequests, hover, hsession, htime before after ⟨2⟩ true hrequests hover _ hsession,
    hawaits _ hrequests⟩

end

end Server

end SignalRelay
