import SignalRelay.Proofs.Relay.Turns

/-!
# Runs

A run is a list of operations that happen one after the other to a relay.  It is allowed if no connection is
accepted twice while it is live (`Allows`); that is so in particular if no connection is ever accepted twice.

* `sound_run`: the wiring is sound after every run.
* `orderly_run`: so are the queues.
* `Owns.run`: a player id that a connection has got stays its own, and the connection gets no other.
* `relayed_run`: what has been relayed to a source is what the operations have relayed to it, one after
  the other.
-/

namespace SignalRelay

/-- The connection whose message an operation brings. -/
def Operation.sender? (op : Operation) : Option ConnectionId := op.inbound?.map Prod.fst

namespace Relay

/-- Operations that can happen to a relay one after the other. -/
def Allows (r : Relay) : List Operation → Prop
  | [] => True
  | op :: ops => op.Proper r ∧ (r.apply op).Allows ops

instance decidableAllows (r : Relay) : (ops : List Operation) → Decidable (r.Allows ops)
  | [] => isTrue trivial
  | op :: ops =>
    have := decidableAllows (r.apply op) ops
    inferInstanceAs (Decidable (op.Proper r ∧ (r.apply op).Allows ops))

/-- The operations of a run, each with the relay that it happens to. -/
def steps (r : Relay) : List Operation → List (Relay × Operation)
  | [] => []
  | op :: ops => (r, op) :: (r.apply op).steps ops

/-- The frame that reaches the queue of `u`, if it is for `u` and somebody still takes frames from there. -/
def queued? (r : Relay) (u : ConnectionId) (relayed : Option (ConnectionId × Outbound)) : Option Outbound :=
  relayed.bind fun (target, f) => if target = u ∧ (r.outbox u).connected then some f else none

theorem sound_fresh (settings : Settings) : (fresh settings).wiring.Sound := Wiring.Sound.empty

section
variable {r r' : Relay} {ops ops' : List Operation}

theorem run_append (r : Relay) (ops ops' : List Operation) : r.run (ops ++ ops') = (r.run ops).run ops' :=
  List.foldl_append

theorem allows_append : r.Allows (ops ++ ops') ↔ r.Allows ops ∧ (r.run ops).Allows ops' := by
  induction ops generalizing r with
  | nil => simp [Allows, run]
  | cons op ops ih =>
    rw [List.cons_append, Allows, Allows, ih, and_assoc]
    rfl

/-- Where the steps of a run stand in it. -/
theorem mem_steps {s : Relay × Operation} (h : s ∈ r.steps ops) :
    ∃ before after, ops = before ++ s.2 :: after ∧ s.1 = r.run before := by
  induction ops generalizing r with
  | nil => cases h
  | cons op ops ih =>
    rcases List.mem_cons.1 h with rfl | h
    · exact ⟨[], ops, rfl, rfl⟩
    · obtain ⟨before, after, rfl, hs⟩ := ih h
      exact ⟨op :: before, after, rfl, hs⟩

theorem mem_of_mem_steps {s : Relay × Operation} (h : s ∈ r.steps ops) : s.2 ∈ ops := by
  obtain ⟨before, after, rfl, -⟩ := mem_steps h
  exact List.mem_append_right before List.mem_cons_self

/-! ### Invariants -/

/-- A run keeps the wiring sound, so it is sound after each of its operations. -/
theorem sound_run (h : r.wiring.Sound) (hops : r.Allows ops) : (r.run ops).wiring.Sound := by
  induction ops generalizing r with
  | nil => exact h
  | cons op ops ih => exact ih ((outcome_apply h hops.1).sound h) hops.2

/-- What every step of a run keeps, from a sound relay on, is kept by the run. -/
theorem run_induction {motive : Relay → Prop}
    (hstep : ∀ {s : Relay} {op : Operation}, (s, op) ∈ r.steps ops → s.wiring.Sound → motive s →
      Outcome s op (s.apply op) → motive (s.apply op))
    (h : r.wiring.Sound) (hops : r.Allows ops) (hr : motive r) : motive (r.run ops) := by
  induction ops generalizing r with
  | nil => exact hr
  | cons op ops ih =>
    have hop := outcome_apply h hops.1
    exact ih (fun hmem => hstep (List.mem_cons_of_mem _ hmem)) (hop.sound h) hops.2
      (hstep List.mem_cons_self h hr hop)

/-! ### Connections and player ids -/

/-- Who has a role has had it before, or has been accepted in it. -/
theorem Outcome.role {op : Operation} {c : ConnectionId} {x : Role} (h : Outcome r op r')
    (hc : r'.role? c = some x) : r.role? c = some x ∨ ∃ offerToReceive, op = .accept c x offerToReceive := by
  cases h with
  | turn _ _ hturn =>
    cases hturn with
    | upkeep h => exact .inl (h.changes.role hc)
    | relay h => exact .inl (h.changes.role hc)
  | opening hop _ h =>
    rcases h.roles hc with hc | ⟨rfl, rfl⟩
    · exact .inl hc
    · exact .inr ⟨_, hop⟩
  | abandoned _ => exact .inl hc

/-- Nobody but the connection that an operation opens a session for gets one. -/
theorem Outcome.live {op : Operation} {c : ConnectionId} (h : Outcome r op r') (hne : op.opened? ≠ some c)
    (hc : r.session? c = none) : r'.session? c = none := by
  rw [session?_eq_none_iff_role?] at hc ⊢
  cases hc' : r'.role? c with
  | none => rfl
  | some x =>
    rcases h.role hc' with hlive | ⟨offerToReceive, rfl⟩
    · rw [hc] at hlive
      cases hlive
    · exact absurd rfl hne

theorem session?_run_eq_none {c : ConnectionId} (hsound : r.wiring.Sound) (hops : r.Allows ops)
    (hc : r.session? c = none) (hnew : c ∉ ops.filterMap Operation.opened?) :
    (r.run ops).session? c = none := by
  refine run_induction (motive := fun r => r.session? c = none)
    (fun {_ op} hmem _ hr hop => hop.live ?_ hr) hsound hops hc
  exact fun hopened => hnew (List.mem_filterMap.2 ⟨op, mem_of_mem_steps hmem, hopened⟩)

/-- A run that accepts no connection twice is allowed. -/
theorem allows_of_nodup (hsound : r.wiring.Sound) (hnodup : (ops.filterMap Operation.opened?).Nodup)
    (hnew : ∀ c ∈ ops.filterMap Operation.opened?, r.session? c = none) : r.Allows ops := by
  induction ops generalizing r with
  | nil => trivial
  | cons op ops ih =>
    have hproper : op.Proper r := by
      cases op with
      | accept c role offerToReceive => exact hnew c (by simp [Operation.opened?])
      | _ => trivial
    have hop := outcome_apply hsound hproper
    have hsub : (ops.filterMap Operation.opened?).Sublist ((op :: ops).filterMap Operation.opened?) :=
      (List.sublist_cons_self op ops).filterMap Operation.opened?
    refine ⟨hproper, ih (hop.sound hsound) (hnodup.sublist hsub) fun c hc => ?_⟩
    refine hop.live (fun hopened => ?_) (hnew c (hsub.subset hc))
    -- it would be accepted once more later on
    rw [List.filterMap_cons_some hopened] at hnodup
    exact (List.nodup_cons.1 hnodup).1 hc

/-- The player id `id` was given to `p`, and belongs to nobody else. -/
structure Owns (p : ConnectionId) (id : String) (r : Relay) : Prop where
  given : ∃ n < r.wiring.nextNumber, id = PlayerDirectory.idOf n
  holder : ∀ {q id'}, r.wiring.playerId q = some id' → (id' = id ↔ q = p)

theorem owns_of_playerId {p : ConnectionId} {id : String} (h : r.wiring.Sound)
    (hp : r.wiring.playerId p = some id) :
    Owns p id r where
  given := h.numbered (h.mem_playerSlots hp)
  holder {q id'} hq := by
    constructor
    · rintro rfl
      exact h.playerId_inj hq hp
    · rintro rfl
      exact Option.some.inj (hq.symm.trans hp)

theorem Owns.outcome {p : ConnectionId} {id : String} {op : Operation} (h : Owns p id r)
    (hp : op.opened? ≠ some p) (hop : Outcome r op r') : Owns p id r' := by
  have hkeep : ∀ {mover s}, Upkeep mover r s → Owns p id s := fun hbefore =>
    ⟨hbefore.nextNumber.symm ▸ h.given, fun hq => h.holder (hbefore.playerId hq)⟩
  cases hop with
  | turn _ _ hturn =>
    cases hturn with
    | upkeep hbefore => exact hkeep hbefore
    | relay hbefore => exact ⟨(hkeep hbefore).given, (hkeep hbefore).holder⟩
  | opening hopened _ hopening =>
    obtain ⟨n, hn, rfl⟩ := h.given
    refine ⟨⟨n, Nat.lt_of_lt_of_le hn hopening.nextNumber, rfl⟩, fun {q id'} hq => ?_⟩
    rcases hopening.playerId hq with hq | ⟨rfl, rfl, -⟩
    · exact h.holder hq
    · -- the number that is given out is a new one, and so is the connection
      constructor
      · intro he
        have := PlayerDirectory.idOf_injective he
        omega
      · rintro rfl
        exact absurd (hopened ▸ rfl) hp
  | abandoned _ => exact ⟨h.given, h.holder⟩

theorem Owns.run {p : ConnectionId} {id : String} (h : Owns p id r) (hsound : r.wiring.Sound)
    (hops : r.Allows ops) (hp : p ∉ ops.filterMap Operation.opened?) : Owns p id (r.run ops) :=
  run_induction (fun {_ op} hmem _ hr hop =>
    hr.outcome (fun hopened => hp (List.mem_filterMap.2 ⟨op, mem_of_mem_steps hmem, hopened⟩)) hop)
      hsound hops h

/-! ### What is relayed -/

theorem outbox_abandon (r : Relay) (c u : ConnectionId) :
    (r.abandon c).outbox u = if u = c then (r.outbox c).abandon else r.outbox u :=
  outbox_setOutbox r c u _

theorem frames_abandon (r : Relay) (c u : ConnectionId) :
    ((r.abandon c).outbox u).frames = (r.outbox u).frames := by
  rw [outbox_abandon]
  split
  · rename_i hu
    rw [hu]
    rfl
  · rfl

theorem Orderly.push {u : ConnectionId} {f : Outbound} (h : r.Orderly) (hf : f.relayed = true)
    (hstamp : ∀ id, f.uplinkStamp? = some id → id ∈ r.watchers u) : (r.push u f).Orderly := by
  have hgone : ∀ id, f ≠ .message (.playerDisconnected id) := by
    rintro id rfl
    cases hf
  constructor
  · intro d
    rw [outbox_push, Outbox.pushAll_eq]
    by_cases hconnected : (r.outbox d).connected = true
    · by_cases hd : d = u
      · subst hd
        rw [if_pos hconnected, if_pos rfl]
        exact (h.guarded d).snoc fun id hid => h.announced d hconnected id (hstamp id hid)
      · simpa [hconnected, hd] using h.guarded d
    · rw [if_neg hconnected]
      exact h.guarded d
  · intro d hconnected id hid
    rw [outbox_push, Outbox.connected_pushAll] at hconnected
    rw [outbox_push, Outbox.frames_pushAll hconnected]
    refine (h.announced d hconnected id hid).append_right fun hmem => ?_
    split at hmem
    · exact hgone id (List.mem_singleton.1 hmem).symm
    · cases hmem

theorem Orderly.outcome {op : Operation} (h : r.Orderly) (hop : Outcome r op r') : r'.Orderly := by
  cases hop with
  | turn _ _ hturn =>
    cases hturn with
    | upkeep hbefore => exact h.quiet hbefore.toQuiet
    | relay hbefore _ hf _ hstamp => exact (h.quiet hbefore.toQuiet).push hf hstamp
  | opening _ _ hopening => exact h.quiet hopening.toQuiet
  | @abandoned c hop =>
    constructor
    · intro u
      rw [frames_abandon]
      exact h.guarded u
    · intro u hconnected id hid
      rw [frames_abandon]
      refine h.announced u ?_ id hid
      rw [outbox_abandon] at hconnected
      split at hconnected
      · cases hconnected
      · exact hconnected

/-- The queues are in order after every run. -/
theorem orderly_run (hsound : r.wiring.Sound) (hops : r.Allows ops) (h : r.Orderly) : (r.run ops).Orderly :=
  run_induction (fun _ _ hr hop => hr.outcome hop) hsound hops h

/-- Frames are taken from a queue until the far side goes away. -/
theorem Outcome.connected_eq {op : Operation} {u : ConnectionId} (h : Outcome r op r')
    (hstay : op ≠ .abandon u) :
    (r'.outbox u).connected = (r.outbox u).connected := by
  cases h with
  | turn _ _ hturn =>
    cases hturn with
    | upkeep hbefore => exact hbefore.connected_eq u
    | relay hbefore => rw [outbox_push, Outbox.connected_pushAll, hbefore.connected_eq u]
  | opening _ _ hopening => exact hopening.connected_eq u
  | @abandoned c hop =>
    have hu : u ≠ c := by
      rintro rfl
      exact hstay hop
    rw [outbox_abandon, if_neg hu]

theorem connected_run {u : ConnectionId} (hsound : r.wiring.Sound) (hops : r.Allows ops)
    (hstay : Operation.abandon u ∉ ops) : ((r.run ops).outbox u).connected = (r.outbox u).connected :=
  run_induction (motive := fun s => (s.outbox u).connected = (r.outbox u).connected)
    (fun hmem _ hr hop => (hop.connected_eq fun he => hstay (he ▸ mem_of_mem_steps hmem)).trans hr)
    hsound hops rfl

/-- Nothing is queued for a connection whose far side has gone away. -/
theorem Outcome.outbox_of_disconnected {op : Operation} {u : ConnectionId} (h : Outcome r op r')
    (hu : (r.outbox u).connected = false) : r'.outbox u = r.outbox u := by
  have hlost : ∀ frames, (r.outbox u).pushAll frames = r.outbox u :=
    fun frames => by simp [Outbox.pushAll_eq, hu]
  have hquiet : ∀ {s}, Quiet r s → s.outbox u = r.outbox u := by
    intro s hquiet
    obtain ⟨frames, hbox, -, -⟩ := hquiet.queue u
    rw [hbox, hlost]
  cases h with
  | turn _ _ hturn =>
    cases hturn with
    | upkeep hbefore => exact hquiet hbefore.toQuiet
    | relay hbefore => rw [outbox_push, hquiet hbefore.toQuiet, hlost]
  | opening _ _ hopening => exact hquiet hopening.toQuiet
  | @abandoned c hop =>
    rw [outbox_abandon]
    split
    · rename_i hc
      rw [← hc, Outbox.abandon, ← hu]
    · rfl

theorem outbox_run_of_disconnected {u : ConnectionId} (hsound : r.wiring.Sound) (hops : r.Allows ops)
    (hu : (r.outbox u).connected = false) : (r.run ops).outbox u = r.outbox u :=
  run_induction (motive := fun s => s.outbox u = r.outbox u)
    (fun _ _ hs hop => (hop.outbox_of_disconnected (hs ▸ hu)).trans hs) hsound hops rfl

/-- An operation relays at most one frame, to the end of one queue. -/
theorem Outcome.filter_relayed {op : Operation} (h : Outcome r op r') (u : ConnectionId) :
    (r'.outbox u).frames.filter Outbound.relayed =
      (r.outbox u).frames.filter Outbound.relayed ++ (r.queued? u (r.relayOf? op)).toList := by
  cases h with
  | turn _ _ hturn =>
    cases hturn with
    | upkeep hbefore hnone =>
      rw [hbefore.filter_eq (fun _ hf => hf), hnone]
      simp [queued?]
    | @relay s target f hbefore hsome hf =>
      have hqueued : r.queued? u (r.relayOf? op) =
          if target = u ∧ (r.outbox u).connected then some f else none := by
        rw [hsome]
        rfl
      rw [hqueued, outbox_push, Outbox.pushAll_eq, ← hbefore.filter_eq (fun _ hf => hf),
        hbefore.connected_eq u]
      -- the upkeep before the frame leaves the queue as it was, as far as it counts here
      by_cases hconnected : (r.outbox u).connected = true
      · by_cases htarget : u = target
        · subst htarget
          simp [hconnected, hf]
        · simp [hconnected, htarget, Ne.symm htarget]
      · simp [hconnected]
  | opening hop _ hopening =>
    rw [hopening.filter_eq (fun _ hf => hf), hop]
    simp [queued?, relayOf?, uplinkOf?, channelsOf?, Operation.inbound?]
  | abandoned hop =>
    rw [frames_abandon, hop]
    simp [queued?, relayOf?, uplinkOf?, channelsOf?, Operation.inbound?]

/-- What has been relayed is what the operations have relayed. -/
theorem relayed_run (hsound : r.wiring.Sound) (hops : r.Allows ops) (u : ConnectionId) :
    ((r.run ops).outbox u).frames.filter Outbound.relayed =
      (r.outbox u).frames.filter Outbound.relayed ++
        (r.steps ops).filterMap fun s => s.1.queued? u (s.1.relayOf? s.2) := by
  induction ops generalizing r with
  | nil => exact (List.append_nil _).symm
  | cons op ops ih =>
    have hop := outcome_apply hsound hops.1
    have hrest := ih (hop.sound hsound) hops.2
    rw [hop.filter_relayed u, List.append_assoc] at hrest
    have hsteps : ((r.steps (op :: ops)).filterMap fun s => s.1.queued? u (s.1.relayOf? s.2)) =
        (r.queued? u (r.relayOf? op)).toList ++
          ((r.apply op).steps ops).filterMap fun s => s.1.queued? u (s.1.relayOf? s.2) := by
      rw [steps, List.filterMap_cons]
      split
      · rename_i hnone
        rw [hnone]
        rfl
      · rename_i hsome
        rw [hsome]
        rfl
    rw [hsteps]
    exact hrest

end

end Relay

end SignalRelay
