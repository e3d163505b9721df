import SignalRelay.Proofs.Relay.Rewiring

/-!
# What a source is queued

Three kinds of frame matter to a source: those that tell it about its viewers, those that viewers send it
under their stamp (`Outbound.uplinkStamp?`), and the data channels of forwarding units
(`Outbound.setsUpChannels`).  All others are idle.

* `tally` keeps the list of viewers that a source can make out from its queue; `tally?` does so only as
  long as no viewer comes twice and none leaves that has not come.
* `Quiet` relates two relays if nothing was relayed to a source in between, and each source was told
  exactly how the list of its viewers has changed.
* `Orderly` says that stamped frames come only from viewers that the source knows of; `Quiet` keeps it.
-/

namespace SignalRelay

/-- The kinds of message that a viewer sends to its source. -/
def RoutedKind.isUplink : RoutedKind → Bool
  | .offer | .answer | .iceCandidate | .dataChannelRequest | .peerDataChannelsReady => true
  | .layerPreference | .streamerDataChannels | .peerDataChannels => false

namespace Outbound

/-- The stamp of a message from a viewer to its source. -/
def uplinkStamp? : Outbound → Option String
  | .message (.routed kind payload) => if kind.isUplink then payload.playerId else none
  | _ => none

/-- Whether a frame sets up the data channels of a forwarding unit. -/
def setsUpChannels : Outbound → Bool
  | .message (.routed .streamerDataChannels _) => true
  | _ => false

def relayed (f : Outbound) : Bool := f.uplinkStamp?.isSome || f.setsUpChannels

/-- The viewers that a source knows of after one more frame. -/
def tally (present : List String) : Outbound → List String
  | .message (.playerConnected id _ _ _) => present ++ [id]
  | .message (.playerDisconnected id) => present.filter (· ≠ id)
  | _ => present

/-- The viewers that a source knows of after one more frame, if it does not bring a viewer that is there
or take one that is not. -/
def tally? (present : List String) : Outbound → Option (List String)
  | .message (.playerConnected id _ _ _) => if id ∈ present then none else some (present ++ [id])
  | .message (.playerDisconnected id) => if id ∈ present then some (present.filter (· ≠ id)) else none
  | _ => some present

/-- Whether a frame is neither relayed to a source nor about its viewers. -/
def idle : Outbound → Bool
  | .message (.playerConnected ..) | .message (.playerDisconnected _) => false
  | f => !f.relayed

theorem relayed_of_idle {f : Outbound} (h : f.idle = true) : f.relayed = false := by
  unfold idle at h
  split at h
  · cases h
  · cases h
  · simpa using h

theorem tally?_of_idle {f : Outbound} (h : f.idle = true) (present : List String) :
    tally? present f = some present := by
  unfold idle at h
  unfold tally?
  split at h
  · cases h
  · cases h
  · rfl

theorem tally?_of_relayed {f : Outbound} (h : f.relayed = true) (present : List String) :
    tally? present f = some present := by
  unfold tally?
  split
  · cases h
  · cases h
  · rfl

theorem foldlM_tally?_of_idle {frames : List Outbound} (h : ∀ f ∈ frames, f.idle = true)
    (present : List String) :
    frames.foldlM tally? present = some present := by
  induction frames with
  | nil => rfl
  | cons f frames ih =>
    rw [List.foldlM_cons, tally?_of_idle (h f List.mem_cons_self)]
    exact ih fun g hg => h g (List.mem_cons_of_mem _ hg)

private theorem tally_of_tally? {f : Outbound} {present present' : List String}
    (h : tally? present f = some present') :
    tally present f = present' := by
  unfold tally? at h
  unfold tally
  split at h
  · split at h
    · cases h
    · exact Option.some.inj h
  · split at h
    · exact Option.some.inj h
    · cases h
  · exact Option.some.inj h

theorem foldl_tally_of_foldlM {frames : List Outbound} {present present' : List String}
    (h : frames.foldlM tally? present = some present') : frames.foldl tally present = present' := by
  induction frames generalizing present with
  | nil => exact Option.some.inj h
  | cons f frames ih =>
    obtain ⟨next, hnext, hrest⟩ := Option.bind_eq_some_iff.1 h
    rw [List.foldl_cons, tally_of_tally? hnext]
    exact ih hrest

end Outbound

/-- The last that the frames say about a viewer is that it is there. -/
def Announced (id : String) (frames : List Outbound) : Prop :=
  ∃ before dataChannel sfu sendOffer after,
    frames = before ++ .message (.playerConnected id dataChannel sfu sendOffer) :: after ∧
      .message (.playerDisconnected id) ∉ after

section
variable {id : String} {frames frames' : List Outbound}

theorem Announced.append_right (h : Announced id frames)
    (hgone : .message (.playerDisconnected id) ∉ frames') :
    Announced id (frames ++ frames') := by
  obtain ⟨before, dataChannel, sfu, sendOffer, after, rfl, hafter⟩ := h
  refine ⟨before, dataChannel, sfu, sendOffer, after ++ frames', by simp, ?_⟩
  rw [List.mem_append]
  exact fun hmem => hmem.elim hafter hgone

theorem Announced.append_left (h : Announced id frames') (frames : List Outbound) :
    Announced id (frames ++ frames') := by
  obtain ⟨before, dataChannel, sfu, sendOffer, after, rfl, hafter⟩ := h
  exact ⟨frames ++ before, dataChannel, sfu, sendOffer, after, by simp, hafter⟩

/-- Who is on the list afterwards was on it and has not left, or has come since. -/
theorem mem_tally {present : List String} (h : id ∈ frames.foldl Outbound.tally present) :
    (id ∈ present ∧ .message (.playerDisconnected id) ∉ frames) ∨ Announced id frames := by
  induction frames generalizing present with
  | nil => exact .inl ⟨h, List.not_mem_nil⟩
  | cons f frames ih =>
    rcases ih h with ⟨hmem, hrest⟩ | hlater
    · have hstay : id ∈ present → Outbound.message (.playerDisconnected id) ≠ f →
          (id ∈ present ∧ .message (.playerDisconnected id) ∉ f :: frames) ∨ Announced id (f :: frames) :=
        fun hp hf => .inl ⟨hp, by simp [hrest, hf]⟩
      unfold Outbound.tally at hmem
      split at hmem
      · rename_i id' dataChannel sfu sendOffer
        rcases List.mem_append.1 hmem with hp | hp
        · exact hstay hp (by simp)
        · obtain rfl := List.mem_singleton.1 hp
          exact .inr ⟨[], dataChannel, sfu, sendOffer, frames, rfl, hrest⟩
      · rename_i id'
        obtain ⟨hp, hne⟩ := List.mem_filter.1 hmem
        exact hstay hp (by simpa using hne)
      · rename_i hdisconnected
        exact hstay hmem fun he => hdisconnected id he.symm
    · exact .inr (hlater.append_left [f])

end

/-- Every stamped frame of a queue comes from a viewer that was announced before it. -/
inductive Guarded : List Outbound → Prop
  | nil : Guarded []
  | snoc {frames : List Outbound} {f : Outbound} (h : Guarded frames)
      (hf : ∀ id, f.uplinkStamp? = some id → Announced id frames) : Guarded (frames ++ [f])

theorem Guarded.append {frames : List Outbound} (h : Guarded frames) {frames' : List Outbound}
    (hquiet : ∀ f ∈ frames', f.relayed = false) : Guarded (frames ++ frames') := by
  induction frames' generalizing frames with
  | nil => rwa [List.append_nil]
  | cons f frames' ih =>
    have hf := hquiet f List.mem_cons_self
    have hnone : f.uplinkStamp? = none := by simp_all [Outbound.relayed]
    have hsnoc : Guarded (frames ++ [f]) := h.snoc fun id hid => by
      rw [hnone] at hid
      cases hid
    have := ih hsnoc fun g hg => hquiet g (List.mem_cons_of_mem _ hg)
    rwa [List.append_assoc] at this

/-- Wherever a stamped frame stands in a guarded queue, its viewer was announced. -/
theorem Guarded.announced {frames : List Outbound} (h : Guarded frames) {before after : List Outbound}
    {f : Outbound} (heq : frames = before ++ f :: after) {id : String} (hid : f.uplinkStamp? = some id) :
    Announced id before := by
  -- the queue grows at its end, so the split is taken apart from there
  induction h generalizing after with
  | nil => simp at heq
  | @snoc frames g hframes hg ih =>
    have hprefix : before ++ [f] <+: frames ++ [g] := ⟨after, by simp [heq]⟩
    rcases List.prefix_concat_iff.1 hprefix with hlast | ⟨after, rfl⟩
    · obtain ⟨rfl, hfg⟩ := List.append_inj' hlast rfl
      obtain rfl : f = g := List.singleton_inj.1 hfg
      exact hg id hid
    · exact ih (List.append_assoc before [f] after)

namespace Relay

/-- The player ids of those who watch a source, in order. -/
def watchers (r : Relay) (u : ConnectionId) : List String :=
  (r.wiring.subscribers u).filterMap r.wiring.playerId

/-- Nothing has been relayed to a source, and every source that has not gone has been told how its
viewers changed. -/
structure Quiet (r r' : Relay) : Prop where
  queue : ∀ u, ∃ frames, r'.outbox u = (r.outbox u).pushAll frames ∧ (∀ f ∈ frames, f.relayed = false) ∧
    (((r.session? u).isSome → (r'.session? u).isSome) →
      frames.foldlM Outbound.tally? (r.watchers u) = some (r'.watchers u))

/-- What a source is queued is in order: stamped frames come from viewers that were announced, and
everybody who watches the source has been announced. -/
structure Orderly (r : Relay) : Prop where
  guarded : ∀ u, Guarded (r.outbox u).frames
  announced : ∀ u, (r.outbox u).connected = true → ∀ id ∈ r.watchers u, Announced id (r.outbox u).frames

section
variable {r r' : Relay}

theorem watchers_eq_nil {u : ConnectionId} (hu : r.session? u = none) : r.watchers u = [] := by
  simp [watchers, wiring, source?, hu]

theorem orderly_fresh (settings : Settings) : (fresh settings).Orderly where
  guarded _ := Guarded.nil
  announced _ _ _ hid := absurd hid List.not_mem_nil

/-- The queues keep in order as long as nothing is relayed. -/
theorem Orderly.quiet (h : r.Orderly) (hquiet : Quiet r r') : r'.Orderly := by
  constructor
  · intro u
    obtain ⟨frames, hbox, hrelayed, -⟩ := hquiet.queue u
    rw [hbox, Outbox.pushAll_eq]
    split
    · exact (h.guarded u).append hrelayed
    · exact h.guarded u
  · intro u hconnected id hid
    obtain ⟨frames, hbox, -, htally⟩ := hquiet.queue u
    have hlive : (r'.session? u).isSome := by
      cases hs : r'.session? u with
      | none =>
        rw [watchers_eq_nil hs] at hid
        cases hid
      | some s => rfl
    rw [hbox, Outbox.connected_pushAll] at hconnected
    rw [hbox, Outbox.frames_pushAll hconnected]
    rw [← Outbound.foldl_tally_of_foldlM (htally fun _ => hlive)] at hid
    -- who watches now has watched before and stayed, or has been announced since
    rcases mem_tally hid with ⟨hmem, hstay⟩ | hnew
    · exact (h.announced u hconnected id hmem).append_right hstay
    · exact hnew.append_left _

/-- A queue only grows. -/
theorem Quiet.frames (hquiet : Quiet r r') (u : ConnectionId) :
    ∃ frames, (r'.outbox u).frames = (r.outbox u).frames ++ frames ∧ ∀ f ∈ frames, f.relayed = false := by
  obtain ⟨frames, hbox, hrelayed, -⟩ := hquiet.queue u
  rw [hbox, Outbox.pushAll_eq]
  split
  · exact ⟨frames, rfl, hrelayed⟩
  · exact ⟨[], (List.append_nil _).symm, by simp⟩

/-- Relayed frames are neither gained nor lost by what is quiet. -/
theorem Quiet.filter_eq (hquiet : Quiet r r') {keep : Outbound → Bool}
    (hkeep : ∀ f, keep f = true → f.relayed = true) (u : ConnectionId) :
    (r'.outbox u).frames.filter keep = (r.outbox u).frames.filter keep := by
  obtain ⟨frames, heq, hrelayed⟩ := hquiet.frames u
  have hnone : frames.filter keep = [] := by
    rw [List.filter_eq_nil_iff]
    intro f hf hk
    have := hrelayed f hf
    rw [hkeep f hk] at this
    cases this
  rw [heq, List.filter_append, hnone, List.append_nil]

theorem Quiet.connected_eq (hquiet : Quiet r r') (u : ConnectionId) :
    (r'.outbox u).connected = (r.outbox u).connected := by
  obtain ⟨frames, hbox, -, -⟩ := hquiet.queue u
  rw [hbox, Outbox.connected_pushAll]

end

end Relay

end SignalRelay
