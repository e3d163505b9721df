import SignalRelay.Proofs.Server.Deadlines

/-!
# Partings

Nobody loses a session without a word: a connection that is not live any more has been queued a close,
unless it was the one to be closed, since somebody knows then that it is gone.

* `Partings` relates two relays if this is so and no session has come in between; one connection is left
  out, which is accepted or closed.
* `Moves.partings` and `TornDown.partings` for what happens to a relay, `partings_serve` for requests.
* `role?_serve_accept`: a connection that is accepted has got a session of its role, or a close.
-/

namespace SignalRelay

namespace Relay

/-- Whether a close has been queued for a connection. -/
def dismissed (r : Relay) (c : ConnectionId) : Bool := (r.outbox c).frames.any Outbound.isClose

/-- Between two relays, everybody but `own` has kept its session, or lost it and been queued a close if
there is anybody to take it. -/
structure Partings (own : Option ConnectionId) (r r' : Relay) : Prop where
  connected : ∀ u, (r'.outbox u).connected = (r.outbox u).connected
  queue : ∀ u, (r.outbox u).frames <+: (r'.outbox u).frames
  role : ∀ {u x}, own ≠ some u → r'.role? u = some x → r.role? u = some x
  told : ∀ {u}, own ≠ some u → (r.outbox u).connected = true → (r.session? u).isSome → r'.session? u = none →
    r'.dismissed u = true

section
variable {P : Signal → Prop} {owner own : Option ConnectionId} {sound : Prop} {r r' r'' : Relay}
    {c u : ConnectionId}

theorem dismissed_of_prefix (h : (r.outbox u).frames <+: (r'.outbox u).frames) (hu : r.dismissed u = true) :
    r'.dismissed u = true := by
  obtain ⟨f, hf, hclose⟩ := List.any_eq_true.1 hu
  exact List.any_eq_true.2 ⟨f, h.subset hf, hclose⟩

/-- Whoever has been queued a close is not live. -/
theorem Final.dead (h : r.Final c) (hc : r.dismissed c = true) : r.session? c = none := by
  obtain ⟨f, hf, hclose⟩ := List.any_eq_true.1 hc
  cases h with
  | unclosed h =>
    rw [h f hf] at hclose
    cases hclose
  | closed _ _ _ _ _ hdead => exact hdead

theorem prefix_frames_pushAll (box : Outbox) (frames : List Outbound) :
    box.frames <+: (box.pushAll frames).frames := by
  rcases Outbox.frames_pushAll_cases box frames with heq | heq
  · exact heq ▸ List.prefix_refl _
  · exact heq ▸ List.prefix_append _ _

theorem dismissed_of_push {box : Outbox} {frames : List Outbound} (hbox : r'.outbox u = box.pushAll frames)
    (hconnected : box.connected = true) (hclose : frames.any Outbound.isClose = true) :
    r'.dismissed u = true := by
  rw [dismissed, hbox, Outbox.frames_pushAll hconnected, List.any_append, hclose, Bool.or_true]

/-! ### Composition -/

/-- Where all keep their sessions there are no partings. -/
theorem Partings.of_role (h : Delivers r r') (hrole : ∀ u, r'.role? u = r.role? u) : Partings own r r' where
  connected u := by
    obtain ⟨told, ending, hbox, -⟩ := h.queue u
    rw [hbox, Outbox.connected_pushAll]
  queue u := by
    obtain ⟨told, ending, hbox, -⟩ := h.queue u
    exact hbox ▸ prefix_frames_pushAll _ _
  role _ hu := (hrole _).symm.trans hu
  told _ _ hu hnone := by
    obtain ⟨x, hx⟩ := isSome_session?_iff_role?.1 hu
    rw [session?_eq_none_iff_role?, hrole, hx] at hnone
    cases hnone

theorem Partings.refl (r : Relay) : Partings own r r := .of_role (.refl r) fun _ => rfl

theorem Partings.trans (h : Partings own r r') (h' : Partings own r' r'') : Partings own r r'' where
  connected u := (h'.connected u).trans (h.connected u)
  queue u := (h.queue u).trans (h'.queue u)
  role hu hx := h.role hu (h'.role hu hx)
  told {u} hu hconnected hlive hnone := by
    by_cases hmid : (r'.session? u).isSome
    · exact h'.told hu ((h.connected u).trans hconnected) hmid hnone
    · exact dismissed_of_prefix (h'.queue u) (h.told hu hconnected hlive (by simpa using hmid))

/-! ### Teardowns -/

/-- Those who go are told, all but the connection itself, unless it is told first. -/
theorem TornDown.partings {gone : List ConnectionId} (ending : Option String)
    (h : TornDown r c gone (ending.toList.map Outbound.close) r') (hown : own ≠ some c → ending.isSome) :
    Partings own r r' := by
  refine ⟨fun u => ?_, fun u => ?_, fun {u x} _ hx => ?_, fun {u} hu hconnected hlive hnone => ?_⟩
  · rw [h.outbox, Outbox.connected_pushAll]
  · rw [h.outbox]
    exact prefix_frames_pushAll _ _
  · rw [h.role?] at hx
    split at hx
    · cases hx
    · exact hx
  · have hgone : u ∈ gone := by
      by_contra hstay
      rw [h.session?, if_neg hstay, Option.map_eq_none_iff] at hnone
      rw [hnone] at hlive
      cases hlive
    refine dismissed_of_push (h.outbox u) hconnected ?_
    by_cases huc : u = c
    · obtain ⟨reason, hreason⟩ := Option.isSome_iff_exists.1 (hown (huc ▸ hu))
      simp [huc, hreason, Outbound.isClose]
    · simp [huc, notices, hgone, Outbound.isClose]

theorem partings_close (h : r.wiring.Sound) (c : ConnectionId) : Partings (some c) r (r.close c) := by
  rcases close_cases h.toLinked c with ⟨-, heq⟩ | ⟨-, gone, htorn⟩
  · rw [heq]
    exact .refl r
  · exact htorn.partings none fun hne => absurd rfl hne

theorem partings_terminate (h : r.wiring.Sound) (c : ConnectionId) (reason : String) :
    Partings own r (r.terminate c reason) := by
  rcases terminate_cases h.toLinked c reason with ⟨-, heq⟩ | ⟨-, gone, htorn⟩
  · rw [heq]
    exact .refl r
  · exact htorn.partings (some reason) fun _ => rfl

theorem session?_close_self (h : r.wiring.Linked) (c : ConnectionId) : (r.close c).session? c = none := by
  rcases close_cases h c with ⟨hnone, heq⟩ | ⟨-, gone, htorn⟩
  · rw [heq, hnone]
  · rw [htorn.session?, if_pos ((htorn.mem_gone c).2 .self)]

/-! ### Moves -/

theorem Move.partings (h : Move P owner sound r r') (hsound : sound) : Partings own r r' := by
  cases h with
  | send hm c =>
    refine .of_role (delivers_send r c _) fun u => ?_
    simp only [role?, session?_send]
  | source c hf => exact .of_role (delivers_adjustSource r c _) fun u => role?_adjustSource r c u _
  | viewer c id =>
    have hmove : Move P owner sound r (r.setSubscribed c id) := .viewer c id
    refine .of_role (hmove.delivers hsound) fun u => ?_
    simp only [role?, session?_setSubscribed]
    split
    · cases r.session? u <;> simp
    · rfl
  | listed hd =>
    have hmove : Move P owner sound r { r with streamers := _ } := .listed hd
    exact .of_role (hmove.delivers hsound) fun _ => rfl
  | cancelled howner hs =>
    have hmove : Move P owner sound r _ := .cancelled howner hs
    exact .of_role (hmove.delivers hsound) fun u => role?_adjustSource _ _ u _
  | expired howner => exact .of_role (delivers_adjustSource r _ _) fun u => role?_adjustSource r _ u _
  | terminated h c reason => exact partings_terminate (h hsound) c reason

theorem Moves.partings (h : Moves P owner sound r r') (hsound : sound) : Partings own r r' := by
  induction h with
  | refl => exact .refl r
  | tail _ hmove ih => exact ih.trans (hmove.partings hsound)

theorem partings_identifyTimeout (h : r.wiring.Sound) (c : ConnectionId) :
    Partings own r (r.identifyTimeout c) :=
  (moves_identifyTimeout id c).partings h

theorem partings_handle (h : r.wiring.Sound) (c : ConnectionId) (m : Signal) :
    Partings own r (r.handle c m) :=
  (moves_handle id c m).partings h

theorem partings_fireDue (h : r.wiring.Sound) : Partings own r r.fireDue := by
  refine fireDue_induction (motive := Partings own r) (fun {s} hs t hr => hr.trans ?_) h (.refl r)
  have hstopped : Partings own s (s.stopTimer (some t.number)) :=
    .of_role (.of_same rfl id fun _ => rfl) fun _ => rfl
  exact hstopped.trans (partings_identifyTimeout (r := s.stopTimer (some t.number)) hs t.connection)

/-! ### Frames -/

private theorem partings_push {m : Signal} : Partings own r (r.push c (.message m)) where
  connected u := by rw [outbox_push, Outbox.connected_pushAll]
  queue u := by
    rw [outbox_push]
    exact prefix_frames_pushAll _ _
  role _ hx := hx
  told _ _ hlive hnone := by
    rw [session?_push] at hnone
    rw [hnone] at hlive
    cases hlive

theorem partings_receive (h : r.wiring.Sound) (c : ConnectionId) (content : Inbound) :
    Partings own r (r.receive c content).1 := by
  have hsame : Partings own r (r.setOutbox c (r.outbox c)) :=
    .of_role (.of_same rfl id (outbox_setOutbox_outbox r c)) fun _ => rfl
  rcases receive_cases r c content with ⟨m, -, -, heq⟩ | ⟨-, heq | ⟨time, -, heq⟩⟩ <;> rw [heq]
  · exact hsame.trans (partings_handle (r := r.setOutbox c (r.outbox c)) h c m)
  · exact hsame
  · exact partings_push

/-! ### Accepted connections -/

/-- An accepted connection that is left out takes no part in the partings. -/
theorem partings_accept (r : Relay) (c : ConnectionId) (role : Role) (offerToReceive : Bool) :
    Partings (some c) r (r.accept c role offerToReceive) := by
  rcases accept_cases r c role offerToReceive with hrefused | hopened
  · rw [hrefused]
    refine ⟨fun u => ?_, fun u => ?_, fun _ hx => hx, fun _ _ hlive hnone => ?_⟩
    · rw [outbox_push, Outbox.connected_pushAll]
    · rw [outbox_push]
      exact prefix_frames_pushAll _ _
    · rw [session?_push] at hnone
      rw [hnone] at hlive
      cases hlive
  · have hother : ∀ {u}, some c ≠ some u → (r.accept c role offerToReceive).session? u = r.session? u :=
      fun hu => hopened.others _ fun he => hu (congrArg some he.symm)
    refine ⟨fun u => ?_, fun u => ?_, fun hu hx => ?_, fun hu _ hlive hnone => ?_⟩
    · rw [hopened.outbox, Outbox.connected_pushAll]
    · rw [hopened.outbox]
      exact prefix_frames_pushAll _ _
    · rw [role?, hother hu] at hx
      exact hx
    · rw [hother hu] at hnone
      rw [hnone] at hlive
      cases hlive

theorem role?_accept_self (h : r.wiring.Sound) (hc : r.session? c = none)
    (hconnected : (r.outbox c).connected = true) (role : Role) (offerToReceive : Bool) :
    (r.accept c role offerToReceive).role? c = some role ∨
      (r.accept c role offerToReceive).dismissed c = true := by
  rcases accept_cases r c role offerToReceive with hrefused | hopened
  · right
    rw [hrefused]
    refine dismissed_of_push (outbox_push r c c _) hconnected ?_
    rw [if_pos rfl]
    rfl
  · left
    obtain ⟨x, hx⟩ := isSome_session?_iff_role?.1 hopened.live
    have houtcome : Outcome r (.accept c role offerToReceive) (r.accept c role offerToReceive) :=
      outcome_apply h hc
    rcases houtcome.role hx with hbefore | ⟨_, haccept⟩
    · rw [role?, hc] at hbefore
      cases hbefore
    · cases haccept
      exact hx

end

end Relay

/-! ### Requests -/

/-- The connection that a request accepts or closes. -/
def Request.own? : Request → Option ConnectionId
  | .accept c _ _ | .close c => some c
  | _ => none

namespace Server

section
variable {s : Server} {q : Request} {c : ConnectionId}

private theorem partings_act {r : Relay} (h : r.wiring.Sound) (hstay : ∀ c, q ≠ .abandon c) :
    Relay.Partings q.own? r (q.act r) := by
  cases q with
  | accept c role offerToReceive => exact Relay.partings_accept r c role offerToReceive
  | message c m => exact Relay.partings_handle h c m
  | frame c content => exact Relay.partings_receive h c content
  | close c => exact Relay.partings_close h c
  | overview => exact .of_role (.of_same rfl id fun _ => rfl) fun _ => rfl
  | abandon c => exact absurd rfl (hstay c)
  | advance milliseconds => exact .of_role (.of_same rfl id fun _ => rfl) fun _ => rfl

/-- After a request, those who have lost their sessions have been queued a close, except for the
connection that was to be closed. -/
theorem partings_serve (hs : s.running = true) (h : s.relay.wiring.Sound)
    (hq : ∀ op ∈ q.operation?, op.Proper s.relay) (hstay : ∀ c, q ≠ .abandon c) :
    Relay.Partings q.own? s.relay (s.serve q).relay := by
  have hact := partings_act h hstay
  rcases serve_cases hs q with ⟨heq, -⟩ | heq <;> rw [heq]
  · exact hact
  · exact hact.trans (Relay.partings_fireDue (sound_act h hq))

/-- A connection that is accepted has a session of its role, or has been queued a close. -/
theorem role?_serve_accept (hs : s.running = true) (h : s.relay.wiring.Sound) (hc : s.relay.session? c = none)
    (hconnected : (s.relay.outbox c).connected = true) (role : Role) (offerToReceive : Bool) :
    (s.serve (.accept c role offerToReceive)).relay.role? c = some role ∨
      (s.serve (.accept c role offerToReceive)).relay.dismissed c = true := by
  have hq : ∀ op ∈ Request.operation? (.accept c role offerToReceive), op.Proper s.relay := by
    intro op hop
    obtain rfl := Option.some.inj hop
    exact hc
  have haccept := Relay.partings_accept s.relay c role offerToReceive
  have hself := Relay.role?_accept_self h hc hconnected role offerToReceive
  rcases serve_cases hs (.accept c role offerToReceive) with ⟨heq, -⟩ | heq
  · rw [heq]
    exact hself
  · rw [heq]
    have hfire : Relay.Partings none (Request.act (.accept c role offerToReceive) s.relay) _ :=
      Relay.partings_fireDue (sound_act h hq)
    rcases hself with hrole | hdismissed
    · -- a timer that goes off could at most throw it out
      cases hlive : (Request.act (.accept c role offerToReceive) s.relay).fireDue.role? c with
      | none =>
        right
        refine hfire.told (Option.some_ne_none c).symm ((haccept.connected c).trans hconnected) ?_ ?_
        · exact Relay.isSome_session?_iff_role?.2 ⟨role, hrole⟩
        · exact Relay.session?_eq_none_iff_role?.2 hlive
      | some x =>
        left
        have hx := hfire.role (Option.some_ne_none c).symm hlive
        exact congrArg some (Option.some.inj (hx.symm.trans hrole))
    · exact .inr (Relay.dismissed_of_prefix (hfire.queue c) hdismissed)

/-- A connection that is closed is not live. -/
theorem session?_serve_close (hs : s.running = true) (h : s.relay.wiring.Sound) (c : ConnectionId) :
    (s.serve (.close c)).relay.session? c = none := by
  have hclosed := Relay.session?_close_self h.toLinked c
  have hsound : (s.relay.close c).wiring.Sound := (Relay.changes_close h c).sound h
  rcases serve_cases hs (.close c) with ⟨heq, -⟩ | heq <;> rw [heq]
  · exact hclosed
  · exact (Relay.delivers_fireDue hsound).live hclosed

/-- Nothing happens if a connection is closed that is not live, since no timer is due. -/
theorem close_of_dead (hs : s.running = true) (h : s.relay.OnTime) (hc : s.relay.session? c = none) :
    s.close c = .ok s := by
  have hdue : s.relay.dueTimers = [] := by
    have hnone : s.relay.timers.filter (fun t => t.deadline ≤ s.relay.clock) = [] :=
      List.filter_eq_nil_iff.2 fun t ht => by simpa using h.ahead t ht
    rw [Relay.dueTimers, hnone, List.mergeSort_nil]
  have hrelay : (s.relay.close c).fireDue = s.relay := by
    rw [Relay.close_of_not_live hc, Relay.fireDue, hdue]
    rfl
  rw [close, perform, if_pos hs, hrelay]

end

end Server

end SignalRelay
