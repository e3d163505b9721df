import SignalRelay.Proofs.Lists.Folds
import SignalRelay.Proofs.Relay.Dispatches

/-!
# Preferences

Whether its source is to make the offer is settled when a viewer's session is opened, and is not
changed after that.

* `Steady` relates two relays if no session has come in between, and none has changed its role or preference.
* `OpenedAs` says of a session that it is what the admission of its connection has made it.
* `openedAs_run`: after every run, a session is what the last admission of its connection has made it.
-/

namespace SignalRelay

/-- Whether a viewer of a role that is opened with `offerToReceive` wants its source to make the offer.  A
forwarding unit always does. -/
def Role.preference? (offerToReceive : Bool) : Role → Option Bool
  | .streamer => none
  | .player => some !offerToReceive
  | .sfu => some true

/-- Whether the viewer of a session wants its source to make the offer. -/
def Session.preference? (s : Session) : Option Bool := s.viewer?.map Viewer.sendOffer

/-- What an operation accepts the connection `p` as. -/
def Operation.admission? (p : ConnectionId) : Operation → Option (Role × Bool)
  | .accept c role offerToReceive => if c = p then some (role, offerToReceive) else none
  | _ => none

/-- What the operations have accepted the connection `p` as the last time. -/
def lastAdmission? (p : ConnectionId) (ops : List Operation) : Option (Role × Bool) :=
  (ops.filterMap (Operation.admission? p)).getLast?

theorem lastAdmission?_cons (p : ConnectionId) (op : Operation) (ops : List Operation) :
    lastAdmission? p (op :: ops) = (lastAdmission? p ops).or (op.admission? p) :=
  getLast?_filterMap_cons _ op ops

theorem Session.preference?_mapSource (f : Source → Source) (s : Session) :
    (s.mapSource f).preference? = s.preference? := by
  cases s <;> rfl

theorem Session.preference?_setSubscribed (id : Option String) (s : Session) :
    (s.mapViewer fun viewer => { viewer with subscribed := id }).preference? = s.preference? := by
  cases s <;> rfl

namespace Relay

/-- Every session that is there afterwards was there before, in the same role and with the same preference. -/
structure Steady (r r' : Relay) : Prop where
  session : ∀ {d s'}, r'.session? d = some s' →
    ∃ s, r.session? d = some s ∧ s'.role = s.role ∧ s'.preference? = s.preference?

/-- The session of `p`, if it is live, has been opened as `admission` says. -/
def OpenedAs (p : ConnectionId) (admission : Option (Role × Bool)) (r : Relay) : Prop :=
  ∀ s, r.session? p = some s → ∃ offerToReceive, admission = some (s.role, offerToReceive) ∧
    s.preference? = s.role.preference? offerToReceive

section
variable {P : Signal → Prop} {owner : Option ConnectionId} {sound : Prop} {r r' r'' : Relay}
    {c p : ConnectionId}

/-! ### Moves -/

theorem Steady.of_same (h : ∀ d, r'.session? d = r.session? d) : Steady r r' where
  session {d s'} hs := ⟨s', h d ▸ hs, rfl, rfl⟩

theorem Steady.refl (r : Relay) : Steady r r := .of_same fun _ => rfl

theorem Steady.trans (h : Steady r r') (h' : Steady r' r'') : Steady r r'' where
  session := by
    intro d s'' hs''
    obtain ⟨s', hs', hrole', hpref'⟩ := h'.session hs''
    obtain ⟨s, hs, hrole, hpref⟩ := h.session hs'
    exact ⟨s, hs, hrole'.trans hrole, hpref'.trans hpref⟩

theorem steady_adjustSource (r : Relay) (c : ConnectionId) (f : Source → Source) :
    Steady r (r.adjustSource c f) where
  session := by
    intro d s' hs'
    rw [session?_adjustSource] at hs'
    split at hs'
    · obtain ⟨s, hs, rfl⟩ := Option.map_eq_some_iff.1 hs'
      exact ⟨s, hs, Session.role_mapSource f s, Session.preference?_mapSource f s⟩
    · exact ⟨s', hs', rfl, rfl⟩

theorem steady_setSubscribed (r : Relay) (c : ConnectionId) (id : Option String) :
    Steady r (r.setSubscribed c id) where
  session := by
    intro d s' hs'
    rw [session?_setSubscribed] at hs'
    split at hs'
    · obtain ⟨s, hs, rfl⟩ := Option.map_eq_some_iff.1 hs'
      exact ⟨s, hs, Session.role_mapViewer _ s, Session.preference?_setSubscribed id s⟩
    · exact ⟨s', hs', rfl, rfl⟩

/-- Whoever is left after a teardown has at most lost a subscription or a subscriber. -/
theorem TornDown.steady {gone : List ConnectionId} {first : List Outbound} (h : TornDown r c gone first r') :
    Steady r r' where
  session := by
    intro d s' hs'
    rw [h.session?] at hs'
    split at hs'
    · cases hs'
    · obtain ⟨s, hs, rfl⟩ := Option.map_eq_some_iff.1 hs'
      refine ⟨s, hs, ?_, ?_⟩
      · simp only [settled]
        split <;> split <;> simp
      · simp only [settled]
        split <;> split <;> simp only [Session.preference?_setSubscribed, Session.preference?_mapSource]

theorem steady_close (h : r.wiring.Linked) (c : ConnectionId) : Steady r (r.close c) := by
  rcases close_cases h c with ⟨-, heq⟩ | ⟨-, gone, htorn⟩
  · rw [heq]
    exact .refl r
  · exact htorn.steady

theorem steady_terminate (h : r.wiring.Linked) (c : ConnectionId) (reason : String) :
    Steady r (r.terminate c reason) := by
  rcases terminate_cases h c reason with ⟨-, heq⟩ | ⟨-, gone, htorn⟩
  · rw [heq]
    exact .refl r
  · exact htorn.steady

theorem Move.steady (h : Move P owner sound r r') (hsound : sound) : Steady r r' := by
  cases h with
  | send hm c => exact .of_same fun d => session?_send r c d _
  | source c hf => exact steady_adjustSource r c _
  | viewer c id => exact steady_setSubscribed r c id
  | listed hd => exact .of_same fun _ => rfl
  | @cancelled c source howner hs =>
    have hstopped : Steady r (r.stopTimer source.timer) := .of_same fun _ => rfl
    exact hstopped.trans (steady_adjustSource _ c _)
  | expired howner => exact steady_adjustSource r _ _
  | terminated h c reason => exact steady_terminate (h hsound).toLinked c reason

theorem Moves.steady (h : Moves P owner sound r r') (hsound : sound) : Steady r r' := by
  induction h with
  | refl => exact .refl r
  | tail _ hmove ih => exact ih.trans (hmove.steady hsound)

/-! ### Operations -/

/-- Only a connection that is accepted gets a session. -/
theorem steady_apply (h : r.wiring.Sound) {op : Operation} (hop : op.opened? = none) :
    Steady r (r.apply op) := by
  cases op with
  | accept c role offerToReceive => cases hop
  | message c m => exact (moves_handle id c m).steady h
  | frame c content =>
    show Steady r (r.receive c content).1
    rcases receive_cases r c content with ⟨m, -, -, heq⟩ | ⟨-, heq | ⟨time, -, heq⟩⟩
    · rw [heq]
      have hsame : Steady r (r.setOutbox c (r.outbox c)) := .of_same fun _ => rfl
      exact hsame.trans ((moves_handle (r := r.setOutbox c (r.outbox c)) id c m).steady h)
    · exact heq ▸ .of_same fun _ => rfl
    · exact heq ▸ .of_same fun _ => rfl
  | identifyTimeout c => exact (moves_identifyTimeout id c).steady h
  | close c => exact steady_close h.toLinked c
  | terminate c reason => exact steady_terminate h.toLinked c reason
  | abandon c => exact .of_same fun _ => rfl

/-- What a session is when it is put in its place, it is when it has been greeted. -/
private theorem Steady.of_insertSession {s : Relay} {new s' : Session} (h : Steady (s.insertSession c new) r')
    (hs' : r'.session? c = some s') : s'.role = new.role ∧ s'.preference? = new.preference? := by
  obtain ⟨found, hfound, hrole, hpref⟩ := h.session hs'
  rw [session?_insertSession, if_pos rfl] at hfound
  obtain rfl := Option.some.inj hfound
  exact ⟨hrole, hpref⟩

private theorem steady_send (r : Relay) (c : ConnectionId) (m : Signal) : Steady r (r.send c m) :=
  .of_same fun d => session?_send r c d m

/-- A session is opened in the role that is asked for, and with the preference that goes with it. -/
theorem role_and_preference_accept (hc : r.session? c = none) (role : Role) (offerToReceive : Bool)
    {s : Session} (hs : (r.accept c role offerToReceive).session? c = some s) :
    s.role = role ∧ s.preference? = role.preference? offerToReceive := by
  cases role with
  | streamer =>
    have hgreeted : Steady (r.insertSession c (.streamer (Source.fresh none)))
        (((r.insertSession c (.streamer (Source.fresh none))).sendSettings c).send c .identify) :=
      (steady_send _ c _).trans (steady_send _ c .identify)
    have hstarted :
        Steady (r.insertSession c (.streamer (Source.fresh none))) (r.accept c .streamer offerToReceive) :=
      hgreeted.trans ⟨(steady_adjustSource _ c fun source => { source with timer := some _ }).session⟩
    exact hstarted.of_insertSession hs
  | player =>
    exact (steady_send (insertSession { r with players := (r.players.add c).2 } c
      (.player ⟨(r.players.add c).1, none, !offerToReceive⟩)) c _).of_insertSession hs
  | sfu =>
    change (r.openSfu c).session? c = some s at hs
    unfold openSfu at hs
    split at hs
    · rw [session?_push, hc] at hs
      cases hs
    · exact ((steady_send (insertSession _ c _) c _).trans (steady_send _ c .identify)).of_insertSession hs

theorem OpenedAs.apply {admission : Option (Role × Bool)} (h : OpenedAs p admission r) (hr : r.wiring.Sound)
    {op : Operation} (hop : op.Proper r) : OpenedAs p ((op.admission? p).or admission) (r.apply op) := by
  by_cases hopened : op.opened? = none
  · have hnone : op.admission? p = none := by
      cases op with
      | accept c role offerToReceive => cases hopened
      | _ => rfl
    intro s' hs'
    obtain ⟨s, hs, hrole, hpref⟩ := (steady_apply hr hopened).session hs'
    obtain ⟨offerToReceive, hadmission, hopening⟩ := h s hs
    exact ⟨offerToReceive, by rw [hnone, Option.none_or, hadmission, hrole], by rw [hpref, hrole, hopening]⟩
  · obtain ⟨c, role, offerToReceive, rfl⟩ : ∃ c role offerToReceive, op = .accept c role offerToReceive := by
      cases op with
      | accept c role offerToReceive => exact ⟨c, role, offerToReceive, rfl⟩
      | _ => exact absurd rfl hopened
    intro s' hs'
    by_cases hp : c = p
    · subst hp
      obtain ⟨hrole, hpref⟩ := role_and_preference_accept hop role offerToReceive hs'
      exact ⟨offerToReceive, by simp [Operation.admission?, hrole], hrole.symm ▸ hpref⟩
    · have hsame := session?_accept_of_ne r role offerToReceive (Ne.symm hp)
      simpa [Operation.admission?, hp] using h s' (hsame.symm.trans hs')

/-- A run leaves a session as the last admission of its connection has made it. -/
theorem OpenedAs.run {admission : Option (Role × Bool)} {ops : List Operation} (h : OpenedAs p admission r)
    (hr : r.wiring.Sound) (hops : r.Allows ops) :
    OpenedAs p ((lastAdmission? p ops).or admission) (r.run ops) := by
  induction ops generalizing r admission with
  | nil => exact h
  | cons op ops ih =>
    -- what comes later counts, and what has been counts only if nothing comes
    rw [lastAdmission?_cons, Option.or_assoc]
    exact ih (h.apply hr hops.1) ((outcome_apply hr hops.1).sound hr) hops.2

theorem openedAs_run {settings : Settings} {ops : List Operation} (hops : (fresh settings).Allows ops)
    (p : ConnectionId) : OpenedAs p (lastAdmission? p ops) ((fresh settings).run ops) := by
  have hempty : OpenedAs p none (fresh settings) := fun s hs => by cases hs
  rw [← Option.or_none (o := lastAdmission? p ops)]
  exact hempty.run (sound_fresh settings) hops

end

end Relay

end SignalRelay
