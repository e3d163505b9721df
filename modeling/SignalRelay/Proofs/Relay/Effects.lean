import SignalRelay.Proofs.Directory.Replay
import SignalRelay.Proofs.Relay.Views
import SignalRelay.Relay.Operation

/-!
# Effects

What an operation does to a relay is a list of effects: frames are queued, sessions or timers are
replaced, or a directory is changed.  Which effects these are does not depend on the queues: nothing that
is done looks at what has been queued for somebody, or at whether anybody is there to take it.

So two relays that differ in their queues only, `Twins`, stay twins under the same operation, and come to
what they are then by the same effects, which is what `Tandem` says.  There is one lemma for each function
of the relay, and `Twins.apply` for whole operations.  That the far side goes away is the one operation
that is about a queue, and it is left out.
-/

namespace SignalRelay

/-- A piece of what an operation does. -/
inductive Effect
  | queue (c : ConnectionId) (frames : List Outbound)
  | sessions (sessions : Table Session)
  | streamers (update : StreamerDirectory.Update)
  | players (update : PlayerDirectory.Update)
  | timers (timers : List Timer) (nextTimer : Nat)

/-- Whether an operation is that the far side of a connection goes away. -/
def Operation.isAbandon : Operation → Bool
  | .abandon _ => true
  | _ => false

namespace Relay

def effect (r : Relay) : Effect → Relay
  | .queue c frames => r.setOutbox c ((r.outbox c).pushAll frames)
  | .sessions sessions => { r with sessions }
  | .streamers update => { r with streamers := r.streamers.update update }
  | .players update => { r with players := r.players.update update }
  | .timers timers nextTimer => { r with timers, nextTimer }

/-- A relay without its queues. -/
def quiet (r : Relay) : Relay := { r with outboxes := Table.empty }

/-- Two relays that differ in their queues only. -/
def Twins (r s : Relay) : Prop := r.quiet = s.quiet

/-- The twins `r'` and `s'` are what `r` and `s` have become by the same effects. -/
structure Tandem (r s r' s' : Relay) : Prop where
  twins : Twins r' s'
  effects : ∃ effects : List Effect, r' = effects.foldl effect r ∧ s' = effects.foldl effect s

section
variable {r s r' s' : Relay}

/-! ### Twins -/

theorem Twins.refl (r : Relay) : Twins r r := rfl

theorem Twins.trans (h : Twins r s) (h' : Twins s r') : Twins r r' := Eq.trans h h'

section
variable (h : Twins r s)
include h

theorem Twins.symm : Twins s r := Eq.symm h

theorem Twins.settings : s.settings = r.settings := (congrArg Relay.settings h).symm

theorem Twins.sessions : s.sessions = r.sessions := (congrArg Relay.sessions h).symm

theorem Twins.streamers : s.streamers = r.streamers := (congrArg Relay.streamers h).symm

theorem Twins.players : s.players = r.players := (congrArg Relay.players h).symm

theorem Twins.ambient : s.ambient = r.ambient := (congrArg Relay.ambient h).symm

theorem Twins.clock : s.clock = r.clock := (congrArg Relay.clock h).symm

theorem Twins.timers : s.timers = r.timers := (congrArg Relay.timers h).symm

theorem Twins.nextTimer : s.nextTimer = r.nextTimer := (congrArg Relay.nextTimer h).symm

theorem Twins.session? (c : ConnectionId) : s.session? c = r.session? c := (congrArg (·.session? c) h).symm

theorem Twins.role? (c : ConnectionId) : s.role? c = r.role? c := (congrArg (·.role? c) h).symm

theorem Twins.source? (c : ConnectionId) : s.source? c = r.source? c := (congrArg (·.source? c) h).symm

theorem Twins.viewer? (c : ConnectionId) : s.viewer? c = r.viewer? c := (congrArg (·.viewer? c) h).symm

theorem Twins.isSfu (c : ConnectionId) : s.isSfu c = r.isSfu c := (congrArg (·.isSfu c) h).symm

theorem Twins.watched? (c : ConnectionId) : s.watched? c = r.watched? c := (congrArg (·.watched? c) h).symm

end

theorem Twins.effect (h : Twins r s) (e : Effect) : Twins (r.effect e) (s.effect e) := by
  have hquiet : ∀ r : Relay, (r.effect e).quiet = (r.quiet.effect e).quiet := fun r => by cases e <;> rfl
  unfold Twins at h ⊢
  rw [hquiet r, hquiet s, h]

/-! ### Tandems -/

theorem Tandem.start (h : Twins r s) : Tandem r s r s := ⟨h, [], rfl, rfl⟩

theorem Tandem.effect (h : Tandem r s r' s') (e : Effect) : Tandem r s (r'.effect e) (s'.effect e) := by
  obtain ⟨htwins, effects, hr, hs⟩ := h
  refine ⟨htwins.effect e, effects ++ [e], ?_, ?_⟩
  · rw [List.foldl_append, ← hr]
    rfl
  · rw [List.foldl_append, ← hs]
    rfl

theorem Tandem.foldl {α : Type} {f : Relay → α → Relay}
    (hf : ∀ {r' s' : Relay}, Tandem r s r' s' → ∀ x, Tandem r s (f r' x) (f s' x)) (l : List α)
    (h : Tandem r s r' s') : Tandem r s (l.foldl f r') (l.foldl f s') := by
  induction l generalizing r' s' with
  | nil => exact h
  | cons x l ih => exact ih (hf h x)

/-! ### Building blocks -/

section
variable (h : Tandem r s r' s') (c : ConnectionId)
include h

theorem Tandem.push (f : Outbound) : Tandem r s (r'.push c f) (s'.push c f) := h.effect (.queue c [f])

theorem Tandem.send (m : Signal) : Tandem r s (r'.send c m) (s'.send c m) := by
  unfold Relay.send
  rw [h.twins.session?]
  split
  · exact h.push c _
  · exact h

theorem Tandem.sendSettings : Tandem r s (r'.sendSettings c) (s'.sendSettings c) := by
  unfold Relay.sendSettings
  rw [h.twins.settings]
  exact h.send c _

theorem Tandem.insertSession (x : Session) : Tandem r s (r'.insertSession c x) (s'.insertSession c x) := by
  unfold Relay.insertSession
  rw [h.twins.sessions]
  exact h.effect (.sessions _)

theorem Tandem.eraseSession : Tandem r s (r'.eraseSession c) (s'.eraseSession c) := by
  unfold Relay.eraseSession
  rw [h.twins.sessions]
  exact h.effect (.sessions _)

theorem Tandem.adjustSource (f : Source → Source) :
    Tandem r s (r'.adjustSource c f) (s'.adjustSource c f) := by
  unfold Relay.adjustSource
  rw [h.twins.sessions]
  exact h.effect (.sessions _)

theorem Tandem.setSubscribed (id : Option String) :
    Tandem r s (r'.setSubscribed c id) (s'.setSubscribed c id) := by
  unfold Relay.setSubscribed adjustViewer
  rw [h.twins.sessions]
  exact h.effect (.sessions _)

theorem Tandem.stopTimer (timer : Option Nat) : Tandem r s (r'.stopTimer timer) (s'.stopTimer timer) := by
  have hone := h.effect (.timers (r'.timers.filter fun t => some t.number ≠ timer) r'.nextTimer)
  unfold Relay.stopTimer
  rw [h.twins.timers]
  simpa only [Relay.effect, ← h.twins.nextTimer] using hone

theorem Tandem.startTimer : Tandem r s (r'.startTimer c) (s'.startTimer c) := by
  unfold Relay.startTimer
  rw [h.twins.timers, h.twins.nextTimer, h.twins.clock, h.twins.settings]
  exact (h.adjustSource c _).effect (.timers _ _)

/-- A directory is only changed as directories are. -/
theorem Tandem.withStreamers {d : StreamerDirectory} (update : StreamerDirectory.Update)
    (hd : r'.streamers.update update = d) :
    Tandem r s { r' with streamers := d } { s' with streamers := d } := by
  have hone := h.effect (.streamers update)
  simp only [Relay.effect, h.twins.streamers, hd] at hone
  exact hone

theorem Tandem.withPlayers {d : PlayerDirectory} (update : PlayerDirectory.Update)
    (hd : r'.players.update update = d) : Tandem r s { r' with players := d } { s' with players := d } := by
  have hone := h.effect (.players update)
  simp only [Relay.effect, h.twins.players, hd] at hone
  exact hone

theorem Tandem.relayToPlayer (kind : RoutedKind) (payload : Payload) :
    Tandem r s (r'.relayToPlayer kind payload) (s'.relayToPlayer kind payload) := by
  unfold Relay.relayToPlayer
  rw [h.twins.players]
  split
  · exact h
  · split
    · exact h
    · exact h.send _ _

/-! ### Subscriptions -/

theorem Tandem.unsubscribe : Tandem r s (r'.unsubscribe c) (s'.unsubscribe c) := by
  unfold Relay.unsubscribe
  rw [h.twins.viewer?]
  split
  · exact h
  · split
    · exact h
    · have h := h.setSubscribed c none
      dsimp only
      rw [h.twins.streamers]
      split
      · exact h
      · exact (h.adjustSource _ _).send _ _

theorem Tandem.subscribe (id : String) : Tandem r s (r'.subscribe c id) (s'.subscribe c id) := by
  unfold Relay.subscribe
  rw [h.twins.streamers]
  split
  · exact h.send c _
  · split
    · exact h
    · rw [h.twins.viewer?]
      split
      · exact h
      · rename_i entry _ _ _ _ _
        have h := ((h.unsubscribe c).setSubscribed c (some id)).adjustSource entry.connection
          (·.addSubscriber c)
        dsimp only
        rw [h.twins.isSfu]
        exact h.send _ _

end

/-! ### Teardowns

The recursive call of a teardown is a hypothesis of the lemmas about one call. -/

theorem Tandem.markStreaming (h : Tandem r s r' s') (c : ConnectionId) (streaming : Bool) :
    Tandem r s (r'.markStreaming c streaming) (s'.markStreaming c streaming) := by
  unfold Relay.markStreaming
  rw [h.twins.source?, h.twins.streamers]
  split
  · exact h
  · exact h.withStreamers (.markStreaming _ streaming) rfl

theorem Tandem.retirePlayer (h : Tandem r s r' s') (id : String) :
    Tandem r s (r'.retirePlayer id) (s'.retirePlayer id) := by
  unfold Relay.retirePlayer
  rw [h.twins.players]
  exact h.withPlayers (.remove id) rfl

section
variable {shut : Relay → ConnectionId → Relay}
  (hshut : ∀ {r' s' : Relay}, Tandem r s r' s' → ∀ c, Tandem r s (shut r' c) (shut s' c))

include hshut

theorem Tandem.terminateBy (h : Tandem r s r' s') (c : ConnectionId) (reason : String) :
    Tandem r s (terminateBy shut r' c reason) (terminateBy shut s' c reason) := by
  unfold Relay.terminateBy
  rw [h.twins.session?]
  split
  · exact hshut (h.push c _) c
  · exact h

theorem Tandem.releaseBy (id : String) (h : Tandem r s r' s') (c : ConnectionId) :
    Tandem r s (releaseBy shut id r' c) (releaseBy shut id s' c) := by
  unfold Relay.releaseBy
  rw [h.twins.session?]
  split
  · exact h
  · exact h
  · split
    · exact (h.setSubscribed c none).send c _
    · exact h
  · split
    · exact ((h.setSubscribed c none).markStreaming c false).terminateBy hshut c sourceLost
    · exact h

theorem Tandem.retireSourceBy (h : Tandem r s r' s') (source : Source) :
    Tandem r s (retireSourceBy shut r' source) (retireSourceBy shut s' source) := by
  unfold Relay.retireSourceBy retireBy
  rw [h.twins.streamers]
  split
  · exact h
  · rename_i id _
    exact .foldl (.releaseBy hshut id) _ (h.withStreamers (.remove id) rfl)

theorem Tandem.closeBy (h : Tandem r s r' s') (c : ConnectionId) :
    Tandem r s (closeBy shut r' c) (closeBy shut s' c) := by
  unfold Relay.closeBy
  rw [h.twins.session?]
  split
  · exact h
  · exact ((h.eraseSession c).stopTimer _).retireSourceBy hshut _
  · exact ((h.unsubscribe c).eraseSession c).retirePlayer _
  · have h := h.unsubscribe c
    dsimp only
    rw [h.twins.session?]
    split
    · exact ((h.eraseSession c).retireSourceBy hshut _).retirePlayer _
    · exact h

end

theorem Tandem.closeWithin (fuel : Nat) (h : Tandem r s r' s') (c : ConnectionId) :
    Tandem r s (closeWithin fuel r' c) (closeWithin fuel s' c) := by
  induction fuel generalizing r' s' c with
  | zero => exact h
  | succ fuel ih => exact h.closeBy (fun h c => ih h c) c

section
variable (h : Tandem r s r' s')
include h

theorem Tandem.close (c : ConnectionId) : Tandem r s (r'.close c) (s'.close c) := by
  unfold Relay.close
  rw [h.twins.sessions]
  exact h.closeWithin _ c

theorem Tandem.terminate (c : ConnectionId) (reason : String) :
    Tandem r s (r'.terminate c reason) (s'.terminate c reason) :=
  h.terminateBy (fun h c => h.close c) c reason

theorem Tandem.disconnectPlayer (playerId reason : String) :
    Tandem r s (r'.disconnectPlayer playerId reason) (s'.disconnectPlayer playerId reason) := by
  unfold Relay.disconnectPlayer
  rw [h.twins.players]
  split
  · exact h
  · exact h.terminate _ reason

variable (c : ConnectionId)

/-! ### Players -/

theorem Tandem.relayToWatched (kind : RoutedKind) (payload : Payload) :
    Tandem r s (r'.relayToWatched c kind payload) (s'.relayToWatched c kind payload) := by
  unfold Relay.relayToWatched
  rw [h.twins.watched?, h.twins.viewer?]
  split
  · exact h.send _ _
  · exact h

theorem Tandem.relayToSource (kind : RoutedKind) (payload : Payload) :
    Tandem r s (r'.relayToSource c kind payload) (s'.relayToSource c kind payload) := by
  unfold Relay.relayToSource
  rw [h.twins.watched?, h.twins.streamers]
  split
  · exact h.relayToWatched c kind payload
  · split
    · exact h.terminate c _
    · exact (h.subscribe c _).relayToWatched c kind payload

theorem Tandem.openPlayer (offerToReceive : Bool) :
    Tandem r s (r'.openPlayer c offerToReceive) (s'.openPlayer c offerToReceive) := by
  unfold Relay.openPlayer
  rw [h.twins.players]
  exact ((h.withPlayers (.add c) rfl).insertSession c _).sendSettings c

theorem Tandem.handlePlayer (m : Signal) : Tandem r s (r'.handlePlayer c m) (s'.handlePlayer c m) := by
  unfold Relay.handlePlayer
  split
  · exact h.subscribe c _
  · exact h.unsubscribe c
  · unfold Relay.sendStreamerList
    rw [h.twins.streamers]
    exact h.send c _
  · split
    all_goals first
      | exact h.relayToSource c _ _
      | exact h
  · exact h

/-! ### Streamers -/

theorem Tandem.openStreamer : Tandem r s (r'.openStreamer c) (s'.openStreamer c) :=
  (((h.insertSession c _).sendSettings c).send c _).startTimer c

theorem Tandem.register (desired : String) : Tandem r s (r'.register c desired) (s'.register c desired) := by
  unfold Relay.register
  rw [h.twins.streamers]
  split
  · rename_i id d hadd
    have hupdate : r'.streamers.update (.add desired c true) = d := by
      simp only [StreamerDirectory.update, hadd]
    exact ((h.withStreamers _ hupdate).adjustSource c _).send c _
  · exact h.terminate c _

omit c in
theorem Tandem.followRename (new : String) (c : ConnectionId) :
    Tandem r s (followRename new r' c) (followRename new s' c) := by
  unfold Relay.followRename
  rw [h.twins.viewer?]
  split
  · exact (h.setSubscribed c _).send c _
  · exact h

theorem Tandem.renameStreamer (current desired : String) :
    Tandem r s (r'.renameStreamer c current desired) (s'.renameStreamer c current desired) := by
  unfold Relay.renameStreamer
  rw [h.twins.streamers]
  split
  · exact h
  · rename_i new d hrename
    have hupdate : r'.streamers.update (.rename current desired) = d := by
      simp only [StreamerDirectory.update, hrename]
    have h := (h.withStreamers _ hupdate).adjustSource c fun source => { source with streamerId := some new }
    dsimp only
    rw [h.twins.source?]
    split
    · exact h.send c _
    · exact (Tandem.foldl (fun h c => h.followRename new c) _ h).send c _

theorem Tandem.claimId (desired : String) : Tandem r s (r'.claimId c desired) (s'.claimId c desired) := by
  unfold Relay.claimId
  rw [h.twins.source?]
  split
  · exact h
  · have h := h.adjustSource c fun source => { source with identified := true }
    dsimp only
    split
    · exact h.renameStreamer c _ desired
    · exact ((h.stopTimer _).adjustSource c _).register c desired

theorem Tandem.identifyTimeout : Tandem r s (r'.identifyTimeout c) (s'.identifyTimeout c) := by
  unfold Relay.identifyTimeout
  rw [h.twins.source?]
  split
  · exact h
  · split
    · have h := h.adjustSource c fun source => { source with timer := none }
      dsimp only
      rw [h.twins.streamers]
      exact (h.withStreamers .takeFallbackId rfl).register c _
    · exact h

theorem Tandem.relayToUnits (m : Signal) : Tandem r s (r'.relayToUnits c m) (s'.relayToUnits c m) := by
  unfold Relay.relayToUnits
  rw [h.twins.source?]
  refine .foldl (fun h d => ?_) _ h
  rw [h.twins.isSfu]
  split
  · exact h.send d m
  · exact h

theorem Tandem.handleStreamer (m : Signal) : Tandem r s (r'.handleStreamer c m) (s'.handleStreamer c m) := by
  unfold Relay.handleStreamer
  split
  · exact h.claimId c _
  · exact h.disconnectPlayer _ _
  · split
    all_goals first
      | exact h.relayToPlayer _ _
      | exact h.relayToUnits c _
      | exact h
  · exact h

/-! ### Forwarding units -/

theorem Tandem.openSfu : Tandem r s (r'.openSfu c) (s'.openSfu c) := by
  have hclaim : s'.settings.sfuStreamerId = r'.settings.sfuStreamerId := congrArg _ h.twins.settings
  unfold Relay.openSfu
  rw [h.twins.streamers, hclaim, h.twins.players]
  split
  · exact h.push c _
  · rename_i id d hadd
    have hupdate : r'.streamers.update (.add r'.settings.sfuStreamerId c false) = d := by
      simp only [StreamerDirectory.update, hadd]
    have h := (h.withStreamers _ hupdate).withPlayers (.add c) rfl
    exact ((h.insertSession c _).sendSettings c).send c _

theorem Tandem.sendDataChannels (payload : Payload) :
    Tandem r s (r'.sendDataChannels c payload) (s'.sendDataChannels c payload) := by
  unfold Relay.sendDataChannels
  rw [h.twins.watched?, h.twins.viewer?]
  split
  · exact h.send _ _
  · exact h

theorem Tandem.handleSfu (m : Signal) : Tandem r s (r'.handleSfu c m) (s'.handleSfu c m) := by
  unfold Relay.handleSfu
  split
  · exact h.adjustSource c _
  · exact h.markStreaming c true
  · exact h.markStreaming c false
  · exact h.handlePlayer c _
  · exact h.handlePlayer c _
  · exact h.handlePlayer c _
  · exact h.disconnectPlayer _ _
  · split
    · exact h.handlePlayer c _
    · exact h.handlePlayer c _
    · exact h.handlePlayer c _
    · exact h.relayToPlayer _ _
    · exact h.relayToPlayer _ _
    · split
      · exact h.relayToPlayer _ _
      · exact h.relayToSource c _ _
    · exact h.sendDataChannels c _
    · exact h
  · exact h

/-! ### Operations -/

theorem Tandem.accept (role : Role) (offerToReceive : Bool) :
    Tandem r s (r'.accept c role offerToReceive) (s'.accept c role offerToReceive) := by
  cases role with
  | streamer => exact h.openStreamer c
  | player => exact h.openPlayer c offerToReceive
  | sfu => exact h.openSfu c

theorem Tandem.handle (m : Signal) : Tandem r s (r'.handle c m) (s'.handle c m) := by
  unfold Relay.handle
  rw [h.twins.role?]
  split
  · exact h
  · exact h.handleStreamer c m
  · exact h.handlePlayer c m
  · exact h.handleSfu c m

omit h in
/-- What is made of a frame, and whether it is answered, does not depend on the queue. -/
private theorem exists_receive (frame : Inbound) :
    ∃ (answers : List Outbound) (m : Option Signal), ∀ box : Outbox,
      box.receive frame = (box.pushAll answers, m) := by
  unfold Outbox.receive
  split
  · exact ⟨[], none, fun _ => rfl⟩
  · rename_i time _
    exact ⟨[.message (.pong time)], none, fun _ => rfl⟩
  · rename_i m _ _
    exact ⟨[], some m, fun _ => rfl⟩

theorem Tandem.receive (frame : Inbound) : Tandem r s (r'.receive c frame).1 (s'.receive c frame).1 := by
  obtain ⟨answers, m, hreceive⟩ := exists_receive frame
  have h := h.effect (.queue c answers)
  simp only [Relay.receive, hreceive]
  cases m with
  | none => exact h
  | some m => exact h.handle c m

end

/-- The same operation has the same effects on twins. -/
theorem Twins.apply (h : Twins r s) {op : Operation} (hop : op.isAbandon = false) :
    Tandem r s (r.apply op) (s.apply op) := by
  have h := Tandem.start h
  cases op with
  | accept c role offerToReceive => exact h.accept c role offerToReceive
  | message c m => exact h.handle c m
  | frame c frame => exact h.receive c frame
  | identifyTimeout c => exact h.identifyTimeout c
  | close c => exact h.close c
  | terminate c reason => exact h.terminate c reason
  | abandon c => cases hop

end

end Relay

end SignalRelay
