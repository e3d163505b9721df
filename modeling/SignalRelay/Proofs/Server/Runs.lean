import SignalRelay.Proofs.Relay.Finality

/-!
# Runs of a server

What can happen to a server before it is shut down are requests: commands, frames, time that passes, and
far sides that go away.  A server does what the relay does, and then lets the timers go off that are due.

* `serve_cases`: what a request does to a server that runs.
* `sound_run` and `final_run` carry over what is known of the relay.
* `error_of_stopped`: a server that does not run refuses every command.
-/

namespace SignalRelay

/-- Something that happens to a server. -/
inductive Request
  | accept (c : ConnectionId) (role : Role) (offerToReceive : Bool)
  | message (c : ConnectionId) (m : Signal)
  | frame (c : ConnectionId) (content : Inbound)
  | close (c : ConnectionId)
  | overview
  | abandon (c : ConnectionId)
  | advance (milliseconds : Nat)
  deriving DecidableEq

namespace Request

/-- What a request means to the relay, unless it is about the time. -/
def operation? : Request → Option Operation
  | .accept c role offerToReceive => some (.accept c role offerToReceive)
  | .message c m => some (.message c m)
  | .frame c content => some (.frame c content)
  | .close c => some (.close c)
  | .overview => none
  | .abandon c => some (.abandon c)
  | .advance _ => none

/-- The milliseconds that pass. -/
def elapsed : Request → Nat
  | .advance milliseconds => milliseconds
  | _ => 0

/-- What a request does before any timer goes off. -/
def act (q : Request) (r : Relay) : Relay :=
  match q.operation? with
  | some op => r.apply op
  | none => { r with clock := r.clock + q.elapsed }

/-- The connection that a request opens a session for. -/
def opened? (q : Request) : Option ConnectionId := q.operation?.bind Operation.opened?

end Request

namespace Server

/-- What becomes of a server; a command that is refused changes nothing. -/
def serve (s : Server) : Request → Server
  | .accept c role offerToReceive => (s.accept c role offerToReceive).toOption.getD s
  | .message c m => (s.handle c m).toOption.getD s
  | .frame c content => (s.receive c content).1
  | .close c => (s.close c).toOption.getD s
  | .overview => s
  | .abandon c => s.abandon c
  | .advance milliseconds => s.advance milliseconds

def run (s : Server) (requests : List Request) : Server := requests.foldl serve s

/-- Requests that can happen to a server one after the other: no connection is accepted while it is live. -/
def Allows (s : Server) : List Request → Prop
  | [] => True
  | q :: requests => (∀ op ∈ q.operation?, op.Proper s.relay) ∧ (s.serve q).Allows requests

instance decidableAllows (s : Server) : (requests : List Request) → Decidable (s.Allows requests)
  | [] => isTrue trivial
  | q :: requests =>
    have := decidableAllows (s.serve q) requests
    inferInstanceAs (Decidable ((∀ op ∈ q.operation?, op.Proper s.relay) ∧ (s.serve q).Allows requests))

end Server

/-! ### Timers that go off -/

namespace Relay

section
variable {r : Relay}

theorem sound_fire (h : r.wiring.Sound) (t : Timer) : (r.fire t).wiring.Sound :=
  (changes_identifyTimeout (r := r.stopTimer (some t.number)) h t.connection).sound h

theorem delivers_fire (h : r.wiring.Sound) (t : Timer) : Delivers r (r.fire t) := by
  have hstopped : Delivers r (r.stopTimer (some t.number)) := .of_same rfl (fun hu => hu) fun _ => rfl
  exact hstopped.trans (delivers_identifyTimeout (r := r.stopTimer (some t.number)) h t.connection)

/-- What no timer can break is kept when all that are due go off. -/
theorem fireDue_induction {motive : Relay → Prop}
    (hfire : ∀ {r : Relay}, r.wiring.Sound → ∀ t, motive r → motive (r.fire t))
    (h : r.wiring.Sound) (hr : motive r) : motive r.fireDue := by
  unfold fireDue
  generalize r.dueTimers = due
  induction due generalizing r with
  | nil => exact hr
  | cons t due ih => exact ih (sound_fire h t) (hfire h t hr)

theorem sound_fireDue (h : r.wiring.Sound) : r.fireDue.wiring.Sound :=
  fireDue_induction (motive := fun r => r.wiring.Sound) (fun h t _ => sound_fire h t) h h

theorem delivers_fireDue (h : r.wiring.Sound) : Delivers r r.fireDue :=
  fireDue_induction (motive := Delivers r) (fun h t hr => hr.trans (delivers_fire h t)) h (.refl r)

end

end Relay

namespace Server

section
variable {s : Server} {q : Request} {requests requests' : List Request} {settings : Settings}
    {c : ConnectionId}

/-! ### One request -/

/-- A server that runs does what is asked, and lets the timers go off that are due, unless nothing has
happened to the clock and the timers. -/
theorem serve_cases (h : s.running = true) (q : Request) :
    s.serve q = ⟨q.act s.relay, true⟩ ∧ (q.act s.relay).ambient = s.relay.ambient ∨
      s.serve q = ⟨(q.act s.relay).fireDue, true⟩ := by
  obtain ⟨r, running⟩ := s
  obtain rfl : running = true := h
  cases q with
  | accept c role offerToReceive => exact .inr rfl
  | message c m => exact .inr rfl
  | close c => exact .inr rfl
  | overview => exact .inl ⟨rfl, rfl⟩
  | abandon c => exact .inl ⟨rfl, rfl⟩
  | advance milliseconds => exact .inr rfl
  | frame c content =>
    simp only [serve, receive, Request.act, Request.operation?, Relay.apply, Relay.receive]
    cases (r.outbox c).receive content with
    | mk box m =>
      cases m with
      | none => exact .inl ⟨rfl, rfl⟩
      | some m => exact .inr rfl

theorem running_serve (h : s.running = true) (q : Request) : (s.serve q).running = true := by
  rcases serve_cases h q with ⟨heq, -⟩ | heq <;> rw [heq]

/-- A server that does not run refuses every command. -/
theorem error_of_stopped (h : s.running = false) :
    (∀ c role offerToReceive, s.accept c role offerToReceive = .error .stopped) ∧
      (∀ c m, s.handle c m = .error .stopped) ∧ (∀ c, s.close c = .error .stopped) ∧
      s.overview = .error .stopped ∧ (∀ order, s.shutdownIn order = .error .stopped) := by
  simp [accept, handle, close, overview, shutdownIn, perform, h]

theorem running_serve_of_stopped (h : s.running = false) (q : Request) : (s.serve q).running = false := by
  obtain ⟨haccept, hhandle, hclose, -, -⟩ := error_of_stopped h
  cases q with
  | accept c role offerToReceive =>
    rw [serve, haccept]
    exact h
  | message c m =>
    rw [serve, hhandle]
    exact h
  | close c =>
    rw [serve, hclose]
    exact h
  | overview => exact h
  | abandon c => exact h
  | advance milliseconds => simp [serve, advance, h]
  | frame c content =>
    simp only [serve, receive]
    split
    · exact h
    · rename_i m _
      rw [(error_of_stopped
        (s := { s with relay := s.relay.setOutbox c ((s.relay.outbox c).receive content).1 }) h).2.1]
      exact h

/-! ### Whole runs -/

theorem run_append (s : Server) (requests requests' : List Request) :
    s.run (requests ++ requests') = (s.run requests).run requests' :=
  List.foldl_append

theorem running_run (h : s.running = true) (requests : List Request) : (s.run requests).running = true := by
  induction requests generalizing s with
  | nil => exact h
  | cons q requests ih => exact ih (running_serve h q)

theorem running_run_of_stopped (h : s.running = false) (requests : List Request) :
    (s.run requests).running = false := by
  induction requests generalizing s with
  | nil => exact h
  | cons q requests ih => exact ih (running_serve_of_stopped h q)

theorem sound_act {r : Relay} (h : r.wiring.Sound) (hq : ∀ op ∈ q.operation?, op.Proper r) :
    (q.act r).wiring.Sound := by
  unfold Request.act
  split
  · rename_i op hop
    exact (Relay.outcome_apply h (hq op hop)).sound h
  · exact h

theorem sound_serve (hs : s.running = true) (h : s.relay.wiring.Sound)
    (hq : ∀ op ∈ q.operation?, op.Proper s.relay) :
    (s.serve q).relay.wiring.Sound := by
  have hact := sound_act h hq
  rcases serve_cases hs q with ⟨heq, -⟩ | heq
  · rw [heq]
    exact hact
  · rw [heq]
    exact Relay.sound_fireDue hact

theorem settings_serve (hs : s.running = true) (h : s.relay.wiring.Sound)
    (hq : ∀ op ∈ q.operation?, op.Proper s.relay) : (s.serve q).relay.settings = s.relay.settings := by
  have hact : (q.act s.relay).settings = s.relay.settings := by
    unfold Request.act
    split
    · exact (Relay.dispatch_apply h _).settings
    · rfl
  rcases serve_cases hs q with ⟨heq, -⟩ | heq
  · rw [heq, hact]
  · rw [heq, ← hact]
    exact (Relay.delivers_fireDue (sound_act h hq)).settings

/-- The wiring is sound after every run. -/
theorem sound_run (hs : s.running = true) (h : s.relay.wiring.Sound) (hrequests : s.Allows requests) :
    (s.run requests).relay.wiring.Sound := by
  induction requests generalizing s with
  | nil => exact h
  | cons q requests ih => exact ih (running_serve hs q) (sound_serve hs h hrequests.1) hrequests.2

/-! ### Closes -/

theorem proper_of_unused {r : Relay} (h : ∀ c, q.opened? = some c → r.Unused c) :
    ∀ op ∈ q.operation?, op.Proper r := by
  intro op hop
  cases op with
  | accept c role offerToReceive =>
    have hopened : q.opened? = some c := by
      rw [Request.opened?, Option.mem_def.1 hop]
      rfl
    exact (h c hopened).dead
  | _ => trivial

private theorem unused_act {r : Relay} (h : r.wiring.Sound) (hc : r.Unused c) (hne : q.opened? ≠ some c) :
    (q.act r).Unused c := by
  unfold Request.act
  split
  · rename_i op hop
    refine hc.dispatch (Relay.dispatch_apply h op) fun hopened => hne ?_
    rw [Request.opened?, hop]
    exact hopened
  · exact ⟨hc.dead, hc.unclosed⟩

/-- A connection that is not accepted stays without a session, and is not closed. -/
theorem unused_serve (hs : s.running = true) (h : s.relay.wiring.Sound)
    (hq : ∀ op ∈ q.operation?, op.Proper s.relay) (hc : s.relay.Unused c) (hne : q.opened? ≠ some c) :
    (s.serve q).relay.Unused c := by
  have hact := unused_act h hc hne
  rcases serve_cases hs q with ⟨heq, -⟩ | heq
  · rw [heq]
    exact hact
  · rw [heq]
    exact hact.delivers (Relay.delivers_fireDue (sound_act h hq))

private theorem final_act {r : Relay} (h : r.wiring.Sound) (hc : r.Final c)
    (hnew : q.opened? = some c → r.Unused c) :
    (q.act r).Final c := by
  unfold Request.act
  split
  · rename_i op hop
    refine hc.dispatch (Relay.dispatch_apply h op) fun hopened => hnew ?_
    rw [Request.opened?, hop]
    exact hopened
  · cases hc with
    | unclosed hc => exact .unclosed hc
    | closed told reason times htold hframes hdead => exact .closed told reason times htold hframes hdead

theorem final_serve (hs : s.running = true) (h : s.relay.wiring.Sound)
    (hq : ∀ op ∈ q.operation?, op.Proper s.relay) (hc : s.relay.Final c)
    (hnew : q.opened? = some c → s.relay.Unused c) : (s.serve q).relay.Final c := by
  have hact := final_act h hc hnew
  rcases serve_cases hs q with ⟨heq, -⟩ | heq
  · rw [heq]
    exact hact
  · rw [heq]
    exact hact.delivers (Relay.delivers_fireDue (sound_act h hq))

/-- A run in which no connection is accepted twice is allowed, and closes every connection once at most. -/
theorem final_run_of_nodup (hs : s.running = true) (h : s.relay.wiring.Sound)
    (hnodup : (requests.filterMap Request.opened?).Nodup)
    (hnew : ∀ c ∈ requests.filterMap Request.opened?, s.relay.Unused c) (hfinal : ∀ c, s.relay.Final c) :
    s.Allows requests ∧ ∀ c, (s.run requests).relay.Final c := by
  induction requests generalizing s with
  | nil => exact ⟨trivial, hfinal⟩
  | cons q requests ih =>
    have hsub : (requests.filterMap Request.opened?).Sublist ((q :: requests).filterMap Request.opened?) :=
      (List.sublist_cons_self q requests).filterMap Request.opened?
    have hunused : ∀ c, q.opened? = some c → s.relay.Unused c := fun c hopened =>
      hnew c (List.mem_filterMap.2 ⟨q, List.mem_cons_self, hopened⟩)
    have hq := proper_of_unused hunused
    have hlater : ∀ c ∈ requests.filterMap Request.opened?, (s.serve q).relay.Unused c := by
      intro c hc
      refine unused_serve hs h hq (hnew c (hsub.subset hc)) fun hopened => ?_
      -- it would be accepted once more later on
      rw [List.filterMap_cons_some hopened] at hnodup
      exact (List.nodup_cons.1 hnodup).1 hc
    obtain ⟨hallows, hrest⟩ := ih (running_serve hs q) (sound_serve hs h hq) (hnodup.sublist hsub) hlater
      fun c => final_serve hs h hq (hfinal c) (hunused c)
    exact ⟨⟨hq, hallows⟩, hrest⟩

theorem final_run (settings : Settings) (hnodup : (requests.filterMap Request.opened?).Nodup) :
    (fresh settings).Allows requests ∧ ∀ c, ((fresh settings).run requests).relay.Final c :=
  final_run_of_nodup rfl (Relay.sound_fresh settings) hnodup (fun c _ => Relay.unused_fresh settings c)
    fun c => (Relay.unused_fresh settings c).final

end

end Server

end SignalRelay
