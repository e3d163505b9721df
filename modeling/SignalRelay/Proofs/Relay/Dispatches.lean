import SignalRelay.Proofs.Relay.Moves

/-!
# What is queued

Whatever happens to the sessions that are there, the queue of a connection gets some messages and then
possibly a close.

* `Delivers` relates two relays if every queue got some messages and then possibly a close, nothing at all
  if the connection was not live, and a close only if it is not live any more.
* `Moves.delivers`: this is so for everything but the opening of a session, for which see `accept_cases`,
  and the answer to a keep-alive.
* `Dispatch` says what an operation queues, and `dispatch_apply` that there are no other operations.
-/

namespace SignalRelay

/-- Messages and then possibly a close. -/
def delivery (told : List Signal) (ending : Option String) : List Outbound :=
  told.map Outbound.message ++ ending.toList.map Outbound.close

namespace Relay

/-- Between two relays, every queue got some messages and then possibly a close. -/
structure Delivers (r r' : Relay) : Prop where
  settings : r'.settings = r.settings
  live : ∀ {u}, r.session? u = none → r'.session? u = none
  queue : ∀ u, ∃ (told : List Signal) (ending : Option String),
    r'.outbox u = (r.outbox u).pushAll (delivery told ending) ∧
      (r.session? u = none → told = [] ∧ ending = none) ∧ (ending.isSome → r'.session? u = none)

/-- What a connection is told when its session is opened: the settings, and a source is asked for its id. -/
def greeting (r : Relay) (role : Role) : List Signal :=
  .config r.settings.peerOptions r.settings.protocolVersion :: if role = .player then [] else [.identify]

/-- A session has been opened for `c`, which has been told some messages, and nothing else has happened to
the sessions and the queues. -/
structure Opened (r : Relay) (c : ConnectionId) (told : List Signal) (r' : Relay) : Prop where
  settings : r'.settings = r.settings
  live : (r'.session? c).isSome
  others : ∀ u, u ≠ c → r'.session? u = r.session? u
  outbox : ∀ u, r'.outbox u = (r.outbox u).pushAll (if u = c then told.map Outbound.message else [])

/-- What an operation queues. -/
inductive Dispatch (r : Relay) (op : Operation) : Relay → Prop
  /-- It queues something for live connections, if at all. -/
  | delivers {r' : Relay} (hop : op.opened? = none) (h : Delivers r r') : Dispatch r op r'
  /-- A keep-alive is answered, whether the connection is live or not. -/
  | answered {c : ConnectionId} {content : Inbound} {time : Number} (hop : op = .frame c content)
      (hping : Signal.ofFrame? content = .ok (.ping time)) : Dispatch r op (r.push c (.message (.pong time)))
  /-- A forwarding unit gets no session. -/
  | refused {c : ConnectionId} {role : Role} {offerToReceive : Bool}
      (hop : op = .accept c role offerToReceive) :
      Dispatch r op (r.push c (.close sfuRefused))
  | opened {c : ConnectionId} {role : Role} {offerToReceive : Bool} {r' : Relay}
      (hop : op = .accept c role offerToReceive) (h : Opened r c (r.greeting role) r') : Dispatch r op r'
  /-- The far side of a connection goes away. -/
  | abandoned {c : ConnectionId} (hop : op = .abandon c) : Dispatch r op (r.abandon c)

section
variable {P : Signal → Prop} {owner : Option ConnectionId} {sound : Prop} {r r' r'' : Relay}
    {c : ConnectionId}

/-! ### Composition -/

theorem Delivers.of_same (hsettings : r'.settings = r.settings)
    (hlive : ∀ {u}, r.session? u = none → r'.session? u = none) (hbox : ∀ u, r'.outbox u = r.outbox u) :
    Delivers r r' where
  settings := hsettings
  live := hlive
  queue u := ⟨[], none, by simp [delivery, hbox], fun _ => ⟨rfl, rfl⟩, by simp⟩

theorem Delivers.refl (r : Relay) : Delivers r r := .of_same rfl id fun _ => rfl

/-- A queue that was ended first gets nothing afterwards. -/
theorem Delivers.trans (h : Delivers r r') (h' : Delivers r' r'') : Delivers r r'' where
  settings := h'.settings.trans h.settings
  live hu := h'.live (h.live hu)
  queue u := by
    obtain ⟨told, ending, hbox, hdead, hending⟩ := h.queue u
    obtain ⟨told', ending', hbox', hdead', hending'⟩ := h'.queue u
    cases ending with
    | some reason =>
      obtain ⟨rfl, rfl⟩ := hdead' (hending rfl)
      exact ⟨told, some reason, by rw [hbox', hbox]; simp [delivery], hdead, fun _ => h'.live (hending rfl)⟩
    | none =>
      refine ⟨told ++ told', ending', ?_, ?_, hending'⟩
      · rw [hbox', hbox, Outbox.pushAll_pushAll]
        simp [delivery]
      · intro hu
        obtain ⟨rfl, -⟩ := hdead hu
        obtain ⟨rfl, rfl⟩ := hdead' (h.live hu)
        exact ⟨rfl, rfl⟩

/-- A connection that is not live is queued nothing. -/
theorem Delivers.outbox_of_dead (h : Delivers r r') (hc : r.session? c = none) :
    r'.outbox c = r.outbox c := by
  obtain ⟨told, ending, hbox, hdead, -⟩ := h.queue c
  obtain ⟨rfl, rfl⟩ := hdead hc
  exact hbox

/-! ### Teardowns -/

/-- What `u` is told when `c` is closed and the connections `gone` go: that `c` does not watch it any
more, and that its own source has gone, unless it goes itself. -/
def farewells (r : Relay) (c : ConnectionId) (gone : List ConnectionId) (u : ConnectionId) : List Signal :=
  (if r.watched? c = some u then (r.playerIdOf? c).toList.map Signal.playerDisconnected else []) ++
    if u ∉ gone ∧ r.watchesAny gone u = true then [.streamerDisconnected] else []

theorem notices_eq {gone : List ConnectionId} {u : ConnectionId} (hu : u ≠ c) :
    r.notices c gone u = delivery (r.farewells c gone u) (if u ∈ gone then some sourceLost else none) := by
  have hparting : (if r.watched? c = some u then
      (r.playerIdOf? c).toList.map fun id => Outbound.message (.playerDisconnected id) else []) =
      (if r.watched? c = some u then (r.playerIdOf? c).toList.map Signal.playerDisconnected else []).map
        Outbound.message := by
    split <;> simp
  rw [notices, if_neg hu, hparting]
  by_cases hgone : u ∈ gone
  · simp [delivery, farewells, hgone]
  · by_cases hany : r.watchesAny gone u = true <;> simp [delivery, farewells, hgone, hany]

/-- Only live connections watch and are watched. -/
private theorem farewells_of_dead (h : r.wiring.Linked) {gone : List ConnectionId} {u : ConnectionId}
    (hu : r.session? u = none) : r.farewells c gone u = [] := by
  have hunwatched : r.watched? c ≠ some u := by
    intro hwatch
    obtain ⟨id, -, hid⟩ := (watched?_eq_some_iff h).1 hwatch
    have hlive := isSome_session?_of_source? (isSome_source?_of_streamerId hid)
    rw [hu] at hlive
    cases hlive
  have hnobody : r.watchesAny gone u = false := by simp [watchesAny, watched?, viewer?, hu]
  simp [farewells, hunwatched, hnobody]

/-- Those who go with `c` are closed, and everybody else hears of it. -/
theorem TornDown.delivers {gone : List ConnectionId} (ending : Option String)
    (h : TornDown r c gone (ending.toList.map Outbound.close) r') (hr : r.wiring.Linked)
    (hc : (r.session? c).isSome) :
    Delivers r r' where
  settings := congrArg Prod.fst h.ambient
  live hu := by
    rw [h.session?, hu]
    split <;> rfl
  queue u := by
    have hgone : u ∈ gone → r'.session? u = none := fun hmem => by rw [h.session?, if_pos hmem]
    by_cases hu : u = c
    · subst hu
      refine ⟨[], ending, ?_, fun hnone => ?_, fun _ => hgone ((h.mem_gone u).2 .self)⟩
      · rw [h.outbox, notices, if_neg (watched?_ne_self hr u)]
        simp [delivery]
      · rw [hnone] at hc
        cases hc
    · refine ⟨r.farewells c gone u, if u ∈ gone then some sourceLost else none, ?_,
        fun hnone => ⟨farewells_of_dead hr hnone, if_neg fun hmem => ?_⟩, ?_⟩
      · rw [h.outbox, if_neg hu, List.nil_append, notices_eq hu]
      · have hlive := h.isSome_of_mem hc hmem
        rw [hnone] at hlive
        cases hlive
      · split
        · exact fun _ => hgone ‹_›
        · intro hnone
          cases hnone

theorem delivers_close (h : r.wiring.Sound) (c : ConnectionId) : Delivers r (r.close c) := by
  rcases close_cases h.toLinked c with ⟨-, heq⟩ | ⟨hc, gone, htorn⟩
  · rw [heq]
    exact .refl r
  · exact TornDown.delivers none htorn h.toLinked hc

theorem delivers_terminate (h : r.wiring.Sound) (c : ConnectionId) (reason : String) :
    Delivers r (r.terminate c reason) := by
  rcases terminate_cases h.toLinked c reason with ⟨-, heq⟩ | ⟨hc, gone, htorn⟩
  · rw [heq]
    exact .refl r
  · exact TornDown.delivers (some reason) htorn h.toLinked hc

/-! ### Moves -/

theorem delivers_send (r : Relay) (c : ConnectionId) (m : Signal) : Delivers r (r.send c m) where
  settings := congrArg Prod.fst (ambient_send r c m)
  live hu := by simpa using hu
  queue u := by
    by_cases hu : u = c ∧ (r.session? c).isSome
    · obtain ⟨rfl, hlive⟩ := hu
      refine ⟨[m], none, ?_, fun hnone => ?_, by simp⟩
      · simp [outbox_send, hlive, delivery]
      · simp [hnone] at hlive
    · exact ⟨[], none, by rw [outbox_send, if_neg hu]; rfl, fun _ => ⟨rfl, rfl⟩, by simp⟩

theorem delivers_adjustSource (r : Relay) (c : ConnectionId) (f : Source → Source) :
    Delivers r (r.adjustSource c f) := by
  refine .of_same rfl (fun hu => ?_) fun _ => rfl
  rw [session?_adjustSource, hu]
  split <;> rfl

theorem Move.delivers (h : Move P owner sound r r') (hsound : sound) : Delivers r r' := by
  cases h with
  | send _ c => exact delivers_send r c _
  | source c _ => exact delivers_adjustSource r c _
  | viewer c id =>
    refine .of_same rfl (fun hu => ?_) fun _ => rfl
    rw [session?_setSubscribed, hu]
    split <;> rfl
  | listed _ => exact .of_same rfl (fun hu => hu) fun _ => rfl
  | @cancelled d source _ _ =>
    have hstopped : Delivers r (r.stopTimer source.timer) := .of_same rfl (fun hu => hu) fun _ => rfl
    exact hstopped.trans (delivers_adjustSource _ d _)
  | expired _ => exact delivers_adjustSource r _ _
  | terminated h c reason => exact delivers_terminate (h hsound) c reason

theorem Moves.delivers (h : Moves P owner sound r r') (hsound : sound) : Delivers r r' := by
  induction h with
  | refl => exact .refl r
  | tail _ hmove ih => exact ih.trans (hmove.delivers hsound)

theorem delivers_identifyTimeout (h : r.wiring.Sound) (c : ConnectionId) : Delivers r (r.identifyTimeout c) :=
  (moves_identifyTimeout id c).delivers h

theorem delivers_handle (h : r.wiring.Sound) (c : ConnectionId) (m : Signal) : Delivers r (r.handle c m) :=
  (moves_handle id c m).delivers h

/-! ### Sessions that are opened -/

theorem Opened.send {told : List Signal} (h : Opened r c told r') (m : Signal) :
    Opened r c (told ++ [m]) (r'.send c m) where
  settings := by
    rw [← h.settings]
    exact congrArg Prod.fst (ambient_send r' c m)
  live := by simpa using h.live
  others u hu := by simpa using h.others u hu
  outbox u := by
    rw [outbox_send, h.outbox]
    by_cases hu : u = c <;> simp [hu, h.live]

theorem opened_insertSession {r s : Relay} (hsettings : s.settings = r.settings)
    (hsession : ∀ u, s.session? u = r.session? u) (hbox : ∀ u, s.outbox u = r.outbox u) (session : Session) :
    Opened r c [] (s.insertSession c session) where
  settings := hsettings
  live := by
    rw [session?_insertSession, if_pos rfl]
    rfl
  others u hu := by rw [session?_insertSession, if_neg hu, hsession]
  outbox u := by
    show s.outbox u = _
    simp [hbox]

theorem Opened.startTimer {told : List Signal} (h : Opened r c told r') :
    Opened r c told (r'.startTimer c) where
  settings := h.settings
  live := by
    show ((r'.adjustSource c _).session? c).isSome
    simpa [session?_adjustSource] using h.live
  others u hu := by
    show (r'.adjustSource c _).session? u = _
    rw [session?_adjustSource, if_neg hu, h.others u hu]
  outbox := h.outbox

/-- A forwarding unit that is refused is told so, and that is all.  Every other session is opened and
greeted. -/
theorem accept_cases (r : Relay) (c : ConnectionId) (role : Role) (offerToReceive : Bool) :
    r.accept c role offerToReceive = r.push c (.close sfuRefused) ∨
      Opened r c (r.greeting role) (r.accept c role offerToReceive) := by
  cases role with
  | streamer =>
    have hopened := opened_insertSession (c := c) (r := r) rfl (fun _ => rfl) (fun _ => rfl)
      (.streamer (Source.fresh none))
    exact .inr ((hopened.send _).send .identify).startTimer
  | player =>
    have hopened :=
      opened_insertSession (c := c) (r := r) (s := { r with players := (r.players.add c).2 }) rfl
        (fun _ => rfl) (fun _ => rfl) (.player ⟨(r.players.add c).1, none, !offerToReceive⟩)
    exact .inr (hopened.send _)
  | sfu =>
    show r.openSfu c = _ ∨ Opened r c _ (r.openSfu c)
    cases hadd : r.streamers.add r.settings.sfuStreamerId c false with
    | error e =>
      left
      simp only [openSfu, hadd]
    | ok added =>
      obtain ⟨id, d⟩ := added
      simp only [openSfu, hadd]
      have hopened := opened_insertSession (c := c) (r := r)
        (s := { r with streamers := d, players := (r.players.add c).2 }) rfl (fun _ => rfl) (fun _ => rfl)
        (.sfu (Source.fresh (some id)) ⟨(r.players.add c).1, none, true⟩)
      exact .inr ((hopened.send _).send .identify)

/-- Nobody else notices when a connection is accepted. -/
theorem session?_accept_of_ne (r : Relay) (role : Role) (offerToReceive : Bool) {d : ConnectionId}
    (hd : d ≠ c) :
    (r.accept c role offerToReceive).session? d = r.session? d := by
  rcases accept_cases r c role offerToReceive with hrefused | hopened
  · rw [hrefused, session?_push]
  · exact hopened.others d hd

/-! ### All operations -/

/-- A frame is handled as the message that it brings, unless that is a keep-alive. -/
theorem dispatch_receive (h : r.wiring.Sound) (c : ConnectionId) (content : Inbound) :
    Dispatch r (.frame c content) (r.receive c content).1 := by
  have hsame : Delivers r (r.setOutbox c (r.outbox c)) :=
    .of_same rfl (fun hu => hu) (outbox_setOutbox_outbox r c)
  rcases receive_cases r c content with ⟨m, -, -, heq⟩ | ⟨-, heq | ⟨time, hping, heq⟩⟩
  · rw [heq]
    exact .delivers rfl (hsame.trans (delivers_handle (r := r.setOutbox c (r.outbox c)) h c m))
  · rw [heq]
    exact .delivers rfl hsame
  · rw [heq]
    exact .answered rfl hping

/-- There are no other operations. -/
theorem dispatch_apply (h : r.wiring.Sound) (op : Operation) : Dispatch r op (r.apply op) := by
  cases op with
  | accept c role offerToReceive =>
    rcases accept_cases r c role offerToReceive with hrefused | hopened
    · show Dispatch r _ (r.accept c role offerToReceive)
      rw [hrefused]
      exact .refused rfl
    · exact .opened rfl hopened
  | message c m => exact .delivers rfl (delivers_handle h c m)
  | frame c content => exact dispatch_receive h c content
  | identifyTimeout c => exact .delivers rfl (delivers_identifyTimeout h c)
  | close c => exact .delivers rfl (delivers_close h c)
  | terminate c reason => exact .delivers rfl (delivers_terminate h c reason)
  | abandon c => exact .abandoned rfl

/-- Nothing changes the settings. -/
theorem Dispatch.settings {op : Operation} (h : Dispatch r op r') : r'.settings = r.settings := by
  cases h with
  | delivers _ h => exact h.settings
  | answered _ _ => rfl
  | refused _ => rfl
  | opened _ h => exact h.settings
  | abandoned _ => rfl

end

end Relay

end SignalRelay
