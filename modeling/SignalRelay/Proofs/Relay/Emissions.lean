import SignalRelay.Proofs.Message.WellFormed
import SignalRelay.Proofs.Relay.Dispatches

/-!
# What is sent can be read

If all messages that come in were decoded from frames, everything that a relay queues is well-formed: its
text is an object that names no member twice, and is decoded to the message that was queued.  The relay
need not be in order.

* `Utters` relates two relays if only messages of some kind were queued in between, and `utters_apply`
  tells which these are for each operation.
* `Yields.wellFormed`: they are fit to be sent, if the message that came in was decoded.
* `emissions_decode`: so everything that is queued in a run can be read.
-/

namespace SignalRelay

namespace Signal

/-- A message that was decoded from some frame, and has exact numbers only. -/
structure Decoded (m : Signal) : Prop where
  image : ∃ content, ofFrame? content = .ok m
  exact : m.toJson.Exact

theorem wellFormed_of_isNotice {m : Signal} (h : m.isNotice = true) : m.WellFormed := by
  cases m with
  | streamerList ids => exact wellFormed_streamerList ids
  | endpointIdConfirm _ | subscribeFailed _ | playerConnected _ _ _ _ | playerDisconnected _
  | streamerIdChanged _ | streamerDisconnected =>
    exact wellFormed_of_members trivial (by simp [toMembers, Json.Exact, Json.depth])
  | _ => cases h

/-- The relay makes something fit to be sent of everything that was decoded. -/
theorem Yields.wellFormed {m m' : Signal} (h : m.Yields m') (hm : m.Decoded) : m'.WellFormed := by
  obtain ⟨⟨content, hcontent⟩, hexact⟩ := hm
  cases h with
  | notice h => exact wellFormed_of_isNotice h
  | preference h =>
    subst h
    exact wellFormed_routed (sendable_of_ofFrame? hcontent hexact)
  | unstamped h =>
    subst h
    exact wellFormed_routed (sendable_of_ofFrame? hcontent hexact).withoutStamp
  | stamped h id =>
    subst h
    exact wellFormed_routed ((sendable_of_ofFrame? hcontent hexact).withStamp id)
  | channels h id =>
    subst h
    exact wellFormed_routed ((sendable_of_ofFrame? hcontent hexact).insert_sfuId id)
  | stampedChannels h id =>
    subst h
    exact wellFormed_routed (((sendable_of_ofFrame? hcontent hexact).insert_sfuId id).withStamp id)

end Signal

/-- The message that an operation brings, if it brings any, was decoded from a frame. -/
def Operation.Decoded : Operation → Prop
  | .message _ m => m.Decoded
  | .frame _ content => ∀ m, Signal.ofFrame? content = .ok m → m.toJson.Exact
  | _ => True

/-- What connections are told of the settings can be read. -/
structure Settings.Publishable (settings : Settings) : Prop where
  extra : settings.peerOptions.extra.get? "iceServers" = none
  exact : settings.peerOptions.toJson.Exact
  depth : settings.peerOptions.toJson.depth ≤ 126

namespace Relay

/-- Between two relays, no messages have been queued but such with the property `P`. -/
structure Utters (P : Signal → Prop) (r r' : Relay) : Prop where
  settings : r'.settings = r.settings
  queue : ∀ c m, .message m ∈ (r'.outbox c).frames → .message m ∈ (r.outbox c).frames ∨ P m

/-- The messages that can come of an operation. -/
def Yields (r : Relay) (op : Operation) (m' : Signal) : Prop :=
  match op with
  | .accept _ role _ => m' ∈ r.greeting role
  | .message _ m => m.Yields m'
  | .frame _ content =>
    ∃ m, Signal.ofFrame? content = .ok m ∧ (m.Yields m' ∨ ∃ time, m = .ping time ∧ m' = .pong time)
  | _ => m'.isNotice = true

/-- Everything that is queued is well-formed. -/
def Emits (r : Relay) : Prop := ∀ c m, .message m ∈ (r.outbox c).frames → m.WellFormed

section
variable {P : Signal → Prop} {owner : Option ConnectionId} {sound : Prop} {r r' r'' : Relay}
    {c : ConnectionId}
variable {op : Operation} {m : Signal}

/-! ### Building blocks -/

theorem utters_of_same (hsettings : r'.settings = r.settings) (hbox : ∀ u, r'.outbox u = r.outbox u) :
    Utters P r r' :=
  ⟨hsettings, fun u _ hm => .inl (hbox u ▸ hm)⟩

theorem Utters.refl (r : Relay) : Utters P r r := utters_of_same rfl fun _ => rfl

theorem Utters.trans (h : Utters P r r') (h' : Utters P r' r'') : Utters P r r'' where
  settings := h'.settings.trans h.settings
  queue c m hm := (h'.queue c m hm).elim (h.queue c m) .inr

theorem Utters.mono {Q : Signal → Prop} (h : Utters P r r') (hPQ : ∀ m, P m → Q m) : Utters Q r r' :=
  ⟨h.settings, fun c m hm => (h.queue c m hm).imp_right (hPQ m)⟩

theorem utters_push (r : Relay) (c : ConnectionId) {f : Outbound} (hf : ∀ m, f = .message m → P m) :
    Utters P r (r.push c f) where
  settings := rfl
  queue u m hm := by
    rw [outbox_push] at hm
    refine (Outbox.mem_frames_pushAll hm).imp_right fun hm => ?_
    split at hm
    · exact hf m (List.mem_singleton.1 hm).symm
    · cases hm

theorem utters_send (hm : P m) (r : Relay) (c : ConnectionId) : Utters P r (r.send c m) := by
  unfold send
  split
  · exact utters_push r c fun m' hm' => Outbound.message.inj hm' ▸ hm
  · exact .refl r

private theorem utters_setOutbox (r : Relay) (c : ConnectionId) : Utters P r (r.setOutbox c (r.outbox c)) :=
  utters_of_same rfl (outbox_setOutbox_outbox r c)

/-! ### Teardowns

Nothing is known of the relay here, so this goes by the recursion of `closeWithin` and not by what comes
of it. -/

section
variable {shut : Relay → ConnectionId → Relay}

private theorem utters_unsubscribe (r : Relay) (c : ConnectionId) :
    Utters (·.isNotice = true) r (r.unsubscribe c) := by
  unfold unsubscribe
  split
  · exact .refl r
  · split
    · exact .refl r
    · dsimp only
      split
      · exact utters_of_same rfl fun _ => rfl
      · refine .trans ?_ (utters_send (by rfl) _ _)
        exact utters_of_same rfl fun _ => rfl

private theorem utters_markStreaming (r : Relay) (c : ConnectionId) (streaming : Bool) :
    Utters P r (r.markStreaming c streaming) := by
  unfold markStreaming
  split
  · exact .refl r
  · exact utters_of_same rfl fun _ => rfl

private theorem utters_terminateBy (hshut : ∀ r c, Utters P r (shut r c)) (r : Relay) (c : ConnectionId)
    (reason : String) : Utters P r (terminateBy shut r c reason) := by
  unfold terminateBy
  split
  · exact (utters_push r c fun m hm => by cases hm).trans (hshut _ c)
  · exact .refl r

private theorem utters_releaseBy (hshut : ∀ r c, Utters (·.isNotice = true) r (shut r c))
    (id : String) (r : Relay) (c : ConnectionId) : Utters (·.isNotice = true) r (releaseBy shut id r c) := by
  have hunsubscribed : Utters (·.isNotice = true) r (r.setSubscribed c none) :=
    utters_of_same rfl fun _ => rfl
  unfold releaseBy
  split
  · exact .refl r
  · exact .refl r
  · split
    · exact hunsubscribed.trans (utters_send (by rfl) _ c)
    · exact .refl r
  · split
    · exact (hunsubscribed.trans (utters_markStreaming _ c false)).trans
        (utters_terminateBy hshut _ c sourceLost)
    · exact .refl r

private theorem utters_retireSourceBy (hshut : ∀ r c, Utters (·.isNotice = true) r (shut r c)) (r : Relay)
    (source : Source) : Utters (·.isNotice = true) r (retireSourceBy shut r source) := by
  have hfoldl : ∀ (id : String) (subscribers : List ConnectionId) (s : Relay),
      Utters (·.isNotice = true) s (subscribers.foldl (releaseBy shut id) s) := by
    intro id subscribers
    induction subscribers with
    | nil => exact .refl
    | cons c subscribers ih => exact fun s => (utters_releaseBy hshut id s c).trans (ih _)
  unfold retireSourceBy retireBy
  split
  · exact .refl r
  · refine .trans ?_ (hfoldl _ source.subscribers _)
    exact utters_of_same rfl fun _ => rfl

private theorem utters_closeBy (hshut : ∀ r c, Utters (·.isNotice = true) r (shut r c)) (r : Relay)
    (c : ConnectionId) :
    Utters (·.isNotice = true) r (closeBy shut r c) := by
  unfold closeBy
  split
  · exact .refl r
  · refine .trans ?_ (utters_retireSourceBy hshut _ _)
    exact utters_of_same rfl fun _ => rfl
  · refine (utters_unsubscribe r c).trans ?_
    exact utters_of_same rfl fun _ => rfl
  · refine (utters_unsubscribe r c).trans ?_
    dsimp only
    split
    · rename_i source viewer _
      have herased : Utters (·.isNotice = true) (r.unsubscribe c) ((r.unsubscribe c).eraseSession c) :=
        utters_of_same rfl fun _ => rfl
      refine (herased.trans (utters_retireSourceBy hshut _ source)).trans ?_
      exact utters_of_same rfl fun _ => rfl
    · exact .refl _

theorem utters_close (r : Relay) (c : ConnectionId) : Utters (·.isNotice = true) r (r.close c) := by
  have hwithin : ∀ fuel r c, Utters (·.isNotice = true) r (closeWithin fuel r c) := by
    intro fuel
    induction fuel with
    | zero => exact fun r _ => .refl r
    | succ fuel ih => exact utters_closeBy ih
  exact hwithin _ r c

theorem utters_terminate (r : Relay) (c : ConnectionId) (reason : String) :
    Utters (·.isNotice = true) r (r.terminate c reason) :=
  utters_terminateBy utters_close r c reason

end

/-! ### Operations -/

theorem Move.utters (h : Move P owner sound r r') (hP : ∀ m : Signal, m.isNotice = true → P m) :
    Utters P r r' := by
  cases h with
  | send hm c => exact utters_send hm r c
  | source _ _ => exact utters_of_same rfl fun _ => rfl
  | viewer _ _ => exact utters_of_same rfl fun _ => rfl
  | listed _ => exact utters_of_same rfl fun _ => rfl
  | cancelled _ _ => exact utters_of_same rfl fun _ => rfl
  | expired _ => exact utters_of_same rfl fun _ => rfl
  | terminated _ c reason => exact (utters_terminate r c reason).mono hP

theorem Moves.utters (h : Moves P owner sound r r') (hP : ∀ m : Signal, m.isNotice = true → P m) :
    Utters P r r' := by
  induction h with
  | refl => exact .refl r
  | tail _ hmove ih => exact ih.trans (hmove.utters hP)

theorem utters_handle (r : Relay) (c : ConnectionId) (m : Signal) : Utters m.Yields r (r.handle c m) :=
  (moves_handle id c m).utters fun _ => .notice

/-- What an operation queues comes of it. -/
theorem utters_apply (r : Relay) (op : Operation) : Utters (r.Yields op) r (r.apply op) := by
  cases op with
  | accept c role offerToReceive =>
    show Utters (· ∈ r.greeting role) r (r.accept c role offerToReceive)
    rcases accept_cases r c role offerToReceive with hrefused | hopened
    · rw [hrefused]
      exact utters_push r c fun m hm => by cases hm
    · refine ⟨hopened.settings, fun u m hm => ?_⟩
      rw [hopened.outbox] at hm
      refine (Outbox.mem_frames_pushAll hm).imp_right fun hm => ?_
      split at hm
      · simpa using hm
      · cases hm
  | message c m => exact utters_handle r c m
  | frame c content =>
    show Utters _ r (r.receive c content).1
    rcases receive_cases r c content with ⟨m, hm, -, heq⟩ | ⟨-, heq | ⟨time, hm, heq⟩⟩
    · rw [heq]
      exact (utters_setOutbox r c).trans ((utters_handle _ c m).mono fun m' hm' => ⟨m, hm, .inl hm'⟩)
    · rw [heq]
      exact utters_setOutbox r c
    · rw [heq]
      exact utters_push r c fun m' hm' => ⟨_, hm, .inr ⟨time, rfl, (Outbound.message.inj hm').symm⟩⟩
  | identifyTimeout c => exact (moves_identifyTimeout id c).utters fun _ => id
  | close c => exact utters_close r c
  | terminate c reason => exact utters_terminate r c reason
  | abandon c => exact ⟨rfl, fun u m hm => .inl (frames_abandon r c u ▸ hm)⟩

/-- What comes of an operation is fit to be sent. -/
theorem Yields.wellFormed (h : r.Yields op m) (hop : op.Decoded) (hsettings : r.settings.Publishable) :
    m.WellFormed := by
  cases op with
  | accept c role offerToReceive =>
    rcases List.mem_cons.1 h with rfl | hm
    · exact Signal.wellFormed_config hsettings.extra hsettings.exact hsettings.depth _
    · split at hm
      · cases hm
      · obtain rfl := List.mem_singleton.1 hm
        exact Signal.wellFormed_identify
  | message c m' => exact Signal.Yields.wellFormed h hop
  | frame c content =>
    obtain ⟨m', hcontent, hm | ⟨time, rfl, rfl⟩⟩ := h
    · exact hm.wellFormed ⟨⟨content, hcontent⟩, hop m' hcontent⟩
    · exact Signal.wellFormed_pong (hop _ hcontent).2.1
  | _ => exact Signal.wellFormed_of_isNotice h

/-! ### Runs -/

theorem emits_run {ops : List Operation} (hops : ∀ op ∈ ops, op.Decoded) (hsettings : r.settings.Publishable)
    (hr : r.Emits) : (r.run ops).Emits := by
  induction ops generalizing r with
  | nil => exact hr
  | cons op ops ih =>
    obtain ⟨hop, hrest⟩ := List.forall_mem_cons.1 hops
    have hutters := utters_apply r op
    refine ih (r := r.apply op) hrest (hutters.settings ▸ hsettings) fun c m hm => ?_
    exact (hutters.queue c m hm).elim (hr c m) fun hm => hm.wellFormed hop hsettings

/-- Everything that a relay ever queues is read back from its text as what it is, and its text is an object
in which no name stands for two things: if the messages that come in were decoded from frames, and numbers
are integers of 64 bits.  This is so since the members of a payload that was decoded bear other names than
the kind and the stamp, whatever the frame was, and nothing that is done to a payload changes that. -/
theorem emissions_decode (settings : Settings) (hextra : settings.peerOptions.extra.get? "iceServers" = none)
    (hexact : settings.peerOptions.toJson.Exact) (hdepth : settings.peerOptions.toJson.depth ≤ 126)
    (ops : List Operation) (hops : ∀ op ∈ ops, op.Decoded) :
    (∀ c m, .message m ∈ (((fresh settings).run ops).outbox c).frames →
      (∃ members, Json.ofText? m.text = .ok (.obj members) ∧ (members.map Prod.fst).Nodup) ∧
        Signal.ofFrame? (.text m.text) = .ok m) ∧
    (∀ content kind payload, Signal.ofFrame? content = .ok (.routed kind payload) → payload.Clear) ∧
    ∀ payload : Payload, payload.Clear → ∀ id : String,
      (payload.withStamp id).Clear ∧ payload.withoutStamp.Clear ∧
        (payload.insert "sfuId" (.str id)).Clear := by
  refine ⟨fun c m hm => ?_, fun content kind payload h => (Signal.clear_of_ofFrame? h).1,
    fun payload h id => ⟨h.withStamp id, h.withoutStamp, h.insert_sfuId _⟩⟩
  have hfresh : (fresh settings).Emits := fun u m hm => by cases hm
  have hwell := emits_run hops ⟨hextra, hexact, hdepth⟩ hfresh c m hm
  exact ⟨⟨_, hwell.ofText?_text, hwell.names_nodup⟩, hwell.ofFrame?_text⟩

/-- A player puts a stamp on its offer that is not its own. -/
theorem emissions_decode_stamped :
    let claim : Inbound := .text "[\"endpointId\",\"camera\"]"
    let forged : Inbound :=
      .text "\x7b\"sdp\":\"v=0\",\"playerId\":\"Player7\",\"type\":\"offer\",\"n\":[-1]\x7d"
    let ops : List Operation :=
      [.accept ⟨1⟩ .streamer true, .frame ⟨1⟩ claim, .accept ⟨2⟩ .player true, .frame ⟨2⟩ forged]
    let offer : Signal :=
      .routed .offer ⟨some "Player0", .ofMembers [("n", .arr [.num (.int (-1))]), ("sdp", .str "v=0")]⟩
    (∀ op ∈ ops, op.Decoded) ∧
      .message offer ∈ (((fresh Settings.standard).run ops).outbox ⟨1⟩).frames ∧
      Signal.ofFrame? (.text offer.text) = .ok offer := by
  intro claim forged ops offer
  have hclaim : Signal.ofFrame? claim = .ok (.endpointId "camera") := by decide +kernel
  have hforged : Signal.ofFrame? forged = .ok (.routed .offer
      ⟨some "Player7", .ofMembers [("n", .arr [.num (.int (-1))]), ("sdp", .str "v=0")]⟩) := by decide +kernel
  have hops : ∀ op ∈ ops, op.Decoded := by
    intro op hop
    simp only [ops, List.mem_cons, List.not_mem_nil, or_false] at hop
    rcases hop with rfl | rfl | rfl | rfl
    · trivial
    · intro m hm
      rw [hclaim] at hm
      obtain rfl := Except.ok.inj hm
      exact ⟨trivial, trivial, trivial⟩
    · trivial
    · intro m hm
      rw [hforged] at hm
      obtain rfl := Except.ok.inj hm
      have hminus : (Number.int (-1)).Exact := by decide
      exact ⟨trivial, trivial, ⟨hminus, trivial⟩, trivial, trivial⟩
  have hsent : .message offer ∈ (((fresh Settings.standard).run ops).outbox ⟨1⟩).frames := by decide +kernel
  have hextra : Settings.standard.peerOptions.extra.get? "iceServers" = none := by decide
  have hdepth : Settings.standard.peerOptions.toJson.depth ≤ 126 := by decide
  have hexact : Settings.standard.peerOptions.toJson.Exact :=
    ⟨⟨⟨⟨trivial, trivial⟩, trivial⟩, trivial⟩, trivial⟩
  obtain ⟨hdecode, -, -⟩ := emissions_decode Settings.standard hextra hexact hdepth ops hops
  exact ⟨hops, hsent, (hdecode ⟨1⟩ offer hsent).2⟩

end

end Relay

end SignalRelay
