import SignalRelay.Proofs.Message.Decoding

/-!
# Messages that can be sent

A message is fit to be sent if its text names no member twice, nests no deeper than a reader goes, and has
exact numbers only.  A payload that was decoded makes such a message, and goes on doing so with another
stamp, without one, and with a further member that bears a name of its own.

* `Payload.Sendable` and `Signal.WellFormed` are the two properties, and `wellFormed_routed` takes
  one to the other.
* `Signal.WellFormed.ofFrame?_text`, `Signal.WellFormed.ofText?_text` and `Signal.WellFormed.names_nodup`
  say what the property is good for.
-/

namespace SignalRelay

open Json

theorem Json.exactMembers_iff {ms : List (String × Json)} : ExactMembers ms ↔ ∀ m ∈ ms, m.2.Exact := by
  induction ms with
  | nil => simp [ExactMembers]
  | cons m rest ih => rw [ExactMembers, ih, List.forall_mem_cons, ExactMember]

/-- The names of a canonical object are increasing, and so all different. -/
theorem Json.CanonicalMembers.names_nodup {ms : List (String × Json)} (h : CanonicalMembers ms) :
    (ms.map Prod.fst).Nodup := by
  induction ms with
  | nil => exact List.nodup_nil
  | cons m rest ih =>
    obtain ⟨-, hlt, hrest⟩ := h
    rw [List.map_cons, List.nodup_cons]
    refine ⟨fun hmem => ?_, ih hrest⟩
    obtain ⟨n, hn, hname⟩ := List.mem_map.1 hmem
    have hself := hlt n hn
    rw [hname] at hself
    exact String.lt_irrefl _ hself

/-! ### Payloads -/

namespace Payload

/-- A payload that can be written and read back, whatever stamp it has. -/
structure Sendable (payload : Payload) : Prop where
  clear : payload.Clear
  exact : ExactMembers payload.fields.members
  depth : depthMembers payload.fields.members ≤ maxDepth - 1

section
variable {payload : Payload}

theorem Clear.withStamp (h : payload.Clear) (id : String) : (payload.withStamp id).Clear := h

theorem Clear.withoutStamp (h : payload.Clear) : payload.withoutStamp.Clear := h

/-- The id of a forwarding unit goes by a name of its own. -/
theorem Clear.insert_sfuId (h : payload.Clear) (value : Json) : (payload.insert "sfuId" value).Clear := by
  constructor
  · exact (Fields.get?_insert _ _ _ _).trans h.1
  · exact (Fields.get?_insert _ _ _ _).trans h.2

theorem Sendable.withStamp (h : payload.Sendable) (id : String) : (payload.withStamp id).Sendable :=
  ⟨h.clear.withStamp id, h.exact, h.depth⟩

theorem Sendable.withoutStamp (h : payload.Sendable) : payload.withoutStamp.Sendable :=
  ⟨h.clear.withoutStamp, h.exact, h.depth⟩

theorem Sendable.insert_sfuId (h : payload.Sendable) (id : String) :
    (payload.insert "sfuId" (.str id)).Sendable := by
  have hmem : ∀ m ∈ (payload.insert "sfuId" (.str id)).fields.members,
      m = ("sfuId", .str id) ∨ m ∈ payload.fields.members := fun m hm => mem_insertMember hm
  refine ⟨h.clear.insert_sfuId _, exactMembers_iff.2 fun m hm => ?_, depthMembers_le_iff.2 fun m hm => ?_⟩
  · rcases hmem m hm with rfl | hm
    · trivial
    · exact exactMembers_iff.1 h.exact m hm
  · rcases hmem m hm with rfl | hm
    · exact Nat.zero_le _
    · exact depthMembers_le_iff.1 h.depth m hm

end

end Payload

/-! ### Messages -/

namespace Signal

/-- A message that can be written and read back. -/
structure WellFormed (m : Signal) : Prop where
  unambiguous : m.Unambiguous
  exact : m.toJson.Exact
  depth : m.toJson.depth ≤ maxDepth

section
variable {m : Signal} {kind : RoutedKind} {payload : Payload}

/-- It is enough to look at the members one by one. -/
theorem wellFormed_of_members (h : m.Unambiguous)
    (hmembers : ∀ n ∈ m.toMembers, n.2.Exact ∧ n.2.depth ≤ maxDepth - 1) : m.WellFormed := by
  refine ⟨h, ⟨trivial, exactMembers_iff.2 fun n hn => (hmembers n hn).1⟩, ?_⟩
  have hdepth : depthMembers m.toMembers ≤ maxDepth - 1 := depthMembers_le_iff.2 fun n hn => (hmembers n hn).2
  simp only [toJson, depth, depthMembers, depthMember, maxDepth] at hdepth ⊢
  omega

theorem wellFormed_routed (h : payload.Sendable) : (routed kind payload).WellFormed := by
  refine wellFormed_of_members h.clear fun n hn => ?_
  rcases List.mem_append.1 hn with hn | hn
  · cases hstamp : payload.playerId with
    | none =>
      rw [hstamp] at hn
      cases hn
    | some playerId =>
      rw [hstamp] at hn
      obtain rfl := List.mem_singleton.1 hn
      exact ⟨trivial, Nat.zero_le _⟩
  · exact ⟨exactMembers_iff.1 h.exact n hn, depthMembers_le_iff.1 h.depth n hn⟩

/-- A payload that was decoded can be sent on. -/
theorem sendable_of_ofFrame? {content : Inbound} (h : ofFrame? content = .ok (.routed kind payload))
    (hexact : (routed kind payload).toJson.Exact) : payload.Sendable := by
  obtain ⟨hclear, hdepth⟩ := clear_of_ofFrame? h
  refine ⟨hclear, exactMembers_iff.2 fun n hn => exactMembers_iff.1 hexact.2 n ?_, hdepth⟩
  exact List.mem_append_right _ hn

theorem wellFormed_config {options : PeerOptions} (hextra : options.extra.get? "iceServers" = none)
    (hexact : options.toJson.Exact) (hdepth : options.toJson.depth ≤ maxDepth - 1) (version : String) :
    (config options version).WellFormed := by
  refine wellFormed_of_members hextra ?_
  simp [toMembers, hexact, hdepth, Exact, depth]

theorem wellFormed_pong {time : Number} (h : time.Exact) : (pong time).WellFormed := by
  refine wellFormed_of_members trivial ?_
  simpa [toMembers, Exact, depth] using h

theorem wellFormed_identify : identify.WellFormed := wellFormed_of_members trivial (by simp [toMembers])

theorem wellFormed_streamerList (ids : List String) : (streamerList ids).WellFormed := by
  have hitems : ExactItems (ids.map .str) ∧ ∀ j ∈ ids.map Json.str, j.depth ≤ 0 := by
    induction ids with
    | nil => exact ⟨trivial, by simp⟩
    | cons id ids ih => exact ⟨⟨trivial, ih.1⟩, List.forall_mem_cons.2 ⟨Nat.le_refl _, ih.2⟩⟩
  refine wellFormed_of_members trivial (List.forall_mem_singleton.2 ⟨hitems.1, ?_⟩)
  have hdepth := depthItems_le_iff.2 hitems.2
  simp only [depth, maxDepth]
  omega

/-! ### What well-formed messages are good for -/

/-- The wire text is decoded to the same message. -/
theorem WellFormed.ofFrame?_text (h : m.WellFormed) : ofFrame? (.text m.text) = .ok m :=
  SignalRelay.ofFrame?_text (m.read_object h.unambiguous h.exact h.depth)

/-- As JSON the wire text is the object that stands for the message. -/
theorem WellFormed.ofText?_text (h : m.WellFormed) : Json.ofText? m.text = .ok m.toJson :=
  readAll_of_reads (value_chars m.toJson h.exact maxDepth h.depth)

/-- No name stands for two things. -/
theorem WellFormed.names_nodup (h : m.WellFormed) :
    ((("type", .str m.kind.name) :: m.toMembers).map Prod.fst).Nodup := by
  rw [List.map_cons, List.nodup_cons]
  constructor
  · intro hmem
    obtain ⟨n, hn, hname⟩ := List.mem_map.1 hmem
    exact ne_type_of_mem_toMembers h.unambiguous n hn hname
  · cases m with
    | disconnectPlayer playerId reason => cases reason <;> simp [toMembers, optionalMember]
    | routed kind payload =>
      have hnames := payload.fields.canonical.names_nodup
      have hstamp := Fields.ne_of_mem_members h.unambiguous.2
      obtain ⟨playerId, fields⟩ := payload
      cases playerId with
      | none => exact hnames
      | some playerId =>
        refine List.nodup_cons.2 ⟨fun hmem => ?_, hnames⟩
        obtain ⟨n, hn, hname⟩ := List.mem_map.1 hmem
        exact hstamp n hn hname
    | _ => simp [toMembers]

end

end Signal

end SignalRelay
