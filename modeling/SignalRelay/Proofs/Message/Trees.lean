import SignalRelay.Message.Codec
import SignalRelay.Proofs.Json.Values

/-!
# Messages read back from their trees

Every message is read back from the members that it is written as, provided that no member which it
carries along unread bears a name that stands for something else (`Signal.Unambiguous`).  A message that
carries no payload is read back from the values of its members as well.

* `IceServer.ofJson?_toJson`, `PeerOptions.ofJson?_toJson` and `Payload.ofMembers?_toMembers` are the parts.
* `Signal.ofMembers?_toMembers` and `Signal.ofItems?_values` are the two forms of a message.
-/

namespace SignalRelay

namespace Json

private theorem mapM_map_eq_some {α : Type} {read : Json → Option α} {toJson : α → Json} {xs : List α}
    (h : ∀ x ∈ xs, read (toJson x) = some x) : (xs.map toJson).mapM read = some xs := by
  induction xs with
  | nil => rfl
  | cons x xs ih =>
    have hxs := ih fun y hy => h y (List.mem_cons_of_mem x hy)
    simp [h x List.mem_cons_self, hxs]

theorem asTexts?_texts (ids : List String) : asTexts? (.arr (ids.map .str)) = some ids :=
  mapM_map_eq_some fun _ _ => rfl

end Json

theorem Fields.ne_of_mem_members {fields : Fields} {key : String} (h : fields.get? key = none) :
    ∀ m ∈ fields.members, m.1 ≠ key := by
  intro m hm heq
  have hne := List.lookup_eq_none_iff.1 h m hm
  simp [heq] at hne

private theorem Fields.filter_key {fields : Fields} {key : String} (h : fields.get? key = none) :
    fields.members.filter (·.1 == key) = [] ∧ fields.members.filter (·.1 != key) = fields.members := by
  constructor
  · exact List.filter_eq_nil_iff.2 fun m hm => by simpa using Fields.ne_of_mem_members h m hm
  · exact List.filter_eq_self.2 fun m hm => by simpa using Fields.ne_of_mem_members h m hm

theorem IceServer.ofJson?_toJson (server : IceServer) : IceServer.ofJson? server.toJson = some server := by
  obtain ⟨urls, username, credential⟩ := server
  cases username <;> cases credential <;>
    simp [IceServer.toJson, IceServer.ofJson?, Json.required?, Json.optional?, Json.optionalMember,
      Json.asTexts?_texts, Json.asOptionalText?]

theorem PeerOptions.ofJson?_toJson {options : PeerOptions} (h : options.extra.get? "iceServers" = none) :
    PeerOptions.ofJson? options.toJson = some options := by
  have hservers : serversOfJson? (.arr (options.iceServers.map IceServer.toJson)) = some options.iceServers :=
    Json.mapM_map_eq_some fun server _ => server.ofJson?_toJson
  obtain ⟨hnone, hall⟩ := Fields.filter_key h
  simp [PeerOptions.toJson, PeerOptions.ofJson?, Json.optional?, hnone, hall, hservers,
    Fields.ofMembers_members]

theorem Payload.ofMembers?_toMembers {payload : Payload} (h : payload.get? "playerId" = none) :
    Payload.ofMembers? payload.toMembers = some payload := by
  obtain ⟨playerId, fields⟩ := payload
  obtain ⟨hnone, hall⟩ := Fields.filter_key h
  cases playerId <;>
    simp [Payload.ofMembers?, Payload.toMembers, Json.optional?, Json.optionalMember,
      Json.asOptionalText?, hnone, hall, Fields.ofMembers_members]

namespace Signal

/-- No member that is carried along unread bears a name that stands for something else where it is written. -/
def Unambiguous : Signal → Prop
  | .routed _ payload => payload.get? "type" = none ∧ payload.get? "playerId" = none
  | .config options _ => options.extra.get? "iceServers" = none
  | _ => True

/-- The object form: a message is read back from its members. -/
theorem ofMembers?_toMembers {m : Signal} (h : m.Unambiguous) : ofMembers? m.kind m.toMembers = some m := by
  cases m with
  | config options version =>
    simp [kind, toMembers, ofMembers?, Json.required?, PeerOptions.ofJson?_toJson h, Json.asText?]
  | streamerList ids => simp [kind, toMembers, ofMembers?, Json.required?, Json.asTexts?_texts]
  | disconnectPlayer playerId reason =>
    cases reason <;>
      simp [kind, toMembers, ofMembers?, Json.required?, Json.optional?, Json.optionalMember, Json.asText?,
        Json.asOptionalText?]
  | routed kind payload => simp [Signal.kind, toMembers, ofMembers?, Payload.ofMembers?_toMembers h.2]
  | _ =>
    simp [kind, toMembers, ofMembers?, Json.required?, Json.optional?, Json.asText?, Json.asBool?,
      Json.asNumber?]

/-- The array form: a message without payload is read back from the values of its members. -/
theorem ofItems?_values {m : Signal} (h : m.Unambiguous) (hpayload : m.payload? = none) :
    ofItems? m.kind (m.toMembers.map (·.2)) = some m := by
  cases m with
  | config options version => simp [kind, toMembers, ofItems?, PeerOptions.ofJson?_toJson h, Json.asText?]
  | streamerList ids => simp [kind, toMembers, ofItems?, Json.asTexts?_texts]
  | disconnectPlayer playerId reason =>
    cases reason <;> simp [kind, toMembers, ofItems?, Json.optionalMember, Json.asText?, Json.asOptionalText?]
  | routed kind payload => cases hpayload
  | _ => simp [kind, toMembers, ofItems?, Json.asText?, Json.asBool?, Json.asNumber?]

/-- No member but the first is called `type`. -/
theorem ne_type_of_mem_toMembers {m : Signal} (h : m.Unambiguous) : ∀ n ∈ m.toMembers, n.1 ≠ "type" := by
  cases m with
  | disconnectPlayer playerId reason => cases reason <;> simp [toMembers, Json.optionalMember]
  | routed kind payload =>
    have hfields := Fields.ne_of_mem_members h.1
    obtain ⟨playerId, fields⟩ := payload
    intro n hn
    rcases List.mem_append.1 hn with hn | hn
    · cases playerId with
      | none => cases hn
      | some playerId =>
        obtain rfl := List.mem_singleton.1 hn
        exact show "playerId" ≠ "type" by decide
    · exact hfields n hn
  | _ => simp [toMembers]

end Signal

end SignalRelay
