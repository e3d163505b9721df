import SignalRelay.Proofs.Message.Trees
import SignalRelay.Wire.Frame

/-!
# Messages read back from their text

The wire text of a message is decoded to the same message, and so is the array of its kind's name and its
members' values if the message carries no payload.  Both ask that no name stands for two things, that all
numbers are exact integers, and that the text nests no deeper than a reader goes.

* `PeerOptions.read_chars`: options are read back straight from text, server by server, each member
  kept in its place.
* `Signal.read_object` and `Signal.read_array`: the two forms of a message.
* `decoding_inverts_encoding` puts them together for whole frames and texts.
-/

namespace SignalRelay

open Json

/-! ### Strings where a text or a name is wanted -/

namespace Json

private theorem reads_text? (s : String) : Reads text? (quoted s) s := by
  intro rest _
  rw [quoted_append]
  simp [text?, skipBlank_cons (show isBlank '"' = false by decide), stringBody_flatMap]

private theorem reads_optionalText (s : String) : Reads optionalText (quoted s) (some s) := by
  intro rest hrest
  have htext := reads_text? s rest hrest
  rw [quoted_append] at htext ⊢
  simp [optionalText, skipBlank_cons (show isBlank '"' = false by decide), htext, bind, Except.bind]

private theorem reads_texts (ids : List String) : Reads texts (chars (.arr (ids.map .str))) ids := by
  intro rest _
  have hinside :=
    elementsOf_inside .str (fun s (_ : s ∈ ids) => reads_text? s) (fun s _ => begins_quoted s) rest
  rw [chars_arr]
  simpa [texts, skipBlank_cons (show isBlank '[' = false by decide)] using hinside

end Json

/-! ### Options -/

namespace IceServer

/-- A member that may be missing fills the place that `put` gives it. -/
private theorem gathers_optionalMember (key : String) (s : Option String)
    (put : Option (Option String) → Draft) (hmember : (put none).member key = fun cs => do
      let (t, rest) ← memberValue optionalText cs
      .ok (put (some t), rest)) :
    Gathers Draft.member (put none) (optionalMember key s) (put (s.map some)) := by
  cases s with
  | none => exact .nil _
  | some s =>
    refine .cons ?_ (.nil _)
    rw [hmember]
    exact (reads_optionalText s).memberValue.map fun t => put (some t)

/-- A server is read back from its object, whose members have places of their own. -/
theorem read_chars (server : IceServer) : Reads read server.toJson.chars server := by
  obtain ⟨urls, username, credential⟩ := server
  have hurls : Reads (Draft.member ⟨none, none, none⟩ "urls") (':' :: chars (.arr (urls.map .str)))
      ⟨some urls, none, none⟩ := by
    have hread := (reads_texts urls).memberValue.map fun urls => (⟨some urls, none, none⟩ : Draft)
    intro rest hrest
    simpa [Draft.member] using hread rest hrest
  have husername := gathers_optionalMember "username" username (fun s => ⟨some urls, s, none⟩)
    (by funext cs; simp [Draft.member])
  have hcredential :=
    gathers_optionalMember "credential" credential (fun s => ⟨some urls, username.map some, s⟩)
      (by funext cs; simp [Draft.member])
  intro rest _
  have hinside := membersOf_inside (.cons hurls (husername.append hcredential)) rest
  rw [toJson, chars_obj]
  cases username <;> cases credential <;>
    simp [read, skipBlank_cons (show isBlank '{' = false by decide), bind, Except.bind, hinside]

end IceServer

namespace PeerOptions

private theorem reads_servers (servers : List IceServer) :
    Reads readServers (chars (.arr (servers.map IceServer.toJson))) servers := by
  intro rest _
  have hinside := elementsOf_inside IceServer.toJson (fun server (_ : server ∈ servers) => server.read_chars)
    (fun server _ => begins_obj _) rest
  rw [chars_arr]
  simpa [readServers, skipBlank_cons (show isBlank '[' = false by decide)] using hinside

/-- Options are read back from their object: first the servers, then all that is carried along. -/
theorem read_chars {options : PeerOptions} (hextra : options.extra.get? "iceServers" = none)
    (hexact : options.toJson.Exact) (hdepth : options.toJson.depth ≤ maxDepth) :
    Reads read options.toJson.chars options := by
  have hservers : Reads (Draft.member ⟨none, []⟩ "iceServers")
      (':' :: chars (.arr (options.iceServers.map IceServer.toJson))) ⟨some options.iceServers, []⟩ := by
    have hread := (reads_servers options.iceServers).memberValue.map fun servers =>
      (⟨some servers, []⟩ : Draft)
    intro rest hrest
    simpa [Draft.member] using hread rest hrest
  have hvalues : ∀ m ∈ options.extra.members, Begins m.2.chars ∧
      Reads (value (maxDepth - 1)) m.2.chars m.2 := by
    refine value_members _ hexact.2 _ ?_
    simp only [toJson, depth, depthMembers] at hdepth
    omega
  have hothers : Gathers Draft.member ⟨some options.iceServers, []⟩ options.extra.members
      ⟨some options.iceServers, options.extra.members⟩ := by
    refine Gathers.of_put (Draft.mk (some options.iceServers)) (fun m hm xs rest hrest => ?_) []
    have hread := (reads_gather (hvalues m hm).2 xs).map (Draft.mk (some options.iceServers)) rest hrest
    rwa [Draft.member, if_neg (Fields.ne_of_mem_members hextra m hm)]
  intro rest _
  have hinside := membersOf_inside (.cons hservers hothers) rest
  rw [toJson, chars_obj]
  simp [read, skipBlank_cons (show isBlank '{' = false by decide), bind, Except.bind, hinside,
    Fields.ofMembers_members]

end PeerOptions

/-! ### Messages -/

namespace Signal

/-- The elements of the array that stands for a message without payload. -/
def toItems (m : Signal) : List Json := .str m.kind.name :: m.toMembers.map (·.2)

private theorem reads_kind (kind : Kind) : Reads readKind (quoted kind.name) kind := by
  intro rest hrest
  simp [readKind, reads_text? kind.name rest hrest, Kind.ofName?_name, bind, Except.bind]

private theorem values_of_depth {m : Signal} (hexact : m.toJson.Exact) (hdepth : m.toJson.depth ≤ maxDepth) :
    ∀ n ∈ m.toMembers, Begins n.2.chars ∧ Reads (value (maxDepth - 1)) n.2.chars n.2 := by
  refine value_members _ hexact.2 _ ?_
  simp only [toJson, depth, depthMembers] at hdepth
  omega

/-- The object form: the kind is read first, then the other members as trees. -/
theorem read_object {m : Signal} (hm : m.Unambiguous) (hexact : m.toJson.Exact)
    (hdepth : m.toJson.depth ≤ maxDepth) :
    Reads read m.toJson.chars m := by
  have hkind :
      Reads (Draft.member ⟨none, []⟩ "type") (':' :: chars (.str m.kind.name)) ⟨some m.kind, []⟩ := by
    have hread := (reads_kind m.kind).memberValue.map fun kind => (⟨some kind, []⟩ : Draft)
    intro rest hrest
    simpa [Draft.member, chars] using hread rest hrest
  have hothers : Gathers Draft.member ⟨some m.kind, []⟩ m.toMembers ⟨some m.kind, m.toMembers⟩ := by
    refine Gathers.of_put (Draft.mk (some m.kind)) (fun n hn xs rest hrest => ?_) []
    have hread :=
      (reads_gather (values_of_depth hexact hdepth n hn).2 xs).map (Draft.mk (some m.kind)) rest hrest
    rwa [Draft.member, if_neg (ne_type_of_mem_toMembers hm n hn)]
  intro rest _
  have hinside := membersOf_inside (.cons hkind hothers) rest
  rw [toJson, chars_obj]
  simp [read, readObject, skipBlank_cons (show isBlank '{' = false by decide), bind, Except.bind, hinside,
    ofMembers?_toMembers hm, expect]

/-- The array form: the kind is read first, then the values as trees. -/
theorem read_array {m : Signal} (hm : m.Unambiguous) (hexact : m.toJson.Exact)
    (hdepth : m.toJson.depth ≤ maxDepth) (hpayload : m.payload? = none) :
    Reads read (chars (.arr m.toItems)) m := by
  have hvalues : ∀ j ∈ m.toMembers.map (·.2), Begins j.chars ∧ Reads (value (maxDepth - 1)) j.chars j := by
    intro j hj
    obtain ⟨n, hn, rfl⟩ := List.mem_map.1 hj
    exact values_of_depth hexact hdepth n hn
  intro rest _
  let tail := itemsChars (m.toMembers.map (·.2)) ++ ']' :: rest
  have htext : chars (.arr m.toItems) ++ rest = '[' :: (quoted m.kind.name ++ tail) := by
    simp [toItems, chars, tail]
  have hplace : advance ']' true (quoted m.kind.name ++ tail) = .ok (.item (quoted m.kind.name ++ tail)) :=
    (advance_item (.inl rfl) (begins_quoted m.kind.name) tail).1
  have hkind : readKind (quoted m.kind.name ++ tail) = .ok (m.kind, tail) :=
    reads_kind m.kind tail (delimited_itemsChars _ rest)
  have hitems : elements (value (maxDepth - 1)) (tail.length + 1) false tail =
      .ok (m.toMembers.map (·.2), rest) := by
    have hfuel : (m.toMembers.map (·.2)).length < tail.length + 1 := by
      have hlength := length_le_itemsChars (m.toMembers.map (·.2))
      rw [List.length_append]
      omega
    have hread :=
      elements_itemsChars id (fun j hj => (hvalues j hj).2) (fun j hj => (hvalues j hj).1) hfuel rest
    rwa [List.map_id] at hread
  rw [htext]
  simp [read, readArray, skipBlank_cons (show isBlank '[' = false by decide), hplace, hkind, hitems, bind,
    Except.bind, ofItems?_values hm hpayload, expect]

end Signal

/-! ### Whole texts -/

theorem ofFrame?_text {cs : List Char} {m : Signal} (h : Reads Signal.read cs m) :
    Signal.ofFrame? (.text (String.ofList cs)) = .ok m := by
  rw [Signal.ofFrame?, Signal.ofText?, readAll_of_reads h]
  rfl

/-- Decoding inverts encoding, for messages in both their forms and for options: what is written is read
back as the same if no name stands for two things, all numbers are integers of 64 bits and the text nests
at most 127 levels. -/
theorem decoding_inverts_encoding :
    (∀ m : Signal, m.Unambiguous → m.toJson.Exact → m.toJson.depth ≤ 127 →
      Signal.ofFrame? (.text m.text) = .ok m ∧
      (m.payload? = none → Signal.ofFrame? (.text (Json.arr m.toItems).text) = .ok m)) ∧
    ∀ options : PeerOptions, options.extra.get? "iceServers" = none → options.toJson.Exact →
      options.toJson.depth ≤ 127 → PeerOptions.ofText? options.text = .ok options := by
  refine ⟨fun m hm hexact hdepth => ⟨?_, fun hpayload => ?_⟩, fun options hextra hexact hdepth => ?_⟩
  · exact ofFrame?_text (m.read_object hm hexact hdepth)
  · exact ofFrame?_text (m.read_array hm hexact hdepth hpayload)
  · exact readAll_of_reads (options.read_chars hextra hexact hdepth)

/-- A stamped offer with nested members, the order to throw a viewer out as an array, and options
with a server. -/
theorem decoding_inverts_encoding_offer :
    let offer : Signal := .routed .offer
      ⟨some "Player0", .ofMembers [("lines", .arr [.obj [("sdp", .str "v=0\n")], .num (.int (-1)), .null])]⟩
    let order : Signal := .disconnectPlayer "Player0" none
    let options : PeerOptions :=
      ⟨[⟨["stun:a"], some "u", none⟩], .ofMembers [("ttl", .num (.int 18446744073709551615))]⟩
    Signal.ofFrame? (.text offer.text) = .ok offer ∧
      Signal.ofFrame? (.text "[\"disconnectPlayer\",\"Player0\"]") = .ok order ∧
      PeerOptions.ofText? options.text = .ok options := by
  intro offer order options
  obtain ⟨hmessages, hoptions⟩ := decoding_inverts_encoding
  have horder : (Json.arr order.toItems).text = "[\"disconnectPlayer\",\"Player0\"]" := by decide +kernel
  refine ⟨(hmessages offer ?_ ?_ ?_).1, ?_, hoptions options ?_ ?_ ?_⟩
  · exact ⟨by decide +kernel, by decide +kernel⟩
  · have hminus : (Number.int (-1)).Exact := by decide
    exact ⟨trivial, trivial, ⟨⟨trivial, trivial⟩, hminus, trivial, trivial⟩, trivial⟩
  · decide +kernel
  · rw [← horder]
    exact (hmessages order trivial ⟨trivial, trivial, trivial⟩ (by decide +kernel)).2 rfl
  · decide +kernel
  · have httl : (Number.int 18446744073709551615).Exact := by decide
    exact ⟨⟨⟨⟨trivial, trivial⟩, trivial, trivial⟩, trivial⟩, httl, trivial⟩
  · decide +kernel

end SignalRelay
