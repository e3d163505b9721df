import SignalRelay.Proofs.Message.Layouts
import SignalRelay.Proofs.Text.Utf8
import SignalRelay.Wire.Outbox

/-!
# Keep-alives

A connection takes frames one after the other.  Pings are answered, everything else that is a message is
passed on, and the rest is dropped.

* `Json.Doc.PingsAt` says that a document is a ping, by its time as it is written.
  `Signal.ofFrame?_of_pingsAt`: the time is read as that number, so that an integer that 64 bits hold is
  kept from the ping to the text of its answer (`Signal.text_pong_int`).
* `Outbox.receiveAll` takes a sequence of frames, and `Outbox.receiveAll_eq` says what comes of it.
* `Outbox.receive_encode` and `Outbox.receive_of_not_encode` are about binary frames.
-/

namespace SignalRelay

open Json

/-! ### Pings -/

namespace Json

/-- The document is a ping with this time: an object that names the kind once and the time once, whatever
else stands in it, or an array of the two. -/
def Doc.PingsAt (w : WrittenNumber) : Doc → Prop
  | .obj ms =>
    ms.filter (·.1 == unitsOf "type") = [(unitsOf "type", .str (unitsOf "ping"))] ∧
      ms.filter (·.1 == unitsOf "time") = [(unitsOf "time", .num w)]
  | .arr items => items = [.str (unitsOf "ping"), .num w]
  | _ => False

/-- Reading keeps members and their names together. -/
private theorem memberValues?_filter {ms : List (List UInt16 × Doc)} {depth : Nat} {vs : List (String × Json)}
    (h : Doc.memberValues? ms depth = some vs) (key : String) :
    Doc.memberValues? (ms.filter (·.1 == unitsOf key)) depth = some (vs.filter (·.1 == key)) := by
  induction ms generalizing vs with
  | nil =>
    obtain rfl := Option.some.inj h
    rfl
  | cons m ms ih =>
    obtain ⟨us, d⟩ := m
    simp only [Doc.memberValues?, Doc.memberValue?, Option.bind_eq_some_iff, Option.map_eq_some_iff] at h
    obtain ⟨_, ⟨name, hname, v, hv, rfl⟩, vs, hvs, rfl⟩ := h
    have hsame : us = unitsOf key ↔ name = key := by
      constructor
      · rintro rfl
        exact Option.some.inj (hname.symm.trans (textOf?_unitsOf key))
      · rintro rfl
        exact textOf?_inj hname (textOf?_unitsOf name)
    by_cases hkey : name = key
    · simp [hkey, hsame.2 hkey, Doc.memberValues?, Doc.memberValue?, textOf?_unitsOf, hv, ih hvs]
    · simp [hkey, hsame, ih hvs]

end Json

namespace Signal

/-- The time of a ping. -/
def pingTime? : Signal → Option Number
  | .ping time => some time
  | _ => none

private theorem ofJson?_of_pingsAt {d : Doc} {w : WrittenNumber} {time : Number} (h : d.PingsAt w)
    (htime : Number.ofWritten? w = some time) {j : Json} (hj : d.value? maxDepth = some j) :
    ofJson? j = some (.ping time) := by
  cases d with
  | obj ms =>
    obtain ⟨hkind, hnumber⟩ := h
    obtain ⟨vs, hvs, rfl⟩ := Option.map_eq_some_iff.1 hj
    have hkinds : vs.filter (·.1 == "type") = [("type", .str "ping")] := by
      have hread := memberValues?_filter hvs "type"
      rw [hkind] at hread
      simpa [Doc.memberValues?, Doc.memberValue?, Doc.value?, textOf?_unitsOf] using hread.symm
    have htimes : vs.filter (·.1 == "time") = [("time", .num time)] := by
      have hread := memberValues?_filter hvs "time"
      rw [hnumber] at hread
      simpa [Doc.memberValues?, Doc.memberValue?, Doc.value?, textOf?_unitsOf, htime] using hread.symm
    -- the kind is none of the other members
    have hothers : (vs.filter (·.1 != "type")).filter (·.1 == "time") = [("time", .num time)] := by
      rw [List.filter_filter, ← htimes]
      refine List.filter_congr fun m _ => ?_
      by_cases hm : m.1 = "time" <;> simp [hm]
    have hname : kindOf? (.str "ping") = some .ping := by decide +kernel
    simp [ofJson?, required?, hkinds, hname, ofMembers?, hothers, asNumber?]
  | arr items =>
    obtain rfl : items = _ := h
    obtain ⟨vs, hvs, rfl⟩ := Option.map_eq_some_iff.1 hj
    obtain rfl : [.str "ping", .num time] = vs := by
      simpa [Doc.values?, Doc.value?, textOf?_unitsOf, htime] using hvs
    have hname : kindOf? (.str "ping") = some .ping := by decide +kernel
    simp [ofJson?, hname, ofItems?, asNumber?]
  | _ => cases h

/-- A ping is decoded to one with the time that is written, whatever its layout. -/
theorem ofFrame?_of_pingsAt {d : Doc} {w : WrittenNumber} {time : Number} (h : d.PingsAt w)
    (htime : Number.ofWritten? w = some time) (hreadable : (d.value? maxDepth).isSome) {s : String}
    (hs : d.SpellsText s) {frame : Inbound} (hframe : frame.text? = some s) :
    ofFrame? frame = .ok (.ping time) := by
  obtain ⟨j, hj⟩ := Option.isSome_iff_exists.1 hreadable
  have hread := toOption_ofFrame? hframe
  rw [toOption_ofText? hs, hj, Option.bind_some, ofJson?_of_pingsAt h htime hj] at hread
  exact eq_ok_of_toOption hread

/-- The text of the answer to a ping with an integer. -/
theorem text_pong_int (n : Int) :
    (pong (.int n)).text = "\x7b\"type\":\"pong\",\"time\":" ++ toString n ++ "\x7d" := by
  have hbefore : '\x7b' :: (quoted "type" ++ ':' :: quoted "pong") ++ ',' :: (quoted "time" ++ [':']) =
      "\x7b\"type\":\"pong\",\"time\":".toList := by decide +kernel
  have hchars : (pong (.int n)).toJson.chars =
      '\x7b' :: (quoted "type" ++ ':' :: quoted "pong") ++ ',' :: (quoted "time" ++ [':']) ++
        ((Number.int n).chars ++ ['\x7d']) := by
    simp [toJson, toMembers, kind, Kind.name, chars, memberChars, membersChars]
  rw [text, Json.text, hchars, hbefore, chars_int, String.ofList_append, String.ofList_append,
    String.ofList_toList, String.ofList_toList, String.append_assoc]

end Signal

/-! ### Frames -/

namespace Outbox

/-- Takes frames one after the other, and gives back the messages that are passed on. -/
def receiveAll (box : Outbox) : List Inbound → Outbox × List Signal
  | [] => (box, [])
  | frame :: frames =>
    let (box, m) := box.receive frame
    let (box, ms) := box.receiveAll frames
    (box, m.toList ++ ms)

end Outbox

/-- The messages among frames. -/
def decoded (frames : List Inbound) : List Signal :=
  frames.filterMap fun frame => (Signal.ofFrame? frame).toOption

namespace Outbox

section
variable {box : Outbox} {frame : Inbound} {m : Signal} {time : Number}

theorem receive_of_error {e : FrameError} (h : Signal.ofFrame? frame = .error e) :
    box.receive frame = (box, none) := by
  rw [receive, h]

theorem receive_of_ping (h : Signal.ofFrame? frame = .ok m) (hping : m.pingTime? = some time) :
    box.receive frame = (box.push (.message (.pong time)), none) := by
  cases m with
  | ping time' =>
    obtain rfl := Option.some.inj hping
    rw [receive, h]
  | _ => cases hping

theorem receive_of_other (h : Signal.ofFrame? frame = .ok m) (hother : m.pingTime? = none) :
    box.receive frame = (box, some m) := by
  cases m with
  | ping time => cases hother
  | _ => rw [receive, h]

end

/-- Of a sequence of frames the pings are answered, in order, and the other messages are passed on, in
order. -/
theorem receiveAll_eq (box : Outbox) (hlive : box.connected = true) (frames : List Inbound) :
    box.receiveAll frames =
      ({ box with
          frames := box.frames ++ ((decoded frames).filterMap Signal.pingTime?).map fun time =>
            .message (.pong time) },
        (decoded frames).filter (·.pingTime?.isNone)) := by
  induction frames generalizing box with
  | nil => simp [receiveAll, decoded]
  | cons frame frames ih =>
    rw [receiveAll]
    cases hm : Signal.ofFrame? frame with
    | error e => simp [receive_of_error hm, ih box hlive, decoded, hm]
    | ok m =>
      cases hping : m.pingTime? with
      | none => simp [receive_of_other hm hping, ih box hlive, decoded, hm, hping]
      | some time =>
        have hpush :
            box.push (.message (.pong time)) = { box with frames := box.frames ++ [.message (.pong time)] } :=
          if_pos hlive
        have hrest := ih { box with frames := box.frames ++ [.message (.pong time)] } hlive
        simp [receive_of_ping hm hping, hpush, hrest, decoded, hm, hping]

/-! ### Binary frames -/

/-- A text may come in either kind of frame. -/
theorem receive_encode (box : Outbox) (s : String) :
    box.receive (.binary (Utf8.encode s)) = box.receive (.text s) := by
  have hframe : Signal.ofFrame? (.binary (Utf8.encode s)) = Signal.ofFrame? (.text s) := by
    simp only [Signal.ofFrame?, Utf8.decode_eq_ok_iff.2 rfl]
  rw [receive, receive, hframe]

/-- Octets that encode no text are dropped as a whole. -/
theorem receive_of_not_encode (box : Outbox) {octets : List UInt8} (h : ∀ s, octets ≠ Utf8.encode s) :
    box.receive (.binary octets) = (box, none) := by
  cases hdecode : Utf8.decode octets with
  | error e => exact receive_of_error (e := .notUtf8 e) (by simp only [Signal.ofFrame?, hdecode])
  | ok s => exact absurd (Utf8.decode_eq_ok_iff.1 hdecode) (h s)

/-- Receiving is transparent apart from keep-alives.  While somebody takes frames from the queue, the
messages passed on are those that the frames are decoded to and that are no pings, and what is queued is
one answer for each ping, with its time.  The time of a ping in any layout, if written as an integer that
64 bits hold, stands in the text of the answer just as it is.  A binary frame is received like the text it
encodes, and dropped if it encodes none. -/
theorem receive_is_transparent (box : Outbox) :
    (box.connected = true → ∀ frames,
      (box.receiveAll frames).2 = (decoded frames).filter (·.pingTime?.isNone) ∧
      (box.receiveAll frames).1 =
        { box with
          frames := box.frames ++ ((decoded frames).filterMap Signal.pingTime?).map fun time =>
            .message (.pong time) }) ∧
    (∀ n : Int, -(Nat.pow 2 63 : Int) ≤ n → n < (Nat.pow 2 64 : Int) →
      ∀ d : Doc, d.PingsAt (.ofInt n) → (d.value? maxDepth).isSome → ∀ s frame, d.SpellsText s →
        frame.text? = some s →
        box.receive frame = (box.push (.message (.pong (.int n))), none) ∧
        (Signal.pong (.int n)).text = "\x7b\"type\":\"pong\",\"time\":" ++ toString n ++ "\x7d") ∧
    (∀ s, box.receive (.binary (Utf8.encode s)) = box.receive (.text s)) ∧
    ∀ octets, (∀ s, octets ≠ Utf8.encode s) → box.receive (.binary octets) = (box, none) := by
  refine ⟨fun hlive frames => ?_, fun n hmin hmax d hping hreadable s frame hs hframe => ?_,
    box.receive_encode, fun octets h => box.receive_of_not_encode h⟩
  · rw [receiveAll_eq box hlive frames]
    exact ⟨rfl, rfl⟩
  · have hdecoded := Signal.ofFrame?_of_pingsAt hping (ofWritten?_ofInt ⟨hmin, hmax⟩) hreadable hs hframe
    exact ⟨receive_of_ping hdecoded rfl, Signal.text_pong_int n⟩

/-- A ping with the greatest time, a message in a binary frame, text that is no message, and octets that
begin like one but go on with an overlong form. -/
theorem receive_is_transparent_greatest :
    let ping := "\x7b\"type\":\"ping\",\"time\":18446744073709551615\x7d"
    let stop := Utf8.encode "[\"stopStreaming\"]"
    let frames := [.text ping, .binary stop, .text "weather", .binary (stop ++ [0xC0, 0xA0])]
    let answer : Signal := .pong (.int 18446744073709551615)
    fresh.receiveAll frames = (⟨true, [.message answer]⟩, [.stopStreaming]) ∧
      fresh.receive (.text ping) = (⟨true, [.message answer]⟩, none) ∧
      answer.text = "\x7b\"type\":\"pong\",\"time\":18446744073709551615\x7d" ∧
      fresh.receive (.binary stop) = fresh.receive (.text "[\"stopStreaming\"]") ∧
      fresh.receive (.binary (stop ++ [0xC0, 0xA0])) = (fresh, none) := by
  intro ping stop frames answer
  obtain ⟨hall, hintegers, htexts, hoctets⟩ := receive_is_transparent fresh
  obtain ⟨hpassed, hqueued⟩ := hall rfl frames
  let type := (unitsOf "type", Doc.str (unitsOf "ping"))
  let time := (unitsOf "time", Doc.num (.ofInt 18446744073709551615))
  have htype : Doc.SpellsMember type "\"type\":\"ping\"".toList :=
    ⟨"\"type\"".toList, [], [], "\"ping\"".toList, ⟨_, spellsUnits_plain (by decide), rfl⟩,
      blanks_nil, blanks_nil, ⟨_, spellsUnits_plain (by decide), rfl⟩, rfl⟩
  have htime : Doc.SpellsMember time "\"time\":18446744073709551615".toList :=
    ⟨"\"time\"".toList, [], [], "18446744073709551615".toList, ⟨_, spellsUnits_plain (by decide), rfl⟩,
      blanks_nil, blanks_nil, spellsNumber_ofInt.2 (by decide +kernel), rfl⟩
  have hspells : (Doc.obj [type, time]).SpellsText ping :=
    ⟨[], _, [], blanks_nil, blanks_nil,
      ⟨_, ⟨[], _, _, blanks_nil, htype, ⟨[','], _, _, ⟨[], [], blanks_nil, blanks_nil, rfl⟩, htime,
        ⟨[], blanks_nil, rfl⟩, rfl⟩, rfl⟩, rfl⟩, by decide⟩
  have hping : (Doc.obj [type, time]).PingsAt (.ofInt 18446744073709551615) := ⟨rfl, rfl⟩
  obtain ⟨hreceived, htext⟩ :=
    hintegers 18446744073709551615 (by decide) (by decide) _ hping (by decide +kernel) ping
      (.text ping) hspells rfl
  have hinvalid : Utf8.decode (stop ++ [0xC0, 0xA0]) = .error ⟨17, some 1⟩ := by decide +kernel
  refine ⟨Prod.ext (hqueued.trans (by decide +kernel)) (hpassed.trans (by decide +kernel)), hreceived, ?_,
    htexts _, hoctets _ fun s hs => ?_⟩
  · exact htext.trans (by decide +kernel)
  · rw [Utf8.decode_eq_ok_iff.2 hs] at hinvalid
    cases hinvalid

end Outbox

end SignalRelay
