import Mathlib.Data.List.Induction
import SignalRelay.Proofs.Relay.Agreement
import SignalRelay.Proofs.Relay.History

/-!
# What a source has been told

A source hears of its viewers and of its id through its queue alone.  After every run the queue of a live
source tells exactly how things stand: whoever has come and not left is on its list, in the same order,
and the id that a streamer was told last is the one it is registered under.

* `Quiet` already says that the list follows the queue, one frame at a time, and `Confirms` says the same
  of the id.
* `Outcome.tally` and `Outcome.confirms` say it of every operation, and `told_run` of a run.
-/

namespace SignalRelay

/-- The id that a frame confirms to a streamer. -/
def Outbound.confirmed? : Outbound → Option String
  | .message (.endpointIdConfirm id) => some id
  | _ => none

/-- The id that the frames confirm last. -/
def lastConfirmed? (frames : List Outbound) : Option String := (frames.filterMap Outbound.confirmed?).getLast?

theorem lastConfirmed?_append (frames frames' : List Outbound) :
    lastConfirmed? (frames ++ frames') = (lastConfirmed? frames').or (lastConfirmed? frames) := by
  rw [lastConfirmed?, List.filterMap_append, List.getLast?_append]
  rfl

theorem lastConfirmed?_eq_none {frames : List Outbound} (h : ∀ f ∈ frames, f.confirmed? = none) :
    lastConfirmed? frames = none := by
  rw [lastConfirmed?, List.filterMap_eq_nil_iff.2 h]
  rfl

theorem Outbound.confirmed?_of_plain {f : Outbound} (h : f.plain = true) : f.confirmed? = none := by
  unfold confirmed?
  split
  · cases h
  · rfl

theorem Outbound.confirmed?_of_relayed {f : Outbound} (h : f.relayed = true) : f.confirmed? = none := by
  unfold confirmed?
  split
  · cases h
  · rfl

namespace Relay

/-- Every source that has not gone has been told its id, if it got another one. -/
structure Confirms (r r' : Relay) : Prop where
  confirmed : ∀ u, ∃ frames, r'.outbox u = (r.outbox u).pushAll frames ∧
    (((r.session? u).isSome → (r'.session? u).isSome) →
      r'.wiring.streamerId u = (lastConfirmed? frames).or (r.wiring.streamerId u))

section
variable {r r' r'' : Relay} {mover : Option ConnectionId} {u : ConnectionId}

/-! ### Changes -/

private theorem confirms_of_none {frames : ConnectionId → List Outbound} (h : Sends r frames r')
    (hnone : ∀ u, ∀ f ∈ frames u, f.confirmed? = none) (hid : r'.wiring.streamerId = r.wiring.streamerId) :
    Confirms r r' where
  confirmed u :=
    ⟨frames u, h.outbox u, fun _ => by rw [lastConfirmed?_eq_none (hnone u), hid, Option.none_or]⟩

/-- Whoever is told an id last is registered under it, and nobody else has got one. -/
private theorem confirms_of_told {c : ConnectionId} {id : String} (frames : ConnectionId → List Outbound)
    (h : Sends r (fun u => frames u ++ only c (.message (.endpointIdConfirm id)) u) r')
    (hnone : ∀ u, ∀ f ∈ frames u, f.confirmed? = none)
    (hid : r'.wiring.streamerId = fun d => if d = c then some id else r.wiring.streamerId d) :
    Confirms r r' where
  confirmed u := by
    refine ⟨_, h.outbox u, fun _ => ?_⟩
    rw [lastConfirmed?_append, lastConfirmed?_eq_none (hnone u), hid, Option.or_none]
    by_cases hu : u = c
    · simp [hu, only, lastConfirmed?, Outbound.confirmed?]
    · simp [hu, only, lastConfirmed?]

/-- Every change of an id is confirmed. -/
theorem Change.confirms (h : Change mover r r') (hr : r.wiring.Sound) : Confirms r r' := by
  cases h with
  | plain h hplain hwiring =>
    exact confirms_of_none h (fun u f hf => Outbound.confirmed?_of_plain (hplain u f hf)) (by rw [hwiring])
  | preference h _ hwiring =>
    exact confirms_of_none h (fun u f hf => (mem_only hf).2 ▸ rfl) (by rw [hwiring])
  | waiting h _ hwiring => exact confirms_of_none h (fun u f hf => by cases hf) (hwiring ▸ rfl)
  | release _ h hwiring =>
    refine confirms_of_none h (fun u f hf => ?_) (hwiring ▸ rfl)
    split at hf
    · obtain ⟨id, -, rfl⟩ := List.mem_map.1 hf
      rfl
    · cases hf
  | attach _ h _ _ _ _ hwiring =>
    exact confirms_of_none h (fun u f hf => (mem_only hf).2 ▸ rfl) (hwiring ▸ rfl)
  | @tornDown c gone first _ hc hfirst htorn =>
    constructor
    intro u
    refine ⟨_, htorn.outbox u, fun hlive => ?_⟩
    have hu : u ∉ gone := by
      intro hmem
      have hgone := hlive (htorn.isSome_of_mem hc hmem)
      rw [htorn.session?, if_pos hmem] at hgone
      cases hgone
    have hnone : ∀ f ∈ (if u = c then first else []) ++ r.notices c gone u, f.confirmed? = none := by
      intro f hf
      rcases cases_of_mem_tornDown hfirst hf with ⟨reason, rfl⟩ | ⟨id, rfl⟩ | rfl <;> rfl
    rw [lastConfirmed?_eq_none hnone, Option.none_or, htorn.wiring_eq hr]
    exact if_neg hu
  | register h _ _ _ _ hwiring =>
    exact confirms_of_told (fun _ => []) h (by simp) (by rw [hwiring]; rfl)
  | rename h _ _ hwiring =>
    refine confirms_of_told _ h (fun u f hf => ?_) (hwiring ▸ rfl)
    split at hf
    · rw [List.mem_singleton.1 hf]
      rfl
    · cases hf

theorem Changes.confirms (h : Changes mover r r') (hr : r.wiring.Sound) : Confirms r r' := by
  induction h with
  | refl => exact ⟨fun _ => ⟨[], rfl, fun _ => rfl⟩⟩
  | tail hbefore hchange ih =>
    constructor
    intro u
    obtain ⟨frames, hbox, hid⟩ := ih.confirmed u
    obtain ⟨frames', hbox', hid'⟩ := (hchange.confirms (Changes.sound hbefore hr)).confirmed u
    refine ⟨frames ++ frames', by rw [hbox', hbox, Outbox.pushAll_pushAll], fun hlive => ?_⟩
    rw [hid' fun hu => hlive (Changes.isSome_of_isSome hbefore hu),
      hid fun hu => Changes.isSome_of_isSome (.single hchange) (hlive hu), lastConfirmed?_append,
      Option.or_assoc]

/-! ### Operations -/

variable {op : Operation}

/-- Nobody takes up a queue again. -/
theorem Outcome.connected_of_connected (h : Outcome r op r') (hu : (r'.outbox u).connected = true) :
    (r.outbox u).connected = true := by
  by_contra hgone
  rw [h.outbox_of_disconnected (Bool.eq_false_iff.2 hgone)] at hu
  exact hgone hu

private theorem Quiet.tally (h : Quiet r r') (hlive : (r.session? u).isSome → (r'.session? u).isSome)
    (hu : (r.outbox u).connected = true) : ∃ frames, (r'.outbox u).frames = (r.outbox u).frames ++ frames ∧
      frames.foldlM Outbound.tally? (r.watchers u) = some (r'.watchers u) := by
  obtain ⟨frames, hbox, -, htally⟩ := h.queue u
  exact ⟨frames, by rw [hbox, Outbox.frames_pushAll hu], htally hlive⟩

/-- An operation tells a source that has not gone how its viewers have changed. -/
theorem Outcome.tally (h : Outcome r op r') (hlive : (r.session? u).isSome → (r'.session? u).isSome)
    (hu : (r.outbox u).connected = true) : ∃ frames, (r'.outbox u).frames = (r.outbox u).frames ++ frames ∧
      frames.foldlM Outbound.tally? (r.watchers u) = some (r'.watchers u) := by
  cases h with
  | turn _ _ hturn =>
    cases hturn with
    | upkeep hbefore => exact hbefore.tally hlive hu
    | @relay s v f hbefore _ hf =>
      obtain ⟨frames, heq, htally⟩ := hbefore.tally hlive hu
      have hs : (s.outbox u).connected = true := (hbefore.connected_eq u).trans hu
      refine ⟨frames ++ if u = v then [f] else [], ?_, ?_⟩
      · rw [outbox_push, Outbox.frames_pushAll hs, heq, List.append_assoc]
      · rw [List.foldlM_append, htally]
        split
        · exact congrArg (· >>= pure) (Outbound.tally?_of_relayed hf _)
        · rfl
  | opening _ _ hopening => exact hopening.tally hlive hu
  | abandoned _ => exact ⟨[], by rw [frames_abandon, List.append_nil], rfl⟩

/-- A streamer that is accepted is told no id and has none; any other session keeps its own. -/
private theorem Opening.confirms {c : ConnectionId} {role : Role} (h : Opening r c role r')
    (hnew : r.session? c = none) (hrole : ∀ x, r'.role? u = some x → x = .streamer)
    (hu : (r.outbox u).connected = true) : ∃ frames, (r'.outbox u).frames = (r.outbox u).frames ++ frames ∧
      r'.wiring.streamerId u = (lastConfirmed? frames).or (r.wiring.streamerId u) := by
  obtain ⟨frames, hframes, hbox⟩ := h.outbox
  refine ⟨if u = c then frames else [], by rw [hbox, Outbox.frames_pushAll hu], ?_⟩
  have hnone : lastConfirmed? (if u = c then frames else []) = none := by
    apply lastConfirmed?_eq_none
    intro f hf
    split at hf
    · rcases hframes f hf with hplain | ⟨reason, rfl⟩
      · exact Outbound.confirmed?_of_plain hplain
      · rfl
    · cases hf
  rw [hnone, Option.none_or]
  by_cases hstreamer : u ≠ c ∨ role = .streamer
  · exact h.streamerId hstreamer
  · -- the session would have another role, so it was refused
    obtain ⟨rfl, hother⟩ : u = c ∧ role ≠ .streamer := by simpa using hstreamer
    have hgone : r'.session? u = none := by
      rw [session?_eq_none_iff_role?]
      by_contra hsome
      obtain ⟨x, hx⟩ := Option.ne_none_iff_exists'.1 hsome
      rcases h.roles hx with hlive | ⟨-, rfl⟩
      · rw [session?_eq_none_iff_role?.1 hnew] at hlive
        cases hlive
      · exact hother (hrole x hx)
    rw [(wiring_of_session?_eq_none hgone).1, (wiring_of_session?_eq_none hnew).1]

/-- An operation confirms its id to a streamer that has not gone, if it gets another one. -/
theorem Outcome.confirms (h : Outcome r op r') (hr : r.wiring.Sound)
    (hlive : (r.session? u).isSome → (r'.session? u).isSome)
    (hrole : ∀ x, r'.role? u = some x → x = .streamer) (hu : (r.outbox u).connected = true) :
    ∃ frames, (r'.outbox u).frames = (r.outbox u).frames ++ frames ∧
      r'.wiring.streamerId u = (lastConfirmed? frames).or (r.wiring.streamerId u) := by
  have hchanges : ∀ {mover s}, Changes mover r s → ((r.session? u).isSome → (s.session? u).isSome) →
      ∃ frames, (s.outbox u).frames = (r.outbox u).frames ++ frames ∧
        s.wiring.streamerId u = (lastConfirmed? frames).or (r.wiring.streamerId u) := by
    intro mover s hchanges hlive
    obtain ⟨frames, hbox, hid⟩ := (hchanges.confirms hr).confirmed u
    exact ⟨frames, by rw [hbox, Outbox.frames_pushAll hu], hid hlive⟩
  cases h with
  | turn _ _ hturn =>
    cases hturn with
    | upkeep hbefore => exact hchanges hbefore.changes hlive
    | @relay s v f hbefore _ hf =>
      obtain ⟨frames, heq, hid⟩ := hchanges hbefore.changes hlive
      have hs : (s.outbox u).connected = true := (hbefore.connected_eq u).trans hu
      refine ⟨frames ++ if u = v then [f] else [], ?_, ?_⟩
      · rw [outbox_push, Outbox.frames_pushAll hs, heq, List.append_assoc]
      · have hnone : lastConfirmed? (if u = v then [f] else []) = none := by
          apply lastConfirmed?_eq_none
          intro g hg
          split at hg
          · exact List.mem_singleton.1 hg ▸ Outbound.confirmed?_of_relayed hf
          · cases hg
        rw [lastConfirmed?_append, hnone, Option.none_or]
        exact hid
  | opening _ hnew hopening => exact hopening.confirms hnew hrole hu
  | abandoned _ => exact ⟨[], by rw [frames_abandon, List.append_nil], rfl⟩

/-! ### Whole runs -/

variable {settings : Settings} {ops : List Operation}

/-- The connection `u` is live in the role `x`, or has not been accepted yet. -/
def Awaited (settings : Settings) (ops : List Operation) (u : ConnectionId) (x : Role) : Prop :=
  ((fresh settings).run ops).role? u = some x ∨ u ∉ ops.filterMap Operation.opened?

private theorem awaited_before {x : Role} (hops : ((ops ++ [op]).filterMap Operation.opened?).Nodup)
    (hop : Outcome ((fresh settings).run ops) op ((fresh settings).run (ops ++ [op])))
    (hu : Awaited settings (ops ++ [op]) u x) :
    Awaited settings ops u x ∧
      ((((fresh settings).run ops).session? u).isSome →
        (((fresh settings).run (ops ++ [op])).session? u).isSome) ∧
      ∀ y, ((fresh settings).run (ops ++ [op])).role? u = some y → y = x := by
  rcases hu with hrole | hnew
  · refine ⟨?_, fun _ => isSome_session?_iff_role?.2 ⟨x, hrole⟩,
      fun y hy => Option.some.inj (hy.symm.trans hrole)⟩
    rcases hop.role hrole with hlive | ⟨offerToReceive, rfl⟩
    · exact .inl hlive
    · -- `u` has just been accepted, and is accepted only once
      right
      rw [List.filterMap_append, List.nodup_append] at hops
      exact fun hmem => hops.2.2 u hmem u (by simp [Operation.opened?]) rfl
  · have hallows : (fresh settings).Allows (ops ++ [op]) := allows_fresh hops
    have hold : u ∉ ops.filterMap Operation.opened? := fun hmem =>
      hnew (((List.sublist_append_left ops [op]).filterMap _).subset hmem)
    refine ⟨.inr hold, fun hlive => absurd (mem_opened_of_live (allows_append.1 hallows).1 hlive) hold,
      fun y hy => ?_⟩
    exact absurd (mem_opened_of_live hallows (isSome_session?_iff_role?.2 ⟨y, hy⟩)) hnew

/-- After a run the queue of a source tells who watches it, and that of a streamer under which id it
is registered. -/
theorem told_run {x : Role} (hops : (ops.filterMap Operation.opened?).Nodup) (hu : Awaited settings ops u x)
    (hconnected : (((fresh settings).run ops).outbox u).connected = true) :
    (((fresh settings).run ops).outbox u).frames.foldlM Outbound.tally? [] =
      some (((fresh settings).run ops).watchers u) ∧
    (x = .streamer → lastConfirmed? (((fresh settings).run ops).outbox u).frames =
      ((fresh settings).run ops).wiring.streamerId u) := by
  -- a queue grows at its end, so the run is taken apart from there
  induction ops using List.reverseRecOn with
  | nil => exact ⟨rfl, fun _ => rfl⟩
  | append_singleton ops op ih =>
    have hallows : (fresh settings).Allows (ops ++ [op]) := allows_fresh hops
    obtain ⟨hbefore, hproper, -⟩ := allows_append.1 hallows
    have hr := sound_run (sound_fresh settings) hbefore
    have hop : Outcome ((fresh settings).run ops) op ((fresh settings).run (ops ++ [op])) := by
      rw [run_append]
      exact outcome_apply hr hproper
    obtain ⟨hawaited, hlive, hrole⟩ := awaited_before hops hop hu
    have hstill := hop.connected_of_connected hconnected
    obtain ⟨htally, hid⟩ :=
      ih (hops.sublist ((List.sublist_append_left ops [op]).filterMap _)) hawaited hstill
    constructor
    · obtain ⟨frames, heq, hframes⟩ := hop.tally hlive hstill
      rw [heq, List.foldlM_append, htally]
      exact hframes
    · rintro rfl
      obtain ⟨frames, heq, hframes⟩ := hop.confirms hr hlive hrole hstill
      rw [heq, lastConfirmed?_append, hid rfl, hframes]

/-- Whoever is on a list has a player id. -/
private theorem map_some_watchers {r : Relay} (h : r.wiring.Linked) {source : Source}
    (hu : r.source? u = some source) :
    (r.watchers u).map some = source.subscribers.map r.playerIdOf? := by
  have hids : ∀ p ∈ source.subscribers, (r.playerIdOf? p).isSome := by
    intro p hp
    obtain ⟨id, hid, -⟩ := h.mem_subscribers.1 (subscribers_eq hu ▸ hp)
    obtain ⟨viewer, hv, -⟩ := exists_viewer_of_subscription hid
    simp [playerIdOf?, hv]
  rw [watchers, subscribers_eq hu]
  generalize source.subscribers = subscribers at hids
  induction subscribers with
  | nil => rfl
  | cons p subscribers ih =>
    obtain ⟨id, hid⟩ := Option.isSome_iff_exists.1 (hids p List.mem_cons_self)
    rw [List.filterMap_cons_some (show r.wiring.playerId p = some id from hid), List.map_cons,
      List.map_cons, hid, ih fun q hq => hids q (List.mem_cons_of_mem p hq)]

/-- What a live source `u` has been told is how things stand, as long as somebody takes its frames; when
nobody does any more, nothing is queued any more.  Those of whom it was told that they have come, less
those of whom it was told that they have left, are its subscribers in their order; nobody came twice, and
nobody left who had not come.  The id that a streamer was told last is the one under which it is
registered, and it has been told one if and only if it is. -/
theorem reports_agree (settings : Settings) (ops : List Operation)
    (hops : (ops.filterMap Operation.opened?).Nodup) {u : ConnectionId} {source : Source}
    (hu : ((fresh settings).run ops).source? u = some source) :
    let r := (fresh settings).run ops
    let frames := (r.outbox u).frames
    (Operation.abandon u ∉ ops → (r.outbox u).connected = true) ∧
    (∀ before after, ops = before ++ .abandon u :: after →
      frames = (((fresh settings).run before).outbox u).frames) ∧
    ((r.outbox u).connected = true →
      (∃ present, frames.foldlM Outbound.tally? [] = some present ∧
        present.map some = source.subscribers.map r.playerIdOf?) ∧
      (r.role? u = some .streamer →
        (frames.filterMap Outbound.confirmed?).getLast? = source.streamerId ∧
        ∀ id, (frames.filterMap Outbound.confirmed?).getLast? = some id ↔
          ∃ e ∈ r.streamers.entries, e.id = id ∧ e.connection = u)) := by
  intro r frames
  have hallows : (fresh settings).Allows ops := allows_fresh hops
  have hr : r.wiring.Sound := sound_run (sound_fresh settings) hallows
  refine ⟨fun hstay => ?_, fun before after hsplit => ?_, fun hconnected => ⟨?_, fun hrole => ?_⟩⟩
  · rw [connected_run (sound_fresh settings) hallows hstay]
    rfl
  · obtain ⟨hbefore, -, hafter⟩ := allows_append.1 (hsplit ▸ hallows)
    have hs : (((fresh settings).run before).abandon u).wiring.Sound :=
      sound_run (sound_fresh settings) hbefore
    have hgone : ((((fresh settings).run before).abandon u).outbox u).connected = false := by
      rw [outbox_abandon, if_pos rfl]
      rfl
    have hrun : r = (((fresh settings).run before).abandon u).run after := by
      rw [show r = (fresh settings).run (before ++ .abandon u :: after) from hsplit ▸ rfl, run_append]
      rfl
    rw [show frames = (r.outbox u).frames from rfl, hrun, outbox_run_of_disconnected hs hafter hgone,
      frames_abandon]
  · obtain ⟨x, hx⟩ := isSome_session?_iff_role?.1 (isSome_session?_of_source? (by rw [hu]; rfl))
    exact ⟨r.watchers u, (told_run hops (.inl hx) hconnected).1, map_some_watchers hr.toLinked hu⟩
  · have hid : lastConfirmed? frames = r.wiring.streamerId u := (told_run hops (.inl hrole) hconnected).2 rfl
    rw [streamerId_eq hu] at hid
    refine ⟨hid, fun id => ?_⟩
    rw [show (frames.filterMap Outbound.confirmed?).getLast? = source.streamerId from hid,
      exists_streamer_iff hr.toLinked, hu]
    simp

/-- A camera with two players, one of which comes twice and leaves; in between the camera changes its id. -/
theorem reports_agree_after_return :
    let ops : List Operation :=
      [.accept ⟨1⟩ .streamer true, .message ⟨1⟩ (.endpointId "camera"), .accept ⟨2⟩ .player true,
        .accept ⟨3⟩ .player true, .message ⟨2⟩ (.subscribe "camera"), .message ⟨3⟩ (.subscribe "camera"),
        .message ⟨2⟩ (.subscribe "camera"), .message ⟨1⟩ (.endpointId "studio"), .message ⟨2⟩ .unsubscribe]
    let r := (fresh Settings.standard).run ops
    let source : Source := ⟨some "studio", [⟨3⟩], none, true⟩
    (ops.filterMap Operation.opened?).Nodup ∧ r.source? ⟨1⟩ = some source ∧
      (∃ present, (r.outbox ⟨1⟩).frames.foldlM Outbound.tally? [] = some present ∧
        present.map some = source.subscribers.map r.playerIdOf?) ∧
      ((r.outbox ⟨1⟩).frames.filterMap Outbound.confirmed?).getLast? = some "studio" := by
  intro ops r source
  have hops : (ops.filterMap Operation.opened?).Nodup := by decide
  have hu : r.source? ⟨1⟩ = some source := by decide +kernel
  obtain ⟨hconnected, -, hagree⟩ := reports_agree Settings.standard ops hops hu
  obtain ⟨hlist, hid⟩ := hagree (hconnected (by decide))
  exact ⟨hops, hu, hlist, (hid (by decide +kernel)).1⟩

end

end Relay

end SignalRelay
