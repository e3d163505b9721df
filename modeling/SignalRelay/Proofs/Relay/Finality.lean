import SignalRelay.Proofs.Relay.Agreement
import SignalRelay.Proofs.Relay.Dispatches
import SignalRelay.Proofs.Relay.History
import SignalRelay.Server

/-!
# Closes

A close is the last thing that the relay queues for a connection, and it queues one at most, whatever the
connections are subscribed to and however they go.  Only keep-alives are still answered behind it.

* `Dispatch.frames_of_dead`: nothing else is queued for a connection that is not live and gets no session.
* `Final` is what every operation keeps about one connection, if a session is opened only for a connection
  that is `Unused`.
* `final_run` and `unused_run` say so for whole runs.
-/

namespace SignalRelay

namespace Outbound

/-- Whether a frame orders the connection to be closed. -/
def isClose : Outbound → Bool
  | .close _ => true
  | .message _ => false

end Outbound

/-- A shutdown terminates connections one after the other. -/
theorem Server.shutdownIn_eq (r : Relay) (order : List ConnectionId) :
    Server.shutdownIn ⟨r, true⟩ order =
      .ok ⟨r.run (order.map (.terminate · Server.shuttingDown)), false⟩ := by
  simp only [Server.shutdownIn, if_true, Relay.run, List.foldl_map]
  rfl

namespace Relay

/-- Nothing has closed the queue of `c`, or it has one close, behind which there are only answers to
keep-alives, and `c` is not live. -/
inductive Final (c : ConnectionId) (r : Relay) : Prop
  | unclosed (h : ∀ f ∈ (r.outbox c).frames, f.isClose = false)
  | closed (told : List Outbound) (reason : String) (times : List Number)
      (htold : ∀ f ∈ told, f.isClose = false)
      (hframes : (r.outbox c).frames =
        told ++ .close reason :: times.map fun time => .message (.pong time))
      (hdead : r.session? c = none)

/-- The connection `c` is not live and has not been closed. -/
structure Unused (c : ConnectionId) (r : Relay) : Prop where
  dead : r.session? c = none
  unclosed : ∀ f ∈ (r.outbox c).frames, f.isClose = false

section
variable {r r' : Relay} {c : ConnectionId} {op : Operation}

/-! ### One operation -/

theorem unused_fresh (settings : Settings) (c : ConnectionId) : Unused c (fresh settings) :=
  ⟨session?_fresh settings c, fun f hf => by cases hf⟩

theorem Unused.final (h : Unused c r) : Final c r := .unclosed h.unclosed

/-- A connection that is not live and gets no session is queued nothing but answers to keep-alives. -/
theorem Dispatch.frames_of_dead (h : Dispatch r op r') (hdead : r.session? c = none)
    (hop : op.opened? ≠ some c) :
    (r'.outbox c).frames = (r.outbox c).frames ∨
      ∃ content time, op = .frame c content ∧ Signal.ofFrame? content = .ok (.ping time) ∧
        (r'.outbox c).frames = (r.outbox c).frames ++ [.message (.pong time)] := by
  cases h with
  | delivers _ h =>
    obtain ⟨told, ending, hbox, hnone, -⟩ := h.queue c
    obtain ⟨rfl, rfl⟩ := hnone hdead
    left
    rw [hbox]
    rfl
  | @answered d content time hframe hping =>
    rw [outbox_push]
    by_cases hd : c = d
    · subst hd
      rw [if_pos rfl]
      exact (Outbox.frames_pushAll_cases _ _).imp_right fun heq => ⟨content, time, hframe, hping, heq⟩
    · left
      rw [if_neg hd]
      rfl
  | @refused d _ _ haccept =>
    left
    have hd : c ≠ d := by
      rintro rfl
      exact hop (haccept ▸ rfl)
    rw [outbox_push, if_neg hd]
    rfl
  | @opened d _ _ _ haccept h =>
    left
    have hd : c ≠ d := by
      rintro rfl
      exact hop (haccept ▸ rfl)
    rw [h.outbox, if_neg hd]
    rfl
  | abandoned _ =>
    left
    exact frames_abandon r _ c

/-- A connection gets a session only if one is opened for it. -/
theorem Dispatch.live (h : Dispatch r op r') (hdead : r.session? c = none) (hop : op.opened? ≠ some c) :
    r'.session? c = none := by
  cases h with
  | delivers _ h => exact h.live hdead
  | answered => exact hdead
  | refused => exact hdead
  | @opened d _ _ _ haccept h =>
    have hd : c ≠ d := by
      rintro rfl
      exact hop (haccept ▸ rfl)
    rw [h.others c hd, hdead]
  | abandoned => exact hdead

theorem Unused.dispatch (h : Unused c r) (hop : Dispatch r op r') (hne : op.opened? ≠ some c) :
    Unused c r' := by
  refine ⟨hop.live h.dead hne, ?_⟩
  rcases hop.frames_of_dead h.dead hne with heq | ⟨_, time, -, -, heq⟩
  · rw [heq]
    exact h.unclosed
  · intro f hf
    rw [heq] at hf
    rcases List.mem_append.1 hf with hf | hf
    · exact h.unclosed f hf
    · rw [List.mem_singleton.1 hf]
      rfl

theorem Unused.delivers (h : Unused c r) (hd : Delivers r r') : Unused c r' :=
  ⟨hd.live h.dead, by rw [hd.outbox_of_dead h.dead]; exact h.unclosed⟩

private theorem final_of_delivers (h : Delivers r r') (hc : ∀ f ∈ (r.outbox c).frames, f.isClose = false) :
    Final c r' := by
  obtain ⟨told, ending, hbox, -, hending⟩ := h.queue c
  rcases Outbox.frames_pushAll_cases (r.outbox c) (delivery told ending) with heq | heq
  · rw [← hbox] at heq
    exact .unclosed (heq ▸ hc)
  · rw [← hbox] at heq
    have htold : ∀ f ∈ (r.outbox c).frames ++ told.map Outbound.message, f.isClose = false := by
      intro f hf
      rcases List.mem_append.1 hf with hf | hf
      · exact hc f hf
      · obtain ⟨m, -, rfl⟩ := List.mem_map.1 hf
        rfl
    cases ending with
    | none =>
      refine .unclosed fun f hf => htold f ?_
      rw [heq] at hf
      simpa [delivery] using hf
    | some reason =>
      refine .closed _ reason [] htold ?_ (hending rfl)
      rw [heq]
      simp [delivery]

private theorem unclosed_pushAll {box : Outbox} {frames : List Outbound}
    (hbox : ∀ f ∈ box.frames, f.isClose = false) (hframes : ∀ f ∈ frames, f.isClose = false) :
    ∀ f ∈ (box.pushAll frames).frames, f.isClose = false := by
  intro f hf
  exact (Outbox.mem_frames_pushAll hf).elim (hbox f) (hframes f)

theorem Final.delivers (h : Final c r) (hd : Delivers r r') : Final c r' := by
  cases h with
  | unclosed hc => exact final_of_delivers hd hc
  | closed told reason times htold hframes hdead =>
    refine .closed told reason times htold ?_ (hd.live hdead)
    rw [hd.outbox_of_dead hdead, hframes]

/-- An operation keeps it, if a session is opened only for a connection that was not live and has
not been closed. -/
theorem Final.dispatch (h : Final c r) (hop : Dispatch r op r') (hnew : op.opened? = some c → Unused c r) :
    Final c r' := by
  cases h with
  | closed told reason times htold hframes hdead =>
    have hne : op.opened? ≠ some c := by
      intro hopened
      have hclose := (hnew hopened).unclosed (.close reason) (by simp [hframes])
      cases hclose
    rcases hop.frames_of_dead hdead hne with heq | ⟨_, time, -, -, heq⟩
    · exact .closed told reason times htold (heq.trans hframes) (hop.live hdead hne)
    · refine .closed told reason (times ++ [time]) htold ?_ (hop.live hdead hne)
      rw [heq, hframes]
      simp
  | unclosed hc =>
    cases hop with
    | delivers _ hdelivers => exact final_of_delivers hdelivers hc
    | @answered d _ time =>
      refine .unclosed ?_
      rw [outbox_push]
      refine unclosed_pushAll hc fun f hf => ?_
      rw [(mem_only (c := d) hf).2]
      rfl
    | @refused d role offerToReceive haccept =>
      rw [haccept] at hnew
      by_cases hd : c = d
      · -- this is the one way to be closed without having been live
        subst hd
        have hdead := (hnew rfl).dead
        rcases Outbox.frames_pushAll_cases (r.outbox c) [.close sfuRefused] with heq | heq
        · refine .unclosed ?_
          rw [outbox_push, if_pos rfl, heq]
          exact hc
        · exact .closed _ sfuRefused [] hc (by rw [outbox_push, if_pos rfl, heq]; rfl) hdead
      · refine .unclosed ?_
        rw [outbox_push, if_neg hd]
        exact hc
    | @opened d role _ _ _ hopened =>
      refine .unclosed ?_
      rw [hopened.outbox]
      refine unclosed_pushAll hc fun f hf => ?_
      split at hf
      · obtain ⟨m, -, rfl⟩ := List.mem_map.1 hf
        rfl
      · cases hf
    | abandoned _ =>
      refine .unclosed ?_
      rw [frames_abandon]
      exact hc

end

/-! ### Whole runs -/

section
variable {settings : Settings} {ops : List Operation} {c : ConnectionId}

/-- A connection that was never accepted is not live and has not been closed. -/
theorem unused_run (hops : (fresh settings).Allows ops) (hnew : c ∉ ops.filterMap Operation.opened?) :
    Unused c ((fresh settings).run ops) :=
  have hstep : ∀ {s op}, (s, op) ∈ (fresh settings).steps ops → s.wiring.Sound → Unused c s →
      Unused c (s.apply op) :=
    fun {_ op} hmem hsound hs => hs.dispatch (dispatch_apply hsound op) fun hopened =>
      hnew (List.mem_filterMap.2 ⟨op, mem_of_mem_steps hmem, hopened⟩)
  run_induction (fun hmem hsound hs _ => hstep hmem hsound hs) (sound_fresh settings) hops
  (unused_fresh settings c)

/-- Before a connection is accepted for the only time, it has not been accepted. -/
private theorem notMem_opened_before (hops : (ops.filterMap Operation.opened?).Nodup)
    {before after : List Operation} {op : Operation} (heq : ops = before ++ op :: after)
    (hop : op.opened? = some c) :
    c ∉ before.filterMap Operation.opened? := by
  rw [heq, List.filterMap_append, List.filterMap_cons_some hop, List.nodup_append] at hops
  intro hmem
  exact hops.2.2 c hmem c List.mem_cons_self rfl

theorem final_run (settings : Settings) (hops : (ops.filterMap Operation.opened?).Nodup) (c : ConnectionId) :
    Final c ((fresh settings).run ops) := by
  have hallows : (fresh settings).Allows ops := allows_fresh hops
  have hfirst : Final c (fresh settings) := (unused_fresh settings c).final
  refine run_induction (fun {s op} hmem hsound hs _ => ?_) (sound_fresh settings) hallows hfirst
  refine hs.dispatch (dispatch_apply hsound op) fun hopened => ?_
  obtain ⟨before, after, heq, hrun⟩ := mem_steps hmem
  have hbefore : (fresh settings).Allows before := (allows_append.1 (heq ▸ hallows)).1
  have hrun : s = (fresh settings).run before := hrun
  rw [hrun]
  exact unused_run hbefore (notMem_opened_before hops heq hopened)

/-- Whoever has been queued a close is not live. -/
private theorem session?_eq_none_of_closed (hops : (ops.filterMap Operation.opened?).Nodup)
    (hclosed : ∃ f ∈ (((fresh settings).run ops).outbox c).frames, f.isClose = true) :
    ((fresh settings).run ops).session? c = none := by
  obtain ⟨f, hf, hclose⟩ := hclosed
  cases final_run settings hops c with
  | unclosed h =>
    rw [h f hf] at hclose
    cases hclose
  | closed _ _ _ _ _ hdead => exact hdead

/-- Each connection is queued one close at most, and behind it nothing but answers to keep-alives.  Once
it has been queued a close, it has no session, is in no directory and on no list of subscribers, and an
operation queues nothing for it unless that is the answer to a keep-alive of its own.  All this is so
whatever the operations are: claims that are refused, viewers that are thrown out, sources that go, and a
shutdown, which is a run as well. -/
theorem close_is_final (settings : Settings) (ops : List Operation)
    (hops : (ops.filterMap Operation.opened?).Nodup) :
    (∀ c, let frames := (((fresh settings).run ops).outbox c).frames
      (∀ f ∈ frames, f.isClose = false) ∨
        ∃ (told : List Outbound) (reason : String) (times : List Number), (∀ f ∈ told, f.isClose = false) ∧
          frames = told ++ .close reason :: times.map fun time => .message (.pong time)) ∧
    (∀ s op, (s, op) ∈ (fresh settings).steps ops → ∀ c,
      ((∃ f ∈ (s.outbox c).frames, f.isClose = true) →
        ((s.apply op).outbox c).frames = (s.outbox c).frames ∨
          ∃ content time, op = .frame c content ∧ Signal.ofFrame? content = .ok (.ping time) ∧
            ((s.apply op).outbox c).frames = (s.outbox c).frames ++ [.message (.pong time)]) ∧
      ((∃ f ∈ ((s.apply op).outbox c).frames, f.isClose = true) →
        (s.apply op).session? c = none ∧ c ∉ (s.apply op).streamers.entries.map (·.connection) ∧
          c ∉ (s.apply op).players.entries.map (·.connection) ∧
          ∀ u source, (s.apply op).source? u = some source → c ∉ source.subscribers)) ∧
    ∀ order, Server.shutdownIn ⟨(fresh settings).run ops, true⟩ order =
      .ok ⟨(fresh settings).run (ops ++ order.map (.terminate · Server.shuttingDown)), false⟩ := by
  refine ⟨fun c => ?_, fun s op hmem c => ?_, fun order => ?_⟩
  · cases final_run settings hops c with
    | unclosed h => exact .inl h
    | closed told reason times htold hframes _ => exact .inr ⟨told, reason, times, htold, hframes⟩
  · obtain ⟨before, after, heq, hs⟩ := mem_steps hmem
    have heq : ops = (before ++ [op]) ++ after := by simpa using heq
    have hrun : s = (fresh settings).run before := hs
    have hnext : s.apply op = (fresh settings).run (before ++ [op]) := by
      rw [run_append, ← hrun]
      rfl
    -- what is known of whole runs is known of the run up to here, before and after the operation
    have hafter : ((before ++ [op]).filterMap Operation.opened?).Nodup := by
      rw [heq, List.filterMap_append] at hops
      exact (List.nodup_append.1 hops).1
    have hbefore : (before.filterMap Operation.opened?).Nodup := by
      rw [List.filterMap_append] at hafter
      exact (List.nodup_append.1 hafter).1
    constructor
    · intro hclosed
      have hdead : s.session? c = none := hrun ▸ session?_eq_none_of_closed hbefore (hrun ▸ hclosed)
      have hsound : s.wiring.Sound := hrun ▸ sound_run (sound_fresh settings) (allows_fresh hbefore)
      refine (dispatch_apply hsound op).frames_of_dead hdead fun hopened => ?_
      have hnew := notMem_opened_before hafter rfl hopened
      obtain ⟨f, hf, hclose⟩ := hclosed
      rw [(unused_run (allows_fresh hbefore) hnew).unclosed f (hrun ▸ hf)] at hclose
      cases hclose
    · intro hclosed
      rw [hnext] at hclosed ⊢
      have hallows : (fresh settings).Allows (before ++ [op]) := allows_fresh hafter
      have hsound := sound_run (sound_fresh settings) hallows
      have hdead := session?_eq_none_of_closed hafter hclosed
      obtain ⟨hstreamers, hplayers⟩ := notMem_connections_of_session?_eq_none hsound hdead
      refine ⟨hdead, hstreamers, hplayers, fun u source hu hmem => ?_⟩
      have hsub := (wiring_of_session?_eq_none hdead).2.2.2.2.2
      exact hsound.toLinked.notMem_subscribers_of_subscription hsub u (subscribers_eq hu ▸ hmem)
  · rw [Server.shutdownIn_eq, run_append]

/-- A forwarding unit is thrown out by its source, sends a keep-alive, and then the source goes. -/
theorem close_is_final_after_kick :
    let ops : List Operation :=
      [.accept ⟨1⟩ .streamer true, .message ⟨1⟩ (.endpointId "camera"), .accept ⟨2⟩ .sfu true,
        .message ⟨2⟩ (.subscribe "camera"), .message ⟨1⟩ (.disconnectPlayer "Player0" none),
        .frame ⟨2⟩ (.text "\x7b\"type\":\"ping\",\"time\":1\x7d"), .close ⟨1⟩]
    let frames := (((fresh Settings.standard).run ops).outbox ⟨2⟩).frames
    (ops.filterMap Operation.opened?).Nodup ∧ (∃ f ∈ frames, f.isClose = true) ∧
      ∃ (told : List Outbound) (reason : String) (times : List Number), (∀ f ∈ told, f.isClose = false) ∧
        frames = told ++ .close reason :: times.map fun time => .message (.pong time) := by
  intro ops frames
  have hops : (ops.filterMap Operation.opened?).Nodup := by decide
  have hclosed : ∃ f ∈ frames, f.isClose = true := by decide +kernel
  refine ⟨hops, hclosed, ((close_is_final Settings.standard ops hops).1 ⟨2⟩).resolve_left fun hnone => ?_⟩
  obtain ⟨f, hf, hclose⟩ := hclosed
  rw [hnone f hf] at hclose
  cases hclose

end

end Relay

end SignalRelay
