import SignalRelay.Proofs.Relay.Agreement
import SignalRelay.Proofs.Relay.Dispatches

/-!
# Terminating one connection after the other

A shutdown terminates connections in some order.  Each teardown may take others with it that come later in
the order, and these are left alone when it is their turn.  So what becomes of a connection does not
depend on the order, except for the reason it is told (`outbox_terminateAll_of_live`).

* `TornDown.downstream_iff`: for those who stay, a teardown leaves alone who goes with whom.
* `sheds_terminateAll`: every id that leaves a directory is published once.
-/

namespace SignalRelay

/-- Ids have left a directory, and the departure of each has been published once. -/
def Sheds (ids : List String) (published : List DirectoryEvent) (ids' : List String)
    (published' : List DirectoryEvent) : Prop :=
  ∃ lost : List String, lost.Nodup ∧ lost ⊆ ids ∧ ids' = ids.filter (· ∉ lost) ∧
    published' = published ++ lost.map .removed

section
variable {ids ids' ids'' : List String} {published published' published'' : List DirectoryEvent}

theorem Sheds.refl (ids : List String) (published : List DirectoryEvent) :
    Sheds ids published ids published :=
  ⟨[], List.nodup_nil, List.nil_subset _, by simp, by simp⟩

theorem Sheds.trans (h : Sheds ids published ids' published') (h' : Sheds ids' published' ids'' published'') :
    Sheds ids published ids'' published'' := by
  obtain ⟨lost, hnodup, hsub, rfl, rfl⟩ := h
  obtain ⟨lost', hnodup', hsub', rfl, rfl⟩ := h'
  -- what is lost later was still there
  have hstill : ∀ id ∈ lost', id ∈ ids ∧ id ∉ lost := fun id hid => by simpa using hsub' hid
  refine ⟨lost ++ lost', ?_, ?_, ?_, by simp⟩
  · rw [List.nodup_append]
    refine ⟨hnodup, hnodup', ?_⟩
    rintro id hid _ hid' rfl
    exact (hstill id hid').2 hid
  · intro id hid
    exact (List.mem_append.1 hid).elim (fun hid => hsub hid) fun hid => (hstill id hid).1
  · rw [List.filter_filter]
    apply List.filter_congr
    intro id _
    by_cases hid : id ∈ lost <;> simp [hid]

/-- If no id is left, all of them have been published. -/
theorem Sheds.of_nil (h : Sheds ids published [] published') (hids : ids.Nodup) :
    ∃ lost : List String, lost.Perm ids ∧ published' = published ++ lost.map .removed := by
  obtain ⟨lost, hnodup, hsub, hnil, hpublished⟩ := h
  refine ⟨lost, (List.perm_ext_iff_of_nodup hnodup hids).2 fun id => ⟨fun hid => hsub hid, fun hid => ?_⟩,
    hpublished⟩
  have hlost := List.filter_eq_nil_iff.1 hnil.symm id hid
  simpa using hlost

end

namespace Relay

/-- Terminates connections in the given order. -/
def terminateAll (r : Relay) (reason : String) (order : List ConnectionId) : Relay :=
  order.foldl (fun r c => r.terminate c reason) r

section
variable {r r' : Relay} {c d u x : ConnectionId} {gone : List ConnectionId} {first : List Outbound}

/-! ### Who goes with whom -/

/-- Those who stay watch whom they watched, if that one stays. -/
theorem TornDown.watched?_iff (htorn : TornDown r c gone first r') (h : r.wiring.Sound) :
    r'.watched? d = some u ↔ r.watched? d = some u ∧ d ∉ gone ∧ u ∉ gone := by
  have hwiring := htorn.wiring_eq h
  have hr' : r'.wiring.Sound := hwiring ▸ h.without gone
  rw [watched?_eq_some_iff_mem hr'.toLinked, watched?_eq_some_iff_mem h.toLinked, hwiring]
  simp only [Wiring.without]
  by_cases hu : u ∈ gone <;> simp [hu]

theorem TornDown.isSfu_iff (htorn : TornDown r c gone first r') (h : r.wiring.Sound) :
    r'.isSfu d = true ↔ r.isSfu d = true ∧ d ∉ gone := by
  have hunit : r'.isSfu d = (r.wiring.without gone).unit d := congrArg (fun w => w.unit d) (htorn.wiring_eq h)
  rw [hunit]
  by_cases hd : d ∈ gone <;> simp [Wiring.without, hd, wiring]

/-- For those who stay, who goes with whom is what it was. -/
theorem TornDown.downstream_iff (htorn : TornDown r c gone first r') (h : r.wiring.Sound) (hd : d ∉ gone) :
    r'.Downstream x d ↔ r.Downstream x d := by
  constructor
  · intro hdown
    clear hd
    induction hdown with
    | self => exact .self
    | unit _ hunit hwatch ih =>
      exact .unit ih ((htorn.isSfu_iff h).1 hunit).1 ((htorn.watched?_iff h).1 hwatch).1
  · intro hdown
    induction hdown with
    | self => exact .self
    | @unit u d _ hunit hwatch ih =>
      -- if `u` went, so would `d`
      have hu : u ∉ gone := fun hu => hd ((htorn.mem_gone d).2 (.unit ((htorn.mem_gone u).1 hu) hunit hwatch))
      exact .unit (ih hu) ((htorn.isSfu_iff h).2 ⟨hunit, hd⟩) ((htorn.watched?_iff h).2 ⟨hwatch, hd, hu⟩)

/-- Nobody goes with a connection that is not live. -/
theorem eq_of_downstream (h : r.wiring.Linked) (hx : r.session? x = none) (hdown : r.Downstream x d) :
    d = x := by
  induction hdown with
  | self => rfl
  | @unit u d _ _ hwatch ih =>
    obtain ⟨id, -, hid⟩ := (watched?_eq_some_iff h).1 hwatch
    have hlive := isSome_session?_of_source? (isSome_source?_of_streamerId hid)
    rw [ih, hx] at hlive
    cases hlive

/-! ### One after the other -/

variable {reason : String} {order : List ConnectionId}

theorem sound_terminateAll (h : r.wiring.Sound) (reason : String) (order : List ConnectionId) :
    (r.terminateAll reason order).wiring.Sound := by
  induction order generalizing r with
  | nil => exact h
  | cons x order ih => exact ih ((changes_terminate h x reason).sound h)

theorem delivers_terminateAll (h : r.wiring.Sound) (reason : String) (order : List ConnectionId) :
    Delivers r (r.terminateAll reason order) := by
  induction order generalizing r with
  | nil => exact .refl r
  | cons x order ih =>
    exact (delivers_terminate h x reason).trans (ih ((changes_terminate h x reason).sound h))

/-- Everybody on the list has gone. -/
theorem session?_terminateAll (h : r.wiring.Sound) (hc : c ∈ order) (reason : String) :
    (r.terminateAll reason order).session? c = none := by
  induction order generalizing r with
  | nil => cases hc
  | cons x order ih =>
    have hnext := (changes_terminate h x reason).sound h
    rcases List.mem_cons.1 hc with rfl | hc
    · exact (delivers_terminateAll hnext reason order).live (session?_terminate_self h.toLinked c reason)
    · exact ih hnext hc

/-- A live connection is told who has gone, and then to close, once.  The reason is that of all the
others, unless it is a forwarding unit and goes with a connection that comes before it. -/
theorem outbox_terminateAll_of_live (h : r.wiring.Sound) (hc : (r.session? c).isSome) (reason : String)
    {before : List ConnectionId} (hbefore : c ∉ before) (after : List ConnectionId) :
    ∃ (told : List Signal) (given : String),
      (r.terminateAll reason (before ++ c :: after)).outbox c =
        (r.outbox c).pushAll (delivery told (some given)) ∧
        (given = reason ∧ (∀ x ∈ before, ¬r.Downstream x c) ∨
          given = sourceLost ∧ r.isSfu c = true ∧ ∃ x ∈ before, r.Downstream x c) := by
  induction before generalizing r with
  | nil =>
    obtain ⟨gone, htorn⟩ := exists_tornDown_terminate h.toLinked hc reason
    have hnext := (changes_terminate h c reason).sound h
    refine ⟨[], reason, ?_, .inl ⟨rfl, by simp⟩⟩
    show ((r.terminate c reason).terminateAll reason after).outbox c = _
    rw [(delivers_terminateAll hnext reason after).outbox_of_dead
      (session?_terminate_self h.toLinked c reason), htorn.outbox, notices,
      if_neg (watched?_ne_self h.toLinked c)]
    simp [delivery]
  | cons x before ih =>
    obtain ⟨hcx, hbefore⟩ := List.ne_and_not_mem_of_not_mem_cons hbefore
    have hnext := (changes_terminate h x reason).sound h
    show ∃ told given, ((r.terminate x reason).terminateAll reason (before ++ c :: after)).outbox c = _ ∧ _
    by_cases hx : (r.session? x).isSome
    · obtain ⟨gone, htorn⟩ := exists_tornDown_terminate h.toLinked hx reason
      have hbox := htorn.outbox c
      rw [if_neg hcx, List.nil_append, notices_eq hcx] at hbox
      by_cases hgone : c ∈ gone
      · -- it goes with `x`, and nothing happens to it afterwards
        have hdown := (htorn.mem_gone c).1 hgone
        have hunit : r.isSfu c = true := by
          cases hdown with
          | self => exact absurd rfl hcx
          | unit _ hunit _ => exact hunit
        have hdead : (r.terminate x reason).session? c = none := by rw [htorn.session?, if_pos hgone]
        refine ⟨r.farewells x gone c, sourceLost, ?_, .inr ⟨rfl, hunit, x, List.mem_cons_self, hdown⟩⟩
        rw [(delivers_terminateAll hnext reason _).outbox_of_dead hdead, hbox, if_pos hgone]
      · -- it stays for now, and the same connections are before it
        have hlive : ((r.terminate x reason).session? c).isSome := by
          rw [htorn.session?, if_neg hgone]
          simpa using hc
        obtain ⟨told, given, hrest, hgiven⟩ := ih hnext hlive hbefore
        have hnot : ¬r.Downstream x c := fun hdown => hgone ((htorn.mem_gone c).2 hdown)
        refine ⟨r.farewells x gone c ++ told, given, ?_, ?_⟩
        · rw [hrest, hbox, if_neg hgone, Outbox.pushAll_pushAll]
          simp [delivery]
        · rcases hgiven with ⟨rfl, hnone⟩ | ⟨rfl, hunit, y, hy, hdown⟩
          · refine .inl ⟨rfl, fun y hy hdown => ?_⟩
            rcases List.mem_cons.1 hy with rfl | hy
            · exact hnot hdown
            · exact hnone y hy ((htorn.downstream_iff h hgone).2 hdown)
          · exact .inr ⟨rfl, ((htorn.isSfu_iff h).1 hunit).1, y, List.mem_cons_of_mem x hy,
              (htorn.downstream_iff h hgone).1 hdown⟩
    · have hdead : r.session? x = none := by simpa using hx
      rw [terminate_of_not_live hdead]
      obtain ⟨told, given, hrest, hgiven⟩ := ih h hc hbefore
      refine ⟨told, given, hrest, ?_⟩
      rcases hgiven with ⟨rfl, hnone⟩ | ⟨rfl, hunit, y, hy, hdown⟩
      · refine .inl ⟨rfl, fun y hy hdown => ?_⟩
        rcases List.mem_cons.1 hy with rfl | hy
        · exact hcx (eq_of_downstream h.toLinked hdead hdown)
        · exact hnone y hy hdown
      · exact .inr ⟨rfl, hunit, y, List.mem_cons_of_mem x hy, hdown⟩

/-! ### Directories -/

private theorem TornDown.sheds (htorn : TornDown r c gone first r') (h : r.wiring.Sound) :
    Sheds r.streamers.ids r.streamers.published r'.streamers.ids r'.streamers.published ∧
      Sheds r.players.ids r.players.published r'.players.ids r'.players.published := by
  constructor
  · refine ⟨gone.filterMap r.wiring.streamerId, ?_, fun id hid => ?_, ?_, ?_⟩
    · exact htorn.nodup.filterMap fun u v id hu hv => h.streamerId_inj hu hv
    · obtain ⟨d, -, hd⟩ := List.mem_filterMap.1 hid
      rw [← streamerIds_eq]
      exact List.mem_map_of_mem (h.mem_streamerSlots.2 hd)
    · rw [htorn.streamers, StreamerDirectory.ids_removeAll]
      rfl
    · rw [htorn.streamers]
      rfl
  · obtain ⟨lost, hperm, hplayers⟩ := htorn.players
    refine ⟨lost, hperm.nodup_iff.2 ?_, fun id hid => ?_, ?_, ?_⟩
    · exact htorn.nodup.filterMap fun u v id hu hv => h.playerId_inj hu hv
    · obtain ⟨d, -, hd⟩ := List.mem_filterMap.1 (hperm.mem_iff.1 hid)
      rw [mem_playerIds_iff]
      exact List.mem_map_of_mem (h.mem_playerSlots hd)
    · rw [hplayers, PlayerDirectory.ids_removeAll]
    · rw [hplayers]
      rfl

/-- The ids that leave the directories are published, each once. -/
theorem sheds_terminateAll (h : r.wiring.Sound) (reason : String) (order : List ConnectionId) :
    let r' := r.terminateAll reason order
    Sheds r.streamers.ids r.streamers.published r'.streamers.ids r'.streamers.published ∧
      Sheds r.players.ids r.players.published r'.players.ids r'.players.published := by
  induction order generalizing r with
  | nil => exact ⟨.refl _ _, .refl _ _⟩
  | cons x order ih =>
    obtain ⟨hstreamers, hplayers⟩ := ih ((changes_terminate h x reason).sound h)
    by_cases hx : (r.session? x).isSome
    · obtain ⟨gone, htorn⟩ := exists_tornDown_terminate h.toLinked hx reason
      obtain ⟨hfirst, hfirst'⟩ := htorn.sheds h
      exact ⟨hfirst.trans hstreamers, hfirst'.trans hplayers⟩
    · rw [terminate_of_not_live (by simpa using hx)] at hstreamers hplayers
      have hskip : r.terminateAll reason (x :: order) = r.terminateAll reason order := by
        show (r.terminate x reason).terminateAll reason order = _
        rw [terminate_of_not_live (by simpa using hx)]
      rw [hskip]
      exact ⟨hstreamers, hplayers⟩

/-- Without live connections there are no ids and no entries. -/
theorem entries_eq_nil_of_dead (h : r.wiring.Sound) (hdead : ∀ c, r.session? c = none) :
    r.sessions.entries = [] ∧ r.streamers.entries = [] ∧ r.players.entries = [] := by
  refine ⟨?_, ?_, ?_⟩
  · cases hentries : r.sessions.entries with
    | nil => rfl
    | cons e rest =>
      have hfirst := hdead e.1
      simp [session?, Table.get?, hentries] at hfirst
  · rw [List.eq_nil_iff_forall_not_mem]
    intro entry hentry
    exact (notMem_connections_of_session?_eq_none h (hdead entry.connection)).1 (List.mem_map_of_mem hentry)
  · rw [List.eq_nil_iff_forall_not_mem]
    intro entry hentry
    exact (notMem_connections_of_session?_eq_none h (hdead entry.connection)).2 (List.mem_map_of_mem hentry)

end

end Relay

end SignalRelay
