import Mathlib.Data.List.Nodup
import SignalRelay.Proofs.Directory.Slots

/-!
# Who is registered, and who watches whom

A `Wiring` is what a relay knows about ids and subscriptions, without frames, timers and flags.  The same
facts are kept in several places: an id stands in a directory and in a session, a subscription on the
viewer's and on the source's side.

* `Wiring.Sound` says that the places agree.
* `Wiring.Linked` is the part of it that holds even while connections are being torn down.
* `release`, `attach`, `inscribe`, `commission`, `enlist`, `rename`, `setWaiting` and `without` are the
  changes that a wiring goes through, and each of them keeps it sound.  `erase` and `strike` are the
  halves of a teardown and keep it linked.
-/

namespace SignalRelay

/-- Ids and subscriptions.  A connection without a session has none of either. -/
structure Wiring where
  /-- The id that a source holds. -/
  streamerId : ConnectionId → Option String
  /-- Who watches a source. -/
  subscribers : ConnectionId → List ConnectionId
  /-- Whether a source still has time to claim an id. -/
  waiting : ConnectionId → Bool
  /-- Whether a session is a forwarding unit. -/
  unit : ConnectionId → Bool
  /-- The id that a viewer holds. -/
  playerId : ConnectionId → Option String
  /-- The id of the source that a viewer watches. -/
  subscription : ConnectionId → Option String
  streamerSlots : List (String × ConnectionId)
  playerSlots : List (String × ConnectionId)
  /-- The number of the next player id. -/
  nextNumber : Nat

namespace Wiring

/-- The places agree, except that viewers may be left that watch a source which is gone, and player ids whose
viewer is gone. -/
structure Linked (w : Wiring) : Prop where
  streamerIds_nodup : (w.streamerSlots.map Prod.fst).Nodup
  mem_streamerSlots : ∀ {id c}, (id, c) ∈ w.streamerSlots ↔ w.streamerId c = some id
  playerIds_nodup : (w.playerSlots.map Prod.fst).Nodup
  playerConnections_nodup : (w.playerSlots.map Prod.snd).Nodup
  mem_playerSlots : ∀ {id c}, w.playerId c = some id → (id, c) ∈ w.playerSlots
  mem_subscribers : ∀ {p u}, p ∈ w.subscribers u ↔ ∃ id, w.subscription p = some id ∧ w.streamerId u = some id
  subscribers_nodup : ∀ u, (w.subscribers u).Nodup
  notMem_subscribers : ∀ u, u ∉ w.subscribers u

/-- The places agree. -/
structure Sound (w : Wiring) : Prop extends Linked w where
  playerId_of_mem : ∀ {id c}, (id, c) ∈ w.playerSlots → w.playerId c = some id
  /-- Every id that is watched is held by somebody. -/
  resolves : ∀ {p id}, w.subscription p = some id → ∃ u, w.streamerId u = some id
  /-- Every player id was given out. -/
  numbered : ∀ {id c}, (id, c) ∈ w.playerSlots → ∃ n < w.nextNumber, id = PlayerDirectory.idOf n
  streamerId_of_waiting : ∀ {c}, w.waiting c = true → w.streamerId c = none
  /-- A forwarding unit holds an id as long as it lives. -/
  streamerId_of_unit : ∀ {c}, w.unit c = true → w.streamerId c ≠ none

/-! ### The changes -/

/-- A viewer stops watching. -/
def release (w : Wiring) (p : ConnectionId) : Wiring :=
  { w with
    subscription := fun d => if d = p then none else w.subscription d
    subscribers := fun u => (w.subscribers u).filter (· ≠ p) }

/-- A viewer starts to watch the source `u`, which holds the id `id`. -/
def attach (w : Wiring) (p u : ConnectionId) (id : String) : Wiring :=
  { w with
    subscription := fun d => if d = p then some id else w.subscription d
    subscribers := fun d => if d = u then w.subscribers d ++ [p] else w.subscribers d }

/-- A source is registered under an id. -/
def inscribe (w : Wiring) (c : ConnectionId) (id : String) : Wiring :=
  { w with
    streamerId := fun d => if d = c then some id else w.streamerId d
    streamerSlots := w.streamerSlots ++ [(id, c)] }

/-- A viewer is registered under the next id. -/
def enlist (w : Wiring) (c : ConnectionId) : Wiring :=
  { w with
    playerId := fun d => if d = c then some (PlayerDirectory.idOf w.nextNumber) else w.playerId d
    playerSlots := (PlayerDirectory.idOf w.nextNumber, c) :: w.playerSlots
    nextNumber := w.nextNumber + 1 }

/-- A source gets another id, and all who watch it follow. -/
def rename (w : Wiring) (c : ConnectionId) (new : String) : Wiring :=
  { w with
    streamerId := fun d => if d = c then some new else w.streamerId d
    streamerSlots := w.streamerSlots.map fun s => if s.2 = c then (new, c) else s
    subscription := fun p => if p ∈ w.subscribers c then some new else w.subscription p }

/-- A source gets or loses the time to claim an id. -/
def setWaiting (w : Wiring) (c : ConnectionId) (waiting : Bool) : Wiring :=
  { w with waiting := fun d => if d = c then waiting else w.waiting d }

/-- A session is taken out together with its streamer id, while its player id is still listed. -/
def erase (w : Wiring) (c : ConnectionId) : Wiring :=
  { w with
    streamerId := fun d => if d = c then none else w.streamerId d
    subscribers := fun d => if d = c then [] else w.subscribers d
    waiting := fun d => if d = c then false else w.waiting d
    unit := fun d => if d = c then false else w.unit d
    playerId := fun d => if d = c then none else w.playerId d
    subscription := fun d => if d = c then none else w.subscription d
    streamerSlots := w.streamerSlots.filter (·.2 ≠ c) }

/-- A player id is taken out of the list. -/
def strike (w : Wiring) (id : String) : Wiring := { w with playerSlots := w.playerSlots.filter (·.1 ≠ id) }

/-- A session is a forwarding unit from the start. -/
def commission (w : Wiring) (c : ConnectionId) : Wiring :=
  { w with unit := fun d => if d = c then true else w.unit d }

/-- The connections `gone` lose everything, and nobody watches them any more. -/
def without (w : Wiring) (gone : List ConnectionId) : Wiring where
  streamerId c := if c ∈ gone then none else w.streamerId c
  subscribers u := if u ∈ gone then [] else (w.subscribers u).filter (· ∉ gone)
  waiting c := if c ∈ gone then false else w.waiting c
  unit c := if c ∈ gone then false else w.unit c
  playerId c := if c ∈ gone then none else w.playerId c
  subscription p :=
    if p ∈ gone then none else (w.subscription p).filter fun id => gone.all fun u => w.streamerId u ≠ some id
  streamerSlots := w.streamerSlots.filter (·.2 ∉ gone)
  playerSlots := w.playerSlots.filter (·.2 ∉ gone)
  nextNumber := w.nextNumber

/-! ### What agreement gives -/

section
variable {w : Wiring}

/-- A streamer id is held by one connection only. -/
theorem Linked.streamerId_inj (h : w.Linked) {c d : ConnectionId} {id : String}
    (hc : w.streamerId c = some id) (hd : w.streamerId d = some id) : c = d := by
  have hslots :=
    List.inj_on_of_nodup_map h.streamerIds_nodup (h.mem_streamerSlots.2 hc) (h.mem_streamerSlots.2 hd) rfl
  exact congrArg Prod.snd hslots

/-- A player id is held by one connection only. -/
theorem Linked.playerId_inj (h : w.Linked) {c d : ConnectionId} {id : String} (hc : w.playerId c = some id)
    (hd : w.playerId d = some id) : c = d := by
  have hslots := List.inj_on_of_nodup_map h.playerIds_nodup (h.mem_playerSlots hc) (h.mem_playerSlots hd) rfl
  exact congrArg Prod.snd hslots

/-- Nobody owns two streamer slots. -/
theorem Linked.streamerConnections_nodup (h : w.Linked) : (w.streamerSlots.map Prod.snd).Nodup := by
  have hnd : w.streamerSlots.Nodup := h.streamerIds_nodup.of_map Prod.fst
  apply List.Nodup.map_on _ hnd
  rintro ⟨id, c⟩ hc ⟨id', d⟩ hd hcd
  obtain rfl : c = d := hcd
  have hid := (h.mem_streamerSlots.1 hc).symm.trans (h.mem_streamerSlots.1 hd)
  rw [Option.some.inj hid]

theorem Linked.notMem_subscribers_of_subscription (h : w.Linked) {p : ConnectionId}
    (hp : w.subscription p = none) (u : ConnectionId) : p ∉ w.subscribers u := by
  intro hmem
  obtain ⟨id, hid, -⟩ := h.mem_subscribers.1 hmem
  rw [hp] at hid
  cases hid

/-- Who watches nobody is on no list, and the other way round. -/
theorem Sound.subscription_eq_none_iff (h : w.Sound) {p : ConnectionId} :
    w.subscription p = none ↔ ∀ u, p ∉ w.subscribers u := by
  constructor
  · exact h.notMem_subscribers_of_subscription
  · intro hlists
    by_contra hsub
    obtain ⟨id, hid⟩ := Option.ne_none_iff_exists'.1 hsub
    obtain ⟨u, hu⟩ := h.resolves hid
    exact hlists u (h.mem_subscribers.2 ⟨id, hid, hu⟩)

theorem Linked.subscribers_eq_nil (h : w.Linked) {u : ConnectionId} (hu : w.streamerId u = none) :
    w.subscribers u = [] := by
  rw [List.eq_nil_iff_forall_not_mem]
  intro p hmem
  obtain ⟨id, -, hid⟩ := h.mem_subscribers.1 hmem
  rw [hu] at hid
  cases hid

/-- A viewer that is on no list only has its own side to change. -/
theorem release_eq_of_notMem {p : ConnectionId} (hp : ∀ u, p ∉ w.subscribers u) :
    w.release p = { w with subscription := fun d => if d = p then none else w.subscription d } := by
  have hlists : (fun u => (w.subscribers u).filter (· ≠ p)) = w.subscribers := by
    funext u
    rw [List.filter_eq_self]
    intro d hd
    have : d ≠ p := fun hdp => hp u (hdp ▸ hd)
    simpa using this
  simp only [release, hlists]

/-- Nothing is left to do for a viewer that watches nobody. -/
theorem Linked.release_eq_self (h : w.Linked) {p : ConnectionId} (hp : w.subscription p = none) :
    w.release p = w := by
  have hsub : (fun d => if d = p then none else w.subscription d) = w.subscription := by
    funext d
    split
    · rename_i hd
      rw [hd, hp]
    · rfl
  rw [release_eq_of_notMem (h.notMem_subscribers_of_subscription hp), hsub]

/-! ### Agreement is kept -/

/-- A wiring of nobody. -/
theorem Sound.empty :
    Sound ⟨fun _ => none, fun _ => [], fun _ => false, fun _ => false, fun _ => none, fun _ => none, [],
      [], 0⟩ := by
  constructor
  · constructor <;> simp
  all_goals simp

theorem Linked.release (h : w.Linked) (p : ConnectionId) : (w.release p).Linked where
  streamerIds_nodup := h.streamerIds_nodup
  mem_streamerSlots := h.mem_streamerSlots
  playerIds_nodup := h.playerIds_nodup
  playerConnections_nodup := h.playerConnections_nodup
  mem_playerSlots := h.mem_playerSlots
  mem_subscribers := by
    intro q u
    by_cases hq : q = p
    · simp [Wiring.release, hq]
    · simp [Wiring.release, hq, h.mem_subscribers]
  subscribers_nodup u := (h.subscribers_nodup u).filter _
  notMem_subscribers u hu := h.notMem_subscribers u (List.mem_of_mem_filter hu)

theorem Sound.release (h : w.Sound) (p : ConnectionId) : (w.release p).Sound where
  toLinked := h.toLinked.release p
  playerId_of_mem := h.playerId_of_mem
  resolves := by
    intro q id hq
    by_cases hqp : q = p
    · simp [Wiring.release, hqp] at hq
    · exact h.resolves (by simpa [Wiring.release, hqp] using hq)
  numbered := h.numbered
  streamerId_of_waiting := h.streamerId_of_waiting
  streamerId_of_unit := h.streamerId_of_unit

/-- A session can be taken out that nobody has on its list. -/
theorem Linked.erase (h : w.Linked) {c : ConnectionId} (hc : ∀ u, c ∉ w.subscribers u) :
    (w.erase c).Linked where
  streamerIds_nodup := h.streamerIds_nodup.sublist (List.filter_sublist.map Prod.fst)
  mem_streamerSlots := by
    intro id d
    by_cases hd : d = c <;> simp [Wiring.erase, hd, h.mem_streamerSlots]
  playerIds_nodup := h.playerIds_nodup
  playerConnections_nodup := h.playerConnections_nodup
  mem_playerSlots := by
    intro id d hid
    by_cases hd : d = c
    · simp [Wiring.erase, hd] at hid
    · exact h.mem_playerSlots (by simpa [Wiring.erase, hd] using hid)
  mem_subscribers := by
    intro p u
    by_cases hu : u = c
    · simp [Wiring.erase, hu]
    · by_cases hp : p = c
      · simp [Wiring.erase, hu, hp, hc]
      · simp [Wiring.erase, hu, hp, h.mem_subscribers]
  subscribers_nodup u := by
    by_cases hu : u = c
    · simp [Wiring.erase, hu]
    · simpa [Wiring.erase, hu] using h.subscribers_nodup u
  notMem_subscribers u := by
    by_cases hu : u = c <;> simp [Wiring.erase, hu, h.notMem_subscribers]

/-- The player id of a session that has gone can be taken out. -/
theorem Linked.strike (h : w.Linked) {c : ConnectionId} {id : String} (hmem : (id, c) ∈ w.playerSlots)
    (hc : w.playerId c = none) : (w.strike id).Linked where
  streamerIds_nodup := h.streamerIds_nodup
  mem_streamerSlots := h.mem_streamerSlots
  playerIds_nodup := h.playerIds_nodup.sublist (List.filter_sublist.map Prod.fst)
  playerConnections_nodup := h.playerConnections_nodup.sublist (List.filter_sublist.map Prod.snd)
  mem_playerSlots := by
    intro id' d hd
    have hslot : (id', d) ∈ w.playerSlots := h.mem_playerSlots hd
    have hne : id' ≠ id := fun he => by
      have hslots := List.inj_on_of_nodup_map h.playerIds_nodup hslot hmem he
      rw [show d = c from congrArg Prod.snd hslots, show (w.strike id).playerId c = none from hc] at hd
      cases hd
    simpa [Wiring.strike, hne] using hslot
  mem_subscribers := h.mem_subscribers
  subscribers_nodup := h.subscribers_nodup
  notMem_subscribers := h.notMem_subscribers

theorem Sound.attach (h : w.Sound) {p u : ConnectionId} {id : String} (hp : w.subscription p = none)
    (hu : w.streamerId u = some id) (hne : u ≠ p) : (w.attach p u id).Sound where
  streamerIds_nodup := h.streamerIds_nodup
  mem_streamerSlots := h.mem_streamerSlots
  playerIds_nodup := h.playerIds_nodup
  playerConnections_nodup := h.playerConnections_nodup
  mem_playerSlots := h.mem_playerSlots
  mem_subscribers := by
    intro q d
    by_cases hq : q = p
    · subst hq
      have hnone := h.notMem_subscribers_of_subscription hp d
      by_cases hd : d = u
      · simp [Wiring.attach, hd, hu]
      · have hd' : w.streamerId d ≠ some id := fun he => hd (h.streamerId_inj he hu)
        simp [Wiring.attach, hd, hnone]
        exact hd'
    · by_cases hd : d = u
      · simp [Wiring.attach, hd, hq, h.mem_subscribers]
      · simp [Wiring.attach, hd, hq, h.mem_subscribers]
  subscribers_nodup d := by
    have hnone := h.notMem_subscribers_of_subscription hp d
    by_cases hd : d = u
    · simp only [Wiring.attach, hd, if_true]
      rw [List.nodup_append]
      refine ⟨h.subscribers_nodup u, List.nodup_singleton p, ?_⟩
      intro a ha b hb hab
      rw [List.mem_singleton] at hb
      exact hnone (hd ▸ hb ▸ hab ▸ ha)
    · simpa [Wiring.attach, hd] using h.subscribers_nodup d
  notMem_subscribers d := by
    by_cases hd : d = u
    · simp [Wiring.attach, hd, h.notMem_subscribers, hne]
    · simpa [Wiring.attach, hd] using h.notMem_subscribers d
  playerId_of_mem := h.playerId_of_mem
  resolves := by
    intro q id' hq
    by_cases hqp : q = p
    · simp only [Wiring.attach, hqp, if_true, Option.some.injEq] at hq
      exact ⟨u, hq ▸ hu⟩
    · exact h.resolves (by simpa [Wiring.attach, hqp] using hq)
  numbered := h.numbered
  streamerId_of_waiting := h.streamerId_of_waiting
  streamerId_of_unit := h.streamerId_of_unit

theorem Sound.inscribe (h : w.Sound) {c : ConnectionId} {id : String} (hc : w.streamerId c = none)
    (hwait : w.waiting c = false) (hid : id ∉ w.streamerSlots.map Prod.fst) : (w.inscribe c id).Sound where
  streamerIds_nodup := by
    simp only [Wiring.inscribe, List.map_append, List.map_cons, List.map_nil]
    rw [List.nodup_append]
    refine ⟨h.streamerIds_nodup, List.nodup_singleton id, ?_⟩
    intro a ha b hb hab
    rw [List.mem_singleton] at hb
    exact hid (hb ▸ hab ▸ ha)
  mem_streamerSlots := by
    intro id' d
    by_cases hd : d = c
    · subst hd
      have hnone : (id', d) ∉ w.streamerSlots := fun hmem => by
        have := h.mem_streamerSlots.1 hmem
        rw [hc] at this
        cases this
      simp [Wiring.inscribe, hnone, eq_comm]
    · simp [Wiring.inscribe, hd, h.mem_streamerSlots]
  playerIds_nodup := h.playerIds_nodup
  playerConnections_nodup := h.playerConnections_nodup
  mem_playerSlots := h.mem_playerSlots
  mem_subscribers := by
    intro p u
    by_cases hu : u = c
    · subst hu
      rw [show (w.inscribe u id).subscribers u = [] from h.subscribers_eq_nil hc]
      simp only [List.not_mem_nil, Wiring.inscribe, if_true, Option.some.injEq, false_iff,
        not_exists, not_and]
      rintro id' hp rfl
      obtain ⟨v, hv⟩ := h.resolves hp
      exact hid (List.mem_map_of_mem (h.mem_streamerSlots.2 hv))
    · simp [Wiring.inscribe, hu, h.mem_subscribers]
  subscribers_nodup := h.subscribers_nodup
  notMem_subscribers := h.notMem_subscribers
  playerId_of_mem := h.playerId_of_mem
  resolves := by
    intro p id' hp
    obtain ⟨u, hu⟩ := h.resolves hp
    refine ⟨u, ?_⟩
    have hne : u ≠ c := fun he => by
      rw [he, hc] at hu
      cases hu
    simpa [Wiring.inscribe, hne] using hu
  numbered := h.numbered
  streamerId_of_waiting := by
    intro d hd
    have hne : d ≠ c := fun he => by
      rw [he, show (w.inscribe c id).waiting c = false from hwait] at hd
      cases hd
    simpa [Wiring.inscribe, hne] using h.streamerId_of_waiting hd
  streamerId_of_unit := by
    intro d hd
    by_cases hdc : d = c
    · simp [Wiring.inscribe, hdc]
    · simpa [Wiring.inscribe, hdc] using h.streamerId_of_unit hd

theorem Sound.commission (h : w.Sound) {c : ConnectionId} {id : String} (hc : w.streamerId c = some id) :
    (w.commission c).Sound :=
  { h with
    streamerId_of_unit := by
      intro d hd
      by_cases hdc : d = c
      · simp [Wiring.commission, hdc, hc]
      · exact h.streamerId_of_unit (by simpa [Wiring.commission, hdc] using hd) }

theorem Sound.enlist (h : w.Sound) {c : ConnectionId} (hc : w.playerId c = none) : (w.enlist c).Sound where
  streamerIds_nodup := h.streamerIds_nodup
  mem_streamerSlots := h.mem_streamerSlots
  playerIds_nodup := by
    refine List.nodup_cons.2 ⟨fun hmem => ?_, h.playerIds_nodup⟩
    obtain ⟨⟨id, d⟩, hslot, hid⟩ := List.mem_map.1 hmem
    obtain ⟨n, hn, hn'⟩ := h.numbered hslot
    exact absurd (PlayerDirectory.idOf_injective (hn'.symm.trans hid)) (Nat.ne_of_lt hn)
  playerConnections_nodup := by
    refine List.nodup_cons.2 ⟨fun hmem => ?_, h.playerConnections_nodup⟩
    obtain ⟨⟨id, d⟩, hslot, rfl⟩ := List.mem_map.1 hmem
    rw [h.playerId_of_mem hslot] at hc
    cases hc
  mem_playerSlots := by
    intro id d hd
    by_cases hdc : d = c
    · simp only [Wiring.enlist, hdc, if_true, Option.some.injEq] at hd
      simp [Wiring.enlist, hdc, hd]
    · have : (id, d) ∈ w.playerSlots := h.mem_playerSlots (by simpa [Wiring.enlist, hdc] using hd)
      simp [Wiring.enlist, this]
  mem_subscribers := h.mem_subscribers
  subscribers_nodup := h.subscribers_nodup
  notMem_subscribers := h.notMem_subscribers
  playerId_of_mem := by
    intro id d hmem
    simp only [Wiring.enlist, List.mem_cons, Prod.mk.injEq] at hmem ⊢
    rcases hmem with ⟨rfl, rfl⟩ | hmem
    · simp
    · have hd := h.playerId_of_mem hmem
      have hne : d ≠ c := fun he => by
        rw [he, hc] at hd
        cases hd
      simpa [hne] using hd
  resolves := h.resolves
  numbered := by
    intro id d hmem
    simp only [Wiring.enlist, List.mem_cons, Prod.mk.injEq] at hmem ⊢
    rcases hmem with ⟨rfl, -⟩ | hmem
    · exact ⟨w.nextNumber, by omega, rfl⟩
    · obtain ⟨n, hn, hid⟩ := h.numbered hmem
      exact ⟨n, by omega, hid⟩
  streamerId_of_waiting := h.streamerId_of_waiting
  streamerId_of_unit := h.streamerId_of_unit

theorem Sound.setWaiting (h : w.Sound) {c : ConnectionId} {waiting : Bool}
    (hc : waiting = true → w.streamerId c = none) : (w.setWaiting c waiting).Sound :=
  { h with
    streamerId_of_waiting := by
      intro d hd
      by_cases hdc : d = c
      · exact hdc ▸ hc (by simpa [Wiring.setWaiting, hdc] using hd)
      · exact h.streamerId_of_waiting (by simpa [Wiring.setWaiting, hdc] using hd) }

section
variable {c : ConnectionId} {current new : String}

/-- Whoever holds the new id is the renamed source. -/
private theorem Linked.eq_of_renamed (h : w.Linked) (hc : w.streamerId c = some current)
    (hnew : new ∈ w.streamerSlots.map Prod.fst → new = current) {d : ConnectionId}
    (hd : w.streamerId d = some new) :
    d = c := by
  have hid := hnew (List.mem_map_of_mem (h.mem_streamerSlots.2 hd))
  exact h.streamerId_inj hd (hid ▸ hc)

private theorem Linked.nodup_rename (h : w.Linked) (hc : w.streamerId c = some current)
    (hnew : new ∈ w.streamerSlots.map Prod.fst → new = current) :
    ((w.rename c new).streamerSlots.map Prod.fst).Nodup := by
  simp only [Wiring.rename, List.map_map]
  apply List.Nodup.map_on _ (h.streamerIds_nodup.of_map Prod.fst)
  rintro ⟨id, d⟩ hd ⟨id', d'⟩ hd' heq
  have hid := h.mem_streamerSlots.1 hd
  have hid' := h.mem_streamerSlots.1 hd'
  -- only the slot of the renamed source has changed, and its id is nobody else's
  by_cases hdc : d = c <;> by_cases hdc' : d' = c
  · subst hdc hdc'
    rw [hid] at hid'
    rw [Option.some.inj hid']
  · simp only [Function.comp_apply, hdc, hdc', if_true, if_false] at heq
    exact absurd (h.eq_of_renamed hc hnew (heq ▸ hid')) hdc'
  · simp only [Function.comp_apply, hdc, hdc', if_true, if_false] at heq
    exact absurd (h.eq_of_renamed hc hnew (heq ▸ hid)) hdc
  · simp only [Function.comp_apply, hdc, hdc', if_false] at heq
    subst heq
    rw [h.streamerId_inj hid hid']

private theorem Linked.mem_slots_rename (h : w.Linked) (hc : w.streamerId c = some current) {id : String}
    {d : ConnectionId} :
    (id, d) ∈ (w.rename c new).streamerSlots ↔ (w.rename c new).streamerId d = some id := by
  simp only [Wiring.rename, List.mem_map]
  by_cases hdc : d = c
  · subst hdc
    simp only [if_true, Option.some.injEq]
    constructor
    · rintro ⟨⟨id', d'⟩, hmem, heq⟩
      by_cases hd' : d' = d
      · simp only [hd', if_true, Prod.mk.injEq] at heq
        exact heq.1
      · simp only [hd', if_false, Prod.mk.injEq] at heq
        exact heq.2.elim
    · rintro rfl
      exact ⟨(current, d), h.mem_streamerSlots.2 hc, by simp⟩
  · simp only [hdc, if_false]
    constructor
    · rintro ⟨⟨id', d'⟩, hmem, heq⟩
      by_cases hd' : d' = c
      · simp only [hd', if_true, Prod.mk.injEq] at heq
        exact absurd heq.2.symm hdc
      · simp only [hd', if_false, Prod.mk.injEq] at heq
        exact h.mem_streamerSlots.1 (heq.1 ▸ heq.2 ▸ hmem)
    · intro hd
      exact ⟨(id, d), h.mem_streamerSlots.2 hd, by simp [hdc]⟩

/-- Those who watch follow the renamed source, and nobody else has watched the new id before. -/
private theorem Sound.mem_subscribers_rename (h : w.Sound) (hc : w.streamerId c = some current)
    (hnew : new ∈ w.streamerSlots.map Prod.fst → new = current) {p u : ConnectionId} :
    p ∈ (w.rename c new).subscribers u ↔
      ∃ id, (w.rename c new).subscription p = some id ∧ (w.rename c new).streamerId u = some id := by
  show p ∈ w.subscribers u ↔ _
  simp only [Wiring.rename]
  by_cases hp : p ∈ w.subscribers c
  · obtain ⟨id, hpid, hcid⟩ := h.mem_subscribers.1 hp
    simp only [hp, if_true, Option.some.injEq, exists_eq_left']
    by_cases hu : u = c
    · simp [hu, hp]
    · simp only [hu, if_false]
      constructor
      · intro hmem
        obtain ⟨id', hpid', huid⟩ := h.mem_subscribers.1 hmem
        rw [hpid] at hpid'
        exact absurd (h.streamerId_inj (Option.some.inj hpid' ▸ huid) hcid) hu
      · intro huid
        exact absurd (h.eq_of_renamed hc hnew huid) hu
  · simp only [hp, if_false]
    by_cases hu : u = c
    · simp only [hu, hp, if_true, Option.some.injEq, false_iff, not_exists, not_and]
      rintro id hpid rfl
      obtain ⟨v, hv⟩ := h.resolves hpid
      have hcur := hnew (List.mem_map_of_mem (h.mem_streamerSlots.2 hv))
      exact hp (h.mem_subscribers.2 ⟨current, hcur ▸ hpid, hc⟩)
    · simp only [hu, if_false]
      exact h.mem_subscribers

/-- A renamed source keeps its place, and nobody else holds the new id. -/
theorem Sound.rename (h : w.Sound) (hc : w.streamerId c = some current)
    (hnew : new ∈ w.streamerSlots.map Prod.fst → new = current) : (w.rename c new).Sound where
  streamerIds_nodup := h.nodup_rename hc hnew
  mem_streamerSlots := h.mem_slots_rename hc
  playerIds_nodup := h.playerIds_nodup
  playerConnections_nodup := h.playerConnections_nodup
  mem_playerSlots := h.mem_playerSlots
  mem_subscribers := h.mem_subscribers_rename hc hnew
  subscribers_nodup := h.subscribers_nodup
  notMem_subscribers := h.notMem_subscribers
  playerId_of_mem := h.playerId_of_mem
  resolves := by
    intro p id hp
    simp only [Wiring.rename] at hp ⊢
    by_cases hmem : p ∈ w.subscribers c
    · simp only [hmem, if_true, Option.some.injEq] at hp
      exact ⟨c, by simp [hp]⟩
    · simp only [hmem, if_false] at hp
      obtain ⟨u, hu⟩ := h.resolves hp
      have hne : u ≠ c := by
        rintro rfl
        exact hmem (h.mem_subscribers.2 ⟨id, hp, hu⟩)
      exact ⟨u, by simp [hne, hu]⟩
  numbered := h.numbered
  streamerId_of_waiting := by
    intro d hd
    have hnone := h.streamerId_of_waiting hd
    have hne : d ≠ c := by
      rintro rfl
      rw [hc] at hnone
      cases hnone
    simp [Wiring.rename, hne, hnone]
  streamerId_of_unit := by
    intro d hd
    by_cases hdc : d = c
    · simp [Wiring.rename, hdc]
    · simpa [Wiring.rename, hdc] using h.streamerId_of_unit hd

end

/-- Connections may go at any time, whoever they are. -/
theorem Sound.without (h : w.Sound) (gone : List ConnectionId) : (w.without gone).Sound where
  streamerIds_nodup := h.streamerIds_nodup.sublist (List.filter_sublist.map Prod.fst)
  mem_streamerSlots := by
    intro id c
    by_cases hc : c ∈ gone <;> simp [Wiring.without, hc, h.mem_streamerSlots]
  playerIds_nodup := h.playerIds_nodup.sublist (List.filter_sublist.map Prod.fst)
  playerConnections_nodup := h.playerConnections_nodup.sublist (List.filter_sublist.map Prod.snd)
  mem_playerSlots := by
    intro id c hid
    by_cases hc : c ∈ gone
    · simp [Wiring.without, hc] at hid
    · have : (id, c) ∈ w.playerSlots := h.mem_playerSlots (by simpa [Wiring.without, hc] using hid)
      simp [Wiring.without, hc, this]
  mem_subscribers := by
    intro p u
    by_cases hp : p ∈ gone
    · by_cases hu : u ∈ gone <;> simp [Wiring.without, hp, hu]
    · by_cases hu : u ∈ gone
      · simp [Wiring.without, hu]
      · simp only [Wiring.without, hp, hu, if_false, List.mem_filter, Option.filter_eq_some_iff]
        simp only [not_false_eq_true, decide_true, and_true, h.mem_subscribers]
        constructor
        · rintro ⟨id, hpid, huid⟩
          refine ⟨id, ⟨hpid, ?_⟩, huid⟩
          rw [List.all_eq_true]
          intro v hv
          have : w.streamerId v ≠ some id := fun hvid => hu (h.streamerId_inj huid hvid ▸ hv)
          simpa using this
        · rintro ⟨id, ⟨hpid, -⟩, huid⟩
          exact ⟨id, hpid, huid⟩
  subscribers_nodup u := by
    by_cases hu : u ∈ gone
    · simp [Wiring.without, hu]
    · simpa [Wiring.without, hu] using (h.subscribers_nodup u).filter _
  notMem_subscribers u := by
    by_cases hu : u ∈ gone <;> simp [Wiring.without, hu, h.notMem_subscribers]
  playerId_of_mem := by
    intro id c hmem
    simp only [Wiring.without, List.mem_filter, decide_eq_true_eq] at hmem
    simp [Wiring.without, hmem.2, h.playerId_of_mem hmem.1]
  resolves := by
    intro p id hp
    by_cases hpg : p ∈ gone
    · simp [Wiring.without, hpg] at hp
    · simp only [Wiring.without, hpg, if_false, Option.filter_eq_some_iff] at hp
      obtain ⟨u, hu⟩ := h.resolves hp.1
      have hug : u ∉ gone := fun hmem => by
        have := List.all_eq_true.1 hp.2 u hmem
        simp [hu] at this
      exact ⟨u, by simp [Wiring.without, hug, hu]⟩
  numbered hmem := h.numbered (List.mem_of_mem_filter hmem)
  streamerId_of_waiting := by
    intro c hc
    by_cases hcg : c ∈ gone
    · simp [Wiring.without, hcg]
    · simpa [Wiring.without, hcg] using h.streamerId_of_waiting (by simpa [Wiring.without, hcg] using hc)
  streamerId_of_unit := by
    intro c hc
    by_cases hcg : c ∈ gone
    · simp [Wiring.without, hcg] at hc
    · simpa [Wiring.without, hcg] using h.streamerId_of_unit (by simpa [Wiring.without, hcg] using hc)

end

end Wiring

end SignalRelay
