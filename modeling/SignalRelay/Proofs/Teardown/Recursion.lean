import SignalRelay.Proofs.Relay.Views

/-!
# The recursion of a teardown

Closing a connection may close forwarding units, which may close further ones.  Every call takes one
session out before it makes others, so the number of live sessions bounds the depth:

* with any fuel from that number on, `closeWithin` does the same (`closeWithin_eq_close`);
* `close` is a fixed point of `closeBy` (`close_eq`), and further proofs need no fuel.
-/

namespace SignalRelay

namespace Relay

/-! ### The number of sessions -/

/-- The number of live sessions. -/
def size (r : Relay) : Nat := r.sessions.size

@[simp] theorem size_push (r : Relay) (c : ConnectionId) (f : Outbound) : (r.push c f).size = r.size := rfl

@[simp] theorem size_send (r : Relay) (c : ConnectionId) (m : Signal) : (r.send c m).size = r.size := by
  unfold send
  split <;> rfl

@[simp] theorem size_adjustSource (r : Relay) (c : ConnectionId) (f : Source → Source) :
    (r.adjustSource c f).size = r.size :=
  Table.size_adjust r.sessions c _

@[simp] theorem size_setSubscribed (r : Relay) (c : ConnectionId) (id : Option String) :
    (r.setSubscribed c id).size = r.size :=
  Table.size_adjust r.sessions c _

@[simp] theorem size_stopTimer (r : Relay) (timer : Option Nat) : (r.stopTimer timer).size = r.size := rfl

@[simp] theorem size_retirePlayer (r : Relay) (id : String) : (r.retirePlayer id).size = r.size := rfl

@[simp] theorem size_markStreaming (r : Relay) (c : ConnectionId) (streaming : Bool) :
    (r.markStreaming c streaming).size = r.size := by
  unfold markStreaming
  split <;> rfl

@[simp] theorem size_unsubscribe (r : Relay) (c : ConnectionId) : (r.unsubscribe c).size = r.size := by
  unfold unsubscribe
  split
  · rfl
  · split
    · rfl
    · dsimp only
      split <;> simp

theorem size_eraseSession_lt {r : Relay} {c : ConnectionId} {s : Session} (h : r.session? c = some s) :
    (r.eraseSession c).size < r.size :=
  Table.size_erase_lt h

theorem session?_eq_none_of_size {r : Relay} (h : r.size = 0) (c : ConnectionId) : r.session? c = none := by
  cases hs : r.session? c with
  | none => rfl
  | some s =>
    have := size_eraseSession_lt hs
    omega

/-! ### One call -/

section
variable {shut shut' : Relay → ConnectionId → Relay}

private theorem size_releaseBy_le (hshut : ∀ r c, (shut r c).size ≤ r.size) (id : String) (r : Relay)
    (c : ConnectionId) :
    (releaseBy shut id r c).size ≤ r.size := by
  unfold releaseBy terminateBy
  split
  · exact Nat.le_refl _
  · exact Nat.le_refl _
  · split
    · simp
    · exact Nat.le_refl _
  · split
    · split
      · exact Nat.le_trans (hshut _ _) (by simp)
      · simp
    · exact Nat.le_refl _

private theorem size_foldl_releaseBy_le (hshut : ∀ r c, (shut r c).size ≤ r.size) (id : String)
    (subscribers : List ConnectionId) (r : Relay) :
    (subscribers.foldl (releaseBy shut id) r).size ≤ r.size := by
  induction subscribers generalizing r with
  | nil => exact Nat.le_refl _
  | cons c subscribers ih => exact Nat.le_trans (ih _) (size_releaseBy_le hshut id r c)

private theorem size_retireSourceBy_le (hshut : ∀ r c, (shut r c).size ≤ r.size) (r : Relay)
    (source : Source) :
    (retireSourceBy shut r source).size ≤ r.size := by
  unfold retireSourceBy retireBy
  split
  · exact Nat.le_refl _
  · exact size_foldl_releaseBy_le hshut _ _ _

private theorem size_closeBy_le (hshut : ∀ r c, (shut r c).size ≤ r.size) (r : Relay) (c : ConnectionId) :
    (closeBy shut r c).size ≤ r.size := by
  unfold closeBy
  split
  · exact Nat.le_refl _
  · rename_i source hs
    have := size_retireSourceBy_le hshut ((r.eraseSession c).stopTimer source.timer) source
    have := size_eraseSession_lt hs
    simp only [size_stopTimer] at *
    omega
  · have hle : ((r.unsubscribe c).eraseSession c).size ≤ (r.unsubscribe c).size := Table.size_erase_le _ _
    rw [size_unsubscribe] at hle
    exact hle
  · -- a unit may be gone when its own subscription has ended
    dsimp only
    split
    · rename_i source viewer hs
      have := size_retireSourceBy_le hshut ((r.unsubscribe c).eraseSession c) source
      have := size_eraseSession_lt hs
      have := size_unsubscribe r c
      simp only [size_retirePlayer]
      omega
    · simp

/-- A teardown adds no session. -/
theorem size_closeWithin_le (fuel : Nat) (r : Relay) (c : ConnectionId) :
    (closeWithin fuel r c).size ≤ r.size := by
  induction fuel generalizing r c with
  | zero => exact Nat.le_refl _
  | succ fuel ih => exact size_closeBy_le ih r c

/-! Two ways to close connections that agree on smaller relays make the same of a relay. -/

private theorem releaseBy_congr {n : Nat} (hagree : ∀ r c, r.size < n → shut r c = shut' r c) {r : Relay}
    (hr : r.size < n) (id : String) (c : ConnectionId) : releaseBy shut id r c = releaseBy shut' id r c := by
  unfold releaseBy terminateBy
  split
  · rfl
  · rfl
  · rfl
  · split
    · split
      · exact hagree _ _ (by simpa using hr)
      · rfl
    · rfl

private theorem foldl_releaseBy_congr {n : Nat} (hshut : ∀ r c, (shut r c).size ≤ r.size)
    (hagree : ∀ r c, r.size < n → shut r c = shut' r c) (id : String) (subscribers : List ConnectionId)
    {r : Relay} (hr : r.size < n) :
    subscribers.foldl (releaseBy shut id) r = subscribers.foldl (releaseBy shut' id) r := by
  induction subscribers generalizing r with
  | nil => rfl
  | cons c subscribers ih =>
    have hle := size_releaseBy_le hshut id r c
    rw [List.foldl_cons, List.foldl_cons, ih (by omega), releaseBy_congr hagree hr]

private theorem retireSourceBy_congr {n : Nat} (hshut : ∀ r c, (shut r c).size ≤ r.size)
    (hagree : ∀ r c, r.size < n → shut r c = shut' r c) {r : Relay} (hr : r.size < n) (source : Source) :
    retireSourceBy shut r source = retireSourceBy shut' r source := by
  unfold retireSourceBy retireBy
  split
  · rfl
  · exact foldl_releaseBy_congr hshut hagree _ _ hr

private theorem closeBy_congr (hshut : ∀ r c, (shut r c).size ≤ r.size) {r : Relay}
    (hagree : ∀ r' c, r'.size < r.size → shut r' c = shut' r' c) (c : ConnectionId) :
    closeBy shut r c = closeBy shut' r c := by
  unfold closeBy
  split
  · rfl
  · rename_i source hs
    have := size_eraseSession_lt hs
    exact retireSourceBy_congr hshut hagree (by simpa using this) source
  · rfl
  · dsimp only
    split
    · rename_i source viewer hs
      have := size_eraseSession_lt hs
      rw [retireSourceBy_congr hshut hagree (by simpa using this) source]
    · rfl

end

/-! ### Enough fuel -/

private theorem closeWithin_of_not_live (fuel : Nat) {r : Relay} {c : ConnectionId}
    (h : r.session? c = none) :
    closeWithin fuel r c = r := by
  cases fuel with
  | zero => rfl
  | succ fuel => simp [closeWithin, closeBy, h]

private theorem closeWithin_fuel (m n : Nat) {r : Relay} (hm : r.size ≤ m) (hn : r.size ≤ n)
    (c : ConnectionId) :
    closeWithin m r c = closeWithin n r c := by
  induction m generalizing n r c with
  | zero =>
    have hs := session?_eq_none_of_size (Nat.le_zero.1 hm) c
    rw [closeWithin_of_not_live _ hs, closeWithin_of_not_live _ hs]
  | succ m ih =>
    cases n with
    | zero =>
      have hs := session?_eq_none_of_size (Nat.le_zero.1 hn) c
      rw [closeWithin_of_not_live _ hs, closeWithin_of_not_live _ hs]
    | succ n =>
      -- one call agrees if the calls below do, and these are on smaller relays
      apply closeBy_congr (size_closeWithin_le m)
      intro r' d hr'
      exact ih n (by omega) (by omega) d

/-- The number of live sessions is fuel enough, and more of it changes nothing. -/
theorem closeWithin_eq_close {fuel : Nat} {r : Relay} (h : r.size ≤ fuel) (c : ConnectionId) :
    closeWithin fuel r c = r.close c :=
  closeWithin_fuel fuel r.size h (Nat.le_refl _) c

theorem size_close_le (r : Relay) (c : ConnectionId) : (r.close c).size ≤ r.size :=
  size_closeWithin_le _ r c

/-- Closing is defined by itself: what goes down the line is closed in the same way. -/
theorem close_eq (r : Relay) (c : ConnectionId) : r.close c = closeBy close r c := by
  rw [← closeWithin_eq_close (Nat.le_succ r.size)]
  apply closeBy_congr (size_closeWithin_le r.size)
  intro r' d hr'
  exact closeWithin_eq_close (by omega) d

theorem close_of_not_live {r : Relay} {c : ConnectionId} (h : r.session? c = none) : r.close c = r :=
  closeWithin_of_not_live _ h

theorem terminate_of_live {r : Relay} {c : ConnectionId} (h : (r.session? c).isSome) (reason : String) :
    r.terminate c reason = (r.push c (.close reason)).close c := by
  simp [terminate, terminateBy, h]

theorem terminate_of_not_live {r : Relay} {c : ConnectionId} (h : r.session? c = none) (reason : String) :
    r.terminate c reason = r := by
  simp [terminate, terminateBy, h]

/-- A teardown step never adds a session, whoever is released. -/
theorem size_release_le (id : String) (r : Relay) (c : ConnectionId) :
    (releaseBy close id r c).size ≤ r.size :=
  size_releaseBy_le size_close_le id r c

end Relay

end SignalRelay
