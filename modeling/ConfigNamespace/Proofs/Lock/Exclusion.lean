import ConfigNamespace.Proofs.Lock.Crowd
import Mathlib.Data.List.Perm.Subperm

/-!
# Nobody shares the lock with a writer

A writer is alone with the lock, whatever the schedule was. For the lock as a whole this is a matter
of its counts. As long as no thread gives back what it was not granted, the counts say which threads
hold the lock, and a thread that holds the write side is the only one that holds anything.
-/

namespace ConfigNamespace.Crowd

open Operation ReadWriteLock

variable {T : Type} {c d : Crowd T}

/-- The threads that wait for a side. -/
def blocked (c : Crowd T) (side : LockSide) : List T :=
  (c.waiting.filter fun entry => entry.2 = side).map Prod.fst

/-- As many threads are blocked on a side as are counted to wait for it. -/
theorem length_blocked (c : Crowd T) (side : LockSide) :
    (c.blocked side).length = tally side c.waiting := by
  rw [blocked, List.length_map, tally, List.countP_eq_length_filter]

/-- No thread is blocked twice on a side. -/
theorem Sound.nodup_blocked (h : c.Sound) (side : LockSide) : (c.blocked side).Nodup :=
  h.nodup.sublist (List.filter_sublist.map Prod.fst)

/-- A side is granted only when the lock admits it. -/
theorem admits_of_granted {t : T} {side : LockSide} (hstep : Step c d)
    (hgranted : d.granted = c.granted ++ [(t, side)]) : c.lock.admits side = true := by
  have hother {t' : T} {side' : LockSide} (hadmits : c.lock.admits side' = true)
      (hlog : c.granted ++ [(t', side')] = c.granted ++ [(t, side)]) :
      c.lock.admits side = true := by
    simp only [List.append_cancel_left_eq, List.cons.injEq, Prod.mk.injEq] at hlog
    obtain ⟨⟨-, rfl⟩, -⟩ := hlog
    exact hadmits
  have hnone : c.granted ≠ c.granted ++ [(t, side)] := by simp
  cases hstep with
  | enters t' side' hidle hadmits => exact hother hadmits hgranted
  | waits t' side' hidle hadmits => exact absurd hgranted hnone
  | resumes hresumes =>
    cases hresumes with
    | enters position t' side' hthread hnotified hadmits => exact hother hadmits hgranted
    | waits position t' side' hthread hnotified hadmits => exact absurd hgranted hnone
  | returns t' side' hleft => exact absurd hgranted hnone
  | refused side' hleft => exact absurd hgranted hnone

/-! ## What each thread holds -/

section Holding

variable [DecidableEq T]

/-- Whether no thread gave back more than it was granted. -/
def Orderly (c : Crowd T) : Prop := ∀ hold, c.returned.count hold ≤ c.granted.count hold

/-- Whether a thread was granted a side that it has not given back. -/
def Holds (c : Crowd T) (t : T) (side : LockSide) : Prop :=
  c.returned.count (t, side) < c.granted.count (t, side)

instance (c : Crowd T) (t : T) (side : LockSide) : Decidable (c.Holds t side) :=
  inferInstanceAs (Decidable (c.returned.count (t, side) < c.granted.count (t, side)))

/-- What the threads hold. -/
def held (c : Crowd T) : List (T × LockSide) := c.granted.diff c.returned

/-- What was granted was returned or is held. -/
theorem Orderly.returned_append_held (h : c.Orderly) : (c.returned ++ c.held).Perm c.granted :=
  List.subperm_append_diff_self_of_count_le fun hold _ => h hold

/-- A thread that holds a side is among those that hold it. -/
theorem Orderly.mem_held (h : c.Orderly) {t : T} {side : LockSide} (hholds : c.Holds t side) :
    (t, side) ∈ c.held := by
  have hcount := h.returned_append_held.count_eq (t, side)
  rw [List.count_append] at hcount
  have hmore : c.returned.count (t, side) < c.granted.count (t, side) := hholds
  exact List.count_pos_iff.mp (by omega)

/-- While no thread gives back what it does not have, the threads hold what the lock counts. -/
theorem Sound.tally_held (h : c.Sound) (horderly : c.Orderly) (side : LockSide) :
    tally side c.held = c.lock.holders side := by
  have hsplit : tally side (c.returned ++ c.held) = tally side c.granted :=
    tally_eq_of_perm horderly.returned_append_held
  have hgranted := h.granted_eq side
  rw [tally_append] at hsplit
  omega

/-- A thread that holds the write side is the only one that holds anything. -/
theorem Sound.alone (h : c.Sound) (horderly : c.Orderly) {t u : T} {side : LockSide}
    (hwriter : c.Holds t .write) (hother : c.Holds u side) : u = t ∧ side = .write := by
  have hwriters := h.tally_held horderly .write
  have hreaders := h.tally_held horderly .read
  have hmem := horderly.mem_held hwriter
  have hmem' := horderly.mem_held hother
  have hwrites : c.lock.writer = true := by
    by_contra hfree
    have hpos := tally_pos_iff.mpr ⟨t, hmem⟩
    simp [hwriters, holders, hfree] at hpos
  have hone : tally .write c.held = 1 := by simp [hwriters, holders, hwrites]
  have hside : side = .write := by
    cases side with
    | write => rfl
    | read =>
      have hpos := tally_pos_iff.mpr ⟨u, hmem'⟩
      rw [hreaders, holders, h.lock.exclusive hwrites] at hpos
      cases hpos
  subst hside
  refine ⟨?_, rfl⟩
  obtain ⟨hold, hsingle⟩ := List.length_eq_one_iff.mp (List.countP_eq_length_filter.symm.trans hone)
  have hfirst : (t, LockSide.write) ∈ [hold] := hsingle ▸ List.mem_filter.mpr ⟨hmem, rfl⟩
  have hsecond : (u, LockSide.write) ∈ [hold] := hsingle ▸ List.mem_filter.mpr ⟨hmem', rfl⟩
  have heq := (List.mem_singleton.mp hsecond).trans (List.mem_singleton.mp hfirst).symm
  exact congrArg Prod.fst heq

end Holding

/-- Whatever the threads did: a writer has the lock without readers. What was granted on a side and
not returned is what the lock counts, so that there is at most one writer. The writers that the lock
counts are the threads that wait for the write side. No read side is granted while a writer waits.
Giving back a side fails without an effect if all that was granted on it was returned, and takes one
holder away otherwise. As long as no thread returns what it was not granted, a thread that holds the
write side is the only one that holds anything. -/
theorem writer_alone [DecidableEq T] (h : c.Reachable) :
    (c.lock.writer = true → c.lock.readers = 0) ∧
    tally .read c.granted = tally .read c.returned + c.lock.readers ∧
    tally .write c.granted = tally .write c.returned + (if c.lock.writer then 1 else 0) ∧
    ((c.blocked .write).Nodup ∧ c.lock.waitingWriters = (c.blocked .write).length) ∧
    (∀ d t, Step c d → d.granted = c.granted ++ [(t, .read)] →
      c.lock.writer = false ∧ c.blocked .write = []) ∧
    (∀ side, tally side c.granted = tally side c.returned →
      (giveBack side).outcome c.lock = (.error side.unheld, c.lock)) ∧
    (∀ side, tally side c.returned < tally side c.granted →
      ∃ left, (giveBack side).outcome c.lock = (.ok (), left) ∧
        ∀ other, c.lock.holders other = left.holders other + if side = other then 1 else 0) ∧
    (c.Orderly → ∀ t u side, c.Holds t .write → c.Holds u side → u = t ∧ side = .write) := by
  have hsound := h.sound
  have hwriters : c.lock.waitingWriters = (c.blocked .write).length :=
    hsound.waitingWriters_eq.trans (c.length_blocked .write).symm
  refine ⟨hsound.lock.exclusive, hsound.granted_eq .read, hsound.granted_eq .write,
    ⟨hsound.nodup_blocked .write, hwriters⟩, ?_, ?_, ?_, ?_⟩
  · intro d t hstep hgranted
    obtain ⟨hfree, hnone⟩ := admits_read_iff.mp (admits_of_granted hstep hgranted)
    exact ⟨hfree, List.eq_nil_of_length_eq_zero (hwriters.symm.trans hnone)⟩
  · intro side hreturned
    have hgranted := hsound.granted_eq side
    exact giveBack_of_unheld (by omega)
  · intro side hreturned
    have hgranted := hsound.granted_eq side
    have hheld : 0 < c.lock.holders side := by omega
    obtain ⟨left, hleft, hreleased⟩ := giveBack_of_held hheld
    exact ⟨left, hleft, holders_of_release hreleased⟩
  · intro horderly t u side hwriter hother
    exact hsound.alone horderly hwriter hother

/-- After a reader has left: no second one can leave, and the waiting reader is not let in before the
writer. When the writer has entered, it is the only one that holds anything. -/
theorem writer_alone_handover :
    let entered : Crowd Nat := ⟨⟨0, true, 0, [⟨.read, true⟩]⟩, [(2, .read)],
      [(0, .read), (1, .write)], [(0, .read)]⟩
    (giveBack .read).outcome handover.lock = (.error .releaseReadUnheld, handover.lock) ∧
      (∀ d, Step handover d → d.granted ≠ handover.granted ++ [(2, .read)]) ∧
      Step handover entered ∧ entered.Holds 1 .write ∧
      ∀ u side, entered.Holds u side → u = 1 ∧ side = .write := by
  intro entered
  have hstep : Step handover entered := .resumes (.enters 0 1 .write rfl rfl rfl)
  have horderly : entered.Orderly := fun hold => List.Sublist.count_le hold (by decide)
  have hholds : entered.Holds 1 .write := by decide
  obtain ⟨-, -, -, -, hreads, hunheld, -, -⟩ := writer_alone handover_reachable
  obtain ⟨-, -, -, -, -, -, -, halone⟩ := writer_alone (handover_reachable.step hstep)
  refine ⟨hunheld .read rfl, ?_, hstep, hholds, ?_⟩
  · intro d hd hgranted
    cases (hreads d 2 hd hgranted).2
  · intro u side hother
    exact halone horderly 1 u side hholds hother

end ConfigNamespace.Crowd
