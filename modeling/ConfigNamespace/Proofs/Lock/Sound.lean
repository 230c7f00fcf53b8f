import ConfigNamespace.Lock
import ConfigNamespace.Proofs.Operation
import Mathlib.Data.List.Perm.Basic
import Mathlib.Tactic.ByContra

/-!
# What the lock keeps

The lock counts who holds it and which writers wait. Whatever is asked of it, a writer that holds it
is alone, and the count of writers is right. Nobody sleeps on it without a reason: who was not
notified could not enter if it looked again.
-/

namespace ConfigNamespace

open Operation

/-- How giving back a side fails that nobody holds. -/
def LockSide.unheld : LockSide → Failure
  | .read => .releaseReadUnheld
  | .write => .releaseWriteUnheld

/-- What is taken out of a list at a position is all that the rest of it lacks. -/
theorem perm_eraseIdx {α : Type} {as : List α} {position : Nat} {a : α}
    (h : as[position]? = some a) : (a :: as.eraseIdx position).Perm as := by
  obtain ⟨hposition, rfl⟩ := List.getElem?_eq_some_iff.mp h
  exact List.getElem_cons_eraseIdx_perm hposition

/-- What is moved from a position to the end of a list stays in it. -/
theorem perm_eraseIdx_append {α : Type} {as : List α} {position : Nat} {a : α}
    (h : as[position]? = some a) : (as.eraseIdx position ++ [a]).Perm as :=
  (List.perm_append_singleton a _).trans (perm_eraseIdx h)

namespace ReadWriteLock

variable {l l' : ReadWriteLock} {side : LockSide} {position : Nat}

/-- How many hold a side. -/
def holders (l : ReadWriteLock) : LockSide → Nat
  | .read => l.readers
  | .write => if l.writer then 1 else 0

/-- Whether anybody holds the lock. -/
def IsHeld (l : ReadWriteLock) : Prop := l.writer = true ∨ 0 < l.readers

/-- The lock after a side was given back, before anybody is told. -/
def vacate (l : ReadWriteLock) : LockSide → ReadWriteLock
  | .read => { l with readers := l.readers - 1 }
  | .write => { l with writer := false }

/-- Whether the lock is in order. -/
structure Sound (l : ReadWriteLock) : Prop where
  /-- A writer holds the lock alone. -/
  exclusive : l.writer = true → l.readers = 0
  /-- The writers who wait are counted. -/
  counted : l.waitingWriters = l.blocked .write
  /-- Who was not notified could not enter. -/
  awake : ∀ waiter ∈ l.waiters, waiter.notified = false → l.admits waiter.side = false

/-! ## What each side waits for -/

/-- A reader is let in exactly if no writer holds the lock or waits for it. -/
theorem admits_read_iff : l.admits .read = true ↔ l.writer = false ∧ l.waitingWriters = 0 := by
  simp [admits]

/-- A writer is let in exactly if nobody holds the lock. -/
theorem admits_write_iff : l.admits .write = true ↔ l.writer = false ∧ l.readers = 0 := by
  simp [admits]

/-- Nobody is let in while a writer holds the lock. -/
theorem writer_of_admits (h : l.admits side = true) : l.writer = false := by
  cases side with
  | read => exact (admits_read_iff.mp h).1
  | write => exact (admits_write_iff.mp h).1

/-- Who cannot take the write side is kept out by somebody who holds the lock. -/
theorem isHeld_of_not_admits_write (h : l.admits .write = false) : l.IsHeld := by
  by_contra hfree
  simp only [IsHeld, not_or, Bool.not_eq_true, Nat.not_lt, Nat.le_zero] at hfree
  rw [admits_write_iff.mpr hfree] at h
  cases h

/-- Who cannot take the read side is kept out by a writer. -/
theorem writer_of_not_admits_read (h : l.admits .read = false) :
    l.writer = true ∨ 0 < l.waitingWriters := by
  by_contra hfree
  simp only [not_or, Bool.not_eq_true, Nat.not_lt, Nat.le_zero] at hfree
  rw [admits_read_iff.mpr hfree] at h
  cases h

/-! ## Taking a side and waiting for it -/

/-- Who is let in takes the lock at once. -/
theorem acquire_of_admits (h : l.admits side = true) : l.acquire side = l.take side := by
  simp [acquire, h]

/-- Who is not let in waits at the end. -/
theorem acquire_of_not_admits (h : l.admits side = false) :
    l.acquire side = { l.enlist side with waiters := l.waiters ++ [⟨side, false⟩] } := by
  simp [acquire, h]

/-- A notified waiter that is let in takes the lock and waits no more. -/
theorem resume_of_admits (hwaiter : l.waiters[position]? = some ⟨side, true⟩)
    (h : l.admits side = true) :
    l.resume position =
      { (l.discharge side).take side with waiters := l.waiters.eraseIdx position } := by
  simp [resume, hwaiter, h]

/-- A notified waiter that is not let in waits on, at the end. -/
theorem resume_of_not_admits (hwaiter : l.waiters[position]? = some ⟨side, true⟩)
    (h : l.admits side = false) :
    l.resume position = { l with waiters := l.waiters.eraseIdx position ++ [⟨side, false⟩] } := by
  simp [resume, hwaiter, h]

/-- A side that is taken or waited for admits nobody who was not admitted before. -/
theorem not_admits_take {other : LockSide} (h : l.admits other = false) :
    (l.take side).admits other = false := by
  cases side <;> cases other <;> simp_all [admits, take]

/-- One more that is counted as waiting lets nobody in. -/
theorem not_admits_enlist {other : LockSide} (h : l.admits other = false) :
    (l.enlist side).admits other = false := by
  cases side <;> cases other <;> simp_all [admits, enlist]

/-- Who waited for a side and takes it admits nobody who was not admitted before. -/
theorem not_admits_take_discharge {other : LockSide} (h : l.admits other = false) :
    ((l.discharge side).take side).admits other = false := by
  cases side with
  | read => exact not_admits_take h
  | write => cases other <;> simp [admits, take]

/-- Who takes a side that admits it is one more holder. -/
theorem holders_take (h : l.admits side = true) (other : LockSide) :
    (l.take side).holders other = l.holders other + if side = other then 1 else 0 := by
  have hwriter := writer_of_admits h
  cases side <;> cases other <;> simp [holders, take, hwriter]

/-- Who is let in takes the lock without breaking exclusion. -/
theorem exclusive_take (h : l.admits side = true) :
    (l.take side).writer = true → (l.take side).readers = 0 := by
  cases side with
  | read =>
    intro hwriter
    rw [show (l.take .read).writer = l.writer from rfl, writer_of_admits h] at hwriter
    cases hwriter
  | write => exact fun _ => (admits_write_iff.mp h).2

/-! ## Giving a side back -/

/-- What giving back a side may come to. The last one who leaves notifies all. -/
theorem release_cases (l : ReadWriteLock) (side : LockSide) :
    l.holders side = 0 ∧ l.release side = .error side.unheld ∨
    0 < l.holders side ∧ l.release side = .ok (l.vacate side).notifyAll ∨
    side = .read ∧ 1 < l.readers ∧ l.release side = .ok (l.vacate side) := by
  cases side with
  | read =>
    by_cases hnone : l.readers = 0
    · exact .inl ⟨hnone, by simp [release, hnone, LockSide.unheld]⟩
    · by_cases hlast : l.readers - 1 = 0
      · exact .inr (.inl ⟨Nat.pos_of_ne_zero hnone, by simp [release, vacate, hnone, hlast]⟩)
      · exact .inr (.inr ⟨rfl, by omega, by simp [release, vacate, hnone, hlast]⟩)
  | write =>
    cases hwriter : l.writer with
    | false => exact .inl ⟨by simp [holders, hwriter], by simp [release, hwriter, LockSide.unheld]⟩
    | true => exact .inr (.inl ⟨by simp [holders, hwriter], by simp [release, hwriter, vacate]⟩)

/-- Giving back a side that is held releases it, and giving back another fails. -/
theorem outcome_giveBack (l : ReadWriteLock) (side : LockSide) :
    (giveBack side).outcome l =
      match l.release side with
      | .ok left => (.ok (), left)
      | .error failure => (.error failure, l) := by
  unfold giveBack
  rw [outcome_bind_ok (outcome_get l)]
  cases hleft : l.release side with
  | error failure => rw [outcome_bind_error (outcome_ofExcept _ l)]
  | ok left =>
    rw [outcome_bind_ok (outcome_ofExcept _ l)]
    rfl

/-- Nobody can give back a side that nobody holds: this fails and leaves the lock as it is. -/
theorem giveBack_of_unheld (h : l.holders side = 0) :
    (giveBack side).outcome l = (.error side.unheld, l) := by
  rw [outcome_giveBack]
  rcases release_cases l side with ⟨-, hleft⟩ | ⟨hheld, -⟩ | ⟨rfl, hmany, -⟩
  · rw [hleft]
  · omega
  · have : l.holders .read = l.readers := rfl
    omega

/-- A side that somebody holds is given back. -/
theorem giveBack_of_held (h : 0 < l.holders side) :
    ∃ left, (giveBack side).outcome l = (.ok (), left) ∧ l.release side = .ok left := by
  rw [outcome_giveBack]
  rcases release_cases l side with ⟨hnone, -⟩ | ⟨-, hleft⟩ | ⟨-, -, hleft⟩
  · omega
  · exact ⟨_, by rw [hleft], hleft⟩
  · exact ⟨_, by rw [hleft], hleft⟩

/-- A side that was given back was released. -/
theorem release_of_giveBack {left : ReadWriteLock}
    (h : (giveBack side).outcome l = (.ok (), left)) : l.release side = .ok left := by
  rw [outcome_giveBack] at h
  cases hleft : l.release side with
  | error failure => simp [hleft] at h
  | ok other => simp_all

/-- Where giving back fails, the lock stays as it is. -/
theorem eq_of_giveBack_error {left : ReadWriteLock} {failure : Failure}
    (h : (giveBack side).outcome l = (.error failure, left)) : left = l := by
  rw [outcome_giveBack] at h
  cases hleft : l.release side with
  | error raised => simp_all
  | ok other => simp [hleft] at h

/-- When one holder leaves a side, this side has one fewer, and the other as many as before. -/
theorem holders_vacate (h : 0 < l.holders side) (other : LockSide) :
    l.holders other = (l.vacate side).holders other + if side = other then 1 else 0 := by
  cases side with
  | read =>
    have hreaders : 0 < l.readers := h
    cases other with
    | read => simp only [holders, vacate, if_pos]; omega
    | write => rfl
  | write =>
    have hwriter : l.writer = true := by
      by_contra hwriter
      simp [holders, hwriter] at h
    cases other <;> simp [holders, vacate, hwriter]

/-- Giving back a side takes one holder from it. -/
theorem holders_of_release (h : l.release side = .ok l') (other : LockSide) :
    l.holders other = l'.holders other + if side = other then 1 else 0 := by
  rcases release_cases l side with ⟨-, hleft⟩ | ⟨hheld, hleft⟩ | ⟨rfl, hmany, hleft⟩
  all_goals
    rw [hleft] at h
    cases h
  · rw [holders_vacate hheld other]
    cases other <;> rfl
  · exact holders_vacate (Nat.zero_lt_of_lt hmany) other

/-- Notifying all waiters blocks as many as before. -/
@[simp] theorem blocked_notifyAll (l : ReadWriteLock) (side : LockSide) :
    l.notifyAll.blocked side = l.blocked side := by
  simp [blocked, notifyAll, List.countP_map, Function.comp_def]

/-- Giving back a side sends nobody away. -/
theorem sides_of_release (h : l.release side = .ok l') :
    l'.waiters.map Waiter.side = l.waiters.map Waiter.side := by
  rcases release_cases l side with ⟨-, hleft⟩ | ⟨-, hleft⟩ | ⟨-, -, hleft⟩
  all_goals
    rw [hleft] at h
    cases h
  · cases side <;> simp [notifyAll, vacate]
  · cases side <;> rfl

/-! ## The lock stays in order -/

namespace Sound

/-- The free lock is sound. -/
theorem free : ReadWriteLock.free.Sound :=
  ⟨fun _ => rfl, rfl, fun _ hwaiter => absurd hwaiter List.not_mem_nil⟩

/-- A lock stays sound when a side is asked for. -/
theorem acquire (h : l.Sound) (side : LockSide) : (l.acquire side).Sound := by
  cases hadmits : l.admits side with
  | true =>
    rw [acquire_of_admits hadmits]
    refine ⟨exclusive_take hadmits, ?_, ?_⟩
    · cases side <;> exact h.counted
    · intro waiter hwaiter hasleep
      have hold : waiter ∈ l.waiters := by cases side <;> exact hwaiter
      exact not_admits_take (h.awake waiter hold hasleep)
  | false =>
    rw [acquire_of_not_admits hadmits]
    refine ⟨?_, ?_, ?_⟩
    · cases side <;> exact h.exclusive
    · have hcounted := h.counted
      cases side <;> simp [enlist, blocked, List.countP_append] at hcounted ⊢ <;> omega
    · intro waiter hwaiter hasleep
      rcases List.mem_append.mp hwaiter with hold | hnew
      · exact not_admits_enlist (h.awake waiter hold hasleep)
      · rw [List.mem_singleton.mp hnew]
        exact not_admits_enlist hadmits

/-- A lock stays sound when a notified waiter resumes. -/
theorem resume (h : l.Sound) (hwaiter : l.waiters[position]? = some ⟨side, true⟩) :
    (l.resume position).Sound := by
  have hperm := perm_eraseIdx hwaiter
  -- the waiter at the position is one of those that are counted, if it is a writer
  have hcounted : l.waitingWriters = (l.waiters.eraseIdx position).countP (·.side = .write) +
      if side = .write then 1 else 0 := by
    rw [h.counted, blocked, ← hperm.countP_eq, List.countP_cons]
    simp
  cases hadmits : l.admits side with
  | true =>
    rw [resume_of_admits hwaiter hadmits]
    refine ⟨?_, ?_, ?_⟩
    · cases side with
      | read => exact exclusive_take hadmits
      | write => exact fun _ => (admits_write_iff.mp hadmits).2
    · cases side <;> simp [discharge, take, blocked] at hcounted ⊢ <;> omega
    · intro waiter hmem hasleep
      exact not_admits_take_discharge (h.awake waiter (List.mem_of_mem_eraseIdx hmem) hasleep)
  | false =>
    rw [resume_of_not_admits hwaiter hadmits]
    refine ⟨h.exclusive, ?_, ?_⟩
    · simp only [blocked, List.countP_append, List.countP_singleton] at hcounted ⊢
      simpa using hcounted
    · intro waiter hmem hasleep
      rcases List.mem_append.mp hmem with hold | hnew
      · exact h.awake waiter (List.mem_of_mem_eraseIdx hold) hasleep
      · rw [List.mem_singleton.mp hnew]
        exact hadmits

/-- All who wait are notified when the last one leaves. If readers remain, they keep writers out,
and the readers who sleep are kept out as before. -/
theorem release (h : l.Sound) (hleft : l.release side = .ok l') : l'.Sound := by
  rcases release_cases l side with ⟨-, hcase⟩ | ⟨hheld, hcase⟩ | ⟨rfl, hmany, hcase⟩
  all_goals
    rw [hcase] at hleft
    cases hleft
  · refine ⟨?_, ?_, ?_⟩
    · intro hwriter
      cases side with
      | read =>
        have hreaders := h.exclusive hwriter
        exact absurd hreaders (Nat.ne_of_gt hheld)
      | write => cases hwriter
    · rw [blocked_notifyAll]
      cases side <;> exact h.counted
    · intro waiter hmem hasleep
      obtain ⟨old, -, hold⟩ := List.mem_map.mp hmem
      rw [← hold] at hasleep
      cases hasleep
  · refine ⟨?_, h.counted, ?_⟩
    · intro hwriter
      have hreaders := h.exclusive hwriter
      omega
    · intro waiter hmem hasleep
      have hbefore := h.awake waiter hmem hasleep
      cases hside : waiter.side with
      | read =>
        rw [hside] at hbefore
        exact hbefore
      | write =>
        have hstill : l.readers - 1 ≠ 0 := by omega
        simp [admits, vacate, hstill]

end Sound

end ReadWriteLock

end ConfigNamespace
