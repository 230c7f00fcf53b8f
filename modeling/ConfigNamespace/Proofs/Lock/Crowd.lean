import ConfigNamespace.Proofs.Lock.Sound
import Mathlib.Data.List.Nodup
import Mathlib.Logic.Relation

/-!
# Threads that share a lock

Any number of threads work on one lock, each step of any of them after any step of any other. A
thread asks for a side, and enters or waits; a thread that waits looks again after it was notified;
a side is given back by whoever likes to. Beside the lock itself stands a log of what was granted
and returned, and whatever the schedule was, the counts of the lock are those of the log.
-/

namespace ConfigNamespace

open Operation ReadWriteLock

/-- How often a side occurs in a list of threads and sides. -/
def tally {T : Type} (side : LockSide) (log : List (T × LockSide)) : Nat :=
  log.countP fun entry => entry.2 = side

section Tally

variable {T : Type} (side : LockSide)

/-- What a longer log counts is what its parts count. -/
@[simp] theorem tally_append (log more : List (T × LockSide)) :
    tally side (log ++ more) = tally side log + tally side more :=
  List.countP_append

/-- A single entry counts for its side. -/
@[simp] theorem tally_singleton (t : T) (other : LockSide) :
    tally side [(t, other)] = if other = side then 1 else 0 := by
  simp [tally, List.countP_cons]

/-- The order of a log does not matter for what it counts. -/
theorem tally_eq_of_perm {side : LockSide} {log log' : List (T × LockSide)} (h : log.Perm log') :
    tally side log = tally side log' :=
  h.countP_eq _

/-- A side is counted at all exactly if some thread is in the log with it. -/
theorem tally_pos_iff {side : LockSide} {log : List (T × LockSide)} :
    0 < tally side log ↔ ∃ t, (t, side) ∈ log := by
  constructor
  · intro h
    obtain ⟨⟨t, other⟩, hmem, hside⟩ := List.countP_pos_iff.mp h
    obtain rfl : other = side := of_decide_eq_true hside
    exact ⟨t, hmem⟩
  · rintro ⟨t, hmem⟩
    exact List.countP_pos_iff.mpr ⟨(t, side), hmem, decide_eq_true rfl⟩

end Tally

/-- Threads that share a lock. -/
structure Crowd (T : Type) where
  /-- The lock. -/
  lock : ReadWriteLock
  /-- The threads that wait, and for which side, in the order of the waiters of the lock. -/
  waiting : List (T × LockSide)
  /-- The sides that were granted, each to a thread. -/
  granted : List (T × LockSide)
  /-- The sides that were given back, each by a thread. -/
  returned : List (T × LockSide)

namespace Crowd

variable {T : Type} {c d e : Crowd T}

/-- Nobody has come yet. -/
def start : Crowd T := ⟨.free, [], [], []⟩

/-- A thread that was notified looks again. -/
inductive Resumes (c : Crowd T) : Crowd T → Prop
  /-- It takes its side. -/
  | enters (position : Nat) (t : T) (side : LockSide)
    (hthread : c.waiting[position]? = some (t, side))
    (hnotified : c.lock.waiters[position]? = some ⟨side, true⟩)
    (hadmits : c.lock.admits side = true) :
    Resumes c { c with
      lock := c.lock.resume position
      waiting := c.waiting.eraseIdx position
      granted := c.granted ++ [(t, side)] }
  /-- It goes on waiting. -/
  | waits (position : Nat) (t : T) (side : LockSide)
    (hthread : c.waiting[position]? = some (t, side))
    (hnotified : c.lock.waiters[position]? = some ⟨side, true⟩)
    (hadmits : c.lock.admits side = false) :
    Resumes c { c with
      lock := c.lock.resume position
      waiting := c.waiting.eraseIdx position ++ [(t, side)] }

/-- One thread makes one step. -/
inductive Step (c : Crowd T) : Crowd T → Prop
  /-- A thread that does not wait asks for a side, and takes it. -/
  | enters (t : T) (side : LockSide) (hidle : t ∉ c.waiting.map Prod.fst)
    (hadmits : c.lock.admits side = true) :
    Step c { c with lock := c.lock.acquire side, granted := c.granted ++ [(t, side)] }
  /-- A thread that does not wait asks for a side, and begins to wait. -/
  | waits (t : T) (side : LockSide) (hidle : t ∉ c.waiting.map Prod.fst)
    (hadmits : c.lock.admits side = false) :
    Step c { c with lock := c.lock.acquire side, waiting := c.waiting ++ [(t, side)] }
  /-- A thread that was notified looks again. -/
  | resumes {d : Crowd T} (h : c.Resumes d) : Step c d
  /-- A thread gives a side back. -/
  | returns (t : T) (side : LockSide) {left : ReadWriteLock}
    (hleft : (giveBack side).outcome c.lock = (.ok (), left)) :
    Step c { c with lock := left, returned := c.returned ++ [(t, side)] }
  /-- A thread fails to give a side back. -/
  | refused (side : LockSide) {failure : Failure} {left : ReadWriteLock}
    (hleft : (giveBack side).outcome c.lock = (.error failure, left)) :
    Step c { c with lock := left }

/-- Whether threads can come to be as they are, from the start and by steps in some order. -/
def Reachable (c : Crowd T) : Prop := Relation.ReflTransGen Step start c

/-- Whether the lock and its log fit each other. -/
structure Sound (c : Crowd T) : Prop where
  /-- The lock is in order. -/
  lock : c.lock.Sound
  /-- The threads that wait are the waiters of the lock. -/
  sides_eq : c.waiting.map Prod.snd = c.lock.waiters.map Waiter.side
  /-- A thread waits once. -/
  nodup : (c.waiting.map Prod.fst).Nodup
  /-- What was granted was returned, or is held. -/
  granted_eq : ∀ side, tally side c.granted = tally side c.returned + c.lock.holders side

/-- Threads and waiters stand in one order when those at one place are taken out. -/
theorem Sound.sides_eraseIdx (h : c.Sound) (position : Nat) :
    (c.waiting.eraseIdx position).map Prod.snd =
      (c.lock.waiters.eraseIdx position).map Waiter.side := by
  rw [← List.eraseIdx_map, ← List.eraseIdx_map, h.sides_eq]

/-- A thread that is not let in waits at the end, on its side. -/
theorem sides_acquire_of_not_admits {l : ReadWriteLock} {side : LockSide}
    (h : l.admits side = false) :
    (l.acquire side).waiters.map Waiter.side = l.waiters.map Waiter.side ++ [side] := by
  simp [acquire_of_not_admits h]

namespace Sound

/-- At the start nobody waits, and the crowd is sound. -/
theorem start : (start : Crowd T).Sound :=
  ⟨.free, rfl, List.nodup_nil, fun side => by cases side <;> rfl⟩

/-- A crowd stays sound when a waiting thread resumes. -/
theorem resumes (h : c.Sound) (hstep : c.Resumes d) : d.Sound := by
  cases hstep with
  | enters position t side hthread hnotified hadmits =>
    have hperm := perm_eraseIdx hthread
    refine ⟨h.lock.resume hnotified, ?_, ?_, ?_⟩
    · rw [resume_of_admits hnotified hadmits]
      exact h.sides_eraseIdx position
    · have hnodup := (hperm.map Prod.fst).nodup_iff.mpr h.nodup
      exact (List.nodup_cons.mp hnodup).2
    · intro other
      have hholders :
          (c.lock.resume position).holders other = (c.lock.take side).holders other := by
        rw [resume_of_admits hnotified hadmits]
        cases side <;> cases other <;> rfl
      have hgranted := h.granted_eq other
      simp only [hholders, holders_take hadmits, tally_append, tally_singleton]
      omega
  | waits position t side hthread hnotified hadmits =>
    have hmoved := perm_eraseIdx_append hthread
    refine ⟨h.lock.resume hnotified, ?_, ?_, ?_⟩
    · rw [resume_of_not_admits hnotified hadmits]
      simp only [List.map_append, h.sides_eraseIdx, List.map_cons, List.map_nil]
    · exact (hmoved.map Prod.fst).nodup_iff.mpr h.nodup
    · intro other
      rw [resume_of_not_admits hnotified hadmits]
      exact h.granted_eq other

/-- No step of any thread takes the lock and its log apart. -/
theorem step (h : c.Sound) (hstep : Step c d) : d.Sound := by
  cases hstep with
  | enters t side hidle hadmits =>
    refine ⟨h.lock.acquire side, ?_, h.nodup, ?_⟩
    · rw [acquire_of_admits hadmits]
      cases side <;> exact h.sides_eq
    · intro other
      have hgranted := h.granted_eq other
      simp only [acquire_of_admits hadmits, holders_take hadmits, tally_append, tally_singleton]
      omega
  | waits t side hidle hadmits =>
    refine ⟨h.lock.acquire side, ?_, ?_, ?_⟩
    · rw [sides_acquire_of_not_admits hadmits, ← h.sides_eq, List.map_append]
      rfl
    · rw [List.map_append]
      exact List.Nodup.append h.nodup (List.nodup_singleton t) (List.disjoint_singleton.mpr hidle)
    · intro other
      rw [acquire_of_not_admits hadmits]
      cases side <;> exact h.granted_eq other
  | resumes hresumes => exact h.resumes hresumes
  | returns t side hleft =>
    have hreleased := release_of_giveBack hleft
    refine ⟨h.lock.release hreleased, ?_, h.nodup, ?_⟩
    · exact h.sides_eq.trans (sides_of_release hreleased).symm
    · intro other
      have hholders := holders_of_release hreleased other
      have hgranted := h.granted_eq other
      simp only [tally_append, tally_singleton]
      omega
  | refused side hleft =>
    rw [eq_of_giveBack_error hleft]
    exact ⟨h.lock, h.sides_eq, h.nodup, h.granted_eq⟩

/-- The writers that the lock counts are the threads that wait for the write side. -/
theorem waitingWriters_eq (h : c.Sound) : c.lock.waitingWriters = tally .write c.waiting := by
  have hsides := congrArg (List.countP fun side => decide (side = .write)) h.sides_eq
  rw [List.countP_map, List.countP_map] at hsides
  exact h.lock.counted.trans hsides.symm

end Sound

/-- Whatever the threads did, the lock and its log fit each other. -/
theorem Reachable.sound (h : c.Reachable) : c.Sound := by
  induction h with
  | refl => exact .start
  | tail _ hstep ih => exact ih.step hstep

/-- What a step leads to from a reachable crowd is reachable. -/
theorem Reachable.step (h : c.Reachable) (hstep : Step c d) : d.Reachable :=
  Relation.ReflTransGen.tail h hstep

/-- A reader has left, while a writer and another reader wait. -/
def handover : Crowd Nat where
  lock := ⟨0, false, 1, [⟨.write, true⟩, ⟨.read, true⟩]⟩
  waiting := [(1, .write), (2, .read)]
  granted := [(0, .read)]
  returned := [(0, .read)]

/-- A crowd can come to this. -/
theorem handover_reachable : handover.Reachable := by
  have hread : Reachable _ := .step .refl (.enters 0 .read (by decide) rfl)
  have hwrite : Reachable _ := hread.step (.waits 1 .write (by decide) rfl)
  have hsecond : Reachable _ := hwrite.step (.waits 2 .read (by decide) rfl)
  exact hsecond.step (.returns 0 .read rfl)

end Crowd

end ConfigNamespace
