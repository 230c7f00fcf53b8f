import ConfigNamespace.Proofs.Lock.Crowd

/-!
# The lock passes on

A thread that sleeps is kept out by somebody who will notify it. Threads that were notified look
again, each at its time, and the lock does not stay free in the end: one of the waiting writers has
it if there was any, and otherwise all readers have it that waited.
-/

namespace ConfigNamespace.Crowd

open Operation ReadWriteLock

variable {T : Type} {c d e : Crowd T} {t : T} {side : LockSide} {position : Nat}

/-- Whether a thread waits for a side and was not notified since it began to. -/
def Sleeps (c : Crowd T) (t : T) (side : LockSide) : Prop :=
  ∃ position : Nat, c.waiting[position]? = some (t, side) ∧
    c.lock.waiters[position]? = some ⟨side, false⟩

/-- Whether no thread has still to look again. -/
def Settled (c : Crowd T) : Prop := ∀ waiter ∈ c.lock.waiters, waiter.notified = false

/-- How many threads have still to look again. -/
def pending (c : Crowd T) : Nat := c.lock.waiters.countP Waiter.notified

/-- Where no notification is pending, all is settled. -/
theorem settled_of_pending (h : c.pending = 0) : c.Settled := by
  intro waiter hmem
  have hnone := List.countP_eq_zero.mp h waiter hmem
  exact Bool.eq_false_iff.mpr hnone

/-! ## Threads and waiters -/

/-- A thread that waits has its waiter at the same place. -/
theorem Sound.waiter_at (h : c.Sound) (hthread : c.waiting[position]? = some (t, side)) :
    ∃ notified, c.lock.waiters[position]? = some ⟨side, notified⟩ := by
  have hside := congrArg (fun sides => sides[position]?) h.sides_eq
  simp only [List.getElem?_map, hthread, Option.map_some] at hside
  obtain ⟨⟨other, notified⟩, hwaiter, heq⟩ := Option.map_eq_some_iff.mp hside.symm
  obtain rfl : other = side := heq
  exact ⟨notified, hwaiter⟩

/-- A waiter has its thread at the same place. -/
theorem Sound.thread_at (h : c.Sound) {waiter : Waiter}
    (hwaiter : c.lock.waiters[position]? = some waiter) :
    ∃ t, c.waiting[position]? = some (t, waiter.side) := by
  have hside := congrArg (fun sides => sides[position]?) h.sides_eq
  simp only [List.getElem?_map, hwaiter, Option.map_some] at hside
  obtain ⟨⟨t, other⟩, hthread, rfl⟩ := Option.map_eq_some_iff.mp hside
  exact ⟨t, hthread⟩

/-- Where all is settled, who waits sleeps. -/
theorem Sound.sleeps_of_settled (h : c.Sound) (hsettled : c.Settled)
    (hwaits : (t, side) ∈ c.waiting) : c.Sleeps t side := by
  obtain ⟨position, hthread⟩ := List.mem_iff_getElem?.mp hwaits
  obtain ⟨notified, hwaiter⟩ := h.waiter_at hthread
  obtain rfl : notified = false := hsettled _ (List.mem_of_getElem? hwaiter)
  exact ⟨position, hthread, hwaiter⟩

/-- A thread that sleeps could not enter. -/
theorem Sound.not_admits_of_sleeps (h : c.Sound) (hsleeps : c.Sleeps t side) :
    c.lock.admits side = false := by
  obtain ⟨position, -, hwaiter⟩ := hsleeps
  exact h.lock.awake ⟨side, false⟩ (List.mem_of_getElem? hwaiter) rfl

/-- The lock is held while a writer sleeps. -/
theorem Sound.isHeld_of_sleeps_write (h : c.Sound) (hsleeps : c.Sleeps t .write) : c.lock.IsHeld :=
  isHeld_of_not_admits_write (h.not_admits_of_sleeps hsleeps)

/-- A writer holds the lock or waits for it while a reader sleeps. -/
theorem Sound.writer_of_sleeps_read (h : c.Sound) (hsleeps : c.Sleeps t .read) :
    c.lock.writer = true ∨ ∃ u, (u, .write) ∈ c.waiting := by
  have hkept := writer_of_not_admits_read (h.not_admits_of_sleeps hsleeps)
  rwa [h.waitingWriters_eq, tally_pos_iff] at hkept

/-- Whoever sleeps for a side does so while the lock is held, if nobody has still to look again: a
reader that is kept out by a waiting writer has the reason of that writer. -/
theorem Sound.isHeld_of_settled (h : c.Sound) (hsettled : c.Settled)
    (hwaits : (t, side) ∈ c.waiting) : c.lock.IsHeld := by
  have hsleeps := h.sleeps_of_settled hsettled hwaits
  cases side with
  | write => exact h.isHeld_of_sleeps_write hsleeps
  | read =>
    rcases h.writer_of_sleeps_read hsleeps with hwriter | ⟨u, hwriter⟩
    · exact .inl hwriter
    · exact h.isHeld_of_sleeps_write (h.sleeps_of_settled hsettled hwriter)

/-! ## Looking again comes to an end -/

/-- Every thread that looks again is one less that has to. -/
theorem Resumes.pending_eq (h : c.Resumes d) : c.pending = d.pending + 1 := by
  have hcount {side : LockSide} {position : Nat}
      (hnotified : c.lock.waiters[position]? = some ⟨side, true⟩) :
      c.pending = (c.lock.waiters.eraseIdx position).countP Waiter.notified + 1 := by
    rw [pending, ← (perm_eraseIdx hnotified).countP_eq, List.countP_cons]
    rfl
  cases h with
  | enters position t side hthread hnotified hadmits =>
    rw [hcount hnotified, pending, resume_of_admits hnotified hadmits]
  | waits position t side hthread hnotified hadmits =>
    rw [hcount hnotified, pending, resume_of_not_admits hnotified hadmits]
    simp

/-- Threads cannot resume without end. -/
theorem not_endless (run : Nat → Crowd T) : ¬ ∀ n, (run n).Resumes (run (n + 1)) := by
  intro hrun
  have hpending (n : Nat) : (run n).pending + n = (run 0).pending := by
    induction n with
    | zero => rfl
    | succ n ih =>
      have hstep := (hrun n).pending_eq
      omega
  have hlast := hpending ((run 0).pending + 1)
  omega

/-- A thread that was notified can look again. -/
theorem Sound.exists_resumes (h : c.Sound)
    (hnotified : c.lock.waiters[position]? = some ⟨side, true⟩) :
    ∃ d, c.Resumes d ∧ d.lock = c.lock.resume position := by
  obtain ⟨t, hthread⟩ := h.thread_at hnotified
  cases hadmits : c.lock.admits side with
  | true => exact ⟨_, .enters position t side hthread hnotified hadmits, rfl⟩
  | false => exact ⟨_, .waits position t side hthread hnotified hadmits, rfl⟩

/-- Where all is not settled, some thread can resume. -/
theorem Sound.exists_resumes_of_not_settled (h : c.Sound) (hsettled : ¬c.Settled) :
    ∃ d, c.Resumes d := by
  simp only [Settled, not_forall, Bool.not_eq_false] at hsettled
  obtain ⟨⟨side, notified⟩, hmem, rfl⟩ := hsettled
  obtain ⟨position, hnotified⟩ := List.mem_iff_getElem?.mp hmem
  obtain ⟨d, hresumes, -⟩ := h.exists_resumes hnotified
  exact ⟨d, hresumes⟩

/-- With fuel for the pending notifications, threads resume until all is settled, and the lock is as
settling leaves it. -/
theorem Sound.settleWithin (h : c.Sound) {fuel : Nat} (hfuel : c.pending ≤ fuel) :
    ∃ e, Relation.ReflTransGen Resumes c e ∧ e.Settled ∧ e.lock = c.lock.settleWithin fuel := by
  induction fuel generalizing c with
  | zero => exact ⟨c, .refl, settled_of_pending (Nat.le_zero.mp hfuel), rfl⟩
  | succ fuel ih =>
    cases hfirst : c.lock.waiters.findIdx? Waiter.notified with
    | none =>
      refine ⟨c, .refl, List.findIdx?_eq_none_iff.mp hfirst, ?_⟩
      simp [ReadWriteLock.settleWithin, hfirst]
    | some position =>
      obtain ⟨hposition, hnotified, -⟩ := List.findIdx?_eq_some_iff_getElem.mp hfirst
      have hwaiter : c.lock.waiters[position]? = some ⟨c.lock.waiters[position].side, true⟩ := by
        rw [List.getElem?_eq_getElem hposition, ← hnotified]
      obtain ⟨d, hresumes, hlock⟩ := h.exists_resumes hwaiter
      -- one thread less has to look again, so the fuel lasts
      have hless := hresumes.pending_eq
      obtain ⟨e, hrun, hsettled, hend⟩ := ih (h.resumes hresumes) (by omega)
      refine ⟨e, hrun.head hresumes, hsettled, ?_⟩
      rw [hend, hlock]
      simp [ReadWriteLock.settleWithin, hfirst]

/-- Threads that look again one after another, the first of them each time, leave the settled lock.
-/
theorem Sound.settle (h : c.Sound) :
    ∃ e, Relation.ReflTransGen Resumes c e ∧ e.Settled ∧ e.lock = c.lock.settle :=
  h.settleWithin List.countP_le_length

/-- A crowd stays sound however many waiting threads resume. -/
theorem Sound.resumes_run (h : c.Sound) (hrun : Relation.ReflTransGen Resumes c e) : e.Sound := by
  induction hrun with
  | refl => exact h
  | tail _ hstep ih => exact ih.resumes hstep

/-! ## Who gets the lock -/

/-- How far a free lock has come on its way to a writer, since the threads were as in `c`. -/
inductive ToWriter (c e : Crowd T) : Prop
  /-- It is still free, and the same threads wait. -/
  | free (hheld : ¬e.lock.IsHeld) (hgranted : e.granted = c.granted)
    (hwaits : c.waiting.Perm e.waiting)
  /-- One writer that waited has it, and waits no longer. -/
  | passed (t : T) (hwriter : e.lock.writer = true)
    (hgranted : e.granted = c.granted ++ [(t, .write)])
    (hwaits : c.waiting.Perm ((t, .write) :: e.waiting))

/-- No reader is let in while a writer waits, and no second writer after the first. -/
theorem ToWriter.resumes (h : ToWriter c d) (hsound : d.Sound)
    (hwriter : ∃ u, (u, LockSide.write) ∈ c.waiting) (hstep : d.Resumes e) : ToWriter c e := by
  cases hstep with
  | enters position t side hthread hnotified hadmits =>
    have hperm := perm_eraseIdx hthread
    cases h with
    | passed u htaken hgranted hwaits =>
      rw [writer_of_admits hadmits] at htaken
      cases htaken
    | free hheld hgranted hwaits =>
      cases side with
      | read =>
        -- the writer that waited in `c` waits still, and keeps readers out
        obtain ⟨u, hu⟩ := hwriter
        have hcounted := tally_pos_iff.mpr ⟨u, hwaits.mem_iff.mp hu⟩
        rw [← hsound.waitingWriters_eq, (admits_read_iff.mp hadmits).2] at hcounted
        cases hcounted
      | write =>
        refine .passed t ?_ (by rw [hgranted]) (hwaits.trans hperm.symm)
        rw [resume_of_admits hnotified hadmits]
        rfl
  | waits position t side hthread hnotified hadmits =>
    have hmoved := (perm_eraseIdx_append hthread).symm
    have hlock := resume_of_not_admits hnotified hadmits
    cases h with
    | free hheld hgranted hwaits =>
      refine .free ?_ hgranted (hwaits.trans hmoved)
      rw [hlock]
      exact hheld
    | passed u htaken hgranted hwaits =>
      refine .passed u ?_ hgranted (hwaits.trans (hmoved.cons _))
      rw [hlock]
      exact htaken

/-- Where a writer waits for a free lock, it is on its way to one, however many threads resume. -/
theorem Sound.toWriter (h : c.Sound) (hfree : ¬c.lock.IsHeld)
    (hwriter : ∃ u, (u, LockSide.write) ∈ c.waiting) (hrun : Relation.ReflTransGen Resumes c e) :
    ToWriter c e := by
  induction hrun with
  | refl => exact .free hfree rfl (.refl _)
  | tail hrun hstep ih => exact ih.resumes (h.resumes_run hrun) hwriter hstep

/-- How far a free lock has come on its way to the readers, since the threads were as in `c`: those
that entered have it, and the others wait as before. -/
structure ToReaders (c e : Crowd T) (entered : List (T × LockSide)) : Prop where
  /-- No writer has got it. -/
  writer : e.lock.writer = false
  /-- The readers that entered hold it. -/
  readers : e.lock.readers = entered.length
  /-- It was granted to them. -/
  granted : e.granted = c.granted ++ entered
  /-- Who has not entered waits. -/
  waits : (entered ++ e.waiting).Perm c.waiting

/-- Where only readers wait, a lock on its way to them stays so when one more thread resumes. -/
theorem ToReaders.resumes {entered : List (T × LockSide)} (h : ToReaders c d entered)
    (hreads : ∀ u, (u, LockSide.write) ∉ c.waiting) (hstep : d.Resumes e) :
    ∃ entered', ToReaders c e entered' := by
  cases hstep with
  | enters position t side hthread hnotified hadmits =>
    have hmoved : (entered ++ [(t, side)] ++ d.waiting.eraseIdx position).Perm c.waiting := by
      rw [List.append_assoc]
      exact ((perm_eraseIdx hthread).append_left entered).trans h.waits
    obtain rfl : side = .read := by
      cases side with
      | read => rfl
      | write =>
        have hmem := List.mem_append_right entered (List.mem_of_getElem? hthread)
        exact absurd (h.waits.mem_iff.mp hmem) (hreads t)
    refine ⟨entered ++ [(t, .read)], ?_, ?_, ?_, hmoved⟩
    · rw [resume_of_admits hnotified hadmits]
      exact h.writer
    · rw [resume_of_admits hnotified hadmits, List.length_append]
      exact congrArg (· + 1) h.readers
    · rw [h.granted, List.append_assoc]
  | waits position t side hthread hnotified hadmits =>
    have hlock := resume_of_not_admits hnotified hadmits
    have hmoved := perm_eraseIdx_append hthread
    refine ⟨entered, ?_, ?_, h.granted, (hmoved.append_left entered).trans h.waits⟩
    · rw [hlock]
      exact h.writer
    · rw [hlock]
      exact h.readers

/-- Where only readers wait for a free lock, it is on its way to them, however many threads
resume. -/
theorem toReaders (hfree : ¬c.lock.IsHeld) (hreads : ∀ u, (u, LockSide.write) ∉ c.waiting)
    (hrun : Relation.ReflTransGen Resumes c e) : ∃ entered, ToReaders c e entered := by
  simp only [IsHeld, not_or, Bool.not_eq_true, Nat.not_lt, Nat.le_zero] at hfree
  induction hrun with
  | refl => exact ⟨[], hfree.1, hfree.2, by simp, by simp⟩
  | tail _ hstep ih =>
    obtain ⟨entered, hentered⟩ := ih
    exact hentered.resumes hreads hstep

/-- Nobody sleeps on the lock forever. A writer sleeps only while the lock is held, and a reader
only while a writer holds the lock or waits for it. Threads that were notified can look again until
all have settled, in any order, and not endlessly; the lock that is settled is one that they may
leave. Then threads wait only while the lock is held, and readers only while a writer holds it or
waits. If nobody held the lock before, it has passed on by then: to one of the writers that waited
if there was any, and nobody else stopped waiting; otherwise to all readers that waited. -/
theorem passes_on (h : c.Reachable) :
    (∀ t, c.Sleeps t .write → c.lock.IsHeld) ∧
    (∀ t, c.Sleeps t .read → c.lock.writer = true ∨ ∃ u, (u, .write) ∈ c.waiting) ∧
    (c.Settled →
      (∀ t side, (t, side) ∈ c.waiting → c.lock.IsHeld) ∧
      ∀ t, (t, .read) ∈ c.waiting → c.lock.writer = true ∨ ∃ u, (u, .write) ∈ c.waiting) ∧
    (¬c.Settled → ∃ d, c.Resumes d) ∧
    (¬∃ run : Nat → Crowd T, run 0 = c ∧ ∀ n, (run n).Resumes (run (n + 1))) ∧
    (∃ e, Relation.ReflTransGen Resumes c e ∧ e.Settled ∧ e.lock = c.lock.settle) ∧
    (¬c.lock.IsHeld → ∀ e, Relation.ReflTransGen Resumes c e → e.Settled →
      ((∃ u, (u, .write) ∈ c.waiting) → ∃ t,
        e.lock.writer = true ∧ e.lock.readers = 0 ∧ e.granted = c.granted ++ [(t, .write)] ∧
        c.waiting.Perm ((t, .write) :: e.waiting)) ∧
      ((∀ u, (u, .write) ∉ c.waiting) → ∃ entered,
        e.lock.writer = false ∧ e.lock.readers = c.waiting.length ∧
        e.granted = c.granted ++ entered ∧ entered.Perm c.waiting ∧ e.waiting = [])) := by
  have hsound := h.sound
  refine ⟨?_, ?_, ?_, hsound.exists_resumes_of_not_settled, ?_, hsound.settle, ?_⟩
  · intro t hsleeps
    exact hsound.isHeld_of_sleeps_write hsleeps
  · intro t hsleeps
    exact hsound.writer_of_sleeps_read hsleeps
  · intro hsettled
    constructor
    · intro t side hwaits
      exact hsound.isHeld_of_settled hsettled hwaits
    · intro t hwaits
      exact hsound.writer_of_sleeps_read (hsound.sleeps_of_settled hsettled hwaits)
  · rintro ⟨run, -, hrun⟩
    exact not_endless run hrun
  · intro hfree e hrun hsettled
    have hend := hsound.resumes_run hrun
    constructor
    · intro hwriter
      cases hsound.toWriter hfree hwriter hrun with
      | free hheld hgranted hwaits =>
        obtain ⟨u, hu⟩ := hwriter
        exact absurd (hend.isHeld_of_settled hsettled (hwaits.mem_iff.mp hu)) hheld
      | passed t hwrites hgranted hwaits =>
        exact ⟨t, hwrites, hend.lock.exclusive hwrites, hgranted, hwaits⟩
    · intro hreads
      obtain ⟨entered, hentered⟩ := toReaders hfree hreads hrun
      have hnobody : e.waiting = [] := by
        rw [List.eq_nil_iff_forall_not_mem]
        rintro ⟨t, side⟩ hwaits
        have hwaited := hentered.waits.mem_iff.mp (List.mem_append_right entered hwaits)
        cases side with
        | write => exact hreads t hwaited
        | read =>
          have hsleeps := hend.sleeps_of_settled hsettled hwaits
          rcases hend.writer_of_sleeps_read hsleeps with hwrites | ⟨u, hu⟩
          · rw [hentered.writer] at hwrites
            cases hwrites
          · exact hreads u (hentered.waits.mem_iff.mp (List.mem_append_right entered hu))
      have hall : entered.Perm c.waiting := by simpa [hnobody] using hentered.waits
      have hcount : e.lock.readers = c.waiting.length := hentered.readers.trans hall.length_eq
      exact ⟨entered, hentered.writer, hcount, hentered.granted, hall, hnobody⟩

/-- After a reader has left, while a writer and a reader wait: even if the reader looks first, the
writer gets the lock, and the reader sleeps. -/
theorem passes_on_handover :
    let e : Crowd Nat := ⟨⟨0, true, 0, [⟨.read, false⟩]⟩, [(2, .read)], [(0, .read), (1, .write)],
      [(0, .read)]⟩
    Relation.ReflTransGen Resumes handover e ∧ e.Settled ∧
      (∃ t, e.lock.writer = true ∧ e.lock.readers = 0 ∧
        e.granted = handover.granted ++ [(t, .write)] ∧
        handover.waiting.Perm ((t, .write) :: e.waiting)) ∧
      ∃ d, handover.Resumes d := by
  intro e
  have hreader : handover.Resumes ⟨⟨0, false, 1, [⟨.write, true⟩, ⟨.read, false⟩]⟩,
      [(1, .write), (2, .read)], [(0, .read)], [(0, .read)]⟩ := .waits 1 2 .read rfl rfl rfl
  have hrun : Relation.ReflTransGen Resumes handover e :=
    Relation.ReflTransGen.tail (.single hreader) (.enters 0 1 .write rfl rfl rfl)
  have hsettled : e.Settled := by simp [e, Settled]
  have hfree : ¬handover.lock.IsHeld := by simp [handover, IsHeld]
  have hpending : ¬handover.Settled := by simp [handover, Settled]
  obtain ⟨-, -, -, hgoes, -, -, hpasses⟩ := passes_on handover_reachable
  exact ⟨hrun, hsettled, (hpasses hfree e hrun hsettled).1 ⟨1, by decide⟩, hgoes hpending⟩

end ConfigNamespace.Crowd
