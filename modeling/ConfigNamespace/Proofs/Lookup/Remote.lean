import ConfigNamespace.Proofs.Namespace.Find

/-!
# What lookups at servers are made of

A lookup at servers makes requests, loads documents, and writes to the log. What is done next
depends on the results alone, and only one step goes on after a failure: the one that takes a
resource for a container. That step lets a timeout through. Whatever holds of operations that are
made in this way therefore holds of lookups.
-/

namespace ConfigNamespace

open Operation

/-- The failure of a request that is not answered in time. -/
def Request.overdue (r : Request) : Failure := .timeout r.method.name r.url r.timeout.render

namespace World

/-- How a request is answered. -/
def answer (w : World) (r : Request) : PageAnswer :=
  match r.method with
  | .head => (w.page r.url).head
  | .get => (w.page r.url).get

/-- Whether a request is made and not answered in time. -/
def TimesOut (w : World) (r : Request) : Prop :=
  w.timeoutFault? r.timeout = none ∧ w.answer r = .timeout

instance (w : World) : DecidablePred w.TimesOut := fun r =>
  inferInstanceAs (Decidable (w.timeoutFault? r.timeout = none ∧ w.answer r = .timeout))

/-- What becomes of a request. It is not made with a timeout that is of no use. -/
def reply (w : World) (r : Request) : Except Failure Nat :=
  match w.timeoutFault? r.timeout with
  | some reason => .error (.unusableTimeout reason)
  | none =>
    match w.answer r with
    | .status code => .ok code
    | .timeout => .error r.overdue
    | .refused => .error (.unreachable r.url (r.url ++ text " refused"))

/-- A request that is not answered in time fails with this timeout. -/
theorem TimesOut.reply_eq {w : World} {r : Request} (h : w.TimesOut r) :
    w.reply r = .error r.overdue := by
  rw [reply, h.1]
  dsimp only
  rw [h.2]

end World

/-- A request is made once, and what becomes of it is a matter of the world. -/
theorem Backend.outcome_request (w : World) (timeout : Quantity) (method : RequestMethod)
    (url : Text) (s : Session) :
    ((request w timeout method url).outcome s).1 = w.reply ⟨method, url, timeout⟩ ∧
      ((request w timeout method url).outcome s).2.requests =
        s.requests ++ [⟨method, url, timeout⟩] ∧
      ((request w timeout method url).outcome s).2.cache = s.cache := by
  unfold request World.reply World.answer
  rw [outcome_bind_ok (outcome_modify _ s)]
  dsimp only
  cases w.timeoutFault? timeout with
  | some reason => exact ⟨rfl, rfl, rfl⟩
  | none =>
  cases method with
  | head =>
    dsimp only
    cases (w.page url).head <;> exact ⟨rfl, rfl, rfl⟩
  | get =>
    dsimp only
    cases (w.page url).get <;> exact ⟨rfl, rfl, rfl⟩

/-- Operations on a session that look at servers, and go on after no timeout. -/
inductive Backing.Looks (b : Backing) : {α : Type} → Operation Session α → Prop
  /-- Nothing is done. -/
  | pure {α : Type} (a : α) : Looks b (Pure.pure a)
  /-- Nothing is done but failing. -/
  | throw {α : Type} (failure : Failure) :
    Looks b (MonadExcept.throw failure : Operation Session α)
  /-- Records are written, and none are read. -/
  | onLog {α : Type} {op : Operation Log α}
    (h : ∀ log log', (op.outcome log).1 = (op.outcome log').1) : Looks b (Session.onLog op)
  /-- A look at a resource is kept. -/
  | visit (inquiry : Inquiry) (h : ResourceHandle) : Looks b (Session.visit inquiry h)
  /-- A request is made. -/
  | request (method : RequestMethod) (url : Text) :
    Looks b (Backend.request b.world b.environment.timeout method url)
  /-- A document is loaded. -/
  | load (h : ResourceHandle) (delimiter : Text) : Looks b ((b.locator .remote).load h delimiter)
  /-- One thing is done after another. -/
  | bind {α β : Type} {op : Operation Session α} {next : α → Operation Session β}
    (h : Looks b op) (hnext : ∀ a, Looks b (next a)) : Looks b (op >>= next)
  /-- One thing is done after another, whatever the outcome of the first one was, unless it was a
  timeout. -/
  | attempt {α β : Type} {op : Operation Session α} {next : Except Failure α → Operation Session β}
    (h : Looks b op) (hnext : ∀ result, Looks b (next result))
    (htimeout : ∀ failure, failure.kind = .resolutionTimeout →
      next (.error failure) = MonadExcept.throw failure) :
    Looks b (op.attempt >>= next)

namespace Backing.Looks

variable {b : Backing} {α : Type}

/-- Giving a result is such an operation. -/
theorem ofExcept (result : Except Failure α) :
    b.Looks (Operation.ofExcept result : Operation Session α) := by
  cases result with
  | error failure => exact .throw failure
  | ok a => exact .pure a

/-- What follows a success is done. -/
theorem ofExcept_bind {β : Type} {result : Except Failure α} {a : α}
    {next : α → Operation Session β} (h : result = .ok a) (hnext : b.Looks (next a)) :
    b.Looks (Operation.ofExcept result >>= next) := by
  subst h
  exact hnext

/-- Writing a record is such an operation. -/
theorem note (level : LogLevel) (source : LogSource) (message : Text) :
    b.Looks (Session.note level source message) := .onLog fun _ _ => rfl

/-- A choice of such operations is one. -/
theorem ite {c : Prop} [Decidable c] {op op' : Operation Session α} (h : b.Looks op)
    (h' : b.Looks op') : b.Looks (if c then op else op') := by
  by_cases hc : c
  · rw [if_pos hc]
    exact h
  · rw [if_neg hc]
    exact h'

/-! ## Locators -/

/-- Asking whether a page is there makes requests, keeps a look and writes a record. -/
theorem isPresent (h : ResourceHandle) : b.Looks ((b.locator .remote).isPresent h) := by
  refine .bind (.visit _ _) fun _ => .bind (.request _ _) fun asked => ?_
  refine .ite ?_ ?_
  · exact .bind (.request _ _) fun code => .bind (.note _ _ _) fun _ => .pure _
  · exact .bind (.pure _) fun code => .bind (.note _ _ _) fun _ => .pure _

/-- Trying extensions asks for one page after another. -/
theorem firstDocument (base name : Text) (extensions : List Text) :
    b.Looks ((b.locator .remote).firstDocument base name extensions) := by
  induction extensions with
  | nil => exact .pure _
  | cons extension extensions ih =>
    refine .bind (.ofExcept _) fun h => .bind (isPresent h) fun present => ?_
    exact .ite (.pure _) ih

/-- A timeout does not make a container. -/
theorem seemsContainer (h : ResourceHandle) (delimiter : Text) :
    b.Looks ((b.locator .remote).seemsContainer h delimiter) := by
  refine .attempt (.load h delimiter) ?_ ?_
  · intro result
    cases result with
    | ok d =>
      refine .ite ?_ (.ite ?_ (.pure _))
      · exact .bind (.note _ _ _) fun _ => .pure _
      · exact .bind (.note _ _ _) fun _ => .pure _
    | error failure => exact .ite (.bind (.note _ _ _) fun _ => .pure _) (.throw _)
  · intro failure htimeout
    exact if_neg (by simp [htimeout])

/-- A segment is classified by its documents. -/
theorem classified (bare : ResourceHandle) (base segment : Text) (container : Bool) :
    b.Looks ((b.locator .remote).classified bare base segment container) := by
  refine .ite (.pure _) (.bind (firstDocument _ _ _) fun found => ?_)
  cases found with
  | none => exact .pure _
  | some h => exact .pure _

/-- A probe asks for the bare page and takes it for a container or not. -/
theorem probe (base segment delimiter : Text) :
    b.Looks ((b.locator .remote).probe base segment delimiter) := by
  refine .ite (.bind (.note _ _ _) fun _ => .pure _) ?_
  refine .bind (.ofExcept _) fun bare => .bind (isPresent bare) fun present => .ite ?_ ?_
  · have hcontainer : b.Looks ((b.locator .remote).isContainer bare delimiter) :=
      .bind (.visit _ _) fun _ => seemsContainer bare delimiter
    exact .bind hcontainer (classified bare base segment)
  · exact .bind (.pure _) (classified bare base segment)

/-- Falling back asks for the default documents. -/
theorem fallBack (path : Text) (remainder : List Text) :
    b.Looks ((b.locator .remote).fallBack path remainder) := by
  refine .bind (firstDocument _ _ _) fun found => ?_
  cases found with
  | none => exact .pure _
  | some h => exact .bind (.note _ _ _) fun _ => .pure _

/-- A walk makes one probe after another. -/
theorem walk (delimiter path : Text) (segments : List Text) :
    b.Looks ((b.locator .remote).walk delimiter path segments) := by
  induction segments generalizing path with
  | nil => exact fallBack _ _
  | cons segment segments ih =>
    refine .bind (probe _ _ _) fun found => ?_
    split
    · exact ih _
    · exact .bind (.note _ _ _) fun _ => .pure _
    · exact fallBack _ _

/-! ## Lookups -/

/-- Naming what a document holds makes no request. -/
theorem named (f : Family) (d : Document) (key delimiter : Text) (segments rest : List Text) :
    b.Looks (f.named d key delimiter segments rest) := by
  refine .ite (.bind (.onLog ?_) fun _ => .pure _) (.ite (.pure _) ?_)
  · intro log log'
    rw [CompositeBuilder.outcome_build, CompositeBuilder.outcome_build]
  · exact .bind (.ofExcept _) fun _ => .pure _

section Seek

variable {f : Family} {w : World} {v : View} {base : Text}
  (hroot : readRoot (f.rootOf v) = .ok (.remote, base))
include hroot

/-- Finding what segments name is walking and loading a document. -/
theorem find (key : Text) (segments : List Text) :
    (f.backing w).Looks (f.find w v key segments) := by
  refine .ite (.bind (.throw _) fun _ => ?_) ?_
  all_goals
    refine .ofExcept_bind hroot (.bind (walk _ _ _) fun found => ?_)
    obtain ⟨_ | handle, rest⟩ := found
    · exact .throw _
    · exact .bind (.load _ _) fun d => named f d key _ segments rest

/-- What a key names is looked for at servers if the root of the namespace is beneath one. -/
theorem seek (key : Value) : (f.backing w).Looks (f.seek w v key) := by
  refine .ite (.bind (.note _ _ _) fun _ => .throw _) ?_
  split
  · exact .bind (.ofExcept _) fun _ => .pure _
  · split
    · exact .bind (.note _ _ _) fun _ => .pure _
    · refine .ite (.pure _) (.ite (.pure _) ?_)
      exact .bind (.ofExcept _) fun segments => find hroot _ _
  · exact .throw _

end Seek

end Backing.Looks

end ConfigNamespace
