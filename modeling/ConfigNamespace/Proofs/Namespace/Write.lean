import ConfigNamespace.Proofs.Namespace.Change

/-!
# What a write does

A write is judged before anything is changed. If there is a reason to refuse it, it leaves a record at
most. Otherwise it makes the change that it asks for, writes a record of it, and tells the hooks; only
a key that is not there may be taken away without any change. So what writes do to a family is known
from what the changes do that can be asked for.
-/

namespace ConfigNamespace

open Operation

namespace Write

/-- What a write gives as keys. -/
def keys : Write → List Value
  | bind key _ => [key]
  | rebind key _ => [key]
  | unbind key => [key]
  | rename old new => [old, new]
  | close => []

/-- The name of a write. -/
def action : Write → String
  | bind _ _ => "bind"
  | rebind _ _ => "rebind"
  | unbind _ => "unbind"
  | rename _ _ => "rename"
  | close => "close"

/-- Whether a write asks for a change that can be asked for: its keys are texts that are not empty,
a value is accepted under its key, and no setting is moved. -/
inductive AsksFor (views : Nat → Text) : Write → Change → Prop
  /-- A value is put under a new key. -/
  | bind {key : Text} {value : Value} (hkey : key ≠ []) (haccepts : Family.Accepts views key value) :
    AsksFor views (.bind (.str key) value) (.bind key value)
  /-- A value is put under a key. -/
  | rebind {key : Text} {value : Value} (hkey : key ≠ [])
      (haccepts : Family.Accepts views key value) :
    AsksFor views (.rebind (.str key) value) (.rebind key value)
  /-- A key is taken away. -/
  | unbind {key : Text} (hkey : key ≠ []) : AsksFor views (.unbind (.str key)) (.unbind key)
  /-- A value is moved from one key to another. -/
  | rename {old new : Text} (hold : old ≠ []) (hnew : new ≠ []) (hold' : old ∉ reservedKeys)
      (hnew' : new ∉ reservedKeys) : AsksFor views (.rename (.str old) (.str new)) (.rename old new)

end Write

namespace Family

/-- Why a write is refused. -/
inductive Refusal (f : Family) (number : Nat) : Write → Failure → Prop
  /-- The namespace is closed. -/
  | closed {request : Write} (hrequest : request ≠ .close)
      (hclosed : (f.view number).closed = true) : Refusal f number request .closed
  /-- A key is empty, or no text. -/
  | emptyName {request : Write} {key : Value} (hkey : key ∈ request.keys)
      (hempty : ∀ name, key = .str name → name = []) :
    Refusal f number request (.emptyName request.action)
  /-- A key that is to be bound is bound already. -/
  | boundAlready {key : Text} {value : Value} (hbound : isBound (f.view number) key = true) :
    Refusal f number (.bind (.str key) value) (.boundAlready key)
  /-- A value is not accepted under the reserved key that is to be bound. -/
  | bindRejected {key : Text} {value : Value} {failure : Failure} (hreserved : key ∈ reservedKeys)
      (hrejected : checkReserved f.spelledView key value = .error failure) :
    Refusal f number (.bind (.str key) value) failure
  /-- A value is not accepted under the reserved key that is to be bound again. -/
  | rebindRejected {key : Text} {value : Value} {failure : Failure} (hreserved : key ∈ reservedKeys)
      (hrejected : checkReserved f.spelledView key value = .error failure) :
    Refusal f number (.rebind (.str key) value) failure
  /-- A setting is to be moved, or a value to a reserved key. -/
  | reservedRename {old new : Text} (hreserved : old ∈ reservedKeys ∨ new ∈ reservedKeys) :
    Refusal f number (.rename (.str old) (.str new)) (.reservedRename old new)
  /-- The new key is bound already. -/
  | newKeyBound {old new : Text} (hbound : (f.view number).entries.has new = true) :
    Refusal f number (.rename (.str old) (.str new)) (.newKeyBound new)
  /-- The old key is not bound. -/
  | notBound {old new : Text} (hunbound : (f.view number).entries.has old = false) :
    Refusal f number (.rename (.str old) (.str new)) (.notBound old)

/-- The family after a change of one of its namespaces, with a log. -/
def changed (f : Family) (number : Nat) (change : Change) (log : Log) : Family :=
  (f.withLog log).withView number
    ((f.view number).withContents ((f.view number).contents.replay change))

/-- A changed namespace has its contents changed. -/
theorem view_changed {f : Family} {number : Nat} (h : number < f.views.length) (change : Change)
    (log : Log) : (f.changed number change log).view number =
      (f.view number).withContents ((f.view number).contents.replay change) :=
  view_withView_self (f := f.withLog log) h _

/-- A change leaves the number of namespaces. -/
@[simp] theorem length_views_changed (f : Family) (number : Nat) (change : Change) (log : Log) :
    (f.changed number change log).views.length = f.views.length :=
  length_views_withView (f.withLog log) number _

/-- What becomes of a write, where hooks are told of changes in a given way: the reply, and the family
after it. -/
inductive Carried (tell : Change → Operation Family Unit) (number : Nat) (f : Family) :
    Write → Except Failure Unit × Family → Prop
  /-- It is refused. -/
  | refused {request : Write} {failure : Failure} (h : Refusal f number request failure) (log : Log) :
    Carried tell number f request (.error failure, f.withLog log)
  /-- There is nothing to take away. -/
  | idle {key : Text} (hkey : key ≠ []) (hopen : (f.view number).closed = false)
      (hentries : (f.view number).entries.has key = false)
      (hoverrides : (f.view number).overrides.has key = false) :
    Carried tell number f (.unbind (.str key)) (.ok (), f)
  /-- An open namespace is changed as it was asked for, and its hooks are told. -/
  | changed {request : Write} {change : Change} (hasks : request.AsksFor f.spelledView change)
      (hopen : (f.view number).closed = false) (hadmits : (f.view number).contents.Admits change)
      (log : Log) :
    Carried tell number f request ((tell change).outcome (f.changed number change log))
  /-- The namespace is closed. -/
  | closed : Carried tell number f .close ((close number).outcome f)

/-- What may be written under a name, and what is refused. -/
theorem checkName_cases (key : Value) (action : String) :
    (∃ name, key = .str name ∧ name ≠ [] ∧ checkName key action = .ok name) ∨
      (∀ name, key = .str name → name = []) ∧ checkName key action = .error (.emptyName action) := by
  cases key with
  | str name =>
    cases name with
    | nil => exact .inr ⟨fun name h => by cases h; rfl, rfl⟩
    | cons c name => exact .inl ⟨c :: name, rfl, List.cons_ne_nil _ _, rfl⟩
  | _ => exact .inr ⟨nofun, rfl⟩

section Carried

variable {tell : Change → Operation Family Unit} {number : Nat} {f : Family} {request : Write}

/-- A write that begins by refusing a closed namespace goes on with an open one. -/
private theorem carried_of_open {next : Unit → Operation Family Unit} (hrequest : request ≠ .close)
    (h : (f.view number).closed = false → Carried tell number f request ((next ()).outcome f)) :
    Carried tell number f request
      ((refuseClosed number request.action >>= next).outcome f) := by
  rcases outcome_refuseClosed number request.action f with
    ⟨hclosed, log, hrefused⟩ | ⟨hopen, hpassed⟩
  · rw [outcome_bind_error hrefused]
    exact .refused (.closed hrequest hclosed) log
  · rw [outcome_bind_ok hpassed]
    exact h hopen

/-- A write that goes on with the name that a key is goes on if it is one. -/
private theorem carried_of_name {key : Value} {next : Text → Operation Family Unit}
    (hkey : key ∈ request.keys)
    (h : ∀ name, key = .str name → name ≠ [] →
      Carried tell number f request ((next name).outcome f)) :
    Carried tell number f request
      ((ofExcept (checkName key request.action) >>= next).outcome f) := by
  rcases checkName_cases key request.action with ⟨name, heq, hne, hcheck⟩ | ⟨hempty, hcheck⟩
  · rw [hcheck]
    exact h name heq hne
  · rw [hcheck]
    exact .refused (.emptyName hkey hempty) f.session.log

/-- Putting a value under a key, with a record of it, is a change that puts it there, unless the value
is refused. -/
private theorem carried_put {what : String} {key : Text} {value : Value} {change : Change}
    (hopen : (f.view number).closed = false) (hadmits : (f.view number).contents.Admits change)
    (hchange : ∀ c : Contents, c.replay change = c.put key value)
    (hasks : Accepts f.spelledView key value → request.AsksFor f.spelledView change)
    (hrefusal : ∀ failure, key ∈ reservedKeys →
      checkReserved f.spelledView key value = .error failure → Refusal f number request failure) :
    Carried tell number f request ((do
      putEntry number key value
      noteValue what key value
      tell change : Operation Family Unit).outcome f) := by
  rcases outcome_putEntry number key value f with
    ⟨failure, hreserved, hrejected, hrefused⟩ | ⟨haccepts, hput⟩
  · rw [outcome_bind_error hrefused]
    exact .refused (hrefusal failure hreserved hrejected) f.session.log
  · rw [outcome_bind_ok hput, ← hchange]
    obtain ⟨log, hnoted⟩ := outcome_noteValue what key value _
    rw [outcome_bind_ok hnoted]
    exact .changed (hasks haccepts) hopen hadmits log

private theorem carried_bindWith (key value : Value) :
    Carried tell number f (.bind key value) ((bindWith tell number key value).outcome f) := by
  refine carried_of_open nofun fun hopen => carried_of_name (List.mem_singleton_self _) ?_
  rintro key rfl hkey
  rw [outcome_bind_ok (outcome_get f)]
  split
  next hbound => exact .refused (.boundAlready hbound) f.session.log
  next hfree =>
    have hadmits : (f.view number).contents.Admits (.bind key value) := by
      rw [Bool.not_eq_true, isBound] at hfree
      simpa only [Contents.Admits, View.contents, List.elem_iff] using hfree
    exact carried_put hopen hadmits (fun _ => rfl) (.bind hkey) fun _ => .bindRejected

private theorem carried_rebindWith (key value : Value) :
    Carried tell number f (.rebind key value) ((rebindWith tell number key value).outcome f) := by
  refine carried_of_open nofun fun hopen => carried_of_name (List.mem_singleton_self _) ?_
  rintro key rfl hkey
  exact carried_put hopen trivial (fun _ => rfl) (.rebind hkey) fun _ => .rebindRejected

private theorem carried_unbindWith (key : Value) :
    Carried tell number f (.unbind key) ((unbindWith tell number key).outcome f) := by
  refine carried_of_open nofun fun hopen => carried_of_name (List.mem_singleton_self _) ?_
  rintro key rfl hkey
  rw [outcome_bind_ok (outcome_get f)]
  dsimp only
  split
  next hthere =>
    rw [outcome_bind_ok (outcome_modifyView _ _ _)]
    obtain ⟨log, hnoted⟩ := outcome_note .info (text "Unbound " ++ key.quoted) _
    rw [outcome_bind_ok hnoted]
    exact .changed (.unbind hkey) hopen ((Bool.or_eq_true _ _).mp hthere) log
  next hthere =>
    obtain ⟨hentries, hoverrides⟩ := Bool.or_eq_false_iff.mp (Bool.eq_false_iff.mpr hthere)
    exact .idle hkey hopen hentries hoverrides

private theorem carried_renameWith (old new : Value) :
    Carried tell number f (.rename old new) ((renameWith tell number old new).outcome f) := by
  refine carried_of_open nofun fun hopen => carried_of_name (List.mem_cons_self ..) ?_
  rintro old rfl hold
  refine carried_of_name (.tail _ (List.mem_singleton_self _)) ?_
  rintro new rfl hnew
  split
  next hreserved =>
    rw [Bool.or_eq_true, List.elem_iff, List.elem_iff] at hreserved
    exact .refused (.reservedRename hreserved) f.session.log
  next hreserved =>
    rw [Bool.or_eq_true, List.elem_iff, List.elem_iff, not_or] at hreserved
    dsimp only
    rw [outcome_bind_ok (outcome_get f)]
    split
    next hbound => exact .refused (.newKeyBound hbound) f.session.log
    next hfree =>
      cases hvalue : (f.view number).entries.get? old with
      | none =>
        have hunbound : (f.view number).entries.has old = false := by rw [Keyed.has, hvalue]; rfl
        exact .refused (.notBound hunbound) f.session.log
      | some value =>
        dsimp only
        have hreplay : (f.view number).contents.replay (.rename old new) =
            ⟨moveEntry (f.view number).entries old new value, (f.view number).overrides⟩ := by
          have hfree' := Keyed.has_remove_of_not_has (Bool.eq_false_iff.mpr hfree) old
          rw [Contents.replay_rename_of_some hvalue, moveEntry, Keyed.put_of_not_has hfree']
          rfl
        rw [outcome_bind_ok (outcome_modifyView _ _ _)]
        obtain ⟨log, hnoted⟩ :=
          outcome_note .info (text "Renamed " ++ old.quoted ++ text " -> " ++ new.quoted) _
        rw [outcome_bind_ok hnoted]
        have hadmits : (f.view number).contents.Admits (.rename old new) :=
          ⟨Option.isSome_iff_exists.mpr ⟨value, hvalue⟩, Bool.eq_false_iff.mpr hfree⟩
        have hchanged : Carried tell number f (.rename (.str old) (.str new)) _ :=
          .changed (.rename hold hnew hreserved.1 hreserved.2) hopen hadmits log
        rw [changed, hreplay] at hchanged
        exact hchanged

/-- Every write is refused for a reason, or makes the change that it asks for and tells the hooks of
it, or has nothing to take away, or closes the namespace. -/
theorem carried (tell : Change → Operation Family Unit) (number : Nat) (f : Family)
    (request : Write) : Carried tell number f request ((writeWith tell number request).outcome f) := by
  cases request with
  | bind key value => exact carried_bindWith key value
  | rebind key value => exact carried_rebindWith key value
  | unbind key => exact carried_unbindWith key
  | rename old new => exact carried_renameWith old new
  | close => exact .closed

end Carried

/-- Where there are no hooks, telling of a change does nothing. -/
theorem outcome_tell_of_no_hooks {f : Family} {number : Nat} (h : (f.view number).hooks = [])
    (room : Nat) (change : Change) : (tell number room change).outcome f = (.ok (), f) := by
  cases room with
  | zero =>
    unfold tell
    rw [outcome_bind_ok (outcome_get f), h]
    rfl
  | succ room =>
    unfold tell BusPlace.run
    rw [outcome_bind_ok (outcome_get f)]
    change (BusPlace.tellAll _ _ _ _ _ _ (f.view number).hooks).outcome f = _
    rw [h]
    rfl

/-- Whether an evolution allows the changes that can be asked for and what comes with them. -/
structure AdmitsChanges (E : Evolution Family) (number : Nat) : Prop where
  /-- Records may be written. -/
  withLog : ∀ f log, E.Allows f (f.withLog log)
  /-- A change that can be asked for may be made of an open namespace. -/
  changed : ∀ f request change log, Write.AsksFor f.spelledView request change →
    (f.view number).closed = false → (f.view number).contents.Admits change →
    E.Allows f (f.changed number change log)
  /-- A hook may be registered with an open namespace. -/
  hooked : ∀ f hook, (f.view number).closed = false →
    E.Allows f (f.withView number { f.view number with hooks := (f.view number).hooks ++ [hook] })
  /-- The namespace may be closed. -/
  close : (close number).Follows E
  /-- Hooks may be told. -/
  deliver : ∀ f delivery, E.Allows f ((busPlace number).deliver delivery f)

namespace AdmitsChanges

variable {E : Evolution Family} {number : Nat} (hE : AdmitsChanges E number)
include hE

/-- Registering a hook makes allowed steps. -/
theorem registerHook_follows (hook : Supplied (Hook Change Write)) :
    (registerHook number hook).Follows E := by
  intro f
  rcases outcome_registerHook number hook f with ⟨failure, log, -, h⟩ | ⟨usable, -, hopen, h⟩
  · rw [h]
    exact hE.withLog f log
  · rw [h]
    exact hE.hooked f usable hopen

/-- A write makes allowed steps if telling of changes does. -/
theorem writeWith_follows {tell : Change → Operation Family Unit}
    (htell : ∀ change, (tell change).Follows E) (request : Write) :
    (writeWith tell number request).Follows E := by
  intro f
  have hcarried := carried tell number f request
  generalize (writeWith tell number request).outcome f = result at hcarried
  cases hcarried with
  | refused _ log => exact hE.withLog f log
  | idle _ _ _ _ => exact E.refl f
  | changed hasks hopen hadmits log =>
    exact E.trans (hE.changed f _ _ log hasks hopen hadmits) (htell _ _)
  | closed => exact hE.close f

/-- The bus of the namespace does what is allowed. -/
theorem busPlace_follows : (busPlace number).Follows E :=
  ⟨fun delivery f => hE.deliver f delivery, fun _ _ _ f => hE.withLog f _⟩

/-- Hooks may write again, but each time there is less room for it. -/
theorem tell_follows (room : Nat) (change : Change) : (tell number room change).Follows E := by
  induction room generalizing change with
  | zero => exact .bind .get fun _ _ => .ite (fun _ => .pure _) fun _ => .throw _
  | succ room ih =>
    exact BusPlace.run_follows hE.busPlace_follows (fun _ => hE.registerHook_follows _)
      (fun request => hE.writeWith_follows ih request) _ _ _

end AdmitsChanges

/-- Whether an evolution allows what becomes of writes to a namespace and of the hooks that are told
of them. -/
structure AdmitsWrites (E : Evolution Family) (number : Nat) : Prop where
  /-- Records may be written. -/
  withLog : ∀ f log, E.Allows f (f.withLog log)
  /-- The namespace may change. -/
  withView : ∀ f v, E.Allows f (f.withView number v)
  /-- Archives may be closed. -/
  closeArchives : (onSession Backend.closeArchives).Follows E
  /-- Hooks may be told. -/
  deliver : ∀ f delivery, E.Allows f ((busPlace number).deliver delivery f)

namespace AdmitsWrites

variable {E : Evolution Family} {number : Nat} (hE : AdmitsWrites E number)
include hE

/-- Changing a namespace makes an allowed step. -/
theorem modifyView_follows (change : View → View) : (modifyView number change).Follows E := by
  intro f
  rw [outcome_modifyView]
  exact hE.withView f _

/-- A record is an allowed step. -/
theorem note_follows (level : LogLevel) (message : Text) : (note level message).Follows E :=
  fun f => hE.withLog f _

/-- Closing a namespace makes allowed steps. -/
theorem close_follows : (close number).Follows E := by
  refine .bind (hE.modifyView_follows _) fun _ _ => .bind .get fun f _ => ?_
  have hnote := hE.note_follows .debug (text "Namespace closed prefix=" ++
    roundBrackets ((f.view number).segments.map Text.quoted))
  exact .ite (fun _ => .bind hE.closeArchives fun _ _ => hnote) fun _ => hnote

/-- Where a namespace may change in any way, it may change as it can be asked for. -/
theorem admitsChanges : AdmitsChanges E number where
  withLog := hE.withLog
  changed f _ _ log _ _ _ := E.trans (hE.withLog f log) (hE.withView _ _)
  hooked f _ _ := hE.withView f _
  close := hE.close_follows
  deliver := hE.deliver

/-- Registering a hook makes allowed steps. -/
theorem registerHook_follows (hook : Supplied (Hook Change Write)) :
    (registerHook number hook).Follows E := hE.admitsChanges.registerHook_follows hook

/-- A write makes allowed steps if telling of changes does. -/
theorem writeWith_follows {tell : Change → Operation Family Unit}
    (htell : ∀ change, (tell change).Follows E) (request : Write) :
    (writeWith tell number request).Follows E := hE.admitsChanges.writeWith_follows htell request

/-- Telling hooks of a change makes allowed steps, however much room there is. -/
theorem tell_follows (room : Nat) (change : Change) : (tell number room change).Follows E :=
  hE.admitsChanges.tell_follows room change

end AdmitsWrites

end Family

end ConfigNamespace
