import ConfigNamespace.Proofs.Hook

/-!
# The calls of a run

A hook that is told of an event may register hooks, take all hooks away, tell the hooks of further
events, and fail. All calls that a run leads to are listed here as they begin, those of the runs from
inside among them, each with how it turns out. What a bus keeps of deliveries and writes to the log is
what the list says, and the calls that a run makes itself are those of the hooks that were registered
when it started, whatever becomes of the registered hooks meanwhile.

A hook has the event as a value of its own: what it changes there shows in nothing but in what it asks
for next.
-/

namespace ConfigNamespace

namespace HookBus

open Operation

variable {ε : Type}

/-- A call of a hook. -/
structure Call (ε : Type) where
  /-- The hook. -/
  hook : Hook ε (BusAction ε)
  /-- The event that it is told of. -/
  event : ε
  /-- How many more times the event may lead to another one. -/
  room : Nat
  /-- How the call turns out. -/
  result : Except Failure Unit

namespace Call

/-- What is kept of a call as it begins. -/
def delivery (call : Call ε) : Delivery ε := ⟨call.hook.name, call.event, call.room⟩

/-- The record that a call leaves in the log, by what failing hooks mean. -/
def record? (actionOf : ε → Text) (mode : FailureMode) (call : Call ε) : Option LogRecord :=
  match call.result, mode with
  | .ok (), _ => none
  | .error _, .raise => none
  | .error failure, .log => some ⟨.error, .hooks, text "Hook " ++ call.hook.spelled ++
      text " failed on " ++ actionOf call.event ++ text ": " ++ failure.message⟩
  | .error failure, .ignore => some ⟨.debug, .hooks, text "Hook " ++ call.hook.spelled ++
      text " failed but ignored: " ++ failure.message⟩

end Call

/-- Performs what hooks ask for that are told of an event with some room. -/
def performWithin (actionOf : ε → Text) (room : Nat) : BusAction ε → Operation (HookBus ε) Unit
  | .clear => clear
  | .run event => runWithin actionOf room event

/-- With room for one more event, the hooks are told, and may lead to events with the room that is
left. -/
theorem runWithin_succ (actionOf : ε → Text) (room : Nat) (event : ε) :
    runWithin actionOf (room + 1) event =
      place.run actionOf register (performWithin actionOf room) room event := by
  have hperform : (fun action : BusAction ε => match action with
      | .clear => clear
      | .run event => runWithin actionOf room event) = performWithin actionOf room := by
    funext action
    cases action <;> rfl
  rw [← hperform]
  rfl

/-- The call of a hook from a state on. -/
def callOf (actionOf : ε → Text) (room : Nat) (event : ε) (hook : Hook ε (BusAction ε))
    (bus : HookBus ε) : Call ε :=
  ⟨hook, event, room, (((hook.react event).carryOut register (performWithin actionOf room)).outcome
    (place.deliver ⟨hook.name, event, room⟩ bus)).1⟩

/-- Telling a hook fails as its call does in the mode in which this counts, and else leaves the record of
the call. -/
theorem outcome_tell (actionOf : ε → Text) (room : Nat) (event : ε) (hook : Hook ε (BusAction ε))
    (bus : HookBus ε) :
    (place.tell actionOf register (performWithin actionOf room) room event hook).outcome bus =
      let call := callOf actionOf room event hook bus
      let after := (((hook.react event).carryOut register (performWithin actionOf room)).outcome
        (place.deliver ⟨hook.name, event, room⟩ bus)).2
      (if after.mode = .raise then call.result else .ok (),
        { after with log := after.log ++ (call.record? actionOf after.mode).toList }) := by
  unfold BusPlace.tell callOf
  rw [outcome_bind_ok (outcome_modify _ bus), outcome_bind_ok (outcome_attempt _ _)]
  rcases ((hook.react event).carryOut register (performWithin actionOf room)).outcome
    (place.deliver ⟨hook.name, event, room⟩ bus) with ⟨failure | _, hooks, mode, deliveries, log⟩
  · cases mode with
    | ignore => simp [BusPlace.handleFailure, outcome_bind, place, note, Call.record?]
    | log => simp [BusPlace.handleFailure, outcome_bind, place, note, Call.record?]
    | raise => simp [BusPlace.handleFailure, outcome_bind, place, Call.record?]
  · simp [Call.record?]

/-- The calls that a request leads to, by those that a run leads to. -/
def requestCalls (inner : ε → HookBus ε → List (Call ε)) :
    HookRequest ε (BusAction ε) × HookBus ε → List (Call ε)
  | (.act (.run event), bus) => inner event bus
  | (.act .clear, _) => []
  | (.register _, _) => []

/-- The calls that telling hooks in turn leads to, by those that a run from inside leads to. -/
def callsAmong (actionOf : ε → Text) (inner : ε → HookBus ε → List (Call ε)) (room : Nat) (event : ε) :
    List (Hook ε (BusAction ε)) → HookBus ε → List (Call ε)
  | [], _ => []
  | hook :: hooks, bus =>
    callOf actionOf room event hook bus ::
      (((hook.react event).requests register (performWithin actionOf room)
          (place.deliver ⟨hook.name, event, room⟩ bus)).flatMap (requestCalls inner) ++
        match (place.tell actionOf register (performWithin actionOf room) room event hook).outcome
            bus with
        | (.ok _, next) => callsAmong actionOf inner room event hooks next
        | (.error _, _) => [])

/-- The calls that a run leads to, in the order in which they begin. -/
def callsWithin (actionOf : ε → Text) : (room : Nat) → ε → HookBus ε → List (Call ε)
  | 0, _, _ => []
  | room + 1, event, bus =>
    callsAmong actionOf (callsWithin actionOf room) room event bus.hooks bus

/-! ### What is kept of calls -/

/-- Whether what a bus keeps and writes from one state to another one is what calls leave. -/
structure Accounts (actionOf : ε → Text) (bus : HookBus ε) (calls : List (Call ε))
    (after : HookBus ε) : Prop where
  /-- What failing hooks mean stays as it is. -/
  mode : after.mode = bus.mode
  /-- Every call was kept as it began. -/
  deliveries : after.deliveries = bus.deliveries ++ calls.map Call.delivery
  /-- What was written are the records of the calls, as each came to its end. -/
  log : ∃ records, after.log = bus.log ++ records ∧
    records.Perm (calls.filterMap (Call.record? actionOf bus.mode))

namespace Accounts

variable {actionOf : ε → Text} {s t u : HookBus ε} {calls more : List (Call ε)}

/-- Where nothing is done, no calls account for it. -/
theorem refl (actionOf : ε → Text) (s : HookBus ε) : Accounts actionOf s [] s :=
  ⟨rfl, by simp, [], by simp, by simp⟩

/-- Calls that account for two stretches account for both together. -/
theorem trans (h : Accounts actionOf s calls t) (h' : Accounts actionOf t more u) :
    Accounts actionOf s (calls ++ more) u := by
  obtain ⟨records, hlog, hrecords⟩ := h.log
  obtain ⟨records', hlog', hrecords'⟩ := h'.log
  rw [h.mode] at hrecords'
  refine ⟨h'.mode.trans h.mode, ?_, records ++ records', ?_, ?_⟩
  · rw [h'.deliveries, h.deliveries, List.map_append, List.append_assoc]
  · rw [hlog', hlog, List.append_assoc]
  · rw [List.filterMap_append]
    exact hrecords.append hrecords'

/-- A change of the registered hooks leaves nothing. -/
theorem of_hooks (actionOf : ε → Text) (s : HookBus ε) (hooks : List (Hook ε (BusAction ε))) :
    Accounts actionOf s [] { s with hooks } :=
  ⟨rfl, by simp, [], by simp, by simp⟩

end Accounts

section Accounts

variable {actionOf : ε → Text} {room : Nat} {inner : ε → HookBus ε → List (Call ε)}
  (hinner : ∀ event bus,
    Accounts actionOf bus (inner event bus) ((runWithin actionOf room event).outcome bus).2)
include hinner

/-- What a reaction leaves is what the calls leave that its requests lead to. -/
theorem accounts_carryOut (reaction : Reaction ε (BusAction ε)) (bus : HookBus ε) :
    Accounts actionOf bus
      ((reaction.requests register (performWithin actionOf room) bus).flatMap (requestCalls inner))
      ((reaction.carryOut register (performWithin actionOf room)).outcome bus).2 := by
  induction reaction generalizing bus with
  | done => exact .refl actionOf bus
  | fail failure => exact .refl actionOf bus
  | register name react next _ ihnext =>
    unfold Reaction.carryOut
    rw [outcome_bind_ok (outcome_attempt _ bus)]
    exact (Accounts.of_hooks actionOf bus _).trans (ihnext _ _)
  | act action next ihnext =>
    unfold Reaction.carryOut
    rw [outcome_bind_ok (outcome_attempt _ bus)]
    have haction : Accounts actionOf bus (requestCalls inner (.act action, bus))
        ((performWithin actionOf room action).outcome bus).2 := by
      cases action with
      | clear => exact .of_hooks actionOf bus []
      | run event => exact hinner event bus
    exact haction.trans (ihnext _ _)

/-- What telling a hook leaves is what its call leaves, and those that its requests lead to. -/
theorem accounts_tell (event : ε) (hook : Hook ε (BusAction ε)) (bus : HookBus ε) :
    Accounts actionOf bus
      (callOf actionOf room event hook bus ::
        ((hook.react event).requests register (performWithin actionOf room)
          (place.deliver ⟨hook.name, event, room⟩ bus)).flatMap (requestCalls inner))
      ((place.tell actionOf register (performWithin actionOf room) room event hook).outcome bus).2 := by
  have hreaction := accounts_carryOut hinner (hook.react event)
    (place.deliver ⟨hook.name, event, room⟩ bus)
  obtain ⟨records, hlog, hrecords⟩ := hreaction.log
  have hmode := hreaction.mode
  rw [outcome_tell]
  refine ⟨hmode, ?_, records ++ ((callOf actionOf room event hook bus).record? actionOf
    bus.mode).toList, ?_, ?_⟩
  · exact hreaction.deliveries.trans (List.append_assoc ..)
  · dsimp only
    rw [hlog, hmode]
    exact List.append_assoc ..
  · rw [List.filterMap_cons]
    cases (callOf actionOf room event hook bus).record? actionOf bus.mode with
    | none =>
      rw [Option.toList_none, List.append_nil]
      exact hrecords
    | some record => exact (hrecords.append_right _).trans (List.perm_append_singleton ..)

/-- What telling hooks in turn leaves is what its calls leave. -/
theorem accounts_tellAll (event : ε) (hooks : List (Hook ε (BusAction ε))) (bus : HookBus ε) :
    Accounts actionOf bus (callsAmong actionOf inner room event hooks bus)
      ((place.tellAll actionOf register (performWithin actionOf room) room event hooks).outcome
        bus).2 := by
  induction hooks generalizing bus with
  | nil => exact .refl actionOf bus
  | cons hook hooks ih =>
    have htold := accounts_tell hinner event hook bus
    unfold callsAmong BusPlace.tellAll
    rcases hout : (place.tell actionOf register (performWithin actionOf room) room event hook).outcome
      bus with ⟨_ | _, next⟩
    · rw [outcome_bind_error hout]
      rw [hout] at htold
      simpa using htold
    · rw [outcome_bind_ok hout]
      rw [hout] at htold
      exact htold.trans (ih next)

end Accounts

/-- What a run leaves is what its calls leave. -/
theorem accounts_runWithin (actionOf : ε → Text) (room : Nat) (event : ε) (bus : HookBus ε) :
    Accounts actionOf bus (callsWithin actionOf room event bus)
      ((runWithin actionOf room event).outcome bus).2 := by
  induction room generalizing event bus with
  | zero => exact .refl actionOf bus
  | succ room ih =>
    rw [runWithin_succ]
    exact accounts_tellAll ih event bus.hooks bus

/-! ### Which calls there are -/

/-- Only the request for a run leads to calls. -/
theorem exists_run_of_mem {inner : ε → HookBus ε → List (Call ε)} {start : HookBus ε} {call : Call ε}
    {request : HookRequest ε (BusAction ε)} (h : call ∈ requestCalls inner (request, start)) :
    ∃ further, request = .act (.run further) ∧ call ∈ inner further start := by
  cases request with
  | register hook => exact absurd h List.not_mem_nil
  | act action =>
    cases action with
    | clear => exact absurd h List.not_mem_nil
    | run further => exact ⟨further, rfl, h⟩

/-- Every call is one of the told hooks, or one of a run that a told hook asked for. -/
theorem mem_callsAmong {actionOf : ε → Text} {inner : ε → HookBus ε → List (Call ε)} {room : Nat}
    {event : ε} {hooks : List (Hook ε (BusAction ε))} {bus : HookBus ε} {call : Call ε}
    (h : call ∈ callsAmong actionOf inner room event hooks bus) :
    (call.hook ∈ hooks ∧ call.event = event ∧ call.room = room) ∨
      ∃ further start, (.act (.run further), start) ∈
          place.requests actionOf register (performWithin actionOf room) room event hooks bus ∧
        call ∈ inner further start := by
  induction hooks generalizing bus with
  | nil => exact absurd h List.not_mem_nil
  | cons hook hooks ih =>
    unfold callsAmong at h
    unfold BusPlace.requests
    rcases List.mem_cons.mp h with rfl | h
    · exact .inl ⟨List.mem_cons_self .., rfl, rfl⟩
    rcases List.mem_append.mp h with h | h
    · obtain ⟨⟨request, start⟩, hrequest, hcall⟩ := List.mem_flatMap.mp h
      obtain ⟨further, rfl, hcall⟩ := exists_run_of_mem hcall
      exact .inr ⟨further, start, List.mem_append_left _ hrequest, hcall⟩
    · rcases hout : (place.tell actionOf register (performWithin actionOf room) room event
        hook).outcome bus with ⟨_ | _, next⟩
      · rw [hout] at h
        exact absurd h List.not_mem_nil
      · rw [hout] at h
        rcases ih h with ⟨hhook, hsame⟩ | ⟨further, start, hrequest, hcall⟩
        · exact .inl ⟨List.mem_cons_of_mem _ hhook, hsame⟩
        · exact .inr ⟨further, start, List.mem_append_right _ hrequest, hcall⟩

/-- Whether a run is another one, or one from inside it: a hook asked for it that the run told, or
that a run from inside told. The run has its room, its event and the state that it starts in. -/
inductive Starts (actionOf : ε → Text) :
    (room : Nat) → ε → HookBus ε → (room' : Nat) → ε → HookBus ε → Prop
  /-- The run itself. -/
  | self (room : Nat) (event : ε) (bus : HookBus ε) : Starts actionOf room event bus room event bus
  /-- A run that a told hook asked for, or one from inside that. -/
  | inside {room room' : Nat} {event further event' : ε} {bus start bus' : HookBus ε}
    (hrequest : (.act (.run further), start) ∈ place.requests actionOf register
      (performWithin actionOf room) room event bus.hooks bus)
    (hstarts : Starts actionOf room further start room' event' bus') :
    Starts actionOf (room + 1) event bus room' event' bus'

/-- Every call is made by a run that started, of a hook that was registered then. -/
theorem exists_starts_of_mem {actionOf : ε → Text} {room : Nat} {event : ε} {bus : HookBus ε}
    {call : Call ε} (h : call ∈ callsWithin actionOf room event bus) :
    ∃ start, Starts actionOf room event bus (call.room + 1) call.event start ∧
      call.hook ∈ start.hooks := by
  induction room generalizing event bus with
  | zero => exact absurd h List.not_mem_nil
  | succ room ih =>
    rcases mem_callsAmong h with ⟨hhook, rfl, rfl⟩ | ⟨further, start, hrequest, hcall⟩
    · exact ⟨bus, .self _ _ _, hhook⟩
    · obtain ⟨start', hstarts, hhook⟩ := ih hcall
      exact ⟨start', .inside hrequest hstarts, hhook⟩

/-- A run from inside has less room. -/
theorem Starts.room_le {actionOf : ε → Text} {room room' : Nat} {event event' : ε}
    {bus bus' : HookBus ε} (h : Starts actionOf room event bus room' event' bus') : room' ≤ room := by
  induction h with
  | self => exact Nat.le_refl _
  | inside _ _ ih => exact Nat.le_succ_of_le ih

/-- Calls inside of an event have less room than the event. -/
theorem room_lt_of_mem {actionOf : ε → Text} {room : Nat} {event : ε} {bus : HookBus ε}
    {call : Call ε} (h : call ∈ callsWithin actionOf room event bus) : call.room < room := by
  obtain ⟨_, hstarts, _⟩ := exists_starts_of_mem h
  exact hstarts.room_le

/-- The calls with a room. Those that a run makes itself have its room. -/
def ownCalls (room : Nat) (calls : List (Call ε)) : List (Call ε) :=
  calls.filter fun call => call.room = room

/-- Every call of a run is one of a hook that was registered when it started, or has less room. -/
theorem room_lt_or_own_of_mem {actionOf : ε → Text} {room : Nat} {event : ε} {bus : HookBus ε}
    {call : Call ε} (h : call ∈ callsWithin actionOf (room + 1) event bus) :
    call.room < room ∨ call.hook ∈ bus.hooks ∧ call.event = event := by
  rcases mem_callsAmong h with ⟨hhook, hevent, _⟩ | ⟨further, start, _, hcall⟩
  · exact .inr ⟨hhook, hevent⟩
  · exact .inl (room_lt_of_mem hcall)

section Own

variable (actionOf : ε → Text) (room : Nat) (event : ε)

/-- Runs from inside have no calls with the room of the run. -/
theorem ownCalls_requests (requests : List (HookRequest ε (BusAction ε) × HookBus ε)) :
    ownCalls room (requests.flatMap (requestCalls (callsWithin actionOf room))) = [] := by
  refine List.filter_eq_nil_iff.mpr fun call hcall => ?_
  obtain ⟨⟨request, start⟩, _, hcall⟩ := List.mem_flatMap.mp hcall
  obtain ⟨further, rfl, hcall⟩ := exists_run_of_mem hcall
  have hroom : call.room < room := room_lt_of_mem hcall
  simpa using Nat.ne_of_lt hroom

/-- After a call with the room of the run, and those that its requests lead to, come those after it. -/
theorem ownCalls_callOf (hook : Hook ε (BusAction ε)) (bus : HookBus ε)
    (requests : List (HookRequest ε (BusAction ε) × HookBus ε)) (rest : List (Call ε)) :
    ownCalls room (callOf actionOf room event hook bus ::
        (requests.flatMap (requestCalls (callsWithin actionOf room)) ++ rest)) =
      callOf actionOf room event hook bus :: ownCalls room rest := by
  have hnested := ownCalls_requests actionOf room requests
  unfold ownCalls at hnested ⊢
  rw [List.filter_cons_of_pos (by simp [callOf]), List.filter_append, hnested, List.nil_append]

/-- Telling a hook fails as its call does in the mode in which this counts. -/
theorem outcome_tell_fst (hook : Hook ε (BusAction ε)) (bus : HookBus ε) :
    ((place.tell actionOf register (performWithin actionOf room) room event hook).outcome bus).1 =
      if bus.mode = .raise then (callOf actionOf room event hook bus).result else .ok () := by
  have hmode := (accounts_carryOut (accounts_runWithin actionOf room) (hook.react event)
    (place.deliver ⟨hook.name, event, room⟩ bus)).mode
  rw [outcome_tell]
  dsimp only
  rw [hmode]
  rfl

/-- Where failing hooks do not count, telling hooks calls each of them. -/
theorem tellAll_of_ne_raise {hooks : List (Hook ε (BusAction ε))} {bus : HookBus ε}
    (hmode : bus.mode ≠ .raise) :
    ((place.tellAll actionOf register (performWithin actionOf room) room event hooks).outcome bus).1 =
        .ok () ∧
      (ownCalls room (callsAmong actionOf (callsWithin actionOf room) room event hooks bus)).map
        Call.hook = hooks := by
  induction hooks generalizing bus with
  | nil => exact ⟨rfl, rfl⟩
  | cons hook hooks ih =>
    have hkept := (accounts_tell (accounts_runWithin actionOf room) event hook bus).mode
    have hresult := outcome_tell_fst actionOf room event hook bus
    rw [if_neg hmode] at hresult
    rw [callsAmong, ownCalls_callOf, BusPlace.tellAll]
    rcases hout : (place.tell actionOf register (performWithin actionOf room) room event hook).outcome
      bus with ⟨result, next⟩
    rw [hout] at hkept hresult
    dsimp only at hkept hresult
    subst hresult
    obtain ⟨hok, hcalls⟩ := ih (hkept ▸ hmode)
    rw [outcome_bind_ok hout]
    exact ⟨hok, congrArg (hook :: ·) hcalls⟩

/-- Where failing hooks count, telling hooks calls each of them as long as none fails, and ends as the
first one does that fails. -/
theorem tellAll_of_raise {hooks : List (Hook ε (BusAction ε))} {bus : HookBus ε}
    (hmode : bus.mode = .raise) :
    let result := ((place.tellAll actionOf register (performWithin actionOf room) room event
      hooks).outcome bus).1
    let own := ownCalls room (callsAmong actionOf (callsWithin actionOf room) room event hooks bus)
    (result = .ok () ∧ own.map Call.hook = hooks ∧ ∀ call ∈ own, call.result = .ok ()) ∨
      ∃ before last rest failure, own = before ++ [last] ∧ hooks = own.map Call.hook ++ rest ∧
        (∀ call ∈ before, call.result = .ok ()) ∧ last.result = .error failure ∧
        result = .error failure := by
  induction hooks generalizing bus with
  | nil => exact .inl ⟨rfl, rfl, List.forall_mem_nil _⟩
  | cons hook hooks ih =>
    have hkept := (accounts_tell (accounts_runWithin actionOf room) event hook bus).mode
    have hresult := outcome_tell_fst actionOf room event hook bus
    rw [if_pos hmode] at hresult
    rw [callsAmong, ownCalls_callOf, BusPlace.tellAll]
    rcases hout : (place.tell actionOf register (performWithin actionOf room) room event hook).outcome
      bus with ⟨failure | _, next⟩
    · rw [hout] at hresult
      rw [outcome_bind_error hout]
      exact .inr ⟨[], _, hooks, failure, rfl, rfl, List.forall_mem_nil _, hresult.symm, rfl⟩
    · rw [hout] at hkept hresult
      rw [outcome_bind_ok hout]
      have hcall : (callOf actionOf room event hook bus).result = .ok () := hresult.symm
      rcases ih (hkept.trans hmode) with ⟨hok, hcalls, hall⟩ |
        ⟨before, last, rest, failure, hown, hhooks, hall, hlast, hfailure⟩
      · exact .inl ⟨hok, congrArg (hook :: ·) hcalls, List.forall_mem_cons.mpr ⟨hcall, hall⟩⟩
      · exact .inr ⟨_ :: before, last, rest, failure, congrArg _ hown, congrArg (hook :: ·) hhooks,
          List.forall_mem_cons.mpr ⟨hcall, hall⟩, hlast, hfailure⟩

end Own

/-! ### What a run delivers -/

/-- Whether a run tells the hooks that are registered when it starts of its event, by the calls that it
leads to. -/
structure Delivers (actionOf : ε → Text) (room : Nat) (event : ε) (bus : HookBus ε)
    (calls : List (Call ε)) (result : Except Failure Unit) (after : HookBus ε) : Prop where
  /-- The calls are the deliveries that were kept, and those that fail leave one record each. -/
  accounts : Accounts actionOf bus calls after
  /-- What the run itself tells is its event. -/
  event_eq : ∀ call ∈ ownCalls room calls, call.event = event
  /-- Where failing hooks do not count, the run succeeds and calls every registered hook once, in
  order. -/
  all : bus.mode ≠ .raise → result = .ok () ∧ (ownCalls room calls).map Call.hook = bus.hooks
  /-- Where failing hooks count, it does the same if none of the hooks fails, and else calls them up to
  the first one that fails, and fails as that one does. -/
  upToFailure : bus.mode = .raise →
    (result = .ok () ∧ (ownCalls room calls).map Call.hook = bus.hooks ∧
      ∀ call ∈ ownCalls room calls, call.result = .ok ()) ∨
    ∃ before last rest failure, ownCalls room calls = before ++ [last] ∧
      bus.hooks = (ownCalls room calls).map Call.hook ++ rest ∧
      (∀ call ∈ before, call.result = .ok ()) ∧ last.result = .error failure ∧
      result = .error failure
  /-- A hook is called by this run or one from inside, and was registered when that run started. -/
  registered : ∀ call ∈ calls, ∃ start,
    Starts actionOf (room + 1) event bus (call.room + 1) call.event start ∧ call.hook ∈ start.hooks
  /-- A hook that was not registered when this run started is called by runs from inside only. -/
  later : ∀ call ∈ calls, call.hook ∉ bus.hooks → call.room < room

/-- However hooks change what is registered, tell of further events and fail, to any depth that there is
room for, a run tells the hooks that were registered when it started, each once and in order; where
failing hooks count, up to the first one that fails. Hooks that are registered meanwhile are told of
later events only. -/
theorem delivers_runWithin (actionOf : ε → Text) (room : Nat) (event : ε) (bus : HookBus ε) :
    Delivers actionOf room event bus (callsWithin actionOf (room + 1) event bus)
      ((runWithin actionOf (room + 1) event).outcome bus).1
      ((runWithin actionOf (room + 1) event).outcome bus).2 where
  accounts := accounts_runWithin actionOf (room + 1) event bus
  event_eq call hcall := by
    obtain ⟨hmem, hroom⟩ := List.mem_filter.mp hcall
    have hself : ¬call.room < room := of_decide_eq_true hroom ▸ Nat.lt_irrefl _
    exact ((room_lt_or_own_of_mem hmem).resolve_left hself).2
  all hmode := by
    rw [runWithin_succ]
    exact tellAll_of_ne_raise actionOf room event hmode
  upToFailure hmode := by
    rw [runWithin_succ]
    exact tellAll_of_raise actionOf room event hmode
  registered call hcall := exists_starts_of_mem hcall
  later call hcall hnew := (room_lt_or_own_of_mem hcall).resolve_right fun hown => hnew hown.1

/-- A hook registers another one, changes its event and tells of that one, takes all hooks away and
fails. The next one, which fails on every event, is told of the event as it was. -/
example :
    let first : Hook Nat (BusAction Nat) := ⟨text "first", fun event =>
      if event = 0 then
        .register (text "third") (fun _ => .done) fun _ => .act (.run (event + 1)) fun _ =>
          .act .clear fun _ => .fail .hookNotCallable
      else .done⟩
    let second : Hook Nat (BusAction Nat) := ⟨text "second", fun _ => .fail .unknownFailureMode⟩
    let out mode := (runWithin (fun _ => []) 2 0).outcome ⟨[first, second], mode, [], []⟩
    let told mode := (out mode).2.deliveries.map fun told => (told.hook, told.event)
    told .log = [(text "first", 0), (text "first", 1), (text "second", 1), (text "third", 1),
        (text "second", 0)] ∧
      (out .log).2.log.map (·.level) = [.error, .error, .error] ∧
      told .raise = [(text "first", 0), (text "first", 1), (text "second", 1)] := by
  decide

end HookBus

end ConfigNamespace
