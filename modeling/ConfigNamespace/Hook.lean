import ConfigNamespace.Log

/-!
# Hooks

Hooks are told of events. What a hook does with an event is a tree of requests: it may register
further hooks, ask for actions and see how they turn out, and fail. That is all: a hook does the same
each time that it is told of the same event, remembering nothing in between and looking at nothing but
the event and how its requests turn out. A bus tells an event to the hooks that are registered when it
starts, in their order; what a failing hook means depends on the mode of the bus.
-/

namespace ConfigNamespace

/-- What a hook does with an event of type `ε`, where `ρ` are the actions that it may ask for. -/
inductive Reaction (ε ρ : Type)
  /-- Nothing more. -/
  | done
  /-- Fails. -/
  | fail (failure : Failure)
  /-- Registers a hook and goes on as that turns out. -/
  | register (name : Text) (react : ε → Reaction ε ρ) (next : Except Failure Unit → Reaction ε ρ)
  /-- Asks for an action and goes on as that turns out. -/
  | act (action : ρ) (next : Except Failure Unit → Reaction ε ρ)

/-- A hook: a name, and a function of the event alone. -/
structure Hook (ε ρ : Type) where
  /-- The name that it is shown by. -/
  name : Text
  /-- What it does with an event. -/
  react : ε → Reaction ε ρ

namespace Reaction

variable {ε ρ σ : Type}

/-- Goes on with nothing after a success and fails after a failure. -/
def settle : Except Failure Unit → Reaction ε ρ
  | .ok () => done
  | .error failure => fail failure

/-- Carries a reaction out, by what registers hooks and what performs actions. -/
def carryOut (register : Hook ε ρ → Operation σ Unit) (perform : ρ → Operation σ Unit) :
    Reaction ε ρ → Operation σ Unit
  | done => pure ()
  | fail failure => throw failure
  | .register name react next => do
    let result ← (register ⟨name, react⟩).attempt
    carryOut register perform (next result)
  | act action next => do
    let result ← (perform action).attempt
    carryOut register perform (next result)

end Reaction

/-- A hook spelled out. -/
def Hook.spelled {ε ρ : Type} (hook : Hook ε ρ) : Text :=
  text "<hook " ++ hook.name ++ text ">"

/-- What the failure of a hook means. -/
inductive FailureMode
  /-- Nothing, apart from a record of details. -/
  | ignore
  /-- A record of an error. -/
  | log
  /-- The failure of what was told. -/
  | raise
  deriving DecidableEq, Repr

/-- The mode of the given name. -/
def FailureMode.read : Value → Except Failure FailureMode
  | .str name =>
    if name = text "ignore" then .ok .ignore
    else if name = text "log" then .ok .log
    else if name = text "raise" then .ok .raise
    else .error .unknownFailureMode
  | _ => .error .unknownFailureMode

/-- An event as a hook was told of it. -/
structure Delivery (ε : Type) where
  /-- The name of the hook. -/
  hook : Text
  /-- The event. -/
  event : ε
  /-- How many more times an event may lead to another one from here. -/
  room : Nat

/-- Where a bus lives: how the hooks of a state are found and added to, where deliveries are kept,
and where the log is. -/
structure BusPlace (σ ε ρ : Type) where
  /-- The registered hooks. -/
  hooks : σ → List (Hook ε ρ)
  /-- Keeps a delivery. -/
  deliver : Delivery ε → σ → σ
  /-- An operation on the log. -/
  onLog : Operation Log Unit → Operation σ Unit
  /-- What failing hooks mean. -/
  mode : σ → FailureMode

namespace BusPlace

variable {σ ε ρ : Type}

/-- What the failure of a hook leads to. -/
def handleFailure (place : BusPlace σ ε ρ) (actionOf : ε → Text) (hook : Hook ε ρ) (event : ε)
    (failure : Failure) : Operation σ Unit := do
  match place.mode (← get) with
  | .raise => throw failure
  | .log => place.onLog (note .error .hooks (text "Hook " ++ hook.spelled ++ text " failed on " ++
      actionOf event ++ text ": " ++ failure.message))
  | .ignore => place.onLog (note .debug .hooks (text "Hook " ++ hook.spelled ++
      text " failed but ignored: " ++ failure.message))

/-- Tells one hook of an event. -/
def tell (place : BusPlace σ ε ρ) (actionOf : ε → Text)
    (register : Hook ε ρ → Operation σ Unit) (perform : ρ → Operation σ Unit) (room : Nat)
    (event : ε) (hook : Hook ε ρ) : Operation σ Unit := do
  modify (place.deliver ⟨hook.name, event, room⟩)
  match ← ((hook.react event).carryOut register perform).attempt with
  | .ok () => pure ()
  | .error failure => place.handleFailure actionOf hook event failure

/-- Tells hooks of an event in turn. -/
def tellAll (place : BusPlace σ ε ρ) (actionOf : ε → Text)
    (register : Hook ε ρ → Operation σ Unit) (perform : ρ → Operation σ Unit) (room : Nat)
    (event : ε) : List (Hook ε ρ) → Operation σ Unit
  | [] => pure ()
  | hook :: hooks => do
    place.tell actionOf register perform room event hook
    tellAll place actionOf register perform room event hooks

/-- Tells all hooks that are registered now of an event. -/
def run (place : BusPlace σ ε ρ) (actionOf : ε → Text)
    (register : Hook ε ρ → Operation σ Unit) (perform : ρ → Operation σ Unit) (room : Nat)
    (event : ε) : Operation σ Unit := do
  place.tellAll actionOf register perform room event (place.hooks (← get))

end BusPlace

/-- The number of times that an event may lead to another one. -/
def hookRoom : Nat := 180

/-- The actions that the hooks of a bus may ask for. -/
inductive BusAction (ε : Type)
  /-- Takes all hooks away. -/
  | clear
  /-- Tells all hooks of an event. -/
  | run (event : ε)

/-- A bus with its hooks. -/
structure HookBus (ε : Type) where
  /-- The registered hooks, in order. -/
  hooks : List (Hook ε (BusAction ε))
  /-- What failing hooks mean. -/
  mode : FailureMode
  /-- What hooks were told. -/
  deliveries : List (Delivery ε)
  /-- The log. -/
  log : Log

namespace HookBus

variable {ε : Type}

/-- A bus without hooks. -/
def empty (mode : FailureMode) : HookBus ε := ⟨[], mode, [], []⟩

/-- Where a bus keeps its parts. -/
def place : BusPlace (HookBus ε) ε (BusAction ε) where
  hooks := HookBus.hooks
  deliver delivery bus := { bus with deliveries := bus.deliveries ++ [delivery] }
  onLog op := op.onPart HookBus.log fun bus log => { bus with log }
  mode := HookBus.mode

/-- Registers a hook. -/
def register (hook : Hook ε (BusAction ε)) : Operation (HookBus ε) Unit :=
  modify fun bus => { bus with hooks := bus.hooks ++ [hook] }

/-- Registers what is supplied as a hook. -/
def registerSupplied : Supplied (Hook ε (BusAction ε)) → Operation (HookBus ε) Unit
  | .usable hook => register hook
  | .other _ => throw .hookNotCallable

/-- Takes all hooks away. -/
def clear : Operation (HookBus ε) Unit := modify fun bus => { bus with hooks := [] }

/-- Tells the hooks of an event, which may lead to further events as often as there is room. -/
def runWithin (actionOf : ε → Text) : (room : Nat) → ε → Operation (HookBus ε) Unit
  | 0, _ => throw .nestedTooDeep
  | room + 1, event =>
    let perform : BusAction ε → Operation (HookBus ε) Unit
      | .clear => clear
      | .run event => runWithin actionOf room event
    place.run actionOf register perform room event

/-- Tells the hooks of an event. -/
def run (actionOf : ε → Text) (event : ε) : Operation (HookBus ε) Unit :=
  runWithin actionOf hookRoom event

end HookBus

end ConfigNamespace
