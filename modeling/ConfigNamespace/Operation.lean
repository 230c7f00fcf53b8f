import ConfigNamespace.Failure

/-!
# Operations

An operation works on a state and may fail. The state that it leaves counts in both cases: a
failure does not undo what was done before it.
-/

namespace ConfigNamespace

/-- An operation on a state of type `σ`. -/
abbrev Operation (σ : Type) := ExceptT Failure (StateM σ)

namespace Operation

variable {σ τ α : Type}

/-- The outcome of an operation from a state, and the state that it leaves. -/
def outcome (op : Operation σ α) (s : σ) : Except Failure α × σ := (ExceptT.run op).run s

/-- The operation with the given outcome. -/
def ofOutcome (step : σ → Except Failure α × σ) : Operation σ α := ExceptT.mk step

/-- The operation that succeeds or fails without touching the state. -/
def ofExcept (result : Except Failure α) : Operation σ α := ofOutcome fun s => (result, s)

/-- The operation whose result is the outcome of another one, failure or not. -/
def attempt (op : Operation σ α) : Operation σ (Except Failure α) :=
  ofOutcome fun s => let result := op.outcome s; (.ok result.1, result.2)

/-- An operation on a part of the state. -/
def onPart (part : σ → τ) (replace : σ → τ → σ) (op : Operation τ α) : Operation σ α :=
  ofOutcome fun s => let result := op.outcome (part s); (result.1, replace s result.2)

end Operation

end ConfigNamespace
