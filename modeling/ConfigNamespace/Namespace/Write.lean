import ConfigNamespace.Namespace.Basic

/-!
# Writing

Values are put under keys of a namespace, moved and taken away. Two keys are reserved: they hold
settings, whose values are judged first. Every change is told to the hooks of the namespace after it
was made, and hooks may ask for further changes.
-/

namespace ConfigNamespace

/-- What a failing hook of a change is reported with. -/
def Change.shownAction (c : Change) : Text := text c.action

namespace Family

/-- The key that may be written, for what a write does. -/
def checkName (key : Value) (action : String) : Except Failure Text :=
  match key with
  | .str [] => .error (.emptyName action)
  | .str key => .ok key
  | _ => .error (.emptyName action)

/-- Where a family keeps the hooks of a namespace. -/
def busPlace (number : Nat) : BusPlace Family Change Write where
  hooks f := (f.view number).hooks
  deliver delivery f := { f with deliveries := f.deliveries ++ [delivery] }
  onLog op := onSession (Session.onLog op)
  mode f := (f.view number).mode

/-- Registers a hook. -/
def registerHook (number : Nat) (hook : Supplied (Hook Change Write)) : Operation Family Unit := do
  refuseClosed number "register_binding_hook"
  match hook with
  | .usable hook => modifyView number fun v => { v with hooks := v.hooks ++ [hook] }
  | .other _ => throw .hookNotCallable

/-- Judges a value for a reserved key. -/
def checkReserved (views : Nat → Text) (key : Text) (value : Value) : Except Failure Unit := do
  if key = rootKey then
    Parameter.root.validate views value
    let _ ← readRoot value.text?
    pure ()
  else Parameter.delimiter.validate views value

/-- Puts a judged value under a reserved key. -/
def putReserved (number : Nat) (key : Text) (value : Value) : Operation Family Unit := do
  Operation.ofExcept (checkReserved (← get).spelledView key value)
  modifyView number fun v => { v with overrides := v.overrides.put key value }

/-- Puts a value under a key. -/
def putEntry (number : Nat) (key : Text) (value : Value) : Operation Family Unit :=
  if reservedKeys.elem key then putReserved number key value
  else modifyView number fun v => { v with entries := Keyed.put key value v.entries }

/-- Whether a key is bound in a namespace. -/
def isBound (v : View) (key : Text) : Bool :=
  if reservedKeys.elem key then v.overrides.has key else v.entries.has key

/-- Writes a record of a value under a key. -/
def noteValue (what : String) (key : Text) (value : Value) : Operation Family Unit := do
  note .info (text what ++ text " " ++ key.quoted ++ text "=" ++
    redacted (← get).spelledView key value)

/-- Puts a value under a key that is not bound. -/
def bindWith (tell : Change → Operation Family Unit) (number : Nat) (key value : Value) :
    Operation Family Unit := do
  refuseClosed number "bind"
  let key ← Operation.ofExcept (checkName key "bind")
  if isBound ((← get).view number) key then
    throw (.boundAlready key)
  putEntry number key value
  noteValue "Bound" key value
  tell (.bind key value)

/-- Puts a value under a key. -/
def rebindWith (tell : Change → Operation Family Unit) (number : Nat) (key value : Value) :
    Operation Family Unit := do
  refuseClosed number "rebind"
  let key ← Operation.ofExcept (checkName key "rebind")
  putEntry number key value
  noteValue "Rebound" key value
  tell (.rebind key value)

/-- Takes a key away; a key that is not bound is left alone. -/
def unbindWith (tell : Change → Operation Family Unit) (number : Nat) (key : Value) :
    Operation Family Unit := do
  refuseClosed number "unbind"
  let key ← Operation.ofExcept (checkName key "unbind")
  let v := (← get).view number
  if v.entries.has key || v.overrides.has key then
    modifyView number fun v => { v with
      entries := v.entries.remove key, overrides := v.overrides.remove key }
    note .info (text "Unbound " ++ key.quoted)
    tell (.unbind key)

/-- The entries with the value of one key moved to another, at the end. -/
def moveEntry (entries : Keyed Value) (old new : Text) (value : Value) : Keyed Value :=
  Keyed.put new value (entries.remove old)

/-- Moves a value from one key to another. -/
def renameWith (tell : Change → Operation Family Unit) (number : Nat) (old new : Value) :
    Operation Family Unit := do
  refuseClosed number "rename"
  let old ← Operation.ofExcept (checkName old "rename")
  let new ← Operation.ofExcept (checkName new "rename")
  if reservedKeys.elem old || reservedKeys.elem new then
    throw (.reservedRename old new)
  let v := (← get).view number
  if v.entries.has new then
    throw (.newKeyBound new)
  match v.entries.get? old with
  | none => throw (.notBound old)
  | some value =>
    modifyView number fun v => { v with entries := moveEntry v.entries old new value }
    note .info (text "Renamed " ++ old.quoted ++ text " -> " ++ new.quoted)
    tell (.rename old new)

/-- Closes a namespace: takes away its entries, settings and hooks, and closes the archives if it is
the one that opened the family. -/
def close (number : Nat) : Operation Family Unit := do
  modifyView number fun v =>
    { v with closed := true, entries := [], overrides := .none, hooks := [] }
  let v := (← get).view number
  if v.isOwner then
    onSession Backend.closeArchives
  note .debug (text "Namespace closed prefix=" ++ roundBrackets (v.segments.map Text.quoted))

/-- Carries a write out, by what tells hooks of changes. -/
def writeWith (tell : Change → Operation Family Unit) (number : Nat) :
    Write → Operation Family Unit
  | .bind key value => bindWith tell number key value
  | .rebind key value => rebindWith tell number key value
  | .unbind key => unbindWith tell number key
  | .rename old new => renameWith tell number old new
  | .close => close number

/-- Tells the hooks of a namespace of a change; the changes that they ask for are told in turn, as
often as there is room. -/
def tell (number : Nat) : (room : Nat) → Change → Operation Family Unit
  | 0, _ => do
    if ((← get).view number).hooks.isEmpty then pure () else throw .nestedTooDeep
  | room + 1, change =>
    (busPlace number).run Change.shownAction (fun hook => registerHook number (.usable hook))
      (writeWith (tell number room) number) room change

/-- Carries a write out. -/
def write (number : Nat) (request : Write) : Operation Family Unit :=
  writeWith (tell number hookRoom) number request

end Family

end ConfigNamespace
