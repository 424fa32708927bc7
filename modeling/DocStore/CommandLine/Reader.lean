import DocStore.CommandLine.Options

/-!
# Reading a command line

Arguments are read from left to right: options in front of the command, the command, then its operands and options.
An option whose value is the next argument is only taken up when the argument after that is looked at, so that an
unknown argument is reported before a bad value in front of it. Behind `--` all arguments are operands.
-/

namespace DocStore.CommandLine

/-- What has been taken up, and an option that has not: it waits for its value, or to be taken up with it. -/
structure State where
  given : Given := {}
  pending : Option (Switch × Option String) := none

namespace State

def isWaiting (s : State) : Bool :=
  match s.pending with
  | some (_, none) => true
  | _ => false

def settle (s : State) : Except Stop Given :=
  match s.pending with
  | none => .ok s.given
  | some (_, none) => .error .invalidValue
  | some (switch, some text) => s.given.set switch text

def set (s : State) (switch : Switch) (text : String) : Except Stop State := do
  return { given := ← (← s.settle).set switch text }

def mark (s : State) (switch : Switch) : Except Stop State := do
  return { given := ← (← s.settle).mark switch }

def await (s : State) (switch : Switch) : Except Stop State := do
  return { given := ← s.settle, pending := some (switch, none) }

def supply (s : State) (text : String) : State :=
  { s with pending := s.pending.map fun (switch, _) => (switch, some text) }

def operand (s : State) (text : String) : Except Stop State := do
  let given ← s.settle
  return { given := { given with operands := given.operands ++ [text] } }

/-! ## Options -/

def readLong (allowed : List Switch) (s : State) (body : List Char) : Except Stop State :=
  let name := String.ofList (body.takeWhile (· ≠ '='))
  match allowed.find? (·.long = name), body.dropWhile (· ≠ '=') with
  | none, _ => .error .unknownArgument
  | some switch, [] => if switch.takesValue then s.await switch else s.mark switch
  | some switch, _ :: value =>
    if switch.takesValue then s.set switch (String.ofList value) else .error .tooManyValues

/-- Options by their letters; the first one with a value takes the rest as its value. -/
def readShort (allowed : List Switch) (s : State) : List Char → Except Stop State
  | [] => .ok s
  | c :: rest =>
    match allowed.find? (·.short? = some c) with
    | none => .error .unknownArgument
    | some switch =>
      if switch.takesValue then
        match rest with
        | [] => s.await switch
        | '=' :: value => s.set switch (String.ofList value)
        | value => s.set switch (String.ofList value)
      else do readShort allowed (← s.mark switch) rest

inductive Shape where
  | separator
  | long (body : List Char)
  | short (body : List Char)
  | plain

def shape (argument : String) : Shape :=
  match argument.toList with
  | ['-', '-'] => .separator
  | '-' :: '-' :: body => .long body
  | '-' :: c :: body => .short (c :: body)
  | _ => .plain

/-! ## Behind the command -/

def readOperands (verb : Verb) (s : State) (trailing : Bool) : List String → Except Stop State
  | [] => .ok s
  | argument :: rest => do
    let allowed := switches (some verb)
    let plain : Except Stop State := do
      if s.given.operands.length < verb.operands then s.operand argument else throw .unknownArgument
    if trailing then readOperands verb (← plain) true rest
    else
      match shape argument with
      | .separator => readOperands verb s true rest
      | .long body => readOperands verb (← s.readLong allowed body) false rest
      | .short body => readOperands verb (← s.readShort allowed body) false rest
      | .plain => readOperands verb (← if s.isWaiting then .ok (s.supply argument) else plain) false rest

end State

/-- The database that the environment names; it is only looked at where the arguments name none. -/
def checkDefault (fallback : Option String) (g : Given) : Except Stop Unit :=
  if g.db.isNone ∧ fallback = some "" then .error .invalidValue else .ok ()

def checkCommand (verb : Verb) (g : Given) : Except Stop Unit := do
  if g.id.isSome ∧ g.filter.isSome then throw .conflict
  if g.operands.length < verb.operands then throw .missingOperand
  if verb = .insertMany ∧ g.ids.isNone then throw .missingOperand

def readCommand (fallback : Option String) (verb : Verb) (arguments : List String) : Except Stop Given := do
  let given ← (← State.readOperands verb {} false arguments).settle
  checkDefault fallback given
  checkCommand verb given
  return given

def Verb.command (verb : Verb) (g : Given) : Command :=
  let operand (n : Nat) : String := g.operands[n]?.getD ""
  match verb with
  | create => .create (operand 0) (operand 1)
  | createMany => .createMany (operand 0) (operand 1)
  | insert => .insert (operand 0) (operand 1) (operand 2)
  | insertMany => .insertMany (operand 0) (g.ids.getD []) (operand 1)
  | read => .read (operand 0) g.id g.filter
  | update => .update (operand 0) (operand 1) (operand 2)
  | delete => .delete (operand 0) (operand 1)
  | collections => .collections

/-! ## In front of the command -/

def readHelp : List String → Stop
  | [] => .help
  | [word] => if isCommandWord word then .help else .invalidCommand
  | _ => .invalidCommand

def readArguments (fallback : Option String) (s : State) (trailing : Bool) :
    List String → Except Stop (State × Option (Verb × Given))
  | [] => .ok (s, none)
  | argument :: rest => do
    if trailing then throw (if isCommandWord argument then .unknownArgument else .invalidCommand)
    else if !s.isWaiting ∧ argument = "help" then throw (readHelp rest)
    else
      match (if s.isWaiting then none else verbs.lookup argument), State.shape argument with
      | some verb, _ => return (s, some (verb, ← readCommand fallback verb rest))
      | none, .separator => readArguments fallback s true rest
      | none, .long body => readArguments fallback (← s.readLong (switches none) body) false rest
      | none, .short body => readArguments fallback (← s.readShort (switches none) body) false rest
      | none, .plain =>
        if s.isWaiting then readArguments fallback (s.supply argument) false rest else throw .invalidCommand

/-- What is given behind the command goes before what is given in front of it. -/
def merge (fallback : Option String) (front behind : Given) (verb : Verb) : Arguments where
  command := verb.command behind
  db := (behind.db.or front.db).or fallback
  config := behind.config.or front.config
  format := (behind.format.or front.format).getD .text
  color := (behind.color.or front.color).getD .auto
  verbose := (behind.verbose.or front.verbose).getD 0
  quiet := (behind.quiet.or front.quiet).isSome

/-- Reads a command line; `fallback` is the database that the environment names. -/
def parse (fallback : Option String) (arguments : List String) : Except Stop Arguments := do
  let (state, command) ← readArguments fallback {} false arguments
  let front ← state.settle
  checkDefault fallback front
  match command with
  | some (verb, behind) => return merge fallback front behind verb
  | none => throw (if front.isEmpty ∧ fallback.isNone then .helpForNothing else .missingCommand)

end DocStore.CommandLine
