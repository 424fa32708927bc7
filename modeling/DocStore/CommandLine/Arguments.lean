/-!
# Arguments

What a command line asks for: a command with its operands, and the options that hold for every command.
-/

namespace DocStore.CommandLine

inductive Command where
  | create (collection record : String)
  | createMany (collection records : String)
  | insert (collection id record : String)
  | insertMany (collection : String) (ids : List String) (records : String)
  | read (collection : String) (id filter : Option String)
  | update (collection id fields : String)
  | delete (collection id : String)
  | collections
deriving DecidableEq, Repr

inductive Format where
  | text
  | json
deriving DecidableEq, Repr

inductive Color where
  | auto
  | always
  | never
deriving DecidableEq, Repr

inductive LogLevel where
  | error
  | warn
  | info
  | debug
  | trace
deriving DecidableEq, Repr

structure Arguments where
  command : Command
  db : Option String
  config : Option String
  format : Format
  color : Color
  verbose : Nat
  quiet : Bool
deriving DecidableEq, Repr

/-- What is logged: errors only if that is asked for, else more with each step of verbosity. -/
def Arguments.logLevel (a : Arguments) : LogLevel :=
  if a.quiet then .error
  else
    match a.verbose with
    | 0 => .warn
    | 1 => .info
    | 2 => .debug
    | _ => .trace

/-- Why a command line asks for nothing that can be carried out: it is wrong, or asks for help or the version. -/
inductive Stop where
  | missingOperand
  | unknownArgument
  | invalidValue
  | tooManyValues
  | conflict
  | invalidCommand
  | missingCommand
  | helpForNothing
  | help
  | version
deriving DecidableEq, Repr

end DocStore.CommandLine
