/-!
# Command arguments

The arguments behind a command are options, which start with two hyphens, and operands. A value
follows its option as the next argument or behind an equals sign. A grammar says which options a
command takes; the first argument against it, from the left, is the fault, unless help was asked for
before. An argument of two hyphens makes operands of all that follow.
-/

namespace ShootMachines.Command

/-- How an option is given. -/
inductive Arity where
  /-- At most once, without a value. -/
  | flag
  /-- At most once, with a value. -/
  | single
  /-- Any number of times, each with a value. -/
  | many
  deriving DecidableEq, Repr

/-- The options that a command takes, and how many operands. -/
structure Grammar where
  options : List (String × Arity)
  operands : Nat
  deriving Repr

/-- Why arguments make no command. -/
inductive UsageFault where
  | noCommand
  | unknownCommand (name : String)
  | unknownOption (name : String)
  | unexpectedOperand (text : String)
  | unexpectedValue (option : String)
  | missingValue (name : String)
  | repeated (option : String)
  | missing (name : String)
  | conflict (option other : String)
  deriving DecidableEq, Repr

/-- The fault in words. -/
def UsageFault.message : UsageFault → String
  | .noCommand => "a command is required"
  | .unknownCommand name => "unrecognized command '" ++ name ++ "'"
  | .unknownOption name => "unexpected option '" ++ name ++ "'"
  | .unexpectedOperand text => "unexpected argument '" ++ text ++ "'"
  | .unexpectedValue option => "option '--" ++ option ++ "' takes no value"
  | .missingValue name => "a value is required for '" ++ name ++ "'"
  | .repeated option => "option '--" ++ option ++ "' cannot be given more than once"
  | .missing name => "'" ++ name ++ "' is required"
  | .conflict option other => "option '--" ++ option ++ "' cannot be given with '--" ++ other ++ "'"

/-- The form of one argument. -/
inductive Word where
  /-- Two hyphens alone. -/
  | separator
  /-- The name of an option, and the value behind an equals sign. -/
  | long (name : String) (value : Option String)
  /-- Letters behind one hyphen. -/
  | short (first : Char) (others : List Char)
  | operand (text : String)
  deriving DecidableEq, Repr

/-- The form of an argument. One hyphen alone is an operand. -/
def Word.of (argument : String) : Word :=
  match argument.toList with
  | ['-', '-'] => .separator
  | '-' :: '-' :: rest =>
      let name := String.ofList (rest.takeWhile (· ≠ '='))
      match rest.dropWhile (· ≠ '=') with
      | [] => .long name none
      | _ :: value => .long name (some (String.ofList value))
  | '-' :: first :: others => .short first others
  | _ => .operand argument

/-- The arguments of a command, in the order given. -/
structure Arguments where
  flags : List String := []
  values : List (String × String) := []
  operands : List String := []
  deriving DecidableEq, Repr

namespace Arguments

/-- The arguments with one more flag. -/
def addFlag (given : Arguments) (option : String) : Except UsageFault Arguments :=
  if given.flags.contains option then .error (.repeated option)
  else .ok { given with flags := given.flags ++ [option] }

/-- The arguments with one more value of an option. -/
def addValue (given : Arguments) (option : String) (arity : Arity) (value : String) :
    Except UsageFault Arguments :=
  if value.isEmpty then .error (.missingValue option)
  else if arity = .single ∧ given.values.any (·.1 = option) then .error (.repeated option)
  else .ok { given with values := given.values ++ [(option, value)] }

/-- The arguments with one more operand. -/
def addOperand (given : Arguments) (grammar : Grammar) (text : String) :
    Except UsageFault Arguments :=
  if given.operands.length = grammar.operands then .error (.unexpectedOperand text)
  else if text.isEmpty then .error (.missingValue "operand")
  else .ok { given with operands := given.operands ++ [text] }

/-- Read further arguments by a grammar, or nothing if help is asked for. -/
def read (grammar : Grammar) (given : Arguments) :
    List String → Except UsageFault (Option Arguments)
  | [] => .ok (some given)
  | argument :: rest =>
      match Word.of argument with
      | .separator => (rest.foldlM (fun given text => addOperand given grammar text) given).map some
      | .operand text => do read grammar (← given.addOperand grammar text) rest
      | .short first others =>
          if first = 'h' then .ok none
          else .error (.unknownOption (String.ofList ('-' :: first :: others)))
      | .long name value =>
          if name = "help" ∧ value = none then .ok none
          else
            match grammar.options.lookup name, value with
            | none, _ => .error (.unknownOption ("--" ++ name))
            | some .flag, none => do read grammar (← given.addFlag name) rest
            | some .flag, some _ => .error (.unexpectedValue name)
            | some arity, some value => do read grammar (← given.addValue name arity value) rest
            | some arity, none =>
                match rest with
                | [] => .error (.missingValue name)
                | next :: rest =>
                    match Word.of next with
                    | .operand value => do read grammar (← given.addValue name arity value) rest
                    | _ => .error (.missingValue name)

/-- The value of an option that may be missing. -/
def value? (given : Arguments) (option : String) : Option String :=
  given.values.lookup option

/-- The value of an option that must be given. -/
def value (given : Arguments) (option : String) : Except UsageFault String :=
  match given.value? option with
  | some value => .ok value
  | none => .error (.missing ("--" ++ option))

/-- The values of an option, in order. -/
def all (given : Arguments) (option : String) : List String :=
  (given.values.filter (·.1 = option)).map Prod.snd

/-- The operand of a command that takes one. -/
def operand (given : Arguments) (name : String) : Except UsageFault String :=
  match given.operands with
  | text :: _ => .ok text
  | [] => .error (.missing name)

end Arguments

end ShootMachines.Command
