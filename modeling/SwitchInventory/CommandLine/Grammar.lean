namespace SwitchInventory.CommandLine

structure OptionSpec where
  name : String
  short? : Option Char := none
  /-- whether it may be given more than once -/
  repeatable : Bool := false
  /-- whether it has to be given -/
  required : Bool := false
  /-- the only values it takes, where they are limited -/
  choices? : Option (List String) := none
  summary : String := ""

/-- A command: its options, the names of its positional values, all of which have to be given, and
the commands within it, one of which has to be chosen where there are any. -/
structure CommandSpec where
  name : String
  summary : String := ""
  options : List OptionSpec := []
  positionals : List String := []
  commands : List CommandSpec := []
  /-- whether the version can be asked for -/
  versioned : Bool := false

inductive Refusal where
  /-- help on the command with these names is asked for -/
  | helpAsked (path : List String)
  | versionAsked
  /-- a command is missing, and nothing else is given either -/
  | helpNeeded
  | missingCommand
  | unknownCommand
  | unknownArgument
  /-- a value is missing, or is not one of those an option takes -/
  | invalidValue
  /-- a value is attached to an option that takes none -/
  | unexpectedValue
  /-- an option is given again -/
  | repeatedOption
  | missingArgument
  deriving DecidableEq, Repr

def Refusal.message : Refusal → String
  | helpAsked _ => "help is asked for"
  | versionAsked => "the version is asked for"
  | helpNeeded => "no command is given; ask for --help"
  | missingCommand => "a command is missing"
  | unknownCommand => "there is no such command"
  | unknownArgument => "there is no such argument"
  | invalidValue => "an option lacks its value or does not take the given one"
  | unexpectedValue => "an option takes no value"
  | repeatedOption => "an option is given more than once"
  | missingArgument => "a required argument is missing"

/-- The values given to one command, under the names of its options and positional values. -/
structure Given where
  command : String
  values : List (String × String)
  deriving DecidableEq, Repr

namespace Given

def value? (g : Given) (name : String) : Option String := g.values.lookup name

def allValues (g : Given) (name : String) : List String :=
  (g.values.filter (·.1 = name)).map Prod.snd

end Given

/-- How far the arguments of one command have been read. -/
structure Progress where
  /-- the values taken up -/
  values : List (String × String) := []
  /-- an option whose value has still to be given or to be taken up -/
  pending? : Option (OptionSpec × Option String) := none
  /-- whether all further arguments are positional -/
  trailing : Bool := false

namespace Progress

def record (p : Progress) (o : OptionSpec) (value : String) : Except Refusal Progress :=
  if !o.repeatable && (p.values.lookup o.name).isSome then .error .repeatedOption
  else if (o.choices?.map (·.contains value)).getD true then
    .ok { p with values := p.values ++ [(o.name, value)], pending? := none }
  else .error .invalidValue

def settle (p : Progress) : Except Refusal Progress :=
  match p.pending? with
  | none => .ok p
  | some (_, none) => .error .invalidValue
  | some (o, some value) => p.record o value

/-- The option whose value the next argument may be. -/
def awaiting? (p : Progress) : Option OptionSpec :=
  match p.pending? with
  | some (o, none) => some o
  | _ => none

def option (p : Progress) (o : OptionSpec) (attached? : Option String) :
    Except Refusal Progress := do
  let p ← p.settle
  match attached? with
  | some value => p.record o value
  | none => return { p with pending? := some (o, none) }

def positional (p : Progress) (name value : String) : Except Refusal Progress := do
  let p ← p.settle
  return { p with values := p.values ++ [(name, value)] }

/-- Ends with a question that the program answers by itself. -/
def ask (p : Progress) (question : Refusal) : Except Refusal Progress := do
  let _ ← p.settle
  .error question

end Progress

inductive Shape where
  /-- two dashes only -/
  | escape
  /-- two dashes and a name, perhaps an equals sign and a value -/
  | long (name : String) (attached? : Option String)
  /-- a dash and a letter, perhaps a value with or without an equals sign before it -/
  | short (letter : Char) (attached? : Option String)
  | plain

namespace Shape

/-- The value attached to a letter. -/
def attachedToLetter? : List Char → Option String
  | [] => none
  | '=' :: s => some (String.ofList s)
  | s => some (String.ofList s)

/-- The name and the value in an argument after its two dashes. -/
def ofLong (s : List Char) : Shape :=
  let name := s.takeWhile (· ≠ '=')
  match s.dropWhile (· ≠ '=') with
  | [] => long (String.ofList name) none
  | _ :: value => long (String.ofList name) (some (String.ofList value))

def ofArgument (argument : String) : Shape :=
  match argument.toList with
  | ['-', '-'] => escape
  | '-' :: '-' :: s => ofLong s
  | '-' :: c :: s => short c (attachedToLetter? s)
  | _ => plain

end Shape

namespace CommandSpec

def command? (spec : CommandSpec) (name : String) : Option CommandSpec :=
  spec.commands.find? (·.name = name)

/-- Whether a name stands for a command here, help among them. -/
def isCommandName (spec : CommandSpec) (name : String) : Bool :=
  !spec.commands.isEmpty && (name = "help" || (spec.command? name).isSome)

/-- Answers a request for help on the command that names lead to; `path` leads to this one. -/
def helpOn (spec : CommandSpec) (path : List String) : List String → Refusal
  | [] => .helpAsked path
  | name :: names =>
    match spec.command? name with
    | some inner => inner.helpOn (path ++ [name]) names
    | none =>
      if spec.isCommandName name && names.isEmpty then .helpAsked (path ++ [name])
      else .unknownCommand

/-- Reads an argument that is neither a command nor the value of an option. -/
def takeArgument (spec : CommandSpec) (path : List String) (p : Progress) (argument : String) :
    Except Refusal Progress :=
  match if p.trailing then Shape.plain else Shape.ofArgument argument with
  | .escape => .ok { p with trailing := true }
  | .long name attached? =>
    match spec.options.find? (·.name = name) with
    | some o => p.option o attached?
    | none =>
      if name = "help" || (spec.versioned && name = "version") then
        if attached?.isSome then .error .unexpectedValue
        else p.ask (if name = "help" then .helpAsked path else .versionAsked)
      else .error .unknownArgument
  | .short letter attached? =>
    match spec.options.find? (·.short? = some letter) with
    | some o => p.option o attached?
    | none =>
      if letter = 'h' then p.ask (.helpAsked path)
      else if spec.versioned && letter = 'V' then p.ask .versionAsked
      else .error .unknownArgument
  | .plain =>
    match p.awaiting?, p.trailing with
    | some o, false => .ok { p with pending? := some (o, some argument) }
    | _, _ =>
      match spec.positionals.find? (fun name => (p.values.lookup name).isNone) with
      | some name => p.positional name argument
      | none =>
        if p.trailing && spec.isCommandName argument then .error .unknownArgument
        else if !spec.commands.isEmpty && spec.positionals.isEmpty then .error .unknownCommand
        else .error .unknownArgument

def finish (spec : CommandSpec) (p : Progress) : Except Refusal (List Given) := do
  let p ← p.settle
  if !spec.commands.isEmpty then
    if p.values.isEmpty then .error .helpNeeded else .error .missingCommand
  else
    let needed := (spec.options.filter (·.required)).map (·.name) ++ spec.positionals
    if needed.all fun name => (p.values.lookup name).isSome then return [⟨spec.name, p.values⟩]
    else .error .missingArgument

/-- Reads the arguments of a command; what they give to it comes first, then what they give to the
command chosen within it. -/
def read (spec : CommandSpec) (path : List String) (p : Progress) :
    List String → Except Refusal (List Given)
  | [] => spec.finish p
  | argument :: rest => do
    if !p.trailing && p.awaiting?.isNone && spec.isCommandName argument then
      match spec.command? argument with
      | some inner => do
        let given ← inner.read (path ++ [argument]) {} rest
        let p ← p.settle
        return ⟨spec.name, p.values⟩ :: given
      | none => .error (spec.helpOn path rest)
    else
      let p ← spec.takeArgument path p argument
      spec.read path p rest

end CommandSpec

end SwitchInventory.CommandLine
