import Lexeme.Command.Init
import Lexeme.Command.Tokens
import Lexeme.CommandLine.Environment

/-!
# Arguments

The command line is a command with its operands and options. Options that concern every command may
also stand before its name. Long options start with two hyphens and short ones with one; short
options may be run together, and a value may be attached to its option. No option may be given twice
in one place. Arguments are judged from left to right, so that a call for the version or for help
counts unless something before it is wrong. A value that stands right before the name of the command
is the exception: it is judged after all the rest.

## Main definitions

* `CommandName`, `OptionName`: the words of the command line.
* `readLevel`: the options and operands before or after the name of the command.
* `Invocation`, `Invocation.parse`: what the program is asked to do.
-/

namespace Lexeme

/-- The commands. -/
inductive CommandName where
  | tokens
  | check
  | stats
  | init
deriving DecidableEq, Repr

namespace CommandName

def all : List CommandName := [tokens, check, stats, init]

def text : CommandName → String
  | tokens => "tokens"
  | check => "check"
  | stats => "stats"
  | init => "init"

def ofText? (word : String) : Option CommandName := all.find? (·.text == word)

/-- Whether a command works on files. -/
def takesOperands : CommandName → Bool
  | init => false
  | tokens | check | stats => true

/-- Whether there is help about `words`: about everything, or about one command, of which the one
that gives help is one. -/
def haveHelp : (words : List String) → Bool
  | [] => true
  | [word] => word == "help" || (ofText? word).isSome
  | _ :: _ :: _ => false

end CommandName

/-- The options. -/
inductive OptionName where
  | verbose
  | config
  | noColor
  | version
  | help
  | format
  | strict
  | path
  | force
deriving DecidableEq, Repr

namespace OptionName

def long : OptionName → String
  | verbose => "verbose"
  | config => "config"
  | noColor => "no-color"
  | version => "version"
  | help => "help"
  | format => "format"
  | strict => "strict"
  | path => "path"
  | force => "force"

def short? : OptionName → Option Char
  | verbose => some 'v'
  | config => some 'c'
  | noColor => none
  | version => some 'V'
  | help => some 'h'
  | format => some 'F'
  | strict => some 's'
  | path => some 'p'
  | force => some 'f'

def takesValue : OptionName → Bool
  | config | format | path => true
  | _ => false

/-- Whether an option takes this value: paths are not empty, formats have a name. -/
def accepts (o : OptionName) (value : String) : Bool :=
  match o with
  | config | path => value != ""
  | format => (OutputFormat.ofName? value).isSome
  | _ => true

/-- The options for every command. -/
def common : List OptionName := [verbose, config, noColor, version, help]

/-- The options that may be given before the command, or after it. -/
def allowed : Option CommandName → List OptionName
  | none | some .check => common
  | some .tokens | some .stats => common ++ [format, strict]
  | some .init => common ++ [path, force]

def ofLong? (scope : Option CommandName) (word : String) : Option OptionName :=
  (allowed scope).find? (·.long == word)

def ofShort? (scope : Option CommandName) (letter : Char) : Option OptionName :=
  (allowed scope).find? (·.short? == some letter)

end OptionName

/-- Why the arguments lead to no command. -/
inductive Halt where
  /-- They are wrong. -/
  | usage
  /-- They ask for the version, maybe of one command. -/
  | version (command : Option CommandName)
  /-- They ask for help. -/
  | help
deriving DecidableEq, Repr

/-- The options given in one place, with their values, and the operands. -/
structure Level where
  options : List (OptionName × String) := []
  operands : List String := []
deriving DecidableEq, Repr

namespace Level

def has (l : Level) (o : OptionName) : Bool := l.options.any (·.1 == o)

def value? (l : Level) (o : OptionName) : Option String := l.options.lookup o

/-- Notes an option. Asking for the version or for help ends everything else. -/
def record (scope : Option CommandName) (l : Level) (o : OptionName) (value : String) :
    Except Halt Level :=
  if o = .version then .error (.version scope)
  else if o = .help then .error .help
  else if l.has o || !o.accepts value then .error .usage
  else .ok { l with options := l.options ++ [(o, value)] }

/-- Notes an operand, which must not be empty. -/
def addOperand (name : CommandName) (l : Level) (operand : String) : Except Halt Level :=
  if !name.takesOperands || operand == "" then .error .usage
  else .ok { l with operands := l.operands ++ [operand] }

end Level

/-- An option whose value is an argument of its own, with the value once it was read. Whether the
value is good is judged when the next argument is read. -/
abbrev Pending := Option (OptionName × Option String)

/-- Notes the option that was left open. -/
def Level.settle (scope : Option CommandName) (l : Level) : Pending → Except Halt Level
  | none => .ok l
  | some (_, none) => .error .usage
  | some (o, some value) => l.record scope o value

/-- An argument that is read as an option: a hyphen with something behind it. -/
def looksLikeOption (arg : List Char) : Bool := arg.head? == some '-' && arg.length > 1

/-- Reads what follows the two hyphens of a long option. -/
def readLong (scope : Option CommandName) (l : Level) (word : List Char) :
    Except Halt (Level × Pending) :=
  let name := word.takeWhile (· != '=')
  let attached := word.drop name.length
  match OptionName.ofLong? scope (String.ofList name) with
  | none => .error .usage
  | some o =>
    match o.takesValue, attached with
    | true, _ :: value => do return (← l.record scope o (String.ofList value), none)
    | true, [] => return (l, some (o, none))
    | false, [] => do return (← l.record scope o "", none)
    | false, _ :: _ => .error .usage

/-- Reads what follows the hyphen of short options. The value of an option may be attached, also
behind an equals sign. -/
def readShort (scope : Option CommandName) (l : Level) :
    List Char → Except Halt (Level × Pending)
  | [] => .ok (l, none)
  | letter :: rest =>
    match OptionName.ofShort? scope letter with
    | none => .error .usage
    | some o =>
      if o.takesValue then
        match rest with
        | [] => .ok (l, some (o, none))
        | '=' :: value => do return (← l.record scope o (String.ofList value), none)
        | value => do return (← l.record scope o (String.ofList value), none)
      else do readShort scope (← l.record scope o "") rest

/-- What was read up to the name of a command or to the end: the level, the option that is still
open, and the command with the arguments after its name. -/
structure Reading where
  level : Level
  pending : Pending := none
  command : Option (CommandName × List String) := none
deriving DecidableEq, Repr

/-- Reads arguments up to the name of a command or to their end. -/
def readLevel (scope : Option CommandName) (l : Level) (pending : Pending) :
    List String → Except Halt Reading
  | [] => .ok { level := l, pending }
  | arg :: args =>
    match pending, arg.toList with
    | some (o, none), cs =>
      if looksLikeOption cs then .error .usage else readLevel scope l (some (o, some arg)) args
    | _, '-' :: '-' :: c :: word => do
      let (l, pending) ← readLong scope (← l.settle scope pending) (c :: word)
      readLevel scope l pending args
    | _, ['-', '-'] =>
      match scope with
      | none => .error .usage
      | some name => do
        return { level := ← args.foldlM (Level.addOperand name) (← l.settle scope pending) }
    | _, '-' :: c :: rest => do
      let (l, pending) ← readShort scope (← l.settle scope pending) (c :: rest)
      readLevel scope l pending args
    | _, _ =>
      match scope with
      | some name => do
        readLevel scope (← (← l.settle scope pending).addOperand name arg) none args
      | none =>
        match CommandName.ofText? arg with
        | some name => .ok { level := l, pending, command := some (name, args) }
        | none =>
          .error (if arg == "help" && CommandName.haveHelp args then .help else .usage)

/-- What a command is asked to do. A format that is not given is left to the settings. -/
inductive Task where
  | tokens (paths : List String) (format : Option OutputFormat) (strict : Bool)
  | stats (paths : List String) (format : Option OutputFormat) (strict : Bool)
  | check (paths : List String)
  | init (request : InitRequest)
deriving DecidableEq, Repr

/-- What the program is asked to do. -/
structure Invocation where
  verbose : Bool
  config : Option String
  task : Task
deriving DecidableEq, Repr

/-- A truth value from the environment. -/
def boolVariable (env : Environment) (name : String) : Except Halt (Option Bool) :=
  match env.get? name with
  | none => .ok none
  | some "true" => .ok (some true)
  | some "false" => .ok (some false)
  | some _ => .error .usage

/-- A path from the environment. -/
def pathVariable (env : Environment) (name : String) : Except Halt (Option String) :=
  match env.get? name with
  | some "" => .error .usage
  | value => .ok value

/-- The default from a variable. An option that is given both before and after the command needs
none, so that the variable is not looked at. -/
def fromVariable (before after : Level) (o : OptionName) (default : Except Halt (Option α)) :
    Except Halt (Option α) :=
  if before.has o && after.has o then .ok none else default

/-- Commands that work on files need one at least. -/
def someOperands (l : Level) : Except Halt (List String) :=
  if l.operands.isEmpty then .error .usage else .ok l.operands

/-- The task of a command with its options and operands. -/
def taskOf (name : CommandName) (l : Level) : Except Halt Task :=
  let format := (l.value? .format).bind OutputFormat.ofName?
  match name with
  | .tokens => do return .tokens (← someOperands l) format (l.has .strict)
  | .stats => do return .stats (← someOperands l) format (l.has .strict)
  | .check => do return .check (← someOperands l)
  | .init => .ok (.init ⟨l.value? .path, l.has .force⟩)

/-- What the arguments ask for. An option after the command counts before the same option in front
of it, and that before a variable. -/
def Invocation.parse (env : Environment) (args : List String) : Except Halt Invocation := do
  let front ← readLevel none {} none args
  match front.command with
  | none => .error .usage
  | some (name, args) =>
    let rest ← readLevel (some name) {} none args
    let after ← rest.level.settle (some name) rest.pending
    let before ← front.level.settle none front.pending
    let verbose ← fromVariable before after .verbose (boolVariable env "CLEXT_VERBOSE")
    let _ ← fromVariable before after .noColor (boolVariable env "CLEXT_NO_COLOR")
    let config ← fromVariable before after .config (pathVariable env "CLEXT_CONFIG")
    return {
      verbose := after.has .verbose || before.has .verbose || verbose.getD false
      config := after.value? .config <|> before.value? .config <|> config
      task := ← taskOf name after }

end Lexeme
