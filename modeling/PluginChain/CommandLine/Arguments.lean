import PluginChain.Config.Environment
import PluginChain.Files.Directory

/-!
# Arguments of the command line

A command line names one command. Options for all commands may stand before the command or after it;
of two configuration files the one after the command counts, and both count more than the one that
the environment names. An option may be given once on either side. Words after a double dash are no
options.

In `osrkit` an invocation is an `Args` and its command a `Command`.
-/

namespace PluginChain.CommandLine

/-- What a command line asks for. -/
inductive Command where
  /-- List the candidates for a library, under the search paths of the application or of the
      system. -/
  | candidates (name : String) (app : Bool)
  /-- Print the effective configuration. -/
  | config
  /-- List the libraries that a shared object needs. -/
  | needed (path : Path)
  /-- Load the plugin and report what was acquired, as text or as JSON. -/
  | probe (json : Bool)
deriving DecidableEq, Repr

/-- A command with the configuration file to use. -/
structure Invocation where
  command : Command
  config : Option Path
deriving DecidableEq, Repr

/-- Why a command line does not lead to a command. -/
inductive Stop where
  | help
  | version
  | misuse
deriving DecidableEq, Repr

/-- The commands by name. -/
inductive CommandName where
  | candidates
  | config
  | needed
  | probe
deriving DecidableEq, Repr

namespace CommandName

/-- All commands. -/
def all : List CommandName := [candidates, config, needed, probe]

/-- The word for a command. -/
def word : CommandName → String
  | candidates => "candidates"
  | config => "config"
  | needed => "needed"
  | probe => "probe"

/-- The command for a word. -/
def ofWord? (s : String) : Option CommandName :=
  all.find? fun c => c.word = s

/-- The switch that a command has of its own. -/
def switch? : CommandName → Option String
  | candidates => some "app"
  | config => none
  | needed => none
  | probe => some "json"

/-- Whether a command takes an operand. -/
def hasOperand : CommandName → Bool
  | candidates | needed => true
  | config | probe => false

end CommandName

/-- What was seen on one side of the command. -/
structure Seen where
  config : Option String := none
  verbose : Bool := false
  switch : Bool := false
  operand : Option String := none
  /-- The next word is the value of the option for the configuration file. -/
  awaiting : Bool := false
  /-- A double dash was seen. -/
  plain : Bool := false

namespace Seen

/-- Enters the configuration file; a second one or an empty one is misuse. -/
def setConfig (s : Seen) (value : String) : Except Stop Seen :=
  if s.config.isSome || value.isEmpty then .error .misuse
  else .ok { s with config := some value, awaiting := false }

/-- Enters the option for more output. -/
def setVerbose (s : Seen) : Except Stop Seen :=
  if s.verbose then .error .misuse else .ok { s with verbose := true }

/-- Enters the switch of the command. -/
def setSwitch (s : Seen) : Except Stop Seen :=
  if s.switch then .error .misuse else .ok { s with switch := true }

/-- Enters the operand of the command. -/
def setOperand (command : CommandName) (s : Seen) (value : String) : Except Stop Seen :=
  if command.hasOperand && s.operand.isNone then
    .ok { s with operand := some value } else .error .misuse

end Seen

/-- Takes the letters after one dash. The option for the configuration file takes what is left of
    the word as its value, without an equals sign before it; the version is told before the command
    only. -/
def takeLetters (command : Option CommandName) (s : Seen) : List Char → Except Stop Seen
  | [] => .ok s
  | 'v' :: rest => do
    let s ← s.setVerbose
    takeLetters command s rest
  | 'c' :: rest =>
    match rest with
    | [] => if s.config.isSome then .error .misuse else .ok { s with awaiting := true }
    | '=' :: value => s.setConfig (String.ofList value)
    | value => s.setConfig (String.ofList value)
  | 'h' :: _ => .error .help
  | 'V' :: _ => if command.isNone then .error .version else .error .misuse
  | _ :: _ => .error .misuse

/-- Takes the word after two dashes, with the value that an equals sign attaches to it. -/
def takeWord (command : Option CommandName) (s : Seen) (word : String) (value : Option String) :
    Except Stop Seen :=
  if word = "config" then
    match value with
    | some value => s.setConfig value
    | none => if s.config.isSome then .error .misuse else .ok { s with awaiting := true }
  else if value.isSome then .error .misuse
  else if word = "verbose" then s.setVerbose
  else if word = "help" then .error .help
  else if word = "version" && command.isNone then .error .version
  else if command.bind CommandName.switch? = some word then s.setSwitch
  else .error .misuse

/-- Takes an option as it stands on the command line: letters after one dash, or a word after
    two. -/
def takeOption (command : Option CommandName) (s : Seen) : List Char → Except Stop Seen
  | '-' :: '-' :: word =>
    let name := word.takeWhile (· != '=')
    match word.dropWhile (· != '=') with
    | _ :: value => takeWord command s (String.ofList name) (some (String.ofList value))
    | [] => takeWord command s (String.ofList name) none
  | letters => takeLetters command s (letters.drop 1)

/-- Whether a word is an option: a dash with something after it. -/
def isOption (word : String) : Bool :=
  match word.toList with
  | '-' :: _ :: _ => true
  | _ => false

/-- Takes the words after the command. -/
def takeOperands (command : CommandName) (s : Seen) : List String → Except Stop Seen
  | [] => if s.awaiting then .error .misuse else .ok s
  | word :: rest => do
    if s.plain then
      let s ← s.setOperand command word
      takeOperands command s rest
    else if isOption word then
      if s.awaiting then throw .misuse
      else if word = "--" then takeOperands command { s with plain := true } rest
      else
        let s ← takeOption (some command) s word.toList
        takeOperands command s rest
    else if s.awaiting then
      let s ← s.setConfig word
      takeOperands command s rest
    else
      let s ← s.setOperand command word
      takeOperands command s rest

/-- Takes the words after the command `help`: the names of commands, of which one at most is told
    about. -/
def takeHelp : List String → Stop
  | [] => .help
  | [word] => if word = "help" || (CommandName.ofWord? word).isSome then .help else .misuse
  | _ => .misuse

/-- Takes the words up to the command, and those after it. -/
def takeCommand (s : Seen) : List String → Except Stop (Seen × CommandName × Seen)
  | [] => .error .misuse
  | word :: rest => do
    if isOption word then
      if s.awaiting || word = "--" then throw .misuse
      else
        let s ← takeOption none s word.toList
        takeCommand s rest
    else if s.awaiting then
      let s ← s.setConfig word
      takeCommand s rest
    else if word = "help" then throw (takeHelp rest)
    else
      match CommandName.ofWord? word with
      | none => throw .misuse
      | some command =>
        let after ← takeOperands command {} rest
        return (s, command, after)

/-- The command that a name and what was seen after it make. -/
def Command.ofSeen (name : CommandName) (s : Seen) : Except Stop Command :=
  match name, s.operand with
  | .candidates, some library => .ok (.candidates library s.switch)
  | .config, _ => .ok .config
  | .needed, some path =>
    if path.isEmpty then .error .misuse else .ok (.needed (Text.Utf8.encode path))
  | .probe, _ => .ok (.probe s.switch)
  | _, none => .error .misuse

/-- The configuration file to use. The environment is asked on each side of the command that names
    no file, and an empty value there is misuse. -/
def configFile (before after : Option String) (fromEnvironment : Option Path) :
    Except Stop (Option Path) :=
  match fromEnvironment with
  | some [] =>
    if before.isSome && after.isSome then .ok (after.map Text.Utf8.encode) else .error .misuse
  | _ => .ok (((after <|> before).map Text.Utf8.encode) <|> fromEnvironment)

/-- The invocation that a command line makes. -/
def Invocation.ofArguments (arguments : List String) (environment : Environment) :
    Except Stop Invocation := do
  let (before, name, after) ← takeCommand {} arguments
  let command ← Command.ofSeen name after
  let config ← configFile before.config after.config (environment Environment.configVariable)
  return { command, config }

end PluginChain.CommandLine
