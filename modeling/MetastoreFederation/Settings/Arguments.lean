import MetastoreFederation.Settings

/-!
Settings from a command line and from the environment. A setting is given at most once on the
command line; what is not given there is taken from its variable, and else keeps its default.
-/

set_option autoImplicit false
set_option relaxedAutoImplicit false

namespace MetastoreFederation.Settings

/-- Why a command line gives no settings. -/
inductive ArgumentError
  | invalidValue
  | valueValidation
  | unknownArgument
  | argumentConflict
  | tooManyValues
  | displayHelp
deriving DecidableEq, Repr

/-- The settings that can be given. -/
inductive Setting
  | databaseResolution
  | statusDeadline
  | pollingInterval
  | requestTimeout
  | overwrite
deriving DecidableEq, Repr

namespace Setting

/-- The settings in the order in which the environment is looked at. -/
def all : List Setting :=
  [databaseResolution, statusDeadline, pollingInterval, requestTimeout, overwrite]

/-- The name on the command line, without the dashes in front. -/
def argumentName : Setting → String
  | databaseResolution => "database-resolution"
  | statusDeadline => "status-deadline"
  | pollingInterval => "status-polling-interval"
  | requestTimeout => "request-timeout"
  | overwrite => "overwrite-config-on-shutdown"

/-- The variable of the environment. -/
def variableName : Setting → String
  | databaseResolution => "FEDERATION_DATABASE_RESOLUTION"
  | statusDeadline => "FEDERATION_STATUS_DEADLINE"
  | pollingInterval => "FEDERATION_POLLING_INTERVAL"
  | requestTimeout => "FEDERATION_REQUEST_TIMEOUT"
  | overwrite => "FEDERATION_OVERWRITE_CONFIG_ON_SHUTDOWN"

/-- The setting of a name on the command line. -/
def ofArgument? (name : String) : Option Setting :=
  all.find? fun s => s.argumentName == name

end Setting

private def duration (value : String) : Except ArgumentError Duration :=
  (Duration.parse value).mapError fun _ => .valueValidation

/-- The value of a name among the given ones. -/
private def choice {α : Type} (cases : List (String × α)) (value : String) :
    Except ArgumentError α :=
  match cases.lookup value with
  | some a => .ok a
  | none => .error .invalidValue

/-- Enters the text of a setting. -/
def enter (s : Settings) (setting : Setting) (value : String) : Except ArgumentError Settings :=
  match setting with
  | .databaseResolution => do return { s with resolution := ← choice Resolution.names value }
  | .statusDeadline => do return { s with statusDeadline := ← duration value }
  | .pollingInterval => do return { s with pollingInterval := ← duration value }
  | .requestTimeout => do return { s with requestTimeout := ← duration value }
  | .overwrite => do
    return { s with overwriteOnShutdown := ← choice [("true", true), ("false", false)] value }

/-- A command line that was read up to some argument. -/
structure CommandLine where
  settings : Settings
  given : List Setting
  /-- The setting named last, with its value if that was read. -/
  pending : Option (Setting × Option String)

namespace CommandLine

def start : CommandLine := ⟨{}, [], none⟩

/-- Enters a setting that is given now. -/
def give (c : CommandLine) (setting : Setting) (value : String) :
    Except ArgumentError CommandLine := do
  if setting ∈ c.given then throw .argumentConflict
  return { c with settings := ← enter c.settings setting value, given := setting :: c.given }

/-- Enters the setting named last, which needs a value. -/
def settle (c : CommandLine) : Except ArgumentError CommandLine :=
  match c.pending with
  | none => .ok c
  | some (_, none) => .error .invalidValue
  | some (setting, some value) => { c with pending := none }.give setting value

/-- Reads a name behind two dashes, with what follows its equals sign. -/
def named (c : CommandLine) (name : String) (value? : Option String) :
    Except ArgumentError CommandLine :=
  match Setting.ofArgument? name, value? with
  | some .overwrite, none => do (← c.settle).give .overwrite "true"
  | some .overwrite, some _ => .error .tooManyValues
  | some setting, some value => do (← c.settle).give setting value
  | some setting, none => do return { ← c.settle with pending := some (setting, none) }
  | none, _ =>
    if name = "help" then
      if value?.isSome then .error .tooManyValues else c.settle.bind fun _ => .error .displayHelp
    else .error .unknownArgument

/-- Reads what is neither a name nor a value. Only the letter for help is known. -/
def lettered (c : CommandLine) (letters : List Char) : Except ArgumentError CommandLine :=
  if letters.head? = some 'h' then c.settle.bind fun _ => .error .displayHelp
  else .error .unknownArgument

/-- Reads an argument that may be a value. -/
def bare (c : CommandLine) (argument : String) : Except ArgumentError CommandLine :=
  match c.pending with
  | some (setting, none) => .ok { c with pending := some (setting, some argument) }
  | _ => .error .unknownArgument

/-- Reads one argument. -/
def read (c : CommandLine) (argument : String) : Except ArgumentError CommandLine :=
  match argument.toList with
  | '-' :: '-' :: rest =>
    let name := rest.takeWhile (· != '=')
    let value? := match rest.drop name.length with
      | _ :: value => some (String.ofList value)
      | [] => none
    c.named (String.ofList name) value?
  | '-' :: letter :: letters => c.lettered (letter :: letters)
  | _ => c.bare argument

/-- Reads arguments. Behind two lone dashes no argument has a meaning. -/
def readAll (c : CommandLine) : List String → Except ArgumentError CommandLine
  | [] => c.settle
  | "--" :: rest => if rest.isEmpty then c.settle else .error .unknownArgument
  | argument :: rest => do (← c.read argument).readAll rest

end CommandLine

/-- Enters the variables of the settings that are not given yet. -/
def enterVariables (environment : List (String × String)) (c : CommandLine) :
    List Setting → Except ArgumentError Settings
  | [] => .ok c.settings
  | setting :: rest => do
    if setting ∈ c.given then enterVariables environment c rest
    else
      match environment.lookup setting.variableName with
      | some value => enterVariables environment (← c.give setting value) rest
      | none => enterVariables environment c rest

/-- The settings of a command line in an environment. -/
def ofArguments (environment : List (String × String)) (arguments : List String) :
    Except ArgumentError Settings := do
  enterVariables environment (← CommandLine.start.readAll arguments) Setting.all

/-- The settings of an environment. Where it gives none, all have their defaults. -/
def ofEnvironment (environment : List (String × String)) : Settings :=
  (ofArguments environment []).toOption.getD {}

end MetastoreFederation.Settings
