import BaseApi.DocumentOptions

/-!
# Command lines

A command line is a command with options. Options are described in tables: a flag stands alone, an
option with a value takes the rest of its argument or the next argument, which may not look like an
option. Flags may be clustered behind one dash, and an option with a value may end the cluster. No
option may be given twice to the same command, and no other arguments are allowed.
-/

namespace BaseApi

/-! ## Options -/

/-- Why a command line is refused. -/
inductive UsageError where
  | missingCommand
  | unknownCommand (name : String)
  | unexpectedArgument (argument : String)
  | repeatedOption (name : String)
  | missingOption (name : String)
  | missingValue (name : String)
  | unexpectedValue (name : String)
  | invalidValue (name value : String)
deriving DecidableEq

def UsageError.message : UsageError → String
  | missingCommand => "a command is required: convert or inspect"
  | unknownCommand name => "unknown command: " ++ name
  | unexpectedArgument argument => "unexpected argument: " ++ argument
  | repeatedOption name => "option given more than once: --" ++ name
  | missingOption name => "option required: --" ++ name
  | missingValue name => "option needs a value: --" ++ name
  | unexpectedValue name => "option takes no value: --" ++ name
  | invalidValue name value => "invalid value for --" ++ name ++ ": " ++ value

/-- What an option does to the settings that are being read. -/
inductive OptionAction (σ : Type) where
  /-- It stands alone. -/
  | flag (set : σ → σ)
  /-- It takes a value, which it may refuse. -/
  | value (set : σ → String → Option σ)
  /-- It stands alone, and what follows it no longer counts. -/
  | stop (set : σ → σ)

/-- An option of a command. -/
structure OptionRule (σ : Type) where
  long : String
  short : Option Char := none
  /-- Whether the settings already have it. -/
  isGiven : σ → Bool
  action : OptionAction σ

/-- What the arguments after one that has been read are for. -/
inductive Awaited (σ : Type) where
  | anything
  | valueOf (rule : OptionRule σ)
  | nothing

namespace OptionRule

variable {σ : Type}

def take (rule : OptionRule σ) (set : σ → String → Option σ) (settings : σ) (value : String) :
    Except UsageError σ :=
  if rule.isGiven settings then .error (.repeatedOption rule.long)
  else if value = "" then .error (.missingValue rule.long)
  else
    match set settings value with
    | some settings => .ok settings
    | none => .error (.invalidValue rule.long value)

def raise (rule : OptionRule σ) (set : σ → σ) (settings : σ) : Except UsageError σ :=
  if rule.isGiven settings then .error (.repeatedOption rule.long) else .ok (set settings)

/-- Reads an option that is written out, with the value attached to it, if there is one. -/
def readLong (rules : List (OptionRule σ)) (settings : σ) (name : String)
    (attached : Option String) : Except UsageError (σ × Awaited σ) :=
  match rules.find? (fun rule => rule.long == name) with
  | none => .error (.unexpectedArgument ("--" ++ name))
  | some rule =>
      match rule.action, attached with
      | .flag set, none => do pure (← rule.raise set settings, .anything)
      | .stop set, none => do pure (← rule.raise set settings, .nothing)
      | .value set, some value => do pure (← rule.take set settings value, .anything)
      | .value _, none => .ok (settings, .valueOf rule)
      | _, some _ => .error (.unexpectedValue name)

/-- Reads a cluster of letters, the last of which may have its value behind it. -/
def readCluster (rules : List (OptionRule σ)) :
    σ → List Char → Except UsageError (σ × Awaited σ)
  | settings, [] => .ok (settings, .anything)
  | settings, letter :: rest =>
      match rules.find? (fun rule => rule.short == some letter) with
      | none => .error (.unexpectedArgument (String.ofList ['-', letter]))
      | some rule =>
          match rule.action with
          | .flag set => do readCluster rules (← rule.raise set settings) rest
          | .stop set => do pure (← rule.raise set settings, .nothing)
          | .value set =>
              match rest with
              | [] => .ok (settings, .valueOf rule)
              | '=' :: value => do
                  pure (← rule.take set settings (String.ofList value), .anything)
              | value => do pure (← rule.take set settings (String.ofList value), .anything)

/-- Reads one argument that has to be an option. -/
def readOption (rules : List (OptionRule σ)) (settings : σ) (argument : String) :
    Except UsageError (σ × Awaited σ) :=
  match argument.toList with
  | '-' :: '-' :: rest =>
      let (name, value) := rest.span (· != '=')
      readLong rules settings (String.ofList name)
        (match value with
          | [] => none
          | _ :: value => some (String.ofList value))
  | '-' :: letter :: rest => readCluster rules settings (letter :: rest)
  | _ => .error (.unexpectedArgument argument)

/-- Whether an argument can only be an option. -/
def looksLikeOption (argument : String) : Bool :=
  match argument.toList with
  | '-' :: _ :: _ => true
  | _ => false

/-- Reads the arguments of a command, all of which have to be options and their values. Two dashes
alone end the options, so nothing may follow them. -/
def readAll (rules : List (OptionRule σ)) :
    Awaited σ → σ → List String → Except UsageError σ
  | .valueOf rule, _, [] => .error (.missingValue rule.long)
  | _, settings, [] => .ok settings
  | .nothing, settings, _ :: _ => .ok settings
  | .valueOf rule, settings, argument :: rest =>
      match rule.action with
      | .value set =>
          if looksLikeOption argument then .error (.missingValue rule.long)
          else do readAll rules .anything (← rule.take set settings argument) rest
      | _ => .error (.unexpectedArgument argument)
  | .anything, settings, argument :: rest =>
      if argument = "--" then
        match rest with
        | [] => .ok settings
        | next :: _ => .error (.unexpectedArgument next)
      else do
        let (settings, awaited) ← readOption rules settings argument
        readAll rules awaited settings rest

end OptionRule

/-! ## Commands -/

/-- What a conversion writes. -/
inductive OutputFormat where
  | openApi
  /-- The schema as it is, without embedded tables. -/
  | airtable
deriving DecidableEq

/-- A conversion of a schema file. -/
structure ConvertRequest where
  schema : String
  output : Option String := none
  format : OutputFormat := .openApi
  updateMethod : UpdateMethod := .patch
  isCompact : Bool := false
deriving DecidableEq

/-- What a command line asks for. -/
inductive Request where
  | version
  | convert (isVerbose : Bool) (request : ConvertRequest)
  | inspect (isVerbose : Bool) (schema : String)
deriving DecidableEq

/-- The settings of a command that are being read. -/
structure Settings where
  schema : Option String := none
  output : Option String := none
  format : Option OutputFormat := none
  updateMethod : Option UpdateMethod := none
  isCompact : Bool := false
  isVerbose : Bool := false
  isVersion : Bool := false

namespace Settings

def schemaRule : OptionRule Settings where
  long := "schema"
  short := some 's'
  isGiven settings := settings.schema.isSome
  action := .value fun settings path => some { settings with schema := some path }

def outputRule : OptionRule Settings where
  long := "output"
  short := some 'o'
  isGiven settings := settings.output.isSome
  action := .value fun settings path => some { settings with output := some path }

def format? : String → Option OutputFormat
  | "oas3" => some .openApi
  | "airtable" => some .airtable
  | _ => none

def formatRule : OptionRule Settings where
  long := "format"
  short := some 'f'
  isGiven settings := settings.format.isSome
  action := .value fun settings name =>
    (format? name).map fun format => { settings with format := some format }

def updateMethod? : String → Option UpdateMethod
  | "patch" => some .patch
  | "put" => some .put
  | _ => none

def updateMethodRule : OptionRule Settings where
  long := "update-method"
  isGiven settings := settings.updateMethod.isSome
  action := .value fun settings name =>
    (updateMethod? name).map fun method => { settings with updateMethod := some method }

/-- Output without blanks. -/
def compactRule : OptionRule Settings where
  long := "compact"
  isGiven := isCompact
  action := .flag fun settings => { settings with isCompact := true }

/-- More status lines. -/
def verboseRule : OptionRule Settings where
  long := "verbose"
  short := some 'v'
  isGiven := isVerbose
  action := .flag fun settings => { settings with isVerbose := true }

def versionRule : OptionRule Settings where
  long := "version"
  short := some 'V'
  isGiven := isVersion
  action := .stop fun settings => { settings with isVersion := true }

/-- The path of the schema file, which every command needs. -/
def requireSchema (settings : Settings) : Except UsageError String :=
  match settings.schema with
  | some path => .ok path
  | none => .error (.missingOption "schema")

end Settings

namespace Request

def readConvert (isVerbose : Bool) (arguments : List String) : Except UsageError Request := do
  let rules := [Settings.schemaRule, Settings.outputRule, Settings.formatRule,
    Settings.updateMethodRule, Settings.compactRule, Settings.verboseRule]
  let settings ← OptionRule.readAll rules .anything {} arguments
  pure (.convert (isVerbose || settings.isVerbose) {
    schema := ← settings.requireSchema
    output := settings.output
    format := settings.format.getD .openApi
    updateMethod := settings.updateMethod.getD .patch
    isCompact := settings.isCompact })

def readInspect (isVerbose : Bool) (arguments : List String) : Except UsageError Request := do
  let rules := [Settings.schemaRule, Settings.verboseRule]
  let settings ← OptionRule.readAll rules .anything {} arguments
  pure (.inspect (isVerbose || settings.isVerbose) (← settings.requireSchema))

/-- Reads a command line from where the name of the command or an option of the program may
stand. -/
def readFrom (settings : Settings) : List String → Except UsageError Request
  | [] => .error .missingCommand
  | argument :: rest =>
      if argument = "convert" then readConvert settings.isVerbose rest
      else if argument = "inspect" then readInspect settings.isVerbose rest
      else if !OptionRule.looksLikeOption argument then .error (.unknownCommand argument)
      else do
        let rules := [Settings.verboseRule, Settings.versionRule]
        let (settings, _) ← OptionRule.readOption rules settings argument
        if settings.isVersion then pure .version else readFrom settings rest

def ofArguments (arguments : List String) : Except UsageError Request := readFrom {} arguments

end Request

end BaseApi
