import BaseApi.Command.Arguments
import BaseApi.Command.Report
import BaseApi.Delivery
import BaseApi.Json.WithoutKey

/-!
# Running commands

`Request.run` carries out a request over any `Storage` and gives what it prints and its exit
status. Everything between reading the schema file and delivering the result is a function of the
text of the file: `ConvertRequest.converted` for a conversion, `inspection` for an inspection.
Status lines go to the error stream, so the output stream holds the result alone.
-/

namespace BaseApi

/-! ## Outcomes -/

/-- What a run prints, and its exit status. -/
structure Outcome where
  exit : UInt32 := 0
  stdout : String := ""
  stderr : String := ""
deriving DecidableEq

/-- The outcome of a run that failed after some status lines. -/
def Outcome.failed (status : String) (report : Report) : Outcome :=
  { exit := 1, stderr := status ++ report.text }

/-- A line that says what is about to happen. -/
def announce (line : String) : String := "→ " ++ line ++ "\n"

/-- A line that says what has been done. -/
def confirm (line : String) : String := "✓ " ++ line ++ "\n"

/-- The first status line of a run that was asked for more of them. -/
def verboseLine (isVerbose : Bool) : String :=
  if isVerbose then announce "Verbose mode enabled" else ""

/-! ## Reading the schema file -/

/-- The report of a schema file that cannot be read. -/
def unreadable (path : String) (error : FileError) : Report :=
  { context := "Failed to read schema file " ++ path, causes := [error.message] }

/-- The value in the text of a schema file. -/
def schemaValue (path text : String) : Except Report Json :=
  match Json.parse text with
  | .ok value => .ok value
  | .error error =>
      .error { context := "Failed to parse JSON in " ++ path, causes := [error.message] }

def resolvedBaseOf (value : Json) : Except Report ResolvedBase :=
  match BaseSchema.loadJson value with
  | .error failure =>
      .error { context := "Failed to load Airtable schema", causes := failure.causes }
  | .ok schema =>
      match schema.resolve with
      | .error failure =>
          .error { context := "Failed to convert Airtable schema", causes := failure.causes }
      | .ok base => .ok base

/-! ## Converting -/

def ConvertRequest.layout (request : ConvertRequest) : Json.Layout := .choose (!request.isCompact)

def ConvertRequest.options (request : ConvertRequest) : DocumentOptions :=
  { updateMethod := request.updateMethod }

/-- The status lines about a base that has been resolved. -/
def resolvedLines (isVerbose : Bool) (method : UpdateMethod) (base : ResolvedBase) : String :=
  confirm ("Resolved " ++ toString base.tables.length ++ " tables") ++
    (if isVerbose then
      "  Base: " ++ base.name ++ " (" ++ base.id ++ ")\n" ++
        "  Update method: " ++ method.name ++ "\n"
    else "")

/-- What a conversion makes of a schema file. -/
inductive Converted where
  /-- The value in the file, without embedded tables. -/
  | airtable (value : Json)
  /-- The base that the document is about. -/
  | openApi (base : ResolvedBase)

/-- The status lines of a conversion, and what it makes of the text of the schema file or the reason
why it makes nothing. -/
def ConvertRequest.converted (request : ConvertRequest) (isVerbose : Bool) (text : String) :
    String × Except Report Converted :=
  match schemaValue request.schema text with
  | .error report => ("", .error report)
  | .ok value =>
      match request.format with
      | .airtable =>
          (announce "Removing embedded foreign tables", .ok (.airtable value.withoutForeignTables))
      | .openApi =>
          match resolvedBaseOf value with
          | .error report => ("", .error report)
          | .ok base => (resolvedLines isVerbose request.updateMethod base, .ok (.openApi base))

/-- The text that a conversion writes. -/
def ConvertRequest.textOf (request : ConvertRequest) : Converted → String
  | .airtable value => Json.write request.layout value
  | .openApi base => base.documentText request.options (!request.isCompact)

/-- The report of a value that cannot be delivered. -/
def undeliveredValue : DeliveryError → Report
  | .directory path error =>
      { context := "Failed to create output directory " ++ path, causes := [error.message] }
  | .file path error => { context := "Failed to write " ++ path, causes := [error.message] }

/-- The report of a document that cannot be delivered. -/
def undeliveredDocument (failure : Failure) : Report :=
  { context := "Failed to generate OpenAPI document", causes := failure.causes }

/-- Delivers to a file what a conversion has made. -/
def ConvertRequest.deliver {m : Type → Type} [Monad m] [Storage m] (request : ConvertRequest)
    (path : String) : Converted → m (Except Report Unit)
  | .airtable value => do
      let delivered ← Storage.deliver path (Json.write request.layout value)
      pure (delivered.mapError undeliveredValue)
  | .openApi base => do
      let delivered ← base.deliver request.options (!request.isCompact) path
      pure (delivered.mapError undeliveredDocument)

def ConvertRequest.run {m : Type → Type} [Monad m] [Storage m] (request : ConvertRequest)
    (isVerbose : Bool) : m Outcome := do
  let opening := verboseLine isVerbose ++ announce ("Reading Airtable schema: " ++ request.schema)
  match ← Storage.readText request.schema with
  | .error error => pure (.failed opening (unreadable request.schema error))
  | .ok text =>
      match request.converted isVerbose text with
      | (status, .error report) => pure (.failed (opening ++ status) report)
      | (status, .ok made) =>
          match request.output with
          | none =>
              pure {
                stdout := request.textOf made ++ "\n"
                stderr := opening ++ status ++ confirm "Conversion complete!" }
          | some path =>
              match ← request.deliver path made with
              | .error report => pure (.failed (opening ++ status) report)
              | .ok () =>
                  pure {
                    stderr := opening ++ status ++ confirm ("Wrote " ++ path) ++
                      confirm "Conversion complete!" }

/-! ## Inspecting -/

def ResolvedField.summary (field : ResolvedField) : String :=
  "    " ++ field.name ++ ": " ++ field.schema.toJson.compact ++
    (if field.readOnly then " read-only" else "") ++ "\n"

def ResolvedTable.summary (isVerbose : Bool) (table : ResolvedTable) : String :=
  "  • " ++ table.name ++ " (" ++ table.identifier ++ ") fields: " ++
    toString table.fields.length ++ ", writable: " ++ toString table.writable.length ++
    "\n" ++
    (if isVerbose then String.join (table.fields.map ResolvedField.summary) else "")

def ResolvedBase.summary (isVerbose : Bool) (base : ResolvedBase) : String :=
  "\nBase:\n  Name: " ++ base.name ++ "\n  Id: " ++ base.id ++ "\n  Tables: " ++
    toString base.tables.length ++ "\n\nTables:\n" ++
    String.join (base.tables.map (ResolvedTable.summary isVerbose))

/-- What an inspection makes of the text of the schema file. -/
def inspection (path : String) (isVerbose : Bool) (text : String) : Except Report String :=
  match schemaValue path text with
  | .error report => .error report
  | .ok value =>
      match resolvedBaseOf value with
      | .error report => .error report
      | .ok base => .ok ("\n✓ Parse successful!\n" ++ base.summary isVerbose)

def inspect {m : Type → Type} [Monad m] [Storage m] (path : String) (isVerbose : Bool) :
    m Outcome := do
  let opening := verboseLine isVerbose ++ announce ("Parsing Airtable schema: " ++ path)
  match ← Storage.readText path with
  | .error error => pure (.failed opening (unreadable path error))
  | .ok text =>
      match inspection path isVerbose text with
      | .error report => pure (.failed opening report)
      | .ok result => pure { stdout := result, stderr := opening }

/-! ## Requests -/

def versionText : String := "airtable-oas 0.1.0\n"

def Request.run {m : Type → Type} [Monad m] [Storage m] : Request → m Outcome
  | version => pure { stdout := versionText }
  | convert isVerbose request => request.run isVerbose
  | inspect isVerbose schema => BaseApi.inspect schema isVerbose

/-- The outcome of a command line that is refused. -/
def UsageError.outcome (error : UsageError) : Outcome :=
  { exit := 2, stderr := "error: " ++ error.message ++ "\n" }

def runArguments {m : Type → Type} [Monad m] [Storage m] (arguments : List String) : m Outcome :=
  match Request.ofArguments arguments with
  | .error error => pure error.outcome
  | .ok request => request.run

end BaseApi
