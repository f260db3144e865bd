import BaseApi.Document.Assembly
import BaseApi.Files.Storage
import BaseApi.Json.Parser
import BaseApi.Schema.Decode

/-!
# Loading schemas and delivering documents

A schema is loaded from a file, from text or from a value, and a document is delivered to a file.
All of them fail with a `Failure` that says what was being done.
-/

namespace BaseApi

/-! ## Loading -/

def BaseSchema.loadText (text : String) : Except Failure BaseSchema :=
  match BaseSchema.ofText text with
  | .ok schema => .ok schema
  | .error error =>
      .error (.reading ("Failed to parse Airtable schema JSON: " ++ error.message))

def BaseSchema.loadJson (value : Json) : Except Failure BaseSchema :=
  match BaseSchema.ofJson value with
  | .ok schema => .ok schema
  | .error error => .error (.reading ("Failed to parse Airtable schema: " ++ error.message))

def BaseSchema.loadFile {m : Type → Type} [Monad m] [Storage m] (path : String) :
    m (Except Failure BaseSchema) := do
  match ← Storage.readText path with
  | .ok text => pure (loadText text)
  | .error error =>
      pure (.error (.reading
        ("Failed to read Airtable schema file " ++ path ++ ": " ++ error.message)))

def ResolvedBase.ofText (text : String) : Except Failure ResolvedBase := do
  (← BaseSchema.loadText text).resolve

/-! ## Delivery -/

/-- What a failed delivery means for a document. -/
def DeliveryError.failure : DeliveryError → Failure
  | directory _ error => .generation ("Failed to create output directory: " ++ error.message)
  | file path error => .generation ("Failed to write " ++ path ++ ": " ++ error.message)

/-- Delivers the document of a base to a file. -/
def ResolvedBase.deliver {m : Type → Type} [Monad m] [Storage m] (base : ResolvedBase)
    (options : DocumentOptions) (isPretty : Bool) (path : String) : m (Except Failure Unit) := do
  match ← Storage.deliver path (base.documentText options isPretty) with
  | .ok () => pure (.ok ())
  | .error error => pure (.error error.failure)

end BaseApi
