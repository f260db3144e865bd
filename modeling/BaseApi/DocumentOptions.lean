/-!
# Options of a document

How updates are sent, where the API is served, and which version the document has. The address of a
base is the server's without the slashes at its end, a slash, and the identifier of the base.
-/

namespace BaseApi

/-- The method of the update operation. -/
inductive UpdateMethod where
  /-- Only the given fields change. -/
  | patch
  /-- Fields that are not given are cleared. -/
  | put
deriving DecidableEq, Inhabited

def UpdateMethod.name : UpdateMethod → String
  | patch => "Patch"
  | put => "Put"

/-- What can be chosen about a document. -/
structure DocumentOptions where
  updateMethod : UpdateMethod := .patch
  /-- The address that the identifiers of bases are appended to. -/
  serverBase : String := "https://api.airtable.com/v0"
  apiVersion : String := "1.0.0"
deriving DecidableEq, Inhabited

/-- A text without the slashes at its end. -/
def trimSlashes (text : String) : String :=
  String.ofList (text.toList.reverse.dropWhile (· == '/')).reverse

/-- The address at which a base is served. -/
def DocumentOptions.baseAddress (options : DocumentOptions) (baseId : String) : String :=
  trimSlashes options.serverBase ++ "/" ++ baseId

end BaseApi
