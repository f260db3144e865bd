import BaseApi.Document.RecordSchemas
import BaseApi.DocumentOptions

/-!
# Paths of a table

A table has two paths: its collection, where records are listed and created, and the item below it,
where one record is retrieved, updated and deleted. Addresses hold the name of the table as it is,
operations the identifier under which its schemas are registered.
-/

namespace BaseApi

/-- The type of every content. -/
def contentType : String := "application/json"

/-- Contents of one schema. -/
def jsonContent (schema : Fragment) : Entries Fragment := [(contentType, schema)]

/-- The body of a request, which has to be there. -/
def jsonRequestBody (schemaName : String) : RequestBody :=
  { required := true, content := jsonContent (.component schemaName) }

/-- The one response of an operation. -/
def okResponse (description : String) (schema : Fragment) : Entries Response :=
  [("200", { description, content := jsonContent schema })]

/-- What every operation requires: a bearer token, without scopes. -/
def bearerSecurity : List (Entries (List String)) := [[(bearerAuth, [])]]

/-- The query parameters of a listing, none of them required. -/
def listParameters : List Parameter :=
  let query := fun name schema => { name, location := .query, required := false, schema }
  [query "fields[]" (.array .string), query "filterByFormula" .string, query "maxRecords" .integer,
    query "pageSize" .integer, query "offset" .string, query "view" .string,
    query "cellFormat" .string, query "userLocale" .string]

/-- The identifier of a record in its address. -/
def idParameter : Parameter :=
  { name := "id", location := .path, required := true, schema := .string }

namespace RecordNames

variable (names : RecordNames)

def listOperation : Operation where
  operationId := "list" ++ names.identifier
  security := bearerSecurity
  parameters := listParameters
  responses := okResponse "List Objects Response" (.array (.component names.read))

def createOperation : Operation where
  operationId := "create" ++ names.identifier
  security := bearerSecurity
  requestBody := some (jsonRequestBody names.writeRequestBody)
  responses := okResponse "Create Object Response" (.component names.read)

def retrieveOperation : Operation where
  operationId := "retrieve" ++ names.identifier
  security := bearerSecurity
  parameters := [idParameter]
  responses := okResponse "Retrieve Object Response" (.component names.read)

def updateOperation : Operation where
  operationId := "update" ++ names.identifier
  security := bearerSecurity
  parameters := [idParameter]
  requestBody := some (jsonRequestBody names.writeRequestBody)
  responses := okResponse "Update Object Response" (.component names.read)

def deleteOperation : Operation where
  operationId := "delete" ++ names.identifier
  security := bearerSecurity
  parameters := [idParameter]
  responses := okResponse "Delete Object Response" (.component ComponentName.deleted)

def collectionItem : PathItem :=
  { get := some names.listOperation, post := some names.createOperation }

/-- The operations on an item; updates are sent by the chosen method alone. -/
def recordItem : UpdateMethod → PathItem
  | .patch => { get := some names.retrieveOperation, patch := some names.updateOperation,
                delete := some names.deleteOperation }
  | .put => { get := some names.retrieveOperation, put := some names.updateOperation,
              delete := some names.deleteOperation }

end RecordNames

def ResolvedTable.collectionAddress (table : ResolvedTable) : String := "/" ++ table.name

def ResolvedTable.recordAddress (table : ResolvedTable) : String :=
  "/" ++ table.name ++ "/{id}"

end BaseApi
