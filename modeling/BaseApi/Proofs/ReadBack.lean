import BaseApi.Proofs.PlainDocument

/-!
# Documents that are read back

`Document.ofJson?` reads a document from a value, each field from under its key. It gives back every
document that was written, so all names and texts stand in the value as they are
(`Document.ofJson?_toJson`). What is empty or absent has no key in the value
(`Document.LeavesOutUnused`). As a generated document is a plain value, its text is parsed to that
value in either layout: `BaseSchema.documentText_readBack`.
-/

namespace BaseApi

/-! ## Reading values -/

namespace Json

variable {α : Type}

/-- Reads the elements of an array. -/
def list? (read : Json → Option α) : Json → Option (List α)
  | arr items => items.mapM read
  | _ => none

/-- Reads the members of an object, each with its key. -/
def entries? (read : Json → Option α) : Json → Option (Entries α)
  | obj members => members.mapM fun member => (read member.2).map fun value => (member.1, value)
  | _ => none

/-- Reads an object as a map; no key may come twice. -/
def map? (read : Json → Option α) (tree : Json) : Option (OrderedMap α) :=
  (entries? read tree).bind fun entries =>
    if once : (Entries.keys entries).Nodup then some ⟨entries, once⟩ else none

/-- Reads what stands under a key. -/
def member? (key : String) (read : Json → Option α) (tree : Json) : Option α :=
  (tree.get? key).bind read

/-- Reads the list under a key, which is empty if there is no such key. -/
def listMember? (key : String) (read : Json → Option α) (tree : Json) : Option (List α) :=
  (tree.get? key).elim (some []) (list? read)

/-- Reads what stands under a key that need not be there. -/
def optionalMember? (key : String) (read : Json → Option α) (tree : Json) : Option (Option α) :=
  (tree.get? key).elim (some none) fun value => (read value).map some

/-- The truth value of a value that is nothing but one. -/
def bool? : Json → Option Bool
  | bool value => some value
  | _ => none

end Json

open Json

def ScalarType.ofName? : String → Option ScalarType
  | "number" => some .number
  | "integer" => some .integer
  | "string" => some .string
  | "boolean" => some .boolean
  | _ => none

def Fragment.ofJson? : Json → Option Fragment
  | .obj [("type", .str name)] => (ScalarType.ofName? name).map scalar
  | .obj [("type", .str "array"), ("items", items)] => (ofJson? items).map array
  | .obj [("$ref", .str path)] => some (ref path)
  | _ => none

def ObjectSchema.ofJson? (tree : Json) : Option ObjectSchema := do
  let required ← tree.listMember? "required" text?
  let properties ← tree.member? "properties" (map? Fragment.ofJson?)
  pure { required, properties }

def SecurityScheme.ofJson? (tree : Json) : Option SecurityScheme := do
  let type ← tree.member? "type" text?
  let scheme ← tree.member? "scheme" text?
  pure { type, scheme }

def ParameterLocation.ofName? : String → Option ParameterLocation
  | "query" => some .query
  | "path" => some .path
  | _ => none

def Parameter.ofJson? (tree : Json) : Option Parameter := do
  let name ← tree.member? "name" text?
  let location ← (← tree.member? "in" text?) |> ParameterLocation.ofName?
  let required ← tree.member? "required" bool?
  let schema ← tree.member? "schema" Fragment.ofJson?
  pure { name, location, required, schema }

/-- Reads contents by their type. -/
def contentOfJson? (tree : Json) : Option (Entries Fragment) :=
  tree.member? "content" (entries? (member? "schema" Fragment.ofJson?))

def RequestBody.ofJson? (tree : Json) : Option RequestBody := do
  let required ← tree.member? "required" bool?
  let content ← contentOfJson? tree
  pure { required, content }

def Response.ofJson? (tree : Json) : Option Response := do
  let description ← tree.member? "description" text?
  let content ← contentOfJson? tree
  pure { description, content }

def Operation.ofJson? (tree : Json) : Option Operation := do
  let operationId ← tree.member? "operationId" text?
  let security ← tree.member? "security" (list? (entries? (list? text?)))
  let parameters ← tree.listMember? "parameters" Parameter.ofJson?
  let requestBody ← tree.optionalMember? "requestBody" RequestBody.ofJson?
  let responses ← tree.member? "responses" (entries? Response.ofJson?)
  pure { operationId, security, parameters, requestBody, responses }

def PathItem.ofJson? (tree : Json) : Option PathItem := do
  let get ← tree.optionalMember? "get" Operation.ofJson?
  let post ← tree.optionalMember? "post" Operation.ofJson?
  let put ← tree.optionalMember? "put" Operation.ofJson?
  let patch ← tree.optionalMember? "patch" Operation.ofJson?
  let delete ← tree.optionalMember? "delete" Operation.ofJson?
  pure { get, post, put, patch, delete }

def Info.ofJson? (tree : Json) : Option Info := do
  let title ← tree.member? "title" text?
  let version ← tree.member? "version" text?
  pure { title, version }

def Components.ofJson? (tree : Json) : Option Components := do
  let schemas ← tree.member? "schemas" (map? ObjectSchema.ofJson?)
  let securitySchemes ← tree.member? "securitySchemes" (map? SecurityScheme.ofJson?)
  pure { schemas, securitySchemes }

/-- Reads a document from a value. -/
def Document.ofJson? (tree : Json) : Option Document := do
  let openapi ← tree.member? "openapi" text?
  let info ← tree.member? "info" Info.ofJson?
  let servers ← tree.member? "servers" (list? (member? "url" text?))
  let components ← tree.member? "components" Components.ofJson?
  let paths ← tree.member? "paths" (map? PathItem.ofJson?)
  pure { openapi, info, servers, components, paths }

/-! ## What stands under a key -/

namespace Json

variable {α : Type} {toJson : α → Json} {read : Json → Option α} {key other : String}

theorem get?_obj (members : List (String × Json)) : (obj members).get? key = members.lookup key :=
  rfl

theorem lookup_optionalMember_self (value : Option Json) :
    (optionalMember key value).lookup key = value := by
  cases value with
  | none => rfl
  | some value => simp [optionalMember]

theorem lookup_optionalMember_of_ne (ne : other ≠ key) (value : Option Json) :
    (optionalMember key value).lookup other = none := by
  cases value with
  | none => rfl
  | some value => simp [optionalMember, List.lookup_cons, beq_eq_false_iff_ne.mpr ne]

theorem lookup_listMember_self (items : List α) :
    (listMember key toJson items).lookup key =
      if items = [] then none else some (arr (items.map toJson)) := by
  cases items with
  | nil => rfl
  | cons item items => simp [listMember]

theorem lookup_listMember_of_ne (ne : other ≠ key) (items : List α) :
    (listMember key toJson items).lookup other = none := by
  cases items with
  | nil => rfl
  | cons item items => simp [listMember, List.lookup_cons, beq_eq_false_iff_ne.mpr ne]

theorem text?_str (text : String) : text? (str text) = some text := rfl

theorem list?_map (inverse : ∀ value, read (toJson value) = some value) (items : List α) :
    list? read (arr (items.map toJson)) = some items := by
  induction items with
  | nil => rfl
  | cons item items ih =>
      rw [list?] at ih ⊢
      rw [List.map_cons, List.mapM_cons, inverse, ih]
      rfl

theorem entries?_ofEntries (inverse : ∀ value, read (toJson value) = some value)
    (entries : Entries α) : entries? read (ofEntries toJson entries) = some entries := by
  induction entries with
  | nil => rfl
  | cons entry entries ih =>
      rw [ofEntries, entries?] at ih ⊢
      rw [List.map_cons, List.mapM_cons, inverse, ih]
      rfl

theorem map?_ofEntries (inverse : ∀ value, read (toJson value) = some value)
    (map : OrderedMap α) : map? read (ofEntries toJson map.entries) = some map := by
  rw [map?, entries?_ofEntries inverse, Option.bind_some, dif_pos map.nodup_keys]

/-- A list that is left out when it is empty reads back. -/
theorem listMember?_eq (inverse : ∀ value, read (toJson value) = some value) {tree : Json}
    {items : List α} (there : tree.get? key = (listMember key toJson items).lookup key) :
    listMember? key read tree = some items := by
  rw [listMember?, there, lookup_listMember_self]
  split
  · next empty => rw [empty]; rfl
  · exact list?_map inverse items

theorem optionalMember?_eq (inverse : ∀ value, read (toJson value) = some value) {tree : Json}
    {value : Option α} (there : tree.get? key = value.map toJson) :
    optionalMember? key read tree = some value := by
  rw [optionalMember?, there]
  cases value with
  | none => rfl
  | some value => exact congrArg (Option.map some) (inverse value)

end Json

/-! ## Reading what was written -/

theorem Fragment.ofJson?_toJson (fragment : Fragment) :
    ofJson? fragment.toJson = some fragment := by
  induction fragment with
  | scalar type => cases type <;> rfl
  | array items ih =>
      rw [toJson, ofJson?, ih]
      rfl
  | ref path => rfl

theorem ObjectSchema.get?_required (schema : ObjectSchema) : schema.toJson.get? "required" =
    (listMember "required" str schema.required).lookup "required" := by
  simp [toJson, get?_obj, List.lookup_append, List.lookup]

theorem ObjectSchema.ofJson?_toJson (schema : ObjectSchema) :
    ofJson? schema.toJson = some schema := by
  have required := listMember?_eq text?_str schema.get?_required
  have properties : schema.toJson.get? "properties" =
      some (ofEntries Fragment.toJson schema.properties.entries) := by
    simp [toJson, get?_obj, List.lookup_append, lookup_listMember_of_ne]
  rw [ofJson?, required, member?, properties, Option.bind_some,
    map?_ofEntries Fragment.ofJson?_toJson]
  rfl

theorem SecurityScheme.ofJson?_toJson (scheme : SecurityScheme) :
    ofJson? scheme.toJson = some scheme := rfl

theorem Parameter.ofJson?_toJson (parameter : Parameter) :
    ofJson? parameter.toJson = some parameter := by
  have schema : parameter.toJson.member? "schema" Fragment.ofJson? = some parameter.schema :=
    parameter.schema.ofJson?_toJson
  have location : ParameterLocation.ofName? parameter.location.name = some parameter.location := by
    cases parameter.location <;> rfl
  rw [ofJson?, schema]
  show (ParameterLocation.ofName? parameter.location.name).bind _ = _
  rw [location]
  rfl

theorem contentOfJson?_ofEntries {tree : Json} {content : Entries Fragment}
    (there : tree.get? "content" = some (ofEntries contentToJson content)) :
    contentOfJson? tree = some content := by
  have inverse : ∀ fragment, member? "schema" Fragment.ofJson? (contentToJson fragment) =
      some fragment := Fragment.ofJson?_toJson
  rw [contentOfJson?, member?, there, Option.bind_some]
  exact entries?_ofEntries inverse content

theorem RequestBody.ofJson?_toJson (body : RequestBody) : ofJson? body.toJson = some body := by
  rw [ofJson?, contentOfJson?_ofEntries rfl]
  rfl

theorem Response.ofJson?_toJson (response : Response) :
    ofJson? response.toJson = some response := by
  rw [ofJson?, contentOfJson?_ofEntries rfl]
  rfl

section Operations

variable (operation : Operation)

theorem Operation.get?_parameters : operation.toJson.get? "parameters" =
    (listMember "parameters" Parameter.toJson operation.parameters).lookup "parameters" := by
  simp [toJson, get?_obj, List.lookup_append, List.lookup, lookup_optionalMember_of_ne]

theorem Operation.get?_requestBody :
    operation.toJson.get? "requestBody" = operation.requestBody.map RequestBody.toJson := by
  simp [toJson, get?_obj, List.lookup_append, List.lookup, lookup_listMember_of_ne,
    lookup_optionalMember_self]

theorem Operation.get?_responses :
    operation.toJson.get? "responses" = some (ofEntries Response.toJson operation.responses) := by
  simp [toJson, get?_obj, List.lookup_append, List.lookup, lookup_listMember_of_ne,
    lookup_optionalMember_of_ne]

theorem Operation.ofJson?_toJson : ofJson? operation.toJson = some operation := by
  have scopes : ∀ texts, list? text? (ofTexts texts) = some texts := list?_map text?_str
  have security : operation.toJson.member? "security" (list? (entries? (list? text?))) =
      some operation.security :=
    list?_map (entries?_ofEntries scopes) operation.security
  have parameters := listMember?_eq Parameter.ofJson?_toJson operation.get?_parameters
  have requestBody := optionalMember?_eq RequestBody.ofJson?_toJson operation.get?_requestBody
  have responses : operation.toJson.member? "responses" (entries? Response.ofJson?) =
      some operation.responses := by
    rw [member?, operation.get?_responses, Option.bind_some]
    exact entries?_ofEntries Response.ofJson?_toJson operation.responses
  rw [ofJson?, security, parameters, requestBody, responses]
  rfl

end Operations

/-- The operations of a path by method, in the order of the document. -/
def PathItem.methods (item : PathItem) : List (String × Option Operation) :=
  [("get", item.get), ("post", item.post), ("put", item.put), ("patch", item.patch),
    ("delete", item.delete)]

theorem PathItem.get?_method (item : PathItem) :
    ∀ method ∈ item.methods, item.toJson.get? method.1 = method.2.map Operation.toJson := by
  simp only [methods, List.forall_mem_cons]
  simp [toJson, get?_obj, List.lookup_append, lookup_optionalMember_self,
    lookup_optionalMember_of_ne]

theorem PathItem.ofJson?_toJson (item : PathItem) : ofJson? item.toJson = some item := by
  have read : ∀ method ∈ item.methods,
      item.toJson.optionalMember? method.1 Operation.ofJson? = some method.2 :=
    fun method member =>
      optionalMember?_eq Operation.ofJson?_toJson (item.get?_method method member)
  simp only [methods, List.forall_mem_cons] at read
  obtain ⟨get, post, put, patch, delete, -⟩ := read
  rw [ofJson?, get, post, put, patch, delete]
  rfl

/-- Whatever a document says, its value gives back. -/
theorem Document.ofJson?_toJson (document : Document) :
    ofJson? document.toJson = some document := by
  have address : ∀ url, member? "url" text? (obj [("url", str url)]) = some url := fun _ => rfl
  have servers : document.toJson.member? "servers" (list? (member? "url" text?)) =
      some document.servers := list?_map address document.servers
  have schemas : map? ObjectSchema.ofJson? (schemasToJson document.components.schemas) =
      some document.components.schemas := map?_ofEntries ObjectSchema.ofJson?_toJson _
  have schemes : map? SecurityScheme.ofJson?
      (securitySchemesToJson document.components.securitySchemes) =
        some document.components.securitySchemes := map?_ofEntries SecurityScheme.ofJson?_toJson _
  have components : document.toJson.member? "components" Components.ofJson? =
      some document.components := by
    show (map? ObjectSchema.ofJson? (schemasToJson document.components.schemas)).bind _ = _
    rw [schemas, Option.bind_some]
    show (map? SecurityScheme.ofJson?
      (securitySchemesToJson document.components.securitySchemes)).bind _ = _
    rw [schemes]
    rfl
  have paths : document.toJson.member? "paths" (map? PathItem.ofJson?) = some document.paths :=
    map?_ofEntries PathItem.ofJson?_toJson document.paths
  rw [ofJson?, servers, components, paths]
  rfl

/-! ## What is left out -/

/-- The value under keys that lie inside one another. -/
def Json.under? (keys : List String) (tree : Json) : Option Json :=
  keys.foldlM (fun tree key => tree.get? key) tree

/-- A written operation has parameters and a body exactly if the operation does. -/
def Operation.LeavesOutUnused (operation : Operation) (written : Json) : Prop :=
  (written.get? "parameters" = none ↔ operation.parameters = []) ∧
    (written.get? "requestBody" = none ↔ operation.requestBody = none)

/-- Nothing in a written document stands for what is empty or absent, and nothing else is missing.
-/
structure Document.LeavesOutUnused (document : Document) (tree : Json) : Prop where
  /-- A schema lists required properties exactly if there are some. -/
  required : ∀ name schema, document.components.schemas.get? name = some schema →
    ∃ written, tree.under? ["components", "schemas", name] = some written ∧
      (written.get? "required" = none ↔ schema.required = [])
  /-- A path has the methods for which there are operations, and these leave out what they do not
  have. -/
  methods : ∀ address item, document.paths.get? address = some item →
    ∃ written, tree.under? ["paths", address] = some written ∧
      ∀ method ∈ item.methods, (written.get? method.1 = none ↔ method.2 = none) ∧
        ∀ operation, method.2 = some operation →
          ∃ part, written.get? method.1 = some part ∧ operation.LeavesOutUnused part

theorem Json.lookup_listMember_eq_none_iff {α : Type} {toJson : α → Json} {key : String}
    {items : List α} : (listMember key toJson items).lookup key = none ↔ items = [] := by
  rw [lookup_listMember_self]
  split
  · next empty => simp [empty]
  · next filled => simp [filled]

theorem Operation.leavesOutUnused_toJson (operation : Operation) :
    operation.LeavesOutUnused operation.toJson := by
  rw [LeavesOutUnused, operation.get?_parameters, operation.get?_requestBody,
    Option.map_eq_none_iff]
  exact ⟨lookup_listMember_eq_none_iff, .rfl⟩

theorem Document.leavesOutUnused_toJson (document : Document) :
    document.LeavesOutUnused document.toJson where
  required name schema found := by
    refine ⟨schema.toJson, ?_, ?_⟩
    · show (schemasToJson document.components.schemas).get? name >>= pure = _
      rw [bind_pure, schemasToJson, get?_ofEntries]
      exact congrArg (Option.map ObjectSchema.toJson) found
    · rw [schema.get?_required]
      exact lookup_listMember_eq_none_iff
  methods address item found := by
    refine ⟨item.toJson, ?_, ?_⟩
    · show (ofEntries PathItem.toJson document.paths.entries).get? address >>= pure = _
      rw [bind_pure, get?_ofEntries]
      exact congrArg (Option.map PathItem.toJson) found
    · intro method member
      rw [item.get?_method method member, Option.map_eq_none_iff]
      refine ⟨.rfl, ?_⟩
      rintro operation given
      exact ⟨operation.toJson, by rw [given]; rfl, operation.leavesOutUnused_toJson⟩

/-! ## Texts of documents -/

/-- Both texts of a document are parsed to one value, which is the document as it is written: no
number and no repeated key is in it, ten containers lie inside one another at most, the document can
be read from it, and what is empty or absent is left out. -/
theorem BaseSchema.documentText_readBack {schema : BaseSchema} {base : ResolvedBase}
    (resolved : schema.resolve = .ok base) (options : DocumentOptions) :
    ∃ tree, (∀ isPretty, Json.parse (base.documentText options isPretty) = .ok tree) ∧
      tree = (base.document options).toJson ∧ tree.IsPlain 10 ∧
      Document.ofJson? tree = some (base.document options) ∧
      (base.document options).LeavesOutUnused tree := by
  have shapes : ∀ table ∈ base.tables, table.HasFieldShapes :=
    fun table member => (resolved_tables resolved table member).1
  have plain := base.isPlain_document options shapes
  refine ⟨(base.document options).toJson, ?_, rfl, plain, Document.ofJson?_toJson _,
    Document.leavesOutUnused_toJson _⟩
  intro isPretty
  have shallow : (base.document options).toJson.IsPlain maxDepth := plain.mono (by decide)
  cases isPretty with
  | true => exact shallow.parse_write Layout.isBlank_pretty
  | false => exact shallow.parse_write Layout.isBlank_compact

/-- A base whose names are empty or full of characters that are escaped in texts. -/
def quotedBase : BaseSchema where
  id := "app\\"
  name := "\"\n\x1f"
  tables := [
    { name := "", columns := [{ name := "\x00\"", tag := "multipleAttachment" }] },
    { name := "\t\"", columns := [{ name := "", tag := "text" }] }]

/-- The tables of `quotedBase` with the types of their columns. -/
def quotedBaseResolved : ResolvedBase where
  id := "app\\"
  name := "\"\n\x1f"
  tables := [
    { name := "", identifier := "", fields := [
        { name := "\x00\"", schema := .array (.component "AirtableAttachment")
          readOnly := true }] },
    { name := "\t\"", identifier := "\t", fields :=
        [{ name := "", schema := .string, readOnly := false }] }]

/-- Names that have to be escaped come back from both texts. -/
theorem documentText_readBack_quotedBase :
    quotedBase.resolve = .ok quotedBaseResolved ∧
      ∃ tree, Json.parse (quotedBaseResolved.documentText { updateMethod := .put } true) =
          .ok tree ∧
        Json.parse (quotedBaseResolved.documentText { updateMethod := .put } false) = .ok tree ∧
        Document.ofJson? tree = some (quotedBaseResolved.document { updateMethod := .put }) := by
  have resolved : quotedBase.resolve = .ok quotedBaseResolved := by cbv
  obtain ⟨tree, parsed, -, -, read, -⟩ :=
    BaseSchema.documentText_readBack resolved { updateMethod := .put }
  exact ⟨resolved, tree, parsed true, parsed false, read⟩

end BaseApi
