import Mathlib
import BaseApi.Proofs.FieldShape
import BaseApi.Proofs.FirstFit
import BaseApi.Proofs.Operations
import BaseApi.Proofs.Pointer

/-!
# Documents without loose ends

The references in the text of a document are the paths in its fragments
(`Document.mem_references_toJson`), and a path to a component schema whose name is a pointer token
leads to that schema (`Document.dereference?_component`). The names of a generated document are
tokens, because identifiers have lost the characters that mean something in a pointer, and each
fragment refers to a schema that is registered. So every reference leads where it should
(`BaseSchema.references_document`).
-/

namespace BaseApi

/-! ## The references of a document -/

/-- Everything that an operation says about the types of values. -/
def Operation.fragments (operation : Operation) : List Fragment :=
  operation.parameters.map Parameter.schema ++ operation.taken ++ operation.answered

/-- Everything that a document says about the types of values. -/
def Document.fragments (document : Document) : List Fragment :=
  (document.components.schemas.entries.flatMap fun entry =>
    entry.2.properties.entries.map Prod.snd) ++ document.operations.flatMap Operation.fragments

section Writing

open Json

@[simp] theorem Fragment.text?_toJson (fragment : Fragment) : text? fragment.toJson = none := by
  cases fragment <;> rfl

@[simp] theorem text?_contentToJson (fragment : Fragment) :
    text? (contentToJson fragment) = none := rfl

@[simp] theorem text?_ofTexts (texts : List String) : text? (ofTexts texts) = none := rfl

@[simp] theorem Fragment.references_toJson (fragment : Fragment) :
    fragment.toJson.references = fragment.references := by
  induction fragment with
  | scalar type => simp [toJson, references, memberReferences_of_ne]
  | array items ih => simp [toJson, references, memberReferences_of_ne, ih]
  | ref path => rfl

theorem references_ofContent (content : Entries Fragment) :
    (ofEntries contentToJson content).references =
      (content.map Prod.snd).flatMap Fragment.references := by
  rw [references_ofEntries text?_contentToJson, List.flatMap_map]
  simp [contentToJson, memberReferences_of_ne]

theorem ObjectSchema.references_toJson (schema : ObjectSchema) :
    schema.toJson.references =
      (schema.properties.entries.map Prod.snd).flatMap Fragment.references := by
  simp [toJson, memberReferences_of_ne, references_ofEntries Fragment.text?_toJson,
    List.flatMap_map]

theorem Parameter.references_toJson (parameter : Parameter) :
    parameter.toJson.references = parameter.schema.references := by
  simp [toJson, memberReferences_of_ne]

theorem RequestBody.references_toJson (body : RequestBody) :
    body.toJson.references = (body.content.map Prod.snd).flatMap Fragment.references := by
  simp [toJson, memberReferences_of_ne, references_ofContent]

theorem Response.references_toJson (response : Response) :
    response.toJson.references = (response.content.map Prod.snd).flatMap Fragment.references := by
  simp [toJson, memberReferences_of_ne, references_ofContent]

theorem references_ofRequirements (requirements : List (Entries (List String))) :
    (arr (requirements.map (ofEntries ofTexts))).references = [] := by
  simp [List.flatMap_map, references_ofEntries text?_ofTexts]

theorem Operation.references_toJson (operation : Operation) :
    operation.toJson.references = operation.fragments.flatMap Fragment.references := by
  have bodies : ∀ body : RequestBody, text? body.toJson = none := fun _ => rfl
  have responses : ∀ response : Response, text? response.toJson = none := fun _ => rfl
  simp only [toJson, references_obj, List.flatMap_append, List.flatMap_cons, List.flatMap_nil,
    List.append_nil, List.nil_append, flatMap_listMember, flatMap_optionalMember bodies,
    memberReferences_of_ne (by decide : "operationId" ≠ "$ref"),
    memberReferences_of_ne (by decide : "security" ≠ "$ref"),
    memberReferences_of_ne (by decide : "responses" ≠ "$ref"), references_ofEntries responses,
    references_str, references_ofRequirements, Parameter.references_toJson,
    RequestBody.references_toJson, Response.references_toJson]
  simp only [fragments, taken, answered, List.flatMap_append, List.flatMap_map,
    List.flatMap_assoc, List.append_assoc]

theorem PathItem.operations_eq (item : PathItem) :
    item.operations = item.get.toList ++ item.post.toList ++ item.put.toList ++
      item.patch.toList ++ item.delete.toList := by
  have step : ∀ (first : Option Operation) (rest : List (Option Operation)),
      (first :: rest).filterMap id = first.toList ++ rest.filterMap id := by
    intro first rest
    cases first <;> rfl
  simp only [operations, step, List.filterMap_nil, List.append_nil, List.append_assoc]

theorem PathItem.references_toJson (item : PathItem) :
    item.toJson.references =
      (item.operations.flatMap Operation.fragments).flatMap Fragment.references := by
  have written : ∀ operation : Operation, text? operation.toJson = none := fun _ => rfl
  simp only [toJson, references_obj, List.flatMap_append, flatMap_optionalMember written,
    Operation.references_toJson, operations_eq, List.flatMap_assoc]

/-- The references in a written document are the paths in its fragments, in order. -/
theorem Document.references_toJson (document : Document) :
    document.toJson.references = document.fragments.flatMap Fragment.references := by
  have schemas : ∀ schema : ObjectSchema, text? schema.toJson = none := fun _ => rfl
  have schemes : ∀ scheme : SecurityScheme, text? scheme.toJson = none := fun _ => rfl
  have items : ∀ item : PathItem, text? item.toJson = none := fun _ => rfl
  have silent : ∀ scheme : SecurityScheme, scheme.toJson.references = [] := fun _ => rfl
  have nothing : ∀ {α : Type} (entries : List α),
      entries.flatMap (fun _ => ([] : List String)) = [] :=
    fun entries => List.flatMap_eq_nil_iff.mpr fun _ _ => rfl
  simp [toJson, nothing, memberReferences_of_ne, schemasToJson, securitySchemesToJson,
    references_ofEntries schemas, references_ofEntries schemes, references_ofEntries items,
    silent, ObjectSchema.references_toJson, PathItem.references_toJson, fragments, operations,
    List.flatMap_map, List.flatMap_assoc]

/-! ## Following a reference -/

theorem Json.get?_ofEntries {α : Type} (toJson : α → Json) (entries : Entries α) (key : String) :
    (ofEntries toJson entries).get? key = (entries.lookup key).map toJson :=
  Entries.lookup_mapValues toJson entries key

/-- A path to a component schema leads to the schema, if its name is a token. -/
theorem Document.dereference?_component (document : Document) {name : String}
    (clean : IsToken name) :
    document.toJson.dereference? (Fragment.componentPath ++ name) =
      (document.components.schemas.get? name).map ObjectSchema.toJson := by
  have tokens : ∀ token ∈ ["components", "schemas", name], IsToken token := by
    simp only [List.forall_mem_cons]
    exact ⟨by simp [IsToken], by simp [IsToken], clean,
      fun _ member => absurd member List.not_mem_nil⟩
  rw [dereference?_of_tokens document.toJson tokens
    (by simp [Fragment.componentPath, pointerChars])]
  show (schemasToJson document.components.schemas).step? name >>= pure = _
  rw [bind_pure]
  exact get?_ofEntries ObjectSchema.toJson document.components.schemas.entries name

end Writing

/-! ## Names as tokens -/

theorem isToken_append {left right : String} (leftToken : Json.IsToken left)
    (rightToken : Json.IsToken right) : Json.IsToken (left ++ right) := by
  intro c special member
  rw [String.toList_append, List.mem_append] at member
  exact member.elim (leftToken c special) (rightToken c special)

/-- What is left of a name has no character that means something in a pointer. -/
theorem isToken_sanitize (name : String) : Json.IsToken (sanitize name) := by
  have forbidden : ∀ c ∈ ['%', '/', '~'], c ∈ forbiddenInIdentifier := by
    simp [forbiddenInIdentifier]
  intro c special member
  rw [sanitize, String.toList_ofList, List.mem_filter] at member
  simp [forbidden c special] at member

namespace RecordNames

theorem isToken_numeral (attempt : Nat) : Json.IsToken (numeral attempt) := by
  have noDigit : ∀ c ∈ ['%', '/', '~'], c.isDigit = false := by
    simp [Char.isDigit]
  intro c special member
  have digit := isDigit_of_mem_numeral member
  rw [noDigit c special] at digit
  exact absurd digit Bool.false_ne_true

theorem isToken_of_mem_affixes {affix : String × String} (member : affix ∈ affixes) :
    Json.IsToken affix.1 ∧ Json.IsToken affix.2 := by
  revert affix
  simp [affixes, Json.IsToken]

theorem isToken_of_mem_toList {names : RecordNames} (clean : Json.IsToken names.identifier)
    {name : String} (member : name ∈ names.toList) : Json.IsToken name := by
  rw [toList_eq_map_affixes] at member
  obtain ⟨affix, affixMember, rfl⟩ := List.mem_map.mp member
  obtain ⟨before, after⟩ := isToken_of_mem_affixes affixMember
  exact isToken_append before (isToken_append clean after)

end RecordNames

theorem isToken_of_mem_standardSchemas {key : String} (member : key ∈ standardSchemas.keys) :
    Json.IsToken key := by
  have keys : standardSchemas.keys = [ComponentName.thumbnail, ComponentName.thumbnails,
      ComponentName.attachment, ComponentName.deleted] := rfl
  rw [keys] at member
  revert key
  simp [Json.IsToken, ComponentName.thumbnail, ComponentName.thumbnails,
    ComponentName.attachment, ComponentName.deleted]

variable {base : ResolvedBase} {options : DocumentOptions}

theorem ResolvedBase.isToken_identifier_of_mem_registered
    (clean : ∀ table ∈ base.tables, Json.IsToken table.identifier)
    {entry : ResolvedTable × RecordNames} (member : entry ∈ base.registered) :
    Json.IsToken entry.2.identifier := by
  obtain ⟨before, after, split⟩ := List.append_of_mem member
  obtain ⟨held, -, found⟩ := firstFree_of_registrations split
  obtain ⟨attempt, -, candidate, -⟩ := RecordNames.firstFree_spec held entry.1.identifier
  rw [found, candidate, RecordNames.identifier_candidate]
  exact isToken_append (clean entry.1 (mem_tables_of_mem_registered member))
    (RecordNames.isToken_numeral attempt)

theorem ResolvedBase.isToken_of_mem_keys
    (clean : ∀ table ∈ base.tables, Json.IsToken table.identifier) {key : String}
    (member : key ∈ (base.document options).components.schemas.keys) : Json.IsToken key := by
  rw [base.keys_schemas_document options, List.mem_append, List.mem_flatMap] at member
  rcases member with shared | ⟨entry, registered, inNames⟩
  · exact isToken_of_mem_standardSchemas shared
  · exact RecordNames.isToken_of_mem_toList
      (base.isToken_identifier_of_mem_registered clean registered) inNames

/-! ## The fragments of a generated document -/

/-- All that a fragment refers to is among the keys of some schemas. -/
def Fragment.RefersWithin (fragment : Fragment) (keys : List String) : Prop :=
  ∀ reference ∈ fragment.references, ∃ key ∈ keys, reference = componentPath ++ key

theorem Fragment.refersWithin_component {name : String} {keys : List String}
    (present : name ∈ keys) : (component name).RefersWithin keys := by
  intro reference member
  exact ⟨name, present, List.mem_singleton.mp member⟩

theorem Fragment.RefersWithin.array {items : Fragment} {keys : List String}
    (within : items.RefersWithin keys) : (Fragment.array items).RefersWithin keys := within

theorem Fragment.IsFieldShape.refersWithin {fragment : Fragment} (shape : fragment.IsFieldShape)
    {keys : List String} (present : ComponentName.attachment ∈ keys) :
    fragment.RefersWithin keys := by
  intro reference member
  exact ⟨_, present, shape.eq_of_mem_references member⟩

/-- A table whose fields have the shapes of fields. -/
def ResolvedTable.HasFieldShapes (table : ResolvedTable) : Prop :=
  ∀ field ∈ table.fields, field.schema.IsFieldShape

/-- The shared schemas refer to each other. -/
theorem refersWithin_standardSchemas :
    ∀ entry ∈ standardSchemas.entries, ∀ property ∈ entry.2.properties.entries,
      property.2.RefersWithin standardSchemas.keys := by
  unfold Fragment.RefersWithin
  decide

/-- A fragment in the schemas of a table is that of a field, a text, or a reference to the fields
that are read or written. -/
theorem ResolvedTable.forall_recordSchemas (holds : Fragment → Prop) {table : ResolvedTable}
    {names : RecordNames} (fields : ∀ field ∈ table.fields, holds field.schema)
    (text : holds .string) (readFields : holds (.component names.readFields))
    (writeFields : holds (.component names.writeFields)) :
    ∀ entry ∈ table.recordSchemas names, ∀ property ∈ entry.2.properties.entries,
      holds property.2 := by
  have listed : ∀ some : List ResolvedField, some ⊆ table.fields →
      ∀ property ∈ some.map ResolvedField.property, holds property.2 := by
    intro some among
    simp only [List.forall_mem_map]
    exact fun field member => fields field (among member)
  suffices made : ∀ entry ∈ table.recordSchemas names, ∃ properties,
      entry.2 = ObjectSchema.ofProperties properties ∧
        ∀ property ∈ properties, holds property.2 by
    intro entry member property inEntry
    obtain ⟨properties, same, within⟩ := made entry member
    rw [same] at inEntry
    exact within property (Entries.mem_of_mem_merge inEntry)
  simp only [recordSchemas, List.forall_mem_cons]
  refine ⟨⟨_, rfl, listed _ (List.Subset.refl _)⟩, ⟨_, rfl, listed _ (List.filter_subset_self _)⟩,
    ⟨_, rfl, ?_⟩, ⟨_, rfl, ?_⟩, ⟨_, rfl, ?_⟩, fun _ member => absurd member List.not_mem_nil⟩
  · simp [text, readFields]
  · simp [readFields]
  · simp [writeFields]

/-- The schemas of a table refer to each other and to that of an attachment. -/
theorem ResolvedTable.refersWithin_recordSchemas {table : ResolvedTable}
    (shapes : table.HasFieldShapes) {names : RecordNames} {keys : List String}
    (attachment : ComponentName.attachment ∈ keys) (own : names.toList ⊆ keys) :
    ∀ entry ∈ table.recordSchemas names, ∀ property ∈ entry.2.properties.entries,
      property.2.RefersWithin keys := by
  apply forall_recordSchemas fun fragment => fragment.RefersWithin keys
  · exact fun field member => (shapes field member).refersWithin attachment
  · exact fun _ member => absurd member List.not_mem_nil
  · exact Fragment.refersWithin_component (own (by simp [RecordNames.toList]))
  · exact Fragment.refersWithin_component (own (by simp [RecordNames.toList]))

/-! ## The operations of a generated document -/

/-- The parameters of an operation refer to no schema. -/
theorem RecordNames.references_of_mem_parameters {names : RecordNames} {operation : Operation}
    (member : operation ∈ names.operations) :
    ∀ parameter ∈ operation.parameters, parameter.schema.references = [] := by
  have known : ∀ parameter ∈ idParameter :: listParameters, parameter.schema.references = [] := by
    decide
  exact fun parameter among => known parameter (names.mem_of_mem_parameters member parameter among)

/-- What an action takes and answers are schemas of its table, but for the answer to a deletion. -/
theorem RecordAction.refersWithin {names : RecordNames} {keys : List String}
    (deleted : ComponentName.deleted ∈ keys) (own : names.toList ⊆ keys) (action : RecordAction) :
    ∀ fragment ∈ action.taken names.identifier ++ action.answered names.identifier,
      fragment.RefersWithin keys := by
  have body : (Fragment.component names.writeRequestBody).RefersWithin keys :=
    Fragment.refersWithin_component (own (by simp [RecordNames.toList]))
  have record : (Fragment.component names.read).RefersWithin keys :=
    Fragment.refersWithin_component (own (by simp [RecordNames.toList]))
  have deletion : (Fragment.component ComponentName.deleted).RefersWithin keys :=
    Fragment.refersWithin_component deleted
  rw [RecordNames.writeRequestBody] at body
  rw [RecordNames.read] at record
  cases action <;> simp [taken, answered, body, record, record.array, deletion]

theorem Operation.Performs.refersWithin {operation : Operation} {action : RecordAction}
    {names : RecordNames} (performs : operation.Performs action names.identifier)
    (parameters : ∀ parameter ∈ operation.parameters, parameter.schema.references = [])
    {keys : List String} (deleted : ComponentName.deleted ∈ keys) (own : names.toList ⊆ keys) :
    ∀ fragment ∈ operation.fragments, fragment.RefersWithin keys := by
  intro fragment member
  rw [fragments, List.append_assoc, List.mem_append, performs.taken_eq, performs.answered_eq]
    at member
  rcases member with inParameters | carried
  · obtain ⟨parameter, among, rfl⟩ := List.mem_map.mp inParameters
    intro reference referred
    rw [parameters parameter among] at referred
    exact absurd referred List.not_mem_nil
  · exact action.refersWithin deleted own fragment carried

/-! ## Generated documents -/

/-- A fragment of a document is in a shared schema, in one of a table, or in an operation on its
records. -/
theorem ResolvedBase.forall_fragments_document {holds : Fragment → Prop} {base : ResolvedBase}
    {options : DocumentOptions}
    (shared : ∀ entry ∈ standardSchemas.entries, ∀ property ∈ entry.2.properties.entries,
      holds property.2)
    (records : ∀ entry ∈ base.registered, ∀ schema ∈ entry.1.recordSchemas entry.2,
      ∀ property ∈ schema.2.properties.entries, holds property.2)
    (operations : ∀ entry ∈ base.registered, ∀ operation ∈ entry.2.operations,
      ∀ fragment ∈ operation.fragments, holds fragment) :
    ∀ fragment ∈ (base.document options).fragments, holds fragment := by
  intro fragment member
  rcases List.mem_append.mp member with inSchemas | inOperations
  · obtain ⟨schema, schemaMember, inSchema⟩ := List.mem_flatMap.mp inSchemas
    obtain ⟨property, propertyMember, rfl⟩ := List.mem_map.mp inSchema
    rw [base.entries_schemas_document options, List.mem_append] at schemaMember
    rcases schemaMember with standard | ofTable
    · exact shared schema standard property propertyMember
    · obtain ⟨entry, registered, inTable⟩ := List.mem_flatMap.mp ofTable
      exact records entry registered schema inTable property propertyMember
  · obtain ⟨operation, operationMember, inOperation⟩ := List.mem_flatMap.mp inOperations
    obtain ⟨entry, registered, ofTable⟩ := base.exists_of_mem_operations options operationMember
    exact operations entry registered operation ofTable fragment inOperation

/-- Every fragment of a document refers to schemas of the document. -/
theorem ResolvedBase.refersWithin_document (base : ResolvedBase) (options : DocumentOptions)
    (shapes : ∀ table ∈ base.tables, table.HasFieldShapes) :
    ∀ fragment ∈ (base.document options).fragments,
      fragment.RefersWithin (base.document options).components.schemas.keys := by
  have keys := base.keys_schemas_document options
  have shared : standardSchemas.keys ⊆ (base.document options).components.schemas.keys := by
    rw [keys]
    exact List.subset_append_left _ _
  have attachment := shared (by decide : ComponentName.attachment ∈ standardSchemas.keys)
  have deleted := shared (by decide : ComponentName.deleted ∈ standardSchemas.keys)
  have own : ∀ entry ∈ base.registered,
      entry.2.toList ⊆ (base.document options).components.schemas.keys := by
    intro entry registered name member
    rw [keys]
    exact List.mem_append_right _ (List.mem_flatMap.mpr ⟨entry, registered, member⟩)
  apply forall_fragments_document
  · intro entry standard property member reference referred
    obtain ⟨key, present, same⟩ :=
      refersWithin_standardSchemas entry standard property member reference referred
    exact ⟨key, shared present, same⟩
  · intro entry registered
    exact ResolvedTable.refersWithin_recordSchemas
      (shapes entry.1 (mem_tables_of_mem_registered registered)) attachment (own entry registered)
  · intro entry registered operation member
    obtain ⟨action, performs⟩ := entry.2.performs_of_mem_operations member
    exact performs.refersWithin (RecordNames.references_of_mem_parameters member) deleted
      (own entry registered)

/-- What resolution makes of the tables of a schema. -/
theorem BaseSchema.resolved_tables {schema : BaseSchema} {base : ResolvedBase}
    (resolved : schema.resolve = .ok base) :
    ∀ table ∈ base.tables, table.HasFieldShapes ∧ Json.IsToken table.identifier := by
  obtain ⟨-, -, tables⟩ := BaseSchema.resolve_eq_ok_iff.mp resolved
  intro table member
  obtain ⟨source, -, resolvedTable⟩ := Fallible.exists_of_mem_right tables member
  obtain ⟨-, identifier, fields⟩ := Table.resolve_eq_ok_iff.mp resolvedTable
  refine ⟨?_, identifier ▸ isToken_sanitize source.name⟩
  intro field inTable
  obtain ⟨column, -, resolvedField⟩ := Fallible.exists_of_mem_right fields inTable
  obtain ⟨fragment, resolvedColumn, rfl⟩ := Column.toField_eq_ok_iff.mp resolvedField
  exact Column.isFieldShape_of_resolve resolvedColumn

/-- Every reference in the document of a schema leads to the component schema that it names, and
every operation asks for a security scheme of the document. -/
theorem BaseSchema.references_document {schema : BaseSchema} {options : DocumentOptions}
    {document : Document} (built : schema.document options = .ok document) :
    (∀ reference ∈ document.toJson.references, ∃ name target,
        reference = "#/components/schemas/" ++ name ∧
          document.components.schemas.get? name = some target ∧
          document.toJson.dereference? reference = some target.toJson) ∧
      ∀ operation ∈ document.operations, ∀ requirement ∈ operation.security,
        ∀ scheme ∈ Entries.keys requirement,
          scheme ∈ document.components.securitySchemes.keys := by
  obtain ⟨base, resolved, generated⟩ := Fallible.bind_eq_ok_iff.mp built
  obtain rfl := Fallible.pure_eq_ok_iff.mp generated
  have tables := resolved_tables resolved
  constructor
  · intro reference member
    rw [Document.references_toJson] at member
    obtain ⟨fragment, inDocument, referred⟩ := List.mem_flatMap.mp member
    obtain ⟨name, present, rfl⟩ := base.refersWithin_document options
      (fun table inTables => (tables table inTables).1) fragment inDocument reference referred
    obtain ⟨⟨_, target⟩, inSchemas, rfl⟩ := List.mem_map.mp present
    have found := OrderedMap.get?_of_mem inSchemas
    have clean := base.isToken_of_mem_keys (fun table inTables => (tables table inTables).2) present
    refine ⟨_, target, rfl, found, ?_⟩
    rw [Document.dereference?_component _ clean, found]
    rfl
  · intro operation member requirement inSecurity scheme named
    obtain ⟨entry, -, ofTable⟩ := base.exists_of_mem_operations options member
    rw [entry.2.security_of_mem_operations ofTable] at inSecurity
    have declared : ∀ requirement ∈ bearerSecurity, ∀ scheme ∈ Entries.keys requirement,
        scheme ∈ standardSecurity.keys := by decide
    exact declared requirement inSecurity scheme named

/-- A base whose tables have names that differ only in characters that an identifier may not have,
and whose columns are called like the key of references. -/
def escapedBase : BaseSchema where
  id := "appX"
  name := "X"
  tables := [
    { name := "a~1b%2Fc", columns := [{ name := "$ref", tag := "multipleAttachment" }] },
    { name := "a/1b2Fc", columns := [{ name := "$ref", tag := "attachment" }] }]

/-- The tables of `escapedBase` with the types of their columns. -/
def escapedBaseResolved : ResolvedBase where
  id := "appX"
  name := "X"
  tables := [
    { name := "a~1b%2Fc", identifier := "a1b2Fc", fields := [
        { name := "$ref", schema := .array (.component "AirtableAttachment")
          readOnly := true }] },
    { name := "a/1b2Fc", identifier := "a1b2Fc", fields :=
        [{ name := "$ref", schema := .component "AirtableAttachment", readOnly := true }] }]

theorem escapedBase_document : escapedBase.document {} = .ok (escapedBaseResolved.document {}) := by
  have resolved : escapedBase.resolve = .ok escapedBaseResolved := by cbv
  rw [BaseSchema.document, resolved]
  rfl

/-- The reference of the second table leads to a schema of its own. -/
theorem references_document_escapedBase :
    "#/components/schemas/Reada1b2Fc2Fields" ∈
        (escapedBaseResolved.document {}).toJson.references ∧
      ∃ name target, "#/components/schemas/Reada1b2Fc2Fields" = "#/components/schemas/" ++ name ∧
        (escapedBaseResolved.document {}).components.schemas.get? name = some target ∧
        (escapedBaseResolved.document {}).toJson.dereference?
          "#/components/schemas/Reada1b2Fc2Fields" = some target.toJson := by
  have member : "#/components/schemas/Reada1b2Fc2Fields" ∈
      (escapedBaseResolved.document {}).toJson.references := by
    rw [Document.references_toJson]
    decide +kernel
  exact ⟨member, (BaseSchema.references_document escapedBase_document).1 _ member⟩

end BaseApi
