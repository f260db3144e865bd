import BaseApi.Proofs.Reading.Nesting
import BaseApi.Proofs.SelfContained

/-!
# Documents are plain values

A document is written without numbers. No object repeats a key if the operations have distinct keys
(`Operation.HasDistinctKeys`), and how deep it goes depends on its fragments alone
(`Document.isPlain_toJson`). In a generated document contents and responses come one by one, and a
fragment is an array of scalars or references at most, so ten containers lie inside one another at
most (`ResolvedBase.isPlain_document`).
-/

namespace BaseApi

open Json

/-! ## Members -/

namespace Json

variable {α : Type} {toJson : α → Json} {depth : Nat} {key : String}

theorem isPlain_ofEntries {entries : Entries α} (once : (Entries.keys entries).Nodup)
    (each : ∀ entry ∈ entries, (toJson entry.2).IsPlain depth) :
    (ofEntries toJson entries).IsPlain (depth + 1) := by
  refine .obj ?_ ?_
  · rw [Entries.keys, List.map_map]
    exact once
  · rw [List.forall_mem_map]
    exact each

theorem isPlain_arr_map {items : List α} (each : ∀ item ∈ items, (toJson item).IsPlain depth) :
    (arr (items.map toJson)).IsPlain (depth + 1) := by
  apply IsPlain.arr
  rw [List.forall_mem_map]
  exact each

theorem isPlain_of_mem_listMember {items : List α}
    (each : ∀ item ∈ items, (toJson item).IsPlain depth) :
    ∀ member ∈ listMember key toJson items, member.2.IsPlain (depth + 1) := by
  unfold listMember
  split
  · exact fun _ among => absurd among List.not_mem_nil
  · rw [List.forall_mem_singleton]
    exact isPlain_arr_map each

theorem isPlain_of_mem_optionalMember {value : Option α}
    (each : ∀ item ∈ value, (toJson item).IsPlain depth) :
    ∀ member ∈ optionalMember key (value.map toJson), member.2.IsPlain depth := by
  cases value with
  | none => exact fun _ among => absurd among List.not_mem_nil
  | some item =>
      rw [Option.map_some, optionalMember, List.forall_mem_singleton]
      exact each item rfl

theorem sublist_keys_listMember (items : List α) :
    (Entries.keys (listMember key toJson items)).Sublist [key] := by
  unfold listMember
  split
  · exact List.nil_sublist _
  · exact List.Sublist.refl _

end Json

/-! ## Documents -/

/-- How many containers of a written fragment lie inside one another. -/
def Fragment.levels : Fragment → Nat
  | scalar _ | ref _ => 1
  | array items => items.levels + 1

theorem Fragment.isPlain_toJson (fragment : Fragment) :
    fragment.toJson.IsPlain fragment.levels := by
  induction fragment with
  | scalar type => exact .obj (by simp) (List.forall_mem_singleton.mpr (.str _))
  | ref path => exact .obj (by simp) (List.forall_mem_singleton.mpr (.str _))
  | array items ih =>
      refine .obj (by simp) ?_
      simp only [List.forall_mem_cons]
      exact ⟨.str _, ih, by simp⟩

section Records

variable {levels : Nat}

theorem ObjectSchema.isPlain_toJson {schema : ObjectSchema}
    (shallow : ∀ property ∈ schema.properties.entries, property.2.levels ≤ levels) :
    schema.toJson.IsPlain (levels + 2) := by
  refine .obj ?_ ?_
  · have keys : ["required", "properties"].Nodup := by decide
    rw [Entries.keys_append]
    exact ((sublist_keys_listMember _).append (List.Sublist.refl ["properties"])).nodup keys
  · rw [List.forall_mem_append, List.forall_mem_singleton]
    exact ⟨isPlain_of_mem_listMember fun _ _ => .str _,
      isPlain_ofEntries schema.properties.nodup_keys fun property member =>
        property.2.isPlain_toJson.mono (shallow property member)⟩

theorem Parameter.isPlain_toJson {parameter : Parameter}
    (shallow : parameter.schema.levels ≤ levels) : parameter.toJson.IsPlain (levels + 1) := by
  refine .obj (by simp) ?_
  simp only [List.forall_mem_cons]
  exact ⟨.str _, .str _, .bool _, parameter.schema.isPlain_toJson.mono shallow, by simp⟩

theorem isPlain_ofContent {content : Entries Fragment} (once : (Entries.keys content).Nodup)
    (shallow : ∀ fragment ∈ content.map Prod.snd, fragment.levels ≤ levels) :
    (ofEntries contentToJson content).IsPlain (levels + 2) := by
  rw [List.forall_mem_map] at shallow
  refine isPlain_ofEntries once fun entry member => .obj (by simp) ?_
  rw [List.forall_mem_singleton]
  exact entry.2.isPlain_toJson.mono (shallow entry member)

theorem RequestBody.isPlain_toJson {body : RequestBody} (once : (Entries.keys body.content).Nodup)
    (shallow : ∀ fragment ∈ body.content.map Prod.snd, fragment.levels ≤ levels) :
    body.toJson.IsPlain (levels + 3) := by
  refine .obj (by simp) ?_
  simp only [List.forall_mem_cons]
  exact ⟨.bool _, isPlain_ofContent once shallow, by simp⟩

theorem Response.isPlain_toJson {response : Response}
    (once : (Entries.keys response.content).Nodup)
    (shallow : ∀ fragment ∈ response.content.map Prod.snd, fragment.levels ≤ levels) :
    response.toJson.IsPlain (levels + 3) := by
  refine .obj (by simp) ?_
  simp only [List.forall_mem_cons]
  exact ⟨.str _, isPlain_ofContent once shallow, by simp⟩

/-- No key comes twice in what an operation lists under keys. -/
structure Operation.HasDistinctKeys (operation : Operation) : Prop where
  security : ∀ requirement ∈ operation.security, (Entries.keys requirement).Nodup
  taken : ∀ body ∈ operation.requestBody, (Entries.keys body.content).Nodup
  responses : (Entries.keys operation.responses).Nodup
  answered : ∀ response ∈ operation.responses, (Entries.keys response.2.content).Nodup

theorem Operation.isPlain_toJson {operation : Operation} (distinct : operation.HasDistinctKeys)
    (shallow : ∀ fragment ∈ operation.fragments, fragment.levels ≤ levels) :
    operation.toJson.IsPlain (levels + 5) := by
  simp only [fragments, List.forall_mem_append, List.forall_mem_map] at shallow
  obtain ⟨⟨parameters, taken⟩, answered⟩ := shallow
  have security : (arr (operation.security.map (ofEntries ofTexts))).IsPlain 3 :=
    isPlain_arr_map fun requirement member =>
      isPlain_ofEntries (distinct.security requirement member) fun _ _ =>
        isPlain_arr_map fun _ _ => .str _
  have bodies : ∀ body ∈ operation.requestBody, body.toJson.IsPlain (levels + 3) := by
    intro body given
    refine body.isPlain_toJson (distinct.taken body given) fun fragment member => ?_
    exact taken fragment (List.mem_flatMap.mpr ⟨body, Option.mem_toList.mpr given, member⟩)
  have responses : ∀ response ∈ operation.responses, response.2.toJson.IsPlain (levels + 3) := by
    intro response given
    refine response.2.isPlain_toJson (distinct.answered response given) fun fragment member => ?_
    exact answered fragment (List.mem_flatMap.mpr ⟨response, given, member⟩)
  refine .obj ?_ ?_
  · have keys : ["operationId", "security", "parameters", "requestBody", "responses"].Nodup := by
      decide
    simp only [Entries.keys_append]
    exact ((((List.Sublist.refl ["operationId", "security"]).append
      (sublist_keys_listMember _)).append (sublist_keys_optionalMember _ _)).append
      (List.Sublist.refl ["responses"])).nodup keys
  · simp only [List.forall_mem_append, List.forall_mem_cons]
    refine ⟨⟨⟨⟨.str _, security.mono (by omega), by simp⟩, ?_⟩, ?_⟩, ?_, by simp⟩
    · exact isPlain_of_mem_listMember fun parameter member =>
        (parameter.isPlain_toJson (parameters parameter member)).mono (by omega)
    · exact isPlain_of_mem_optionalMember fun body given => (bodies body given).mono (by omega)
    · exact isPlain_ofEntries distinct.responses responses

theorem PathItem.isPlain_toJson {item : PathItem}
    (distinct : ∀ operation ∈ item.operations, operation.HasDistinctKeys)
    (shallow : ∀ fragment ∈ item.operations.flatMap Operation.fragments,
      fragment.levels ≤ levels) : item.toJson.IsPlain (levels + 6) := by
  have operations : ∀ operation ∈ item.operations, operation.toJson.IsPlain (levels + 5) := by
    intro operation given
    refine operation.isPlain_toJson (distinct operation given) fun fragment member => ?_
    exact shallow fragment (List.mem_flatMap.mpr ⟨operation, given, member⟩)
  simp only [operations_eq, List.forall_mem_append, Option.mem_toList] at operations
  obtain ⟨⟨⟨⟨get, post⟩, put⟩, patch⟩, delete⟩ := operations
  refine .obj ?_ ?_
  · have keys : ["get", "post", "put", "patch", "delete"].Nodup := by decide
    simp only [Entries.keys_append]
    exact (((((sublist_keys_optionalMember _ _).append (sublist_keys_optionalMember _ _)).append
      (sublist_keys_optionalMember _ _)).append (sublist_keys_optionalMember _ _)).append
      (sublist_keys_optionalMember _ _)).nodup keys
  · simp only [List.forall_mem_append]
    exact ⟨⟨⟨⟨isPlain_of_mem_optionalMember get, isPlain_of_mem_optionalMember post⟩,
      isPlain_of_mem_optionalMember put⟩, isPlain_of_mem_optionalMember patch⟩,
      isPlain_of_mem_optionalMember delete⟩

/-- How deep a document goes depends on its fragments alone. -/
theorem Document.isPlain_toJson {document : Document}
    (distinct : ∀ operation ∈ document.operations, operation.HasDistinctKeys)
    (shallow : ∀ fragment ∈ document.fragments, fragment.levels ≤ levels) :
    document.toJson.IsPlain (levels + 8) := by
  have info : (obj [("title", .str document.info.title),
      ("version", .str document.info.version)]).IsPlain 1 :=
    .obj (by simp) (by simp [IsPlain.str])
  have servers : (arr (document.servers.map fun url => obj [("url", .str url)])).IsPlain 2 :=
    isPlain_arr_map fun url _ => .obj (by simp) (by simp [IsPlain.str])
  have schemas : (schemasToJson document.components.schemas).IsPlain (levels + 3) := by
    refine isPlain_ofEntries document.components.schemas.nodup_keys fun schema given => ?_
    refine schema.2.isPlain_toJson fun property member => shallow property.2 ?_
    exact List.mem_append_left _
      (List.mem_flatMap.mpr ⟨schema, given, List.mem_map_of_mem member⟩)
  have schemes : (securitySchemesToJson document.components.securitySchemes).IsPlain 2 :=
    isPlain_ofEntries document.components.securitySchemes.nodup_keys fun scheme _ =>
      .obj (by simp) (by simp [IsPlain.str])
  have components : (obj [("schemas", schemasToJson document.components.schemas),
      ("securitySchemes", securitySchemesToJson document.components.securitySchemes)]).IsPlain
      (levels + 4) := by
    refine .obj (by simp) ?_
    simp only [List.forall_mem_cons]
    exact ⟨schemas, schemes.mono (by omega), by simp⟩
  have paths : (ofEntries PathItem.toJson document.paths.entries).IsPlain (levels + 7) := by
    refine isPlain_ofEntries document.paths.nodup_keys fun path given => ?_
    have inPaths : ∀ operation ∈ path.2.operations, operation ∈ document.operations :=
      fun operation member => List.mem_flatMap.mpr ⟨path, given, member⟩
    refine path.2.isPlain_toJson (fun operation member => distinct _ (inPaths _ member)) ?_
    intro fragment member
    obtain ⟨operation, inItem, inOperation⟩ := List.mem_flatMap.mp member
    exact shallow fragment (List.mem_append_right _
      (List.mem_flatMap.mpr ⟨operation, inPaths operation inItem, inOperation⟩))
  refine .obj (by simp) ?_
  simp only [List.forall_mem_cons]
  exact ⟨.str _, info.mono (by omega), servers.mono (by omega), components.mono (by omega), paths,
    by simp⟩

end Records

/-! ## Generated documents -/

theorem Fragment.IsFieldShape.levels_le {fragment : Fragment} (shape : fragment.IsFieldShape) :
    fragment.levels ≤ 2 := by
  cases shape <;> simp [levels, component]

/-- Contents and responses come one by one, and so do the schemes of a requirement. -/
theorem RecordNames.hasDistinctKeys_of_mem_operations {names : RecordNames} {operation : Operation}
    (member : operation ∈ names.operations) : operation.HasDistinctKeys := by
  have security : ∀ requirement ∈ bearerSecurity, (Entries.keys requirement).Nodup := by decide
  have untaken : ∀ body ∈ (none : Option RequestBody), (Entries.keys body.content).Nodup :=
    fun _ carried => absurd carried (Option.not_mem_none _)
  have taken : ∀ body ∈ some (jsonRequestBody names.writeRequestBody),
      (Entries.keys body.content).Nodup := by
    rintro _ ⟨⟩
    exact List.nodup_singleton contentType
  have responses (description : String) (schema : Fragment) :
      (Entries.keys (okResponse description schema)).Nodup := List.nodup_singleton "200"
  have answered (description : String) (schema : Fragment) :
      ∀ response ∈ okResponse description schema, (Entries.keys response.2.content).Nodup :=
    List.forall_mem_singleton.mpr (List.nodup_singleton contentType)
  simp only [operations, List.mem_cons, List.not_mem_nil, or_false] at member
  rcases member with rfl | rfl | rfl | rfl | rfl
  · exact ⟨security, untaken, responses _ _, answered _ _⟩
  · exact ⟨security, taken, responses _ _, answered _ _⟩
  · exact ⟨security, untaken, responses _ _, answered _ _⟩
  · exact ⟨security, taken, responses _ _, answered _ _⟩
  · exact ⟨security, untaken, responses _ _, answered _ _⟩

theorem RecordNames.levels_le_of_mem_operations {names : RecordNames} {operation : Operation}
    (member : operation ∈ names.operations) :
    ∀ fragment ∈ operation.fragments, fragment.levels ≤ 2 := by
  have known : ∀ parameter ∈ idParameter :: listParameters, parameter.schema.levels ≤ 2 := by
    decide
  obtain ⟨action, performs⟩ := names.performs_of_mem_operations member
  have carried : ∀ fragment ∈ operation.taken ++ operation.answered, fragment.levels ≤ 2 := by
    rw [performs.taken_eq, performs.answered_eq]
    cases action <;>
      simp [RecordAction.taken, RecordAction.answered, Fragment.levels, Fragment.component]
  rw [Operation.fragments, List.append_assoc, List.forall_mem_append, List.forall_mem_map]
  exact ⟨fun parameter among =>
    known parameter (names.mem_of_mem_parameters member parameter among), carried⟩

/-- At most ten containers of a generated document lie inside one another. -/
theorem ResolvedBase.isPlain_document (base : ResolvedBase) (options : DocumentOptions)
    (shapes : ∀ table ∈ base.tables, table.HasFieldShapes) :
    (base.document options).toJson.IsPlain 10 := by
  apply Document.isPlain_toJson
  · intro operation member
    obtain ⟨entry, -, ofTable⟩ := base.exists_of_mem_operations options member
    exact RecordNames.hasDistinctKeys_of_mem_operations ofTable
  · apply forall_fragments_document
    · decide
    · intro entry registered
      have inTables := mem_tables_of_mem_registered registered
      apply ResolvedTable.forall_recordSchemas fun fragment => fragment.levels ≤ 2
      · exact fun field member => (shapes entry.1 inTables field member).levels_le
      · exact one_le_two
      · exact one_le_two
      · exact one_le_two
    · intro entry registered operation
      exact RecordNames.levels_le_of_mem_operations

end BaseApi
