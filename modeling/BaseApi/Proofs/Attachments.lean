import Mathlib
import BaseApi.Proofs.FieldShape
import BaseApi.Proofs.Registration

/-!
# Attachments in the fields that are written

Whether a column can be written is decided by its tag, and what it holds by its resolution, which
may go through several results. The two agree about attachments but for one kind of column: a number
whose format says nothing takes over the type of its result, and its tag is that of a column that
can be written. So among the columns that can be written these, and no others, hold attachments
(`Column.holdsAttachment_iff`), and an attachment among the written fields of a table comes from
one of them (`BaseSchema.attachments_document`).
-/

namespace BaseApi

/-! ## Attachments -/

/-- The fragment is an attachment or a list of attachments. -/
def Fragment.HoldsAttachment (fragment : Fragment) : Prop :=
  fragment = .component ComponentName.attachment ∨
    fragment = .array (.component ComponentName.attachment)

instance (fragment : Fragment) : Decidable fragment.HoldsAttachment :=
  inferInstanceAs (Decidable (_ ∨ _))

/-- The tags of columns that hold attachments by themselves. -/
def Tag.attachments : List String := ["attachment", "multipleAttachment"]

/-- The column resolves to a fragment that holds attachments. -/
def Column.HoldsAttachment (column : Column) : Prop :=
  ∃ fragment, column.resolve = .ok fragment ∧ fragment.HoldsAttachment

/-- The column is a number that has a null or empty format and takes over the type of a result,
which is an attachment. -/
def Column.TakesOverAttachment (column : Column) : Prop :=
  column.tag = Tag.number ∧ ∃ options result, column.typeOptions = some options ∧
    options.format.map (·.getD "") = some "" ∧ options.result = some result ∧
    result.tag ∈ Tag.attachments

theorem Fragment.not_holdsAttachment_scalar (type : ScalarType) :
    ¬ (Fragment.scalar type).HoldsAttachment := by
  rintro (same | same) <;> cases same

theorem Fragment.not_holdsAttachment_array_scalar (type : ScalarType) :
    ¬ (Fragment.array (.scalar type)).HoldsAttachment := by
  rintro (same | same) <;> cases same

/-! ## Columns by their tag -/

theorem PlainType.tag_mem_attachments {tag : String} {type : PlainType}
    (tagged : PlainType.ofTag? tag = some type) (holds : type.fragment.HoldsAttachment) :
    tag ∈ Tag.attachments := by
  unfold PlainType.ofTag? at tagged
  split at tagged <;> cases tagged <;> revert holds <;> decide

namespace Column

variable {column : Column}

/-- The column that stands for the result to which a number defers. -/
def deferred (name tag : String) (options : TypeOptions) : Column :=
  ({ tag, options := { options with format := none } } : Indirection).column name

/-- A number holds attachments only through the result to which it defers. -/
theorem HoldsAttachment.of_number (holds : column.HoldsAttachment)
    (tag : column.tag = Tag.number) :
    ∃ options result, column.typeOptions = some options ∧
      options.format.map (·.getD "") = some "" ∧ options.result = some result ∧
      result.tag ∉ Tag.notComputed ∧
      (deferred column.name result.tag options).HoldsAttachment := by
  obtain ⟨fragment, resolved, attachment⟩ := holds
  obtain ⟨type, classified, resolvedType⟩ := Fallible.bind_eq_ok_iff.mp resolved
  rw [ColumnType.ofColumn_number tag] at classified
  obtain ⟨format, formatted, rfl⟩ := Fallible.map_eq_ok_iff.mp classified
  rcases NumberFormat.cases_of_ofColumn formatted with
    ⟨scalar, settled⟩ | ⟨options, result, given, empty, found, rfl⟩
  · rw [ColumnType.resolve_of_settled _ settled, Except.ok.injEq] at resolvedType
    exact absurd (resolvedType ▸ attachment) (Fragment.not_holdsAttachment_scalar scalar)
  · rw [ColumnType.resolve_of_computed _ rfl] at resolvedType
    split at resolvedType
    · cases resolvedType
    · next accepted =>
        exact ⟨options, result, given, empty, found, accepted, fragment, resolvedType, attachment⟩

theorem not_holdsAttachment_foreignKey (tag : column.tag = Tag.foreignKey) :
    ¬ column.HoldsAttachment := by
  rintro ⟨fragment, resolved, attachment⟩
  obtain ⟨type, classified, resolvedType⟩ := Fallible.bind_eq_ok_iff.mp resolved
  rw [ColumnType.ofColumn_foreignKey tag] at classified
  obtain ⟨relationship, -, rfl⟩ := Fallible.map_eq_ok_iff.mp classified
  rw [ColumnType.resolve_of_settled _ rfl, Except.ok.injEq] at resolvedType
  exact Fragment.not_holdsAttachment_array_scalar _ (resolvedType ▸ attachment)

/-- A lookup yields an array of scalars, as one of attachments is refused. -/
theorem not_holdsAttachment_lookup (tag : column.tag = Tag.lookup) :
    ¬ column.HoldsAttachment := by
  rintro ⟨fragment, resolved, attachment⟩
  obtain ⟨type, classified, resolvedType⟩ := Fallible.bind_eq_ok_iff.mp resolved
  rw [ColumnType.ofColumn_lookup tag] at classified
  obtain ⟨result, -, rfl⟩ := Fallible.map_eq_ok_iff.mp classified
  obtain ⟨scalar, rfl⟩ := ColumnType.eq_array_scalar_of_resolve_lookup resolvedType
  exact Fragment.not_holdsAttachment_array_scalar scalar attachment

theorem HoldsAttachment.of_plain (holds : column.HoldsAttachment)
    (plain : column.tag ∉ ColumnType.structuredTags) : column.tag ∈ Tag.attachments := by
  obtain ⟨fragment, resolved, attachment⟩ := holds
  obtain ⟨type, classified, resolvedType⟩ := Fallible.bind_eq_ok_iff.mp resolved
  rw [ColumnType.ofColumn_plain plain] at classified
  split at classified
  · next type tagged =>
      cases classified
      rw [ColumnType.resolve_of_settled _ rfl, Except.ok.injEq] at resolvedType
      exact PlainType.tag_mem_attachments tagged (resolvedType ▸ attachment)
  · cases classified

/-- What a column holds attachments through: its own tag, a formula or a rollup, or the result of a
number that defers to it. -/
theorem HoldsAttachment.cases (holds : column.HoldsAttachment) :
    column.tag ∈ Tag.attachments ∨ column.tag ∈ Tag.notComputed ∨
      column.tag = Tag.number ∧ ∃ options result, column.typeOptions = some options ∧
        options.format.map (·.getD "") = some "" ∧ options.result = some result ∧
        result.tag ∉ Tag.notComputed ∧
        (deferred column.name result.tag options).HoldsAttachment := by
  by_cases structured : column.tag ∈ ColumnType.structuredTags
  · simp only [ColumnType.structuredTags, List.mem_cons, List.not_mem_nil, or_false] at structured
    rcases structured with number | foreignKey | lookup | formula | rollup
    · exact .inr (.inr ⟨number, holds.of_number number⟩)
    · exact absurd holds (not_holdsAttachment_foreignKey foreignKey)
    · exact absurd holds (not_holdsAttachment_lookup lookup)
    · exact .inr (.inl (by simp [formula, Tag.notComputed]))
    · exact .inr (.inl (by simp [rollup, Tag.notComputed]))
  · exact .inl (holds.of_plain structured)

/-- The result of a number that defers holds attachments by its own tag, as it has no format and is
no formula and no rollup. -/
theorem tag_mem_attachments_of_deferred {name tag : String} {options : TypeOptions}
    (accepted : tag ∉ Tag.notComputed) (holds : (deferred name tag options).HoldsAttachment) :
    tag ∈ Tag.attachments := by
  rcases holds.cases with own | computed | ⟨-, _, _, given, empty, -⟩
  · exact own
  · exact absurd computed accepted
  · cases given
    cases empty

theorem holdsAttachment_of_tag_mem (own : column.tag ∈ Tag.attachments) :
    column.HoldsAttachment := by
  simp only [Tag.attachments, List.mem_cons, List.not_mem_nil, or_false] at own
  rcases own with tag | tag
  · have classified : ColumnType.ofColumn column = .ok (.plain .attachment) := by
      rw [ColumnType.ofColumn_plain (by rw [tag]; decide), tag]
      rfl
    exact ⟨_, resolve_of_settled classified rfl, .inl rfl⟩
  · have classified : ColumnType.ofColumn column = .ok (.plain .multipleAttachment) := by
      rw [ColumnType.ofColumn_plain (by rw [tag]; decide), tag]
      rfl
    exact ⟨_, resolve_of_settled classified rfl, .inr rfl⟩

/-- A number that takes over an attachment resolves as the attachment does. -/
theorem TakesOverAttachment.holdsAttachment (takesOver : column.TakesOverAttachment) :
    column.HoldsAttachment := by
  obtain ⟨tag, options, result, given, empty, found, attachment⟩ := takesOver
  have accepted : ∀ tag ∈ Tag.attachments, tag ∉ Tag.notComputed := by decide
  have formatted : NumberFormat.ofColumn column =
      .ok (.derived { tag := result.tag, options := { options with format := none } }) := by
    simp only [NumberFormat.ofColumn, given, empty, found]
  have held : (deferred column.name result.tag options).HoldsAttachment :=
    holdsAttachment_of_tag_mem attachment
  obtain ⟨fragment, resolved, holds⟩ := held
  refine ⟨fragment, ?_, holds⟩
  rw [resolve_of_ok ((ColumnType.ofColumn_number tag).trans (congrArg _ formatted)),
    ColumnType.resolve_of_computed _ rfl, if_neg (accepted _ attachment)]
  exact resolved

/-- A column can be written and holds attachments exactly if it is a number that takes one over. -/
theorem holdsAttachment_iff :
    column.isReadOnly = false ∧ column.HoldsAttachment ↔ column.TakesOverAttachment := by
  constructor
  · rintro ⟨writable, holds⟩
    have computed : ∀ tag ∈ Tag.attachments ++ Tag.notComputed, Tag.isReadOnly tag = true := by
      decide
    have readOnly : ∀ tag ∈ Tag.attachments ++ Tag.notComputed, column.tag ≠ tag := by
      rintro tag member rfl
      rw [isReadOnly, computed _ member] at writable
      cases writable
    rcases holds.cases with own | through | ⟨tag, options, result, given, empty, found, rest⟩
    · exact absurd rfl (readOnly _ (List.mem_append_left _ own))
    · exact absurd rfl (readOnly _ (List.mem_append_right _ through))
    · exact ⟨tag, options, result, given, empty, found,
        tag_mem_attachments_of_deferred rest.1 rest.2⟩
  · intro takesOver
    refine ⟨?_, takesOver.holdsAttachment⟩
    rw [isReadOnly, takesOver.1]
    decide

end Column

/-! ## Written fields -/

/-- A property among the written fields of a table comes from a column that can be written. -/
theorem Table.exists_column_of_mem_written {table : Table} {resolved : ResolvedTable}
    (found : table.resolve = .ok resolved) {property : String × Fragment}
    (member : property ∈
      (ObjectSchema.ofProperties
        (resolved.writable.map ResolvedField.property)).properties.entries) :
    ∃ column ∈ table.columns, column.isReadOnly = false ∧ column.name = property.1 ∧
      column.resolve = .ok property.2 := by
  obtain ⟨field, writable, rfl⟩ := List.mem_map.mp (Entries.mem_of_mem_merge member)
  obtain ⟨inTable, notReadOnly⟩ := List.mem_filter.mp writable
  obtain ⟨-, -, fields⟩ := Table.resolve_eq_ok_iff.mp found
  obtain ⟨column, among, resolvedField⟩ := Fallible.exists_of_mem_right fields inTable
  obtain ⟨fragment, resolvedColumn, rfl⟩ := Column.toField_eq_ok_iff.mp resolvedField
  exact ⟨column, among, by simpa using notReadOnly, rfl, resolvedColumn⟩

/-- The columns that can be written and hold attachments are the numbers that take one over. Each
table of a schema has a schema of written fields in the document; its properties come from columns
that can be written, and where one is an attachment or a list of attachments, it comes from such a
number. -/
theorem BaseSchema.attachments_document {schema : BaseSchema} {options : DocumentOptions}
    {document : Document} (built : schema.document options = .ok document) :
    (∀ column : Column,
      column.isReadOnly = false ∧ column.HoldsAttachment ↔ column.TakesOverAttachment) ∧
    ∃ base, schema.resolve = .ok base ∧ document = base.document options ∧
      List.Forall₂ (fun table entry => ∃ written,
        document.components.schemas.get? entry.2.writeFields = some written ∧
        ∀ property ∈ written.properties.entries, ∃ column ∈ table.columns,
          column.isReadOnly = false ∧ column.name = property.1 ∧
          column.resolve = .ok property.2 ∧
          (property.2.HoldsAttachment → column.TakesOverAttachment))
        schema.tables base.registered := by
  obtain ⟨base, resolved, generated⟩ := Fallible.bind_eq_ok_iff.mp built
  obtain rfl := Fallible.pure_eq_ok_iff.mp generated
  refine ⟨fun column => Column.holdsAttachment_iff, base, resolved, rfl, ?_⟩
  have tables := (BaseSchema.resolve_eq_ok_iff.mp resolved).2.2
  rw [← base.map_fst_registered, List.forall₂_map_right_iff] at tables
  have stored : ∀ entry ∈ base.registered,
      entry.1.StoredUnder entry.2 (base.document options).components.schemas :=
    fun entry member => base.storedUnder_of_mem_registered options member
  have both := (List.forall₂_and_left _ _).mpr ⟨stored, tables.flip⟩
  refine both.flip.imp ?_
  rintro table entry ⟨storedEntry, resolvedTable⟩
  refine ⟨_, storedEntry.writeFields, ?_⟩
  intro property member
  obtain ⟨column, among, writable, name, found⟩ :=
    Table.exists_column_of_mem_written resolvedTable member
  exact ⟨column, among, writable, name, found, fun attachment =>
    Column.holdsAttachment_iff.mp ⟨writable, property.2, found, attachment⟩⟩

/-- A base with a number that takes over a list of attachments, beside a formula that does and a
column that holds none. -/
def photoBase : BaseSchema where
  id := "appX"
  name := "X"
  tables := [
    { name := "A", columns := [
        { name := "Photos", tag := "number"
          typeOptions := some {
            format := some none
            result := some { tag := "multipleAttachment" } } },
        { name := "Cover", tag := "formula"
          options := some { result := some { tag := "attachment" } } },
        { name := "Note", tag := "text" }] }]

/-- The table of `photoBase` with the types of its columns. -/
def photoTable : ResolvedTable where
  name := "A"
  identifier := "A"
  fields := [
    { name := "Photos", schema := .array (.component "AirtableAttachment"), readOnly := false },
    { name := "Cover", schema := .component "AirtableAttachment", readOnly := true },
    { name := "Note", schema := .string, readOnly := false }]

def photoBaseResolved : ResolvedBase := { id := "appX", name := "X", tables := [photoTable] }

theorem photoBase_resolve : photoBase.resolve = .ok photoBaseResolved := by
  decide +kernel

theorem photoBaseResolved_registered : photoBaseResolved.registered = [(photoTable, ⟨"A"⟩)] := by
  cbv

/-- Of the two columns of `photoBase` with attachments only the number is written. -/
theorem attachments_document_photoBase :
    photoBase.document {} = .ok (photoBaseResolved.document {}) ∧
      ∃ written, (photoBaseResolved.document {}).components.schemas.get? "WriteAFields" =
          some written ∧
        ∀ property ∈ written.properties.entries,
          property.2.HoldsAttachment → property.1 = "Photos" := by
  have built : photoBase.document {} = .ok (photoBaseResolved.document {}) := by
    rw [BaseSchema.document, photoBase_resolve]
    rfl
  refine ⟨built, ?_⟩
  obtain ⟨-, base, resolved, -, tables⟩ := BaseSchema.attachments_document built
  obtain rfl := Except.ok.inj (photoBase_resolve.symm.trans resolved)
  rw [photoBaseResolved_registered] at tables
  obtain ⟨written, found, origin⟩ := (List.forall₂_cons.mp tables).1
  refine ⟨written, found, ?_⟩
  intro property member attachment
  obtain ⟨column, among, -, name, -, takesOver⟩ := origin property member
  have numbers : ∀ column ∈ (photoBase.tables.head (by decide)).columns,
      column.tag = Tag.number → column.name = "Photos" := by decide
  rw [← name]
  exact numbers column among (takesOver attachment).1

/-- Attachments can be written: the number of `photoBase` is among the written fields. -/
theorem photoBase_writes_attachments :
    ¬ ∀ (schema : BaseSchema) (options : DocumentOptions) (base : ResolvedBase),
      schema.resolve = .ok base → ∀ entry ∈ base.registered, ∀ written,
        (base.document options).components.schemas.get? entry.2.writeFields = some written →
          ∀ property ∈ written.properties.entries, ¬ property.2.HoldsAttachment := by
  intro never
  have registered : (photoTable, RecordNames.mk "A") ∈ photoBaseResolved.registered := by
    rw [photoBaseResolved_registered]
    exact List.mem_singleton_self _
  have stored := photoBaseResolved.storedUnder_of_mem_registered {} registered
  have listed : ("Photos", Fragment.array (.component "AirtableAttachment")) ∈
      (ObjectSchema.ofProperties
        (photoTable.writable.map ResolvedField.property)).properties.entries := by decide
  exact never photoBase {} photoBaseResolved photoBase_resolve _ registered _ stored.writeFields _
    listed (.inr rfl)

end BaseApi
