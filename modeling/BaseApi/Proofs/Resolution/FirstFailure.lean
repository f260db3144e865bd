import Mathlib
import BaseApi.Document.Assembly
import BaseApi.Proofs.FieldShape
import BaseApi.Proofs.Fallible
import BaseApi.Proofs.Resolution.Failures

/-!
# The first column without a type

A schema has a document exactly if all of its columns have a type. If not, the failure names the
first table with a column that has none, and holds the error of the first such column of that table
(`BaseSchema.document_outcome`). However deep in the indirections the error arose, it names the
column that was to be resolved (`Column.column_of_resolve_error`).
-/

namespace BaseApi

open Fallible

/-! ## What a message says -/

/-- A text stands somewhere in another. -/
def IsPartOf (part whole : String) : Prop := part.toList <:+: whole.toList

namespace IsPartOf

variable {part whole : String}

theorem refl (part : String) : IsPartOf part part := List.infix_rfl

theorem before (within : IsPartOf part whole) (text : String) : IsPartOf part (whole ++ text) := by
  rw [IsPartOf, String.toList_append]
  exact within.trans (List.prefix_append _ _).isInfix

theorem after (within : IsPartOf part whole) (text : String) : IsPartOf part (text ++ whole) := by
  rw [IsPartOf, String.toList_append]
  exact within.trans (List.suffix_append _ _).isInfix

end IsPartOf

theorem ColumnError.isPartOf_message (error : ColumnError) :
    IsPartOf error.column error.message ∧ IsPartOf error.fault.detail error.message := by
  obtain ⟨column, fault⟩ := error
  -- Only the message about a relationship has the detail before the column.
  cases fault with
  | unknownType tag | unknownFormat tag | unsupportedLookup tag | invalidIndirection tag =>
      exact ⟨(((IsPartOf.refl column).after _).before _).before _, (IsPartOf.refl tag).after _⟩
  | unknownRelationship relationship =>
      exact ⟨(IsPartOf.refl column).after _,
        (((IsPartOf.refl relationship).after _).before _).before _⟩

theorem Failure.isPartOf_message_column (table : String) (error : ColumnError) :
    IsPartOf table (column table error).message ∧
      IsPartOf error.message (column table error).message :=
  ⟨(((IsPartOf.refl table).after _).before _).before _, (IsPartOf.refl error.message).after _⟩

/-! ## Tables and bases -/

/-- A column has a type. -/
def Column.Resolves (column : Column) : Prop := ∃ fragment, column.resolve = .ok fragment

/-- All columns of a table have a type. -/
def Table.Resolves (table : Table) : Prop := ∀ column ∈ table.columns, column.Resolves

theorem Column.toField_eq_error_iff {column : Column} {error : ColumnError} :
    column.toField = .error error ↔ column.resolve = .error error := by
  simp [toField, bind_eq_error_iff, pure, Except.pure]

theorem Column.exists_toField_iff {column : Column} :
    (∃ field, column.toField = .ok field) ↔ column.Resolves := by
  simp only [toField_eq_ok_iff, Resolves]
  rw [exists_comm]
  simp

theorem Table.resolve_eq_error_iff {table : Table} {failure : Failure} :
    table.resolve = .error failure ↔
      ∃ column error, IsFirstWithout Column.Resolves table.columns column ∧
        column.resolve = .error error ∧ failure = .column table.name error := by
  have first (error : ColumnError) : table.columns.mapM Column.toField = .error error ↔
      ∃ column, IsFirstWithout Column.Resolves table.columns column ∧
        column.resolve = .error error := by
    simp only [mapM_eq_error_iff, Column.exists_toField_iff, Column.toField_eq_error_iff]
  unfold resolve
  split
  · next fields resolved =>
      simp only [reduceCtorEq, false_iff]
      rintro ⟨column, error, without, failed, -⟩
      have unresolved := (first error).mpr ⟨column, without, failed⟩
      cases resolved.symm.trans unresolved
  · next error unresolved =>
      obtain ⟨column, without, failed⟩ := (first error).mp unresolved
      constructor
      · rintro ⟨⟩
        exact ⟨column, error, without, failed, rfl⟩
      · rintro ⟨other, fault, without, failed, rfl⟩
        cases unresolved.symm.trans ((first fault).mpr ⟨other, without, failed⟩)
        rfl

theorem Table.exists_resolve_iff {table : Table} :
    (∃ resolved, table.resolve = .ok resolved) ↔ table.Resolves := by
  have fields : (∃ fields, table.columns.mapM Column.toField = .ok fields) ↔ table.Resolves := by
    simp only [exists_mapM_eq_ok_iff, Column.exists_toField_iff, Resolves]
  rw [← fields]
  unfold resolve
  split
  · next resolved => simp [resolved]
  · next unresolved => simp [unresolved]

theorem BaseSchema.exists_resolve_iff {schema : BaseSchema} :
    (∃ base, schema.resolve = .ok base) ↔ ∀ table ∈ schema.tables, table.Resolves := by
  have tables : (∃ base, schema.resolve = .ok base) ↔
      ∃ tables, schema.tables.mapM Table.resolve = .ok tables := by
    simp only [resolve, bind_eq_ok_iff, pure_eq_ok_iff]
    constructor
    · rintro ⟨_, tables, resolved, -⟩
      exact ⟨tables, resolved⟩
    · rintro ⟨tables, resolved⟩
      exact ⟨_, tables, resolved, rfl⟩
  simp only [tables, exists_mapM_eq_ok_iff, Table.exists_resolve_iff]

theorem BaseSchema.resolve_eq_error_iff {schema : BaseSchema} {failure : Failure} :
    schema.resolve = .error failure ↔
      ∃ table, IsFirstWithout Table.Resolves schema.tables table ∧
        table.resolve = .error failure := by
  have tables : schema.resolve = .error failure ↔
      schema.tables.mapM Table.resolve = .error failure := by
    simp [resolve, bind_eq_error_iff, pure, Except.pure]
  rw [tables, mapM_eq_error_iff]
  simp only [Table.exists_resolve_iff]

/-- Nothing but a column makes a resolution fail. -/
theorem BaseSchema.eq_column_of_resolve {schema : BaseSchema} {failure : Failure}
    (failed : schema.resolve = .error failure) :
    ∃ table error, failure = .column table error := by
  obtain ⟨table, -, failedTable⟩ := resolve_eq_error_iff.mp failed
  obtain ⟨column, error, -, -, rfl⟩ := Table.resolve_eq_error_iff.mp failedTable
  exact ⟨table.name, error, rfl⟩

/-! ## Documents -/

/-- The field stands for the column. -/
def Column.GivesField (column : Column) (field : ResolvedField) : Prop :=
  field.name = column.name ∧ column.resolve = .ok field.schema ∧
    field.readOnly = Tag.isReadOnly column.tag

/-- The resolved table stands for the table, field by field. -/
def Table.GivesTable (table : Table) (resolved : ResolvedTable) : Prop :=
  resolved.name = table.name ∧ resolved.identifier = sanitize table.name ∧
    List.Forall₂ Column.GivesField table.columns resolved.fields

theorem Column.toField_eq_ok_iff_givesField {column : Column} {field : ResolvedField} :
    column.toField = .ok field ↔ column.GivesField field := by
  rw [toField_eq_ok_iff, GivesField]
  constructor
  · rintro ⟨fragment, resolved, rfl⟩
    exact ⟨rfl, resolved, rfl⟩
  · rintro ⟨name, resolved, readOnly⟩
    exact ⟨field.schema, resolved, by rw [← name, isReadOnly, ← readOnly]⟩

/-- A schema has a document exactly if all of its columns have a type. It fails exactly with the
error of the first column that has none, of the first table with such a column; the error names the
column, and the message has the table, the column and the detail in it. What a schema resolves to
has its tables and columns one by one, in their order. -/
theorem BaseSchema.document_outcome (schema : BaseSchema) (options : DocumentOptions) :
    ((∃ document, schema.document options = .ok document) ↔
      ∀ table ∈ schema.tables, ∀ column ∈ table.columns, column.Resolves) ∧
    (∀ failure, schema.document options = .error failure ↔
      ∃ table column error, IsFirstWithout Table.Resolves schema.tables table ∧
        IsFirstWithout Column.Resolves table.columns column ∧
        column.resolve = .error error ∧ failure = .column table.name error ∧
        error.column = column.name ∧
        ∀ part ∈ [table.name, column.name, error.fault.detail], IsPartOf part failure.message) ∧
    ∀ base, schema.resolve = .ok base ↔
      base.id = schema.id ∧ base.name = schema.name ∧
        List.Forall₂ Table.GivesTable schema.tables base.tables := by
  refine ⟨?_, ?_, ?_⟩
  · have documents : (∃ document, schema.document options = .ok document) ↔
        ∃ base, schema.resolve = .ok base := by
      simp only [document, bind_eq_ok_iff, pure_eq_ok_iff]
      constructor
      · rintro ⟨_, base, resolved, -⟩
        exact ⟨base, resolved⟩
      · rintro ⟨base, resolved⟩
        exact ⟨_, base, resolved, rfl⟩
    rw [documents, exists_resolve_iff]
    rfl
  · intro failure
    have failures : schema.document options = .error failure ↔
        schema.resolve = .error failure := by
      simp [document, bind_eq_error_iff, pure, Except.pure]
    simp only [failures, resolve_eq_error_iff, Table.resolve_eq_error_iff]
    constructor
    · rintro ⟨table, firstTable, column, error, firstColumn, failed, rfl⟩
      have named := Column.column_of_resolve_error failed
      obtain ⟨ofTable, ofError⟩ := Failure.isPartOf_message_column table.name error
      obtain ⟨ofColumn, ofDetail⟩ := error.isPartOf_message
      refine ⟨table, column, error, firstTable, firstColumn, failed, rfl, named, ?_⟩
      simp only [List.forall_mem_cons]
      exact ⟨ofTable, named ▸ ofColumn.trans ofError, ofDetail.trans ofError, by simp⟩
    · rintro ⟨table, column, error, firstTable, firstColumn, failed, same, -, -⟩
      exact ⟨table, firstTable, column, error, firstColumn, failed, same⟩
  · intro base
    simp only [resolve_eq_ok_iff, Table.resolve_eq_ok_iff, Column.toField_eq_ok_iff_givesField]
    rfl

end BaseApi
