import Mathlib
import BaseApi.Proofs.Registration

/-!
# The properties of read and written fields

A registration makes one schema of all fields of a table and one of those that can be written. Each
puts its fields together by itself: a name stays where it first came and has the schema of the last
field that is called so (`ObjectSchema.DescribesFields`). If two fields have the same name, the two
schemas may give it different types or different places; if all names differ, the written fields are
the read ones without those that are read-only (`ResolvedTable.fieldSchemas_register`).
-/

namespace BaseApi

/-! ## Properties of a list of fields -/

/-- The properties are the names of the fields, each once and in the order in which they first come,
with the schema of the last field of that name. -/
structure ObjectSchema.DescribesFields (schema : ObjectSchema) (fields : List ResolvedField) :
    Prop where
  keys_eq : schema.properties.keys = (fields.map ResolvedField.name).eraseDups
  get?_eq : ∀ before field after, fields = before ++ field :: after →
    field.name ∉ after.map ResolvedField.name →
      schema.properties.get? field.name = some field.schema

theorem ResolvedField.keys_map_property (fields : List ResolvedField) :
    Entries.keys (fields.map ResolvedField.property) = fields.map ResolvedField.name := by
  rw [Entries.keys, List.map_map]
  rfl

theorem ResolvedField.lookup_map_property_eq_none {fields : List ResolvedField} {name : String}
    (absent : name ∉ fields.map ResolvedField.name) :
    (fields.map ResolvedField.property).lookup name = none := by
  rw [List.lookup_eq_none_iff]
  intro property member
  obtain ⟨field, among, rfl⟩ := List.mem_map.mp member
  rw [bne_iff_ne]
  intro same
  exact absent (same ▸ List.mem_map_of_mem among)

theorem ObjectSchema.describesFields_ofProperties (fields : List ResolvedField) :
    (ObjectSchema.ofProperties (fields.map ResolvedField.property)).DescribesFields fields where
  keys_eq := by
    show Entries.keys (Entries.merge (fields.map ResolvedField.property)) = _
    rw [Entries.keys_merge, ResolvedField.keys_map_property]
  get?_eq := by
    intro before field after split last
    show (OrderedMap.ofList (fields.map ResolvedField.property)).get? field.name = _
    -- Read from the end, the first field of the name is the last one.
    have absent : field.name ∉ after.reverse.map ResolvedField.name := by
      rwa [List.map_reverse, List.mem_reverse]
    rw [OrderedMap.get?_ofList, ← List.map_reverse, split, List.reverse_append,
      List.reverse_cons, List.append_assoc, List.map_append, List.lookup_append,
      ResolvedField.lookup_map_property_eq_none absent]
    show List.lookup field.name ((field.name, field.schema) :: _) = _
    rw [List.lookup_cons_self]

/-- There are as many properties as fields exactly if no two fields have the same name. -/
theorem ObjectSchema.size_ofProperties_eq_iff {fields : List ResolvedField} :
    (ObjectSchema.ofProperties (fields.map ResolvedField.property)).properties.size =
        fields.length ↔ (fields.map ResolvedField.name).Nodup := by
  rw [← ResolvedField.keys_map_property, ← OrderedMap.size_ofList_eq_iff, List.length_map]
  rfl

/-! ## Fields with different names -/

section DistinctNames

variable {fields : List ResolvedField} (distinct : (fields.map ResolvedField.name).Nodup)

include distinct

theorem ObjectSchema.entries_ofProperties_of_nodup :
    (ObjectSchema.ofProperties (fields.map ResolvedField.property)).properties.entries =
      fields.map ResolvedField.property := by
  rw [← ResolvedField.keys_map_property] at distinct
  exact Entries.merge_eq_self distinct

/-- Among fields with different names, a name belongs to a part of them exactly if its field
does. -/
theorem ResolvedField.name_mem_map_filter_iff {field : ResolvedField} (member : field ∈ fields)
    (belongs : ResolvedField → Bool) :
    field.name ∈ (fields.filter belongs).map ResolvedField.name ↔ belongs field = true := by
  constructor
  · intro named
    obtain ⟨other, inPart, same⟩ := List.mem_map.mp named
    obtain ⟨among, chosen⟩ := List.mem_filter.mp inPart
    obtain rfl := List.inj_on_of_nodup_map distinct among member same
    exact chosen
  · intro chosen
    exact List.mem_map_of_mem (List.mem_filter.mpr ⟨member, chosen⟩)

end DistinctNames

/-! ## The two schemas of a table -/

/-- The names of the fields that cannot be written. -/
def ResolvedTable.readOnlyNames (table : ResolvedTable) : List String :=
  (table.fields.filter ResolvedField.readOnly).map ResolvedField.name

theorem ResolvedTable.nodup_writable {table : ResolvedTable}
    (distinct : (table.fields.map ResolvedField.name).Nodup) :
    (table.writable.map ResolvedField.name).Nodup :=
  distinct.sublist (List.filter_sublist.map ResolvedField.name)

/-- Without the read-only names, the properties of all fields are those of the writable ones. -/
theorem ResolvedTable.filter_map_property {table : ResolvedTable}
    (distinct : (table.fields.map ResolvedField.name).Nodup) :
    (table.fields.map ResolvedField.property).filter
        (fun property => property.1 ∉ table.readOnlyNames) =
      table.writable.map ResolvedField.property := by
  rw [List.filter_map, writable]
  congr 1
  apply List.filter_congr
  intro field member
  have named : field.name ∈ table.readOnlyNames ↔ field.readOnly = true :=
    ResolvedField.name_mem_map_filter_iff distinct member ResolvedField.readOnly
  show decide (field.name ∉ table.readOnlyNames) = !field.readOnly
  simp [named]

/-- Whatever schemas there are, a registration stores one of all fields of the table and one of
those that are not read-only, and each describes its fields. So a property that can be written can
be read; and if all names of fields differ, the written properties are the read ones less the
read-only names, and every other name is among them. -/
theorem ResolvedTable.fieldSchemas_register (table : ResolvedTable)
    (schemas : OrderedMap ObjectSchema) :
    ∃ read write : ObjectSchema,
      (table.register schemas).2.get? (table.register schemas).1.readFields = some read ∧
      (table.register schemas).2.get? (table.register schemas).1.writeFields = some write ∧
      read.DescribesFields table.fields ∧
      write.DescribesFields (table.fields.filter fun field => !field.readOnly) ∧
      write.properties.keys ⊆ read.properties.keys ∧
      ((table.fields.map ResolvedField.name).Nodup →
        write.properties.entries =
            read.properties.entries.filter (fun property => property.1 ∉ table.readOnlyNames) ∧
          ∀ field ∈ table.fields,
            field.name ∈ write.properties.keys ↔ field.readOnly = false) := by
  have stored : table.StoredUnder (table.register schemas).1 (table.register schemas).2 := by
    apply storedUnder_of_subset
    rw [table.entries_register schemas]
    exact List.subset_append_right _ _
  have reads := ObjectSchema.describesFields_ofProperties table.fields
  have writes := ObjectSchema.describesFields_ofProperties table.writable
  refine ⟨_, _, stored.readFields, stored.writeFields, reads, writes, ?_, ?_⟩
  · intro name member
    rw [writes.keys_eq, List.mem_eraseDups] at member
    rw [reads.keys_eq, List.mem_eraseDups]
    exact List.map_subset _ (List.filter_subset_self table.fields) member
  · intro distinct
    refine ⟨?_, ?_⟩
    · rw [ObjectSchema.entries_ofProperties_of_nodup distinct,
        ObjectSchema.entries_ofProperties_of_nodup (nodup_writable distinct),
        filter_map_property distinct]
    · intro field member
      rw [writes.keys_eq, List.mem_eraseDups, writable,
        ResolvedField.name_mem_map_filter_iff distinct member, Bool.not_eq_true']

-- Of two fields with one name the second is read-only, so the name has its type where it is read
-- and that of the first where it is written.
example :
    let table : ResolvedTable :=
      { name := "T", identifier := "T", fields := [
          { name := "A", schema := .string, readOnly := false },
          { name := "B", schema := .integer, readOnly := false },
          { name := "A", schema := .number, readOnly := true }] }
    let schemas := (table.register .empty).2
    (schemas.get? "ReadTFields").map (·.properties.entries) =
        some [("A", .number), ("B", .integer)] ∧
      (schemas.get? "WriteTFields").map (·.properties.entries) =
        some [("A", .string), ("B", .integer)] := by
  decide

end BaseApi
