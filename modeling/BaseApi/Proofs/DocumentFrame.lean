import Mathlib
import BaseApi.Proofs.Operations

/-!
# What options and metadata have a say in

Schemas and paths come from the tables of a base. Its name and identifier, and the options, each
have a place of their own in the document and do not reach any other. Only the method of updates
goes into the paths: it decides in which slot of an item the update operation stands, so documents
for the two methods differ by an exchange of these slots (`PathItem.exchanged`). Main statement:
`ResolvedBase.document_frame`.
-/

namespace BaseApi

/-! ## Exchanging the slots of updates -/

/-- The item with what is put patched, and what is patched put. -/
def PathItem.exchanged (item : PathItem) : PathItem :=
  { item with put := item.patch, patch := item.put }

namespace RecordNames

variable (names : RecordNames) {left right : UpdateMethod}

theorem exchanged_collectionItem : names.collectionItem.exchanged = names.collectionItem := rfl

theorem exchanged_recordItem (ne : left ≠ right) :
    (names.recordItem left).exchanged = names.recordItem right := by
  cases left <;> cases right
  · exact absurd rfl ne
  · rfl
  · rfl
  · exact absurd rfl ne

theorem recordItem_updates_once (method : UpdateMethod) :
    (names.recordItem method).put = none ∨ (names.recordItem method).patch = none := by
  cases method
  · exact .inl rfl
  · exact .inr rfl

end RecordNames

/-- What a table claims for one method is what it claims for the other, exchanged. -/
theorem pathEntries_of_ne {left right : UpdateMethod} (ne : left ≠ right)
    (entry : ResolvedTable × RecordNames) :
    pathEntries right entry = Entries.mapValues PathItem.exchanged (pathEntries left entry) := by
  show _ = [(entry.1.collectionAddress, entry.2.collectionItem.exchanged),
    (entry.1.recordAddress, (entry.2.recordItem left).exchanged)]
  rw [entry.2.exchanged_collectionItem, entry.2.exchanged_recordItem ne]
  rfl

/-! ## Bases with the same tables -/

namespace ResolvedBase

theorem claims_of_ne (base : ResolvedBase) {left right : UpdateMethod} (ne : left ≠ right) :
    base.claims right = Entries.mapValues PathItem.exchanged (base.claims left) := by
  rw [claims, claims, Entries.mapValues, List.map_flatMap]
  congr 1
  funext entry
  exact pathEntries_of_ne ne entry

section SameTables

variable {base other : ResolvedBase} (tables : base.tables = other.tables)
  (options options' : DocumentOptions)

include tables

theorem registered_congr : base.registered = other.registered := by
  rw [registered, registered, tables]

theorem claims_congr (method : UpdateMethod) : base.claims method = other.claims method := by
  rw [claims, claims, registered_congr tables]

theorem components_congr :
    (base.document options).components = (other.document options').components := by
  have schemas : (base.document options).components.schemas =
      (other.document options').components.schemas := by
    apply OrderedMap.ext
    rw [base.entries_schemas_document, other.entries_schemas_document, registered_congr tables]
  exact congrArg (Components.mk · standardSecurity) schemas

theorem paths_congr (method : options.updateMethod = options'.updateMethod) :
    (base.document options).paths = (other.document options').paths := by
  rw [base.paths_document_eq, other.paths_document_eq, method, claims_congr tables]

theorem entries_paths_of_ne (ne : options.updateMethod ≠ options'.updateMethod) :
    (other.document options').paths.entries =
      Entries.mapValues PathItem.exchanged (base.document options).paths.entries := by
  rw [base.paths_document_eq, other.paths_document_eq, ← claims_congr tables,
    base.claims_of_ne ne]
  exact OrderedMap.entries_insertAll_mapValues PathItem.exchanged rfl _

theorem keys_paths_congr :
    (base.document options).paths.keys = (other.document options').paths.keys := by
  by_cases method : options.updateMethod = options'.updateMethod
  · rw [paths_congr tables options options' method]
  · rw [OrderedMap.keys, OrderedMap.keys, entries_paths_of_ne tables options options' method,
      Entries.keys_mapValues]

end SameTables

/-- No item has both a put and a patch operation. -/
theorem updates_once_of_mem_paths (base : ResolvedBase) (options : DocumentOptions)
    {path : String × PathItem} (member : path ∈ (base.document options).paths.entries) :
    path.2.put = none ∨ path.2.patch = none := by
  obtain ⟨entry, -, claimed⟩ := base.exists_claim_of_mem_paths options member
  simp only [pathEntries, List.mem_cons, List.not_mem_nil, or_false] at claimed
  rcases claimed with rfl | rfl
  · exact .inl rfl
  · exact entry.2.recordItem_updates_once options.updateMethod

/-- Documents of the same tables have the same components, and the same paths in the same order. The
items are the same for the same method of updates; for the other method the slots of updates are
exchanged in each item, of which none has both. The title comes from the name of the base alone, the
version from the option, and the server from the address and the identifier of the base. -/
theorem document_frame (base other : ResolvedBase) (options options' : DocumentOptions) :
    (base.tables = other.tables →
      (base.document options).openapi = (other.document options').openapi ∧
        (base.document options).components = (other.document options').components ∧
        (base.document options).paths.keys = (other.document options').paths.keys ∧
        (options.updateMethod = options'.updateMethod →
          (base.document options).paths = (other.document options').paths) ∧
        (options.updateMethod ≠ options'.updateMethod →
          (other.document options').paths.entries =
            (base.document options).paths.entries.map fun path => (path.1, path.2.exchanged))) ∧
      (∀ path ∈ (base.document options).paths.entries,
        path.2.put = none ∨ path.2.patch = none) ∧
      (base.name = other.name →
        (base.document options).info.title = (other.document options').info.title) ∧
      (options.apiVersion = options'.apiVersion →
        (base.document options).info.version = (other.document options').info.version) ∧
      (options.serverBase = options'.serverBase → base.id = other.id →
        (base.document options).servers = (other.document options').servers) := by
  refine ⟨?_, fun path member => base.updates_once_of_mem_paths options member, ?_, ?_, ?_⟩
  · intro tables
    exact ⟨rfl, components_congr tables options options', keys_paths_congr tables options options',
      paths_congr tables options options', entries_paths_of_ne tables options options'⟩
  · intro name
    show "Airtable API for " ++ base.name = "Airtable API for " ++ other.name
    rw [name]
  · intro version
    exact version
  · intro server id
    show [options.baseAddress base.id] = [options'.baseAddress other.id]
    rw [DocumentOptions.baseAddress, DocumentOptions.baseAddress, server, id]

end ResolvedBase

/-- A base of tables with one identifier, the second of which is called like the items of the
first. -/
def entangledBase : ResolvedBase where
  id := "appX"
  name := "X"
  tables := [{ name := "A", identifier := "A", fields := [] },
    { name := "A/{id}", identifier := "A", fields := [] }]

/-- The tables of `entangledBase` under another name and identifier. -/
def renamedBase : ResolvedBase := { entangledBase with id := "appY", name := "Y" }

/-- Options of which none is the default. -/
def proxyOptions : DocumentOptions :=
  { updateMethod := .put, serverBase := "http://localhost/", apiVersion := "2.1.0" }

/-- Where nothing but the tables is the same, the components and the addresses are, and the items
differ by an exchange. -/
theorem document_frame_entangledBase :
    entangledBase.tables = renamedBase.tables ∧
      (entangledBase.document {}).components = (renamedBase.document proxyOptions).components ∧
      (entangledBase.document {}).paths.keys = (renamedBase.document proxyOptions).paths.keys ∧
      (renamedBase.document proxyOptions).paths.entries =
        (entangledBase.document {}).paths.entries.map fun path => (path.1, path.2.exchanged) := by
  have frame := (ResolvedBase.document_frame entangledBase renamedBase {} proxyOptions).1 rfl
  exact ⟨rfl, frame.2.1, frame.2.2.1, frame.2.2.2.2 (by decide)⟩

end BaseApi
