import Mathlib
import BaseApi.Proofs.Registration

/-!
# Paths of a document

Each table claims two paths, which are made of its name as it stands. Nothing keeps the claims of
two tables apart: a path has the item of the last table that claims it
(`paths_foldl_add`, `OrderedMap.get?_insertAll`). So nothing is lost exactly if no two tables have
the same name and none is called like the items of another (`ResolvedBase.PathsApart`).
-/

namespace BaseApi

/-! ## Claims -/

/-- What an address has after the name of a table if it is that of the table's items. -/
def itemSegment : String := "/{id}"

/-- The addresses that a table claims. -/
def ResolvedTable.addresses (table : ResolvedTable) : List String :=
  [table.collectionAddress, table.recordAddress]

/-- Two tables claim the same path for both collections or for both items, or one claims for its
collection what the other claims for its items. -/
def ResolvedTable.SharesPath (left right : ResolvedTable) : Prop :=
  left.name = right.name ∨ left.name = right.name ++ itemSegment ∨
    right.name = left.name ++ itemSegment

instance (left right : ResolvedTable) : Decidable (left.SharesPath right) :=
  inferInstanceAs (Decidable (_ ∨ _ ∨ _))

/-- No two tables of a base claim the same path. -/
def ResolvedBase.PathsApart (base : ResolvedBase) : Prop :=
  base.tables.Pairwise fun left right => ¬ left.SharesPath right

theorem ResolvedTable.recordAddress_eq (table : ResolvedTable) :
    table.recordAddress = "/" ++ (table.name ++ itemSegment) := by
  rw [recordAddress, itemSegment, String.append_assoc]

theorem ResolvedTable.collectionAddress_inj {left right : ResolvedTable} :
    left.collectionAddress = right.collectionAddress ↔ left.name = right.name :=
  String.append_right_inj "/"

theorem ResolvedTable.recordAddress_inj {left right : ResolvedTable} :
    left.recordAddress = right.recordAddress ↔ left.name = right.name := by
  rw [recordAddress_eq, recordAddress_eq, String.append_right_inj, String.append_left_inj]

theorem ResolvedTable.collectionAddress_eq_recordAddress {left right : ResolvedTable} :
    left.collectionAddress = right.recordAddress ↔ left.name = right.name ++ itemSegment := by
  rw [recordAddress_eq, collectionAddress, String.append_right_inj]

theorem ResolvedTable.nodup_addresses (table : ResolvedTable) : table.addresses.Nodup := by
  have apart : table.collectionAddress ≠ table.recordAddress := by
    intro same
    have lengths := congrArg String.length (collectionAddress_eq_recordAddress.mp same)
    simp [itemSegment] at lengths
  simp [addresses, apart]

theorem ResolvedTable.disjoint_addresses_iff {left right : ResolvedTable} :
    left.addresses.Disjoint right.addresses ↔ ¬ left.SharesPath right := by
  simp only [List.Disjoint, addresses, List.mem_cons, List.not_mem_nil, or_false, SharesPath]
  constructor
  · rintro disjoint (same | below | above)
    · exact disjoint (.inl rfl) (.inl (collectionAddress_inj.mpr same))
    · exact disjoint (.inl rfl) (.inr (collectionAddress_eq_recordAddress.mpr below))
    · exact disjoint (.inr rfl) (.inl (collectionAddress_eq_recordAddress.mpr above).symm)
  · rintro apart address (rfl | rfl) (same | same)
    · exact apart (.inl (collectionAddress_inj.mp same))
    · exact apart (.inr (.inl (collectionAddress_eq_recordAddress.mp same)))
    · exact apart (.inr (.inr (collectionAddress_eq_recordAddress.mp same.symm)))
    · exact apart (.inl (recordAddress_inj.mp same))

theorem ResolvedBase.nodup_addresses_iff {base : ResolvedBase} :
    (base.tables.flatMap ResolvedTable.addresses).Nodup ↔ base.PathsApart := by
  rw [List.nodup_flatMap, PathsApart]
  constructor
  · rintro ⟨-, apart⟩
    exact apart.imp fun disjoint => ResolvedTable.disjoint_addresses_iff.mp disjoint
  · intro apart
    exact ⟨fun table _ => table.nodup_addresses,
      apart.imp fun unshared => ResolvedTable.disjoint_addresses_iff.mpr unshared⟩

/-! ## A run over the tables -/

/-- The paths that a registered table claims, with what it puts there. -/
def pathEntries (method : UpdateMethod) (entry : ResolvedTable × RecordNames) :
    Entries PathItem :=
  [(entry.1.collectionAddress, entry.2.collectionItem),
    (entry.1.recordAddress, entry.2.recordItem method)]

/-- A run inserts what each table claims in turn. -/
theorem paths_foldl_add (method : UpdateMethod) (assembly : Assembly)
    (tables : List ResolvedTable) :
    (tables.foldl (Assembly.add method) assembly).paths =
      assembly.paths.insertAll
        ((registrations assembly.schemas tables).flatMap (pathEntries method)) := by
  induction tables generalizing assembly with
  | nil => rfl
  | cons table rest ih =>
      have step : (assembly.add method table).paths = assembly.paths.insertAll
          (pathEntries method (table, (table.register assembly.schemas).1)) := rfl
      rw [List.foldl_cons, ih, step, ← OrderedMap.insertAll_append]
      rfl

/-! ## The paths of a document -/

variable (base : ResolvedBase) (options : DocumentOptions)

/-- The operations of a document, in the order of its paths. -/
def Document.operations (document : Document) : List Operation :=
  document.paths.entries.flatMap fun entry => entry.2.operations

/-- Everything that the tables of a base claim. -/
def ResolvedBase.claims (method : UpdateMethod) : Entries PathItem :=
  base.registered.flatMap (pathEntries method)

theorem ResolvedBase.paths_document_eq :
    (base.document options).paths =
      OrderedMap.empty.insertAll (base.claims options.updateMethod) :=
  paths_foldl_add options.updateMethod .start base.tables

theorem ResolvedBase.keys_claims (method : UpdateMethod) :
    Entries.keys (base.claims method) = base.tables.flatMap ResolvedTable.addresses := by
  rw [← base.map_fst_registered, List.flatMap_map, Entries.keys, claims, List.map_flatMap]
  rfl

/-- The claims go into a map that is empty, so they are new exactly if no path is claimed twice. -/
theorem ResolvedBase.nodup_keys_claims_iff (method : UpdateMethod) :
    ((OrderedMap.empty : OrderedMap PathItem).keys ++ Entries.keys (base.claims method)).Nodup ↔
      base.PathsApart := by
  rw [base.keys_claims, ← nodup_addresses_iff]
  rfl

/-- Whatever is weighed, the document has the weight of all claims exactly if they are apart. -/
theorem ResolvedBase.total_paths_eq_iff (weight : PathItem → Nat)
    (positive : ∀ entry ∈ base.claims options.updateMethod, 0 < weight entry.2) :
    Entries.total weight (base.document options).paths.entries =
        Entries.total weight (base.claims options.updateMethod) ↔ base.PathsApart := by
  rw [base.paths_document_eq, ← base.nodup_keys_claims_iff options.updateMethod,
    ← OrderedMap.total_insertAll_eq_iff weight (by simp [OrderedMap.empty]) positive]
  simp [OrderedMap.empty]

theorem RecordNames.length_operations_collectionItem (names : RecordNames) :
    names.collectionItem.operations.length = 2 := rfl

theorem RecordNames.length_operations_recordItem (names : RecordNames) (method : UpdateMethod) :
    (names.recordItem method).operations.length = 3 := by
  cases method <;> rfl

/-- Every table claims two paths, with five operations. -/
theorem ResolvedBase.total_claims (method : UpdateMethod) (weight : PathItem → Nat)
    {each : Nat} (perTable : ∀ entry, Entries.total weight (pathEntries method entry) = each) :
    Entries.total weight (base.claims method) = each * base.tables.length := by
  rw [← base.length_registered, claims]
  induction base.registered with
  | nil => rfl
  | cons entry rest ih =>
      rw [List.flatMap_cons, Entries.total_append, ih, perTable, List.length_cons, Nat.mul_succ,
        Nat.add_comm]

theorem ResolvedBase.size_paths_eq_iff :
    (base.document options).paths.size = 2 * base.tables.length ↔ base.PathsApart := by
  rw [OrderedMap.size, ← Entries.total_one,
    ← base.total_claims options.updateMethod (fun _ => 1) (fun _ => rfl)]
  exact base.total_paths_eq_iff options _ fun _ _ => Nat.one_pos

theorem ResolvedBase.operations_pos_of_mem_claims {method : UpdateMethod}
    {entry : String × PathItem} (member : entry ∈ base.claims method) :
    0 < entry.2.operations.length := by
  obtain ⟨registered, -, claimed⟩ := List.mem_flatMap.mp member
  simp only [pathEntries, List.mem_cons, List.not_mem_nil, or_false] at claimed
  rcases claimed with rfl | rfl
  · rw [RecordNames.length_operations_collectionItem]
    decide
  · rw [RecordNames.length_operations_recordItem]
    decide

theorem ResolvedBase.length_operations_eq_iff :
    (base.document options).operations.length = 5 * base.tables.length ↔ base.PathsApart := by
  have perTable : ∀ entry : ResolvedTable × RecordNames,
      Entries.total (·.operations.length) (pathEntries options.updateMethod entry) = 5 := by
    intro entry
    simp [pathEntries, RecordNames.length_operations_collectionItem,
      RecordNames.length_operations_recordItem]
  rw [Document.operations, List.length_flatMap,
    ← base.total_claims options.updateMethod _ perTable]
  exact base.total_paths_eq_iff options (fun item => item.operations.length)
    fun _ member => base.operations_pos_of_mem_claims member

/-- The document has both items of a registered table under the addresses of the table. -/
structure Document.Serves (document : Document) (method : UpdateMethod)
    (entry : ResolvedTable × RecordNames) : Prop where
  collection : document.paths.get? entry.1.collectionAddress = some entry.2.collectionItem
  record : document.paths.get? entry.1.recordAddress = some (entry.2.recordItem method)

theorem ResolvedBase.serves_of_pathsApart (apart : base.PathsApart) :
    ∀ entry ∈ base.registered, (base.document options).Serves options.updateMethod entry := by
  intro entry member
  have entries := OrderedMap.entries_insertAll
    ((base.nodup_keys_claims_iff options.updateMethod).mpr apart)
  rw [← base.paths_document_eq] at entries
  have claimed :
      pathEntries options.updateMethod entry ⊆ (base.document options).paths.entries := by
    intro path inEntry
    rw [entries]
    exact List.mem_append_right _ (List.mem_flatMap.mpr ⟨entry, member, inEntry⟩)
  exact ⟨OrderedMap.get?_of_mem (claimed List.mem_cons_self),
    OrderedMap.get?_of_mem (claimed (List.mem_cons_of_mem _ List.mem_cons_self))⟩

theorem RecordNames.collectionItem_ne_recordItem (names names' : RecordNames)
    (method : UpdateMethod) : names.collectionItem ≠ names'.recordItem method := by
  intro same
  have deletes := congrArg PathItem.delete same
  cases method <;> cases deletes

theorem RecordNames.collectionItem_injective : Function.Injective collectionItem := by
  intro names names' same
  have lists := congrArg (fun item => item.get.map Operation.operationId) same
  have identifiers : names.identifier = names'.identifier :=
    (String.append_right_inj "list").mp (Option.some.inj lists)
  cases names
  cases names'
  rw [mk.injEq]
  exact identifiers

/-- Tables that share a path cannot both be served, as one path has one item. -/
theorem Document.Serves.not_sharesPath {document : Document} {method : UpdateMethod}
    {left right : ResolvedTable × RecordNames} (distinct : left.2 ≠ right.2)
    (servesLeft : document.Serves method left) (servesRight : document.Serves method right) :
    ¬ left.1.SharesPath right.1 := by
  rintro (same | below | above)
  · have address := ResolvedTable.collectionAddress_inj.mpr same
    have items := servesLeft.collection.symm.trans (address ▸ servesRight.collection)
    exact distinct (RecordNames.collectionItem_injective (Option.some.inj items))
  · have address := ResolvedTable.collectionAddress_eq_recordAddress.mpr below
    have items := servesLeft.collection.symm.trans (address ▸ servesRight.record)
    exact RecordNames.collectionItem_ne_recordItem _ _ _ (Option.some.inj items)
  · have address := ResolvedTable.collectionAddress_eq_recordAddress.mpr above
    have items := servesRight.collection.symm.trans (address ▸ servesLeft.record)
    exact RecordNames.collectionItem_ne_recordItem _ _ _ (Option.some.inj items)

theorem ResolvedBase.pathsApart_of_serves
    (serves : ∀ entry ∈ base.registered,
      (base.document options).Serves options.updateMethod entry) : base.PathsApart := by
  rw [PathsApart, ← base.map_fst_registered, List.pairwise_map]
  -- Tables with different names have different items, so they cannot share a path.
  refine base.pairwise_ne_registered.imp_of_mem ?_
  intro left right leftMember rightMember distinct
  exact (serves left leftMember).not_sharesPath distinct (serves right rightMember)

/-- A path has what the last table that claims it puts there. A document has two paths and five
operations for each table, and both items of every table, exactly if no two tables share a path. -/
theorem ResolvedBase.paths_document :
    (∀ address, (base.document options).paths.get? address =
        (base.claims options.updateMethod).reverse.lookup address) ∧
      ((base.document options).paths.size = 2 * base.tables.length ↔ base.PathsApart) ∧
      ((∀ entry ∈ base.registered,
          (base.document options).Serves options.updateMethod entry) ↔ base.PathsApart) ∧
      ((base.document options).operations.length = 5 * base.tables.length ↔
        base.PathsApart) := by
  refine ⟨?_, base.size_paths_eq_iff options,
    ⟨base.pathsApart_of_serves options, base.serves_of_pathsApart options⟩,
    base.length_operations_eq_iff options⟩
  intro address
  rw [base.paths_document_eq, OrderedMap.get?_insertAll]
  exact Option.or_none

/-- A base with a table that is called like the items of another. -/
def overlappingBase : ResolvedBase where
  id := "appX"
  name := "X"
  tables := [{ name := "A", identifier := "A", fields := [] },
    { name := "A/{id}", identifier := "Aid", fields := [] }]

/-- The document of two tables need not have four paths, nor the items of both. -/
theorem overlappingBase_loses_items :
    ¬ ∀ (base : ResolvedBase) (options : DocumentOptions),
      (base.document options).paths.size = 2 * base.tables.length ∧
        (∀ entry ∈ base.registered,
          (base.document options).Serves options.updateMethod entry) ∧
        (base.document options).operations.length = 5 * base.tables.length := by
  intro complete
  have apart := (overlappingBase.size_paths_eq_iff {}).mp (complete overlappingBase {}).1
  have shared : ResolvedTable.SharesPath { name := "A", identifier := "A", fields := [] }
      { name := "A/{id}", identifier := "Aid", fields := [] } := by decide
  exact (List.pairwise_cons.mp apart).1 _ List.mem_cons_self shared

end BaseApi
