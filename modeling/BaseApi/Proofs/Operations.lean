import Mathlib
import BaseApi.Proofs.Paths

/-!
# Operations of a document

An operation performs one of five actions on the records of one table: its identifier is the verb of
the action before the identifier of the table, and its contents refer to the schemas of the same
identifier (`Operation.Performs`). The verbs have different first letters, so the identifier of an
operation tells the action and the table. A path may have lost the operations of a table to another
(`ResolvedBase.paths_document`), but what is there stands under an address of its own table
(`ResolvedBase.performs_of_mem_paths`), so no two operations have the same identifier.
-/

namespace BaseApi

/-! ## Actions -/

/-- What can be done with the records of a table. -/
inductive RecordAction where
  | list
  | create
  | retrieve
  | update
  | delete
deriving DecidableEq

namespace RecordAction

def verb : RecordAction → String
  | list => "list"
  | create => "create"
  | retrieve => "retrieve"
  | update => "update"
  | delete => "delete"

/-- The path of a table under which an action stands. -/
def address (table : ResolvedTable) : RecordAction → String
  | list | create => "/" ++ table.name
  | retrieve | update | delete => "/" ++ table.name ++ "/{id}"

/-- What the request of an action carries, if the table is registered under an identifier. -/
def taken (identifier : String) : RecordAction → List Fragment
  | create | update => [.component ("Write" ++ identifier ++ "RequestBody")]
  | list | retrieve | delete => []

/-- What the response of an action carries, if the table is registered under an identifier. -/
def answered (identifier : String) : RecordAction → List Fragment
  | list => [.array (.component ("Read" ++ identifier))]
  | create | retrieve | update => [.component ("Read" ++ identifier)]
  | delete => [.component ComponentName.deleted]

theorem head?_verb_append (action : RecordAction) (identifier : String) :
    (action.verb ++ identifier).toList.head? = action.verb.toList.head? := by
  cases action <;> simp [verb]

/-- An action and an identifier can be read off the identifier of an operation. -/
theorem verb_append_inj {left right : RecordAction} {identifier identifier' : String} :
    left.verb ++ identifier = right.verb ++ identifier' ↔
      left = right ∧ identifier = identifier' := by
  constructor
  · intro same
    have letters := congrArg (fun text => text.toList.head?) same
    simp only [head?_verb_append] at letters
    have action : left = right := by
      revert letters
      cases left <;> cases right <;> decide
    subst action
    exact ⟨rfl, (String.append_right_inj _).mp same⟩
  · rintro ⟨rfl, rfl⟩
    rfl

end RecordAction

/-! ## What an operation does -/

/-- The schemas of the contents that an operation takes. -/
def Operation.taken (operation : Operation) : List Fragment :=
  operation.requestBody.toList.flatMap fun body => body.content.map Prod.snd

/-- The schemas of the contents that an operation answers. -/
def Operation.answered (operation : Operation) : List Fragment :=
  operation.responses.flatMap fun response => response.2.content.map Prod.snd

/-- The operation performs an action on a table that is registered under an identifier. -/
structure Operation.Performs (operation : Operation) (action : RecordAction)
    (identifier : String) : Prop where
  operationId_eq : operation.operationId = action.verb ++ identifier
  taken_eq : operation.taken = action.taken identifier
  answered_eq : operation.answered = action.answered identifier

namespace RecordNames

variable (names : RecordNames)

theorem operations_collectionItem :
    names.collectionItem.operations = [names.listOperation, names.createOperation] := rfl

theorem operations_recordItem (method : UpdateMethod) :
    (names.recordItem method).operations =
      [names.retrieveOperation, names.updateOperation, names.deleteOperation] := by
  cases method <;> rfl

theorem performs_of_mem_collectionItem {operation : Operation}
    (member : operation ∈ names.collectionItem.operations) :
    ∃ action ∈ [RecordAction.list, .create], operation.Performs action names.identifier := by
  simp only [operations_collectionItem, List.mem_cons, List.not_mem_nil, or_false] at member
  rcases member with rfl | rfl
  · exact ⟨.list, by decide, rfl, rfl, rfl⟩
  · exact ⟨.create, by decide, rfl, rfl, rfl⟩

theorem performs_of_mem_recordItem {method : UpdateMethod} {operation : Operation}
    (member : operation ∈ (names.recordItem method).operations) :
    ∃ action ∈ [RecordAction.retrieve, .update, .delete],
      operation.Performs action names.identifier := by
  simp only [operations_recordItem, List.mem_cons, List.not_mem_nil, or_false] at member
  rcases member with rfl | rfl | rfl
  · exact ⟨.retrieve, by decide, rfl, rfl, rfl⟩
  · exact ⟨.update, by decide, rfl, rfl, rfl⟩
  · exact ⟨.delete, by decide, rfl, rfl, rfl⟩

theorem operationIds_collectionItem :
    names.collectionItem.operations.map Operation.operationId =
      [RecordAction.list, .create].map fun action => action.verb ++ names.identifier := rfl

theorem operationIds_recordItem (method : UpdateMethod) :
    (names.recordItem method).operations.map Operation.operationId =
      [RecordAction.retrieve, .update, .delete].map
        fun action => action.verb ++ names.identifier := by
  cases method <;> rfl

/-- The operations on the records of a table. -/
def operations : List Operation :=
  [names.listOperation, names.createOperation, names.retrieveOperation, names.updateOperation,
    names.deleteOperation]

theorem operations_eq (method : UpdateMethod) :
    names.operations = names.collectionItem.operations ++ (names.recordItem method).operations := by
  rw [operations_recordItem]
  rfl

theorem performs_of_mem_operations {operation : Operation}
    (member : operation ∈ names.operations) :
    ∃ action : RecordAction, operation.Performs action names.identifier := by
  rw [names.operations_eq .patch, List.mem_append] at member
  rcases member with inCollection | inRecord
  · obtain ⟨action, -, performs⟩ := names.performs_of_mem_collectionItem inCollection
    exact ⟨action, performs⟩
  · obtain ⟨action, -, performs⟩ := names.performs_of_mem_recordItem inRecord
    exact ⟨action, performs⟩

/-- A parameter belongs to a listing, or it is the identifier of a record. -/
theorem mem_of_mem_parameters {operation : Operation} (member : operation ∈ names.operations) :
    ∀ parameter ∈ operation.parameters, parameter ∈ idParameter :: listParameters := by
  have single : [idParameter] ⊆ idParameter :: listParameters :=
    List.cons_subset_cons _ (List.nil_subset _)
  simp only [operations, List.mem_cons, List.not_mem_nil, or_false] at member
  rcases member with rfl | rfl | rfl | rfl | rfl
  · exact fun _ => List.mem_cons_of_mem _
  · exact fun _ among => absurd among List.not_mem_nil
  · exact single
  · exact single
  · exact single

theorem security_of_mem_operations {operation : Operation}
    (member : operation ∈ names.operations) : operation.security = bearerSecurity := by
  simp only [operations, List.mem_cons, List.not_mem_nil, or_false] at member
  rcases member with rfl | rfl | rfl | rfl | rfl <;> rfl

/-- Different actions on one table have different identifiers. -/
theorem nodup_map_verb_append {actions : List RecordAction} (nodup : actions.Nodup) :
    (actions.map fun action => action.verb ++ names.identifier).Nodup :=
  nodup.map fun _ _ same => (RecordAction.verb_append_inj.mp same).1

end RecordNames

/-- What a table puts under one of its addresses performs actions on the table there. -/
theorem performs_of_mem_pathEntries {method : UpdateMethod}
    {entry : ResolvedTable × RecordNames} {path : String × PathItem}
    (claimed : path ∈ pathEntries method entry) {operation : Operation}
    (member : operation ∈ path.2.operations) :
    ∃ action : RecordAction, path.1 = action.address entry.1 ∧
      operation.Performs action entry.2.identifier := by
  simp only [pathEntries, List.mem_cons, List.not_mem_nil, or_false] at claimed
  rcases claimed with rfl | rfl
  · obtain ⟨action, among, performs⟩ := entry.2.performs_of_mem_collectionItem member
    refine ⟨action, ?_, performs⟩
    fin_cases among <;> rfl
  · obtain ⟨action, among, performs⟩ := entry.2.performs_of_mem_recordItem member
    refine ⟨action, ?_, performs⟩
    fin_cases among <;> rfl

theorem nodup_operationIds_of_mem_pathEntries {method : UpdateMethod}
    {entry : ResolvedTable × RecordNames} {path : String × PathItem}
    (claimed : path ∈ pathEntries method entry) :
    (path.2.operations.map Operation.operationId).Nodup := by
  simp only [pathEntries, List.mem_cons, List.not_mem_nil, or_false] at claimed
  rcases claimed with rfl | rfl
  · rw [entry.2.operationIds_collectionItem]
    exact entry.2.nodup_map_verb_append (by decide)
  · rw [entry.2.operationIds_recordItem]
    exact entry.2.nodup_map_verb_append (by decide)

/-! ## The operations of a document -/

variable (base : ResolvedBase) (options : DocumentOptions)

/-- Every path of a document is one that a registered table claims. -/
theorem ResolvedBase.exists_claim_of_mem_paths {path : String × PathItem}
    (member : path ∈ (base.document options).paths.entries) :
    ∃ entry ∈ base.registered, path ∈ pathEntries options.updateMethod entry := by
  rw [base.paths_document_eq] at member
  rcases OrderedMap.mem_entries_insertAll member with old | claimed
  · exact absurd old List.not_mem_nil
  · exact List.mem_flatMap.mp claimed

/-- Every operation of a document is one on the records of a registered table. -/
theorem ResolvedBase.exists_of_mem_operations {operation : Operation}
    (member : operation ∈ (base.document options).operations) :
    ∃ entry ∈ base.registered, operation ∈ entry.2.operations := by
  obtain ⟨path, inDocument, inItem⟩ := List.mem_flatMap.mp member
  obtain ⟨entry, registered, claimed⟩ := base.exists_claim_of_mem_paths options inDocument
  refine ⟨entry, registered, ?_⟩
  rw [entry.2.operations_eq options.updateMethod, List.mem_append]
  simp only [pathEntries, List.mem_cons, List.not_mem_nil, or_false] at claimed
  rcases claimed with rfl | rfl
  · exact .inl inItem
  · exact .inr inItem

/-- An operation stands under an address of the table that it is about. -/
theorem ResolvedBase.performs_of_mem_paths {path : String × PathItem}
    (member : path ∈ (base.document options).paths.entries) {operation : Operation}
    (inItem : operation ∈ path.2.operations) :
    ∃ entry ∈ base.registered, ∃ action : RecordAction, path.1 = action.address entry.1 ∧
      operation.Performs action entry.2.identifier := by
  obtain ⟨entry, registered, claimed⟩ := base.exists_claim_of_mem_paths options member
  exact ⟨entry, registered, performs_of_mem_pathEntries claimed inItem⟩

/-- Operations with the same identifier stand under the same address. -/
theorem ResolvedBase.address_eq_of_operationId_eq {left right : String × PathItem}
    (leftMember : left ∈ (base.document options).paths.entries)
    (rightMember : right ∈ (base.document options).paths.entries)
    {operation operation' : Operation} (inLeft : operation ∈ left.2.operations)
    (inRight : operation' ∈ right.2.operations)
    (same : operation.operationId = operation'.operationId) : left.1 = right.1 := by
  obtain ⟨entry, registered, action, address, performs⟩ :=
    base.performs_of_mem_paths options leftMember inLeft
  obtain ⟨entry', registered', action', address', performs'⟩ :=
    base.performs_of_mem_paths options rightMember inRight
  rw [performs.operationId_eq, performs'.operationId_eq, RecordAction.verb_append_inj] at same
  obtain ⟨rfl, identifiers⟩ := same
  obtain rfl := List.inj_on_of_nodup_map base.nodup_identifiers_registered registered registered'
    identifiers
  exact address.trans address'.symm

/-- No two operations of a document have the same identifier, and each is about one registered table
and stands under one of the addresses of that table. -/
theorem ResolvedBase.operations_document :
    ((base.document options).operations.map Operation.operationId).Nodup ∧
      ∀ path ∈ (base.document options).paths.entries, ∀ operation ∈ path.2.operations,
        ∃ entry ∈ base.registered, ∃ action : RecordAction,
          path.1 = action.address entry.1 ∧ operation.Performs action entry.2.identifier := by
  refine ⟨?_, ?_⟩
  · rw [Document.operations, List.map_flatMap, List.nodup_flatMap]
    constructor
    · intro path member
      obtain ⟨entry, -, claimed⟩ := base.exists_claim_of_mem_paths options member
      exact nodup_operationIds_of_mem_pathEntries claimed
    · have addresses := List.pairwise_map.mp (base.document options).paths.nodup_keys
      refine addresses.imp_of_mem ?_
      intro left right leftMember rightMember apart id inLeft inRight
      obtain ⟨operation, operationLeft, rfl⟩ := List.mem_map.mp inLeft
      obtain ⟨operation', operationRight, same⟩ := List.mem_map.mp inRight
      exact apart (base.address_eq_of_operationId_eq options leftMember rightMember operationLeft
        operationRight same.symm)
  · intro path member operation inItem
    exact base.performs_of_mem_paths options member inItem

end BaseApi
