import BaseApi.Proofs.Command.OnTree
import BaseApi.Proofs.Command.Rendering

/-!
# Runs that do all or nothing

A run that fails prints nothing and leaves every file as it was; it may at most have made
directories above the output file, and that only once there was a text to write. A run that succeeds
leaves a file where the output path names it, and changes no more than that file and the directories
above it. Main statement: `runArguments_allOrNothing`, for every command line that is accepted and
every file tree.
-/

namespace BaseApi

/-! ## Deliveries -/

namespace FileTree

/-- There is a file where a path names it, and was no directory before. -/
def IsWritten (path : String) (before after : FileTree) (location : Location) : Prop :=
  before.get? location ≠ some .directory ∧ (∃ bytes, after.get? location = some (.file bytes)) ∧
    after.Names path location

theorem ne_nil_of_free {tree : FileTree} {location : Location}
    (free : tree.get? location ≠ some .directory) : location ≠ [] := by
  rintro rfl
  exact free rfl

/-- A delivery that fails has made directories at most. -/
theorem gains_of_deliver_error {tree after : FileTree} {path text : String} {error : DeliveryError}
    (failed : tree.deliver path text = (.error error, after)) :
    Gains (Path.ancestors path) tree after := by
  have gains := gains_makeDirectories tree (Path.ancestors path)
  rw [deliver_eq] at failed
  split at failed
  · next made =>
      rw [made] at gains
      cases failed
      exact gains
  · next made =>
      rw [made] at gains
      split at failed <;> cases failed
      exact gains

/-- A delivery that succeeds writes the file after making directories. -/
theorem deliver_eq_ok {tree after : FileTree} {path text : String}
    (delivered : tree.deliver path text = (.ok (), after)) :
    ∃ grown written, Gains (Path.ancestors path) tree grown ∧
      grown.get? written ≠ some .directory ∧ after = grown.set written (.file text.toUTF8) ∧
      after.Names path written := by
  have gains := gains_makeDirectories tree (Path.ancestors path)
  rw [deliver_eq] at delivered
  split at delivered
  · cases delivered
  · next grown made =>
      rw [made] at gains
      split at delivered <;> cases delivered
      next wrote =>
        obtain ⟨written, free, same, named⟩ := writeBytes_eq_ok wrote
        exact ⟨grown, written, gains, free, same, named⟩

section Delivered

variable {tree grown : FileTree} {path : String} {written : Location}
  (gains : Gains (Path.ancestors path) tree grown) (free : grown.get? written ≠ some .directory)
  (bytes : ByteArray)

include gains free

theorem isWritten_set (named : (grown.set written (.file bytes)).Names path written) :
    IsWritten path tree (grown.set written (.file bytes)) written := by
  have holds := get?_set_self grown (ne_nil_of_free free) (.file bytes)
  have noDirectory : tree.get? written ≠ some .directory := fun isDirectory =>
    free (gains.keepsDirectories written isDirectory)
  exact ⟨noDirectory, ⟨bytes, holds⟩, named⟩

theorem changes_of_set {location : Location} (differs : location ≠ written) :
    (grown.set written (.file bytes)).get? location = tree.get? location ∨
      IsNewDirectory (Path.ancestors path) tree (grown.set written (.file bytes)) location := by
  have keeps := keepsDirectories_set free (.file bytes)
  rw [IsNewDirectory, get?_set_of_ne grown differs]
  rcases gains location with unchanged | ⟨new, directory, parent, above, leads⟩
  · exact .inl unchanged
  · exact .inr ⟨new, directory, parent, above, keeps.directoryAt leads⟩

end Delivered

end FileTree

/-! ## What a run may do -/

/-- The schema file is read and parsed, and the schema decoded and resolved if a document is asked
for. -/
def ConvertRequest.Prepared (request : ConvertRequest) (tree : FileTree) : Prop :=
  ∃ text value, tree.readText request.schema = .ok text ∧ Json.parse text = .ok value ∧
    (request.format = .openApi →
      ∃ schema base, BaseSchema.loadJson value = .ok schema ∧ schema.resolve = .ok base)

/-- The request is a conversion that writes to a file at the path. -/
def Request.WritesTo (request : Request) (conversion : ConvertRequest) (path : String) : Prop :=
  ∃ isVerbose, request = .convert isVerbose conversion ∧ conversion.output = some path

theorem Request.WritesTo.unique {request : Request} {conversion other : ConvertRequest}
    {path elsewhere : String} (first : request.WritesTo conversion path)
    (second : request.WritesTo other elsewhere) : conversion = other ∧ path = elsewhere := by
  obtain ⟨isVerbose, rfl, output⟩ := first
  obtain ⟨_, ⟨⟩, same⟩ := second
  exact ⟨rfl, Option.some.inj (output.symm.trans same)⟩

/-- What a run with this outcome has done to the files. -/
structure AllOrNothing (request : Request) (before : FileTree) (outcome : Outcome)
    (after : FileTree) : Prop where
  /-- A run that fails prints no result. -/
  silent : outcome.exit ≠ 0 → outcome.stdout = ""
  /-- After a run that fails there are the same files, with the same content. -/
  files : outcome.exit ≠ 0 → ∀ location bytes,
    after.get? location = some (.file bytes) ↔ before.get? location = some (.file bytes)
  /-- A run that fails has made directories above the output file at most, and those only when
  there was something to write. -/
  directories : outcome.exit ≠ 0 → ∀ location, after.get? location ≠ before.get? location →
    ∃ conversion path, request.WritesTo conversion path ∧ conversion.Prepared before ∧
      FileTree.IsNewDirectory (Path.ancestors path) before after location
  /-- A run that succeeds has had something to write, and leaves it in the output file. -/
  written : outcome.exit = 0 → ∀ conversion path, request.WritesTo conversion path →
    conversion.Prepared before ∧ ∃ location, FileTree.IsWritten path before after location
  /-- A run that succeeds changes the output file and makes the directories above it at most. -/
  output : outcome.exit = 0 → ∀ location, after.get? location ≠ before.get? location →
    ∃ conversion path, request.WritesTo conversion path ∧
      (FileTree.IsNewDirectory (Path.ancestors path) before after location ∨
        FileTree.IsWritten path before after location)

theorem Outcome.exit_failed_ne_zero (status : String) (report : Report) :
    (Outcome.failed status report).exit ≠ 0 := by
  change (1 : UInt32) ≠ 0
  decide

namespace AllOrNothing

variable {request : Request} {conversion : ConvertRequest} {path text : String}
variable {tree after : FileTree} {outcome : Outcome}

theorem of_failed (status : String) (report : Report) :
    AllOrNothing request tree (.failed status report) tree where
  silent _ := rfl
  files _ _ _ := .rfl
  directories _ _ changed := absurd rfl changed
  written succeeded := absurd succeeded (Outcome.exit_failed_ne_zero status report)
  output _ _ changed := absurd rfl changed

theorem of_printed (exits : outcome.exit = 0)
    (noOutput : ∀ conversion path, ¬ request.WritesTo conversion path) :
    AllOrNothing request tree outcome tree where
  silent failed := absurd exits failed
  files _ _ _ := .rfl
  directories _ _ changed := absurd rfl changed
  written _ conversion path writes := absurd writes (noOutput conversion path)
  output _ _ changed := absurd rfl changed

theorem of_deliver_error {error : DeliveryError} (writes : request.WritesTo conversion path)
    (prepared : conversion.Prepared tree) (failed : tree.deliver path text = (.error error, after))
    (status : String) (report : Report) :
    AllOrNothing request tree (.failed status report) after := by
  have gains := FileTree.gains_of_deliver_error failed
  exact {
    silent := fun _ => rfl
    files := fun _ => gains.get?_eq_file_iff
    directories := fun _ location changed =>
      ⟨conversion, path, writes, prepared, (gains location).resolve_left changed⟩
    written := fun succeeded => absurd succeeded (Outcome.exit_failed_ne_zero status report)
    output := fun succeeded => absurd succeeded (Outcome.exit_failed_ne_zero status report) }

theorem of_deliver_ok (writes : request.WritesTo conversion path)
    (prepared : conversion.Prepared tree) (delivered : tree.deliver path text = (.ok (), after))
    (exits : outcome.exit = 0) : AllOrNothing request tree outcome after := by
  obtain ⟨grown, written, gains, free, rfl, named⟩ := FileTree.deliver_eq_ok delivered
  have isWritten := FileTree.isWritten_set gains free text.toUTF8 named
  refine ⟨absurd exits, absurd exits, absurd exits, fun _ other elsewhere same => ?_,
    fun _ location changed => ⟨conversion, path, writes, ?_⟩⟩
  · obtain ⟨rfl, rfl⟩ := writes.unique same
    exact ⟨prepared, written, isWritten⟩
  · by_cases same : location = written
    · exact .inr (same ▸ isWritten)
    · exact .inl ((FileTree.changes_of_set gains free _ same).resolve_left changed)

end AllOrNothing

/-! ## Runs -/

/-- There is something to write only after every step before it has succeeded. -/
theorem ConvertRequest.prepared_of_converted {request : ConvertRequest} {isVerbose : Bool}
    {tree : FileTree} {text status : String} {made : Converted}
    (read : tree.readText request.schema = .ok text)
    (converts : request.converted isVerbose text = (status, .ok made)) :
    request.Prepared tree := by
  have renders := renders_of_converted converts
  generalize request.textOf made = result at renders
  cases renders with
  | airtable format parsed =>
      refine ⟨text, _, read, parsed, fun isOpenApi => ?_⟩
      rw [format] at isOpenApi
      cases isOpenApi
  | openApi format parsed loaded built =>
      obtain ⟨base, resolved, -⟩ := Fallible.bind_eq_ok_iff.mp built
      exact ⟨text, _, read, parsed, fun _ => ⟨_, base, loaded, resolved⟩⟩

theorem ConvertRequest.allOrNothing (request : ConvertRequest) (isVerbose : Bool)
    (tree : FileTree) :
    AllOrNothing (.convert isVerbose request) tree (request.onTree isVerbose tree).1
      (request.onTree isVerbose tree).2 := by
  rw [onTree_eq]
  split
  · exact .of_failed _ _
  · next text read =>
      split
      · exact .of_failed _ _
      · next status made converts =>
          have prepared := prepared_of_converted read converts
          split
          · next noOutput =>
              refine .of_printed rfl ?_
              rintro _ path ⟨_, ⟨⟩, output⟩
              rw [noOutput] at output
              cases output
          · next path output =>
              have writes : (Request.convert isVerbose request).WritesTo request path :=
                ⟨isVerbose, rfl, output⟩
              split
              · next error after failed => exact .of_deliver_error writes prepared failed _ _
              · next after delivered => exact .of_deliver_ok writes prepared delivered rfl

theorem inspectOnTree_allOrNothing (path : String) (isVerbose : Bool) (tree : FileTree) :
    AllOrNothing (.inspect isVerbose path) tree (inspectOnTree path isVerbose tree).1
      (inspectOnTree path isVerbose tree).2 := by
  rw [inspectOnTree_eq]
  dsimp only
  split
  · exact .of_failed _ _
  · split
    · exact .of_failed _ _
    · refine .of_printed rfl ?_
      rintro _ _ ⟨_, ⟨⟩, -⟩

/-- A run that is asked for by a command line does all that it is asked for, or it prints nothing
and leaves every file alone. -/
theorem runArguments_allOrNothing {arguments : List String} {request : Request}
    (accepted : Request.ofArguments arguments = .ok request) (tree : FileTree) :
    AllOrNothing request tree (OnTree.outcome (runArguments arguments) tree).1
      (OnTree.outcome (runArguments arguments) tree).2 := by
  rw [runArguments, accepted]
  cases request with
  | version =>
      refine .of_printed rfl ?_
      rintro _ _ ⟨_, ⟨⟩, -⟩
  | convert isVerbose request => exact request.allOrNothing isVerbose tree
  | inspect isVerbose path => exact inspectOnTree_allOrNothing path isVerbose tree

/-- A conversion to a path that ends in a slash, which makes the directory above it before it
fails. -/
def slashArguments : List String := ["convert", "-s", "base.json", "-o", "made/doc/"]

def slashRequest : ConvertRequest := { schema := "base.json", output := some "made/doc/" }

/-- A tree with the schema file of a base without tables. -/
def emptyBaseTree : FileTree where
  entries := [(["base.json"], .file r#"{"id": "app1", "name": "Base", "tables": []}"#.toUTF8)]

theorem runArguments_slash :
    Request.ofArguments slashArguments = .ok (.convert false slashRequest) ∧
      (OnTree.outcome (runArguments slashArguments) emptyBaseTree).1.exit = 1 ∧
      (OnTree.outcome (runArguments slashArguments) emptyBaseTree).2.get? ["made"] =
        some .directory ∧
      AllOrNothing (.convert false slashRequest) emptyBaseTree
        (OnTree.outcome (runArguments slashArguments) emptyBaseTree).1
        (OnTree.outcome (runArguments slashArguments) emptyBaseTree).2 := by
  have accepted : Request.ofArguments slashArguments = .ok (.convert false slashRequest) := rfl
  exact ⟨accepted, by decide +kernel, by decide +kernel,
    runArguments_allOrNothing accepted emptyBaseTree⟩

end BaseApi
