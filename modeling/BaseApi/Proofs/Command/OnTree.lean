import BaseApi.Command.Run
import BaseApi.Proofs.Files.Changes

/-!
# Runs over a file tree

Over a `FileTree` a program is a function from the tree before it to its result and the tree after
it: `FileTree.deliver_eq`, `ConvertRequest.onTree_eq` and `inspectOnTree_eq` say which, without the
monad that the programs are written in.
-/

namespace BaseApi

/-! ## Operations -/

namespace OnTree

variable {α β : Type}

/-- The result of a program, and the tree after it. -/
def outcome (program : OnTree α) (tree : FileTree) : α × FileTree := program.run tree

theorem outcome_bind (first : OnTree α) (next : α → OnTree β) (tree : FileTree) :
    outcome (first >>= next) tree = outcome (next (outcome first tree).1) (outcome first tree).2 :=
  rfl

theorem outcome_readText (path : String) (tree : FileTree) :
    outcome (Storage.readText path) tree = (tree.readText path, tree) := rfl

theorem outcome_makeDirectories (paths : List String) (tree : FileTree) :
    outcome (Storage.makeDirectories paths) tree = tree.makeDirectories paths := rfl

theorem outcome_writeText (path text : String) (tree : FileTree) :
    outcome (Storage.writeText path text) tree =
      match tree.writeText path text with
      | .ok written => (.ok (), written)
      | .error error => (.error error, tree) := by
  have step : outcome (Storage.writeText path text) tree =
      outcome (match tree.writeText path text with
        | .ok written => (do set written; pure (.ok ()) : OnTree (Except FileError Unit))
        | .error error => pure (.error error)) tree := rfl
  rw [step]
  cases tree.writeText path text <;> rfl

end OnTree

/-! ## Deliveries -/

/-- What a delivery gives, and the files after it. -/
def FileTree.deliver (tree : FileTree) (path text : String) :
    Except DeliveryError Unit × FileTree :=
  OnTree.outcome (Storage.deliver path text) tree

theorem FileTree.deliver_eq (tree : FileTree) (path text : String) :
    tree.deliver path text =
      match tree.makeDirectories (Path.ancestors path) with
      | (.error error, grown) =>
          (.error (.directory ((Path.ancestors path).headD "") error), grown)
      | (.ok (), grown) =>
          match grown.writeText path text with
          | .error error => (.error (.file path error), grown)
          | .ok written => (.ok (), written) := by
  rw [FileTree.deliver, Storage.deliver, OnTree.outcome_bind, OnTree.outcome_makeDirectories]
  rcases tree.makeDirectories (Path.ancestors path) with ⟨error | ⟨⟩, grown⟩
  · rfl
  · simp only [OnTree.outcome_bind, OnTree.outcome_writeText]
    cases grown.writeText path text <;> rfl

theorem ResolvedBase.outcome_deliver (base : ResolvedBase) (options : DocumentOptions)
    (isPretty : Bool) (path : String) (tree : FileTree) :
    OnTree.outcome (base.deliver options isPretty path) tree =
      ((tree.deliver path (base.documentText options isPretty)).1.mapError DeliveryError.failure,
        (tree.deliver path (base.documentText options isPretty)).2) := by
  rw [ResolvedBase.deliver, OnTree.outcome_bind, ← FileTree.deliver]
  rcases tree.deliver path (base.documentText options isPretty) with ⟨error | ⟨⟩, after⟩ <;> rfl

/-- The report of a delivery that fails. -/
def Converted.undelivered : Converted → DeliveryError → Report
  | airtable _, error => undeliveredValue error
  | openApi _, error => undeliveredDocument error.failure

/-- Whatever a conversion has made, its text is delivered. -/
theorem ConvertRequest.outcome_deliver (request : ConvertRequest) (path : String)
    (made : Converted) (tree : FileTree) :
    OnTree.outcome (request.deliver path made) tree =
      ((tree.deliver path (request.textOf made)).1.mapError made.undelivered,
        (tree.deliver path (request.textOf made)).2) := by
  cases made with
  | airtable value => rfl
  | openApi base =>
      rw [ConvertRequest.deliver, OnTree.outcome_bind, base.outcome_deliver, textOf]
      rcases tree.deliver path (base.documentText request.options (!request.isCompact)) with
        ⟨error | ⟨⟩, after⟩ <;> rfl

/-! ## Commands -/

/-- What a conversion prints and exits with, and the files after it. -/
def ConvertRequest.onTree (request : ConvertRequest) (isVerbose : Bool) (tree : FileTree) :
    Outcome × FileTree :=
  OnTree.outcome (request.run isVerbose) tree

/-- The first status lines of a conversion. -/
def ConvertRequest.opening (request : ConvertRequest) (isVerbose : Bool) : String :=
  verboseLine isVerbose ++ announce ("Reading Airtable schema: " ++ request.schema)

theorem ConvertRequest.onTree_eq (request : ConvertRequest) (isVerbose : Bool) (tree : FileTree) :
    request.onTree isVerbose tree =
      match tree.readText request.schema with
      | .error error =>
          (.failed (request.opening isVerbose) (unreadable request.schema error), tree)
      | .ok text =>
          match request.converted isVerbose text with
          | (status, .error report) => (.failed (request.opening isVerbose ++ status) report, tree)
          | (status, .ok made) =>
              match request.output with
              | none =>
                  ({ stdout := request.textOf made ++ "\n"
                     stderr := request.opening isVerbose ++ status ++
                       confirm "Conversion complete!" }, tree)
              | some path =>
                  match tree.deliver path (request.textOf made) with
                  | (.error error, after) =>
                      (.failed (request.opening isVerbose ++ status) (made.undelivered error),
                        after)
                  | (.ok (), after) =>
                      ({ stderr := request.opening isVerbose ++ status ++
                           confirm ("Wrote " ++ path) ++ confirm "Conversion complete!" },
                        after) := by
  rw [ConvertRequest.onTree, ConvertRequest.run, OnTree.outcome_bind, OnTree.outcome_readText]
  cases tree.readText request.schema with
  | error error => rfl
  | ok text =>
      dsimp only
      rcases request.converted isVerbose text with ⟨status, report | made⟩
      · rfl
      · cases request.output with
        | none => rfl
        | some path =>
            dsimp only
            rw [OnTree.outcome_bind, outcome_deliver]
            rcases tree.deliver path (request.textOf made) with ⟨error | ⟨⟩, after⟩ <;> rfl

/-- What an inspection prints and exits with, and the files after it. -/
def inspectOnTree (path : String) (isVerbose : Bool) (tree : FileTree) : Outcome × FileTree :=
  OnTree.outcome (inspect path isVerbose) tree

theorem inspectOnTree_eq (path : String) (isVerbose : Bool) (tree : FileTree) :
    inspectOnTree path isVerbose tree =
      (let opening := verboseLine isVerbose ++ announce ("Parsing Airtable schema: " ++ path)
      match tree.readText path with
      | .error error => .failed opening (unreadable path error)
      | .ok text =>
          match inspection path isVerbose text with
          | .error report => .failed opening report
          | .ok result => { stdout := result, stderr := opening }, tree) := by
  rw [inspectOnTree, inspect, OnTree.outcome_bind, OnTree.outcome_readText]
  cases tree.readText path with
  | error error => rfl
  | ok text =>
      dsimp only
      cases inspection path isVerbose text <;> rfl

end BaseApi
