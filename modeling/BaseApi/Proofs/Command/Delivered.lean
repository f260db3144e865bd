import BaseApi.Proofs.Command.AllOrNothing

/-!
# One text, however it is delivered

A conversion writes one text, which its schema file, the format, the method of updates and the
layout determine (`ConvertRequest.Writes`). It is the same whether it is printed or goes to a file:
what is printed has a line end after it, and what is in the file has nothing after it. Asking for
more status lines changes nothing but these. Main statement: `ConvertRequest.delivers_oneText`.
-/

namespace BaseApi

/-! ## What a run delivers -/

/-- The text that a conversion of a schema file in a tree writes. -/
def ConvertRequest.Writes (request : ConvertRequest) (tree : FileTree) (text : String) : Prop :=
  ∃ content, tree.readText request.schema = .ok content ∧ request.Renders content text

theorem ConvertRequest.Writes.unique {request : ConvertRequest} {tree : FileTree}
    {text other : String} (first : request.Writes tree text)
    (second : request.Writes tree other) : text = other := by
  obtain ⟨content, read, renders⟩ := first
  obtain ⟨_, readAgain, rendersAgain⟩ := second
  obtain rfl := Except.ok.inj (read.symm.trans readAgain)
  exact renders.unique rendersAgain

/-- A run with this outcome has delivered what a conversion writes. -/
structure ConvertRequest.Delivers (request : ConvertRequest) (before : FileTree)
    (output : Option String) (outcome : Outcome) (after : FileTree) : Prop where
  /-- Without an output file, a run that succeeds prints the text, a line end, and no more. -/
  printed : output = none → outcome.exit = 0 →
    ∃ text, request.Writes before text ∧ outcome.stdout = text ++ "\n"
  /-- Without an output file, a run succeeds if there is a text. -/
  succeeds : output = none → ∀ text, request.Writes before text → outcome.exit = 0
  /-- With an output file, a run that succeeds prints nothing, and the file holds the text. -/
  filed : ∀ path, output = some path → outcome.exit = 0 →
    outcome.stdout = "" ∧ ∃ text, request.Writes before text ∧ after.readText path = .ok text

theorem ConvertRequest.writes_withOutput {request : ConvertRequest} {output : Option String}
    {tree : FileTree} {text : String} :
    { request with output }.Writes tree text ↔ request.Writes tree text := by
  simp only [Writes, renders_withOutput]

theorem FileTree.readText_of_deliver {tree after : FileTree} {path text : String}
    (delivered : tree.deliver path text = (.ok (), after)) : after.readText path = .ok text := by
  rw [deliver_eq] at delivered
  split at delivered
  · cases delivered
  · split at delivered
    · cases delivered
    · next wrote =>
        cases delivered
        exact readText_of_writeText wrote

namespace ConvertRequest

namespace Delivers

variable {request : ConvertRequest} {tree after : FileTree} {outcome : Outcome}
variable {output : Option String} {path text : String}

theorem of_failed (noText : output = none → ∀ text, ¬ request.Writes tree text) (status : String)
    (report : Report) : request.Delivers tree output (.failed status report) after where
  printed _ succeeded := absurd succeeded (Outcome.exit_failed_ne_zero status report)
  succeeds isNone text writes := absurd writes (noText isNone text)
  filed _ _ succeeded := absurd succeeded (Outcome.exit_failed_ne_zero status report)

theorem of_printed (writes : request.Writes tree text) (status : String) :
    request.Delivers tree none { stdout := text ++ "\n", stderr := status } after where
  printed _ _ := ⟨text, writes, rfl⟩
  succeeds _ _ _ := rfl
  filed _ isSome := nomatch isSome

theorem of_filed (writes : request.Writes tree text)
    (delivered : tree.deliver path text = (.ok (), after)) (status : String) :
    request.Delivers tree (some path) { stderr := status } after where
  printed isNone := nomatch isNone
  succeeds isNone := nomatch isNone
  filed other isSome _ := by
    cases isSome
    exact ⟨rfl, text, writes, FileTree.readText_of_deliver delivered⟩

end Delivers

/-! ## Conversions -/

theorem delivers_onTree (request : ConvertRequest) (isVerbose : Bool) (tree : FileTree) :
    request.Delivers tree request.output (request.onTree isVerbose tree).1
      (request.onTree isVerbose tree).2 := by
  rw [onTree_eq]
  split
  · next unread =>
      refine .of_failed ?_ _ _
      rintro - text ⟨content, read, -⟩
      rw [unread] at read
      cases read
  · next content read =>
      split
      · next failed =>
          refine .of_failed ?_ _ _
          rintro - text ⟨_, readAgain, renders⟩
          obtain rfl := Except.ok.inj (read.symm.trans readAgain)
          exact not_renders_of_converted failed renders
      · next status made converts =>
          have writes : request.Writes tree (request.textOf made) :=
            ⟨content, read, renders_of_converted converts⟩
          split
          · next noOutput =>
              rw [noOutput]
              exact .of_printed writes _
          · next path isOutput =>
              rw [isOutput]
              split
              · refine .of_failed (fun isNone => ?_) _ _
                cases isNone
              · next after delivered => exact .of_filed writes delivered _

/-- Only the status lines of a conversion depend on the verbosity. -/
theorem onTree_congr (request : ConvertRequest) (isVerbose otherwise : Bool) (tree : FileTree) :
    (request.onTree isVerbose tree).1.exit = (request.onTree otherwise tree).1.exit ∧
      (request.onTree isVerbose tree).1.stdout = (request.onTree otherwise tree).1.stdout ∧
      (request.onTree isVerbose tree).2 = (request.onTree otherwise tree).2 := by
  rw [onTree_eq, onTree_eq]
  cases tree.readText request.schema with
  | error error => exact ⟨rfl, rfl, rfl⟩
  | ok content =>
      have same := request.snd_converted_congr isVerbose otherwise content
      dsimp only
      revert same
      rcases request.converted isVerbose content with ⟨status, result⟩
      rcases request.converted otherwise content with ⟨lines, other⟩
      rintro ⟨⟩
      cases result with
      | error report => exact ⟨rfl, rfl, rfl⟩
      | ok made =>
          cases request.output with
          | none => exact ⟨rfl, rfl, rfl⟩
          | some path =>
              dsimp only
              rcases tree.deliver path (request.textOf made) with ⟨error | ⟨⟩, after⟩ <;>
                exact ⟨rfl, rfl, rfl⟩

end ConvertRequest

/-! ## Asking for more status lines -/

/-- The program has been asked for more status lines or for its version. -/
def Settings.IsAsked (settings : Settings) : Prop :=
  settings.isVerbose = true ∨ settings.isVersion = true

section ProgramOptions

variable {settings read : Settings} {awaited : Awaited Settings}

theorem OptionRule.raise_eq_ok {rule : OptionRule Settings} {set : Settings → Settings}
    (raised : rule.raise set settings = .ok read) : read = set settings := by
  unfold raise at raised
  split at raised <;> cases raised
  rfl

/-- Each letter before the command asks for one of the two. -/
theorem Settings.isAsked_of_readCluster {letters : List Char}
    (reads : OptionRule.readCluster [verboseRule, versionRule] settings letters =
      .ok (read, awaited)) (asked : letters ≠ [] ∨ settings.IsAsked) : read.IsAsked := by
  induction letters generalizing settings with
  | nil =>
      cases reads
      exact asked.resolve_left (fun nonempty => nonempty rfl)
  | cons letter rest ih =>
      unfold OptionRule.readCluster at reads
      split at reads
      · cases reads
      · next rule found =>
          have member := List.mem_of_find?_eq_some found
          simp only [List.mem_cons, List.not_mem_nil, or_false] at member
          rcases member with rfl | rfl
          · obtain ⟨raised, wasRaised, others⟩ := Fallible.bind_eq_ok_iff.mp reads
            obtain rfl := OptionRule.raise_eq_ok wasRaised
            exact ih others (.inr (.inl rfl))
          · obtain ⟨raised, wasRaised, done⟩ := Fallible.bind_eq_ok_iff.mp reads
            obtain rfl := OptionRule.raise_eq_ok wasRaised
            cases done
            exact .inr rfl

theorem Settings.isAsked_of_readLong {name : String} {attached : Option String}
    (reads : OptionRule.readLong [verboseRule, versionRule] settings name attached =
      .ok (read, awaited)) : read.IsAsked := by
  unfold OptionRule.readLong at reads
  split at reads
  · cases reads
  · next rule found =>
      have member := List.mem_of_find?_eq_some found
      simp only [List.mem_cons, List.not_mem_nil, or_false] at member
      cases attached with
      | some value => rcases member with rfl | rfl <;> cases reads
      | none =>
          rcases member with rfl | rfl
          · obtain ⟨raised, wasRaised, done⟩ := Fallible.bind_eq_ok_iff.mp reads
            obtain rfl := OptionRule.raise_eq_ok wasRaised
            cases done
            exact .inl rfl
          · obtain ⟨raised, wasRaised, done⟩ := Fallible.bind_eq_ok_iff.mp reads
            obtain rfl := OptionRule.raise_eq_ok wasRaised
            cases done
            exact .inr rfl

theorem Settings.isAsked_of_readOption {argument : String}
    (reads : OptionRule.readOption [verboseRule, versionRule] settings argument =
      .ok (read, awaited)) : read.IsAsked := by
  unfold OptionRule.readOption at reads
  split at reads
  · exact isAsked_of_readLong reads
  · exact isAsked_of_readCluster reads (.inl (List.cons_ne_nil _ _))
  · cases reads

end ProgramOptions

namespace Request

variable {isVerbose : Bool} {request : ConvertRequest} {arguments : List String}

theorem isVerbose_of_readConvert
    (reads : readConvert true arguments = .ok (.convert isVerbose request)) : isVerbose = true := by
  obtain ⟨_, -, reads⟩ := Fallible.bind_eq_ok_iff.mp reads
  obtain ⟨_, -, reads⟩ := Fallible.bind_eq_ok_iff.mp reads
  cases reads
  rfl

theorem readConvert_of_verbose
    (reads : readConvert false arguments = .ok (.convert isVerbose request)) :
    readConvert true arguments = .ok (.convert true request) := by
  obtain ⟨settings, read, reads⟩ := Fallible.bind_eq_ok_iff.mp reads
  obtain ⟨schema, required, reads⟩ := Fallible.bind_eq_ok_iff.mp reads
  cases reads
  exact Fallible.bind_eq_ok_iff.mpr ⟨settings, read,
    Fallible.bind_eq_ok_iff.mpr ⟨schema, required, rfl⟩⟩

theorem not_readInspect {shown : Bool} :
    readInspect shown arguments ≠ .ok (.convert isVerbose request) := by
  intro reads
  obtain ⟨_, -, reads⟩ := Fallible.bind_eq_ok_iff.mp reads
  obtain ⟨_, -, reads⟩ := Fallible.bind_eq_ok_iff.mp reads
  cases reads

/-- A conversion is asked for at once, or after an option, which asks for more status lines. -/
theorem readFrom_eq_convert {settings : Settings}
    (reads : readFrom settings arguments = .ok (.convert isVerbose request)) :
    (∃ rest, arguments = "convert" :: rest ∧
      readConvert settings.isVerbose rest = .ok (.convert isVerbose request)) ∨
      isVerbose = true := by
  induction arguments generalizing settings with
  | nil => cases reads
  | cons argument rest ih =>
      rw [readFrom] at reads
      split at reads
      · next isConvert => exact .inl ⟨rest, by rw [isConvert], reads⟩
      · split at reads
        · exact absurd reads not_readInspect
        · split at reads
          · cases reads
          · obtain ⟨⟨read, awaited⟩, option, reads⟩ := Fallible.bind_eq_ok_iff.mp reads
            dsimp only at reads
            split at reads
            · cases reads
            · next noVersion =>
                have asked := (Settings.isAsked_of_readOption option).resolve_right noVersion
                rcases ih reads with ⟨_, rfl, converts⟩ | verbose
                · rw [asked] at converts
                  exact .inr (isVerbose_of_readConvert converts)
                · exact .inr verbose

/-- A command line that asks for a conversion can ask for more status lines as well. -/
theorem ofArguments_verbose (accepted : ofArguments arguments = .ok (.convert false request)) :
    ofArguments ("--verbose" :: arguments) = .ok (.convert true request) := by
  rcases readFrom_eq_convert accepted with ⟨rest, rfl, converts⟩ | verbose
  · have step : ofArguments ("--verbose" :: "convert" :: rest) = readConvert true rest := rfl
    rw [step]
    exact readConvert_of_verbose converts
  · cases verbose

end Request

/-! ## Command lines -/

/-- A conversion writes at most one text, and whatever command line asks for it delivers that text:
printed with a line end where there is no output file, and as it is in the output file where there
is one. Asking for more status lines changes neither the exit status nor what is printed nor any
file. -/
theorem ConvertRequest.delivers_oneText (request : ConvertRequest) (tree : FileTree) :
    (∀ text other, request.Writes tree text → request.Writes tree other → text = other) ∧
      ∀ arguments isVerbose output,
        Request.ofArguments arguments = .ok (.convert isVerbose { request with output }) →
          request.Delivers tree output (OnTree.outcome (runArguments arguments) tree).1
              (OnTree.outcome (runArguments arguments) tree).2 ∧
            (isVerbose = false → Request.ofArguments ("--verbose" :: arguments) =
              .ok (.convert true { request with output })) ∧
            ∀ others otherwise,
              Request.ofArguments others = .ok (.convert otherwise { request with output }) →
                (OnTree.outcome (runArguments others) tree).1.exit =
                    (OnTree.outcome (runArguments arguments) tree).1.exit ∧
                  (OnTree.outcome (runArguments others) tree).1.stdout =
                    (OnTree.outcome (runArguments arguments) tree).1.stdout ∧
                  (OnTree.outcome (runArguments others) tree).2 =
                    (OnTree.outcome (runArguments arguments) tree).2 := by
  refine ⟨fun text other => Writes.unique, ?_⟩
  intro arguments isVerbose output accepted
  have run : ∀ line verbosity,
      Request.ofArguments line = .ok (.convert verbosity { request with output }) →
        OnTree.outcome (runArguments line) tree =
          ConvertRequest.onTree { request with output } verbosity tree := by
    intro line verbosity asked
    rw [runArguments, asked]
    rfl
  rw [run arguments isVerbose accepted]
  refine ⟨?_, ?_, ?_⟩
  · obtain ⟨printed, succeeds, filed⟩ := delivers_onTree { request with output } isVerbose tree
    simp only [writes_withOutput] at printed succeeds filed
    exact ⟨printed, succeeds, filed⟩
  · rintro rfl
    exact Request.ofArguments_verbose accepted
  · intro others otherwise asked
    rw [run others otherwise asked]
    exact onTree_congr _ otherwise isVerbose tree

def printArguments : List String := ["convert", "-s", "base.json", "--update-method", "put"]

/-- The same conversion to a file, with more status lines. -/
def fileArguments : List String :=
  ["-v", "convert", "-s", "base.json", "--update-method", "put", "-o", "api/doc.json"]

def putRequest : ConvertRequest := { schema := "base.json", updateMethod := .put }

/-- What is printed is in the file, but for the line end. -/
theorem delivers_oneText_emptyBase :
    Request.ofArguments printArguments = .ok (.convert false { putRequest with output := none }) ∧
      Request.ofArguments fileArguments =
        .ok (.convert true { putRequest with output := some "api/doc.json" }) ∧
      ∃ text, putRequest.Writes emptyBaseTree text ∧
        (OnTree.outcome (runArguments printArguments) emptyBaseTree).1.stdout = text ++ "\n" ∧
        (OnTree.outcome (runArguments fileArguments) emptyBaseTree).2.readText "api/doc.json" =
          .ok text := by
  have prints : Request.ofArguments printArguments =
      .ok (.convert false { putRequest with output := none }) := rfl
  have files : Request.ofArguments fileArguments =
      .ok (.convert true { putRequest with output := some "api/doc.json" }) := rfl
  obtain ⟨unique, delivers⟩ := putRequest.delivers_oneText emptyBaseTree
  have printed := (delivers _ _ _ prints).1.printed rfl
  have filed := (delivers _ _ _ files).1.filed _ rfl
  obtain ⟨text, writes, isPrinted⟩ := printed (by decide +kernel)
  obtain ⟨-, other, writesToo, isFiled⟩ := filed (by decide +kernel)
  refine ⟨prints, files, text, writes, isPrinted, ?_⟩
  rw [unique text other writes writesToo]
  exact isFiled

end BaseApi
