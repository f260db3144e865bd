import BaseApi.ResolvedBase

/-!
# Error reports

A report says what was being done, and below it the causes of the failure, the nearest first. One
cause is indented; of several, each also has its number. Further lines of a cause are indented as
far as its first.
-/

namespace BaseApi

/-- What failed, and why. -/
structure Report where
  context : String
  causes : List String
deriving DecidableEq

namespace Report

/-- The text with something after each of its line ends. -/
def indentLines (indent : List Char) (text : String) : List Char :=
  text.toList.flatMap fun c => if c = '\n' then c :: indent else [c]

/-- The only cause of a report. -/
def loneCause (cause : String) : List Char :=
  let indent := List.replicate 4 ' '
  '\n' :: (indent ++ indentLines indent cause)

/-- The causes of a report with their numbers, which are set flush right in five columns. -/
def numberedCauses : Nat → List String → List Char
  | _, [] => []
  | number, cause :: causes =>
      let digits := (toString number).toList
      '\n' :: (List.replicate (5 - digits.length) ' ' ++ digits ++ [':', ' '] ++
        indentLines (List.replicate 7 ' ') cause ++ numberedCauses (number + 1) causes)

/-- The text of a report, with a line end. -/
def text (report : Report) : String :=
  let causes := match report.causes with
    | [] => []
    | [cause] => "\n\nCaused by:".toList ++ loneCause cause
    | causes => "\n\nCaused by:".toList ++ numberedCauses 0 causes
  "Error: " ++ report.context ++ String.ofList causes ++ "\n"

end Report

/-- What is said of a failure when it is reported: a column's failure also has a cause of its own.
-/
def Failure.causes (failure : Failure) : List String :=
  match failure with
  | .column _ error => [failure.message, error.message]
  | _ => [failure.message]

end BaseApi
