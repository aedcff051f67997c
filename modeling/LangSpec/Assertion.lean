import LangSpec.Diagnostic

/-!
# Assertions

Assertions for tests of whatever writes specifications: about how an operation
ended, and about the diagnostics it left. An assertion that holds passes on what
it looked at, and one that does not gives the text the test stops with.
-/

namespace LangSpec.Assertion

/-- The text a test stops with: what was expected and what there is. -/
def stopText (title : String) (lines : List String) : String :=
  "\n🔴 TEST FAILED (" ++ title ++ "):\n" ++ String.join (lines.map (· ++ "\n"))

/-- The characters of `part` stand side by side in the text. -/
def occursIn (part : List Char) : (text : List Char) → Bool
  | [] => part.isEmpty
  | c :: cs => part.isPrefixOf (c :: cs) || occursIn part cs

/-- The text contains `part`. -/
def mentions (text part : String) : Bool := occursIn part.toList text.toList

/-- The messages of the failures, as a list. -/
def messages (fs : List Failure) : String := Text.quoteLines (fs.map (·.message))

section Outcomes

variable {α : Type} (render : α → String) (outcome : Except (List Failure) α)

/-- The operation succeeds. -/
def succeeds : Except String α :=
  match outcome with
  | .ok v => .ok v
  | .error fs => .error (stopText "Expected Success, but got Error" ["Messages: " ++ messages fs])

/-- The operation succeeds with the value `expected`. -/
def succeedsWith [BEq α] (expected : α) : Except String α :=
  (succeeds outcome).bind fun v =>
    if v == expected then .ok v
    else .error (stopText "Value Mismatch"
      ["Expected: " ++ render expected, "Got:      " ++ render v])

/-- The operation fails. -/
def fails : Except String (List Failure) :=
  match outcome with
  | .ok v => .error (stopText "Expected Failure, but got Success" ["Value: " ++ render v])
  | .error fs => .ok fs

/-- The operation fails, and one of the messages mentions `part`. -/
def failsMentioning (part : String) : Except String (List Failure) :=
  (fails render outcome).bind fun fs =>
    if fs.any fun f => mentions f.message part then .ok fs
    else .error (stopText "Error Message Mismatch"
      ["Expected part: " ++ Text.quote .message part, "Actual msgs:   " ++ messages fs])

end Outcomes

section Reports

variable (ds : List Diagnostic)

/-- Nothing was reported. -/
def clean : Except String Unit :=
  if ds.isEmpty then .ok ()
  else .error (stopText "Expected no diagnostics" [Text.quoteLines (ds.map (·.render))])

/-- A diagnostic with its class in front. -/
def renderWithKind (d : Diagnostic) : String := "[" ++ d.kind.title ++ "] " ++ d.render

/-- Exactly one diagnostic of the class mentions `part`. -/
def reportedOnce (kind : DiagnosticKind) (part : String) : Except String Unit :=
  let hits := ds.countP fun d => d.kind == kind && mentions d.message part
  if hits == 1 then .ok ()
  else
    let title := "Expected one " ++ kind.title ++ " mentioning " ++ Text.quote .message part ++
      ", found " ++ toString hits
    .error (stopText title [Text.quoteLines (ds.map renderWithKind)])

end Reports

end LangSpec.Assertion
