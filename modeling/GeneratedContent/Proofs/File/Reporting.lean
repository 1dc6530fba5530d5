import GeneratedContent.File.System

/-!
# Refusals that are reported

A script reports when each refused reading or writing is followed by an error line and the end, whatever
the reason of the system is and however far the request has come. Such a script ends without an error, or
with an error line and status one, or it breaks off (`Reports.run`); there is no fourth way.
-/

namespace GeneratedContent

namespace Script

/-- Whether a script reports what the system refuses, whatever its answers are. -/
inductive Reports : Script → Prop where
  /-- It ends without an error. -/
  | done : Reports (.done 0)
  /-- It breaks off. -/
  | stop {fault : Fault} : Reports (.stop fault)
  /-- It reports an error and ends. -/
  | fail {request : Request} {r : Refusal} : Reports (fail request r)
  /-- A refused request is reported. -/
  | demand {request : Request} {next : request.Answer → Script} (h : ∀ answer, Reports (next answer)) :
    Reports (demand request next)
  /-- A refused folder may be there already, or lack the one above it. -/
  | makeFolder {path : FilePath} {next : Except Refusal Unit → Script}
    (h : ∀ answer, Reports (next answer)) : Reports (.ask (.makeFolder path) next)
  /-- It goes on with a folder, and reports that there is none. -/
  | askFolder {path : FilePath} {next : Except Refusal Bool → Script}
    (hrefused : ∀ r, ∃ request r', next (.error r) = Script.fail request r')
    (hnone : ∃ request r, next (.ok false) = Script.fail request r) (h : Reports (next (.ok true))) :
    Reports (.ask (.askFolder path) next)
  /-- It goes on after a line of the log. -/
  | log {line : Text} {s : Script} (h : Reports s) : Reports (.log line s)

/-- Whether a run ends without an error, or with status one after an error line, or breaks off. -/
def EndsReported (result : Ending × World) : Prop :=
  result.1 = .status 0 ∨
    (result.1 = .status 1 ∧ ∃ (request : Request) (r : Refusal),
      result.2.lines.getLast? = some ("Error: ".toList ++ r.message request)) ∨
    ∃ f, result.1 = .fault f

theorem endsReported_fail (request : Request) (r : Refusal) (w : World) :
    EndsReported ((fail request r).run w) :=
  .inr (.inl ⟨rfl, request, r, List.getLast?_concat⟩)

/-- A script that reports what is refused ends in one of three ways. -/
theorem Reports.run {s : Script} (h : Reports s) (w : World) : EndsReported (s.run w) := by
  induction h generalizing w with
  | done => exact .inl rfl
  | stop => exact .inr (.inr ⟨_, rfl⟩)
  | fail => exact endsReported_fail _ _ w
  | @demand request next h ih =>
    rw [Script.demand, Script.run]
    cases (w.answer request).1 with
    | error r => exact endsReported_fail _ _ _
    | ok answer => exact ih answer _
  | makeFolder h ih => exact ih _ _
  | @askFolder path next hrefused hnone h ih =>
    rw [Script.run]
    match (w.answer (.askFolder path)).1 with
    | .error r =>
      obtain ⟨request, r', hfail⟩ := hrefused r
      exact hfail ▸ endsReported_fail _ _ _
    | .ok false =>
      obtain ⟨request, r, hfail⟩ := hnone
      exact hfail ▸ endsReported_fail _ _ _
    | .ok true => exact ih _
  | log h ih => exact ih _

/-! ## The parts of scripts -/

variable {path : FilePath} {s : Script}

theorem Reports.withPath (h : Reports s) : Reports (withPath path s) := by
  unfold Script.withPath
  split
  · exact .stop
  · exact h

theorem Reports.withText {bytes : List UInt8} {next : Text → Script} (h : ∀ s, Reports (next s)) :
    Reports (withText bytes next) := by
  unfold Script.withText
  split
  · exact .stop
  · exact h _

theorem Reports.readText {next : Text → Script} (h : ∀ s, Reports (next s)) :
    Reports (readText path next) :=
  .withPath (.demand fun _ => .withText h)

theorem Reports.withFolder {answer : Except Refusal Unit} (h : Reports s) :
    Reports (withFolder path answer s) := by
  unfold Script.withFolder
  split
  · exact h
  · split
    · exact .fail
    · refine .askFolder (fun r' => ?_) ⟨_, _, rfl⟩ h
      dsimp only
      split <;> exact ⟨_, _, rfl⟩

theorem Reports.makeFolders {root : Text} {reversed : List Text} (h : Reports s) :
    Reports (makeFolders root reversed s) := by
  induction reversed generalizing s with
  | nil => exact .makeFolder fun answer => .withFolder h
  | cons part parts ih =>
    refine .makeFolder fun answer => ?_
    split
    · exact ih (.makeFolder fun answer => .withFolder h)
    · exact .withFolder h

theorem Reports.writeText {text : Text} (h : Reports s) : Reports (writeText path text s) :=
  .withPath (.makeFolders (.withPath (.demand fun _ => h)))

end Script

end GeneratedContent
