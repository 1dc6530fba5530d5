import GeneratedContent.File.System

/-!
# What a script says

The lines that a script writes to the log are nothing to what it does otherwise: a script without its log
puts the same requests, and so it ends in the same way and leaves the same files (`run_withoutLog`). A
script is hushed when all that is left of its log is the error that it ends with; a hushed script says
nothing, or this error and ends with status one (`Hushed.lines`).
-/

namespace GeneratedContent

namespace World

variable (w : World) (lines : List Text)

theorem after_withLines (answer : Except FileProblem FileSystem) :
    ({ w with lines := lines } : World).after answer =
      ((w.after answer).1, { (w.after answer).2 with lines := lines }) := by
  cases answer <;> rfl

theorem grant_withLines (request : Request) :
    ({ w with lines := lines } : World).grant request =
      ((w.grant request).1, { (w.grant request).2 with lines := lines }) := by
  cases request with
  | makeFolder path => exact after_withLines w lines _
  | writeFile path content => exact after_withLines w lines _
  | _ => rfl

theorem breakOff_withLines (reached : Nat) (request : Request) :
    ({ w with lines := lines } : World).breakOff reached request =
      { w.breakOff reached request with lines := lines } := by
  cases request with
  | writeFile path content => exact congrArg Prod.snd (after_withLines w lines _)
  | _ => rfl

/-- What the system answers does not depend on the log. -/
theorem answer_withLines (request : Request) :
    ({ w with lines := lines } : World).answer request =
      ((w.answer request).1, { (w.answer request).2 with lines := lines }) := by
  have honward : ({ w with lines := lines } : World).onward = { w.onward with lines := lines } := rfl
  unfold answer
  rw [honward, grant_withLines]
  cases w.mishaps.head?.join with
  | none => rfl
  | some r =>
    cases hreached : r.reached with
    | none => simp only [hreached]
    | some reached => simp only [hreached, breakOff_withLines]

@[simp] theorem lines_answer (request : Request) : (w.answer request).2.lines = w.lines :=
  congrArg (fun result => result.2.lines) (answer_withLines w w.lines request)

end World

namespace Script

/-! ## Without the log -/

/-- A script that says nothing and is the same otherwise. -/
def withoutLog : Script → Script
  | .done status => .done status
  | .stop fault => .stop fault
  | .ask request next => .ask request fun answer => (next answer).withoutLog
  | .log _ next => next.withoutLog

/-- A script without its log ends in the same way, and leaves the same world but for the log. -/
theorem run_withoutLog (s : Script) (w : World) (lines : List Text) :
    s.withoutLog.run { w with lines := lines } = ((s.run w).1, { (s.run w).2 with lines := lines }) := by
  induction s generalizing w with
  | done status => rfl
  | stop fault => rfl
  | ask request next ih =>
    rw [withoutLog, run, run, World.answer_withLines]
    exact ih _ _
  | log line next ih => exact ih { w with lines := w.lines ++ [line] }

/-- Scripts that are the same without their logs differ in nothing but the log that they leave. -/
theorem run_of_withoutLog_eq {s t : Script} (h : s.withoutLog = t.withoutLog) (w : World) :
    (s.run w).1 = (t.run w).1 ∧ (s.run w).2.output = (t.run w).2.output ∧
      (s.run w).2.files = (t.run w).2.files := by
  have hs := run_withoutLog s w []
  rw [h, run_withoutLog t w [], Prod.mk.injEq, World.mk.injEq] at hs
  exact ⟨hs.1.symm, hs.2.2.2.1.symm, hs.2.1.symm⟩

/-! ## Hushed scripts -/

/-- Whether the second script is the first one hushed: it puts the same requests, whatever the answers
are, and says nothing but the error that it ends with. -/
inductive Hushed : Script → Script → Prop where
  | done : Hushed (.done 0) (.done 0)
  | stop {fault : Fault} : Hushed (.stop fault) (.stop fault)
  | fail {request : Request} {r : Refusal} : Hushed (fail request r) (fail request r)
  | ask {request : Request} {next next' : Except Refusal request.Answer → Script} :
    (∀ answer, Hushed (next answer) (next' answer)) → Hushed (.ask request next) (.ask request next')
  | log {line : Text} {s t : Script} : Hushed s t → Hushed (.log line s) t

theorem Hushed.withoutLog_eq {s t : Script} (h : Hushed s t) : s.withoutLog = t.withoutLog := by
  induction h with
  | done => rfl
  | stop => rfl
  | fail => rfl
  | ask _ ih => exact congrArg (Script.ask _) (funext ih)
  | log _ ih => exact ih

/-- Whether a run has left nothing in the log, or has ended with an error and left this error there. -/
def SaysOnlyError (w : World) (result : Ending × World) : Prop :=
  result.1 ≠ .status 1 ∧ result.2.lines = w.lines ∨
    result.1 = .status 1 ∧ ∃ (request : Request) (r : Refusal),
      result.2.lines = w.lines ++ ["Error: ".toList ++ r.message request]

theorem SaysOnlyError.of_lines_eq {w w' : World} {result : Ending × World} (h : SaysOnlyError w' result)
    (hlines : w'.lines = w.lines) : SaysOnlyError w result := by
  rwa [SaysOnlyError, hlines] at h

/-- A hushed script says nothing but the error that it ends with. -/
theorem Hushed.lines {s t : Script} (h : Hushed s t) (w : World) : SaysOnlyError w (t.run w) := by
  induction h generalizing w with
  | done => exact .inl ⟨by simp [run], rfl⟩
  | stop => exact .inl ⟨by simp [run], rfl⟩
  | @fail request r => exact .inr ⟨rfl, request, r, rfl⟩
  | ask _ ih => exact (ih _ _).of_lines_eq (w.lines_answer _)
  | log _ ih => exact ih w

/-! ## The parts of scripts -/

variable {path : FilePath} {s t : Script}

theorem Hushed.demand {request : Request} {next next' : request.Answer → Script}
    (h : ∀ answer, Hushed (next answer) (next' answer)) :
    Hushed (demand request next) (demand request next') := by
  refine .ask fun answer => ?_
  cases answer with
  | error r => exact .fail
  | ok answer => exact h answer

theorem Hushed.withPath (h : Hushed s t) : Hushed (withPath path s) (withPath path t) := by
  unfold Script.withPath
  split
  · exact .stop
  · exact h

theorem Hushed.withText {bytes : List UInt8} {next next' : Text → Script}
    (h : ∀ s, Hushed (next s) (next' s)) :
    Hushed (withText bytes next) (withText bytes next') := by
  unfold Script.withText
  split
  · exact .stop
  · exact h _

theorem Hushed.readText {next next' : Text → Script} (h : ∀ s, Hushed (next s) (next' s)) :
    Hushed (readText path next) (readText path next') :=
  .withPath (.demand fun _ => .withText h)

theorem Hushed.withFolder {answer : Except Refusal Unit} (h : Hushed s t) :
    Hushed (withFolder path answer s) (withFolder path answer t) := by
  unfold Script.withFolder
  split
  · exact h
  · split
    · exact .fail
    · refine .ask fun there => ?_
      split
      · split
        · exact h
        · exact .fail
      · split <;> exact .fail

theorem Hushed.makeFolders {root : Text} {reversed : List Text} (h : Hushed s t) :
    Hushed (makeFolders root reversed s) (makeFolders root reversed t) := by
  induction reversed generalizing s t with
  | nil => exact .ask fun answer => .withFolder h
  | cons part parts ih =>
    refine .ask fun answer => ?_
    split
    · exact ih (.ask fun answer => .withFolder h)
    · exact .withFolder h

theorem Hushed.writeText {text : Text} (h : Hushed s t) :
    Hushed (writeText path text s) (writeText path text t) :=
  .withPath (.makeFolders (.withPath (.demand fun _ => h)))

end Script

end GeneratedContent
