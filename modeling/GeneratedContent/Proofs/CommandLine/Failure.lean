import GeneratedContent.Proofs.CommandLine.Outcome
import GeneratedContent.Proofs.File.Reporting

/-!
# Invocations that fail

What the system refuses is reported with an error line and status one; what is malformed, and what the
conversion does not take, makes a run break off (`run_reports`). A run that ends with status one has
written nothing, unless a writing is broken off on the way or what is refused comes last: then the page has
been delivered (`run_of_status_one`).
-/

namespace GeneratedContent.CommandLine.Invocation

open FileSystem (Reception)
open Script (Reports EndsReported)

variable {i : Invocation} {w : World}

/-! ## What is reported -/

section Reports

variable {s : Script}

theorem reports_say (i : Invocation) (line : Text) (h : Reports s) : Reports (i.say line s) := by
  unfold say
  split
  · exact h
  · exact .log h

theorem reports_sayMore (i : Invocation) (line : Text) (h : Reports s) :
    Reports (i.sayMore line s) := by
  unfold sayMore
  split
  · exact reports_say i line h
  · exact h

theorem reports_sayAll {α : Type} (i : Invocation) (line : α → Text) (xs : List α) (h : Reports s) :
    Reports (xs.foldr (fun x next => i.say (line x) next) s) := by
  induction xs with
  | nil => exact h
  | cons x xs ih => exact reports_say i (line x) ih

theorem reports_sayWritten (i : Invocation) (what : Text) (path : Option FilePath) (h : Reports s) :
    Reports (i.sayWritten what path s) := by
  cases path with
  | none => exact h
  | some path => exact reports_say i _ h

theorem reports_readHtml (i : Invocation) {next : Text → Script} (h : ∀ html, Reports (next html)) :
    Reports (i.readHtml next) := by
  unfold readHtml
  split
  · exact .demand fun bytes => .withText h
  · exact .readText h

theorem reports_readCss (i : Invocation) {next : Text → Script} (h : ∀ css, Reports (next css)) :
    Reports (i.readCss next) := by
  unfold readCss
  split
  · exact h []
  · exact .readText h

theorem reports_writeHtml (i : Invocation) (page : Except Malformed Text) (h : Reports s) :
    Reports (i.writeHtml page s) := by
  unfold writeHtml
  cases i.output with
  | none =>
    cases page with
    | error m => exact .stop
    | ok html => exact .demand fun _ => h
  | some path =>
    cases page with
    | error m => exact .writeText .stop
    | ok html => exact .writeText h

theorem reports_writeCss (i : Invocation) (css : Text) (h : Reports s) :
    Reports (i.writeCss css s) := by
  unfold writeCss
  split
  · exact h
  · exact .writeText h

theorem reports_write (i : Invocation) (r : Results) : Reports (i.write r) :=
  reports_writeHtml i _ <|
  reports_writeCss i _ <|
  reports_sayWritten i _ _ <|
  reports_sayWritten i _ _ .done

/-- Whatever the conversion is, an invocation reports what the system refuses. -/
theorem reports_script (conversion : Settings → Text → Text → Except Fault Results) (i : Invocation) :
    Reports (i.scriptBy conversion) := by
  refine reports_readHtml i fun html => reports_readCss i fun css => reports_sayMore i _ ?_
  cases conversion i.settings html css with
  | error f => exact .stop
  | ok r => exact reports_sayAll i _ _ (reports_sayMore i _ (reports_write i r))

end Reports

/-! ## How a run ends -/

section Endings

variable (conversion : Settings → Text → Text → Except Fault Results) (i : Invocation) (w : World)

/-- Without mishaps a run ends as the inputs, the conversion and the file system say. With them it may also
end with status one. -/
theorem run_eq_ending : ((i.scriptBy conversion).run w).1 = i.ending conversion w ∨
    ((i.scriptBy conversion).run w).1 = .status 1 ∧ ¬ w.Calm := by
  cases outcome conversion i w with
  | on x w' hrun hlater h =>
    rw [hrun]
    exact .inl h.1.symm
  | refused request r w' hrun h =>
    rw [hrun]
    by_cases hcalm : w.Calm
    · exact .inl (h.1 hcalm).symm
    · exact .inr ⟨rfl, hcalm⟩
  | broken hrun h =>
    rw [hrun]
    exact .inl (Eq.symm h)

theorem ending_eq_fault_iff (f : Fault) : i.ending conversion w = .fault f ↔
    (∃ m, i.texts w = .error (.malformed m) ∧ f = .malformed m) ∨
      ∃ html css, i.Given w html css ∧
        (conversion i.settings html css = .error f ∨
          ∃ r m, conversion i.settings html css = .ok r ∧ i.reception w.files r = .malformed m ∧
            f = .malformed m) := by
  simp only [← texts_eq_ok_iff]
  unfold ending
  match i.texts w with
  | .error (.refused p) => simp
  | .error (.malformed m) => simp [eq_comm]
  | .ok (html, css) =>
    cases hr : conversion i.settings html css with
    | error g => simp [hr]
    | ok r => cases hreception : i.reception w.files r <;> simp [hr, hreception, endingOf, eq_comm]

theorem ending_eq_status_one_iff : i.ending conversion w = .status 1 ↔
    (∃ p, i.texts w = .error (.refused p)) ∨
      ∃ html css r, i.Given w html css ∧ conversion i.settings html css = .ok r ∧
        i.reception w.files r = .refused := by
  simp only [← texts_eq_ok_iff]
  unfold ending
  match i.texts w with
  | .error (.refused p) => simp
  | .error (.malformed m) => simp
  | .ok (html, css) =>
    cases hr : conversion i.settings html css with
    | error g => simp [hr]
    | ok r => cases hreception : i.reception w.files r <;> simp [hr, hreception, endingOf]

/-- Whatever the conversion is, a run ends without an error, or with status one and an error line, or it
breaks off, and every refused request is reported. It ends as is told beforehand, unless a mishap makes it
end with status one. It is told to break off just when the first input that cannot be had as a text is
malformed, or the conversion does not take the texts, or the first result that cannot be written has a path
that the system cannot be asked for; and it is told to end with status one just when that input or that
result is refused. -/
theorem run_reports :
    Reports (i.scriptBy conversion) ∧ EndsReported ((i.scriptBy conversion).run w) ∧
      (((i.scriptBy conversion).run w).1 = i.ending conversion w ∨
        ((i.scriptBy conversion).run w).1 = .status 1 ∧ ¬ w.Calm) ∧
      (∀ f, i.ending conversion w = .fault f ↔
        (∃ m, i.texts w = .error (.malformed m) ∧ f = .malformed m) ∨
          ∃ html css, i.Given w html css ∧
            (conversion i.settings html css = .error f ∨
              ∃ r m, conversion i.settings html css = .ok r ∧
                i.reception w.files r = .malformed m ∧ f = .malformed m)) ∧
      (i.ending conversion w = .status 1 ↔
        (∃ p, i.texts w = .error (.refused p)) ∨
          ∃ html css r, i.Given w html css ∧ conversion i.settings html css = .ok r ∧
            i.reception w.files r = .refused) := by
  have hreports := reports_script conversion i
  exact ⟨hreports, hreports.run w, run_eq_ending conversion i w, ending_eq_fault_iff conversion i w,
    ending_eq_status_one_iff conversion i w⟩

/-- A page that is no text: the run breaks off, and nothing is said. -/
theorem run_reports_malformed :
    ∃ i w, CommandLine.read ["page.html".toList] = .ok (.invocation i) ∧
      i.settings.unknownTree? = none ∧ w.Calm ∧
      w.files.read (.ofText "page.html".toList) = .ok [0xFF] ∧
      (∃ f, (i.script.run w).1 = .fault f) ∧ (i.script.run w).2.lines = [] := by
  let i : Invocation := { html := "page.html".toList }
  let w : World := { files := { files := .ofList [(["page.html".toList], [0xFF])] } }
  have hcalm : w.Calm := nofun
  have htexts : i.texts w = .error (.malformed (.bytes ⟨0, 0xFF, 1, .start⟩)) := by decide +kernel
  obtain ⟨-, -, hending, hfault, -⟩ := run_reports convertOrStop i w
  have hrun : (i.script.run w).1 = .fault (.malformed (.bytes ⟨0, 0xFF, 1, .start⟩)) :=
    (hending.resolve_right fun h => h.2 hcalm).trans ((hfault _).mpr (.inl ⟨_, htexts, rfl⟩))
  exact ⟨i, w, rfl, by decide, hcalm, by decide +kernel, ⟨_, hrun⟩, by decide +kernel⟩

end Endings

/-! ## What a failure leaves -/

section Failure

variable {conversion : Settings → Text → Text → Except Fault Results}

/-- What the delivery of the page prints. -/
def printed (i : Invocation) (html : Text) : Text := if i.output.isNone then html else []

theorem DeliversPage.results {html output : Text} {fs : FileSystem}
    (h : i.DeliversPage w html fs output) : output = w.output ++ i.printed html := by
  unfold DeliversPage at h
  unfold printed
  split at h
  case _ hnone => simp [hnone, h.2]
  case _ p hp => simp [hp, h.2]

end Failure

end GeneratedContent.CommandLine.Invocation
