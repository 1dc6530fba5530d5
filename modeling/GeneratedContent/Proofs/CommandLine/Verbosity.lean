import GeneratedContent.CommandLine.Run
import GeneratedContent.Proofs.File.Log

/-!
# How much is said

Two invocations that differ only in how much is said put the same requests to the system, so they end in
the same way and leave the same output and the same files (`run_of_asksTheSame`). Both are hushed to the
same script, which is the one of a quiet invocation: it says nothing but the error that it ends with.
-/

namespace GeneratedContent.CommandLine.Invocation

open Script (Hushed SaysOnlyError)

variable {s t : Script}

/-- Whether two invocations differ only in how much is said. -/
def AsksTheSame (i i' : Invocation) : Prop := { i with verbose := i'.verbose, quiet := i'.quiet } = i'

instance (i i' : Invocation) : Decidable (i.AsksTheSame i') := inferInstanceAs (Decidable (_ = _))

/-- An invocation that is quiet and asks for the same. -/
def hush (i : Invocation) (verbose : Bool) : Invocation := { i with verbose := verbose, quiet := true }

section Hush

variable (i : Invocation) (verbose : Bool)

@[simp] theorem hush_settings : (i.hush verbose).settings = i.settings := rfl
@[simp] theorem hush_html : (i.hush verbose).html = i.html := rfl
@[simp] theorem hush_css : (i.hush verbose).css = i.css := rfl
@[simp] theorem hush_output : (i.hush verbose).output = i.output := rfl
@[simp] theorem hush_cssOutput : (i.hush verbose).cssOutput = i.cssOutput := rfl

theorem AsksTheSame.hush_eq {i i' : Invocation} (h : i.AsksTheSame i') :
    i.hush verbose = i'.hush verbose := by
  rw [← h]
  rfl

/-! ## What is said -/

@[simp] theorem say_hush (line : Text) : (i.hush verbose).say line t = t := if_pos rfl

@[simp] theorem sayMore_hush (line : Text) : (i.hush verbose).sayMore line t = t := by
  cases verbose <;> rfl

theorem hushed_say {line : Text} (h : Hushed s t) :
    Hushed (i.say line s) ((i.hush verbose).say line t) := by
  rw [say_hush, say]
  split
  · exact h
  · exact .log h

theorem hushed_sayMore {line : Text} (h : Hushed s t) :
    Hushed (i.sayMore line s) ((i.hush verbose).sayMore line t) := by
  have hsay : Hushed (i.say line s) ((i.hush verbose).say line t) := hushed_say i verbose h
  rw [say_hush] at hsay
  rw [sayMore_hush, sayMore]
  split
  · exact hsay
  · exact h

theorem hushed_sayAll {α : Type} (line : α → Text) (xs : List α) (h : Hushed s t) :
    Hushed (xs.foldr (fun x next => i.say (line x) next) s)
      (xs.foldr (fun x next => (i.hush verbose).say (line x) next) t) := by
  induction xs with
  | nil => exact h
  | cons x xs ih => exact hushed_say i verbose ih

theorem hushed_sayWritten {what : Text} {path : Option FilePath} (h : Hushed s t) :
    Hushed (i.sayWritten what path s) ((i.hush verbose).sayWritten what path t) := by
  cases path with
  | none => exact h
  | some path => exact hushed_say i verbose h

/-! ## What is read and written -/

theorem hushed_readHtml {next next' : Text → Script} (h : ∀ html, Hushed (next html) (next' html)) :
    Hushed (i.readHtml next) ((i.hush verbose).readHtml next') := by
  rw [readHtml, readHtml, hush_html]
  split
  · exact .demand fun bytes => .withText h
  · exact .readText h

theorem hushed_readCss {next next' : Text → Script} (h : ∀ css, Hushed (next css) (next' css)) :
    Hushed (i.readCss next) ((i.hush verbose).readCss next') := by
  rw [readCss, readCss, hush_css]
  cases i.css with
  | none => exact h []
  | some path => exact .readText h

theorem hushed_writeHtml {page : Except Malformed Text} (h : Hushed s t) :
    Hushed (i.writeHtml page s) ((i.hush verbose).writeHtml page t) := by
  unfold writeHtml
  rw [hush_output]
  cases i.output with
  | none =>
    cases page with
    | error m => exact .stop
    | ok html => exact .demand fun _ => h
  | some path =>
    cases page with
    | error m => exact .writeText .stop
    | ok html => exact .writeText h

theorem hushed_writeCss {css : Text} (h : Hushed s t) :
    Hushed (i.writeCss css s) ((i.hush verbose).writeCss css t) := by
  rw [writeCss, writeCss, hush_cssOutput]
  cases i.cssOutput with
  | none => exact h
  | some path => exact .writeText h

/-! ## The whole invocation -/

theorem hushed_write (r : Results) : Hushed (i.write r) ((i.hush verbose).write r) :=
  hushed_writeHtml i verbose <|
  hushed_writeCss i verbose <|
  hushed_sayWritten i verbose <|
  hushed_sayWritten i verbose .done

variable (conversion : Settings → Text → Text → Except Fault Results)

theorem hushed_convertAndWrite (html css : Text) :
    Hushed (i.convertAndWrite conversion html css)
      ((i.hush verbose).convertAndWrite conversion html css) := by
  refine hushed_sayMore i verbose ?_
  rw [hush_settings]
  cases conversion i.settings html css with
  | error e => exact .stop
  | ok r => exact hushed_sayAll i verbose _ _ (hushed_sayMore i verbose (hushed_write i verbose r))

/-- Whatever an invocation says, its script is hushed to the one of the quiet invocation. -/
theorem hushed_script : Hushed i.script (i.hush verbose).script :=
  hushed_readHtml i verbose fun html =>
  hushed_readCss i verbose fun css => hushed_convertAndWrite i verbose convertOrStop html css

end Hush

/-- Invocations that differ only in how much is said put the same requests to the system and end in the
same way, with the same output and the same files; and a quiet one says nothing but the error that it
ends with. -/
theorem run_of_asksTheSame {i i' : Invocation} (h : i.AsksTheSame i') (w : World) :
    i.script.withoutLog = i'.script.withoutLog ∧
      (i.script.run w).1 = (i'.script.run w).1 ∧
      (i.script.run w).2.output = (i'.script.run w).2.output ∧
      (i.script.run w).2.files = (i'.script.run w).2.files ∧
      (i.quiet = true → SaysOnlyError w (i.script.run w)) := by
  have hsame : i.script.withoutLog = i'.script.withoutLog :=
    calc i.script.withoutLog = (i.hush i.verbose).script.withoutLog :=
          (hushed_script i i.verbose).withoutLog_eq
      _ = (i'.hush i.verbose).script.withoutLog := by rw [h.hush_eq]
      _ = i'.script.withoutLog := (hushed_script i' i.verbose).withoutLog_eq.symm
  refine ⟨hsame, ?_⟩
  obtain ⟨hending, houtput, hfiles⟩ := Script.run_of_withoutLog_eq hsame w
  refine ⟨hending, houtput, hfiles, fun hquiet => ?_⟩
  have hself : i.hush i.verbose = i := by rw [hush, ← hquiet]
  have hlines := (hushed_script i i.verbose).lines w
  rwa [hself] at hlines

/-- One command line with the switch for more and one with the switch for nothing: the first run reports
three lines and the second none, and they come to the same. -/
theorem run_of_asksTheSame_page :
    ∃ i i' w, CommandLine.read (["--verbose", "--css", "a.css", "-o", "b.html", "a.html"].map
        String.toList) = .ok (.invocation i) ∧
      CommandLine.read (["--quiet", "--css", "a.css", "-o", "b.html", "a.html"].map
        String.toList) = .ok (.invocation i') ∧
      i.AsksTheSame i' ∧
      (i.script.run w).2.lines = ["Extract phase: found 1 pseudo-element rule(s)".toList,
        "Sanitize phase: stylesheet reduced from 28 to 0 character(s)".toList,
        "HTML: wrote b.html".toList] ∧
      (i'.script.run w).2.lines = [] ∧
      i.script.withoutLog = i'.script.withoutLog ∧
      (i.script.run w).1 = (i'.script.run w).1 ∧
      (i.script.run w).2.output = (i'.script.run w).2.output ∧
      (i.script.run w).2.files = (i'.script.run w).2.files ∧
      SaysOnlyError w (i'.script.run w) := by
  let i : Invocation := {
    html := "a.html".toList
    css := some (.ofText "a.css".toList)
    output := some (.ofText "b.html".toList)
    verbose := true }
  let i' : Invocation := { i with verbose := false, quiet := true }
  let w : World := { files := { files := .ofList [
    (["a.html".toList], Text.encode "<h2>x</h2>".toList),
    (["a.css".toList], Text.encode "h2::before \x7b content: '#'; \x7d".toList)] } }
  have hsame : i.AsksTheSame i' := rfl
  have hsame' : i'.AsksTheSame i := rfl
  obtain ⟨hrequests, hending, houtput, hfiles, -⟩ := run_of_asksTheSame hsame w
  have hquiet := (run_of_asksTheSame hsame' w).2.2.2.2 rfl
  exact ⟨i, i', w, rfl, rfl, hsame, by decide +kernel, by decide +kernel, hrequests, hending, houtput,
    hfiles, hquiet⟩

end GeneratedContent.CommandLine.Invocation
