import GeneratedContent.CommandLine.Run
import GeneratedContent.Proofs.File.Placing

/-!
# How an invocation ends

The inputs of an invocation are read first (`texts`), then the page is converted, and at last the results
are written, the page before the rest of the stylesheet. How that ends is told beforehand by the inputs,
the conversion and the file system (`ending`), unless there are mishaps; and what is left when a request
is refused is nothing, or a part of the page, or the page and a part of the stylesheet (`Leaves`). One
theorem says both of every run (`outcome`), whatever the conversion is.
-/

namespace GeneratedContent.CommandLine.Invocation

open FileSystem (Reception)
open Script (Passes Ends)

variable {i : Invocation} {w w' : World}

/-! ## What is read -/

/-- The text of the page, or why there is none. -/
def page (i : Invocation) (w : World) : Except Unread Text :=
  if i.html = ['-'] then textOf w.input else w.files.text (.ofText i.html)

/-- The text of the stylesheet, which is empty if there is none to be read. -/
def sheet (i : Invocation) (w : World) : Except Unread Text :=
  match i.css with
  | none => .ok []
  | some path => w.files.text path

/-- The texts of the page and the stylesheet, of which the page comes first. -/
def texts (i : Invocation) (w : World) : Except Unread (Text × Text) := do
  let html ← i.page w
  let css ← i.sheet w
  return (html, css)

/-- Whether these texts are the page and the stylesheet of an invocation, as they are read. -/
structure Given (i : Invocation) (w : World) (html css : Text) : Prop where
  /-- The page comes from the standard input or from a file. -/
  page : i.page w = .ok html
  /-- The stylesheet comes from a file, or is empty. -/
  sheet : i.sheet w = .ok css

theorem texts_eq_ok_iff {html css : Text} : i.texts w = .ok (html, css) ↔ i.Given w html css := by
  have hboth : i.texts w = .ok (html, css) ↔ i.page w = .ok html ∧ i.sheet w = .ok css := by
    unfold texts
    cases i.page w with
    | error u => exact ⟨nofun, nofun⟩
    | ok html' =>
      cases i.sheet w with
      | error u => exact ⟨nofun, nofun⟩
      | ok css' => exact ⟨fun h => by cases h; exact ⟨rfl, rfl⟩, fun ⟨h, h'⟩ => by cases h; cases h'; rfl⟩
  exact hboth.trans ⟨fun h => ⟨h.1, h.2⟩, fun h => ⟨h.page, h.sheet⟩⟩

theorem passes_readHtml (i : Invocation) (next : Text → Script) (w : World) :
    Passes (i.readHtml next) w next (.reading w (i.page w)) := by
  unfold readHtml page
  split
  · exact (Script.passes_readInput _ w).reading_bind fun bytes w' _ => Script.passes_withText bytes next w'
  · exact Script.passes_readText _ next w

theorem passes_readCss (i : Invocation) (next : Text → Script) (w : World) :
    Passes (i.readCss next) w next (.reading w (i.sheet w)) := by
  unfold readCss sheet
  cases i.css with
  | none => exact .on _ w rfl (.refl w) ⟨rfl, rfl, rfl⟩
  | some path => exact Script.passes_readText path next w

/-- The same is read in every world with the same files and the same input. -/
theorem sheet_eq (h : w.Shows w'.files w'.output) : i.sheet w' = i.sheet w := by
  unfold sheet
  rw [h.1]

/-- An invocation reads its texts and goes on with them. -/
theorem passes_texts (i : Invocation) (next : Text → Text → Script) (w : World) :
    Passes (i.readHtml fun html => i.readCss fun css => next html css) w (fun t => next t.1 t.2)
      (.reading w (i.texts w)) := by
  refine (passes_readHtml i _ w).reading_bind fun html w' hshows => ?_
  rw [← sheet_eq hshows]
  refine (passes_readCss i _ w').reading_bind fun css w'' _ => ?_
  exact .on (html, css) w'' rfl (.refl w'') ⟨rfl, rfl, rfl⟩

/-! ## What is said -/

section Said

variable {s : Script} {next : Unit → Script}

/-- What comes before a part and only writes to the log does not count. -/
theorem passes_of_silent {α : Type} {next' : α → Script} {ends : Ends α} (h : Passes s w next (.silent w))
    (h' : ∀ w', w.Later w' → w.Shows w'.files w'.output → Passes (next ()) w' next' ends) :
    Passes s w next' ends :=
  h.andThen (fun _ w' hlater hshows => h' w' hlater hshows) nofun nofun

theorem passes_nothing (next : Unit → Script) (w : World) : Passes (next ()) w next (.silent w) :=
  .on () w rfl (.refl w) ⟨rfl, rfl⟩

theorem passes_say (i : Invocation) (line : Text) (next : Unit → Script) (w : World) :
    Passes (i.say line (next ())) w next (.silent w) := by
  unfold say
  split
  · exact passes_nothing next w
  · exact .on () _ rfl (List.suffix_refl _) ⟨rfl, rfl⟩

theorem passes_sayMore (i : Invocation) (line : Text) (next : Unit → Script) (w : World) :
    Passes (i.sayMore line (next ())) w next (.silent w) := by
  unfold sayMore
  split
  · exact passes_say i line next w
  · exact passes_nothing next w

theorem passes_sayAll {α : Type} (i : Invocation) (line : α → Text) (xs : List α) (next : Unit → Script)
    (w : World) :
    Passes (xs.foldr (fun x next => i.say (line x) next) (next ())) w next (.silent w) := by
  induction xs generalizing w with
  | nil => exact passes_nothing next w
  | cons x xs ih =>
    have hsay := passes_say i (line x) (fun _ => xs.foldr (fun x next => i.say (line x) next) (next ())) w
    refine passes_of_silent hsay fun w' _ hshows => ?_
    exact (ih w').imp (fun _ fs output h => hshows.trans h) nofun nofun

theorem passes_sayWritten (i : Invocation) (what : Text) (path : Option FilePath) (next : Unit → Script)
    (w : World) : Passes (i.sayWritten what path (next ())) w next (.silent w) := by
  cases path with
  | none => exact passes_nothing next w
  | some path => exact passes_say i _ next w

/-- What is said at the end: which files have been written. -/
def sayDone (i : Invocation) : Script :=
  i.sayWritten "HTML".toList i.output <|
  i.sayWritten "CSS".toList i.cssOutput <|
  .done 0

theorem passes_sayDone (i : Invocation) (w : World) :
    Passes i.sayDone w (fun _ : Unit => .done 0) (.silent w) := by
  refine passes_of_silent (passes_sayWritten i _ _ (fun _ => i.sayWritten _ _ _) w) fun w' _ hshows => ?_
  refine (passes_sayWritten i _ _ (fun _ => .done 0) w').imp ?_ nofun nofun
  exact fun _ fs output h => hshows.trans h

end Said

/-! ## What is written -/

/-- What comes of the page where it goes to, if there are no mishaps. -/
def pageReception (i : Invocation) (fs : FileSystem) : Reception :=
  match i.output with
  | none => .taken
  | some p => fs.reception p

/-- What comes of the rest of the stylesheet, if there are no mishaps. -/
def sheetReception (i : Invocation) (fs : FileSystem) : Reception :=
  match i.cssOutput with
  | none => .taken
  | some q => fs.reception q

/-- The file system with the page delivered. -/
def withPage (i : Invocation) (fs : FileSystem) (html : Text) : FileSystem :=
  match i.output with
  | none => fs
  | some p => fs.place p (Text.encode html)

/-- What comes of the page and then of the rest of the stylesheet, if there are no mishaps. A page that
cannot be written is found out where it goes to. -/
def reception (i : Invocation) (fs : FileSystem) (r : Results) : Reception :=
  match i.pageReception fs with
  | .refused => .refused
  | .malformed m => .malformed m
  | .taken =>
    match r.page with
    | .error m => .malformed m
    | .ok html => i.sheetReception (i.withPage fs html)

/-- Whether the page has been delivered: it has been printed, or it is where it goes to. -/
def DeliversPage (i : Invocation) (w : World) (html : Text) (fs : FileSystem) (output : Text) : Prop :=
  match i.output with
  | none => fs = w.files ∧ output = w.output ++ html
  | some p => w.files.Placed p (Text.encode html) fs ∧ output = w.output

/-- What is written of a page: nothing of one that cannot be written. -/
def written (page : Except Malformed Text) : Text :=
  match page with
  | .error _ => []
  | .ok html => html

/-- Whether a front of the page has been delivered at most. -/
def LeavesPage (i : Invocation) (w : World) (html : Text) (fs : FileSystem) (output : Text) : Prop :=
  match i.output with
  | none => fs = w.files ∧ (output = w.output ∨ ∃ n, w.Tears n ∧ output = w.output ++ html.take n)
  | some p => w.LeavesPart w.files p (Text.encode html) fs ∧ output = w.output

/-- Whether the rest of the stylesheet has been delivered, if it has a place to go to. -/
def DeliversSheet (i : Invocation) (css : Text) (fs fs' : FileSystem) : Prop :=
  match i.cssOutput with
  | none => fs' = fs
  | some q => fs.Placed q (Text.encode css) fs'

/-- Whether a front of the rest of the stylesheet has been delivered at most. -/
def LeavesSheet (i : Invocation) (w : World) (css : Text) (fs fs' : FileSystem) : Prop :=
  ∃ q, i.cssOutput = some q ∧ w.LeavesPart fs q (Text.encode css) fs'

section Written

variable {html css : Text} {fs : FileSystem} {output : Text}

theorem DeliversPage.alike (h : i.DeliversPage w html fs output) :
    (i.withPage w.files html).Alike fs := by
  unfold DeliversPage at h
  unfold withPage
  split at h
  · obtain ⟨rfl, -⟩ := h
    exact ⟨rfl, rfl, fun _ => rfl⟩
  · exact h.1.alike

theorem LeavesPage.of_later (hlater : w.Later w') (hshows : w.Shows w'.files w'.output)
    (h : i.LeavesPage w' html fs output) : i.LeavesPage w html fs output := by
  unfold LeavesPage at h ⊢
  rw [hshows.1, hshows.2] at h
  split at h
  · obtain ⟨hfiles, houtput⟩ := h
    refine ⟨hfiles, houtput.imp_right ?_⟩
    rintro ⟨n, htears, hfront⟩
    exact ⟨n, hlater.tears htears, hfront⟩
  · exact ⟨h.1.of_later hlater, h.2⟩

theorem LeavesSheet.of_later {fs' : FileSystem} (hlater : w.Later w')
    (h : i.LeavesSheet w' css fs fs') : i.LeavesSheet w css fs fs' := by
  obtain ⟨q, hq, hleft⟩ := h
  exact ⟨q, hq, hleft.of_later hlater⟩

theorem sheetReception_eq {fs' : FileSystem} (h : fs.Alike fs') :
    i.sheetReception fs' = i.sheetReception fs := by
  unfold sheetReception
  split
  · rfl
  · exact h.reception_eq _

theorem passes_writeHtml (i : Invocation) (page : Except Malformed Text) (next : Unit → Script)
    (w : World) :
    Passes (i.writeHtml page (next ())) w next
      { on := fun _ fs output => i.pageReception w.files = .taken ∧
          ∃ html, page = .ok html ∧ i.DeliversPage w html fs output
        refused := fun fs output => i.LeavesPage w (written page) fs output ∧
          (w.Calm → i.pageReception w.files = .refused)
        broken := fun f _ _ => ∃ m, f = .malformed m ∧ (i.pageReception w.files = .malformed m ∨
          i.pageReception w.files = .taken ∧ page = .error m) } := by
  unfold writeHtml DeliversPage LeavesPage pageReception
  cases i.output with
  | none =>
    cases page with
    | error m => exact .broken rfl ⟨m, rfl, .inr ⟨rfl, rfl⟩⟩
    | ok html =>
      refine (Script.passes_print html next w).imp ?_ ?_ nofun
      · rintro _ fs output ⟨hfiles, houtput⟩
        exact ⟨rfl, html, rfl, hfiles, houtput⟩
      · rintro fs output ⟨hfiles, houtput, hcalm⟩
        exact ⟨⟨hfiles, houtput⟩, fun h => absurd h hcalm⟩
  | some p =>
    cases page with
    | error m =>
      -- the file has been opened, and nothing can be written to it
      refine (Script.passes_writeText p [] (fun _ => .stop (.malformed m)) w).andThen ?_ ?_ ?_
      · rintro _ w' - ⟨-, htaken, -⟩
        exact .broken rfl ⟨m, rfl, .inr ⟨htaken, rfl⟩⟩
      · rintro fs output ⟨hleft, houtput, hrefused⟩
        exact ⟨⟨hleft, houtput⟩, hrefused⟩
      · rintro f fs output ⟨hf, hmalformed, -⟩
        exact ⟨.path, hf, .inl hmalformed⟩
    | ok html =>
      refine (Script.passes_writeText p html next w).imp ?_ ?_ ?_
      · rintro _ fs output ⟨hplaced, htaken, houtput⟩
        exact ⟨htaken, html, rfl, hplaced, houtput⟩
      · rintro fs output ⟨hleft, houtput, hrefused⟩
        exact ⟨⟨hleft, houtput⟩, hrefused⟩
      · rintro f fs output ⟨hf, hmalformed, -⟩
        exact ⟨.path, hf, .inl hmalformed⟩

theorem passes_writeCss (i : Invocation) (css : Text) (next : Unit → Script) (w : World) :
    Passes (i.writeCss css (next ())) w next
      { on := fun _ fs output => i.DeliversSheet css w.files fs ∧ output = w.output ∧
          i.sheetReception w.files = .taken
        refused := fun fs output => i.LeavesSheet w css w.files fs ∧ output = w.output ∧
          (w.Calm → i.sheetReception w.files = .refused)
        broken := fun f _ _ => f = .malformed .path ∧ i.sheetReception w.files = .malformed .path } := by
  unfold writeCss DeliversSheet LeavesSheet sheetReception
  cases i.cssOutput with
  | none => exact .on _ w rfl (.refl w) ⟨rfl, rfl, rfl⟩
  | some q =>
    refine (Script.passes_writeText q css next w).imp ?_ ?_ ?_
    · rintro _ fs output ⟨hplaced, htaken, houtput⟩
      exact ⟨hplaced, houtput, htaken⟩
    · rintro fs output ⟨hleft, houtput, hrefused⟩
      exact ⟨⟨q, rfl, hleft⟩, houtput, hrefused⟩
    · rintro f fs output ⟨hf, hmalformed, -⟩
      exact ⟨hf, hmalformed⟩

/-- The results are written one after the other, and then it is said where they are. -/
theorem passes_write (i : Invocation) (r : Results) (w : World) :
    Passes (i.write r) w (fun _ : Unit => .done 0)
      { on := fun _ fs output => i.reception w.files r = .taken ∧
          ∃ html fs', r.page = .ok html ∧ i.DeliversPage w html fs' output ∧
            i.DeliversSheet r.css fs' fs
        refused := fun fs output => (w.Calm → i.reception w.files r = .refused) ∧
          (i.LeavesPage w (written r.page) fs output ∨
            ∃ html fs', r.page = .ok html ∧ i.pageReception w.files = .taken ∧
              i.DeliversPage w html fs' output ∧ i.LeavesSheet w r.css fs' fs)
        broken := fun f _ _ => ∃ m, f = .malformed m ∧ i.reception w.files r = .malformed m } := by
  unfold write
  refine (passes_writeHtml i r.page (fun _ => i.writeCss r.css i.sayDone) w).andThen ?_ ?_ ?_
  · rintro _ w' hlater ⟨htaken, html, hhtml, hpage⟩
    have hreception : i.reception w.files r = i.sheetReception w'.files := by
      simp only [reception, htaken, hhtml, sheetReception_eq hpage.alike]
    refine (passes_writeCss i r.css (fun _ => i.sayDone) w').andThen ?_ ?_ ?_
    · rintro _ w'' - ⟨hsheet, houtput, htaken⟩
      refine (passes_sayDone i w'').imp ?_ nofun nofun
      rintro _ fs output ⟨rfl, houtput'⟩
      obtain rfl : output = w'.output := houtput'.trans houtput
      exact ⟨hreception.trans htaken, html, w'.files, hhtml, hpage, hsheet⟩
    · rintro fs output ⟨hleft, rfl, hrefused⟩
      refine ⟨fun hcalm => hreception.trans (hrefused (hlater.calm hcalm)), .inr ?_⟩
      exact ⟨html, w'.files, hhtml, htaken, hpage, hleft.of_later hlater⟩
    · rintro f fs output ⟨hf, hmalformed⟩
      exact ⟨.path, hf, hreception.trans hmalformed⟩
  · rintro fs output ⟨hleft, hrefused⟩
    exact ⟨fun hcalm => by rw [reception, hrefused hcalm], .inl hleft⟩
  · rintro f fs output ⟨m, hf, hmalformed | ⟨htaken, hpage⟩⟩
    · exact ⟨m, hf, by rw [reception, hmalformed]⟩
    · exact ⟨m, hf, by simp only [reception, htaken, hpage]⟩

end Written

/-! ## The whole run -/

section Run

variable (conversion : Settings → Text → Text → Except Fault Results)

/-- How an invocation ends when this has come of its results. -/
def endingOf : Reception → Ending
  | .taken => .status 0
  | .refused => .status 1
  | .malformed m => .fault (.malformed m)

/-- How an invocation ends if there are no mishaps, as its inputs, the conversion and the file system
say. -/
def ending (i : Invocation) (w : World) : Ending :=
  match i.texts w with
  | .error (.refused _) => .status 1
  | .error (.malformed m) => .fault (.malformed m)
  | .ok (html, css) =>
    match conversion i.settings html css with
    | .error f => .fault f
    | .ok r => endingOf (i.reception w.files r)

/-- Whether both results have been delivered. -/
def Delivers (i : Invocation) (w : World) (fs : FileSystem) (output : Text) : Prop :=
  ∃ html css r, i.Given w html css ∧ conversion i.settings html css = .ok r ∧
    ∃ converted fs', r.page = .ok converted ∧ i.DeliversPage w converted fs' output ∧
      i.DeliversSheet r.css fs' fs

/-- What a refused request leaves. -/
inductive Leaves (i : Invocation) (w : World) : FileSystem → Text → Prop where
  /-- Nothing has been printed or written. -/
  | nothing : Leaves i w w.files w.output
  /-- The page has not been delivered as a whole. -/
  | page {html css : Text} {r : Results} {fs : FileSystem} {output : Text}
    (hgiven : i.Given w html css) (hr : conversion i.settings html css = .ok r)
    (hpage : i.LeavesPage w (written r.page) fs output) : Leaves i w fs output
  /-- The page has been delivered, and the rest of the stylesheet has not been as a whole. -/
  | sheet {html css converted : Text} {r : Results} {fs fs' : FileSystem} {output : Text}
    (hgiven : i.Given w html css) (hr : conversion i.settings html css = .ok r)
    (hconverted : r.page = .ok converted) (htaken : i.pageReception w.files = .taken)
    (hpage : i.DeliversPage w converted fs' output) (hsheet : i.LeavesSheet w r.css fs' fs) :
    Leaves i w fs output

/-- The ends of a run. -/
def runEnds (i : Invocation) (w : World) : Ends Unit where
  on _ fs output := i.ending conversion w = .status 0 ∧ i.Delivers conversion w fs output
  refused fs output := (w.Calm → i.ending conversion w = .status 1) ∧ i.Leaves conversion w fs output
  broken f _ _ := i.ending conversion w = .fault f

variable {conversion} {html css : Text} {r : Results}

theorem ending_of_error {f : Fault} (h : i.Given w html css)
    (hr : conversion i.settings html css = .error f) : i.ending conversion w = .fault f := by
  rw [ending, texts_eq_ok_iff.mpr h]
  simp only [hr]

theorem ending_of_ok (h : i.Given w html css) (hr : conversion i.settings html css = .ok r) :
    i.ending conversion w = endingOf (i.reception w.files r) := by
  rw [ending, texts_eq_ok_iff.mpr h]
  simp only [hr]

/-- The results of a conversion are written in a later world. -/
theorem passes_write_later (h : i.Given w html css) (hr : conversion i.settings html css = .ok r)
    (hlater : w.Later w') (hshows : w.Shows w'.files w'.output) :
    Passes (i.write r) w' (fun _ : Unit => .done 0) (runEnds conversion i w) := by
  have hending : i.ending conversion w = endingOf (i.reception w'.files r) := by
    rw [ending_of_ok h hr, hshows.1]
  have hpage : ∀ {converted fs output}, i.DeliversPage w' converted fs output →
      i.DeliversPage w converted fs output := by
    intro converted fs output h
    rwa [DeliversPage, hshows.1, hshows.2] at h
  refine (passes_write i r w').imp ?_ ?_ ?_
  · rintro _ fs output ⟨htaken, converted, fs', hconverted, hdelivered, hsheet⟩
    rw [htaken] at hending
    exact ⟨hending, html, css, r, h, hr, converted, fs', hconverted, hpage hdelivered, hsheet⟩
  · rintro fs output ⟨hrefused, hleft⟩
    refine ⟨fun hcalm => ?_, ?_⟩
    · rw [hending, hrefused (hlater.calm hcalm), endingOf]
    · rw [hshows.1] at hleft
      obtain hleft | ⟨converted, fs', hconverted, htaken, hdelivered, hleft⟩ := hleft
      · exact .page h hr (hleft.of_later hlater hshows)
      · exact .sheet h hr hconverted htaken (hpage hdelivered) (hleft.of_later hlater)
  · rintro f fs output ⟨m, rfl, hmalformed⟩
    rw [hmalformed] at hending
    exact hending

/-- An invocation whose texts have been read converts them and writes the results. -/
theorem passes_convertAndWrite (h : i.Given w html css) (hlater : w.Later w')
    (hshows : w.Shows w'.files w'.output) :
    Passes (i.convertAndWrite conversion html css) w' (fun _ : Unit => .done 0)
      (runEnds conversion i w) := by
  unfold convertAndWrite
  cases hr : conversion i.settings html css with
  | error f =>
    refine passes_of_silent (passes_sayMore i _ (fun _ => .stop f) w') fun w₁ _ _ => ?_
    exact .broken rfl (ending_of_error h hr)
  | ok r =>
    refine passes_of_silent (passes_sayMore i _ (fun _ => _) w') fun w₁ hlater₁ hshows₁ => ?_
    refine passes_of_silent (passes_sayAll i _ r.warnings (fun _ => _) w₁) fun w₂ hlater₂ hshows₂ => ?_
    refine passes_of_silent (passes_sayMore i _ (fun _ => _) w₂) fun w₃ hlater₃ hshows₃ => ?_
    exact passes_write_later h hr (hlater.trans (hlater₁.trans (hlater₂.trans hlater₃)))
      (hshows.trans (hshows₁.trans (hshows₂.trans hshows₃)))

variable (conversion)

/-- Every run ends as the inputs, the conversion and the file system say, unless there are mishaps; and
what it leaves is told as well. -/
theorem outcome (i : Invocation) (w : World) :
    Passes (i.scriptBy conversion) w (fun _ : Unit => .done 0) (runEnds conversion i w) := by
  refine (passes_texts i (i.convertAndWrite conversion) w).andThen ?_ ?_ ?_
  · rintro ⟨html, css⟩ w' hlater ⟨htexts, hshows⟩
    exact passes_convertAndWrite (texts_eq_ok_iff.mp htexts) hlater hshows
  · rintro fs output ⟨hrefused, rfl, rfl⟩
    refine ⟨fun hcalm => ?_, .nothing⟩
    obtain ⟨p, hp⟩ := hrefused hcalm
    rw [ending, hp]
  · rintro f fs output ⟨⟨m, rfl, hm⟩, -⟩
    change i.ending conversion w = _
    rw [ending, hm]

end Run

end GeneratedContent.CommandLine.Invocation
