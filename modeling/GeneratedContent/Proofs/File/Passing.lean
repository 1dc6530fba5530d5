import GeneratedContent.File.System

/-!
# Parts of scripts

A part of a script goes on with the next part, or reports a refused request, or breaks off. What is known
of the files and the output at each of these ends is written down for one part after the other (`Passes`),
and parts in sequence are put together by one lemma (`Passes.andThen`). Everything here is true whatever
mishaps there are; if there are none, a refusal says something about the files.
-/

namespace GeneratedContent

namespace World

/-! ## Mishaps -/

/-- Whether no mishaps are to come. -/
def Calm (w : World) : Prop := ∀ m ∈ w.mishaps, m = none

instance (w : World) : Decidable w.Calm := inferInstanceAs (Decidable (∀ _ ∈ _, _))

/-- Whether a request to come is broken off when so much has been read or written. -/
def Tears (w : World) (reached : Nat) : Prop :=
  ∃ p, some { problem := p, reached := some reached } ∈ w.mishaps

/-- Whether one world may come after another: the mishaps to come are the last of those that were to
come. -/
def Later (w w' : World) : Prop := w'.mishaps <:+ w.mishaps

variable {w w' w'' : World}

theorem Later.refl (w : World) : w.Later w := List.suffix_refl _

theorem Later.trans (h : w.Later w') (h' : w'.Later w'') : w.Later w'' := List.IsSuffix.trans h' h

theorem Later.calm (h : w.Later w') (hw : w.Calm) : w'.Calm := fun m hm => hw m (h.subset hm)

theorem Later.tears (h : w.Later w') {reached : Nat} (hw : w'.Tears reached) : w.Tears reached := by
  obtain ⟨p, hp⟩ := hw
  exact ⟨p, h.subset hp⟩

theorem Tears.not_calm {reached : Nat} (h : w.Tears reached) : ¬ w.Calm := by
  obtain ⟨p, hp⟩ := h
  intro hcalm
  cases hcalm _ hp

/-! ## Answers -/

/-- How a request can be answered. -/
inductive Answers (w : World) (request : Request) : Except Refusal request.Answer × World → Prop where
  /-- It is granted. -/
  | granted {answer : request.Answer} {w' : World} (h : w.onward.grant request = (.ok answer, w')) :
    Answers w request (.ok answer, w')
  /-- The file system does not allow for it. -/
  | denied {p : FileProblem} {w' : World} (h : w.onward.grant request = (.error p, w')) :
    Answers w request (.error { problem := p }, w')
  /-- It is refused for another reason before it has begun. -/
  | refused {r : Refusal} (h : some r ∈ w.mishaps) : Answers w request (.error r, w.onward)
  /-- It is broken off. -/
  | broken {r : Refusal} {reached : Nat} (h : some r ∈ w.mishaps) (hreached : r.reached = some reached) :
    Answers w request (.error r, w.onward.breakOff reached request)

theorem answers (w : World) (request : Request) : w.Answers request (w.answer request) := by
  unfold answer
  cases hmishap : w.mishaps.head?.join with
  | none =>
    generalize hgrant : w.onward.grant request = result
    obtain ⟨answer | answer, w'⟩ := result
    · exact .denied hgrant
    · exact .granted hgrant
  | some r =>
    have hmem : some r ∈ w.mishaps := List.mem_of_head? (Option.join_eq_some_iff.mp hmishap)
    cases hreached : r.reached with
    | none =>
      simp only [hreached]
      exact .refused hmem
    | some reached =>
      simp only [hreached]
      exact .broken hmem hreached

theorem not_calm_of_mem {r : Refusal} (h : some r ∈ w.mishaps) : ¬ w.Calm := by
  intro hcalm
  cases hcalm _ h

theorem tears_of_mem {r : Refusal} {reached : Nat} (h : some r ∈ w.mishaps)
    (hreached : r.reached = some reached) : w.Tears reached := by
  obtain ⟨p, _⟩ := r
  cases hreached
  exact ⟨p, h⟩

theorem later_onward (w : World) : w.Later w.onward := List.tail_suffix _

theorem later_after (w : World) (answer : Except FileProblem FileSystem) :
    w.Later (w.after answer).2 := by
  cases answer <;> exact List.suffix_refl _

theorem exists_of_after_ok {answer : Except FileProblem FileSystem} {u : Unit}
    (h : w.after answer = (.ok u, w')) : ∃ fs, answer = .ok fs ∧ w' = { w with files := fs } := by
  cases answer with
  | error p => cases h
  | ok fs =>
    cases h
    exact ⟨fs, rfl, rfl⟩

theorem eq_of_after_error {answer : Except FileProblem FileSystem} {p : FileProblem}
    (h : w.after answer = (.error p, w')) : answer = .error p ∧ w' = w := by
  cases answer with
  | error p =>
    cases h
    exact ⟨rfl, rfl⟩
  | ok fs => cases h

theorem later_grant (w : World) (request : Request) : w.Later (w.grant request).2 := by
  cases request with
  | makeFolder path => exact later_after w _
  | writeFile path content => exact later_after w _
  | print text => exact List.suffix_refl _
  | _ => exact Later.refl w

theorem later_breakOff (w : World) (reached : Nat) (request : Request) :
    w.Later (w.breakOff reached request) := by
  cases request with
  | writeFile path content => exact later_after w _
  | print text => exact List.suffix_refl _
  | _ => exact Later.refl w

theorem Answers.later {request : Request} {result : Except Refusal request.Answer × World}
    (h : w.Answers request result) : w.Later result.2 := by
  have hgrant := (later_onward w).trans (later_grant w.onward request)
  cases h with
  | granted h => rwa [h] at hgrant
  | denied h => rwa [h] at hgrant
  | refused h => exact later_onward w
  | broken h hreached => exact (later_onward w).trans (later_breakOff w.onward _ request)

end World

namespace Script

/-! ## Parts -/

/-- What is known of the files and the output at the three ends of a part of a script. -/
structure Ends (α : Type) where
  /-- It goes on with something. -/
  on : α → FileSystem → Text → Prop
  /-- It reports a refused request. -/
  refused : FileSystem → Text → Prop
  /-- It breaks off. -/
  broken : Fault → FileSystem → Text → Prop

/-- Whether a part of a script, with the rest of it behind it, comes to one of its ends. -/
inductive Passes {α : Type} (s : Script) (w : World) (next : α → Script) (ends : Ends α) : Prop where
  /-- It goes on. -/
  | on (x : α) (w' : World) (hrun : s.run w = (next x).run w') (hlater : w.Later w')
    (h : ends.on x w'.files w'.output)
  /-- It reports a refused request. -/
  | refused (request : Request) (r : Refusal) (w' : World)
    (hrun : s.run w = (fail request r).run w') (h : ends.refused w'.files w'.output)
  /-- It breaks off. -/
  | broken {f : Fault} {w' : World} (hrun : s.run w = (.fault f, w'))
    (h : ends.broken f w'.files w'.output)

variable {α β : Type} {s t : Script} {w w' : World}

theorem Passes.of_run_eq {next : α → Script} {ends : Ends α} (h : Passes t w' next ends)
    (hrun : s.run w = t.run w') (hlater : w.Later w') : Passes s w next ends := by
  cases h with
  | on x w'' hrun' hlater' h => exact .on x w'' (hrun.trans hrun') (hlater.trans hlater') h
  | refused request r w'' hrun' h => exact .refused request r w'' (hrun.trans hrun') h
  | broken hrun' h => exact .broken (hrun.trans hrun') h

/-- Parts in sequence: the second one begins where the first one goes on. -/
theorem Passes.andThen {next : α → Script} {next' : β → Script} {ends : Ends α} {ends' : Ends β}
    (h : Passes s w next ends)
    (hon : ∀ x w', w.Later w' → ends.on x w'.files w'.output → Passes (next x) w' next' ends')
    (hrefused : ∀ fs output, ends.refused fs output → ends'.refused fs output)
    (hbroken : ∀ f fs output, ends.broken f fs output → ends'.broken f fs output) :
    Passes s w next' ends' := by
  cases h with
  | on x w' hrun hlater h => exact (hon x w' hlater h).of_run_eq hrun hlater
  | refused request r w' hrun h => exact .refused request r w' hrun (hrefused _ _ h)
  | broken hrun h => exact .broken hrun (hbroken _ _ _ h)

/-- A part with no more to be known of its ends. -/
theorem Passes.imp {next : α → Script} {ends ends' : Ends α} (h : Passes s w next ends)
    (hon : ∀ x fs output, ends.on x fs output → ends'.on x fs output)
    (hrefused : ∀ fs output, ends.refused fs output → ends'.refused fs output)
    (hbroken : ∀ f fs output, ends.broken f fs output → ends'.broken f fs output) :
    Passes s w next ends' :=
  h.andThen (fun x w' _ h => .on x w' rfl (.refl w') (hon _ _ _ h)) hrefused hbroken

theorem passes_demand {request : Request} {next : request.Answer → Script} {ends : Ends request.Answer}
    (hon : ∀ answer w', w.Answers request (.ok answer, w') → ends.on answer w'.files w'.output)
    (hrefused : ∀ r w', w.Answers request (.error r, w') → ends.refused w'.files w'.output) :
    Passes (demand request next) w next ends := by
  have hanswers := w.answers request
  rcases hanswer : w.answer request with ⟨r | answer, w'⟩
  · rw [hanswer] at hanswers
    exact .refused request r w' (by rw [demand, run, hanswer]) (hrefused r w' hanswers)
  · rw [hanswer] at hanswers
    exact .on answer w' (by rw [demand, run, hanswer]) hanswers.later (hon answer w' hanswers)

theorem passes_withPath {path : FilePath} {next : α → Script} {ends : Ends α}
    (hpath : path.holdsNull = false → Passes s w next ends)
    (hnull : path.holdsNull = true → ends.broken (.malformed .path) w.files w.output) :
    Passes (withPath path s) w next ends := by
  unfold withPath
  split
  case isTrue h => exact .broken rfl (hnull h)
  case isFalse h => exact hpath (Bool.eq_false_iff.mpr h)

/-! ## Whole runs -/

/-- Whether a script ends without an error, and with which world. -/
def EndsWell (s : Script) (w w' : World) : Prop := s.run w = (.status 0, w')

theorem Passes.of_endsWell {ends : Ends Unit} (h : Passes s w (fun _ => .done 0) ends)
    (hwell : s.EndsWell w w') : ends.on () w'.files w'.output := by
  cases h with
  | on x w' hrun hlater h =>
    cases hrun.symm.trans hwell
    exact h
  | refused request r w' hrun h => cases hrun.symm.trans hwell
  | broken hrun h => cases hrun.symm.trans hwell

theorem Passes.of_status_one {ends : Ends Unit} (h : Passes s w (fun _ => .done 0) ends)
    (hstatus : (s.run w).1 = .status 1) : ends.refused (s.run w).2.files (s.run w).2.output := by
  cases h with
  | on x w' hrun hlater h =>
    rw [hrun] at hstatus
    cases hstatus
  | refused request r w' hrun h =>
    rw [hrun]
    exact h
  | broken hrun h =>
    rw [hrun] at hstatus
    cases hstatus

end Script

/-! ## Texts that are read -/

/-- Why a text cannot be had. -/
inductive Unread where
  /-- The system refuses to read it. -/
  | refused (p : FileProblem)
  /-- What it is read from, or what is read, is malformed. -/
  | malformed (m : Malformed)
deriving DecidableEq

/-- The text of bytes, if they are one, with line feeds at the ends of its lines. -/
def textOf (bytes : List UInt8) : Except Unread Text :=
  match Text.decode bytes with
  | .error e => .error (.malformed (.bytes e))
  | .ok s => .ok (Text.withLineFeeds s)

/-- The text of a file. -/
def FileSystem.text (fs : FileSystem) (path : FilePath) : Except Unread Text :=
  if path.holdsNull then .error (.malformed .path)
  else do
    let bytes ← (fs.read path).mapError .refused
    textOf bytes

/-- Whether files and output are those of a world. -/
def World.Shows (w : World) (fs : FileSystem) (output : Text) : Prop := fs = w.files ∧ output = w.output

theorem World.Shows.trans {w w' : World} {fs : FileSystem} {output : Text}
    (h : w.Shows w'.files w'.output) (h' : w'.Shows fs output) : w.Shows fs output :=
  ⟨h'.1.trans h.1, h'.2.trans h.2⟩

namespace Script

/-- The ends of a part that reads something and changes nothing. -/
def Ends.reading {α : Type} (w : World) (source : Except Unread α) : Ends α where
  on x fs output := source = .ok x ∧ w.Shows fs output
  refused fs output := (w.Calm → ∃ p, source = .error (.refused p)) ∧ w.Shows fs output
  broken f fs output := (∃ m, f = .malformed m ∧ source = .error (.malformed m)) ∧ w.Shows fs output

variable {α β : Type} {s : Script} {w w' : World} {next : α → Script}

/-- What is read in a later world with the same files and output. -/
theorem Passes.reading_of_later {source : Except Unread α} (h : Passes s w' next (.reading w' source))
    (hlater : w.Later w') (hshows : w.Shows w'.files w'.output) :
    Passes s w' next (.reading w source) := by
  refine h.imp ?_ ?_ ?_
  · rintro x fs output ⟨hx, hsame⟩
    exact ⟨hx, hshows.trans hsame⟩
  · rintro fs output ⟨hp, hsame⟩
    exact ⟨fun hcalm => hp (hlater.calm hcalm), hshows.trans hsame⟩
  · rintro f fs output ⟨hm, hsame⟩
    exact ⟨hm, hshows.trans hsame⟩

/-- What is read after something else. -/
theorem Passes.reading_bind {source : Except Unread α} {f : α → Except Unread β} {next' : β → Script}
    (h : Passes s w next (.reading w source))
    (h' : ∀ x w', w.Shows w'.files w'.output → Passes (next x) w' next' (.reading w' (f x))) :
    Passes s w next' (.reading w (source >>= f)) := by
  refine h.andThen ?_ ?_ ?_
  · rintro x w' hlater ⟨rfl, hshows⟩
    exact (h' x w' hshows).reading_of_later hlater hshows
  · rintro fs output ⟨hp, hsame⟩
    refine ⟨fun hcalm => ?_, hsame⟩
    obtain ⟨p, rfl⟩ := hp hcalm
    exact ⟨p, rfl⟩
  · rintro g fs output ⟨⟨m, hg, rfl⟩, hsame⟩
    exact ⟨⟨m, hg, rfl⟩, hsame⟩

/-- A request that reads something and changes nothing, even if it is broken off. -/
theorem passes_reading (request : Request) {source : Except FileProblem request.Answer}
    (next : request.Answer → Script) (hgrant : w.onward.grant request = (source, w.onward))
    (hbreak : ∀ n, w.onward.breakOff n request = w.onward) :
    Passes (demand request next) w next (.reading w (source.mapError .refused)) := by
  refine passes_demand (fun answer w' h => ?_) fun r w' h => ?_
  · cases h with
    | granted h =>
      obtain ⟨rfl, rfl⟩ := Prod.mk.inj (hgrant.symm.trans h)
      exact ⟨rfl, rfl, rfl⟩
  · cases h with
    | @denied p w' h =>
      obtain ⟨rfl, rfl⟩ := Prod.mk.inj (hgrant.symm.trans h)
      exact ⟨fun _ => ⟨p, rfl⟩, rfl, rfl⟩
    | refused h => exact ⟨fun hcalm => absurd hcalm (World.not_calm_of_mem h), rfl, rfl⟩
    | broken h =>
      rw [hbreak]
      exact ⟨fun hcalm => absurd hcalm (World.not_calm_of_mem h), rfl, rfl⟩

theorem passes_readInput (next : List UInt8 → Script) (w : World) :
    Passes (demand .readInput next) w next (.reading w (.ok w.input)) :=
  passes_reading .readInput next rfl fun _ => rfl

theorem passes_readFile (path : FilePath) (next : List UInt8 → Script) (w : World) :
    Passes (demand (.readFile path) next) w next
      (.reading w ((w.files.read path).mapError .refused)) :=
  passes_reading (.readFile path) next rfl fun _ => rfl

theorem passes_withText (bytes : List UInt8) (next : Text → Script) (w : World) :
    Passes (withText bytes next) w next (.reading w (textOf bytes)) := by
  unfold withText textOf
  cases Text.decode bytes with
  | error e => exact .broken rfl ⟨⟨_, rfl, rfl⟩, rfl, rfl⟩
  | ok s => exact .on _ w rfl (.refl w) ⟨rfl, rfl, rfl⟩

theorem passes_readText (path : FilePath) (next : Text → Script) (w : World) :
    Passes (readText path next) w next (.reading w (w.files.text path)) := by
  unfold FileSystem.text
  refine passes_withPath (fun hpath => ?_) fun hnull => ?_
  · rw [if_neg (by simp [hpath])]
    exact (passes_readFile path _ w).reading_bind fun bytes w' _ => passes_withText bytes next w'
  · rw [if_pos hnull]
    exact ⟨⟨_, rfl, rfl⟩, rfl, rfl⟩

/-! ## What is written -/

/-- The ends of a part that only writes to the log. -/
def Ends.silent (w : World) : Ends Unit where
  on _ fs output := w.Shows fs output
  refused _ _ := False
  broken _ _ _ := False

theorem passes_writeFile (path : FilePath) (content : List UInt8) (next : Unit → Script) (w : World) :
    Passes (demand (.writeFile path content) next) w next
      { on := fun _ fs output => w.files.write path content = .ok fs ∧ output = w.output
        refused := fun fs output => output = w.output ∧
          (fs = w.files ∨ ∃ n, w.Tears n ∧ w.files.write path (content.take n) = .ok fs) ∧
          (w.Calm → ∃ p, w.files.write path content = .error p)
        broken := fun _ _ _ => False } := by
  refine passes_demand (fun answer w' h => ?_) fun r w' h => ?_
  · cases h with
    | granted h =>
      obtain ⟨fs, hwrite, rfl⟩ := World.exists_of_after_ok h
      exact ⟨hwrite, rfl⟩
  · cases h with
    | @denied p w' h =>
      obtain ⟨hwrite, rfl⟩ := World.eq_of_after_error h
      exact ⟨rfl, .inl rfl, fun _ => ⟨p, hwrite⟩⟩
    | refused h => exact ⟨rfl, .inl rfl, fun hcalm => absurd hcalm (World.not_calm_of_mem h)⟩
    | @broken r n h hreached =>
      have hcalm := World.not_calm_of_mem h
      rw [World.breakOff]
      cases hwrite : w.onward.files.write path (content.take n) with
      | error p => exact ⟨rfl, .inl rfl, fun h => absurd h hcalm⟩
      | ok fs =>
        exact ⟨rfl, .inr ⟨n, World.tears_of_mem h hreached, hwrite⟩, fun h => absurd h hcalm⟩

theorem passes_print (text : Text) (next : Unit → Script) (w : World) :
    Passes (demand (.print text) next) w next
      { on := fun _ fs output => fs = w.files ∧ output = w.output ++ text
        refused := fun fs output => fs = w.files ∧
          (output = w.output ∨ ∃ n, w.Tears n ∧ output = w.output ++ text.take n) ∧ ¬ w.Calm
        broken := fun _ _ _ => False } := by
  refine passes_demand (fun answer w' h => ?_) fun r w' h => ?_
  · cases h with
    | granted h =>
      cases h
      exact ⟨rfl, rfl⟩
  · cases h with
    | denied h => cases h
    | refused h => exact ⟨rfl, .inl rfl, World.not_calm_of_mem h⟩
    | broken h hreached =>
      exact ⟨rfl, .inr ⟨_, World.tears_of_mem h hreached, rfl⟩, World.not_calm_of_mem h⟩

end Script

end GeneratedContent
