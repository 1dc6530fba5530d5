import GeneratedContent.Conversion
import GeneratedContent.Proofs.Rule.Remainder

/-!
# Converting what is left

A conversion leaves a stylesheet without blocks for pseudo-elements. On such a stylesheet there is
nothing to carry out and nothing to cut out, so any conversion leaves it and its page as written, with
any settings, also those for which there is no document tree. In a series of conversions this holds
after every step: each step that goes on with the stylesheet the step before has ended with
changes nothing (`convertSeries_reuse`).
-/

namespace GeneratedContent

variable {settings : Settings} {html css : Text} {r : Converted}

/-- A page and a stylesheet that no conversion changes, and none warns about. -/
def Settled (html css : Text) : Prop :=
  ∀ settings : Settings, convert settings html css = .ok ⟨html, css, []⟩

theorem Rule.extract_of_pseudoBlocks_eq_nil (classes : List Text) (h : pseudoBlocks css = []) :
    Rule.extract classes css = [] := by
  rw [Rule.extract, h, List.flatMap_nil]

theorem withoutPseudoBlocks_of_pseudoBlocks_eq_nil (h : pseudoBlocks css = []) :
    withoutPseudoBlocks css = css := by
  rw [withoutPseudoBlocks, h, List.map_nil, cutSpans]

/-- Without blocks for pseudo-elements there is nothing to do. -/
theorem settled_of_pseudoBlocks_eq_nil (html : Text) (h : pseudoBlocks css = []) :
    Settled html css := by
  intro settings
  by_cases hcss : css = []
  · rw [convert, if_pos hcss, hcss]
  · have hinject : inject settings html [] = .ok ⟨html, []⟩ := rfl
    simp only [convert, if_neg hcss, Rule.extract_of_pseudoBlocks_eq_nil _ h, hinject,
      withoutPseudoBlocks_of_pseudoBlocks_eq_nil h]

/-! ## One conversion -/

/-- The stylesheet that a conversion ends with is the given one without its blocks for
pseudo-elements. -/
theorem css_of_convert (h : convert settings html css = .ok r) : r.css = withoutPseudoBlocks css := by
  by_cases hcss : css = []
  · rw [convert, if_pos hcss, Except.ok.injEq] at h
    have hnone : pseudoBlocks [] = [] := by decide +kernel
    rw [← h, hcss, withoutPseudoBlocks_of_pseudoBlocks_eq_nil hnone]
  · rw [convert, if_neg hcss] at h
    cases hinject : inject settings html (Rule.extract settings.containerClasses css) with
    | error e =>
      rw [hinject] at h
      cases h
    | ok injected =>
      rw [hinject] at h
      cases h
      rfl

/-- No block for a pseudo-element is left. -/
theorem pseudoBlocks_of_convert (h : convert settings html css = .ok r) :
    pseudoBlocks r.css = [] := by
  rw [css_of_convert h]
  exact pseudoBlocks_withoutPseudoBlocks css

/-- What a conversion has left, no conversion changes. -/
theorem settled_of_convert (h : convert settings html css = .ok r) : Settled r.html r.css :=
  settled_of_pseudoBlocks_eq_nil r.html (pseudoBlocks_of_convert h)

/-- A conversion fails for want of a document tree only. -/
theorem exists_convert (h : settings.unknownTree? = none) (html css : Text) :
    ∃ r, convert settings html css = .ok r := by
  have hinject : ∀ rules, ∃ injected, inject settings html rules = .ok injected := by
    intro rules
    unfold inject
    split
    · exact ⟨_, rfl⟩
    · rw [h]
      exact ⟨_, rfl⟩
  by_cases hcss : css = []
  · exact ⟨_, if_pos hcss⟩
  · rcases hinject (Rule.extract settings.containerClasses css) with ⟨injected, hinjected⟩
    rw [convert, if_neg hcss, hinjected]
    exact ⟨_, rfl⟩

/-! ## Series of conversions -/

/-- Whether a step brings no stylesheet of its own, or there is a document tree for its settings. -/
def Step.Possible (step : Step) : Prop :=
  step.css = none ∨ step.settings.unknownTree? = none

theorem convertSeries_cons_ok {step : Step} {steps : List Step} {rs : List Converted} :
    convertSeries html css (step :: steps) = .ok rs ↔
      ∃ r rest, convert step.settings html (step.css.getD css) = .ok r ∧
        convertSeries r.html r.css steps = .ok rest ∧ rs = r :: rest := by
  rw [convertSeries]
  cases hfirst : convert step.settings html (step.css.getD css) with
  | error e => simp [bind, Except.bind]
  | ok r =>
    cases hrest : convertSeries r.html r.css steps with
    | error e => simp [bind, Except.bind, hrest]
    | ok rest => simp [bind, Except.bind, pure, Except.pure, hrest, eq_comm]

/-- From a settled state on, a series of possible steps comes to its end. -/
theorem exists_convertSeries {steps : List Step} (hsettled : Settled html css)
    (hpossible : ∀ step ∈ steps, step.Possible) :
    ∃ rs, convertSeries html css steps = .ok rs := by
  induction steps generalizing html css with
  | nil => exact ⟨[], rfl⟩
  | cons step steps ih =>
    have hstep : ∃ r, convert step.settings html (step.css.getD css) = .ok r := by
      rcases hpossible step List.mem_cons_self with hown | htree
      · rw [hown]
        exact ⟨_, hsettled step.settings⟩
      · exact exists_convert htree html (step.css.getD css)
    rcases hstep with ⟨r, hr⟩
    rcases ih (settled_of_convert hr) fun s hs => hpossible s (List.mem_cons_of_mem _ hs) with
      ⟨rest, hrest⟩
    exact ⟨r :: rest, convertSeries_cons_ok.2 ⟨r, rest, hr, hrest, rfl⟩⟩

/-- Each step has one result. -/
theorem length_convertSeries {steps : List Step} {rs : List Converted}
    (h : convertSeries html css steps = .ok rs) : rs.length = steps.length := by
  induction steps generalizing html css rs with
  | nil =>
    obtain rfl : [] = rs := Except.ok.inj h
    rfl
  | cons step steps ih =>
    rcases convertSeries_cons_ok.1 h with ⟨r, rest, -, hrest, rfl⟩
    exact congrArg Nat.succ (ih hrest)

/-- In a series that goes on from a settled state, a step that reuses the stylesheet that the one
before has ended with leaves page and stylesheet as they were. -/
theorem getElem?_convertSeries {steps : List Step} {rs : List Converted}
    (hsettled : Settled r.html r.css) (h : convertSeries r.html r.css steps = .ok rs) {i : Nat}
    {step : Step} {before : Converted} (hstep : steps[i]? = some step)
    (hbefore : (r :: rs)[i]? = some before) (hreuse : step.css.getD before.css = before.css) :
    rs[i]? = some ⟨before.html, before.css, []⟩ := by
  induction steps generalizing r rs i with
  | nil => simp at hstep
  | cons first steps ih =>
    rcases convertSeries_cons_ok.1 h with ⟨next, rest, hnext, hrest, rfl⟩
    cases i with
    | zero =>
      obtain rfl : first = step := by simpa using hstep
      obtain rfl : r = before := by simpa using hbefore
      have hsame := hsettled first.settings
      rw [hreuse, hsame] at hnext
      rw [List.getElem?_cons_zero, Except.ok.inj hnext]
    | succ i =>
      -- what the first step has left is settled too
      rw [List.getElem?_cons_succ] at hstep hbefore ⊢
      exact ih (settled_of_convert hnext) hrest hstep hbefore

/-- The first conversion of a series, with a document tree, comes to an end. It leaves no block for
a pseudo-element, and no conversion with whatever settings changes what it has left. In the series,
each later step that reuses the stylesheet that the one before has ended with leaves page and
stylesheet as they were; and the series comes to its end when there is a document tree for each step
with a stylesheet of its own. -/
theorem convertSeries_reuse {first : Step} (htree : first.settings.unknownTree? = none)
    (html css : Text) :
    ∃ r, convert first.settings html (first.css.getD css) = .ok r ∧
      r.css = withoutPseudoBlocks (first.css.getD css) ∧ pseudoBlocks r.css = [] ∧
      (∀ settings : Settings, convert settings r.html r.css = .ok ⟨r.html, r.css, []⟩) ∧
      ∀ steps : List Step,
        ((∀ step ∈ steps, step.Possible) →
          ∃ rs, convertSeries html css (first :: steps) = .ok (r :: rs)) ∧
        ∀ rs, convertSeries html css (first :: steps) = .ok (r :: rs) →
          rs.length = steps.length ∧
            ∀ (i : Nat) (step : Step) (before : Converted), steps[i]? = some step →
              (r :: rs)[i]? = some before → step.css.getD before.css = before.css →
                rs[i]? = some ⟨before.html, before.css, []⟩ := by
  rcases exists_convert htree html (first.css.getD css) with ⟨r, hr⟩
  have hsettled := settled_of_convert hr
  refine ⟨r, hr, css_of_convert hr, pseudoBlocks_of_convert hr, hsettled,
    fun steps => ⟨fun hpossible => ?_, fun rs hrs => ?_⟩⟩
  · rcases exists_convertSeries hsettled hpossible with ⟨rs, hrs⟩
    exact ⟨rs, convertSeries_cons_ok.2 ⟨r, rs, hr, hrs, rfl⟩⟩
  · rcases convertSeries_cons_ok.1 hrs with ⟨r', rs', -, hrs', heq⟩
    obtain ⟨rfl, rfl⟩ := List.cons.inj heq
    exact ⟨length_convertSeries hrs', fun i step before hstep hbefore hreuse =>
      getElem?_convertSeries hsettled hrs' hstep hbefore hreuse⟩

/-- A stylesheet with a block in an at-rule, a block for any element, for which nothing is injected,
and a block without an end. Two steps of the series reuse what is left, the first of them without a
document tree; the step between them brings a stylesheet of its own. -/
theorem convertSeries_reuse_atRule :
    let html := "<p>x</p>".toList
    let css := "@media print\x7bp::before\x7bcontent:\"a\"\x7d\x7d".toList ++
      "*::after\x7bcontent:\"b\"\x7dq::before\x7b".toList
    let first : Step := { css := some css }
    let steps : List Step := [{ settings := { tree := "x".toList } },
      { css := some "p::after\x7bcontent:\"d\"\x7d".toList }, {}]
    first.settings.unknownTree? = none ∧ (∀ step ∈ steps, step.Possible) ∧
      ∃ r s : Converted, convert first.settings html css = .ok r ∧
        r.css = "@media print\x7b\x7dq::before\x7b".toList ∧ pseudoBlocks r.css = [] ∧
        (∀ settings : Settings, convert settings r.html r.css = .ok ⟨r.html, r.css, []⟩) ∧
        convertSeries html [] (first :: steps) =
          .ok [r, ⟨r.html, r.css, []⟩, s, ⟨s.html, s.css, []⟩] := by
  intro html css first steps
  have htree : first.settings.unknownTree? = none := by decide
  have hpossible : ∀ step ∈ steps, step.Possible := by
    simp [steps, Step.Possible, Settings.unknownTree?]
  refine ⟨htree, hpossible, ?_⟩
  rcases convertSeries_reuse htree html [] with ⟨r, hr, hcss, hnone, hsettled, hseries⟩
  rcases (hseries steps).1 hpossible with ⟨rs, hrs⟩
  rcases (hseries steps).2 rs hrs with ⟨hlength, hreuse⟩
  have hleft : withoutPseudoBlocks css = "@media print\x7b\x7dq::before\x7b".toList := by
    decide +kernel
  obtain ⟨a, s, b, rfl⟩ : ∃ a s b, rs = [a, s, b] := by
    match rs, hlength with
    | [a, s, b], _ => exact ⟨a, s, b, rfl⟩
  obtain rfl : a = ⟨r.html, r.css, []⟩ := by simpa [steps] using hreuse 0 _ r rfl rfl rfl
  obtain rfl : b = ⟨s.html, s.css, []⟩ := by simpa [steps] using hreuse 2 _ s rfl rfl rfl
  exact ⟨r, s, hr, hcss.trans hleft, hnone, hsettled, hrs⟩

end GeneratedContent
