import GeneratedContent.Proofs.Css.Strings
import GeneratedContent.Proofs.Rule.Cleaning

/-!
# Strings in a selector that is cleaned

Cleaning takes no notice of strings. A quote is in no class name, so it parts what is cleaned on its two
sides, and each string is cleaned as if it stood alone (`strings_clean`). A string is kept if there is
nothing in it to take out and no blank to collapse.
-/

namespace GeneratedContent.Owner

open Css

theorem mem_dropContainers {classes : List Text} {before : Option Char} {c : Char} {s : Text}
    (h : c ∈ dropContainers classes before s) : c = ' ' ∨ c ∈ s := by
  fun_induction dropContainers classes before s with
  | case1 before => exact absurd h List.not_mem_nil
  | case2 before d s hbefore ih =>
    rw [List.mem_cons] at h
    rcases h with rfl | h
    · exact Or.inr List.mem_cons_self
    · exact (ih h).imp_right (List.mem_cons_of_mem _)
  | case3 before d s hbefore last rest hsome ih =>
    rcases exists_of_afterContainer? hsome with ⟨tag, name, -, hs, -, -, -, -⟩
    rw [List.mem_cons] at h
    refine h.elim Or.inl fun h => (ih h).imp_right ?_
    intro hrest
    rw [hs]
    exact List.mem_append_right _ (List.mem_cons_of_mem _ (List.mem_append_right _ hrest))
  | case4 before d s hbefore hnone ih =>
    rw [List.mem_cons] at h
    rcases h with rfl | h
    · exact Or.inr List.mem_cons_self
    · exact (ih h).imp_right (List.mem_cons_of_mem _)

theorem holdsOn_of_isQuote {q : Char} (hq : isQuote q = true) : holdsOn q = false := by
  rcases eq_of_isQuote hq with rfl | rfl <;> decide

/-- Without backslashes, what stands behind an escape escapes nothing. -/
theorem keepsOpen_of_append {q : Char} {escaping : Bool} {run rest : Text} (hne : run ≠ [])
    (hrun : ∀ c ∈ run, c ≠ '\\') (h : keepsOpen q escaping (run ++ rest) = true) :
    keepsOpen q false rest = true := by
  induction run generalizing escaping with
  | nil => exact absurd rfl hne
  | cons c run ih =>
    rw [List.forall_mem_cons] at hrun
    have hnext : keepsOpen q false (run ++ rest) = true := by
      cases escaping with
      | true => exact h
      | false =>
        rw [List.cons_append, keepsOpen, if_neg hrun.1, Bool.and_eq_true] at h
        exact h.2
    cases run with
    | nil => exact hnext
    | cons d run => exact ih (List.cons_ne_nil _ _) hrun.2 hnext

section Strings

variable {classes : List Text}
  (hnames : ∀ name ∈ classes, ∀ c ∈ name, isQuote c = false ∧ c ≠ '\\')

include hnames

theorem isParting_of_isQuote {q : Char} (hq : isQuote q = true) : IsParting classes q where
  holdsOn_eq := holdsOn_of_isQuote hq
  notMem := by
    intro name hname hmem
    rw [(hnames name hname q hmem).1] at hq
    exact absurd hq (by decide)

/-- Where container compounds are taken out, an open string is kept open. -/
theorem keepsOpen_dropContainers {q : Char} (hq : isQuote q = true) {escaping : Bool} {v : Text}
    (hv : keepsOpen q escaping v = true) (before : Option Char) :
    keepsOpen q escaping (dropContainers classes before v) = true := by
  have hstep : ∀ {escaping : Bool} {c : Char} {s t : Text},
      (∀ {escaping : Bool}, keepsOpen q escaping s = true → keepsOpen q escaping t = true) →
      keepsOpen q escaping (c :: s) = true → keepsOpen q escaping (c :: t) = true := by
    intro escaping c s t hst h
    cases escaping with
    | true => exact hst h
    | false =>
      rw [keepsOpen] at h ⊢
      split at h
      · rename_i hc
        rw [if_pos hc]
        exact hst h
      · rename_i hc
        rw [Bool.and_eq_true] at h
        rw [if_neg hc, Bool.and_eq_true]
        exact ⟨h.1, hst h.2⟩
  fun_induction dropContainers classes before v generalizing escaping with
  | case1 before => exact hv
  | case2 before c s hbefore ih => exact hstep ih hv
  | case3 before c s hbefore last rest hsome ih =>
    rcases exists_of_afterContainer? hsome with ⟨tag, name, hname, hs, -, htag, -, -⟩
    have hrun : ∀ c ∈ tag ++ '.' :: name, c ≠ '\\' := by
      intro d hd
      rw [List.mem_append, List.mem_cons] at hd
      rcases hd with hd | rfl | hd
      · rintro rfl
        exact absurd (htag _ hd) (by decide)
      · decide
      · exact (hnames name hname d hd).2
    have hsplit : c :: s = (tag ++ '.' :: name) ++ rest := by
      rw [hs, List.append_assoc, List.cons_append]
    rw [hsplit] at hv
    have hrest := keepsOpen_of_append (by simp) hrun hv
    rw [keepsOpen_space hq]
    exact ih hrest
  | case4 before c s hbefore hnone ih => exact hstep ih hv

/-- Each string by itself loses its container compounds. -/
theorem strings_dropContainers {s : Text} (hs : StringsClosed s) (before : Option Char) :
    StringsClosed (dropContainers classes before s) ∧
      strings (dropContainers classes before s) =
        (strings s).map (dropContainers classes none) := by
  induction hs generalizing before with
  | @plain u hu =>
    have hplain : ∀ c ∈ dropContainers classes before u, isQuote c = false :=
      forall_isQuote (fun _ hc => mem_dropContainers hc) hu
    rw [strings_of_forall hu, strings_of_forall hplain]
    exact ⟨StringsClosed.plain hplain, rfl⟩
  | @string u v s q hu hq hv hs ih =>
    have hparting := isParting_of_isQuote hnames hq
    have hplain : ∀ c ∈ dropContainers classes before u, isQuote c = false :=
      forall_isQuote (fun _ hc => mem_dropContainers hc) hu
    have hopen := keepsOpen_dropContainers hnames hq hv none
    have hstring : dropContainers classes none (q :: (v ++ [q])) =
        q :: (dropContainers classes none v ++ [q]) := by
      have hopening := dropContainers_append hparting none [] (v ++ [q])
      have hclosing := dropContainers_append hparting none v []
      rw [dropContainers_nil] at hopening hclosing
      exact hopening.trans (congrArg (q :: ·) hclosing)
    rw [dropContainers_append hparting, dropContainers_append hparting]
    refine ⟨StringsClosed.string hplain hq hopen (ih none).1, ?_⟩
    rw [strings_append_of_forall hplain, strings_append_of_forall hu, strings_string hq hv,
      strings_string hq hopen, List.map_cons, hstring, (ih none).2]

end Strings

theorem isCombinator_of_isQuote {q : Char} (hq : isQuote q = true) : isCombinator q = false := by
  rcases eq_of_isQuote hq with rfl | rfl <;> decide

theorem strings_dropCombinator (s : Text) : strings (dropCombinator s) = strings s := by
  cases s with
  | nil => rfl
  | cons c s =>
    cases hc : isCombinator c with
    | false => rw [dropCombinator_of_head (by simpa using hc)]
    | true =>
      have hquote : isQuote c = false := by
        rw [Bool.eq_false_iff]
        intro hq
        rw [isCombinator_of_isQuote hq] at hc
        exact absurd hc (by decide)
      rw [dropCombinator, if_pos hc, strings_trimLeft, strings_cons_of_not hquote]

theorem exists_of_mem_strings {s t : Text} (h : t ∈ strings s) :
    ∃ q u, t = q :: u ∧ isQuote q = true := by
  fun_induction strings s with
  | case1 => exact absurd h List.not_mem_nil
  | case2 c s hc ih =>
    rw [List.mem_cons] at h
    exact h.elim (fun h => ⟨c, _, h, hc⟩) ih
  | case3 c s hc ih => exact ih h

section Clean

variable {classes : List Text} {s t : Text}

/-- From a string no combinator is dropped. -/
theorem clean_of_mem_strings (h : t ∈ strings s) :
    clean classes t = Text.collapseBlanks (dropContainers classes none t) := by
  rcases exists_of_mem_strings h with ⟨q, u, rfl, hq⟩
  have hnone : afterContainer? classes (q :: u) = none := by
    rw [Option.eq_none_iff_forall_not_mem]
    rintro ⟨last, rest⟩ hr
    have hholds := holdsOn_of_afterContainer? hr
    rw [holdsOn_of_isQuote hq] at hholds
    exact absurd hholds (by decide)
  rw [clean, dropContainers_of_none hnone, Text.collapseBlanks_cons (isBlank_of_isQuote hq)]
  exact dropCombinator_of_head (by simpa using isCombinator_of_isQuote hq)

theorem clean_eq_self_iff_of_mem_strings (h : t ∈ strings s) :
    clean classes t = t ↔
      Text.collapseBlanks t = t ∧ anyStart (isContainer classes) none t = false := by
  rcases exists_of_mem_strings h with ⟨q, u, rfl, hq⟩
  have hhead : ∀ c ∈ (q :: u).head?, isCombinator c = false := by
    simpa using isCombinator_of_isQuote hq
  rw [clean_eq_self_iff]
  exact and_congr_right fun _ => and_iff_right hhead

/-- The strings of what is cleaned are those of what is left without the containers, each with its blanks
collapsed. -/
theorem strings_clean_eq_map (h : StringsClosed (dropContainers classes none s)) :
    strings (clean classes s) =
      (strings (dropContainers classes none s)).map Text.collapseBlanks := by
  rw [clean, strings_dropCombinator, strings_collapseBlanks h]

end Clean

/-- Where the strings of a selector are closed, and no class name has a quote or a backslash in it, the
strings of the selector that is cleaned are its strings, each cleaned by itself. So they are kept just when
the words of each are one space apart and in none of them a container compound begins. In a selector without
container compounds the class names do not matter. -/
theorem strings_clean (classes : List Text) {s : Text}
    (hclosed : ∀ t ∈ strings s, isClosedString t = true) :
    ((∀ name ∈ classes, ∀ c ∈ name, isQuote c = false ∧ c ≠ '\\') →
      strings (clean classes s) = (strings s).map (clean classes) ∧
        (strings (clean classes s) = strings s ↔
          ∀ t ∈ strings s, Text.collapseBlanks t = t ∧
            anyStart (isContainer classes) none t = false)) ∧
      (anyStart (isContainer classes) none s = false →
        (strings (clean classes s) = strings s ↔ ∀ t ∈ strings s, Text.collapseBlanks t = t)) := by
  have hs := stringsClosed_of_forall hclosed
  have hfixed : ∀ f : Text → Text, (strings s).map f = strings s ↔ ∀ t ∈ strings s, f t = t := by
    intro f
    have hmap := List.map_inj_left (f := f) (g := id) (l := strings s)
    rwa [List.map_id] at hmap
  constructor
  · intro hnames
    rcases strings_dropContainers hnames hs none with ⟨hleft, hdropped⟩
    have hcleaned : strings (clean classes s) = (strings s).map (clean classes) := by
      rw [strings_clean_eq_map hleft, hdropped, List.map_map]
      apply List.map_congr_left
      intro t ht
      exact (clean_of_mem_strings ht).symm
    refine ⟨hcleaned, ?_⟩
    rw [hcleaned, hfixed]
    exact forall₂_congr fun t ht => clean_eq_self_iff_of_mem_strings ht
  · intro hstart
    have hself := dropContainers_eq_self_iff.2 hstart
    rw [strings_clean_eq_map (by rwa [hself]), hself, hfixed]

/-- Two blanks in a string are collapsed to one, and a word in a string is taken for a container. A string
with neither is kept. -/
theorem strings_clean_title :
    let classes := ["preview-content".toList]
    let spaced := ".preview-content [title=\"a  b\"]".toList
    let dotted := "[title=\"see .preview-content\"]".toList
    let plain := ".preview-content  p[title=\"a > .b\"]".toList
    (∀ t ∈ strings spaced, isClosedString t = true) ∧
      (∀ t ∈ strings dotted, isClosedString t = true) ∧
      (∀ t ∈ strings plain, isClosedString t = true) ∧
      (∀ name ∈ classes, ∀ c ∈ name, isQuote c = false ∧ c ≠ '\\') ∧
      strings (clean classes spaced) = ["\"a b\"".toList] ∧
      strings (clean classes spaced) ≠ strings spaced ∧
      strings (clean classes dotted) = ["\"see \"".toList] ∧
      strings (clean classes dotted) ≠ strings dotted ∧
      strings (clean classes plain) = strings plain := by
  intro classes spaced dotted plain
  have hspaced : ∀ t ∈ strings spaced, isClosedString t = true := by decide +kernel
  have hdotted : ∀ t ∈ strings dotted, isClosedString t = true := by decide +kernel
  have hplain : ∀ t ∈ strings plain, isClosedString t = true := by decide +kernel
  have hplainName : "preview-content".toList.all (fun c => !isQuote c && c != '\\') = true := by decide
  have hnames : ∀ name ∈ classes, ∀ c ∈ name, isQuote c = false ∧ c ≠ '\\' := by
    intro name hname c hc
    obtain rfl := List.mem_singleton.1 hname
    simpa using List.all_eq_true.1 hplainName c hc
  rcases (strings_clean classes hspaced).1 hnames with ⟨hspacedMap, hspacedKept⟩
  rcases (strings_clean classes hdotted).1 hnames with ⟨hdottedMap, hdottedKept⟩
  rcases (strings_clean classes hplain).1 hnames with ⟨-, hplainKept⟩
  refine ⟨hspaced, hdotted, hplain, hnames, ?_, ?_, ?_, ?_, ?_⟩
  · rw [hspacedMap]
    decide +kernel
  · rw [Ne, hspacedKept]
    decide +kernel
  · rw [hdottedMap]
    decide +kernel
  · rw [Ne, hdottedKept]
    decide +kernel
  · rw [hplainKept]
    decide +kernel

end GeneratedContent.Owner
