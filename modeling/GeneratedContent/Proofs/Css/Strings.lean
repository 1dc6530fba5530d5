import GeneratedContent.Proofs.Css.Commenting
import GeneratedContent.Proofs.Text.Words

/-!
# The strings of a text

Where the strings of a text are closed, the text is plain text and strings in turn (`StringsClosed`). What
stands inside a string keeps it open, and that is told character by character (`keepsOpen`). Blanks
can be collapsed in each string by itself (`strings_collapseBlanks`).
-/

namespace GeneratedContent.Css

/-! ## Strings and what stands in them -/

/-- The strings of a text in order, with their quotes. -/
def strings : Text → List Text
  | [] => []
  | c :: s =>
    if isQuote c then (c :: (cutString c s).1) :: strings (cutString c s).2 else strings s
termination_by s => s.length
decreasing_by
  · have := length_cutString_le c s
    simp only [List.length_cons]
    omega
  · simp

/-- Whether a string ends with its quote. -/
def isClosedString : Text → Bool
  | [] => false
  | q :: s => closesString q s

/-- Whether a text behind an opening quote leaves the string open, so that a quote behind it is the closing
one; `escaping` says whether a backslash stands right in front of the text. -/
def keepsOpen (q : Char) : (escaping : Bool) → Text → Bool
  | escaping, [] => !escaping
  | true, _ :: s => keepsOpen q false s
  | false, c :: s =>
    if c = '\\' then keepsOpen q true s else c != q && c != '\n' && keepsOpen q false s

/-- The strings of a text are closed, and each stands behind text without quotes. -/
inductive StringsClosed : Text → Prop where
  /-- There is no string. -/
  | plain {u : Text} (hu : ∀ c ∈ u, isQuote c = false) : StringsClosed u
  /-- There is a string with more of such text behind it. -/
  | string {u v s : Text} {q : Char} (hu : ∀ c ∈ u, isQuote c = false) (hq : isQuote q = true)
      (hv : keepsOpen q false v = true) (hs : StringsClosed s) :
      StringsClosed (u ++ q :: (v ++ q :: s))

theorem strings_cons_of_not {c : Char} (hc : isQuote c = false) (s : Text) :
    strings (c :: s) = strings s := by
  rw [strings, if_neg (by simp [hc])]

/-- Text without quotes in front makes no difference. -/
theorem strings_append_of_forall {u : Text} (hu : ∀ c ∈ u, isQuote c = false) (s : Text) :
    strings (u ++ s) = strings s := by
  induction u with
  | nil => rfl
  | cons c u ih =>
    rw [List.forall_mem_cons] at hu
    rw [List.cons_append, strings_cons_of_not hu.1, ih hu.2]

theorem strings_of_forall {u : Text} (hu : ∀ c ∈ u, isQuote c = false) : strings u = [] := by
  have happend := strings_append_of_forall hu []
  rw [List.append_nil] at happend
  rw [happend, strings]

/-- The backslash that stands in front of a text, if one does. -/
def escapeMark (escaping : Bool) : Text := if escaping then ['\\'] else []

theorem cutString_escapeMark {q : Char} (hq : isQuote q = true) {escaping : Bool} {v : Text}
    (hv : keepsOpen q escaping v = true) (s : Text) :
    cutString q (escapeMark escaping ++ (v ++ q :: s)) = (escapeMark escaping ++ (v ++ [q]), s) := by
  induction v generalizing escaping with
  | nil =>
    cases escaping with
    | true => exact absurd hv (by simp [keepsOpen])
    | false =>
      have hb : q ≠ '\\' := (ne_of_isQuote hq (by decide)).symm
      show cutString q (q :: s) = ([q], s)
      rw [cutString_cons fun h => absurd h hb, if_pos rfl]
  | cons c v ih =>
    cases escaping with
    | true =>
      have hopen : keepsOpen q false v = true := hv
      have hrest : cutString q (v ++ q :: s) = (v ++ [q], s) := ih hopen
      show cutString q ('\\' :: c :: (v ++ q :: s)) = ('\\' :: c :: (v ++ [q]), s)
      rw [cutString_escape, hrest]
    | false =>
      rw [keepsOpen] at hv
      split at hv
      · rename_i hb
        rw [hb]
        exact ih hv
      · rename_i hb
        rw [Bool.and_eq_true, Bool.and_eq_true, bne_iff_ne, bne_iff_ne] at hv
        have hrest : cutString q (v ++ q :: s) = (v ++ [q], s) := ih hv.2
        show cutString q (c :: (v ++ q :: s)) = (c :: (v ++ [q]), s)
        rw [cutString_cons fun h => absurd h hb, if_neg hv.1.1, if_neg hv.1.2, hrest]

/-- A string goes on as far as it is kept open. -/
theorem cutString_of_keepsOpen {q : Char} (hq : isQuote q = true) {v : Text}
    (hv : keepsOpen q false v = true) (s : Text) : cutString q (v ++ q :: s) = (v ++ [q], s) :=
  cutString_escapeMark hq hv s

/-- A closed string is what keeps it open and its quote. -/
theorem exists_of_closesString {q : Char} (hq : isQuote q = true) (s : Text) :
    closesString q (cutString q s).1 = true →
      ∃ v rest, s = v ++ q :: rest ∧ keepsOpen q false v = true := by
  have hb : '\\' ≠ q := ne_of_isQuote hq (by decide)
  fun_induction cutString q s with
  | case1 => exact fun h => absurd h (by simp [closesString])
  | case2 c s ih =>
    intro h
    rcases ih h with ⟨v, rest, rfl, hv⟩
    exact ⟨'\\' :: c :: v, rest, rfl, by simpa [keepsOpen] using hv⟩
  | case3 s =>
    intro _
    exact ⟨[], s, rfl, rfl⟩
  | case4 => exact fun h => absurd h (by simp [closesString])
  | case5 c s hescape hne hbreak ih =>
    intro h
    by_cases hc : c = '\\'
    · -- a lone backslash at the end closes nothing
      have hs : s = [] := by
        cases s with
        | nil => rfl
        | cons d s => exact absurd rfl (hescape d s hc)
      rw [hc, hs] at h
      simp [closesString, cutString, hb] at h
    · rw [closesString_cons hc, beq_eq_false_iff_ne.2 hne, Bool.false_or] at h
      rcases ih h with ⟨v, rest, rfl, hv⟩
      refine ⟨c :: v, rest, rfl, ?_⟩
      rw [keepsOpen, if_neg hc, hv, bne_iff_ne.2 hne, bne_iff_ne.2 hbreak]
      rfl

theorem strings_string {q : Char} (hq : isQuote q = true) {v : Text}
    (hv : keepsOpen q false v = true) (s : Text) :
    strings (q :: (v ++ q :: s)) = (q :: (v ++ [q])) :: strings s := by
  rw [strings, if_pos hq, cutString_of_keepsOpen hq hv]

/-- If each string of a text ends with its quote, the text is plain text and strings in turn. -/
theorem stringsClosed_of_forall {s : Text} (h : ∀ t ∈ strings s, isClosedString t = true) :
    StringsClosed s := by
  induction hn : s.length using Nat.strong_induction_on generalizing s with
  | _ n ih =>
  have hu : ∀ c ∈ s.takeWhile (!isQuote ·), isQuote c = false := by
    intro c hc
    simpa using List.all_eq_true.1 List.all_takeWhile c hc
  have hsplit := (List.takeWhile_append_dropWhile (p := (!isQuote ·)) (l := s)).symm
  have hhead := List.head?_dropWhile_not (!isQuote ·) s
  generalize s.takeWhile (!isQuote ·) = u at hu hsplit
  generalize s.dropWhile (!isQuote ·) = t at hsplit hhead
  subst hsplit
  rw [strings_append_of_forall hu] at h
  cases t with
  | nil =>
    rw [List.append_nil]
    exact StringsClosed.plain hu
  | cons q t =>
    have hq : isQuote q = true := by simpa using hhead
    rw [strings, if_pos hq, List.forall_mem_cons] at h
    rcases exists_of_closesString hq t h.1 with ⟨v, rest, rfl, hv⟩
    rw [cutString_of_keepsOpen hq hv] at h
    refine StringsClosed.string hu hq hv (ih rest.length ?_ h.2 rfl)
    rw [← hn]
    simp only [List.length_append, List.length_cons]
    omega

/-! ## Strings with their blanks collapsed -/

theorem eq_of_isQuote {q : Char} (hq : isQuote q = true) : q = '"' ∨ q = '\'' := by
  rwa [isQuote, Bool.or_eq_true, beq_iff_eq, beq_iff_eq] at hq

theorem isBlank_of_isQuote {q : Char} (hq : isQuote q = true) : isBlank q = false := by
  rcases eq_of_isQuote hq with rfl | rfl <;> decide

theorem keepsOpen_space {q : Char} (hq : isQuote q = true) (escaping : Bool) (t : Text) :
    keepsOpen q escaping (' ' :: t) = keepsOpen q false t := by
  cases escaping with
  | true => rfl
  | false =>
    have hne : ' ' ≠ q := ne_of_isQuote hq (by decide)
    rw [keepsOpen, if_neg (by decide), bne_iff_ne.2 hne]
    rfl

/-- Blanks that are squeezed keep a string open. -/
theorem keepsOpen_squeeze {q : Char} (hq : isQuote q = true) {escaping : Bool} {v : Text}
    (hv : keepsOpen q escaping v = true) : keepsOpen q escaping (Text.squeeze v) = true := by
  induction v generalizing escaping with
  | nil => exact hv
  | cons c v ih =>
    have hblank : isBlank c = true → escaping = false → keepsOpen q false v = true := by
      rintro hc rfl
      have hb : c ≠ '\\' := by
        rintro rfl
        exact absurd hc (by decide)
      rw [keepsOpen, if_neg hb, Bool.and_eq_true] at hv
      exact hv.2
    have hrest : escaping = true → keepsOpen q false v = true := by
      rintro rfl
      exact hv
    rw [Text.squeeze]
    cases hc : isBlank c with
    | true =>
      have hopen : keepsOpen q false v = true := by
        cases escaping with
        | true => exact hrest rfl
        | false => exact hblank hc rfl
      rw [if_pos rfl]
      split
      · rename_i hhead
        rcases Text.exists_squeeze_of_blank hhead with ⟨t, ht⟩
        have hsqueezed := ih hopen
        rw [ht, keepsOpen_space hq] at hsqueezed
        rw [ht, keepsOpen_space hq, hsqueezed]
      · rw [keepsOpen_space hq, ih hopen]
    | false =>
      rw [if_neg (by decide)]
      cases escaping with
      | true => exact ih (hrest rfl)
      | false =>
        rw [keepsOpen] at hv ⊢
        split at hv
        · rename_i hb
          rw [if_pos hb]
          exact ih hv
        · rename_i hb
          rw [if_neg hb]
          rw [Bool.and_eq_true] at hv ⊢
          exact ⟨hv.1, ih hv.2⟩

theorem isQuote_of_isBlank {c : Char} (hc : isBlank c = true) : isQuote c = false := by
  rw [Bool.eq_false_iff]
  intro hq
  rw [isBlank_of_isQuote hq] at hc
  exact absurd hc (by decide)

theorem strings_trimLeft (s : Text) : strings (Text.trimLeft s) = strings s :=
  Text.apply_trimLeft (fun _ _ hc => strings_cons_of_not (isQuote_of_isBlank hc) _) s

/-- Where nothing is put in but spaces, no quote is put in. -/
theorem forall_isQuote {u u' : Text} (h : ∀ c ∈ u', c = ' ' ∨ c ∈ u)
    (hu : ∀ c ∈ u, isQuote c = false) : ∀ c ∈ u', isQuote c = false := by
  intro c hc
  rcases h c hc with rfl | hmem
  · rfl
  · exact hu c hmem

/-- The strings of a text with its blanks collapsed are its strings with theirs collapsed. -/
theorem strings_collapseBlanks {s : Text} (hs : StringsClosed s) :
    strings (Text.collapseBlanks s) = (strings s).map Text.collapseBlanks := by
  rw [← Text.trimLeft_behindWord, strings_trimLeft]
  induction hs with
  | @plain u hu =>
    have hbehind : ∀ c ∈ Text.behindWord u, isQuote c = false :=
      forall_isQuote (fun _ hc => Text.mem_behindWord hc) hu
    rw [strings_of_forall hu, strings_of_forall hbehind, List.map_nil]
  | @string u v s q hu hq hv hs ih =>
    have hblank := isBlank_of_isQuote hq
    have hsqueezed : ∀ c ∈ Text.squeeze u, isQuote c = false :=
      forall_isQuote (fun _ hc => Text.mem_squeeze hc) hu
    have hstring : Text.collapseBlanks (q :: (v ++ [q])) = q :: (Text.squeeze v ++ [q]) := by
      rw [Text.collapseBlanks_cons hblank, Text.behindWord_append hblank]
      rfl
    rw [Text.behindWord_append hblank, Text.behindWord_append hblank,
      strings_append_of_forall hsqueezed, strings_append_of_forall hu,
      strings_string hq hv, strings_string hq (keepsOpen_squeeze hq hv), List.map_cons, hstring, ih]

end GeneratedContent.Css
