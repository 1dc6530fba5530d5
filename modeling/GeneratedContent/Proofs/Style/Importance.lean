import GeneratedContent.Content.Reader
import GeneratedContent.Proofs.Css.Strings
import GeneratedContent.Proofs.Rule.Body

/-!
# Marks of importance in values

All marks of importance are dropped from the value of a property, also those in its strings, so a string is
kept just when there is none in it (`strings_normalizeValue`). What stands on the two sides of a mark is
joined, and that can be a mark itself, which is then left over (`hasImportance_dropImportance`). From
the value of a content only the mark at its end is dropped, and its strings are kept.
-/

namespace GeneratedContent

open Css

namespace Declaration

/-! ## What a mark of importance is made of -/

/-- Whether a character can stand in a mark of importance behind the exclamation mark. -/
def isImportancePart (c : Char) : Bool :=
  isBlank c || "important".toList.any (sameLetter · c)

theorem not_isImportancePart {c : Char} (hc : c = '!' ∨ isQuote c = true) :
    isImportancePart c = false := by
  have hall : c = '!' ∨ c = '"' ∨ c = '\'' := hc.imp_right eq_of_isQuote
  rcases hall with rfl | rfl | rfl <;> decide +kernel

theorem exists_of_afterImportance? {s rest : Text} (h : afterImportance? s = some rest) :
    ∃ mark, s = '!' :: (mark ++ rest) ∧ ∀ c ∈ mark, isImportancePart c = true := by
  unfold afterImportance? at h
  split at h
  · rename_i s
    rcases Text.exists_of_afterCaseless? h with ⟨taken, htrim, htaken⟩
    refine ⟨s.takeWhile isBlank ++ taken, ?_, ?_⟩
    · rw [List.append_assoc, ← htrim, Text.trimLeft, List.takeWhile_append_dropWhile]
    · intro c hc
      rw [isImportancePart, Bool.or_eq_true]
      rcases List.mem_append.1 hc with hc | hc
      · exact Or.inl (List.all_eq_true.1 List.all_takeWhile c hc)
      · exact Or.inr (htaken c hc)
  · exact absurd h (by simp)

theorem afterImportance?_of_ne {c : Char} (hc : c ≠ '!') (s : Text) :
    afterImportance? (c :: s) = none := by
  unfold afterImportance?
  split
  · rename_i h
    exact absurd (List.cons.inj h).1 hc
  · rfl

/-- A character that is in no mark is not dropped. -/
theorem count_dropImportance {c : Char} (hc : c ≠ '!') (hpart : isImportancePart c = false) (s : Text) :
    (dropImportance s).count c = s.count c := by
  fun_induction dropImportance s with
  | case1 => rfl
  | case2 d s rest h ih =>
    rcases exists_of_afterImportance? h with ⟨mark, hs, hmark⟩
    have hnot : c ∉ '!' :: mark := by
      rw [List.mem_cons, not_or]
      refine ⟨hc, fun hmem => ?_⟩
      rw [hmark c hmem] at hpart
      exact absurd hpart (by decide)
    rw [ih, hs, ← List.cons_append, List.count_append, List.count_eq_zero.2 hnot, Nat.zero_add]
  | case3 d s h ih => rw [List.count_cons, List.count_cons, ih]

/-! ## Texts with and without marks -/

/-- Whether a mark of importance begins somewhere in a text. -/
def hasImportance (s : Text) : Bool := s.anySuffix fun t => (afterImportance? t).isSome

/-- Whether a text begins with an exclamation mark that begins no mark of importance, but would begin one if
the marks behind it were dropped. -/
def beginsSplitImportance : Text → Bool
  | '!' :: s => (afterImportance? ('!' :: s)).isNone && (afterImportance? ('!' :: dropImportance s)).isSome
  | _ => false

/-- Whether a mark of importance that is split by others begins somewhere in a text. -/
def hasSplitImportance (s : Text) : Bool := s.anySuffix beginsSplitImportance

theorem hasImportance_cons (c : Char) (s : Text) :
    hasImportance (c :: s) = ((afterImportance? (c :: s)).isSome || hasImportance s) := rfl

theorem hasSplitImportance_cons (c : Char) (s : Text) :
    hasSplitImportance (c :: s) = (beginsSplitImportance (c :: s) || hasSplitImportance s) := rfl

theorem beginsSplitImportance_of_ne {c : Char} (hc : c ≠ '!') (s : Text) :
    beginsSplitImportance (c :: s) = false := by
  rw [beginsSplitImportance]
  exact fun t h => absurd (List.cons.inj h).1 hc

theorem hasSplitImportance_append {mark : Text} (h : '!' ∉ mark) (s : Text) :
    hasSplitImportance (mark ++ s) = hasSplitImportance s := by
  induction mark with
  | nil => rfl
  | cons c mark ih =>
    rw [List.mem_cons, not_or] at h
    rw [List.cons_append, hasSplitImportance_cons, beginsSplitImportance_of_ne (Ne.symm h.1), ih h.2,
      Bool.false_or]

/-- A mark of importance is left when the marks are dropped just where others split it. -/
theorem hasImportance_dropImportance (s : Text) :
    hasImportance (dropImportance s) = hasSplitImportance s := by
  fun_induction dropImportance s with
  | case1 => rfl
  | case2 c s rest h ih =>
    rcases exists_of_afterImportance? h with ⟨mark, hs, hmark⟩
    rcases List.cons.inj hs with ⟨rfl, rfl⟩
    have hnot : '!' ∉ mark := by
      intro hmem
      have hpart := hmark '!' hmem
      rw [not_isImportancePart (Or.inl rfl)] at hpart
      exact absurd hpart (by decide)
    rw [ih, hasSplitImportance_cons, beginsSplitImportance, h, hasSplitImportance_append hnot]
    rfl
  | case3 c s h ih =>
    rw [hasImportance_cons, hasSplitImportance_cons, ih]
    by_cases hc : c = '!'
    · rw [hc, beginsSplitImportance, ← hc, h]
      rfl
    · rw [afterImportance?_of_ne hc, beginsSplitImportance_of_ne hc]
      rfl

theorem count_dropImportance_lt {s : Text} (h : hasImportance s = true) :
    (dropImportance s).count '!' < s.count '!' := by
  fun_induction dropImportance s with
  | case1 => exact absurd h (by decide)
  | case2 c s rest hsome ih =>
    rcases exists_of_afterImportance? hsome with ⟨mark, hs, -⟩
    have hrest := (sublist_dropImportance rest).count_le '!'
    rw [hs, List.count_cons_self, List.count_append]
    omega
  | case3 c s hnone ih =>
    rw [hasImportance_cons, hnone] at h
    have hlt := ih h
    rw [List.count_cons, List.count_cons]
    omega

/-- Nothing is dropped just where there is no mark of importance. -/
theorem dropImportance_eq_self_iff {s : Text} :
    dropImportance s = s ↔ hasImportance s = false := by
  constructor
  · intro hself
    rw [Bool.eq_false_iff]
    intro h
    have hlt := count_dropImportance_lt h
    rw [hself] at hlt
    exact absurd hlt (Nat.lt_irrefl _)
  · intro h
    induction s with
    | nil => rw [dropImportance]
    | cons c s ih =>
      rw [hasImportance_cons, Bool.or_eq_false_iff, Option.isSome_eq_false_iff,
        Option.isNone_iff_eq_none] at h
      rw [dropImportance_cons, h.1, ih h.2]

/-! ## Values that are normalized twice -/

theorem count_trim {c : Char} (hc : isBlank c = false) (s : Text) : (Text.trim s).count c = s.count c := by
  have hnot : ∀ {w : Text}, (∀ d ∈ w, isBlank d = true) → c ∉ w := by
    intro w hw hmem
    rw [hw c hmem] at hc
    exact absurd hc (by decide)
  have hleft : (Text.trimLeft s).count c = s.count c :=
    Text.apply_trimLeft (f := List.count c) (fun d t hd => List.count_cons_of_ne (by
      rintro rfl
      rw [hd] at hc
      exact absurd hc (by decide))) s
  rcases Text.exists_trimRight_append (Text.trimLeft s) with ⟨w, hw, hblank⟩
  have hright := congrArg (List.count c) hw
  rw [List.count_append, List.count_eq_zero.2 (hnot hblank), Nat.add_zero] at hright
  rw [Text.trim, ← hright, hleft]

/-- Normalizing a value once more changes nothing just where no mark of importance is left. -/
theorem normalizeValue_normalizeValue_iff (value : Text) :
    normalizeValue (normalizeValue value) = normalizeValue value ↔ hasSplitImportance value = false := by
  rw [← hasImportance_dropImportance]
  have htwice : normalizeValue (normalizeValue value) =
      Text.trim (dropImportance (dropImportance value)) :=
    normalizeValue_trim (dropImportance value)
  rw [htwice, normalizeValue]
  constructor
  · intro hsame
    rw [Bool.eq_false_iff]
    intro h
    have hcount := congrArg (List.count '!') hsame
    rw [count_trim (by decide), count_trim (by decide)] at hcount
    exact absurd (count_dropImportance_lt h) (by omega)
  · intro h
    rw [dropImportance_eq_self_iff.2 h]

/-- Blanks around a text are in no mark of importance. -/
theorem hasImportance_trim (s : Text) : hasImportance (Text.trim s) = hasImportance s := by
  have hleft : hasImportance (Text.trimLeft s) = hasImportance s := by
    refine Text.apply_trimLeft (fun c t hc => ?_) s
    have hne : c ≠ '!' := by
      rintro rfl
      exact absurd hc (by decide)
    rw [hasImportance_cons, afterImportance?_of_ne hne]
    rfl
  rcases Text.exists_trimRight_append (Text.trimLeft s) with ⟨w, hw, hblank⟩
  have hright : hasImportance (Text.trim s) = false ↔ hasImportance (Text.trimLeft s) = false := by
    rw [← dropImportance_eq_self_iff, ← dropImportance_eq_self_iff, hw,
      dropImportance_append_blank _ hblank, List.append_cancel_right_eq]
    rfl
  rw [← hleft]
  exact Bool.eq_iff_iff.2 (by simpa using not_congr hright)

/-! ## Strings in a value -/

theorem not_sameLetter_quote {q : Char} (hq : isQuote q = true) :
    ∀ l ∈ "important".toList, sameLetter l q = false := by
  have hpart := not_isImportancePart (Or.inr hq)
  rw [isImportancePart, Bool.or_eq_false_iff, List.any_eq_false] at hpart
  intro l hl
  simpa using hpart.2 l hl

/-- No mark of importance goes on behind a quote. -/
theorem afterImportance?_append_quote {q : Char} (hq : isQuote q = true) (u s : Text) :
    afterImportance? (u ++ q :: s) = (afterImportance? u).map (· ++ q :: s) := by
  cases u with
  | nil => exact afterImportance?_of_ne (ne_of_isQuote hq (by decide)).symm s
  | cons c u =>
    by_cases hc : c = '!'
    · have hblank : ∀ d ∈ (q :: s).head?, isBlank d = false := by
        simpa using isBlank_of_isQuote hq
      rw [hc, List.cons_append, afterImportance?, afterImportance?, Text.trimLeft_append hblank,
        Text.afterCaseless?_append_of_head (by simpa using not_sameLetter_quote hq)]
    · rw [List.cons_append, afterImportance?_of_ne hc, afterImportance?_of_ne hc, Option.map_none]

/-- Marks of importance are dropped on the two sides of a quote by themselves. -/
theorem dropImportance_append_quote {q : Char} (hq : isQuote q = true) (u s : Text) :
    dropImportance (u ++ q :: s) = dropImportance u ++ q :: dropImportance s := by
  fun_induction dropImportance u with
  | case1 =>
    rw [List.nil_append, dropImportance_cons, afterImportance?_of_ne (ne_of_isQuote hq (by decide)).symm]
    rfl
  | case2 c u rest h ih =>
    have hsome : afterImportance? (c :: (u ++ q :: s)) = some (rest ++ q :: s) := by
      rw [← List.cons_append, afterImportance?_append_quote hq, h, Option.map_some]
    rw [List.cons_append, dropImportance_cons, hsome]
    exact ih
  | case3 c u h ih =>
    have hnone : afterImportance? (c :: (u ++ q :: s)) = none := by
      rw [← List.cons_append, afterImportance?_append_quote hq, h, Option.map_none]
    rw [List.cons_append, dropImportance_cons, hnone, ih, List.cons_append]

/-- The marks of importance of a string are those between its quotes. -/
theorem hasImportance_string {q : Char} (hq : isQuote q = true) (v : Text) :
    hasImportance (q :: (v ++ [q])) = hasImportance v := by
  have hstring : dropImportance (q :: (v ++ [q])) = q :: (dropImportance v ++ [q]) := by
    have houter := dropImportance_append_quote hq [] (v ++ [q])
    have hinner := dropImportance_append_quote hq v []
    have hnil : dropImportance [] = [] := by rw [dropImportance]
    rw [hnil] at houter hinner
    exact houter.trans (congrArg (q :: ·) hinner)
  have hself : dropImportance (q :: (v ++ [q])) = q :: (v ++ [q]) ↔ dropImportance v = v := by
    rw [hstring, List.cons_inj_right, List.append_cancel_right_eq]
  rw [dropImportance_eq_self_iff, dropImportance_eq_self_iff] at hself
  exact Bool.eq_iff_iff.2 (by simpa using not_congr hself)

/-- Where a character stands in two texts behind as many of its own kind, what stands in front is the same
if the texts are. -/
theorem append_cons_inj_of_count {c : Char} {a b x y : Text} (h : a ++ c :: x = b ++ c :: y)
    (hcount : a.count c = b.count c) : a = b ∧ x = y := by
  induction a generalizing b with
  | nil =>
    cases b with
    | nil => exact ⟨rfl, (List.cons.inj h).2⟩
    | cons d b =>
      obtain rfl : c = d := (List.cons.inj h).1
      rw [List.count_nil, List.count_cons_self] at hcount
      exact absurd hcount (by omega)
  | cons d a ih =>
    cases b with
    | nil =>
      obtain rfl : d = c := (List.cons.inj h).1
      rw [List.count_nil, List.count_cons_self] at hcount
      exact absurd hcount (by omega)
    | cons e b =>
      rcases List.cons.inj h with ⟨rfl, htail⟩
      rw [List.count_cons, List.count_cons, Nat.add_right_cancel_iff] at hcount
      rcases ih htail hcount with ⟨rfl, rfl⟩
      exact ⟨rfl, rfl⟩

/-- A text without its trailing blanks, when a quote stands in it. -/
theorem trimRight_append_quote {q : Char} (hq : isQuote q = true) (u s : Text) :
    Text.trimRight (u ++ q :: s) = u ++ q :: Text.trimRight s := by
  have hblank : ∀ d ∈ (q :: u.reverse).head?, isBlank d = false := by
    simpa using isBlank_of_isQuote hq
  have hleft := Text.trimLeft_append hblank s.reverse
  rw [Text.trimRight, Text.trimRight, List.reverse_append, List.reverse_cons, List.append_assoc,
    List.singleton_append]
  show (Text.trimLeft (s.reverse ++ q :: u.reverse)).reverse = _
  rw [hleft, List.reverse_append, List.reverse_cons, List.reverse_reverse, List.append_assoc]
  rfl

/-- Blanks in front are in no string, whatever is open at the end. -/
theorem strings_trim_eq (s : Text) : strings (Text.trim s) = strings (Text.trimRight s) := by
  refine Text.apply_trimLeft (f := fun u => strings (Text.trimRight u)) (fun c u hc => ?_) s
  rw [Text.trimRight, Text.trimRight, List.reverse_cons, List.dropWhile_append]
  split
  · rename_i hblank
    rw [List.isEmpty_iff.1 hblank, List.dropWhile_cons_of_pos hc]
    rfl
  · rw [List.reverse_append, List.reverse_singleton, List.singleton_append,
      strings_cons_of_not (isQuote_of_isBlank hc)]

/-- The strings of a text whose marks of importance are dropped are its strings just when no mark stands in
any of them. -/
theorem strings_dropImportance_iff {s : Text} (hs : StringsClosed s) :
    strings (Text.trimRight (dropImportance s)) = strings s ↔
      ∀ t ∈ strings s, hasImportance t = false := by
  induction hs with
  | @plain u hu =>
    have hplain : ∀ c ∈ Text.trimRight (dropImportance u), isQuote c = false := by
      rcases Text.exists_trimRight_append (dropImportance u) with ⟨w, hw, -⟩
      intro c hc
      have hmem : c ∈ dropImportance u := by
        rw [hw]
        exact List.mem_append_left _ hc
      exact hu c ((sublist_dropImportance u).subset hmem)
    rw [strings_of_forall hu, strings_of_forall hplain]
    simp
  | @string u v s q hu hq hv hs ih =>
    have hplain : ∀ c ∈ dropImportance u, isQuote c = false :=
      fun c hc => hu c ((sublist_dropImportance u).subset hc)
    have hdropped : Text.trimRight (dropImportance (u ++ q :: (v ++ q :: s))) =
        dropImportance u ++ q :: (dropImportance v ++ q :: Text.trimRight (dropImportance s)) := by
      rw [dropImportance_append_quote hq, dropImportance_append_quote hq, trimRight_append_quote hq,
        trimRight_append_quote hq]
    rw [hdropped, strings_append_of_forall hplain, strings_append_of_forall hu, strings_string hq hv,
      List.forall_mem_cons, hasImportance_string hq]
    cases hmark : hasImportance v with
    | false =>
      rw [dropImportance_eq_self_iff.2 hmark, strings_string hq hv, List.cons_inj_right, ih]
      simp
    | true =>
      -- the string would be cut behind as many quotes as stand in it, so no mark would be missing
      simp only [Bool.true_eq_false, false_and, iff_false]
      intro hsame
      rw [strings, if_pos hq] at hsame
      have hcut := (List.cons.inj (List.cons.inj hsame).1).2
      have htext := append_cutString q (dropImportance v ++ q :: Text.trimRight (dropImportance s))
      rw [hcut, List.append_assoc, List.singleton_append] at htext
      have hcount : v.count q = (dropImportance v).count q :=
        (count_dropImportance (ne_of_isQuote hq (by decide)).symm (not_isImportancePart (Or.inr hq)) v).symm
      have hself := dropImportance_eq_self_iff.1 (append_cons_inj_of_count htext hcount).1.symm
      rw [hmark] at hself
      exact absurd hself (by decide)

/-! ## The mark at the end of a content -/

/-- Where text without quotes stands behind a text with closed strings, the strings are those of the text. -/
theorem strings_append_plain {a t : Text} (ht : ∀ c ∈ t, isQuote c = false)
    (h : StringsClosed (a ++ t)) : StringsClosed a ∧ strings a = strings (a ++ t) := by
  generalize hs : a ++ t = s at h
  induction h generalizing a with
  | @plain u hu =>
    subst hs
    have ha : ∀ c ∈ a, isQuote c = false := fun c hc => hu c (List.mem_append_left _ hc)
    rw [strings_of_forall ha, strings_of_forall hu]
    exact ⟨StringsClosed.plain ha, rfl⟩
  | @string u v s q hu hq hv hclosed ih =>
    -- the closing quote stands in front of the text without quotes
    have hexists : ∃ a', a = u ++ q :: (v ++ q :: a') ∧ a' ++ t = s := by
      have hsplit : a ++ t = (u ++ q :: v ++ [q]) ++ s := by simpa using hs
      rcases List.append_eq_append_iff.1 hsplit with ⟨l, hfront, hback⟩ | ⟨l, hfront, hback⟩
      · rcases List.eq_nil_or_concat' l with rfl | ⟨l, c, rfl⟩
        · refine ⟨[], ?_, ?_⟩
          · simpa using hfront.symm
          · simpa using hback
        · rw [← List.append_assoc] at hfront
          obtain rfl : q = c := List.singleton_inj.1 (List.append_inj_right' hfront rfl)
          have hnot := ht q (by rw [hback]; simp)
          rw [hq] at hnot
          exact absurd hnot (by decide)
      · exact ⟨l, by simpa using hfront, hback.symm⟩
    rcases hexists with ⟨a', rfl, hback⟩
    rcases ih hback with ⟨hrest, hstrings⟩
    refine ⟨StringsClosed.string hu hq hv hrest, ?_⟩
    rw [strings_append_of_forall hu, strings_append_of_forall hu, strings_string hq hv,
      strings_string hq hv, hstrings]

theorem strings_trim {s : Text} (hclosed : ∀ t ∈ strings s, isClosedString t = true) :
    strings (Text.trim s) = strings s := by
  rcases Text.exists_trimRight_append s with ⟨w, hw, hblank⟩
  have hplain : ∀ c ∈ w, isQuote c = false := fun c hc => isQuote_of_isBlank (hblank c hc)
  have happend : StringsClosed (Text.trimRight s ++ w) := hw ▸ stringsClosed_of_forall hclosed
  rw [strings_trim_eq, (strings_append_plain hplain happend).2, ← hw]

/-- There is no quote in the mark of importance at the end of a text, which is given last character
first. -/
theorem exists_of_beforeImportance? {s rest : Text} (h : Content.beforeImportance? s = some rest) :
    ∃ mark, s = mark ++ rest ∧ ∀ c ∈ mark, isQuote c = false := by
  have hblank : ∀ (u : Text), ∀ c ∈ u.takeWhile isBlank, isQuote c = false := by
    intro u c hc
    exact isQuote_of_isBlank (List.all_eq_true.1 List.all_takeWhile c hc)
  have hsplit : ∀ u : Text, u = u.takeWhile isBlank ++ Text.trimLeft u :=
    fun u => List.takeWhile_append_dropWhile.symm
  unfold Content.beforeImportance? at h
  split at h
  · rename_i word hword
    split at h
    · rename_i front hfront
      obtain rfl := Option.some.inj h
      rcases Text.exists_of_afterCaseless? hword with ⟨taken, htrim, htaken⟩
      refine ⟨s.takeWhile isBlank ++ (taken ++ (word.takeWhile isBlank ++ ['!'])), ?_, ?_⟩
      · have hs := hsplit s
        rw [htrim, hsplit word, hfront] at hs
        simpa using hs
      · have htaken' : ∀ c ∈ taken, isQuote c = false := by
          intro c hc
          rw [Bool.eq_false_iff]
          intro hquote
          rcases List.any_eq_true.1 (htaken c hc) with ⟨l, hl, hsame⟩
          rw [not_sameLetter_quote hquote l (List.mem_reverse.1 hl)] at hsame
          exact absurd hsame (by decide)
        simp only [List.forall_mem_append, List.forall_mem_singleton]
        exact ⟨hblank s, htaken', hblank word, rfl⟩
    · exact absurd h (by simp)
  · exact absurd h (by simp)

/-- The value of a content keeps its strings when the mark of importance at its end is dropped. -/
theorem strings_trim_dropFinalImportance {value : Text}
    (hclosed : ∀ t ∈ strings value, isClosedString t = true) :
    strings (Text.trim (Content.dropFinalImportance value)) = strings value := by
  rw [Content.dropFinalImportance]
  split
  · rename_i rest hrest
    rcases exists_of_beforeImportance? hrest with ⟨mark, hreverse, hmark⟩
    have hvalue : value = rest.reverse ++ mark.reverse := by
      rw [← List.reverse_append, ← hreverse, List.reverse_reverse]
    have hfront := strings_append_plain (a := rest.reverse) (t := mark.reverse)
      (by simpa using hmark) (hvalue ▸ stringsClosed_of_forall hclosed)
    rw [← hvalue] at hfront
    rw [strings_trim (by rw [hfront.2]; exact hclosed), hfront.2]
  · exact strings_trim hclosed

/-- Where the strings of a value are closed, they are kept when it is normalized just when there is no mark of
importance in any of them; the value of a content always keeps them when the mark at its end is dropped. What
is normalized has a mark of importance in it just where others split one in the value, and only then
does normalizing it once more change it. -/
theorem strings_normalizeValue (value : Text) :
    ((∀ t ∈ strings value, isClosedString t = true) →
      (strings (normalizeValue value) = strings value ↔
          ∀ t ∈ strings value, hasImportance t = false) ∧
        strings (Text.trim (Content.dropFinalImportance value)) = strings value) ∧
      hasImportance (normalizeValue value) = hasSplitImportance value ∧
      (normalizeValue (normalizeValue value) = normalizeValue value ↔
        hasSplitImportance value = false) := by
  refine ⟨?_, ?_, normalizeValue_normalizeValue_iff value⟩
  · intro hclosed
    refine ⟨?_, strings_trim_dropFinalImportance hclosed⟩
    rw [normalizeValue, strings_trim_eq]
    exact strings_dropImportance_iff (stringsClosed_of_forall hclosed)
  · rw [normalizeValue, hasImportance_trim, hasImportance_dropImportance]

/-- The mark in the first string is dropped, though the content of the same value keeps it; in the third value
a mark is left, which is dropped the next time. -/
theorem strings_normalizeValue_quoted :
    let marked := "\"a !important b\" !important".toList
    let plain := "\"a\" 'b ! c' !IMPORTANT".toList
    let split := "1px !!importantimportant".toList
    ((∀ t ∈ strings marked, isClosedString t = true) ∧
      strings (normalizeValue marked) ≠ strings marked ∧
      strings (Text.trim (Content.dropFinalImportance marked)) = strings marked) ∧
    ((∀ t ∈ strings plain, isClosedString t = true) ∧
      strings (normalizeValue plain) = strings plain ∧
      normalizeValue (normalizeValue plain) = normalizeValue plain) ∧
    hasImportance (normalizeValue split) = true ∧
      normalizeValue (normalizeValue split) ≠ normalizeValue split := by
  intro marked plain split
  have hmarked : ∀ t ∈ strings marked, isClosedString t = true := by decide +kernel
  have hplain : ∀ t ∈ strings plain, isClosedString t = true := by decide +kernel
  rcases (strings_normalizeValue marked).1 hmarked with ⟨hmarkedKept, hmarkedContent⟩
  rcases strings_normalizeValue plain with ⟨hplainClosed, -, hplainTwice⟩
  rcases strings_normalizeValue split with ⟨-, hsplitLeft, hsplitTwice⟩
  refine ⟨⟨hmarked, ?_, hmarkedContent⟩, ⟨hplain, ?_, ?_⟩, ?_, ?_⟩
  · rw [Ne, hmarkedKept]
    decide +kernel
  · rw [(hplainClosed hplain).1]
    decide +kernel
  · rw [hplainTwice]
    decide +kernel
  · rw [hsplitLeft]
    decide +kernel
  · rw [Ne, hsplitTwice]
    decide +kernel

end Declaration

end GeneratedContent
