import GeneratedContent.Proofs.Text.Blank
import Mathlib.Data.List.TakeWhile

/-!
# The words of a text

A text is parted by its marks, and what stands behind the last of them is told without the others
(`behindLast_append`). A blank parts the words on its two sides (`words_append_blank`). So blanks can be
collapsed from left to right (`collapseBlanks_cons`): blanks in front go, and of the blanks behind a
character one is left if a word follows.
-/

namespace GeneratedContent.Text

theorem splitWhere_ne_nil (p : Char → Bool) (s : Text) : splitWhere p s ≠ [] := by
  cases s with
  | nil => exact List.cons_ne_nil _ _
  | cons c s =>
    rw [splitWhere]
    split
    · exact List.cons_ne_nil _ _
    · exact attach_ne_nil _ _

/-- A mark parts what stands on its two sides. -/
theorem splitWhere_append {p : Char → Bool} {x : Char} (hx : p x = true) (u v : Text) :
    splitWhere p (u ++ x :: v) = splitWhere p u ++ splitWhere p v := by
  induction u with
  | nil =>
    show splitWhere p (x :: v) = [] :: splitWhere p v
    rw [splitWhere, if_pos hx]
  | cons c u ih =>
    rw [List.cons_append, splitWhere, splitWhere, ih]
    split
    · rfl
    · rcases List.exists_cons_of_ne_nil (splitWhere_ne_nil p u) with ⟨q, qs, hqs⟩
      rw [hqs]
      rfl

theorem words_append_blank {x : Char} (hx : isBlank x = true) (u v : Text) :
    words (u ++ x :: v) = words u ++ words v := by
  rw [words, splitWhere_append hx, List.filter_append, words, words]

@[simp] theorem words_cons_blank {x : Char} (hx : isBlank x = true) (s : Text) :
    words (x :: s) = words s :=
  words_append_blank hx [] s

/-- A text without blanks is one piece. -/
theorem splitWhere_of_forall {p : Char → Bool} {s : Text} (h : ∀ c ∈ s, p c = false) :
    splitWhere p s = [s] := by
  induction s with
  | nil => rfl
  | cons c s ih =>
    rw [List.forall_mem_cons] at h
    rw [splitWhere, ih h.2, if_neg (by simp [h.1])]
    rfl

/-- A text with a mark in it is parted by the last one. -/
theorem exists_last {p : Char → Bool} {s : Text} (h : s.any p = true) :
    ∃ u b w, s = u ++ b :: w ∧ p b = true ∧ ∀ d ∈ w, p d = false := by
  induction s with
  | nil => exact absurd h (by simp)
  | cons c s ih =>
    by_cases hs : s.any p = true
    · rcases ih hs with ⟨u, b, w, rfl, hb, hw⟩
      exact ⟨c :: u, b, w, rfl, hb, hw⟩
    · rw [List.any_cons, Bool.or_eq_true] at h
      refine ⟨[], c, s, rfl, h.resolve_right hs, ?_⟩
      intro d hd
      exact Bool.eq_false_iff.2 fun hmark => hs (List.any_eq_true.2 ⟨d, hd, hmark⟩)

/-- What stands behind the last mark of a text. -/
def behindLast (p : Char → Bool) (s : Text) : Text := (s.reverse.takeWhile fun c => !p c).reverse

theorem behindLast_of_forall {p : Char → Bool} {s : Text} (h : ∀ c ∈ s, p c = false) :
    behindLast p s = s := by
  have hall : ∀ c ∈ s.reverse, (!p c) = true := by
    intro c hc
    rw [h c (List.mem_reverse.1 hc)]
    rfl
  rw [behindLast, List.takeWhile_eq_self_iff.2 hall, List.reverse_reverse]

/-- What stands in front of a mark does not count. -/
theorem behindLast_append {p : Char → Bool} {x : Char} (hx : p x = true) (u v : Text) :
    behindLast p (u ++ x :: v) = behindLast p v := by
  rw [behindLast, behindLast, List.reverse_append, List.reverse_cons, List.append_assoc,
    List.singleton_append, List.takeWhile_append]
  split
  · rename_i hlength
    have hall : v.reverse.takeWhile (fun c => !p c) = v.reverse :=
      (List.takeWhile_prefix _).eq_of_length hlength
    rw [List.takeWhile_cons_of_neg (by simp [hx]), List.append_nil, hall]
  · rfl

theorem words_of_forall {s : Text} (hne : s ≠ []) (h : ∀ c ∈ s, isBlank c = false) :
    words s = [s] := by
  rw [words, splitWhere_of_forall h]
  simp [hne]

/-- What a word is made of. -/
theorem of_mem_words {s w : Text} (h : w ∈ words s) : w ≠ [] ∧ ∀ c ∈ w, isBlank c = false := by
  have hpieces : ∀ piece ∈ splitWhere isBlank s, ∀ c ∈ piece, isBlank c = false := by
    clear h
    induction s with
    | nil => simp [splitWhere]
    | cons c s ih =>
      rw [splitWhere]
      split
      · simpa using ih
      · rename_i hc
        rcases List.exists_cons_of_ne_nil (splitWhere_ne_nil isBlank s) with ⟨q, qs, hqs⟩
        rw [hqs, List.forall_mem_cons] at ih
        rw [hqs, attach, List.singleton_append, List.forall_mem_cons, List.forall_mem_cons]
        exact ⟨⟨by simpa using hc, ih.1⟩, ih.2⟩
  rw [words, List.mem_filter] at h
  exact ⟨by simpa using h.2, hpieces w h.1⟩

/-! ## Blanks that are collapsed -/

@[simp] theorem collapseBlanks_nil : collapseBlanks [] = [] := rfl

theorem collapseBlanks_cons_blank {c : Char} (hc : isBlank c = true) (s : Text) :
    collapseBlanks (c :: s) = collapseBlanks s := by
  rw [collapseBlanks, words_cons_blank hc, collapseBlanks]

theorem collapseBlanks_append_of_blank {w : Text} (hw : ∀ c ∈ w, isBlank c = true) (s : Text) :
    collapseBlanks (w ++ s) = collapseBlanks s := by
  induction w with
  | nil => rfl
  | cons c w ih =>
    rw [List.forall_mem_cons] at hw
    rw [List.cons_append, collapseBlanks_cons_blank hw.1, ih hw.2]

/-- What is left of a text behind a character: a space in front of the next word if there is a blank, and
nothing if no word follows. -/
def behindWord (s : Text) : Text :=
  if s.head?.any isBlank ∧ words s ≠ [] then ' ' :: collapseBlanks s else collapseBlanks s

theorem collapseBlanks_cons {c : Char} (hc : isBlank c = false) (s : Text) :
    collapseBlanks (c :: s) = c :: behindWord s := by
  have hsplit : splitWhere isBlank (c :: s) = attach [c] (splitWhere isBlank s) := by
    rw [splitWhere, if_neg (by simp [hc])]
  cases s with
  | nil =>
    rw [collapseBlanks, words, hsplit]
    rfl
  | cons d s =>
    by_cases hd : isBlank d = true
    · -- the character is a word of its own
      have hwords : words (c :: d :: s) = [c] :: words s := by
        have happend : c :: d :: s = [c] ++ d :: s := rfl
        rw [happend, words_append_blank hd,
          words_of_forall (List.cons_ne_nil _ _) (by simpa using hc)]
        rfl
      rw [behindWord, List.head?_cons, words_cons_blank hd, collapseBlanks_cons_blank hd,
        collapseBlanks, collapseBlanks, hwords]
      cases hs : words s with
      | nil => simp
      | cons w ws => simp [hd, List.intercalate_cons_cons]
    · -- the character goes with the first word
      rcases List.exists_cons_of_ne_nil (splitWhere_ne_nil isBlank s) with ⟨q, qs, hqs⟩
      have hfirst : splitWhere isBlank (d :: s) = (d :: q) :: qs := by
        rw [splitWhere, if_neg hd, hqs]
        rfl
      rw [hfirst] at hsplit
      rw [behindWord, List.head?_cons, if_neg (by simp [hd]), collapseBlanks, collapseBlanks, words,
        words, hsplit, hfirst]
      simp only [attach, List.singleton_append]
      rw [List.filter_cons_of_pos (by simp), List.filter_cons_of_pos (by simp)]
      cases List.filter (fun t => !List.isEmpty t) qs with
      | nil => simp
      | cons w ws => simp [List.intercalate_cons_cons]

/-- Collapsing leaves no blank in front. -/
theorem isBlank_head?_collapseBlanks (s : Text) :
    ∀ c ∈ (collapseBlanks s).head?, isBlank c = false := by
  induction s with
  | nil => simp
  | cons d s ih =>
    cases hd : isBlank d with
    | true =>
      rw [collapseBlanks_cons_blank hd]
      exact ih
    | false =>
      rw [collapseBlanks_cons hd]
      intro c hc
      rw [List.head?_cons, Option.mem_some_iff] at hc
      exact hc ▸ hd

theorem trimLeft_behindWord (s : Text) : trimLeft (behindWord s) = collapseBlanks s := by
  have hkept : trimLeft (collapseBlanks s) = collapseBlanks s :=
    trimLeft_of_head (isBlank_head?_collapseBlanks s)
  rw [behindWord]
  split
  · exact hkept
  · exact hkept

/-- The number of characters of a text that are no blanks. -/
def weight (s : Text) : Nat := s.countP fun c => !isBlank c

theorem weight_cons_blank {c : Char} (hc : isBlank c = true) (s : Text) : weight (c :: s) = weight s :=
  List.countP_cons_of_neg (by simp [hc])

theorem weight_cons {c : Char} (hc : isBlank c = false) (s : Text) :
    weight (c :: s) = weight s + 1 :=
  List.countP_cons_of_pos (by simp [hc])

/-- Nothing but blanks is lost. -/
theorem weight_collapseBlanks (s : Text) : weight (collapseBlanks s) = weight s := by
  induction s with
  | nil => rfl
  | cons c s ih =>
    cases hc : isBlank c with
    | true => rw [collapseBlanks_cons_blank hc, weight_cons_blank hc, ih]
    | false =>
      have hbehind : weight (behindWord s) = weight (collapseBlanks s) := by
        rw [behindWord]
        split
        · exact weight_cons_blank rfl _
        · rfl
      rw [collapseBlanks_cons hc, weight_cons hc, weight_cons hc, hbehind, ih]

theorem weight_trimLeft (s : Text) : weight (trimLeft s) = weight s :=
  apply_trimLeft (fun _ _ hc => weight_cons_blank hc _) s

theorem intercalate_concat (sep : Text) {ts : List Text} (hne : ts ≠ []) (t : Text) :
    List.intercalate sep (ts ++ [t]) = List.intercalate sep ts ++ sep ++ t := by
  induction ts with
  | nil => exact absurd rfl hne
  | cons u ts ih =>
    cases ts with
    | nil => simp [List.intercalate_cons_cons]
    | cons v ts =>
      have hrest := ih (List.cons_ne_nil _ _)
      rw [List.cons_append, List.cons_append, List.intercalate_cons_cons, ← List.cons_append, hrest,
        List.intercalate_cons_cons, List.append_assoc, List.append_assoc, List.append_assoc,
        List.append_assoc, List.append_assoc]

/-- What is in a collapsed text is in the text, but for spaces. -/
theorem mem_behindWord {c : Char} {s : Text} (h : c ∈ behindWord s) : c = ' ' ∨ c ∈ s := by
  have hspace : ∀ {t : Text}, c ∈ behindWord t → c = ' ' ∨ c ∈ collapseBlanks t := by
    intro t ht
    rw [behindWord] at ht
    split at ht
    · exact List.mem_cons.1 ht
    · exact Or.inr ht
  refine (hspace h).elim Or.inl ?_
  clear h
  induction s with
  | nil => exact fun h => absurd h List.not_mem_nil
  | cons d s ih =>
    intro h
    cases hd : isBlank d with
    | true =>
      rw [collapseBlanks_cons_blank hd] at h
      exact (ih h).imp_right (List.mem_cons_of_mem _)
    | false =>
      rw [collapseBlanks_cons hd, List.mem_cons] at h
      rcases h with rfl | h
      · exact Or.inr List.mem_cons_self
      · exact (hspace h).elim Or.inl fun h => (ih h).imp_right (List.mem_cons_of_mem _)

/-- Words one space apart are read back. -/
theorem words_intercalate {ws : List Text} (h : ∀ w ∈ ws, w ≠ [] ∧ ∀ c ∈ w, isBlank c = false) :
    words (List.intercalate [' '] ws) = ws := by
  induction ws with
  | nil => rfl
  | cons w ws ih =>
    rw [List.forall_mem_cons] at h
    have hw : words w = [w] := words_of_forall h.1.1 h.1.2
    cases ws with
    | nil => rw [List.intercalate_singleton, hw]
    | cons w' ws =>
      rw [List.intercalate_cons_cons, List.append_assoc, List.singleton_append,
        words_append_blank rfl, hw, ih h.2]
      rfl

theorem words_collapseBlanks (s : Text) : words (collapseBlanks s) = words s :=
  words_intercalate fun _ hw => of_mem_words hw

@[simp] theorem collapseBlanks_collapseBlanks (s : Text) :
    collapseBlanks (collapseBlanks s) = collapseBlanks s := by
  rw [collapseBlanks, words_collapseBlanks, collapseBlanks]

/-! ## Runs of blanks -/

/-- A text with one space for each run of blanks. -/
def squeeze : Text → Text
  | [] => []
  | c :: s =>
    if isBlank c then if s.head?.any isBlank then squeeze s else ' ' :: squeeze s
    else c :: squeeze s

theorem words_append_cons_ne_nil {q : Char} (hq : isBlank q = false) (u s : Text) :
    words (u ++ q :: s) ≠ [] := by
  have hcons : ∀ {c : Char} (t : Text), isBlank c = false → words (c :: t) ≠ [] := by
    intro c t hc hnil
    have hcollapse := collapseBlanks_cons hc t
    rw [collapseBlanks, hnil] at hcollapse
    exact absurd hcollapse.symm (List.cons_ne_nil _ _)
  induction u with
  | nil => exact hcons s hq
  | cons c u ih =>
    cases hc : isBlank c with
    | true =>
      rw [List.cons_append, words_cons_blank hc]
      exact ih
    | false => exact hcons _ hc

/-- In front of a character that is no blank, each run of blanks leaves a space. -/
theorem behindWord_append {q : Char} (hq : isBlank q = false) (u s : Text) :
    behindWord (u ++ q :: s) = squeeze u ++ q :: behindWord s := by
  have hplain : ∀ {c : Char} (t : Text), isBlank c = false →
      behindWord (c :: t) = c :: behindWord t := by
    intro c t hc
    rw [behindWord, if_neg (by simp [hc]), collapseBlanks_cons hc]
  induction u with
  | nil => exact hplain s hq
  | cons c u ih =>
    rw [List.cons_append, squeeze]
    cases hc : isBlank c with
    | false => rw [hplain _ hc, ih, if_neg (by decide), List.cons_append]
    | true =>
      have hwords := words_append_cons_ne_nil hq u s
      have hhead : (u ++ q :: s).head?.any isBlank = u.head?.any isBlank := by
        cases u with
        | nil => simp [hq]
        | cons d u => rfl
      have hleft : behindWord (c :: (u ++ q :: s)) = ' ' :: collapseBlanks (u ++ q :: s) := by
        rw [behindWord, words_cons_blank hc, collapseBlanks_cons_blank hc,
          if_pos ⟨by simpa using hc, hwords⟩]
      rw [hleft, if_pos rfl]
      split
      · rename_i hblank
        rw [← ih, behindWord, if_pos ⟨hhead.trans hblank, hwords⟩]
      · rename_i hblank
        have hnot : ¬((u ++ q :: s).head?.any isBlank = true ∧ words (u ++ q :: s) ≠ []) := by
          rw [hhead]
          exact fun h => hblank h.1
        rw [List.cons_append, ← ih, behindWord, if_neg hnot]

/-- What is in a squeezed text is in the text, but for spaces. -/
theorem mem_squeeze {c : Char} {s : Text} (h : c ∈ squeeze s) : c = ' ' ∨ c ∈ s := by
  induction s with
  | nil => exact absurd h List.not_mem_nil
  | cons d s ih =>
    rw [squeeze] at h
    split at h
    · split at h
      · exact (ih h).imp_right (List.mem_cons_of_mem _)
      · rw [List.mem_cons] at h
        exact h.elim Or.inl fun h => (ih h).imp_right (List.mem_cons_of_mem _)
    · rw [List.mem_cons] at h
      rcases h with rfl | h
      · exact Or.inr List.mem_cons_self
      · exact (ih h).imp_right (List.mem_cons_of_mem _)

/-- A run of blanks at the front leaves a space there. -/
theorem exists_squeeze_of_blank {s : Text} (h : s.head?.any isBlank = true) :
    ∃ t, squeeze s = ' ' :: t := by
  induction s with
  | nil => exact absurd h (by simp)
  | cons c s ih =>
    have hc : isBlank c = true := by simpa using h
    rw [squeeze, if_pos hc]
    split
    · exact ih ‹_›
    · exact ⟨_, rfl⟩

end GeneratedContent.Text
