import GeneratedContent.Proofs.Css.Lexing
import GeneratedContent.Rule.PseudoElement

/-!
# Reading at a position, with every access checked

A stylesheet can be read by positions: a loop stands at an index below a bound, looks at the character
there, and goes on to a position further behind. Here each of these operations is checked and fails
where it is not what it has to be (`Failure`). Between the index and the bound stands the text of
lexemes (`Stands`), and what is read at the index is the first of them (`lexemeAt_eq`), so that neither an
access nor a skip fails, and the position behind is the one behind that lexeme.
-/

namespace GeneratedContent

/-- How a partial operation fails. -/
inductive Failure where
  /-- A character was asked for at an index that is not below the bound in force. -/
  | outOfBounds (index stop : Nat)
  /-- A step did not lead forward, or led beyond the bound in force. -/
  | misstep (index next stop : Nat)
  /-- A block in the body of an at-rule was not closed there. -/
  | unclosed (index : Nat)
  /-- A number was to be a character and is none. -/
  | noCharacter (n : Nat)
  /-- A name was to be a placement and is none. -/
  | unknownName (e : Placement.UnknownName)
  /-- The first item was asked for where there are none. -/
  | noFirst
deriving DecidableEq

/-- A value, or the first operation that failed on the way to it. -/
abbrev Checked (α : Type) := Except Failure α

namespace Checked

open Css

/-! ## Operations at a position -/

/-- The character at an index, which has to be below the bound in force. -/
def charAt (css : Text) (stop index : Nat) : Checked Char :=
  if index < stop then
    match css[index]? with
    | some c => .ok c
    | none => .error (.outOfBounds index stop)
  else .error (.outOfBounds index stop)

/-- The positions behind an index, up to a bound. -/
abbrev Ahead (index stop : Nat) := {next : Nat // index < next ∧ next ≤ stop}

/-- The position that a loop or a skip goes on to. -/
def forward (index next stop : Nat) : Checked (Ahead index stop) :=
  if h : index < next ∧ next ≤ stop then .ok ⟨next, h⟩ else .error (.misstep index next stop)

/-- Where the first star and slash stand from an index on that end by the bound. -/
def commentEnd? (css : Text) (stop index : Nat) : Option Nat :=
  (List.range' index (stop - index)).find? fun i =>
    i + 2 ≤ stop && "*/".toList.isPrefixOf (css.drop i)

/-- The position behind the comment at an index: behind its star and slash, or the bound. -/
def skipComment (css : Text) (stop index : Nat) : Checked (Ahead index stop) :=
  forward index ((commentEnd? css stop (index + 2)).elim stop (· + 2)) stop

/-- The position behind a string from an index inside it on. A backslash may lead beyond the bound, where
the loop ends. -/
def stringEnd (css : Text) (stop : Nat) (quote : Char) (index : Nat) : Checked Nat :=
  if index < stop then
    match charAt css stop index with
    | .error e => .error e
    | .ok c =>
      if c = '\\' then stringEnd css stop quote (index + 2)
      else if c = quote then .ok (index + 1)
      else if c = '\n' then .ok index
      else stringEnd css stop quote (index + 1)
  else .ok stop
termination_by stop - index

/-- The position behind the string at an index. -/
def skipString (css : Text) (stop index : Nat) : Checked (Ahead index stop) := do
  let quote ← charAt css stop index
  let next ← stringEnd css stop quote (index + 1)
  forward index next stop

/-- Whether a text goes on with a slash and a star, wherever the bound is. -/
def opensComment (css : Text) (index : Nat) : Bool := "/*".toList.isPrefixOf (css.drop index)

/-- The lexeme at an index and the position behind it. -/
def lexemeAt (css : Text) (stop index : Nat) : Checked (Lexeme × Ahead index stop) := do
  let c ← charAt css stop index
  if opensComment css index then
    let next ← skipComment css stop index
    return (.comment (css.extract index next), next)
  else if isQuote c then
    let next ← skipString css stop index
    return (.quoted (css.extract index next), next)
  else
    let next ← forward index (index + 1) stop
    return (.single c, next)

/-! ## What is read -/

section Reading

variable {css w after : Text} {stop index : Nat}

@[simp] theorem ok_bind {α β : Type} (a : α) (f : α → Checked β) :
    ((.ok a : Checked α) >>= f) = f a := rfl

theorem charAt_eq {c : Char} (hcss : css.drop index = c :: w) (hstop : index < stop) :
    charAt css stop index = .ok c := by
  have hget : css[index]? = some c := by rw [← List.head?_drop, hcss, List.head?_cons]
  rw [charAt, if_pos hstop, hget]

theorem forward_eq {next : Nat} (ahead : Ahead index stop) (h : next = ahead.1) :
    forward index next stop = .ok ahead := by
  subst h
  exact dif_pos ahead.2

theorem isPrefixOf_pair (a b c : Char) (w : Text) :
    [a, b].isPrefixOf (c :: w) = true ↔ c = a ∧ w.head? = some b := by
  cases w with
  | nil => simp
  | cons d w => simp [eq_comm (a := a), eq_comm (a := b)]

theorem opensComment_iff {c : Char} (hcss : css.drop index = c :: w) :
    opensComment css index = true ↔ c = '/' ∧ w.head? = some '*' := by
  rw [opensComment, hcss]
  exact isPrefixOf_pair '/' '*' c w

theorem drop_succ {c : Char} (hcss : css.drop index = c :: w) : css.drop (index + 1) = w := by
  rw [← List.drop_drop, hcss, List.drop_one, List.tail_cons]

/-- A comment is skipped as far as it is cut. -/
theorem commentEnd?_eq (hcss : css.drop index = w ++ after) (hstop : index + w.length = stop) :
    (commentEnd? css stop index).elim stop (· + 2) = index + (cutComment w).1.length := by
  induction w generalizing index with
  | nil =>
    have hcount : stop - index = 0 := by
      rw [← hstop]
      simp
    rw [commentEnd?, hcount]
    exact hstop.symm
  | cons c w ih =>
    have hcss' : css.drop index = c :: (w ++ after) := hcss
    rw [List.length_cons] at hstop
    have hcount : stop - index = stop - (index + 1) + 1 := by omega
    rw [commentEnd?, hcount, List.range'_succ, List.find?_cons, hcss']
    by_cases hc : c = '*' ∧ w.head? = some '/'
    · -- the comment ends here
      obtain ⟨v, rfl⟩ : ∃ v, w = '/' :: v := List.head?_eq_some_iff.1 hc.2
      have hfits : index + 2 ≤ stop := by simp at hstop; omega
      rw [hc.1, cutComment_close]
      simp [hfits]
    · -- a star may stand at the bound, but then the slash behind it does not count
      have hnot : (decide (index + 2 ≤ stop) && "*/".toList.isPrefixOf (c :: (w ++ after))) = false := by
        rw [Bool.and_eq_false_iff]
        cases w with
        | nil =>
          simp only [List.length_nil] at hstop
          exact Or.inl (decide_eq_false (by omega))
        | cons d w =>
          exact Or.inr (Bool.eq_false_iff.2 fun hprefix => hc ((isPrefixOf_pair '*' '/' c _).1 hprefix))
      rw [hnot, cutComment_cons hc, List.length_cons]
      have hrest := ih (drop_succ hcss') (by omega)
      rw [commentEnd?] at hrest
      rw [hrest]
      omega

theorem stringEnd_cons {quote c : Char} (hcss : css.drop index = c :: w) (hlt : index < stop) :
    stringEnd css stop quote index =
      if c = '\\' then stringEnd css stop quote (index + 2)
      else if c = quote then .ok (index + 1)
      else if c = '\n' then .ok index
      else stringEnd css stop quote (index + 1) := by
  rw [stringEnd, if_pos hlt, charAt_eq hcss hlt]

theorem stringEnd_of_le {quote : Char} (hle : stop ≤ index) :
    stringEnd css stop quote index = .ok stop := by
  rw [stringEnd, if_neg (Nat.not_lt.2 hle)]

/-- A string is read as far as it is cut. -/
theorem stringEnd_eq {quote : Char} (hquote : isQuote quote = true) (hcss : css.drop index = w ++ after)
    (hstop : index + w.length = stop) :
    stringEnd css stop quote index = .ok (index + (cutString quote w).1.length) := by
  fun_induction cutString quote w generalizing index with
  | case1 =>
    rw [List.length_nil, Nat.add_zero] at hstop
    rw [stringEnd_of_le (Nat.le_of_eq hstop.symm), hstop, List.length_nil, Nat.add_zero]
  | case2 c s ih =>
    -- the backslash takes the next character with it
    have hlt : index < stop := by simp at hstop; omega
    have hstop' : index + 1 + 1 + s.length = stop := by simp at hstop; omega
    have hrest := ih (drop_succ (drop_succ hcss)) hstop'
    rw [stringEnd_cons hcss hlt, if_pos rfl, hrest, List.length_cons, List.length_cons]
    congr 1
    omega
  | case3 s =>
    have hlt : index < stop := by simp at hstop; omega
    have hne : quote ≠ '\\' := (ne_of_isQuote hquote (by decide)).symm
    rw [stringEnd_cons hcss hlt, if_neg hne, if_pos rfl, List.length_singleton]
  | case4 s _ hne =>
    have hlt : index < stop := by simp at hstop; omega
    rw [stringEnd_cons hcss hlt, if_neg (by decide), if_neg hne, if_pos rfl, List.length_nil,
      Nat.add_zero]
  | case5 c s hlast hne hbreak ih =>
    have hlt : index < stop := by simp at hstop; omega
    rw [stringEnd_cons hcss hlt, if_neg hne, if_neg hbreak, List.length_cons]
    by_cases hc : c = '\\'
    · -- a backslash that nothing follows leads beyond the bound
      obtain rfl : s = [] := by
        cases s with
        | nil => rfl
        | cons d s => exact (hlast d s hc rfl).elim
      rw [List.length_singleton] at hstop
      rw [if_pos hc, stringEnd_of_le (by omega), ← hstop]
      rfl
    · have hrest := ih (drop_succ hcss) (by simp at hstop; omega)
      rw [if_neg hc, hrest]
      congr 1
      omega

end Reading

/-! ## Lexemes at a position -/

/-- Whether lexemes stand between an index of a text and a bound: they are read back, and at the bound
there is no star that a slash before it could open a comment with. -/
structure Stands (css : Text) (stop index : Nat) (ls : List Lexeme) : Prop where
  /-- The lexemes are those of their text. -/
  lexed : Lexed ls
  /-- Their text stands in the text. -/
  exists_drop : ∃ after, css.drop index = flatten ls ++ after ∧ after.head? ≠ some '*'
  /-- It ends at the bound. -/
  bound : index + (flatten ls).length = stop

namespace Stands

variable {css : Text} {stop index : Nat} {l : Lexeme} {as bs ls : List Lexeme}

/-- A whole text is that of its lexemes. -/
theorem whole (s : Text) : Stands s s.length 0 (lex s) where
  lexed := lexed_lex s
  exists_drop := ⟨[], by rw [flatten_lex, List.append_nil, List.drop_zero], by simp⟩
  bound := by rw [flatten_lex, Nat.zero_add]

theorem eq_of_nil (h : Stands css stop index []) : index = stop := h.bound

theorem lt (h : Stands css stop index (l :: ls)) : index < stop := by
  have hbound := h.bound
  have hpos := List.length_pos_iff.2 (lexed_cons.1 h.lexed).1.text_ne_nil
  rw [flatten_cons, List.length_append] at hbound
  omega

/-- Some lexemes further on the others stand. -/
theorem behind (h : Stands css stop index (as ++ bs)) :
    Stands css stop (index + (flatten as).length) bs := by
  rcases h.exists_drop with ⟨after, hdrop, hafter⟩
  refine ⟨h.lexed.of_append, ⟨after, ?_, hafter⟩, ?_⟩
  · rw [← List.drop_drop, hdrop, flatten_append, List.append_assoc, List.drop_left]
  · rw [← h.bound, flatten_append, List.length_append, Nat.add_assoc]

theorem tail (h : Stands css stop index (l :: ls)) : Stands css stop (index + l.text.length) ls := by
  have hfront : Stands css stop index ([l] ++ ls) := h
  have hbehind := hfront.behind
  rwa [flatten_cons, flatten_nil, List.append_nil] at hbehind

/-- The first lexemes stand before the place of the next, unless it begins with a star. -/
theorem before (h : Stands css stop index (as ++ bs)) (hbs : (flatten bs).head? ≠ some '*')
    (hne : flatten bs ≠ []) : Stands css (index + (flatten as).length) index as := by
  rcases h.exists_drop with ⟨after, hdrop, -⟩
  refine ⟨h.lexed.of_append_left, ⟨flatten bs ++ after, ?_, ?_⟩, rfl⟩
  · rw [hdrop, flatten_append, List.append_assoc]
  · rcases List.exists_cons_of_ne_nil hne with ⟨c, t, ht⟩
    rw [ht] at hbs ⊢
    exact hbs

/-- What the first lexemes take up is their text. -/
theorem extract_eq (h : Stands css stop index (as ++ bs)) :
    css.extract index (index + (flatten as).length) = flatten as := by
  rcases h.exists_drop with ⟨after, hdrop, -⟩
  rw [List.extract_eq_take_drop, hdrop, Nat.add_sub_cancel_left, flatten_append, List.append_assoc,
    List.take_left]

theorem extract_text (h : Stands css stop index (l :: ls)) :
    css.extract index (index + l.text.length) = l.text := by
  have hfront : Stands css stop index ([l] ++ ls) := h
  have hextract := hfront.extract_eq
  rwa [flatten_cons, flatten_nil, List.append_nil] at hextract

end Stands

/-- The lexeme at an index is the first of those that stand there, and nothing fails in reading it. -/
theorem lexemeAt_eq {css : Text} {stop index : Nat} {l : Lexeme} {ls : List Lexeme}
    (h : Stands css stop index (l :: ls)) :
    ∃ hahead, lexemeAt css stop index = .ok (l, ⟨index + l.text.length, hahead⟩) := by
  rcases lexed_cons.1 h.lexed with ⟨hfits, -⟩
  rcases h.exists_drop with ⟨after, hdrop, hafter⟩
  have hbound := h.bound
  have htext := h.extract_text
  rw [flatten_cons, List.length_append] at hbound
  rw [flatten_cons, List.append_assoc] at hdrop
  have hahead : index < index + l.text.length ∧ index + l.text.length ≤ stop := by
    have hpos := List.length_pos_iff.2 hfits.text_ne_nil
    omega
  refine ⟨hahead, ?_⟩
  have hlt := h.lt
  cases l with
  | comment t =>
    rcases Lexeme.fits_comment.1 hfits with ⟨u, rfl, hu⟩
    have hdrop : css.drop index = '/' :: '*' :: (u ++ flatten ls ++ after) := by
      rw [hdrop, List.append_assoc]
      rfl
    have hstop : index + 1 + 1 + (u ++ flatten ls).length = stop := by
      simp [Lexeme.text] at hbound ⊢
      omega
    have hend := commentEnd?_eq (drop_succ (drop_succ hdrop)) hstop
    have hskip : skipComment css stop index = .ok ⟨_, hahead⟩ := by
      refine forward_eq _ (hend.trans ?_)
      simp only [hu, Lexeme.text, List.length_cons]
      omega
    rw [lexemeAt, charAt_eq hdrop hlt, ok_bind, if_pos ((opensComment_iff hdrop).2 ⟨rfl, rfl⟩), hskip,
      ok_bind]
    exact congrArg (fun t => Except.ok (Lexeme.comment t, _)) htext
  | quoted t =>
    rcases Lexeme.fits_quoted.1 hfits with ⟨q, u, hq, rfl, hu⟩
    have hdrop : css.drop index = q :: (u ++ flatten ls ++ after) := by
      rw [hdrop, List.append_assoc]
      rfl
    have hopen : ¬ opensComment css index = true := by
      rw [opensComment_iff hdrop]
      exact fun h => ne_of_isQuote hq (c := '/') (by decide) h.1.symm
    have hstop : index + 1 + (u ++ flatten ls).length = stop := by
      simp [Lexeme.text] at hbound ⊢
      omega
    have hend := stringEnd_eq hq (drop_succ hdrop) hstop
    have hskip : skipString css stop index = .ok ⟨_, hahead⟩ := by
      rw [skipString, charAt_eq hdrop hlt, ok_bind, hend, ok_bind]
      refine forward_eq _ ?_
      simp only [cutString_of_stringRest hq hu, Lexeme.text, List.length_cons]
      omega
    rw [lexemeAt, charAt_eq hdrop hlt, ok_bind, if_neg hopen, if_pos hq, hskip, ok_bind]
    exact congrArg (fun t => Except.ok (Lexeme.quoted t, _)) htext
  | single c =>
    rcases Lexeme.fits_single.1 hfits with ⟨hq, hc⟩
    have hdrop : css.drop index = c :: (flatten ls ++ after) := hdrop
    -- neither a lexeme nor what stands at the bound begins with a star
    have hopen : ¬ opensComment css index = true := by
      rw [opensComment_iff hdrop]
      rintro ⟨hslash, hstar⟩
      cases hls : flatten ls with
      | nil => exact hafter (by rwa [hls] at hstar)
      | cons d rest => exact hc ⟨hslash, by rwa [hls] at hstar ⊢⟩
    have hnext : forward index (index + 1) stop = .ok ⟨_, hahead⟩ := forward_eq _ rfl
    rw [lexemeAt, charAt_eq hdrop hlt, ok_bind, if_neg hopen, if_neg (by simp [hq]), hnext, ok_bind]
    rfl

end Checked

end GeneratedContent
