import GeneratedContent.Proofs.Css.Outline

/-!
# Stylesheets that are cut short

A stylesheet that is cut short is read as the same lexemes up to the one that the cut goes through, of
which something may be left (`exists_lex_take`). What is left ends no prelude and closes no brace, and
so adds nothing to what stands before it: the blocks of a stylesheet that is cut short are the first
ones of the whole (`blocks_take_prefix`).
-/

namespace GeneratedContent.Css

/-! ## A lexeme that is cut short -/

/-- A comment that is cut before its end has no end. -/
theorem cutComment_take {u next : Text} (h : cutComment (u ++ next) = (u, next)) {k : Nat}
    (hk : k < u.length) : cutComment (u.take k) = (u.take k, []) := by
  induction u generalizing k with
  | nil => exact absurd hk (Nat.not_lt_zero k)
  | cons c u ih =>
    cases k with
    | zero => rfl
    | succ k =>
      have hk' : k < u.length := Nat.lt_of_succ_lt_succ hk
      have hhead : ∀ d ∈ (u.take k).head?, d ∈ (u ++ next).head? := by
        intro d hd
        cases u with
        | nil => simp at hd
        | cons e u => cases k <;> simp_all
      rw [List.cons_append] at h
      by_cases hc : c = '*' ∧ (u ++ next).head? = some '/'
      · -- the end takes up the last two characters, and the cut comes before it is complete
        obtain ⟨t, ht⟩ : ∃ t, u ++ next = '/' :: t := List.head?_eq_some_iff.1 hc.2
        rw [hc.1, ht, cutComment_close] at h
        obtain rfl : ['/'] = u := (List.cons.inj (congrArg Prod.fst h)).2
        obtain rfl : k = 0 := by simpa using hk'
        rw [hc.1]
        rfl
      · rw [cutComment_cons hc] at h
        obtain ⟨hu, hn⟩ : (cutComment (u ++ next)).1 = u ∧ (cutComment (u ++ next)).2 = next := by
          simpa using h
        have hc' : ¬ (c = '*' ∧ (u.take k).head? = some '/') := fun e =>
          hc ⟨e.1, hhead '/' e.2⟩
        rw [List.take_succ_cons, cutComment_cons hc', ih (Prod.ext hu hn) hk']

/-- A string that is cut short goes on to the cut. -/
theorem StringRest.take {q : Char} {u next : Text} (h : StringRest q u next) (k : Nat) :
    StringRest q (u.take k) [] := by
  have hnil : StringRest q [] [] := StringRest.unclosed (by simp)
  induction h generalizing k with
  | unclosed h => simpa using hnil
  | closed =>
    cases k with
    | zero => exact hnil
    | succ k => simpa using StringRest.closed
  | @escape c u next h ih =>
    match k with
    | 0 => exact hnil
    | 1 => exact StringRest.loneEscape
    | k + 2 => exact StringRest.escape (ih k)
  | loneEscape =>
    cases k with
    | zero => exact hnil
    | succ k => simpa using StringRest.loneEscape
  | plain hb hq hn h ih =>
    cases k with
    | zero => exact hnil
    | succ k => exact StringRest.plain hb hq hn (ih k)

/-- What is left of a lexeme that is cut short ends no prelude. -/
theorem Lexeme.Fits.not_endsPrelude_take {l : Lexeme} {next : Text} (h : l.Fits next) {n : Nat}
    (hn : n < l.text.length) : ∀ l' ∈ lex (l.text.take n), l'.endsPrelude = false := by
  cases l with
  | comment t =>
    rcases Lexeme.fits_comment.1 h with ⟨u, rfl, hu⟩
    match n with
    | 0 => simp
    | 1 =>
      -- a slash alone
      intro l' hl'
      have hslash : lex ['/'] = [.single '/'] := by rw [lex_single rfl (by simp), lex_nil]
      obtain rfl : l' = .single '/' := List.mem_singleton.1 (hslash ▸ hl')
      rfl
    | n + 2 =>
      have hcut : cutComment (u.take n) = (u.take n, []) :=
        cutComment_take hu (by simpa [Lexeme.text] using hn)
      show ∀ l' ∈ lex ('/' :: '*' :: u.take n), l'.endsPrelude = false
      rw [lex_comment, hcut, lex_nil]
      simp [Lexeme.endsPrelude]
  | quoted t =>
    rcases Lexeme.fits_quoted.1 h with ⟨q, u, hq, rfl, hu⟩
    cases n with
    | zero => simp
    | succ n =>
      have hcut := cutString_of_stringRest hq (hu.take n)
      rw [List.append_nil] at hcut
      show ∀ l' ∈ lex (q :: u.take n), l'.endsPrelude = false
      rw [lex_quoted _ hq, hcut, lex_nil]
      simp [Lexeme.endsPrelude]
  | single c =>
    obtain rfl : n = 0 := by simpa using hn
    simp

/-! ## Lexemes that are cut short -/

/-- A lexeme that the cut comes behind is still read off. -/
theorem Lexeme.Fits.take {l : Lexeme} {next : Text} (h : l.Fits next) (n : Nat) :
    l.Fits (next.take n) := by
  cases n with
  | zero => exact h.fits_nil
  | succ n => exact h.congr (by cases next <;> rfl)

/-- Behind the lexemes before the cut there is nothing that ends a prelude. -/
theorem Lexed.exists_lex_take {ls : List Lexeme} (h : Lexed ls) (n : Nat) :
    ∃ as bs left, ls = as ++ bs ∧ lex ((flatten ls).take n) = as ++ left ∧
      ∀ l ∈ left, l.endsPrelude = false := by
  induction ls generalizing n with
  | nil => exact ⟨[], [], [], rfl, by simp, by simp⟩
  | cons l ls ih =>
    rcases lexed_cons.1 h with ⟨hl, hls⟩
    by_cases hn : n < l.text.length
    · refine ⟨[], l :: ls, _, rfl, rfl, ?_⟩
      rw [flatten_cons, List.take_append_of_le_length (Nat.le_of_lt hn)]
      exact hl.not_endsPrelude_take hn
    · rcases ih hls (n - l.text.length) with ⟨as, bs, left, rfl, hlex, hleft⟩
      refine ⟨l :: as, bs, left, rfl, ?_, hleft⟩
      rw [flatten_cons, List.take_append, List.take_of_length_le (Nat.le_of_not_lt hn)]
      have hfits : lex (l.text ++ _) = l :: lex _ := hl.take (n - l.text.length)
      rw [hfits, hlex, List.cons_append]

/-- A text that is cut short is read as its first lexemes, and behind them there is nothing that ends
a prelude. -/
theorem exists_lex_take (s : Text) (n : Nat) :
    ∃ as bs left, lex s = as ++ bs ∧ lex (s.take n) = as ++ left ∧
      ∀ l ∈ left, l.endsPrelude = false := by
  have h := (lexed_lex s).exists_lex_take n
  rwa [flatten_lex] at h

/-! ## Blocks before the cut -/

section Left

variable {left : List Lexeme} (hleft : ∀ l ∈ left, l.endsPrelude = false)

include hleft

/-- Lexemes that close no brace do not close a body. -/
theorem cutBody?_append_left (depth : Nat) (ls : List Lexeme) :
    cutBody? depth (ls ++ left) = (cutBody? depth ls).map fun r => (r.1, r.2 ++ left) := by
  fun_induction cutBody? depth ls with
  | case1 depth => simpa [cutBody?] using cutBody?_head_append depth [] hleft
  | case2 depth ls ih => simp [cutBody?, ih, Function.comp_def]
  | case3 ls ho => simp [cutBody?]
  | case4 ls depth ho ih => simp [cutBody?, ih, Function.comp_def]
  | case5 depth l ls ho hc ih => simp [cutBody?, ho, hc, ih, Function.comp_def]

/-- The blocks before a cut are blocks of the whole, and its first ones. -/
theorem scan_append_prefix (offset : Nat) (ls rest : List Lexeme) :
    scan offset (ls ++ left) <+: scan offset (ls ++ rest) := by
  induction ls using scan_induction generalizing offset with
  | filler l ls hl ih =>
    rw [List.cons_append, List.cons_append, scan_filler _ _ hl, scan_filler _ _ hl]
    exact ih _
  | tail head hhead =>
    have hnone : ∀ l ∈ head ++ left, l.endsPrelude = false := fun l hl =>
      (List.mem_append.1 hl).elim (hhead l) (hleft l)
    rw [scan_tail offset hnone]
    exact List.nil_prefix
  | loose head mark after hhead hmark hopen ih =>
    rw [List.append_assoc, List.append_assoc, List.cons_append, List.cons_append,
      scan_loose _ hhead hmark hopen, scan_loose _ hhead hmark hopen]
    exact ih _
  | unclosed head after hhead hnone =>
    -- a brace that is open at the cut may be closed in the whole, but here it ends the reading
    have hnone' : cutBody? 0 (after ++ left) = none := by
      rw [cutBody?_append_left hleft, hnone, Option.map_none]
    rw [List.append_assoc, List.cons_append, scan_unclosed _ hhead hnone']
    exact List.nil_prefix
  | rule head body next hhead hfirst hbody hat ih =>
    rw [List.append_assoc _ _ left, List.append_assoc _ _ rest, List.cons_append, List.cons_append,
      scan_rule _ hhead hfirst hbody hat, scan_rule _ hhead hfirst hbody hat]
    exact (List.prefix_cons_inj _).2 (ih _)
  | group head body next hhead hfirst hbody hat ihbody ihnext =>
    rw [List.append_assoc _ _ left, List.append_assoc _ _ rest, List.cons_append, List.cons_append,
      scan_group _ hhead hfirst hbody hat, scan_group _ hhead hfirst hbody hat]
    exact (List.prefix_append_right_inj _).2 (ihnext _)

end Left

/-- The blocks of a stylesheet that is cut short anywhere are the first blocks of the whole, as they
are and where they stand. -/
theorem blocks_take_prefix (css : Text) (n : Nat) : blocks (css.take n) <+: blocks css := by
  rcases exists_lex_take css n with ⟨as, bs, left, hlex, hcut, hleft⟩
  rw [blocks, blocks, hlex, hcut]
  exact scan_append_prefix hleft 0 as bs

/-- A cut in an at-rule leaves nothing of it, also where a rule in it is complete. -/
example :
    blocks ("a\x7b/*\x7d*/\x7d@media print\x7bb\x7b\x7dc\x7b\x7d\x7d".toList.take 24) =
      [⟨['a'], "/*\x7d*/".toList, 0, 8⟩] := by
  decide +kernel

end GeneratedContent.Css
