import GeneratedContent.Proofs.Css.Closing

/-!
# Pieces of a text

A text is cut only where nothing is open, so that nothing is lost and each piece is one piece when it is
read by itself (`splitTopLevel_of_mem`). Behind a separator other text is split by itself just when what
comes before it leaves nothing open (`leavesNothingOpen_iff`): an open string or comment takes the
separator in (`exists_lex_concat_of_open`), and an open bracket keeps it from separating. So the pieces
that end at a separator are those that leave nothing open (`ends_iff`).
-/

namespace GeneratedContent.Css

/-! ## Pieces by themselves -/

section Pieces

variable {sep : Char}

@[simp] theorem splitTopLevel_nil : splitTopLevel sep [] = [[]] := by
  rw [splitTopLevel, lex_nil, splitLexemes]

/-- A piece of lexemes that read back is one piece by itself. -/
theorem splitTopLevel_of_mem_splitLexemes {ls : List Lexeme} (hls : Lexed ls) {p : Text}
    (hp : p ∈ splitLexemes sep 0 ls) : splitTopLevel sep p = [p] := by
  cases hsep : isOpener sep with
  | true =>
    rw [splitTopLevel, splitLexemes_of_isOpener hsep, flatten_lex]
  | false =>
    generalize hps : splitLexemes sep 0 ls = ps at hp
    induction ps generalizing ls with
    | nil => exact absurd hp List.not_mem_nil
    | cons piece ps ih =>
      cases ps with
      | nil =>
        -- the last piece is all that is left
        have hflat : flatten ls = piece := by
          rw [← intercalate_splitLexemes sep 0 ls, hps, List.intercalate_singleton]
        rw [List.mem_singleton.1 hp, splitTopLevel, ← hflat, hls, hps, hflat]
      | cons q ps =>
        -- the lexemes before the separator and those behind it read back
        rcases exists_of_splitLexemes hsep hps with ⟨as, bs, rfl, rfl, hbs, has, -⟩
        rcases List.mem_cons.1 hp with rfl | hp
        · have hlexed : Lexed as := hls.of_append_left
          rw [splitTopLevel, hlexed, has]
        · exact ih (lexed_cons.1 hls.of_append).2 hbs hp

theorem splitTopLevel_of_mem {s p : Text} (hp : p ∈ splitTopLevel sep s) :
    splitTopLevel sep p = [p] :=
  splitTopLevel_of_mem_splitLexemes (lexed_lex s) hp

end Pieces

/-! ## What is open takes in the next character -/

/-- An open string goes on with a character that is no line break. -/
theorem StringRest.concat {q c : Char} {u next : Text} (h : StringRest q u next)
    (hopen : closesString q u = false) (hc : c ≠ '\n') : StringRest q (u ++ [c]) [] := by
  have hnil : StringRest q [] [] := StringRest.unclosed (by simp)
  induction h with
  | unclosed h =>
    by_cases hb : c = '\\'
    · rw [hb]
      exact StringRest.loneEscape
    · by_cases hq : c = q
      · rw [hq]
        exact StringRest.closed
      · exact StringRest.plain hb hq hc hnil
  | closed => simp [closesString] at hopen
  | escape h ih => exact StringRest.escape (ih hopen)
  | loneEscape => exact StringRest.escape hnil
  | plain hb hq hn h ih =>
    rw [closesString_cons hb, Bool.or_eq_false_iff] at hopen
    exact StringRest.plain hb hq hn (ih hopen.2)

/-- An open comment goes on with any character. -/
theorem cutComment_concat {u : Text} (h : cutComment u = (u, [])) (hopen : ¬ "*/".toList <:+ u)
    (c : Char) : cutComment (u ++ [c]) = (u ++ [c], []) := by
  induction u with
  | nil => rw [List.nil_append, cutComment_cons (by simp), cutComment]
  | cons d u ih =>
    by_cases hd : d = '*' ∧ u.head? = some '/'
    · -- there the comment would end
      obtain ⟨v, rfl⟩ : ∃ v, u = '/' :: v := List.head?_eq_some_iff.1 hd.2
      rw [hd.1, cutComment_close] at h
      have hv : v = [] := congrArg Prod.snd h
      rw [hd.1, hv] at hopen
      exact absurd List.suffix_rfl hopen
    · rw [cutComment_cons hd] at h
      obtain ⟨hu, hnone⟩ : (cutComment u).1 = u ∧ (cutComment u).2 = [] := by simpa using h
      have hrest := ih (Prod.ext hu hnone) fun hend => hopen (hend.trans (List.suffix_cons d u))
      by_cases hd' : d = '*' ∧ (u ++ [c]).head? = some '/'
      · -- here the character is the end of the comment
        obtain rfl : u = [] := by
          cases u with
          | nil => rfl
          | cons e u => exact absurd hd' hd
        obtain rfl : c = '/' := by simpa using hd'.2
        rw [hd'.1]
        rfl
      · rw [List.cons_append, cutComment_cons hd', hrest]

/-- An open string or comment takes in a character that is no line break. -/
theorem Lexeme.Fits.exists_concat {l : Lexeme} (h : l.Fits []) (hopen : l.isClosed = false) {c : Char}
    (hc : c ≠ '\n') : ∃ k : Lexeme, k.Fits [] ∧ k.text = l.text ++ [c] ∧ k.isSolid = true := by
  cases l with
  | comment t =>
    rcases Lexeme.fits_comment.1 h with ⟨u, rfl, hu⟩
    rw [List.append_nil] at hu
    have hend : ¬ "*/".toList <:+ u := by
      rw [← Bool.not_eq_true] at hopen
      simpa [isClosed] using hopen
    have hcut := cutComment_concat hu hend c
    refine ⟨.comment ('/' :: '*' :: (u ++ [c])), Lexeme.fits_comment.2 ⟨u ++ [c], rfl, ?_⟩, rfl, rfl⟩
    rwa [List.append_nil]
  | quoted t =>
    rcases Lexeme.fits_quoted.1 h with ⟨q, u, hq, rfl, hu⟩
    exact ⟨.quoted (q :: (u ++ [c])), Lexeme.fits_quoted.2 ⟨q, u ++ [c], hq, rfl, hu.concat hopen hc⟩,
      rfl, rfl⟩
  | single d => simp [isClosed] at hopen

/-- Behind an open string or comment, a character that is no line break is no lexeme of its own. -/
theorem exists_lex_concat_of_open {s : Text} (hopen : ¬ EndsClosed s) {c : Char} (hc : c ≠ '\n') :
    ∃ ls l k, lex s = ls ++ [l] ∧ lex (s ++ [c]) = ls ++ [k] ∧ l.isSolid = true ∧ k.isSolid = true := by
  obtain ⟨l, hlast, hlopen⟩ : ∃ l, (lex s).getLast? = some l ∧ l.isClosed = false := by
    simpa [EndsClosed] using hopen
  obtain ⟨ls, hlex⟩ := List.getLast?_eq_some_iff.1 hlast
  have hlexed : Lexed (ls ++ [l]) := hlex ▸ lexed_lex s
  have hl : l.Fits [] := (lexed_cons.1 hlexed.of_append).1
  have hsolid : l.isSolid = true := by
    cases l with
    | single d => simp [Lexeme.isClosed] at hlopen
    | _ => rfl
  rcases hl.exists_concat hlopen hc with ⟨k, hk, htext, hksolid⟩
  refine ⟨ls, l, k, hlex, ?_, hsolid, hksolid⟩
  -- what comes before sees the same first character
  have hlexed' : Lexed (ls ++ [k]) := by
    refine hlexed.replace (lexed_cons.2 ⟨hk, lexed_nil⟩) ?_
    rw [flatten_cons, flatten_cons, htext, List.append_assoc, hl.head?_append, hl.head?_append]
  have hflat : flatten (ls ++ [k]) = s ++ [c] := by
    rw [flatten_append, flatten_cons, htext, ← flatten_lex s, hlex, flatten_append, flatten_cons]
    simp
  rw [← hflat, hlexed']

/-! ## Text behind a separator -/

/-- Whether a character separates pieces behind every text that leaves nothing open, and only there. -/
structure IsSeparator (c : Char) : Prop where
  /-- It begins no string. -/
  isQuote_eq : isQuote c = false
  /-- It opens no bracket. -/
  isOpener_eq : isOpener c = false
  /-- It begins no comment with what follows. -/
  ne_slash : c ≠ '/'
  /-- It begins no comment with what comes before. -/
  ne_star : c ≠ '*'
  /-- It ends no string that is open. -/
  ne_lineBreak : c ≠ '\n'

instance (c : Char) : Decidable (IsSeparator c) :=
  decidable_of_iff (isQuote c = false ∧ isOpener c = false ∧ c ≠ '/' ∧ c ≠ '*' ∧ c ≠ '\n')
    ⟨fun h => ⟨h.1, h.2.1, h.2.2.1, h.2.2.2.1, h.2.2.2.2⟩,
      fun h => ⟨h.isQuote_eq, h.isOpener_eq, h.ne_slash, h.ne_star, h.ne_lineBreak⟩⟩

section Seam

variable {sep : Char} {depth : Nat} {s : Text}

/-- Lexemes are as many pieces with one more at their end, unless that is a separator outside the
brackets. -/
theorem length_splitLexemes_concat (hsep : isOpener sep = false) (ls : List Lexeme) {l : Lexeme}
    (hl : ¬ (l = .single sep ∧ ls.foldl Lexeme.depthAfter depth = 0)) :
    (splitLexemes sep depth (ls ++ [l])).length = (splitLexemes sep depth ls).length := by
  rcases exists_splitLexemes_eq sep depth ls with ⟨ps, p, hpieces⟩
  rw [splitLexemes_append hsep hpieces, splitLexemes_cons hl, splitLexemes, hpieces]
  simp [Text.attach]

/-- Behind a text that leaves nothing open and a separator, other text is split by itself. -/
theorem splitTopLevel_append_separator (hsep : IsSeparator sep) (h : LeavesNothingOpen s) (t : Text) :
    splitTopLevel sep (s ++ sep :: t) = splitTopLevel sep s ++ splitTopLevel sep t := by
  have hstar : (sep :: t).head? ≠ some '*' := by simpa using hsep.ne_star
  have hbehind : splitTopLevel sep (sep :: t) = [] :: splitTopLevel sep t := by
    rw [splitTopLevel, lex_single hsep.isQuote_eq fun e => hsep.ne_slash e.1,
      splitLexemes_separator hsep.isOpener_eq, splitTopLevel]
  rcases exists_splitTopLevel_eq sep s with ⟨ps, p, hpieces⟩
  rw [splitTopLevel_append hsep.isOpener_eq h hstar hpieces, hbehind, hpieces]
  simp [Text.attach]

/-- A separator makes one more piece behind a text that leaves nothing open only. -/
theorem leavesNothingOpen_of_length (hsep : IsSeparator sep)
    (h : (splitTopLevel sep (s ++ [sep])).length = (splitTopLevel sep s).length + 1) :
    LeavesNothingOpen s := by
  have hclosed : EndsClosed s := by
    by_contra hopen
    rcases exists_lex_concat_of_open hopen hsep.ne_lineBreak with ⟨ls, l, k, hls, hlk, hl, hk⟩
    have hsolid : ∀ j : Lexeme, j.isSolid = true →
        ¬ (j = .single sep ∧ ls.foldl Lexeme.depthAfter 0 = 0) := by
      rintro j hj ⟨rfl, -⟩
      exact absurd hj (by simp [Lexeme.isSolid])
    -- both texts are as many pieces as what comes before the open lexeme
    rw [splitTopLevel, splitTopLevel, hls, hlk,
      length_splitLexemes_concat hsep.isOpener_eq ls (hsolid l hl),
      length_splitLexemes_concat hsep.isOpener_eq ls (hsolid k hk)] at h
    omega
  refine ⟨hclosed, ?_⟩
  by_contra hdepth
  have hlex : lex (s ++ [sep]) = lex s ++ [.single sep] := by
    rw [lex_append hclosed (by simpa using hsep.ne_star), lex_single hsep.isQuote_eq (by simp), lex_nil]
  -- the separator stands in the brackets that are open
  rw [splitTopLevel, splitTopLevel, hlex,
    length_splitLexemes_concat hsep.isOpener_eq (lex s) fun e => hdepth e.2] at h
  omega

/-- Behind a separator other text is split by itself just when what comes before leaves nothing open. -/
theorem leavesNothingOpen_iff (hsep : IsSeparator sep) :
    LeavesNothingOpen s ↔
      ∀ t, splitTopLevel sep (s ++ sep :: t) = splitTopLevel sep s ++ splitTopLevel sep t := by
  constructor
  · exact splitTopLevel_append_separator hsep
  · intro h
    apply leavesNothingOpen_of_length hsep
    rw [h [], List.length_append, splitTopLevel_nil, List.length_singleton]

/-- A piece ends at a separator just when it is one piece and leaves nothing open. -/
theorem ends_iff (hsep : IsSeparator sep) :
    Ends sep s ↔ splitTopLevel sep s = [s] ∧ LeavesNothingOpen s := by
  constructor
  · intro h
    have hsealed : (Lexeme.single sep).Sealed := Lexeme.sealed_single hsep.isQuote_eq hsep.ne_slash
    rcases (splitTopLevel_cons_iff hsep.isOpener_eq hsealed).1 h with ⟨⟨hpiece, -⟩, -⟩
    refine ⟨hpiece, leavesNothingOpen_of_length hsep ?_⟩
    rw [h, hpiece]
    rfl
  · rintro ⟨hpiece, hopen⟩
    rw [Ends, splitTopLevel_append_separator hsep hopen, hpiece, splitTopLevel_nil]
    rfl

end Seam

/-- For every separator, the pieces of a text are the text again when they are joined, and each of them is
one piece. Text behind a separator that is no quote, no opening bracket, no slash, no star and no line
break is split by itself just when the text before it leaves nothing open. -/
theorem splitTopLevel_lossless (sep : Char) :
    (∀ s, List.intercalate [sep] (splitTopLevel sep s) = s) ∧
      (∀ s, ∀ p ∈ splitTopLevel sep s, splitTopLevel sep p = [p]) ∧
      (IsSeparator sep → ∀ s, LeavesNothingOpen s ↔
        ∀ t, splitTopLevel sep (s ++ sep :: t) = splitTopLevel sep s ++ splitTopLevel sep t) :=
  ⟨intercalate_splitTopLevel sep, fun _ _ hp => splitTopLevel_of_mem hp,
    fun hsep _ => leavesNothingOpen_iff hsep⟩

/-- Semicolons in a string and in brackets separate nothing. The declaration behind a closed string is
split by itself; behind one that is open it is not. -/
theorem splitTopLevel_lossless_url :
    let closed := "content: \"a;b\"".toList
    let opened := "content: \"a;b".toList
    let behind := " background: url(data:image/png;base64,xyz); color: red".toList
    let url := " background: url(data:image/png;base64,xyz)".toList
    IsSeparator ';' ∧ LeavesNothingOpen closed ∧ ¬ LeavesNothingOpen opened ∧
      splitTopLevel ';' (closed ++ ';' :: behind) = [closed, url, " color: red".toList] ∧
      url ∈ splitTopLevel ';' (closed ++ ';' :: behind) ∧ splitTopLevel ';' url = [url] ∧
      ∃ t, splitTopLevel ';' (opened ++ ';' :: t) ≠
        splitTopLevel ';' opened ++ splitTopLevel ';' t := by
  intro closed opened behind url
  have hsep : IsSeparator ';' := by decide
  have hclosed : LeavesNothingOpen closed := by decide +kernel
  have hopened : ¬ LeavesNothingOpen opened := by decide +kernel
  rcases splitTopLevel_lossless ';' with ⟨-, hpiece, hseam⟩
  have hpieces : splitTopLevel ';' (closed ++ ';' :: behind) = [closed, url, " color: red".toList] := by
    rw [(hseam hsep closed).1 hclosed behind]
    decide +kernel
  have hurl : url ∈ splitTopLevel ';' (closed ++ ';' :: behind) := by
    rw [hpieces]
    exact List.mem_cons_of_mem _ List.mem_cons_self
  have hne : ∃ t, splitTopLevel ';' (opened ++ ';' :: t) ≠
      splitTopLevel ';' opened ++ splitTopLevel ';' t := by
    by_contra hall
    exact hopened ((hseam hsep opened).2 fun t => not_not.1 fun ht => hall ⟨t, ht⟩)
  exact ⟨hsep, hclosed, hopened, hpieces, hurl, hpiece _ url hurl, hne⟩

end GeneratedContent.Css
