import GeneratedContent.Content.Token
import GeneratedContent.Content.Reader

/-!
# Tokens before more text

A token is read off the front of a value as it is written, whatever text follows it. So a row of tokens
can be read one by one. A string is written with its quotes, its backslashes and its line breaks as
escapes, and taking the quotes off and decoding the escapes gives the text back (`unquote_stringText`).
-/

namespace GeneratedContent.Content

/-! ## Strings -/

/-- How a character is written between quotes: a line break by its number, the quote and the backslash
behind a backslash. -/
def quotedChar (quote c : Char) : Text :=
  if c = '\n' then ['\\', 'a', ' ']
  else if c = '\\' ∨ c = quote then ['\\', c]
  else [c]

/-- What stands between the quotes of a string. -/
def stringInner (quote : Char) (s : Text) : Text := s.flatMap (quotedChar quote)

/-- A text as a string. -/
def stringText (quote : Char) (s : Text) : Text := quote :: (stringInner quote s ++ [quote])

theorem decodeEscapes_cons {c : Char} (h : c ≠ '\\') (s : Text) :
    decodeEscapes (c :: s) = c :: decodeEscapes s := by
  rw [decodeEscapes]
  · exact fun hc _ => h hc
  · exact fun _ _ hc _ => h hc

theorem decodeEscapes_escape {c : Char} (hhex : isHexDigit c = false) (hbreak : c ≠ '\n')
    (s : Text) : decodeEscapes ('\\' :: c :: s) = c :: decodeEscapes s := by
  rw [decodeEscapes, hhex]
  simp [hbreak]

/-- A line break is written by its number. -/
theorem decodeEscapes_lineBreak (s : Text) :
    decodeEscapes ('\\' :: 'a' :: ' ' :: s) = '\n' :: decodeEscapes s := by
  have hdigits : Text.escapeDigits ('a' :: ' ' :: s) = ['a'] := by
    have ha : isHexDigit 'a' = true := by decide
    have hspace : isHexDigit ' ' = false := by decide
    simp [Text.escapeDigits, ha, hspace]
  have ha : isHexDigit 'a' = true := by decide
  have hnumber : namedChar (Text.toNumber 16 ['a']) = '\n' := by decide
  rw [decodeEscapes, if_pos ha, hdigits, hnumber]
  rfl

theorem decodeEscapes_stringInner {quote : Char} (hquote : quote = '"' ∨ quote = '\'') (s : Text) :
    decodeEscapes (stringInner quote s) = s := by
  induction s with
  | nil => simp [stringInner, decodeEscapes]
  | cons c s ih =>
    rw [stringInner, List.flatMap_cons, quotedChar]
    -- a character stands for itself, behind a backslash or without one, unless it breaks the line
    split
    · rename_i hbreak
      rw [hbreak]
      exact (decodeEscapes_lineBreak _).trans (congrArg _ ih)
    · rename_i hbreak
      split
      · rename_i hescaped
        have hhex : isHexDigit c = false := by
          rcases hescaped with rfl | rfl
          · decide
          · rcases hquote with rfl | rfl <;> decide
        exact (decodeEscapes_escape hhex hbreak _).trans (congrArg _ ih)
      · rename_i hplain
        exact (decodeEscapes_cons (fun h => hplain (Or.inl h)) _).trans (congrArg _ ih)

/-- Quoting a text can be undone. -/
theorem unquote_stringText {quote : Char} (hquote : quote = '"' ∨ quote = '\'') (s : Text) :
    unquote (stringText quote s) = s := by
  have hinner : betweenQuotes (stringText quote s) = stringInner quote s := by
    simp [betweenQuotes, stringText, hquote]
  rw [unquote, hinner, decodeEscapes_stringInner hquote]

namespace Token

theorem cutString_cons {quote c : Char} (h : c ≠ '\\') (s : Text) :
    cutString quote (c :: s) =
      if c = quote then ([c], s) else (c :: (cutString quote s).1, (cutString quote s).2) := by
  rw [cutString]
  · exact fun hc _ => h hc
  · exact fun _ _ hc _ => h hc

/-- A string ends at its closing quote. -/
theorem cutString_stringInner {quote : Char} (hquote : quote = '"' ∨ quote = '\'') (s rest : Text) :
    cutString quote (stringInner quote s ++ quote :: rest) =
      (stringInner quote s ++ [quote], rest) := by
  have hne : quote ≠ '\\' := by
    rcases hquote with rfl | rfl <;> decide
  induction s with
  | nil => simp [stringInner, cutString_cons hne]
  | cons c s ih =>
    rw [stringInner, List.flatMap_cons, quotedChar]
    rw [stringInner] at ih
    split
    · have hspace : ' ' ≠ quote := by
        rcases hquote with rfl | rfl <;> decide
      simp [cutString, ih, hspace]
    · split
      · simp [cutString, ih]
      · rename_i hplain
        rw [not_or] at hplain
        simp [cutString_cons hplain.1, hplain.2, ih]

/-! ## Reading one token after another -/

theorem read_string {quote : Char} (hquote : quote = '"' ∨ quote = '\'') (s : Text) :
    read (quote :: s) =
      .quoted (quote :: (cutString quote s).1) :: read (cutString quote s).2 := by
  rw [read, if_pos hquote]

theorem read_stringText {quote : Char} (hquote : quote = '"' ∨ quote = '\'') (s rest : Text) :
    read (stringText quote s ++ rest) = .quoted (stringText quote s) :: read rest := by
  have happend : stringText quote s ++ rest = quote :: (stringInner quote s ++ quote :: rest) := by
    simp [stringText]
  rw [happend, read_string hquote, cutString_stringInner hquote]
  rfl

/-- A call as it is written. -/
def callText (name arguments : Text) : Text := name ++ '(' :: arguments ++ [')']

/-- A call ends at its first closing bracket. -/
theorem cutCall?_callText {name arguments : Text} (hne : name ≠ [])
    (hname : ∀ c ∈ name, isNameChar c = true) (hclose : ')' ∉ arguments) (rest : Text) :
    cutCall? (callText name arguments ++ rest) =
      some (.call name arguments (callText name arguments), rest) := by
  have hopen : isNameChar '(' = false := by decide
  have hblank : isBlank '(' = false := by decide
  have hinner : ∀ c ∈ arguments, (c != ')') = true := by
    intro c hc
    rw [bne_iff_ne]
    rintro rfl
    exact hclose hc
  have happend : callText name arguments ++ rest = name ++ '(' :: (arguments ++ ')' :: rest) := by
    simp [callText]
  have htake : (callText name arguments ++ rest).takeWhile isNameChar = name := by
    rw [happend, List.takeWhile_append_of_pos hname]
    simp [hopen]
  have hdrop : (callText name arguments ++ rest).dropWhile isNameChar =
      '(' :: (arguments ++ ')' :: rest) := by
    rw [happend, List.dropWhile_append_of_pos hname]
    simp [hopen]
  have harguments : (arguments ++ ')' :: rest).takeWhile (· != ')') = arguments := by
    rw [List.takeWhile_append_of_pos hinner]
    simp
  have hrest : (arguments ++ ')' :: rest).dropWhile (· != ')') = ')' :: rest := by
    rw [List.dropWhile_append_of_pos hinner]
    simp
  unfold cutCall?
  simp only [htake, hdrop, if_neg hne]
  rw [List.dropWhile_cons_of_neg (by simp [hblank]), List.takeWhile_cons_of_neg (by simp [hblank])]
  simp [harguments, hrest, callText]

/-- What is read as a call is one. -/
theorem exists_call_of_cutCall? {s rest : Text} {t : Token} (h : cutCall? s = some (t, rest)) :
    ∃ name arguments written, t = .call name arguments written := by
  unfold cutCall? at h
  simp only at h
  split at h
  · exact absurd h (by simp)
  · split at h
    · split at h
      all_goals exact ⟨_, _, _, (Prod.mk.inj (Option.some.inj h)).1.symm⟩
    · exact absurd h (by simp)

/-- No name of a function begins like a string. -/
theorem not_quote_of_isNameChar {c : Char} (h : isNameChar c = true) : ¬ (c = '"' ∨ c = '\'') := by
  rintro (rfl | rfl) <;> exact absurd h (by decide)

theorem read_callText {name arguments : Text} (hne : name ≠ [])
    (hname : ∀ c ∈ name, isNameChar c = true) (hclose : ')' ∉ arguments) (rest : Text) :
    read (callText name arguments ++ rest) =
      .call name arguments (callText name arguments) :: read rest := by
  have hcut := cutCall?_callText hne hname hclose rest
  rcases List.exists_cons_of_ne_nil hne with ⟨c, s, rfl⟩
  have hcons : callText (c :: s) arguments ++ rest = c :: (s ++ '(' :: arguments ++ [')'] ++ rest) := by
    simp [callText]
  have hquote := not_quote_of_isNameChar (hname c List.mem_cons_self)
  rw [hcons] at hcut ⊢
  rw [read, if_neg hquote]
  split
  · rename_i token rest' h
    rw [hcut] at h
    rcases Prod.mk.inj (Option.some.inj h) with ⟨rfl, rfl⟩
    rfl
  · rename_i h
    rw [hcut] at h
    exact absurd h (by simp)

/-- A space belongs to no token. -/
theorem read_space (rest : Text) : read (' ' :: rest) = read rest := by
  have hcut : cutCall? (' ' :: rest) = none := by
    have hname : isNameChar ' ' = false := by decide
    simp [cutCall?, hname]
  have hpart : isWordPart ' ' = false := by decide
  rw [read, if_neg (by decide)]
  split
  · rename_i h
    rw [hcut] at h
    exact absurd h (by simp)
  · rw [if_neg (by rw [hpart]; decide)]

end Token

end GeneratedContent.Content
