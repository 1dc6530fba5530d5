import GeneratedContent.Proofs.Content.Items
import GeneratedContent.Proofs.Text.Words

/-!
# Strings among the arguments of a function

The arguments of a call end at the first closing bracket and are parted at the commas, in a string as
anywhere else. So a string between the arguments is passed over only as long as it has neither: behind a
closing bracket the rest of the string is read as more of the value, and always states something
(`filterMap_ofToken?_rest`), and a comma moves the arguments that follow.
-/

namespace GeneratedContent.Content

/-! ## Arguments -/

/-- The name of a counter or an attribute among arguments. -/
structure ArgumentName where
  /-- The name as text. -/
  text : Text
  /-- The name is not empty. -/
  ne_nil : text ≠ []
  /-- There is no blank in it. -/
  isBlank_eq : ∀ c ∈ text, isBlank c = false
  /-- There is no comma in it. -/
  notMem_comma : ',' ∉ text
  /-- There is no closing bracket in it. -/
  notMem_close : ')' ∉ text

/-- A text as it is written in a string: quotes and backslashes behind a backslash. -/
def escaped (quote : Char) (s : Text) : Text :=
  s.flatMap fun c => if c = quote ∨ c = '\\' then ['\\', c] else [c]

/-- A text as a string literal. -/
def stringLiteral (quote : Char) (s : Text) : Text := quote :: (escaped quote s ++ [quote])

/-- The arguments with a name, a string and a numbering style, if one is given. -/
def argumentsText (name : ArgumentName) (quote : Char) (s : Text) (style : Option StyleName) : Text :=
  name.text ++ ',' :: ' ' :: (stringLiteral quote s ++ Item.styleText style)

/-- The numbering style that a text in the place of the separator names: what stands between its first two
commas. -/
def separatorStyle (s : Text) : Text :=
  match Text.splitAt ',' s with
  | _ :: style :: _ :: _ => styleOfArgument (some (Text.trim style))
  | _ => "decimal".toList

section Escaped

variable {quote : Char}

theorem escaped_cons_of_marked {c : Char} (h : c = quote ∨ c = '\\') (s : Text) :
    escaped quote (c :: s) = '\\' :: c :: escaped quote s := by
  rw [escaped, List.flatMap_cons, if_pos h, escaped]
  rfl

theorem escaped_cons_of_not {c : Char} (h : ¬(c = quote ∨ c = '\\')) (s : Text) :
    escaped quote (c :: s) = c :: escaped quote s := by
  rw [escaped, List.flatMap_cons, if_neg h, escaped]
  rfl

theorem escaped_append (s t : Text) : escaped quote (s ++ t) = escaped quote s ++ escaped quote t :=
  List.flatMap_append

/-- Without quotes and backslashes a text is written as it is. -/
theorem escaped_of_forall {s : Text} (h : ∀ c ∈ s, ¬(c = quote ∨ c = '\\')) :
    escaped quote s = s := by
  induction s with
  | nil => rfl
  | cons c s ih =>
    rw [List.forall_mem_cons] at h
    rw [escaped_cons_of_not h.1, ih h.2]

theorem mem_escaped_iff {c : Char} (h : c ≠ '\\') (s : Text) : c ∈ escaped quote s ↔ c ∈ s := by
  rw [escaped, List.mem_flatMap]
  constructor
  · rintro ⟨d, hd, hc⟩
    split at hc
    · rw [List.mem_cons, List.mem_singleton] at hc
      exact (hc.resolve_left h) ▸ hd
    · exact (List.mem_singleton.1 hc) ▸ hd
  · intro hc
    refine ⟨c, hc, ?_⟩
    split
    · exact List.mem_cons_of_mem _ List.mem_cons_self
    · exact List.mem_cons_self

/-- A quote or a backslash of a text leaves a backslash in what is written. -/
theorem backslash_mem_escaped {s : Text} {c : Char} (hc : c ∈ s) (h : c = quote ∨ c = '\\') :
    '\\' ∈ escaped quote s := by
  rw [escaped, List.mem_flatMap]
  refine ⟨c, hc, ?_⟩
  rw [if_pos h]
  exact List.mem_cons_self

end Escaped

/-! ## Texts that name no numbering style -/

/-- A text with a quote or a backslash in it names no numbering style. -/
theorem styleOfArgument_of_mem {c : Char} (hc : c = '"' ∨ c = '\'' ∨ c = '\\') {s : Text}
    (h : c ∈ s) : styleOfArgument (some (Text.trim s)) = "decimal".toList := by
  have hmark : isBlank c = false ∧ Text.isLoweredAscii c = true ∧ (c.isLower || c == '-') = false := by
    rcases hc with rfl | rfl | rfl <;> decide
  have hmem := Text.mem_lower hmark.2.1 (Text.mem_trim hmark.1 h)
  have hnone : isStyleName (Text.lower (Text.trim s)) = false := by
    rw [Bool.eq_false_iff]
    intro hstyle
    rw [isStyleName, Bool.and_eq_true, List.all_eq_true] at hstyle
    have hchar := hstyle.2 c hmem
    rw [hmark.2.2] at hchar
    exact absurd hchar (by decide)
  rw [styleOfArgument]
  simp only [Option.getD_some, hnone]
  rfl

theorem styleOfArgument_escaped {quote : Char} (hquote : quote = '"' ∨ quote = '\'') (s : Text) :
    styleOfArgument (some (Text.trim (escaped quote s))) = styleOfArgument (some (Text.trim s)) := by
  by_cases hmarked : ∃ c ∈ s, c = quote ∨ c = '\\'
  · rcases hmarked with ⟨c, hmem, hc⟩
    have hmark : c = '"' ∨ c = '\'' ∨ c = '\\' := by
      rcases hc with rfl | rfl
      · exact hquote.imp_right Or.inl
      · exact Or.inr (Or.inr rfl)
    rw [styleOfArgument_of_mem (Or.inr (Or.inr rfl)) (backslash_mem_escaped hmem hc),
      styleOfArgument_of_mem hmark hmem]
  · rw [escaped_of_forall fun c hc h => hmarked ⟨c, hc, h⟩]

/-! ## Strings that are parted at commas -/

/-- A text has no comma, one comma, or two in front of the rest. -/
theorem exists_commas (s : Text) :
    ',' ∉ s ∨ (∃ a b, s = a ++ ',' :: b ∧ ',' ∉ a ∧ ',' ∉ b) ∨
      ∃ a b rest, s = a ++ ',' :: (b ++ ',' :: rest) ∧ ',' ∉ a ∧ ',' ∉ b := by
  by_cases hs : ',' ∈ s
  · rcases List.eq_append_cons_of_mem hs with ⟨a, t, rfl, ha⟩
    by_cases ht : ',' ∈ t
    · rcases List.eq_append_cons_of_mem ht with ⟨b, rest, rfl, hb⟩
      exact Or.inr (Or.inr ⟨a, b, rest, rfl, ha, hb⟩)
    · exact Or.inr (Or.inl ⟨a, t, rfl, ha, ht⟩)
  · exact Or.inl hs

/-- A numbering style behind a text without commas is an argument of its own. -/
theorem splitAt_styleText {u : Text} (hu : ',' ∉ u) (style : Option StyleName) :
    Text.splitAt ',' (u ++ Item.styleText style) =
      u :: (style.map fun style => ' ' :: style.text).toList := by
  cases style with
  | none => rw [Item.styleText, List.append_nil, splitAt_of_notMem hu]; rfl
  | some style =>
    have hstyle : ',' ∉ ' ' :: style.text := by
      rw [List.mem_cons, not_or]
      refine ⟨by decide, ?_⟩
      intro hmem
      exact (of_isIdentifierChar (style.isIdentifierChar ',' hmem)).2.1 rfl
    rw [Item.styleText, splitAt_append hu, splitAt_of_notMem hstyle]
    rfl

theorem styleOfArgument_style (style : Option StyleName) :
    styleOfArgument ((style.map fun style => ' ' :: style.text).toList.map Text.trim)[0]? =
      Item.styleOf style := by
  have htrim : ((style.map fun style => ' ' :: style.text).toList.map Text.trim) =
      (style.map StyleName.text).toList := by
    cases style with
    | none => rfl
    | some style =>
      have hspace : Text.trim (' ' :: style.text) = Text.trim style.text :=
        Text.trim_cons_blank _ (by decide)
      rw [Option.map_some, Option.toList_some, List.map_singleton, hspace,
        trim_of_isIdentifierChar style.isIdentifierChar]
      rfl
  rw [htrim, styleOfArgument_styleOf]

/-- The arguments in front of a numbering style: the name, and the pieces of the string. The style that the
call states is the one behind the string if the string has no comma, and otherwise the one in it. -/
theorem argumentsOf_argumentsText {quote : Char} (hquote : quote = '"' ∨ quote = '\'')
    (name : ArgumentName) (s : Text) (style : Option StyleName) :
    ∃ others, argumentsOf (argumentsText name quote s style) = (name.text, others) ∧
      styleOfArgument others[1]? = if ',' ∈ s then separatorStyle s else Item.styleOf style := by
  have hne : ',' ≠ quote := by rcases hquote with rfl | rfl <;> decide
  have hescaped : ∀ {u : Text}, ',' ∉ u → ',' ∉ escaped quote u := by
    intro u hu
    rwa [mem_escaped_iff (by decide)]
  have hopened : ∀ {u : Text}, ',' ∉ u → ',' ∉ ' ' :: quote :: escaped quote u := by
    intro u hu
    rw [List.mem_cons, List.mem_cons, not_or, not_or]
    exact ⟨by decide, hne, hescaped hu⟩
  have hclosed : ∀ {u : Text}, ',' ∉ u → ',' ∉ u ++ [quote] := by
    intro u hu
    rw [List.mem_append, List.mem_singleton, not_or]
    exact ⟨hu, hne⟩
  have hcomma : ∀ u, escaped quote (',' :: u) = ',' :: escaped quote u :=
    escaped_cons_of_not (not_or.2 ⟨hne, by decide⟩)
  have hfirst : argumentsOf (argumentsText name quote s style) = (name.text,
      (Text.splitAt ',' (' ' :: (stringLiteral quote s ++ Item.styleText style))).map Text.trim) := by
    rw [argumentsText, argumentsOf, splitAt_append name.notMem_comma, List.map_cons,
      Text.trim_of_forall name.isBlank_eq]
  refine ⟨_, hfirst, ?_⟩
  rcases exists_commas s with hs | ⟨a, b, rfl, ha, hb⟩ | ⟨a, b, rest, rfl, ha, hb⟩
  · -- the string is one argument
    have hliteral : ' ' :: (stringLiteral quote s ++ Item.styleText style) =
        (' ' :: quote :: escaped quote s ++ [quote]) ++ Item.styleText style := by
      simp [stringLiteral]
    rw [if_neg hs, hliteral, splitAt_styleText (hclosed (hopened hs)), List.map_cons,
      List.getElem?_cons_succ, styleOfArgument_style]
  · -- the second argument ends with the quote
    have hliteral : ' ' :: (stringLiteral quote (a ++ ',' :: b) ++ Item.styleText style) =
        (' ' :: quote :: escaped quote a) ++
          ',' :: ((escaped quote b ++ [quote]) ++ Item.styleText style) := by
      simp [stringLiteral, escaped_append, hcomma]
    have hstyle : separatorStyle (a ++ ',' :: b) = "decimal".toList := by
      rw [separatorStyle, splitAt_append ha, splitAt_of_notMem hb]
    rw [if_pos (by simp), hstyle, hliteral, splitAt_append (hopened ha),
      splitAt_styleText (hclosed (hescaped hb)), List.map_cons, List.map_cons,
      List.getElem?_cons_succ, List.getElem?_cons_zero,
      styleOfArgument_of_mem (hquote.imp_right Or.inl) (by simp)]
  · -- the second argument is what stands between the commas
    have hliteral : ' ' :: (stringLiteral quote (a ++ ',' :: (b ++ ',' :: rest)) ++
          Item.styleText style) =
        (' ' :: quote :: escaped quote a) ++
          ',' :: (escaped quote b ++
            ',' :: (escaped quote rest ++ quote :: Item.styleText style)) := by
      simp [stringLiteral, escaped_append, hcomma]
    have hstyle : separatorStyle (a ++ ',' :: (b ++ ',' :: rest)) =
        styleOfArgument (some (Text.trim b)) := by
      rcases List.exists_cons_of_ne_nil (Text.splitWhere_ne_nil (· == ',') rest) with
        ⟨piece, pieces, hpieces⟩
      rw [separatorStyle, splitAt_append ha, splitAt_append hb, Text.splitAt, hpieces]
    rw [if_pos (by simp), hstyle, hliteral, splitAt_append (hopened ha),
      splitAt_append (hescaped hb), List.map_cons, List.map_cons,
      List.getElem?_cons_succ, List.getElem?_cons_zero, styleOfArgument_escaped hquote]

/-! ## What stands behind a closing bracket in a string -/

/-- A text that begins with no escape stands for something. -/
theorem decodeEscapes_ne_nil {c : Char} (hc : c ≠ '\\') (s : Text) : decodeEscapes (c :: s) ≠ [] := by
  rw [decodeEscapes_cons hc]
  exact List.cons_ne_nil _ _

theorem decodeEscapes_escape_ne_nil {c : Char} (hc : c = '"' ∨ c = '\'' ∨ c = '\\') (s : Text) :
    decodeEscapes ('\\' :: c :: s) ≠ [] := by
  have hmark : isHexDigit c = false ∧ c ≠ '\n' := by
    rcases hc with rfl | rfl | rfl <;> decide
  rw [decodeEscapes_escape hmark.1 hmark.2]
  exact List.cons_ne_nil _ _

/-- What stands between the quotes begins as what stands behind the first one, unless that is a quote. -/
theorem exists_betweenQuotes {quote : Char} (hquote : quote = '"' ∨ quote = '\'') (front : Text)
    (hlast : front.getLast? ≠ some quote) (s : Text) :
    ∃ t, betweenQuotes (quote :: (front ++ s)) = front ++ t := by
  simp only [betweenQuotes, if_pos hquote]
  split
  · rename_i h
    cases s with
    | nil =>
      rw [List.append_nil] at h
      exact absurd h hlast
    | cons c s => exact ⟨_, List.dropLast_append_of_ne_nil (List.cons_ne_nil _ _)⟩
  · exact ⟨s, rfl⟩

theorem unquote_ne_nil {quote c : Char} (hquote : quote = '"' ∨ quote = '\'') (hc : c ≠ '\\')
    (hne : c ≠ quote) (s : Text) : unquote (quote :: c :: s) ≠ [] := by
  rcases exists_betweenQuotes hquote [c] (by simpa using hne) s with
    ⟨t, ht⟩
  rw [unquote, show quote :: c :: s = quote :: ([c] ++ s) from rfl, ht]
  exact decodeEscapes_ne_nil hc t

theorem unquote_escape_ne_nil {quote c : Char} (hquote : quote = '"' ∨ quote = '\'')
    (hc : c = '"' ∨ c = '\'' ∨ c = '\\') (hne : c ≠ quote) (s : Text) :
    unquote (quote :: '\\' :: c :: s) ≠ [] := by
  rcases exists_betweenQuotes hquote ['\\', c] (by simpa using hne) s
    with ⟨t, ht⟩
  rw [unquote, show quote :: '\\' :: c :: s = quote :: (['\\', c] ++ s) from rfl, ht]
  exact decodeEscapes_escape_ne_nil hc t

theorem partsOf_string {quote : Char} (hquote : quote = '"' ∨ quote = '\'') (s : Text)
    (h : unquote (quote :: (Token.cutString quote s).1) ≠ []) : partsOf (quote :: s) ≠ [] := by
  rw [partsOf, Token.read_string hquote, List.filterMap_cons, ofToken?]
  simp only [if_neg h]
  exact List.cons_ne_nil _ _

/-- Any call states a part. -/
theorem exists_ofToken?_call {s rest : Text} {t : Token} (h : Token.cutCall? s = some (t, rest)) :
    ∃ part, ofToken? t = some part := by
  rcases Token.exists_call_of_cutCall? h with ⟨name, arguments, written, rfl⟩
  exact ⟨_, rfl⟩

/-- Outside strings nothing is stated only by keywords and by what belongs to no token. -/
theorem of_partsOf_eq_nil {c : Char} (hc : ¬(c = '"' ∨ c = '\'')) {s : Text}
    (h : partsOf (c :: s) = []) :
    (Token.isWordPart c = true ∧ isEmptyKeyword (c :: s.takeWhile Token.isWordPart) = true ∧
        partsOf (s.dropWhile Token.isWordPart) = []) ∨
      Token.isWordPart c = false ∧ partsOf s = [] := by
  rw [partsOf, Token.read, if_neg hc] at h
  split at h
  · rename_i token rest hcall
    rcases exists_ofToken?_call hcall with ⟨part, hpart⟩
    rw [List.filterMap_cons_some hpart] at h
    exact absurd h (List.cons_ne_nil _ _)
  · split at h
    · rename_i hpart
      left
      rw [List.filterMap_cons, ofToken?] at h
      split at h
      · rename_i hnone
        refine ⟨hpart, ?_, h⟩
        by_contra hkeyword
        rw [if_neg hkeyword] at hnone
        exact absurd hnone (by simp)
      · exact absurd h (List.cons_ne_nil _ _)
    · rename_i hpart
      exact Or.inr ⟨by simpa using hpart, h⟩

/-- A word with a backslash in it is no keyword. -/
theorem isEmptyKeyword_of_mem {s : Text} (h : '\\' ∈ s) : isEmptyKeyword s = false := by
  have hmem := Text.mem_lower (c := '\\') (by decide) h
  rw [isEmptyKeyword, Bool.or_eq_false_iff, beq_eq_false_iff_ne, beq_eq_false_iff_ne]
  constructor
  · intro heq
    rw [heq] at hmem
    exact absurd hmem (by decide)
  · intro heq
    rw [heq] at hmem
    exact absurd hmem (by decide)

section Rest

variable {quote : Char} (hquote : quote = '"' ∨ quote = '\'')

include hquote

/-- A word of an escaped text without a backslash is a word of the text. -/
theorem word_escaped (s t : Text)
    (h : '\\' ∉ (escaped quote s ++ quote :: t).takeWhile Token.isWordPart) :
    (escaped quote s ++ quote :: t).dropWhile Token.isWordPart =
      escaped quote (s.dropWhile Token.isWordPart) ++ quote :: t := by
  have hpart : Token.isWordPart quote = false := by rcases hquote with rfl | rfl <;> decide
  induction s with
  | nil => exact List.dropWhile_cons_of_neg (by simp [hpart])
  | cons c s ih =>
    by_cases hc : c = quote ∨ c = '\\'
    · rw [escaped_cons_of_marked hc, List.cons_append, List.takeWhile_cons_of_pos (by decide)] at h
      exact absurd List.mem_cons_self h
    · rw [escaped_cons_of_not hc, List.cons_append] at h ⊢
      cases hword : Token.isWordPart c with
      | true =>
        rw [List.takeWhile_cons_of_pos hword, List.mem_cons, not_or] at h
        rw [List.dropWhile_cons_of_pos hword, List.dropWhile_cons_of_pos hword, ih h.2]
      | false =>
        rw [List.dropWhile_cons_of_neg (by simp [hword]), List.dropWhile_cons_of_neg (by simp [hword]),
          escaped_cons_of_not hc, List.cons_append]

/-- What is left of a string literal behind a character in it states a part. -/
theorem partsOf_rest_ne_nil {d : Char} (hd : d ≠ '\\') (hne : d ≠ quote) (s t : Text) :
    partsOf (escaped quote s ++ quote :: d :: t) ≠ [] := by
  have hbackslash : quote ≠ '\\' := by rcases hquote with rfl | rfl <;> decide
  induction hn : s.length using Nat.strong_induction_on generalizing s with
  | _ n ih =>
  cases s with
  | nil =>
    -- the closing quote opens a string
    apply partsOf_string hquote
    rw [Token.cutString_cons hd, if_neg hne]
    exact unquote_ne_nil hquote hd hne _
  | cons c s =>
    rw [List.length_cons] at hn
    by_cases hmarked : c = quote ∨ c = '\\'
    · -- the backslash begins a word
      rw [escaped_cons_of_marked hmarked, List.cons_append]
      intro hnil
      rcases of_partsOf_eq_nil (by decide) hnil with ⟨-, hkeyword, -⟩ | ⟨hpart, -⟩
      · rw [isEmptyKeyword_of_mem List.mem_cons_self] at hkeyword
        exact absurd hkeyword (by decide)
      · exact absurd hpart (by decide)
    · rw [escaped_cons_of_not hmarked, List.cons_append]
      rw [not_or] at hmarked
      by_cases hother : c = '"' ∨ c = '\''
      · -- the other quote opens a string, which is empty only if it is closed at once
        cases s with
        | nil =>
          apply partsOf_string hother
          rw [escaped, List.flatMap_nil, List.nil_append, Token.cutString_cons hbackslash,
            if_neg (Ne.symm hmarked.1)]
          exact unquote_ne_nil hother hbackslash (Ne.symm hmarked.1) _
        | cons e s =>
          by_cases hclosed : e = c
          · subst hclosed
            have hempty : partsOf (e :: (escaped quote (e :: s) ++ quote :: d :: t)) =
                partsOf (escaped quote s ++ quote :: d :: t) := by
              have hunquote : unquote [e, e] = [] := unquote_stringText hother []
              rw [escaped_cons_of_not (not_or.2 hmarked), List.cons_append, partsOf,
                Token.read_string hother, Token.cutString_cons hmarked.2, if_pos rfl,
                List.filterMap_cons_none (by simp [ofToken?, hunquote]), partsOf]
            rw [hempty]
            exact ih s.length (by rw [← hn, List.length_cons]; omega) s rfl
          · apply partsOf_string hother
            by_cases hescape : e = quote ∨ e = '\\'
            · have hmark : e = '"' ∨ e = '\'' ∨ e = '\\' := by
                rcases hescape with rfl | rfl
                · exact hquote.imp_right Or.inl
                · exact Or.inr (Or.inr rfl)
              rw [escaped_cons_of_marked hescape, List.cons_append, List.cons_append, Token.cutString]
              exact unquote_escape_ne_nil hother hmark hclosed _
            · rw [escaped_cons_of_not hescape, List.cons_append,
                Token.cutString_cons (not_or.1 hescape).2, if_neg hclosed]
              exact unquote_ne_nil hother (not_or.1 hescape).2 hclosed _
      · -- a keyword, or what belongs to no token, is passed over
        intro hnil
        rcases of_partsOf_eq_nil hother hnil with ⟨-, hkeyword, hrest⟩ | ⟨-, hrest⟩
        · have hplain : '\\' ∉ (escaped quote s ++ quote :: d :: t).takeWhile Token.isWordPart := by
            intro hmem
            rw [isEmptyKeyword_of_mem (List.mem_cons_of_mem _ hmem)] at hkeyword
            exact absurd hkeyword (by decide)
          have hlength := (List.dropWhile_sublist Token.isWordPart (l := s)).length_le
          rw [word_escaped hquote s _ hplain] at hrest
          exact ih _ (by omega) _ rfl hrest
        · exact ih s.length (by omega) s rfl hrest

end Rest

/-! ## Calls with a string among their arguments -/

/-- The value of a call is read by its tokens. -/
theorem read_call {name : Text} (hfirst : name.head? = some 'c' ∨ name.head? = some 'a')
    (written : Text) :
    read (Token.callText name written) = ofParts (partsOf (Token.callText name written)) := by
  obtain ⟨first, rest, hname, hfirst⟩ : ∃ first rest, name = first :: rest ∧
      (first = 'c' ∨ first = 'a') := by
    rcases hfirst with h | h
    · rcases List.head?_eq_some_iff.1 h with ⟨rest, hname⟩
      exact ⟨'c', rest, hname, Or.inl rfl⟩
    · rcases List.head?_eq_some_iff.1 h with ⟨rest, hname⟩
      exact ⟨'a', rest, hname, Or.inr rfl⟩
  have hitem : Item.IsFirst first := Or.inr (Or.inr hfirst)
  have htext : Token.callText name written = first :: ((rest ++ '(' :: written) ++ [')']) := by
    rw [hname]
    simp [Token.callText]
  rw [htext]
  exact read_of_isFirst_of_isLast hitem (Or.inr (Or.inr rfl)) _

section Call

variable {name : Text} (hfirst : name.head? = some 'c' ∨ name.head? = some 'a') (hne : name ≠ [])
  (hname : ∀ c ∈ name, Token.isNameChar c = true)

include hfirst hne hname

/-- A call whose arguments have no closing bracket is the only part. -/
theorem read_call_of_notMem {written : Text} (hclose : ')' ∉ written) :
    read (Token.callText name written) = ofCall name written (Token.callText name written) := by
  have htokens := Token.read_callText hne hname hclose []
  have hnil : Token.read [] = [] := by rw [Token.read]
  rw [List.append_nil, hnil] at htokens
  rw [read_call hfirst, partsOf, htokens]
  rfl

/-- A call with a closing bracket in the string between its arguments states more than one part. -/
theorem read_call_of_mem {quote : Char} (hquote : quote = '"' ∨ quote = '\'') (argument : ArgumentName)
    {s : Text} (hclose : ')' ∈ s) (style : Option StyleName) :
    ∃ p q ps, read (Token.callText name (argumentsText argument quote s style)) =
      .sequence (p :: q :: ps) := by
  rcases List.eq_append_cons_of_mem hclose with ⟨s₁, s₂, rfl, hs₁⟩
  have hmark : ')' ≠ quote := by rcases hquote with rfl | rfl <;> decide
  have hclosing : ∀ u, escaped quote (')' :: u) = ')' :: escaped quote u :=
    escaped_cons_of_not (not_or.2 ⟨hmark, by decide⟩)
  obtain ⟨d, t, htail, hd, hdquote⟩ :
      ∃ d t, Item.styleText style ++ [')'] = d :: t ∧ d ≠ '\\' ∧ d ≠ quote := by
    cases style with
    | none => exact ⟨')', [], rfl, by decide, hmark⟩
    | some style =>
      refine ⟨',', ' ' :: (style.text ++ [')']), rfl, by decide, ?_⟩
      rcases hquote with rfl | rfl <;> decide
  -- the call ends in the string
  have hsplit : Token.callText name (argumentsText argument quote (s₁ ++ ')' :: s₂) style) =
      Token.callText name (argument.text ++ ',' :: ' ' :: quote :: escaped quote s₁) ++
        (escaped quote s₂ ++ quote :: d :: t) := by
    rw [← htail]
    simp [Token.callText, argumentsText, stringLiteral, escaped_append, hclosing]
  have harguments : ')' ∉ argument.text ++ ',' :: ' ' :: quote :: escaped quote s₁ := by
    simp only [List.mem_append, List.mem_cons, not_or]
    exact ⟨argument.notMem_close, by decide, by decide, hmark, by rwa [mem_escaped_iff (by decide)]⟩
  have hrest := partsOf_rest_ne_nil hquote hd hdquote s₂ t
  rcases List.exists_cons_of_ne_nil hrest with ⟨q, ps, hps⟩
  obtain ⟨p, hparts⟩ : ∃ p, partsOf (Token.callText name
      (argumentsText argument quote (s₁ ++ ')' :: s₂) style)) = p :: q :: ps := by
    rw [hsplit, partsOf, Token.read_callText hne hname harguments, ← hps]
    exact ⟨_, List.filterMap_cons_some (show ofToken? _ = some (ofCall _ _ _) from rfl)⟩
  refine ⟨p, q, ps, ?_⟩
  rw [read_call hfirst, hparts]
  rfl

end Call

theorem notMem_argumentsText {quote : Char} (hquote : quote = '"' ∨ quote = '\'') (name : ArgumentName)
    {s : Text} (hs : ')' ∉ s) (style : Option StyleName) :
    ')' ∉ argumentsText name quote s style := by
  have hmark : ')' ≠ quote := by rcases hquote with rfl | rfl <;> decide
  simp only [argumentsText, stringLiteral, List.mem_append, List.mem_cons, not_or]
  exact ⟨name.notMem_close, by decide, by decide,
    ⟨hmark, by rwa [mem_escaped_iff (by decide)], hmark, List.not_mem_nil⟩,
    Item.notMem_styleText style⟩

/-- What a call states whose arguments are a name, a string without a closing bracket, and a numbering style
or none. -/
theorem ofCall_argumentsText {quote : Char} (hquote : quote = '"' ∨ quote = '\'')
    (name : ArgumentName) (s : Text) (style : Option StyleName) (written : Text) :
    ofCall "counters".toList (argumentsText name quote s style) written =
        .counter name.text (if ',' ∈ s then separatorStyle s else Item.styleOf style) ∧
      ofCall "attr".toList (argumentsText name quote s style) written = .ofAttribute name.text := by
  rcases argumentsOf_argumentsText hquote name s style with ⟨others, harguments, hstyle⟩
  have hcounters : Text.lower "counters".toList = "counters".toList := by decide
  have hattr : Text.lower "attr".toList = "attr".toList := by decide
  have htake : name.text.takeWhile (!isBlank ·) = name.text := by
    rw [List.takeWhile_eq_self_iff]
    intro c hc
    simp [name.isBlank_eq c hc]
  constructor
  · unfold ofCall
    simp only [hcounters, harguments, if_neg name.ne_nil, hstyle]
    rfl
  · unfold ofCall
    simp only [hattr, harguments, if_neg name.ne_nil, htake]
    rfl

/-- A string among the arguments of a function is passed over just when it has no closing bracket and, where
a numbering style is stated, no comma either, unless what stands between its first two commas names the same
style. -/
theorem read_call_string {quote : Char} (hquote : quote = '"' ∨ quote = '\'') (name : ArgumentName)
    (s : Text) :
    (∀ style : Option StyleName,
      read (Token.callText "counters".toList (argumentsText name quote s style)) =
          .counter name.text (Item.styleOf style) ↔
        ')' ∉ s ∧ (',' ∈ s → separatorStyle s = Item.styleOf style)) ∧
      (read (Token.callText "attr".toList (argumentsText name quote s none)) =
          .ofAttribute name.text ↔
        ')' ∉ s) := by
  constructor
  · intro style
    have hchars : ∀ c ∈ "counters".toList, Token.isNameChar c = true := List.all_eq_true.1 (by decide)
    by_cases hclose : ')' ∈ s
    · rcases read_call_of_mem (Or.inl rfl) (by decide) hchars hquote name hclose style with
        ⟨p, q, ps, hread⟩
      constructor
      · intro h
        exact absurd (hread.symm.trans h) (by simp)
      · intro h
        exact absurd hclose h.1
    · have hread := read_call_of_notMem (Or.inl rfl) (by decide) hchars
        (notMem_argumentsText hquote name hclose style)
      rw [hread.trans (ofCall_argumentsText hquote name s style _).1, Content.counter.injEq]
      constructor
      · rintro ⟨-, hstyle⟩
        refine ⟨hclose, ?_⟩
        intro hcomma
        rwa [if_pos hcomma] at hstyle
      · rintro ⟨-, hstyle⟩
        refine ⟨rfl, ?_⟩
        split
        · exact hstyle ‹_›
        · rfl
  · have hchars : ∀ c ∈ "attr".toList, Token.isNameChar c = true := List.all_eq_true.1 (by decide)
    by_cases hclose : ')' ∈ s
    · rcases read_call_of_mem (Or.inr rfl) (by decide) hchars hquote name hclose none with
        ⟨p, q, ps, hread⟩
      constructor
      · intro h
        exact absurd (hread.symm.trans h) (by simp)
      · intro h
        exact absurd hclose h
    · have hread := read_call_of_notMem (Or.inr rfl) (by decide) hchars
        (notMem_argumentsText hquote name hclose none)
      constructor
      · intro _
        exact hclose
      · intro _
        exact hread.trans (ofCall_argumentsText hquote name s none _).2

/-- The comma of the usual separator hides the style, and a closing bracket in a fallback is shown. -/
theorem read_call_string_separator :
    let item : ArgumentName := ⟨"item".toList, by decide,
      by simpa using List.all_eq_true.1 (show "item".toList.all (!isBlank ·) = true by decide),
      by decide, by decide⟩
    let roman : StyleName := ⟨"lower-roman".toList, by decide⟩
    Token.callText "counters".toList (argumentsText item '"' ", ".toList (some roman)) =
        "counters(item, \", \", lower-roman)".toList ∧
      read "counters(item, \", \", lower-roman)".toList ≠
        .counter "item".toList "lower-roman".toList ∧
      Token.callText "counters".toList (argumentsText item '"' ".".toList (some roman)) =
        "counters(item, \".\", lower-roman)".toList ∧
      read "counters(item, \".\", lower-roman)".toList =
        .counter "item".toList "lower-roman".toList ∧
      Token.callText "attr".toList (argumentsText item '"' "(x)".toList none) =
        "attr(item, \"(x)\")".toList ∧
      read "attr(item, \"(x)\")".toList ≠ .ofAttribute "item".toList := by
  intro item roman
  have hcomma := (read_call_string (Or.inl rfl) item ", ".toList).1 (some roman)
  have hplain := (read_call_string (Or.inl rfl) item ".".toList).1 (some roman)
  have hclose := (read_call_string (Or.inl rfl) item "(x)".toList).2
  have hspaced : Token.callText "counters".toList (argumentsText item '"' ", ".toList (some roman)) =
      "counters(item, \", \", lower-roman)".toList := by decide
  have hdotted : Token.callText "counters".toList (argumentsText item '"' ".".toList (some roman)) =
      "counters(item, \".\", lower-roman)".toList := by decide
  have hbrackets : Token.callText "attr".toList (argumentsText item '"' "(x)".toList none) =
      "attr(item, \"(x)\")".toList := by decide
  rw [hspaced] at hcomma
  rw [hdotted] at hplain
  rw [hbrackets] at hclose
  refine ⟨hspaced, ?_, hdotted, ?_, hbrackets, ?_⟩
  · intro h
    exact absurd ((hcomma.1 h).2 (by decide)) (by decide)
  · exact hplain.2 (by decide)
  · intro h
    exact absurd (hclose.1 h) (by decide)

end GeneratedContent.Content
