import GeneratedContent.Content.Resolve
import GeneratedContent.Proofs.Content.Token
import GeneratedContent.Proofs.Text.Blank
import GeneratedContent.Proofs.Text.Letter
import GeneratedContent.Proofs.Text.Lowercase
import Mathlib.Data.List.TakeWhile

/-!
# Content lists

A content list is a row of strings, counters and attributes of the element, one space apart. What it
asks for is the text of its items, one after the other. This module says what a list is (`Item`) and
what each item shows (`Item.shown`), and that reading the list, resolving it and filling in the counter
give just that (`fill_resolve_read`): no item changes what its neighbour means.
-/

namespace GeneratedContent.Content

/-! ## Items -/

/-- Whether a character can be part of the name of a counter or an attribute. -/
def isIdentifierChar (c : Char) : Bool := c.isAlphanum || c == '_' || c == '-'

/-- The name of a counter or an attribute. -/
structure Identifier where
  /-- The name as text. -/
  text : Text
  /-- The name is not empty. -/
  ne_nil : text ≠ []
  /-- The name has letters, digits, underscores and hyphens only. -/
  isIdentifierChar : ∀ c ∈ text, isIdentifierChar c = true

/-- The name of a numbering style, whether there is such a style or not. -/
structure StyleName where
  /-- The name as text. -/
  text : Text
  /-- The name has lower-case letters and hyphens only, and it has one at least. -/
  isStyleName : isStyleName text = true

/-- An item of a content list. -/
inductive Item where
  /-- A text in quotes. -/
  | quoted (quote : Char) (isQuote : quote = '"' ∨ quote = '\'') (text : Text)
  /-- The value of a counter, in a numbering style if one is given. -/
  | counter (name : Identifier) (style : Option StyleName)
  /-- The value of an attribute of the element. -/
  | ofAttribute (name : Identifier)

namespace Item

/-- What is written for a numbering style behind the name of a counter. -/
def styleText : Option StyleName → Text
  | none => []
  | some style => ',' :: ' ' :: style.text

/-- The token of an item. -/
def token : Item → Token
  | .quoted quote _ text => .quoted (stringText quote text)
  | .counter name style =>
    let arguments := name.text ++ styleText style
    .call "counter".toList arguments (Token.callText "counter".toList arguments)
  | .ofAttribute name =>
    .call "attr".toList name.text (Token.callText "attr".toList name.text)

/-- An item as it is written. -/
def text : Item → Text
  | .quoted quote _ text => stringText quote text
  | .counter name style => Token.callText "counter".toList (name.text ++ styleText style)
  | .ofAttribute name => Token.callText "attr".toList name.text

/-- A content list as it is written. -/
def textAll (items : List Item) : Text := List.intercalate [' '] (items.map text)

/-- The numbering style that an item names; decimal where it names none. -/
def styleOf : Option StyleName → Text
  | none => "decimal".toList
  | some style => style.text

/-- What an item shows where a counter has a value and attributes are looked up. -/
def shown (lookUp : Text → Option Text) (value : Int) : Item → Text
  | .quoted _ _ text => text
  | .counter _ style => Counter.format value (styleOf style)
  | .ofAttribute name => (lookUp name.text).getD []

/-- Whether an item shows nothing that could be taken for the beginning of a placeholder. -/
def Unreserved (lookUp : Text → Option Text) : Item → Prop
  | .quoted _ _ text => placeholderOpen ∉ text
  | .counter _ _ => True
  | .ofAttribute name => placeholderOpen ∉ (lookUp name.text).getD []

/-- The part of a content value that an item states. An empty string states none. -/
def part? : Item → Option Content
  | .quoted _ _ text => if text = [] then none else some (.literal text)
  | .counter name style => some (.counter name.text (styleOf style))
  | .ofAttribute name => some (.ofAttribute name.text)

end Item

/-! ## Names -/

theorem toNat_lt_of_isIdentifierChar {c : Char} (h : isIdentifierChar c = true) :
    c.toNat < 0x80 := by
  rw [isIdentifierChar, Bool.or_eq_true, Bool.or_eq_true, beq_iff_eq, beq_iff_eq] at h
  rcases h with (h | rfl) | rfl
  · exact toNat_lt_of_isAlphanum h
  · decide
  · decide

/-- A character of a name is no blank, and it is none of the signs that end an argument. -/
theorem of_isIdentifierChar {c : Char} (h : isIdentifierChar c = true) :
    isBlank c = false ∧ c ≠ ',' ∧ c ≠ ')' := by
  exact forall_ascii (P := fun c => isIdentifierChar c = true → isBlank c = false ∧ c ≠ ',' ∧ c ≠ ')')
    (by decide) (toNat_lt_of_isIdentifierChar h) h

theorem isIdentifierChar_of_isStyleChar {c : Char} (h : isStyleChar c = true) :
    isIdentifierChar c = true := by
  rw [isStyleChar, Bool.or_eq_true] at h
  rw [isIdentifierChar]
  rcases h with hlower | hhyphen
  · have halphanum : c.isAlphanum = true := by
      show (c.isUpper || c.isLower || c.isDigit) = true
      rw [hlower, Bool.or_true, Bool.true_or]
    rw [halphanum, Bool.true_or, Bool.true_or]
  · rw [hhyphen, Bool.or_true]

theorem isLoweredAscii_of_isStyleChar {c : Char} (h : isStyleChar c = true) :
    Text.isLoweredAscii c = true := by
  exact forall_ascii (P := fun c => isStyleChar c = true → Text.isLoweredAscii c = true)
    (by decide) (toNat_lt_of_isIdentifierChar (isIdentifierChar_of_isStyleChar h)) h

namespace StyleName

theorem isStyleChar (style : StyleName) : ∀ c ∈ style.text, isStyleChar c = true := by
  have h := style.isStyleName
  rw [Content.isStyleName, Bool.and_eq_true, List.all_eq_true] at h
  exact h.2

theorem isIdentifierChar (style : StyleName) : ∀ c ∈ style.text, isIdentifierChar c = true :=
  fun c hc => isIdentifierChar_of_isStyleChar (style.isStyleChar c hc)

theorem lower_text (style : StyleName) : Text.lower style.text = style.text :=
  Text.lower_of_forall fun c hc => isLoweredAscii_of_isStyleChar (style.isStyleChar c hc)

end StyleName

theorem trim_of_isIdentifierChar {s : Text} (h : ∀ c ∈ s, isIdentifierChar c = true) :
    Text.trim s = s :=
  Text.trim_of_forall fun c hc => (of_isIdentifierChar (h c hc)).1

/-! ## Arguments -/

theorem splitAt_of_notMem {mark : Char} {s : Text} (h : mark ∉ s) : Text.splitAt mark s = [s] := by
  unfold Text.splitAt
  induction s with
  | nil => rfl
  | cons c s ih =>
    rw [List.mem_cons, not_or] at h
    rw [Text.splitWhere, ih h.2, if_neg (by simpa using Ne.symm h.1)]
    rfl

theorem splitAt_append {mark : Char} {s : Text} (h : mark ∉ s) (rest : Text) :
    Text.splitAt mark (s ++ mark :: rest) = s :: Text.splitAt mark rest := by
  unfold Text.splitAt
  induction s with
  | nil => simp [Text.splitWhere]
  | cons c s ih =>
    rw [List.mem_cons, not_or] at h
    rw [List.cons_append, Text.splitWhere, ih h.2, if_neg (by simpa using Ne.symm h.1)]
    rfl

theorem argumentsOf_styleText (name : Identifier) (style : Option StyleName) :
    argumentsOf (name.text ++ Item.styleText style) =
      (name.text, (style.map StyleName.text).toList) := by
  have hcomma : ∀ s : Text, (∀ c ∈ s, isIdentifierChar c = true) → ',' ∉ s := by
    intro s hs hmem
    exact (of_isIdentifierChar (hs ',' hmem)).2.1 rfl
  have hname := hcomma name.text name.isIdentifierChar
  have htrim := trim_of_isIdentifierChar name.isIdentifierChar
  unfold argumentsOf
  cases style with
  | none =>
    rw [Item.styleText, List.append_nil, splitAt_of_notMem hname]
    simp [htrim]
  | some style =>
    -- the space behind the comma is trimmed off
    have hstyle : ',' ∉ ' ' :: style.text := by
      rw [List.mem_cons, not_or]
      exact ⟨by decide, hcomma style.text style.isIdentifierChar⟩
    have hblank : isBlank ' ' = true := by decide
    rw [Item.styleText, splitAt_append hname, splitAt_of_notMem hstyle]
    simp [htrim, hblank, trim_of_isIdentifierChar style.isIdentifierChar]

theorem styleOfArgument_styleOf (style : Option StyleName) :
    styleOfArgument ((style.map StyleName.text).toList)[0]? = Item.styleOf style := by
  cases style with
  | none => decide
  | some style =>
    show (if isStyleName (Text.lower style.text) = true then Text.lower style.text else _) = _
    rw [style.lower_text, if_pos style.isStyleName]
    rfl

/-! ## Reading a list -/

namespace Item

/-- The first character of an item. -/
def IsFirst (c : Char) : Prop := c = '"' ∨ c = '\'' ∨ c = 'c' ∨ c = 'a'

/-- The last character of an item. -/
def IsLast (c : Char) : Prop := c = '"' ∨ c = '\'' ∨ c = ')'

theorem notMem_styleText (style : Option StyleName) : ')' ∉ styleText style := by
  cases style with
  | none => exact List.not_mem_nil
  | some style =>
    intro h
    simp only [styleText, List.mem_cons] at h
    rcases h with h | h | h
    · exact absurd h (by decide)
    · exact absurd h (by decide)
    · exact (of_isIdentifierChar (style.isIdentifierChar _ h)).2.2 rfl

theorem notMem_name (name : Identifier) : ')' ∉ name.text := fun h =>
  (of_isIdentifierChar (name.isIdentifierChar _ h)).2.2 rfl

/-- An item is read as its token, whatever follows. -/
theorem read_text_append (i : Item) (rest : Text) :
    Token.read (i.text ++ rest) = i.token :: Token.read rest := by
  cases i with
  | quoted quote isQuote text => exact Token.read_stringText isQuote text rest
  | counter name style =>
    apply Token.read_callText (by decide) (List.all_eq_true.1 (by decide))
    rw [List.mem_append, not_or]
    exact ⟨notMem_name name, notMem_styleText style⟩
  | ofAttribute name =>
    exact Token.read_callText (by decide) (List.all_eq_true.1 (by decide)) (notMem_name name) rest

/-- The part that the token of an item states. -/
theorem ofToken?_token (i : Item) : ofToken? i.token = i.part? := by
  cases i with
  | quoted quote isQuote text =>
    show (if unquote (stringText quote text) = [] then none else _) = _
    rw [unquote_stringText isQuote]
    rfl
  | counter name style =>
    have hlower : Text.lower "counter".toList = "counter".toList := by decide
    show some (ofCall "counter".toList _ _) = _
    unfold ofCall
    simp only [hlower, argumentsOf_styleText, if_neg name.ne_nil, if_true,
      styleOfArgument_styleOf]
    rfl
  | ofAttribute name =>
    have hlower : Text.lower "attr".toList = "attr".toList := by decide
    have harguments : argumentsOf name.text = (name.text, []) := by
      have h := argumentsOf_styleText name none
      rwa [styleText, List.append_nil] at h
    have htake : name.text.takeWhile (!isBlank ·) = name.text := by
      rw [List.takeWhile_eq_self_iff]
      intro c hc
      simp [(of_isIdentifierChar (name.isIdentifierChar c hc)).1]
    show some (ofCall "attr".toList _ _) = _
    unfold ofCall
    simp only [hlower, harguments, htake, if_neg name.ne_nil]
    rfl

/-- An item begins and ends with a character of its own. -/
theorem exists_text_eq (i : Item) :
    ∃ first middle last, i.text = first :: (middle ++ [last]) ∧ IsFirst first ∧ IsLast last := by
  cases i with
  | quoted quote isQuote text =>
    refine ⟨quote, stringInner quote text, quote, rfl, ?_, ?_⟩
    · rcases isQuote with rfl | rfl
      · exact Or.inl rfl
      · exact Or.inr (Or.inl rfl)
    · rcases isQuote with rfl | rfl
      · exact Or.inl rfl
      · exact Or.inr (Or.inl rfl)
  | counter name style =>
    exact ⟨'c', "ounter(".toList ++ (name.text ++ styleText style), ')', rfl,
      Or.inr (Or.inr (Or.inl rfl)), Or.inr (Or.inr rfl)⟩
  | ofAttribute name =>
    exact ⟨'a', "ttr(".toList ++ name.text, ')', rfl,
      Or.inr (Or.inr (Or.inr rfl)), Or.inr (Or.inr rfl)⟩

theorem textAll_cons {items : List Item} (h : items ≠ []) (i : Item) :
    textAll (i :: items) = i.text ++ ' ' :: textAll items := by
  rcases List.exists_cons_of_ne_nil h with ⟨j, items, rfl⟩
  simp [textAll, List.intercalate]

/-- A list that is not empty begins with its first item and ends with its last one. -/
theorem exists_textAll_eq {items : List Item} (h : items ≠ []) :
    ∃ first middle last, textAll items = first :: (middle ++ [last]) ∧
      IsFirst first ∧ IsLast last := by
  induction items with
  | nil => exact absurd rfl h
  | cons i items ih =>
    rcases exists_text_eq i with ⟨first, middle, last, htext, hfirst, hlast⟩
    by_cases hitems : items = []
    · subst hitems
      refine ⟨first, middle, last, ?_, hfirst, hlast⟩
      simpa [textAll, List.intercalate] using htext
    · rcases ih hitems with ⟨first', middle', last', hrest, -, hlast'⟩
      refine ⟨first, middle ++ [last] ++ ' ' :: first' :: middle', last', ?_, hfirst, hlast'⟩
      rw [textAll_cons hitems, htext, hrest]
      simp

/-- The tokens of a list are those of its items. -/
theorem tokens_textAll (items : List Item) : Token.read (textAll items) = items.map token := by
  have hnil : Token.read [] = [] := by rw [Token.read]
  induction items with
  | nil => exact hnil
  | cons i items ih =>
    by_cases hitems : items = []
    · subst hitems
      have hone := read_text_append i []
      rw [List.append_nil, hnil] at hone
      simpa [textAll, List.intercalate] using hone
    · rw [textAll_cons hitems, read_text_append, Token.read_space, ih, List.map_cons]

end Item

/-- What ends like an item has no mark of importance at its end. -/
theorem dropFinalImportance_of_isLast {last : Char} (h : Item.IsLast last) (s : Text) :
    dropFinalImportance (s ++ [last]) = s ++ [last] := by
  have hnone : beforeImportance? (s ++ [last]).reverse = none := by
    have hblank : isBlank last = false := by
      rcases h with rfl | rfl | rfl <;> decide
    have hletter : sameLetter 't' last = false := by
      rcases h with rfl | rfl | rfl <;> decide
    rw [List.reverse_concat, beforeImportance?, Text.trimLeft_of_head (by simpa using hblank)]
    have hword : "important".toList.reverse = 't' :: "natropmi".toList := by decide
    rw [hword, Text.afterCaseless?, if_neg (by simp [hletter])]
  rw [dropFinalImportance, hnone]

/-- What begins like an item is no keyword. -/
theorem isEmptyKeyword_of_isFirst {first : Char} (h : Item.IsFirst first) (s : Text) :
    isEmptyKeyword (first :: s) = false := by
  have hlowered : Text.isLoweredAscii first = true := by
    rcases h with rfl | rfl | rfl | rfl <;> decide
  have hne : first ≠ 'n' := by
    rcases h with rfl | rfl | rfl | rfl <;> decide
  have hlower : Text.lower (first :: s) = first :: Text.lowerAfter [first] s :=
    Text.lowerAfter_cons hlowered [] s
  unfold isEmptyKeyword
  simp [hlower, hne]

/-- The parts that the tokens of a text state. -/
def partsOf (s : Text) : List Content := (Token.read s).filterMap ofToken?

/-- What begins and ends like an item states the parts of its tokens. -/
theorem read_of_isFirst_of_isLast {first last : Char} (hfirst : Item.IsFirst first)
    (hlast : Item.IsLast last) (middle : Text) :
    read (first :: (middle ++ [last])) = ofParts (partsOf (first :: (middle ++ [last]))) := by
  have hdrop := dropFinalImportance_of_isLast hlast (first :: middle)
  have htrim : Text.trim (first :: (middle ++ [last])) = first :: (middle ++ [last]) := by
    apply Text.trim_eq_self
    · intro c hc
      obtain rfl : first = c := by simpa using hc
      rcases hfirst with rfl | rfl | rfl | rfl <;> decide
    · intro c hc
      rw [← List.cons_append, List.getLast?_concat] at hc
      obtain rfl : last = c := by simpa using hc
      rcases hlast with rfl | rfl | rfl <;> decide
  have hkeep : ¬(first :: (middle ++ [last]) = [] ∨
      isEmptyKeyword (first :: (middle ++ [last])) = true) := by
    rw [isEmptyKeyword_of_isFirst hfirst]
    simp
  rw [List.cons_append] at hdrop
  rw [read, hdrop]
  simp only [htrim, if_neg hkeep, partsOf]

/-- A list states the parts that its items state. -/
theorem read_textAll (items : List Item) :
    read (Item.textAll items) = ofParts (items.filterMap Item.part?) := by
  by_cases hitems : items = []
  · subst hitems
    have hkeyword : Text.trim (dropFinalImportance []) = [] := by decide
    rw [Item.textAll, List.map_nil, List.intercalate_nil, read]
    simp only [hkeyword, true_or, if_true, List.filterMap_nil, ofParts]
  · rcases Item.exists_textAll_eq hitems with ⟨first, middle, last, htext, hfirst, hlast⟩
    have hparts : (items.map Item.token).filterMap ofToken? = items.filterMap Item.part? := by
      rw [List.filterMap_map]
      congr 1
      funext i
      exact i.ofToken?_token
    rw [htext, read_of_isFirst_of_isLast hfirst hlast, ← htext, partsOf, Item.tokens_textAll, hparts]

/-! ## Resolving and filling -/

theorem resolve_ofParts (lookUp : Text → Option Text) (parts : List Content) :
    resolve lookUp (ofParts parts) = resolveAll lookUp parts := by
  match parts with
  | [] => simp [ofParts, resolve, resolveAll]
  | [part] => simp [ofParts, resolveAll]
  | _ :: _ :: _ => simp [ofParts, resolve]

theorem usesCounter_ofParts (parts : List Content) :
    usesCounter (ofParts parts) = anyUsesCounter parts := by
  match parts with
  | [] => simp [ofParts, usesCounter, anyUsesCounter]
  | [part] => simp [ofParts, anyUsesCounter]
  | _ :: _ :: _ => simp [ofParts, usesCounter]

/-- Text without the beginning of a placeholder stays as it is. -/
theorem fill_append {s : Text} (h : placeholderOpen ∉ s) (value : Int) (rest : Text) :
    fill value (s ++ rest) = s ++ fill value rest := by
  induction s with
  | nil => rfl
  | cons c s ih =>
    rw [List.mem_cons, not_or] at h
    rw [List.cons_append, fill, if_neg (Ne.symm h.1), ih h.2]
    rfl

theorem cutPlaceholder?_style {style : Text} (h : isStyleName style = true) (rest : Text) :
    cutPlaceholder? (placeholderLabel ++ style ++ placeholderClose :: rest) = some (style, rest) := by
  rw [isStyleName, Bool.and_eq_true, List.all_eq_true] at h
  have hne : style ≠ [] := by simpa using h.1
  have hchars : ∀ c ∈ style, isStyleChar c = true := h.2
  have hclose : isStyleChar placeholderClose = false := by decide
  have hlabel : Text.after? placeholderLabel
      (placeholderLabel ++ style ++ placeholderClose :: rest) =
        some (style ++ placeholderClose :: rest) := by
    rw [Text.after?_eq_some, List.append_assoc]
  have htake : (style ++ placeholderClose :: rest).takeWhile isStyleChar = style := by
    rw [List.takeWhile_append_of_pos hchars]
    simp [hclose]
  have hdrop : (style ++ placeholderClose :: rest).dropWhile isStyleChar =
      placeholderClose :: rest := by
    rw [List.dropWhile_append_of_pos hchars]
    simp [hclose]
  unfold cutPlaceholder?
  simp only [hlabel, htake, hdrop]
  simp [hne]

/-- A placeholder is replaced, whatever follows it. -/
theorem fill_placeholder {style : Text} (h : isStyleName style = true) (value : Int) (rest : Text) :
    fill value (placeholder style ++ rest) = Counter.format value style ++ fill value rest := by
  have hcut := cutPlaceholder?_style h rest
  have happend : placeholder style ++ rest =
      placeholderOpen :: (placeholderLabel ++ style ++ placeholderClose :: rest) := by
    simp [placeholder]
  rw [happend, fill, if_pos rfl]
  split
  · rename_i hsome
    rw [hcut] at hsome
    rcases Prod.mk.inj (Option.some.inj hsome) with ⟨rfl, rfl⟩
    rfl
  · rename_i hnone
    rw [hcut] at hnone
    exact absurd hnone (by simp)

namespace Item

theorem isStyleName_styleOf (style : Option StyleName) : isStyleName (styleOf style) = true := by
  cases style with
  | none => decide
  | some style => exact style.isStyleName

variable {lookUp : Text → Option Text}

/-- Filling the text of an item gives what the item shows, and goes on behind it. -/
theorem fill_part (i : Item) (h : i.Unreserved lookUp) (value : Int) (rest : Text) :
    fill value (resolveAll lookUp i.part?.toList ++ rest) =
      i.shown lookUp value ++ fill value rest := by
  cases i with
  | quoted quote isQuote text =>
    have hresolve : resolveAll lookUp (part? (.quoted quote isQuote text)).toList = text := by
      by_cases htext : text = []
      · simp [part?, htext, resolveAll]
      · simp [part?, htext, resolveAll, resolve]
    rw [hresolve]
    exact fill_append h value rest
  | counter name style =>
    have hresolve : resolveAll lookUp (part? (.counter name style)).toList =
        placeholder (styleOf style) := by
      simp [part?, resolveAll, resolve]
    rw [hresolve]
    exact fill_placeholder (isStyleName_styleOf style) value rest
  | ofAttribute name =>
    have hresolve : resolveAll lookUp (part? (.ofAttribute name)).toList =
        (lookUp name.text).getD [] := by
      simp [part?, resolveAll, resolve]
    rw [hresolve]
    exact fill_append h value rest

theorem resolveAll_append (parts others : List Content) :
    resolveAll lookUp (parts ++ others) = resolveAll lookUp parts ++ resolveAll lookUp others := by
  induction parts with
  | nil => simp [resolveAll]
  | cons part parts ih => simp [resolveAll, ih]

theorem fill_parts {items : List Item} (h : ∀ i ∈ items, i.Unreserved lookUp) (value : Int) :
    fill value (resolveAll lookUp (items.filterMap part?)) =
      items.flatMap (shown lookUp value) := by
  induction items with
  | nil => simp [resolveAll, fill]
  | cons i items ih =>
    have hsplit : (i :: items).filterMap part? = i.part?.toList ++ items.filterMap part? := by
      cases hpart : i.part? <;> simp [hpart]
    rw [hsplit, resolveAll_append, fill_part i (h i List.mem_cons_self),
      ih fun j hj => h j (List.mem_cons_of_mem i hj), List.flatMap_cons]

/-- Where no part needs a counter there is no placeholder. -/
theorem notMem_resolveAll {items : List Item} (h : ∀ i ∈ items, i.Unreserved lookUp)
    (hnone : anyUsesCounter (items.filterMap part?) = false) :
    placeholderOpen ∉ resolveAll lookUp (items.filterMap part?) := by
  induction items with
  | nil => simp [resolveAll]
  | cons i items ih =>
    have hi := h i List.mem_cons_self
    have hitems := ih fun j hj => h j (List.mem_cons_of_mem i hj)
    cases i with
    | quoted quote isQuote text =>
      by_cases htext : text = []
      · simp only [List.filterMap_cons, part?, if_pos htext] at hnone ⊢
        exact hitems hnone
      · simp only [List.filterMap_cons, part?, if_neg htext, anyUsesCounter, usesCounter,
          Bool.false_or] at hnone ⊢
        rw [resolveAll, resolve, List.mem_append, not_or]
        exact ⟨hi, hitems hnone⟩
    | counter name style =>
      simp [part?, anyUsesCounter, usesCounter] at hnone
    | ofAttribute name =>
      simp only [List.filterMap_cons, part?, anyUsesCounter, usesCounter, Bool.false_or] at hnone ⊢
      rw [resolveAll, resolve, List.mem_append, not_or]
      exact ⟨hi, hitems hnone⟩

end Item

/-! ## What a list shows -/

/-- A content list asks for the texts of its items, one after the other, whatever stands in its strings
and in the attributes that it names, as long as that is not the beginning of a placeholder. Where it
needs no counter there is nothing to fill in. Quoting a text can be undone without any condition. -/
theorem fill_resolve_read {lookUp : Text → Option Text} {items : List Item}
    (h : ∀ i ∈ items, i.Unreserved lookUp) (value : Int) :
    fill value (resolve lookUp (read (Item.textAll items))) =
        items.flatMap (Item.shown lookUp value) ∧
      (usesCounter (read (Item.textAll items)) = false →
        resolve lookUp (read (Item.textAll items)) = items.flatMap (Item.shown lookUp value)) ∧
      ∀ quote : Char, quote = '"' ∨ quote = '\'' → ∀ s : Text, unquote (stringText quote s) = s := by
  have hfill := Item.fill_parts h value
  rw [read_textAll, resolve_ofParts, usesCounter_ofParts]
  refine ⟨hfill, ?_, ?_⟩
  · intro hnone
    have hplain := fill_append (Item.notMem_resolveAll h hnone) value []
    rw [List.append_nil, hfill] at hplain
    rw [hplain, fill, List.append_nil]
  · intro quote hquote s
    exact unquote_stringText hquote s

/-- A counter in letters, a string with a quote, a backslash and a line break before a digit, and an
attribute. -/
theorem fill_resolve_read_step :
    let step : Identifier := ⟨"step".toList, by decide, List.all_eq_true.1 (by decide)⟩
    let title : Identifier := ⟨"title".toList, by decide, List.all_eq_true.1 (by decide)⟩
    let items : List Item := [
      .counter step (some ⟨"lower-alpha".toList, by decide⟩),
      .quoted '"' (by decide) ".\\\"\n1 ".toList,
      .ofAttribute title]
    let lookUp : Text → Option Text := fun name =>
      if name = "title".toList then some "Intro".toList else none
    Item.textAll items = "counter(step, lower-alpha) \".\\\\\\\"\\a 1 \" attr(title)".toList ∧
      (∀ i ∈ items, i.Unreserved lookUp) ∧
      fill 2 (resolve lookUp (read (Item.textAll items))) = "b.\\\"\n1 Intro".toList := by
  intro step title items lookUp
  have hunreserved : ∀ i ∈ items, i.Unreserved lookUp := by
    rw [List.forall_mem_cons, List.forall_mem_cons, List.forall_mem_singleton]
    refine ⟨trivial, ?_, ?_⟩
    · show placeholderOpen ∉ _
      decide
    · show placeholderOpen ∉ _
      decide
  refine ⟨by decide, hunreserved, ?_⟩
  rw [(fill_resolve_read hunreserved 2).1]
  decide +kernel

end GeneratedContent.Content
