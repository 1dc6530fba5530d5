import GeneratedContent.Proofs.Css.Outline
import GeneratedContent.Proofs.Text.Blank

/-!
# Well-formed stylesheets

A well-formed stylesheet is a list of items: blanks, comments, statements, at-rules around further
items, and rules. This module says what such a stylesheet is, without a reader (`Closed`, `Item`),
how it is written (`Item.text`) and what its rules are (`Item.rules`), and that the blocks of the
written stylesheet are exactly those rules, in order and where they stand (`blocks_textAll`).
-/

namespace GeneratedContent.Css

/-! ## Closed texts -/

/-- Whether a text can stand between two quotes: a backslash takes the next character with it, and
neither the quote nor a line break stands alone. -/
inductive InString (q : Char) : Text → Prop where
  | nil : InString q []
  | escape {c : Char} {t : Text} (h : InString q t) : InString q ('\\' :: c :: t)
  | plain {c : Char} {t : Text} (hb : c ≠ '\\') (hq : c ≠ q) (hn : c ≠ '\n') (h : InString q t) :
    InString q (c :: t)

/-- Whether a text can stand in a comment: it does not end it. -/
def InComment (t : Text) : Prop := ∀ a b, t ≠ a ++ '*' :: '/' :: b

/-- Whether all strings and comments of a text are closed, and each character outside them is one of
those that may stand there or, where braces nest, belongs to a pair of braces. -/
inductive Closed (bare : Char → Prop) (nests : Prop) : Text → Prop where
  | nil : Closed bare nests []
  | comment {inner t : Text} (hi : InComment inner) (h : Closed bare nests t) :
    Closed bare nests ('/' :: '*' :: (inner ++ '*' :: '/' :: t))
  | quoted {q : Char} {inner t : Text} (hq : isQuote q = true) (hi : InString q inner)
    (h : Closed bare nests t) : Closed bare nests (q :: (inner ++ q :: t))
  | plain {c : Char} {t : Text} (hq : isQuote c = false) (hc : bare c)
    (hs : ¬ (c = '/' ∧ t.head? = some '*')) (h : Closed bare nests t) : Closed bare nests (c :: t)
  | braces {inner t : Text} (hn : nests) (hi : Closed bare nests inner) (h : Closed bare nests t) :
    Closed bare nests ('{' :: (inner ++ '}' :: t))

/-! ## Items -/

/-- What stands before a semicolon or a brace: no brace and no semicolon stands in it outside
strings and comments. -/
structure Heading where
  /-- The text. -/
  text : Text
  /-- The strings and comments are closed. -/
  closed : Closed (fun c => c ≠ '{' ∧ c ≠ '}' ∧ c ≠ ';') False text

/-- What stands before the brace of a rule. It begins with neither an at sign nor a blank nor a
comment. -/
structure Prelude extends Heading where
  /-- How the text begins. -/
  begins : ∃ c t, text = c :: t ∧ c ≠ '@' ∧ isBlank c = false ∧ ¬ (c = '/' ∧ t.head? = some '*')

/-- What stands between the braces of a rule. -/
structure Body where
  /-- The text. -/
  text : Text
  /-- The strings, comments and braces are closed. -/
  closed : Closed (fun c => c ≠ '{' ∧ c ≠ '}') True text

/-- A piece of a well-formed stylesheet. -/
inductive Item where
  /-- A blank. -/
  | blank (c : Char) (h : isBlank c = true)
  /-- A comment, by what stands in it. -/
  | comment (inner : Text) (h : InComment inner)
  /-- A statement, by what stands before its semicolon. -/
  | statement (heading : Heading)
  /-- An at-rule, by what stands behind its at sign and the items between its braces. -/
  | group (heading : Heading) (items : List Item)
  /-- A rule. -/
  | rule (prelude : Prelude) (body : Body)

mutual

/-- An item as text. -/
def Item.text : Item → Text
  | .blank c _ => [c]
  | .comment inner _ => '/' :: '*' :: (inner ++ ['*', '/'])
  | .statement heading => heading.text ++ [';']
  | .group heading items => '@' :: (heading.text ++ '{' :: (Item.textAll items ++ ['}']))
  | .rule prelude body => prelude.text ++ '{' :: (body.text ++ ['}'])

/-- Items as text. -/
def Item.textAll : List Item → Text
  | [] => []
  | i :: is => Item.text i ++ Item.textAll is

end

mutual

/-- The rules of an item that stands at an offset, as they are written. -/
def Item.rules (offset : Nat) : Item → List Block
  | .blank _ _ => []
  | .comment _ _ => []
  | .statement _ => []
  | .group heading items => Item.rulesAll (offset + heading.text.length + 2) items
  | .rule prelude body =>
    [{  prelude := Text.trim (withoutComments prelude.text)
        body := body.text
        start := offset
        stop := offset + prelude.text.length + body.text.length + 2 }]

/-- The rules of items that stand at an offset, in order. -/
def Item.rulesAll (offset : Nat) : List Item → List Block
  | [] => []
  | i :: is => Item.rules offset i ++ Item.rulesAll (offset + (Item.text i).length) is

end

/-! ## Lexemes of closed texts -/

/-- A text without a star ends no comment. -/
theorem inComment_of_notMem {t : Text} (h : '*' ∉ t) : InComment t := by
  rintro a b rfl
  exact h (by simp)

theorem cutComment_inComment {inner : Text} (h : InComment inner) (s : Text) :
    cutComment (inner ++ '*' :: '/' :: s) = (inner ++ ['*', '/'], s) := by
  induction inner with
  | nil => rfl
  | cons c inner ih =>
    -- no star and slash stand next to each other before the end
    have hc : ¬ (c = '*' ∧ (inner ++ '*' :: '/' :: s).head? = some '/') := by
      rintro ⟨rfl, hhead⟩
      cases inner with
      | nil => simp at hhead
      | cons d inner =>
        obtain rfl : d = '/' := by simpa using hhead
        exact h [] inner rfl
    have hinner : InComment inner := by
      rintro a b rfl
      exact h (c :: a) b rfl
    rw [List.cons_append, cutComment_cons hc, ih hinner]
    rfl

theorem InString.stringRest {q : Char} {inner : Text} (h : InString q inner) (next : Text) :
    StringRest q (inner ++ [q]) next := by
  induction h with
  | nil => exact StringRest.closed
  | escape h ih => exact StringRest.escape ih
  | plain hb hq hn h ih => exact StringRest.plain hb hq hn ih

theorem cutString_inString {q : Char} {inner : Text} (hq : isQuote q = true) (h : InString q inner)
    (s : Text) : cutString q (inner ++ q :: s) = (inner ++ [q], s) := by
  have hcut := cutString_of_stringRest hq (h.stringRest s)
  rwa [List.append_assoc, List.singleton_append] at hcut

variable {bare : Char → Prop} {nests : Prop} {t : Text}

/-- A closed text is read without a look at what follows it, unless a slash at its end could open a
comment. -/
theorem Closed.lex_append (h : Closed bare nests t) {next : Text}
    (hnext : next.head? ≠ some '*') : lex (t ++ next) = lex t ++ lex next := by
  induction h generalizing next with
  | nil => simp
  | @comment inner t hi h ih =>
    have hcut : ∀ s, lex ('/' :: '*' :: (inner ++ '*' :: '/' :: s)) =
        .comment ('/' :: '*' :: (inner ++ ['*', '/'])) :: lex s := by
      intro s
      rw [lex_comment, cutComment_inComment hi]
    rw [List.cons_append, List.cons_append, List.append_assoc, List.cons_append, List.cons_append,
      hcut, hcut, ih hnext, List.cons_append]
  | @quoted q inner t hq hi h ih =>
    have hcut : ∀ s, lex (q :: (inner ++ q :: s)) = .quoted (q :: (inner ++ [q])) :: lex s := by
      intro s
      rw [lex_quoted _ hq, cutString_inString hq hi]
    rw [List.cons_append, List.append_assoc, List.cons_append, hcut, hcut, ih hnext,
      List.cons_append]
  | @plain c t hq hc hs h ih =>
    -- a slash at the end of the text is where what follows counts
    have hs' : ¬ (c = '/' ∧ (t ++ next).head? = some '*') := by
      cases t with
      | nil => exact fun hh => hnext hh.2
      | cons d t => simpa using hs
    rw [List.cons_append, lex_single hq hs', lex_single hq hs, ih hnext, List.cons_append]
  | @braces inner t hn hi h ihinner ih =>
    have hcut : ∀ s, lex ('{' :: (inner ++ '}' :: s)) =
        .single '{' :: (lex inner ++ .single '}' :: lex s) := by
      intro s
      rw [lex_single rfl (by simp), ihinner (by simp), lex_single rfl (by simp)]
    rw [List.cons_append, List.append_assoc, List.cons_append, hcut, hcut, ih hnext]
    simp

/-- A closed text closes the braces that it opens. -/
theorem Closed.nesting?_eq (h : Closed bare nests t) (hbare : ∀ c, bare c → c ≠ '{' ∧ c ≠ '}')
    (depth : Nat) : nesting? depth (lex t) = some depth := by
  induction h generalizing depth with
  | nil => simp
  | @comment inner t hi h ih =>
    rw [lex_comment, cutComment_inComment hi, nesting?_skip _ _ (by simp) (by simp)]
    exact ih depth
  | @quoted q inner t hq hi h ih =>
    rw [lex_quoted _ hq, cutString_inString hq hi, nesting?_skip _ _ (by simp) (by simp)]
    exact ih depth
  | @plain c t hq hc hs h ih =>
    have hb := hbare c hc
    rw [lex_single hq hs, nesting?_skip _ _ (by simpa using hb.1) (by simpa using hb.2)]
    exact ih depth
  | @braces inner t hn hi h ihinner ih =>
    rw [lex_single rfl (by simp), hi.lex_append (by simp), lex_single rfl (by simp), nesting?_open,
      nesting?_append, ihinner, Option.bind_some, nesting?_close]
    exact ih depth

/-- Nothing in a closed text without braces ends a prelude, but for characters that may stand in it. -/
theorem Closed.not_endsPrelude (h : Closed bare nests t) (hnests : ¬ nests)
    (hbare : ∀ c, bare c → c ≠ '{' ∧ c ≠ '}' ∧ c ≠ ';') :
    ∀ l ∈ lex t, l.endsPrelude = false := by
  induction h with
  | nil => simp
  | @comment inner t hi h ih =>
    rw [lex_comment, cutComment_inComment hi]
    intro l hl
    rcases List.mem_cons.1 hl with rfl | hl
    · rfl
    · exact ih l hl
  | @quoted q inner t hq hi h ih =>
    rw [lex_quoted _ hq, cutString_inString hq hi]
    intro l hl
    rcases List.mem_cons.1 hl with rfl | hl
    · rfl
    · exact ih l hl
  | @plain c t hq hc hs h ih =>
    have hb := hbare c hc
    rw [lex_single hq hs]
    intro l hl
    rcases List.mem_cons.1 hl with rfl | hl
    · simp [Lexeme.endsPrelude, hb.1, hb.2.1, hb.2.2]
    · exact ih l hl
  | braces hn hi h ihinner ih => exact absurd hn hnests

/-! ## Lexemes of items -/

theorem Heading.lex_append (h : Heading) {next : Text} (hnext : next.head? ≠ some '*') :
    lex (h.text ++ next) = lex h.text ++ lex next :=
  h.closed.lex_append hnext

theorem Heading.not_endsPrelude (h : Heading) : ∀ l ∈ lex h.text, l.endsPrelude = false :=
  h.closed.not_endsPrelude id fun _ hc => hc

theorem Heading.not_endsPrelude_at (h : Heading) :
    ∀ l ∈ Lexeme.single '@' :: lex h.text, l.endsPrelude = false := by
  intro l hl
  rcases List.mem_cons.1 hl with rfl | hl
  · rfl
  · exact h.not_endsPrelude l hl

theorem Body.balanced (b : Body) : Balanced (lex b.text) :=
  b.closed.nesting?_eq (fun _ hc => hc) 0

theorem lex_commentItem {inner : Text} (h : InComment inner) (next : Text) :
    lex ('/' :: '*' :: (inner ++ ['*', '/']) ++ next) =
      .comment ('/' :: '*' :: (inner ++ ['*', '/'])) :: lex next := by
  have happ : '/' :: '*' :: (inner ++ ['*', '/']) ++ next =
      '/' :: '*' :: (inner ++ '*' :: '/' :: next) := by simp
  rw [happ, lex_comment, cutComment_inComment h]

theorem lex_statement (h : Heading) (next : Text) :
    lex (h.text ++ [';'] ++ next) = lex h.text ++ .single ';' :: lex next := by
  rw [List.append_assoc, h.lex_append (by simp), List.singleton_append,
    lex_single rfl (by simp)]

theorem lex_rule (p : Prelude) (b : Body) (next : Text) :
    lex (p.text ++ '{' :: (b.text ++ ['}']) ++ next) =
      lex p.text ++ .single '{' :: lex b.text ++ .single '}' :: lex next := by
  rw [List.append_assoc, p.lex_append (by simp), List.cons_append, lex_single rfl (by simp),
    List.append_assoc, b.closed.lex_append (by simp), List.singleton_append,
    lex_single rfl (by simp)]
  simp

/-- The lexemes of an at-rule, given that those of its items do not hang on what follows. -/
theorem lex_group (h : Heading) {inner : Text} (next : Text)
    (hinner : ∀ s, lex (inner ++ s) = lex inner ++ lex s) :
    lex ('@' :: (h.text ++ '{' :: (inner ++ ['}'])) ++ next) =
      .single '@' :: lex h.text ++ .single '{' :: lex inner ++ .single '}' :: lex next := by
  rw [List.cons_append, List.append_assoc, lex_single rfl (by simp), h.lex_append (by simp),
    List.cons_append, lex_single rfl (by simp), List.append_assoc, hinner, List.singleton_append,
    lex_single rfl (by simp)]
  simp

/-- A text whose last lexeme stays what it is before every other text is read on its own. -/
theorem lex_append_of_last {s : Text} (ls : List Lexeme) {l : Lexeme}
    (h : ∀ next, lex (s ++ next) = ls ++ l :: lex next) (next : Text) :
    lex (s ++ next) = lex s ++ lex next := by
  have hnil : lex s = ls ++ [l] := by
    have h0 := h []
    rwa [List.append_nil, lex_nil] at h0
  rw [h, hnil, List.append_assoc, List.singleton_append]

mutual

/-- An item is read without a look at what follows it. -/
theorem Item.lex_append : ∀ (i : Item) (next : Text),
    lex (i.text ++ next) = lex i.text ++ lex next
  | .blank c h => by
    rw [Item.text]
    exact lex_append_of_last [] fun s => lex_blank h s
  | .comment inner h => by
    rw [Item.text]
    exact lex_append_of_last [] fun s => lex_commentItem h s
  | .statement h => by
    rw [Item.text]
    exact lex_append_of_last _ fun s => lex_statement h s
  | .group h items => by
    rw [Item.text]
    exact lex_append_of_last _ fun s => lex_group h s (Item.lex_append_all items)
  | .rule p b => by
    rw [Item.text]
    exact lex_append_of_last _ fun s => lex_rule p b s

/-- Items are read without a look at what follows them. -/
theorem Item.lex_append_all : ∀ (items : List Item) (next : Text),
    lex (Item.textAll items ++ next) = lex (Item.textAll items) ++ lex next
  | [], next => by simp [Item.textAll]
  | i :: is, next => by
    rw [Item.textAll, List.append_assoc, Item.lex_append i, Item.lex_append_all is,
      Item.lex_append i, List.append_assoc]

end

/-! ## Braces of items -/

theorem Heading.nesting?_eq (h : Heading) (depth : Nat) : nesting? depth (lex h.text) = some depth :=
  nesting?_head depth h.not_endsPrelude

mutual

/-- An item closes the braces that it opens. -/
theorem Item.nesting?_eq : ∀ (i : Item) (depth : Nat), nesting? depth (lex i.text) = some depth
  | .blank c h, depth => by
    have hlex := lex_blank h []
    have hc : ∀ l ∈ [Lexeme.single c], l.endsPrelude = false := by
      intro l hl
      rw [List.mem_singleton.1 hl]
      exact Lexeme.not_endsPrelude_of_isFiller h
    rw [Item.text, hlex, lex_nil, nesting?_head depth hc]
  | .comment inner h, depth => by
    have hlex := lex_commentItem h []
    rw [List.append_nil, lex_nil] at hlex
    rw [Item.text, hlex, nesting?_skip _ _ (by simp) (by simp), nesting?_nil]
  | .statement h, depth => by
    have hlex := lex_statement h []
    rw [List.append_nil, lex_nil] at hlex
    rw [Item.text, hlex, nesting?_append, nesting?_head depth h.not_endsPrelude, Option.bind_some,
      nesting?_skip _ _ (by simp) (by simp), nesting?_nil]
  | .group h items, depth => by
    have hlex := lex_group h [] (Item.lex_append_all items)
    rw [List.append_nil, lex_nil] at hlex
    rw [Item.text, hlex, nesting?_rule depth _ h.not_endsPrelude_at (Item.balanced_all items),
      nesting?_nil]
  | .rule p b, depth => by
    have hlex := lex_rule p b []
    rw [List.append_nil, lex_nil] at hlex
    rw [Item.text, hlex, nesting?_rule depth _ p.not_endsPrelude b.balanced, nesting?_nil]

/-- Items close the braces that they open. -/
theorem Item.balanced_all : ∀ items : List Item, Balanced (lex (Item.textAll items))
  | [] => by simp [Item.textAll, Balanced]
  | i :: is => by
    rw [Balanced, Item.textAll, Item.lex_append, nesting?_append, Item.nesting?_eq i,
      Option.bind_some]
    exact Item.balanced_all is

end

/-! ## Blocks of items -/

/-- The first lexeme of a prelude is no filler, and what it shows begins with no at sign. -/
theorem Prelude.lex_eq_cons (p : Prelude) :
    ∃ l ls c s, lex p.text = l :: ls ∧ l.isFiller = false ∧ l.visible = c :: s ∧ c ≠ '@' ∧
      isBlank c = false := by
  rcases p.begins with ⟨c, t, htext, hat, hblank, hslash⟩
  -- a prelude begins with a string or with a single character, and both are visible
  cases hq : isQuote c with
  | true =>
    have hlex := lex_quoted t hq
    exact ⟨_, _, c, _, by rw [htext, hlex], rfl, rfl, hat, hblank⟩
  | false =>
    have hlex := lex_single hq hslash
    have hfill : (Lexeme.single c).isFiller = false := hblank
    exact ⟨_, _, c, [], by rw [htext, hlex], hfill, rfl, hat, hblank⟩

theorem Prelude.not_isFiller (p : Prelude) : ∀ l ∈ (lex p.text).head?, l.isFiller = false := by
  rcases p.lex_eq_cons with ⟨l, ls, c, s, hlex, hfill, -, -, -⟩
  simpa [hlex] using hfill

theorem Prelude.head?_trim (p : Prelude) :
    (Text.trim (visible (lex p.text))).head? ≠ some '@' := by
  rcases p.lex_eq_cons with ⟨l, ls, c, s, hlex, -, hvis, hat, hblank⟩
  rw [hlex, visible_cons, hvis, List.cons_append, Text.head?_trim_cons _ hblank]
  simpa using hat

theorem head?_trim_at (ls : List Lexeme) :
    (Text.trim (visible (.single '@' :: ls))).head? = some '@' := by
  rw [visible_cons]
  exact Text.head?_trim_cons _ (by decide)

mutual

/-- Scanning an item finds its rules. -/
theorem Item.scan_text : ∀ (i : Item) (offset : Nat) (ls : List Lexeme),
    scan offset (lex i.text ++ ls) = i.rules offset ++ scan (offset + i.text.length) ls
  | .blank c h, offset, ls => by
    have hlex := lex_blank h []
    have hfill : (Lexeme.single c).isFiller = true := h
    rw [Item.text, hlex, lex_nil, List.singleton_append, scan_filler _ _ hfill]
    rfl
  | .comment inner h, offset, ls => by
    have hlex := lex_commentItem h []
    rw [List.append_nil, lex_nil] at hlex
    rw [Item.text, hlex, List.singleton_append, scan_filler _ _ rfl]
    rfl
  | .statement h, offset, ls => by
    have hlex := lex_statement h []
    rw [List.append_nil, lex_nil] at hlex
    rw [Item.text, hlex, List.append_assoc, List.singleton_append,
      scan_loose _ h.not_endsPrelude rfl (by simp), flatten_lex]
    simp [Item.rules, Nat.add_assoc]
  | .group h items, offset, ls => by
    have hlex := lex_group h [] (Item.lex_append_all items)
    rw [List.append_nil, lex_nil] at hlex
    -- the items of the at-rule stand behind its at sign, its heading and its brace
    have hlen : offset + (flatten (.single '@' :: lex h.text)).length + 1 =
        offset + h.text.length + 2 := by
      simp [flatten_lex]
      omega
    have hfirst : ∀ l ∈ (Lexeme.single '@' :: lex h.text).head?, l.isFiller = false := by
      intro l hl
      obtain rfl : .single '@' = l := by simpa using hl
      rfl
    -- nothing stands behind them in the body
    have hinner : scan (offset + h.text.length + 2) (lex (Item.textAll items)) =
        Item.rulesAll (offset + h.text.length + 2) items := by
      have hall := Item.scan_textAll items (offset + h.text.length + 2) []
      rwa [List.append_nil, scan_nil, List.append_nil] at hall
    rw [Item.text, hlex, List.append_assoc, List.singleton_append,
      scan_group _ h.not_endsPrelude_at hfirst (Item.balanced_all items) (head?_trim_at _), hlen,
      hinner, Item.rules]
    congr 2
    simp [flatten_lex]
    omega
  | .rule p b, offset, ls => by
    have hlex := lex_rule p b []
    rw [List.append_nil, lex_nil] at hlex
    rw [Item.text, hlex, List.append_assoc, List.singleton_append,
      scan_rule _ p.not_endsPrelude p.not_isFiller b.balanced p.head?_trim, flatten_lex,
      flatten_lex]
    simp [Item.rules, withoutComments, Nat.add_assoc]

/-- Scanning items finds their rules. -/
theorem Item.scan_textAll : ∀ (items : List Item) (offset : Nat) (ls : List Lexeme),
    scan offset (lex (Item.textAll items) ++ ls) =
      Item.rulesAll offset items ++ scan (offset + (Item.textAll items).length) ls
  | [], offset, ls => by simp [Item.textAll, Item.rulesAll]
  | i :: is, offset, ls => by
    rw [Item.textAll, Item.lex_append, List.append_assoc, Item.scan_text i, Item.scan_textAll is,
      Item.rulesAll, List.append_assoc, List.length_append, Nat.add_assoc]

end

/-- The blocks of a well-formed stylesheet are exactly its rules, in source order and where they
stand, at every depth; at-rules themselves are not among them. -/
theorem blocks_textAll (sheet : List Item) :
    blocks (Item.textAll sheet) = Item.rulesAll 0 sheet ∧
      ∀ b ∈ blocks (Item.textAll sheet), b.prelude.head? ≠ some '@' := by
  constructor
  · have hall := Item.scan_textAll sheet 0 []
    rwa [List.append_nil, scan_nil, List.append_nil] at hall
  · intro b hb
    exact head?_prelude_of_mem_scan hb

end GeneratedContent.Css
