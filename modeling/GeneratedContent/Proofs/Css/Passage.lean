import GeneratedContent.Proofs.Css.Outline

/-!
# Rules among lexemes

A block is a pair of texts with offsets. Here the rules of a stylesheet are taken together with the
lexemes that they are made of (`Passage`), so that what holds of lexemes can be said of blocks. The
passages of lexemes are given by one constructor for each way in which lexemes can go on (`Outlined`).
Scanning finds the blocks of the passages, wherever the lexemes stand (`Outlined.scan_eq`), and each
passage is a part of the lexemes (`Outlined.exists_eq`).
-/

namespace GeneratedContent.Css

/-- Whether a prelude can begin with a lexeme. -/
structure Lexeme.Begins (l : Lexeme) : Prop where
  /-- It is neither a blank nor a comment. -/
  notFiller : l.isFiller = false
  /-- Its first character is not blank. -/
  notBlank : ∃ c s, l.text = c :: s ∧ isBlank c = false

/-- A rule among lexemes. -/
structure Passage where
  /-- What stands before the rule. -/
  before : List Lexeme
  /-- What stands before the braces of the rule. -/
  head : List Lexeme
  /-- What stands between the braces. -/
  body : List Lexeme
  /-- Nothing in the head ends it. -/
  unended : ∀ l ∈ head, l.endsPrelude = false
  /-- How the head begins. -/
  begins : ∀ l ∈ head.head?, l.Begins
  /-- The body closes the braces that it opens, and no others. -/
  balanced : Balanced body
  /-- The rule is no at-rule. -/
  notAt : (Text.trim (visible head)).head? ≠ some '@'

/-- The lexemes of a rule with a head and a body. -/
def braced (head body : List Lexeme) : List Lexeme :=
  head ++ .single '{' :: body ++ [.single '}']

theorem braced_append (head body next : List Lexeme) :
    braced head body ++ next = head ++ .single '{' :: body ++ .single '}' :: next := by
  simp [braced]

theorem length_flatten_braced (head body : List Lexeme) :
    (flatten (braced head body)).length = (flatten head).length + (flatten body).length + 2 := by
  simp [braced]
  omega

namespace Passage

/-- The same rule with more lexemes before it. -/
def behind (front : List Lexeme) (p : Passage) : Passage := { p with before := front ++ p.before }

/-- The block of a rule among lexemes that stand at an offset. -/
def block (offset : Nat) (p : Passage) : Block where
  prelude := Text.trim (visible p.head)
  body := flatten p.body
  start := offset + (flatten p.before).length
  stop := offset + (flatten p.before).length + (flatten p.head).length + (flatten p.body).length + 2

theorem block_behind (offset : Nat) (front : List Lexeme) (p : Passage) :
    (p.behind front).block offset = p.block (offset + (flatten front).length) := by
  simp [behind, block, Nat.add_assoc]

theorem map_block_behind (offset : Nat) (front : List Lexeme) (ps : List Passage) :
    (ps.map (behind front)).map (block offset) =
      ps.map (block (offset + (flatten front).length)) := by
  rw [List.map_map]
  exact List.map_congr_left fun p _ => block_behind offset front p

end Passage

/-- Whether passages are the rules among lexemes, at every depth and in order. -/
inductive Outlined : List Lexeme → List Passage → Prop where
  /-- The rules stand behind a filler. -/
  | filler {l : Lexeme} {ls : List Lexeme} {ps : List Passage} (hl : l.isFiller = true)
    (h : Outlined ls ps) : Outlined (l :: ls) (ps.map (.behind [l]))
  /-- A head without a mark holds no rule. -/
  | tail {head : List Lexeme} (hhead : ∀ l ∈ head, l.endsPrelude = false) : Outlined head []
  /-- The rules stand behind a head with a semicolon or a closing brace. -/
  | loose {head after : List Lexeme} {mark : Lexeme} {ps : List Passage}
    (hhead : ∀ l ∈ head, l.endsPrelude = false) (hmark : mark.endsPrelude = true)
    (hopen : mark ≠ .single '{') (h : Outlined after ps) :
    Outlined (head ++ mark :: after) (ps.map (.behind (head ++ [mark])))
  /-- There is no rule from a head with an unclosed brace on. -/
  | unclosed {head after : List Lexeme} (hhead : ∀ l ∈ head, l.endsPrelude = false)
    (hnone : cutBody? 0 after = none) : Outlined (head ++ .single '{' :: after) []
  /-- A rule comes first. -/
  | rule {head body next : List Lexeme} {ps : List Passage}
    (hhead : ∀ l ∈ head, l.endsPrelude = false) (hfirst : ∀ l ∈ head.head?, l.Begins)
    (hbody : Balanced body) (hat : (Text.trim (visible head)).head? ≠ some '@')
    (h : Outlined next ps) :
    Outlined (head ++ .single '{' :: body ++ .single '}' :: next)
      (⟨[], head, body, hhead, hfirst, hbody, hat⟩ :: ps.map (.behind (braced head body)))
  /-- The rules of an at-rule come first. -/
  | group {head body next : List Lexeme} {inner ps : List Passage}
    (hhead : ∀ l ∈ head, l.endsPrelude = false) (hfirst : ∀ l ∈ head.head?, l.Begins)
    (hbody : Balanced body) (hat : (Text.trim (visible head)).head? = some '@')
    (hinner : Outlined body inner) (h : Outlined next ps) :
    Outlined (head ++ .single '{' :: body ++ .single '}' :: next)
      (inner.map (.behind (head ++ [.single '{'])) ++ ps.map (.behind (braced head body)))

/-! ## Lexemes that read back have an outline -/

/-- A lexeme that reads back and is no filler can begin a prelude. -/
theorem Lexed.begins {l : Lexeme} {ls : List Lexeme} (h : Lexed (l :: ls))
    (hl : l.isFiller = false) : l.Begins := by
  refine ⟨hl, ?_⟩
  cases l with
  | comment t => simp [Lexeme.isFiller] at hl
  | quoted t =>
    rcases Lexeme.fits_quoted.1 (lexed_cons.1 h).1 with ⟨q, u, hq, rfl, -⟩
    -- no quote is blank
    have hquotes : q = '"' ∨ q = '\'' := by simpa [isQuote] using hq
    refine ⟨q, u, rfl, ?_⟩
    rcases hquotes with rfl | rfl
    · decide
    · decide
  | single c => exact ⟨c, [], rfl, hl⟩

theorem Lexed.head_begins {head ls : List Lexeme} (h : Lexed (head ++ ls))
    (hfirst : ∀ l ∈ head.head?, l.isFiller = false) : ∀ l ∈ head.head?, l.Begins := by
  intro l hl
  rcases List.head?_eq_some_iff.1 hl with ⟨rest, rfl⟩
  exact Lexed.begins h (hfirst l hl)

/-- The body of a rule reads back, and so does what stands behind the rule. -/
theorem Lexed.of_rule {head body next : List Lexeme}
    (h : Lexed (head ++ .single '{' :: body ++ .single '}' :: next)) : Lexed body ∧ Lexed next := by
  have hbehind : Lexed (.single '}' :: next) := h.of_append
  rw [List.append_assoc] at h
  have hbody : Lexed (body ++ .single '}' :: next) := (lexed_cons.1 h.of_append).2
  exact ⟨hbody.of_append_left, (lexed_cons.1 hbehind).2⟩

/-- Lexemes that read back have an outline. -/
theorem exists_outlined {ls : List Lexeme} (hlex : Lexed ls) : ∃ ps, Outlined ls ps := by
  induction ls using scan_induction with
  | filler l ls hl ih =>
    rcases ih (lexed_cons.1 hlex).2 with ⟨ps, h⟩
    exact ⟨_, Outlined.filler hl h⟩
  | tail head hhead => exact ⟨[], Outlined.tail hhead⟩
  | loose head mark after hhead hmark hopen ih =>
    rcases ih (lexed_cons.1 hlex.of_append).2 with ⟨ps, h⟩
    exact ⟨_, Outlined.loose hhead hmark hopen h⟩
  | unclosed head after hhead hnone => exact ⟨[], Outlined.unclosed hhead hnone⟩
  | rule head body next hhead hfirst hbody hat ih =>
    rcases ih hlex.of_rule.2 with ⟨ps, h⟩
    rw [List.append_assoc] at hlex
    exact ⟨_, Outlined.rule hhead (hlex.head_begins hfirst) hbody hat h⟩
  | group head body next hhead hfirst hbody hat ihbody ihnext =>
    rcases ihbody hlex.of_rule.1 with ⟨inner, hinner⟩
    rcases ihnext hlex.of_rule.2 with ⟨ps, h⟩
    rw [List.append_assoc] at hlex
    exact ⟨_, Outlined.group hhead (hlex.head_begins hfirst) hbody hat hinner h⟩

/-! ## What an outline says -/

theorem notFiller_of_begins {head : List Lexeme} (h : ∀ l ∈ head.head?, l.Begins) :
    ∀ l ∈ head.head?, l.isFiller = false := fun l hl => (h l hl).notFiller

/-- Scanning finds the blocks of the passages. -/
theorem Outlined.scan_eq {ls : List Lexeme} {ps : List Passage} (h : Outlined ls ps)
    (offset : Nat) : scan offset ls = ps.map (Passage.block offset) := by
  induction h generalizing offset with
  | @filler l ls ps hl h ih =>
    rw [scan_filler _ _ hl, ih, Passage.map_block_behind]
    simp
  | tail hhead => exact scan_tail _ hhead
  | @loose head after mark ps hhead hmark hopen h ih =>
    rw [scan_loose _ hhead hmark hopen, ih, Passage.map_block_behind]
    simp [length_of_endsPrelude hmark, Nat.add_assoc]
  | unclosed hhead hnone => exact scan_unclosed _ hhead hnone
  | @rule head body next ps hhead hfirst hbody hat h ih =>
    rw [scan_rule _ hhead (notFiller_of_begins hfirst) hbody hat, ih, List.map_cons,
      Passage.map_block_behind, length_flatten_braced]
    simp [Passage.block, Nat.add_assoc]
  | @group head body next inner ps hhead hfirst hbody hat hinner h ihinner ih =>
    rw [scan_group _ hhead (notFiller_of_begins hfirst) hbody hat, ihinner, ih, List.map_append,
      Passage.map_block_behind, Passage.map_block_behind, length_flatten_braced]
    simp [Nat.add_assoc]

/-- A passage is a part of the lexemes, with its head and its body in braces. -/
theorem Outlined.exists_eq {ls : List Lexeme} {ps : List Passage} (h : Outlined ls ps) {p : Passage}
    (hp : p ∈ ps) : ∃ after, ls = p.before ++ (braced p.head p.body ++ after) := by
  induction h generalizing p with
  | @filler l ls ps hl h ih =>
    rcases List.mem_map.1 hp with ⟨q, hq, rfl⟩
    rcases ih hq with ⟨after, rfl⟩
    exact ⟨after, rfl⟩
  | tail hhead => exact absurd hp List.not_mem_nil
  | @loose head after mark ps hhead hmark hopen h ih =>
    rcases List.mem_map.1 hp with ⟨q, hq, rfl⟩
    rcases ih hq with ⟨rest, rfl⟩
    exact ⟨rest, by simp [Passage.behind]⟩
  | unclosed hhead hnone => exact absurd hp List.not_mem_nil
  | @rule head body next ps hhead hfirst hbody hat h ih =>
    rcases List.mem_cons.1 hp with rfl | hp
    · exact ⟨next, (braced_append head body next).symm⟩
    · rcases List.mem_map.1 hp with ⟨q, hq, rfl⟩
      rcases ih hq with ⟨rest, rfl⟩
      exact ⟨rest, by simp [Passage.behind, braced]⟩
  | @group head body next inner ps hhead hfirst hbody hat hinner h ihinner ih =>
    -- the passages of the body lie between the braces, the others behind them
    rcases List.mem_append.1 hp with hp | hp
    · rcases List.mem_map.1 hp with ⟨q, hq, rfl⟩
      rcases ihinner hq with ⟨rest, rfl⟩
      exact ⟨rest ++ .single '}' :: next, by simp [Passage.behind]⟩
    · rcases List.mem_map.1 hp with ⟨q, hq, rfl⟩
      rcases ih hq with ⟨rest, rfl⟩
      exact ⟨rest, by simp [Passage.behind, braced]⟩

/-- The body of a passage of lexemes that read back reads back. -/
theorem Outlined.lexed_body {ls : List Lexeme} {ps : List Passage} (h : Outlined ls ps)
    (hlex : Lexed ls) {p : Passage} (hp : p ∈ ps) : Lexed p.body := by
  rcases h.exists_eq hp with ⟨after, rfl⟩
  have hrule : Lexed (braced p.head p.body ++ after) := hlex.of_append
  rw [braced_append] at hrule
  exact hrule.of_rule.1

end GeneratedContent.Css
