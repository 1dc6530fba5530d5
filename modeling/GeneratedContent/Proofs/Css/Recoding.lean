import GeneratedContent.Proofs.Css.Passage
import GeneratedContent.Proofs.Text.Blank

/-!
# Exchanging comments and strings

Comments and strings carry no structure: exchange every comment for fillers and every string for
another one, and each function that looks at lexemes does what it did before, lexeme by lexeme. There
is one lemma for each of them, and together they say that the rules are the same rules, with their
comments and strings exchanged (`Outlined.recode`).
-/

namespace GeneratedContent.Css

/-- What comments and strings are exchanged for. -/
structure Recoding where
  /-- What stands for a comment. -/
  comment : Text → List Lexeme
  /-- What stands for a string. -/
  quoted : Text → Text
  /-- Fillers stand for a comment. -/
  isFiller_comment : ∀ t, ∀ l ∈ comment t, l.isFiller = true
  /-- A string begins as before. -/
  head?_quoted : ∀ t, (quoted t).head? = t.head?

namespace Recoding

variable (m : Recoding)

/-- What stands for a lexeme; a single character stays. -/
def lexeme : Lexeme → List Lexeme
  | .comment t => m.comment t
  | .quoted t => [.quoted (m.quoted t)]
  | .single c => [.single c]

/-- What stands for lexemes. -/
def lexemes (ls : List Lexeme) : List Lexeme := ls.flatMap m.lexeme

@[simp] theorem lexemes_nil : m.lexemes [] = [] := rfl

@[simp] theorem lexemes_cons (l : Lexeme) (ls : List Lexeme) :
    m.lexemes (l :: ls) = m.lexeme l ++ m.lexemes ls := by
  simp [lexemes]

@[simp] theorem lexemes_append (as bs : List Lexeme) :
    m.lexemes (as ++ bs) = m.lexemes as ++ m.lexemes bs := by
  simp [lexemes]

@[simp] theorem lexeme_single (c : Char) : m.lexeme (.single c) = [.single c] := rfl

/-! ## Heads -/

theorem isFiller_lexeme {l : Lexeme} (hl : l.isFiller = true) :
    ∀ k ∈ m.lexeme l, k.isFiller = true := by
  cases l with
  | comment t => exact m.isFiller_comment t
  | quoted t => simp [Lexeme.isFiller] at hl
  | single c => simpa using hl

theorem lexeme_of_endsPrelude {l : Lexeme} (hl : l.endsPrelude = true) : m.lexeme l = [l] := by
  rcases Lexeme.endsPrelude_iff.1 hl with rfl | rfl | rfl <;> rfl

theorem not_endsPrelude_lexeme {l : Lexeme} (hl : l.endsPrelude = false) :
    ∀ k ∈ m.lexeme l, k.endsPrelude = false := by
  cases l with
  | comment t => exact fun k hk => Lexeme.not_endsPrelude_of_isFiller (m.isFiller_comment t k hk)
  | quoted t => simp [lexeme, Lexeme.endsPrelude]
  | single c => simpa using hl

theorem not_endsPrelude_lexemes {head : List Lexeme} (hhead : ∀ l ∈ head, l.endsPrelude = false) :
    ∀ k ∈ m.lexemes head, k.endsPrelude = false := by
  intro k hk
  rcases List.mem_flatMap.1 hk with ⟨l, hl, hk⟩
  exact m.not_endsPrelude_lexeme (hhead l hl) k hk

/-- What a prelude can begin with is exchanged for one lexeme, with the same first character. -/
theorem exists_lexeme_of_begins {l : Lexeme} (hl : l.Begins) :
    ∃ k, m.lexeme l = [k] ∧ k.Begins ∧ k.text.head? = l.text.head? := by
  rcases hl.notBlank with ⟨c, s, htext, hc⟩
  cases l with
  | comment t => exact absurd hl.notFiller (by simp [Lexeme.isFiller])
  | quoted t =>
    have htext : t = c :: s := htext
    have hhead : (m.quoted t).head? = some c := by rw [m.head?_quoted, htext]; rfl
    rcases List.head?_eq_some_iff.1 hhead with ⟨s', hs'⟩
    exact ⟨.quoted (m.quoted t), rfl, ⟨rfl, c, s', hs', hc⟩, m.head?_quoted t⟩
  | single d => exact ⟨.single d, rfl, hl, rfl⟩

theorem begins_lexemes {head : List Lexeme} (hfirst : ∀ l ∈ head.head?, l.Begins) :
    ∀ k ∈ (m.lexemes head).head?, k.Begins := by
  cases head with
  | nil => simp
  | cons l head =>
    rcases m.exists_lexeme_of_begins (hfirst l rfl) with ⟨k, hk, hbegins, -⟩
    rw [lexemes_cons, hk]
    rintro k' hk'
    obtain rfl : k = k' := by simpa using hk'
    exact hbegins

/-- The prelude begins with the same character. -/
theorem head?_prelude {head : List Lexeme} (hfirst : ∀ l ∈ head.head?, l.Begins) :
    (Text.trim (visible (m.lexemes head))).head? = (Text.trim (visible head)).head? := by
  -- trimming leaves a first character that is not blank
  have hprelude : ∀ (l : Lexeme) (ls : List Lexeme), l.Begins →
      (Text.trim (visible (l :: ls))).head? = l.text.head? := by
    intro l ls hl
    rcases hl.notBlank with ⟨c, s, htext, hc⟩
    have hvisible : l.visible = l.text := by
      cases l with
      | comment t => exact absurd hl.notFiller (by simp [Lexeme.isFiller])
      | quoted t => rfl
      | single d => rfl
    rw [visible, List.flatMap_cons, hvisible, htext, List.cons_append, Text.head?_trim_cons _ hc]
    rfl
  cases head with
  | nil => rfl
  | cons l head =>
    rcases m.exists_lexeme_of_begins (hfirst l rfl) with ⟨k, hk, hbegins, hsame⟩
    rw [lexemes_cons, hk, List.singleton_append, hprelude k _ hbegins, hsame,
      hprelude l _ (hfirst l rfl)]

/-! ## Braces -/

theorem nesting?_lexemes (depth : Nat) (ls : List Lexeme) :
    nesting? depth (m.lexemes ls) = nesting? depth ls := by
  fun_induction nesting? depth ls with
  | case1 depth => rfl
  | case2 depth ls ih => simpa using ih
  | case3 ls ho => simp [nesting?]
  | case4 ls depth ho ih => simpa using ih
  | case5 depth l ls ho hc ih =>
    cases hl : l.endsPrelude with
    | true => rw [lexemes_cons, m.lexeme_of_endsPrelude hl, List.singleton_append,
        nesting?_skip _ _ ho hc, ih]
    | false => rw [lexemes_cons, nesting?_append,
        nesting?_head depth (m.not_endsPrelude_lexeme hl), Option.bind_some, ih]

/-- The body that is cut is the body that was cut, exchanged. -/
theorem cutBody?_lexemes (depth : Nat) (ls : List Lexeme) :
    cutBody? depth (m.lexemes ls) =
      (cutBody? depth ls).map fun r => (m.lexemes r.1, m.lexemes r.2) := by
  fun_induction cutBody? depth ls with
  | case1 => simp [cutBody?]
  | case2 depth ls ih => simp [cutBody?, ih, Function.comp_def]
  | case3 ls ho => simp [cutBody?]
  | case4 ls depth ho ih => simp [cutBody?, ih, Function.comp_def]
  | case5 depth l ls ho hc ih =>
    rw [lexemes_cons, Option.map_map]
    -- a semicolon stays, and other lexemes are exchanged for lexemes that end no prelude
    cases hl : l.endsPrelude with
    | true =>
      rw [m.lexeme_of_endsPrelude hl, List.singleton_append, cutBody?_skip _ _ ho hc, ih,
        Option.map_map]
      simp [Function.comp_def, m.lexeme_of_endsPrelude hl]
    | false =>
      rw [cutBody?_head_append _ _ (m.not_endsPrelude_lexeme hl), ih, Option.map_map]
      simp [Function.comp_def]

end Recoding

/-! ## Rules -/

/-- The rule with its comments and strings exchanged. -/
def Passage.recode (m : Recoding) (p : Passage) : Passage where
  before := m.lexemes p.before
  head := m.lexemes p.head
  body := m.lexemes p.body
  unended := m.not_endsPrelude_lexemes p.unended
  begins := m.begins_lexemes p.begins
  balanced := (m.nesting?_lexemes 0 p.body).trans p.balanced
  notAt := by
    rw [m.head?_prelude p.begins]
    exact p.notAt

theorem Passage.map_recode_behind (m : Recoding) (front : List Lexeme) (ps : List Passage) :
    (ps.map (behind front)).map (recode m) = (ps.map (recode m)).map (behind (m.lexemes front)) := by
  rw [List.map_map, List.map_map]
  apply List.map_congr_left
  intro p _
  simp [behind, recode]

theorem Outlined.fillers {front ls : List Lexeme} {ps : List Passage}
    (hfront : ∀ l ∈ front, l.isFiller = true) (h : Outlined ls ps) :
    Outlined (front ++ ls) (ps.map (.behind front)) := by
  induction front with
  | nil =>
    have hsame : ps.map (Passage.behind []) = ps := List.map_id' ps
    rw [hsame]
    exact h
  | cons l front ih =>
    have hrest := Outlined.filler (hfront l List.mem_cons_self)
      (ih fun l' hl' => hfront l' (List.mem_cons_of_mem _ hl'))
    rw [List.map_map] at hrest
    exact hrest

/-- Where comments and strings are exchanged, the rules are the same, with their comments and strings
exchanged. -/
theorem Outlined.recode (m : Recoding) {ls : List Lexeme} {ps : List Passage} (h : Outlined ls ps) :
    Outlined (m.lexemes ls) (ps.map (Passage.recode m)) := by
  induction h with
  | @filler l ls ps hl h ih =>
    rw [Passage.map_recode_behind, m.lexemes_cons, m.lexemes_cons, m.lexemes_nil, List.append_nil]
    exact ih.fillers (m.isFiller_lexeme hl)
  | tail hhead => exact Outlined.tail (m.not_endsPrelude_lexemes hhead)
  | @loose head after mark ps hhead hmark hopen h ih =>
    have hloose := Outlined.loose (m.not_endsPrelude_lexemes hhead) hmark hopen ih
    rw [Passage.map_recode_behind]
    simpa [m.lexeme_of_endsPrelude hmark] using hloose
  | @unclosed head after hhead hnone =>
    have hnone' : cutBody? 0 (m.lexemes after) = none := by rw [m.cutBody?_lexemes, hnone]; rfl
    simpa using Outlined.unclosed (m.not_endsPrelude_lexemes hhead) hnone'
  | @rule head body next ps hhead hfirst hbody hat h ih =>
    have hrule := Outlined.rule (m.not_endsPrelude_lexemes hhead) (m.begins_lexemes hfirst)
      ((m.nesting?_lexemes 0 body).trans hbody) (m.head?_prelude hfirst ▸ hat) ih
    rw [List.map_cons, Passage.map_recode_behind]
    simpa [braced, Passage.recode] using hrule
  | @group head body next inner ps hhead hfirst hbody hat hinner h ihinner ih =>
    have hgroup := Outlined.group (m.not_endsPrelude_lexemes hhead) (m.begins_lexemes hfirst)
      ((m.nesting?_lexemes 0 body).trans hbody) ((m.head?_prelude hfirst).trans hat) ihinner ih
    rw [List.map_append, Passage.map_recode_behind, Passage.map_recode_behind]
    simpa [braced] using hgroup

end GeneratedContent.Css
