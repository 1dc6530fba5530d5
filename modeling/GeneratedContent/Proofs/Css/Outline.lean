import GeneratedContent.Css.Block
import GeneratedContent.Proofs.Css.Lexing

/-!
# The outline of a stylesheet

The blocks of a stylesheet are found by one recursion over its lexemes. This module says once what
that recursion does (`scan_filler`, `scan_loose`, `scan_unclosed`, `scan_rule`, `scan_group`), that
these are all the ways in which lexemes can go on (`scan_induction`), and which lexemes are the
body of a block: those that leave no brace open (`cutBody?_eq_some`).
-/

namespace GeneratedContent.Css

/-! ## Open braces -/

/-- How many braces are open after lexemes, with `depth` open before them; none if they close a
brace that is not open. -/
def nesting? : (depth : Nat) → List Lexeme → Option Nat
  | depth, [] => some depth
  | depth, l :: ls =>
    if l = .single '{' then nesting? (depth + 1) ls
    else if l = .single '}' then
      match depth with
      | 0 => none
      | depth + 1 => nesting? depth ls
    else nesting? depth ls

/-- Whether lexemes close all braces that they open, and no others. -/
def Balanced (ls : List Lexeme) : Prop := nesting? 0 ls = some 0

@[simp] theorem nesting?_nil (depth : Nat) : nesting? depth [] = some depth := rfl

@[simp] theorem nesting?_open (depth : Nat) (ls : List Lexeme) :
    nesting? depth (.single '{' :: ls) = nesting? (depth + 1) ls := by
  simp [nesting?]

@[simp] theorem nesting?_close (depth : Nat) (ls : List Lexeme) :
    nesting? (depth + 1) (.single '}' :: ls) = nesting? depth ls := by
  simp [nesting?]

theorem nesting?_skip {l : Lexeme} (depth : Nat) (ls : List Lexeme) (ho : l ≠ .single '{')
    (hc : l ≠ .single '}') : nesting? depth (l :: ls) = nesting? depth ls := by
  simp [nesting?, ho, hc]

theorem cutBody?_skip {l : Lexeme} (depth : Nat) (ls : List Lexeme) (ho : l ≠ .single '{')
    (hc : l ≠ .single '}') :
    cutBody? depth (l :: ls) = (cutBody? depth ls).map fun r => (l :: r.1, r.2) := by
  simp [cutBody?, ho, hc]

theorem nesting?_append (depth : Nat) (as bs : List Lexeme) :
    nesting? depth (as ++ bs) = (nesting? depth as).bind fun d => nesting? d bs := by
  fun_induction nesting? depth as with
  | case1 depth => rfl
  | case2 depth as ih => simp [ih]
  | case3 as ho => simp [nesting?]
  | case4 as depth ho ih => simpa using ih
  | case5 depth l as ho hc ih => rw [List.cons_append, nesting?_skip _ _ ho hc, ih]

/-- More open braces before stay open. -/
theorem nesting?_add {depth d : Nat} {ls : List Lexeme} (k : Nat) (h : nesting? depth ls = some d) :
    nesting? (depth + k) ls = some (d + k) := by
  fun_induction nesting? depth ls with
  | case1 depth =>
    obtain rfl : depth = d := by simpa using h
    rfl
  | case2 depth ls ih =>
    rw [nesting?_open, Nat.add_right_comm]
    exact ih h
  | case3 ls ho => simp at h
  | case4 ls depth ho ih =>
    rw [Nat.succ_eq_add_one, Nat.add_right_comm, nesting?_close]
    exact ih h
  | case5 depth l ls ho hc ih =>
    rw [nesting?_skip _ _ ho hc]
    exact ih h

theorem nesting?_of_balanced {body : List Lexeme} (depth : Nat) (h : Balanced body) :
    nesting? depth body = some depth := by
  have h' := nesting?_add depth h
  simpa using h'

/-- A body is what stands before the brace that closes its opening brace. -/
theorem cutBody?_eq_some {depth : Nat} {ls body rest : List Lexeme} :
    cutBody? depth ls = some (body, rest) ↔
      ls = body ++ .single '}' :: rest ∧ nesting? depth body = some 0 := by
  constructor
  · intro h
    refine ⟨cutBody?_append h, ?_⟩
    -- the braces are counted in the same way as the body is cut
    fun_induction cutBody? depth ls generalizing body with
    | case1 => simp at h
    | case2 depth ls ih =>
      rcases Option.map_eq_some_iff.1 h with ⟨r, hr, e⟩
      rcases Prod.mk.inj e with ⟨rfl, rfl⟩
      rw [nesting?_open]
      exact ih hr
    | case3 ls ho =>
      rcases Prod.mk.inj (Option.some.inj h) with ⟨rfl, rfl⟩
      rfl
    | case4 ls depth ho ih =>
      rcases Option.map_eq_some_iff.1 h with ⟨r, hr, e⟩
      rcases Prod.mk.inj e with ⟨rfl, rfl⟩
      rw [nesting?_close]
      exact ih hr
    | case5 depth l ls ho hc ih =>
      rcases Option.map_eq_some_iff.1 h with ⟨r, hr, e⟩
      rcases Prod.mk.inj e with ⟨rfl, rfl⟩
      rw [nesting?_skip _ _ ho hc]
      exact ih hr
  · rintro ⟨rfl, h⟩
    fun_induction nesting? depth body with
    | case1 depth =>
      obtain rfl : depth = 0 := by simpa using h
      simp [cutBody?]
    | case2 depth body ih => simp [cutBody?, ih h]
    | case3 body ho => simp at h
    | case4 body depth ho ih => simp [cutBody?, ih h]
    | case5 depth l body ho hc ih => simp [cutBody?, ho, hc, ih h]

/-! ## What ends a prelude -/

theorem Lexeme.endsPrelude_iff {l : Lexeme} :
    l.endsPrelude = true ↔ l = .single '{' ∨ l = .single '}' ∨ l = .single ';' := by
  cases l with
  | comment t => simp [Lexeme.endsPrelude]
  | quoted t => simp [Lexeme.endsPrelude]
  | single c => simp [Lexeme.endsPrelude, or_assoc]

theorem Lexeme.ne_braces {l : Lexeme} (h : l.endsPrelude = false) :
    l ≠ .single '{' ∧ l ≠ .single '}' := by
  constructor
  · rintro rfl
    exact absurd h (by decide)
  · rintro rfl
    exact absurd h (by decide)

/-- Lexemes that end no prelude open and close no brace. -/
theorem nesting?_head (depth : Nat) {head : List Lexeme}
    (hhead : ∀ l ∈ head, l.endsPrelude = false) : nesting? depth head = some depth := by
  induction head with
  | nil => rfl
  | cons l head ih =>
    have hl := Lexeme.ne_braces (hhead l List.mem_cons_self)
    rw [nesting?_skip _ _ hl.1 hl.2]
    exact ih fun l' hl' => hhead l' (List.mem_cons_of_mem _ hl')

/-- Lexemes that end no prelude come into the body that is cut. -/
theorem cutBody?_head_append (depth : Nat) {head : List Lexeme} (ls : List Lexeme)
    (hhead : ∀ l ∈ head, l.endsPrelude = false) :
    cutBody? depth (head ++ ls) = (cutBody? depth ls).map fun r => (head ++ r.1, r.2) := by
  induction head with
  | nil => simp
  | cons l head ih =>
    have hl := Lexeme.ne_braces (hhead l List.mem_cons_self)
    rw [List.cons_append, cutBody?_skip _ _ hl.1 hl.2,
      ih fun l' hl' => hhead l' (List.mem_cons_of_mem _ hl'), Option.map_map]
    rfl

/-- A head and a body in braces leave as many braces open as there were. -/
theorem nesting?_rule (depth : Nat) {head body : List Lexeme} (next : List Lexeme)
    (hhead : ∀ l ∈ head, l.endsPrelude = false) (hbody : Balanced body) :
    nesting? depth (head ++ .single '{' :: body ++ .single '}' :: next) = nesting? depth next := by
  rw [List.append_assoc, nesting?_append, nesting?_head depth hhead, Option.bind_some,
    List.cons_append, nesting?_open, nesting?_append, nesting?_of_balanced _ hbody,
    Option.bind_some, nesting?_close]

/-! ## What scanning does -/

variable {offset : Nat} {head body after next : List Lexeme}

theorem scan_eq (offset : Nat) (ls : List Lexeme) :
    scan offset ls =
      let lead := ls.takeWhile Lexeme.isFiller
      let rest := ls.dropWhile Lexeme.isFiller
      let head := rest.takeWhile (!·.endsPrelude)
      let start := offset + (flatten lead).length
      let brace := start + (flatten head).length
      match rest.dropWhile (!·.endsPrelude) with
      | [] => []
      | mark :: after =>
        if mark = .single '{' then
          match cutBody? 0 after with
          | none => []
          | some (body, next) =>
            let prelude := Text.trim (visible head)
            let close := brace + 1 + (flatten body).length
            let found :=
              if prelude.head? = some '@' then scan (brace + 1) body
              else [⟨prelude, flatten body, start, close + 1⟩]
            found ++ scan (close + 1) next
        else scan (brace + 1) after := by
  rw [scan]
  split
  · rename_i h
    simp only [h]
  · rename_i mark after h
    simp only [h]
    split
    · split
      · rename_i hb
        simp only [hb]
      · rename_i hb
        simp only [hb]
    · rfl

theorem Lexeme.not_endsPrelude_of_isFiller {l : Lexeme} (h : l.isFiller = true) :
    l.endsPrelude = false := by
  cases l with
  | comment t => rfl
  | quoted t => rfl
  | single c =>
    have hb : isBlank c = true := h
    have hne : ∀ d, isBlank d = false → c ≠ d := by
      rintro d hd rfl
      simp [hb] at hd
    simp [Lexeme.endsPrelude, hne '{' (by decide), hne '}' (by decide), hne ';' (by decide)]

/-- Fillers before a prelude are passed over. -/
theorem scan_filler (offset : Nat) {l : Lexeme} (ls : List Lexeme) (hl : l.isFiller = true) :
    scan offset (l :: ls) = scan (offset + l.text.length) ls := by
  rw [scan_eq offset (l :: ls), scan_eq (offset + l.text.length) ls]
  simp only [List.takeWhile_cons_of_pos hl, List.dropWhile_cons_of_pos hl, flatten_cons,
    List.length_append, Nat.add_assoc]

theorem isFiller_of_endsPrelude {l : Lexeme} (h : l.endsPrelude = true) : l.isFiller = false := by
  cases hl : l.isFiller with
  | false => rfl
  | true => simp [Lexeme.not_endsPrelude_of_isFiller hl] at h

/-- What ends a prelude is a single character. -/
theorem length_of_endsPrelude {l : Lexeme} (h : l.endsPrelude = true) : l.text.length = 1 := by
  rcases Lexeme.endsPrelude_iff.1 h with rfl | rfl | rfl <;> rfl

/-- Where no filler stands in front, a head and its mark are read off as they are. -/
theorem scan_mark (offset : Nat) (hhead : ∀ l ∈ head, l.endsPrelude = false)
    (hfirst : ∀ l ∈ head.head?, l.isFiller = false) {mark : Lexeme}
    (hmark : mark.endsPrelude = true) :
    scan offset (head ++ mark :: after) =
      let brace := offset + (flatten head).length
      if mark = .single '{' then
        match cutBody? 0 after with
        | none => []
        | some (body, next) =>
          let prelude := Text.trim (visible head)
          let close := brace + 1 + (flatten body).length
          let found :=
            if prelude.head? = some '@' then scan (brace + 1) body
            else [⟨prelude, flatten body, offset, close + 1⟩]
          found ++ scan (close + 1) next
      else scan (brace + 1) after := by
  -- no filler is passed over: the head begins with none, and the mark is none
  have hfill : ∀ l ∈ (head ++ mark :: after).head?, l.isFiller = false := by
    cases head with
    | nil => simpa using isFiller_of_endsPrelude hmark
    | cons l head => simpa using hfirst
  have hlead : (head ++ mark :: after).takeWhile Lexeme.isFiller = [] ∧
      (head ++ mark :: after).dropWhile Lexeme.isFiller = head ++ mark :: after := by
    cases hls : head ++ mark :: after with
    | nil => simp
    | cons l ls =>
      have hl : l.isFiller = false := hfill l (by simp [hls])
      simp [hl]
  -- the head ends just before the mark
  have hnot : ∀ l ∈ head, (!l.endsPrelude) = true := by
    intro l hl
    simp [hhead l hl]
  have htake : (head ++ mark :: after).takeWhile (!·.endsPrelude) = head := by
    rw [List.takeWhile_append_of_pos hnot]
    simp [hmark]
  have hdrop : (head ++ mark :: after).dropWhile (!·.endsPrelude) = mark :: after := by
    rw [List.dropWhile_append_of_pos hnot]
    simp [hmark]
  rw [scan_eq]
  simp only [hlead.1, hlead.2, htake, hdrop, flatten_nil, List.length_nil, Nat.add_zero]

/-- Without a mark there is no block. -/
theorem scan_tail (offset : Nat) (hhead : ∀ l ∈ head, l.endsPrelude = false) :
    scan offset head = [] := by
  -- what is left behind the fillers has no mark either
  have h : (head.dropWhile Lexeme.isFiller).dropWhile (!·.endsPrelude) = [] := by
    have hall : ∀ l ∈ head.dropWhile Lexeme.isFiller, (!l.endsPrelude) = true := by
      intro l hl
      simp [hhead l ((List.dropWhile_sublist _).subset hl)]
    have hnil : (head.dropWhile Lexeme.isFiller ++ []).dropWhile (!·.endsPrelude) =
        ([] : List Lexeme).dropWhile (!·.endsPrelude) := List.dropWhile_append_of_pos hall
    simpa using hnil
  rw [scan_eq]
  simp only [h]

@[simp] theorem scan_nil (offset : Nat) : scan offset [] = [] :=
  scan_tail offset (by simp)

/-- A semicolon or a closing brace ends what stands before it. -/
theorem scan_loose (offset : Nat) (hhead : ∀ l ∈ head, l.endsPrelude = false) {mark : Lexeme}
    (hmark : mark.endsPrelude = true) (hopen : mark ≠ .single '{') :
    scan offset (head ++ mark :: after) = scan (offset + (flatten head).length + 1) after := by
  -- fillers are passed over one by one; from the first other lexeme on the head is read at once
  induction head generalizing offset with
  | nil =>
    rw [scan_mark offset hhead (by simp) hmark]
    simp [hopen]
  | cons l head ih =>
    cases hl : l.isFiller with
    | true =>
      rw [List.cons_append, scan_filler _ _ hl,
        ih _ (fun l' hl' => hhead l' (List.mem_cons_of_mem _ hl'))]
      simp [Nat.add_assoc]
    | false =>
      rw [scan_mark offset hhead (by simpa using hl) hmark]
      simp [hopen]

/-- A brace that is not closed ends the reading. -/
theorem scan_unclosed (offset : Nat) (hhead : ∀ l ∈ head, l.endsPrelude = false)
    (hnone : cutBody? 0 after = none) : scan offset (head ++ .single '{' :: after) = [] := by
  -- as above, fillers at the front of the head come first
  induction head generalizing offset with
  | nil =>
    rw [scan_mark offset hhead (by simp) rfl]
    simp [hnone]
  | cons l head ih =>
    cases hl : l.isFiller with
    | true =>
      rw [List.cons_append, scan_filler _ _ hl,
        ih _ (fun l' hl' => hhead l' (List.mem_cons_of_mem _ hl'))]
    | false =>
      rw [scan_mark offset hhead (by simpa using hl) rfl]
      simp [hnone]

/-- A rule is a block. -/
theorem scan_rule (offset : Nat) (hhead : ∀ l ∈ head, l.endsPrelude = false)
    (hfirst : ∀ l ∈ head.head?, l.isFiller = false) (hbody : Balanced body)
    (hat : (Text.trim (visible head)).head? ≠ some '@') :
    scan offset (head ++ .single '{' :: body ++ .single '}' :: next) =
      ⟨Text.trim (visible head), flatten body, offset,
          offset + (flatten head).length + (flatten body).length + 2⟩ ::
        scan (offset + (flatten head).length + (flatten body).length + 2) next := by
  have hcut : cutBody? 0 (body ++ .single '}' :: next) = some (body, next) :=
    cutBody?_eq_some.2 ⟨rfl, hbody⟩
  have hend : offset + (flatten head).length + 1 + (flatten body).length + 1 =
      offset + (flatten head).length + (flatten body).length + 2 := by omega
  rw [List.append_assoc, List.cons_append, scan_mark offset hhead hfirst rfl]
  simp [hcut, hat, hend]

/-- The blocks of an at-rule are those in its body. -/
theorem scan_group (offset : Nat) (hhead : ∀ l ∈ head, l.endsPrelude = false)
    (hfirst : ∀ l ∈ head.head?, l.isFiller = false) (hbody : Balanced body)
    (hat : (Text.trim (visible head)).head? = some '@') :
    scan offset (head ++ .single '{' :: body ++ .single '}' :: next) =
      scan (offset + (flatten head).length + 1) body ++
        scan (offset + (flatten head).length + (flatten body).length + 2) next := by
  have hcut : cutBody? 0 (body ++ .single '}' :: next) = some (body, next) :=
    cutBody?_eq_some.2 ⟨rfl, hbody⟩
  have hend : offset + (flatten head).length + 1 + (flatten body).length + 1 =
      offset + (flatten head).length + (flatten body).length + 2 := by omega
  rw [List.append_assoc, List.cons_append, scan_mark offset hhead hfirst rfl]
  simp [hcut, hat, hend]

/-- Lexemes up to the first that ends a prelude, and those from there on. -/
theorem exists_head (ls : List Lexeme) :
    ∃ head rest, ls = head ++ rest ∧ (∀ l ∈ head, l.endsPrelude = false) ∧
      (∀ l ∈ head.head?, l ∈ ls.head?) ∧ ∀ mark ∈ rest.head?, mark.endsPrelude = true := by
  refine ⟨ls.takeWhile (!·.endsPrelude), ls.dropWhile (!·.endsPrelude), ?_, ?_, ?_, ?_⟩
  · exact List.takeWhile_append_dropWhile.symm
  · intro l hl
    simpa using List.all_eq_true.1 List.all_takeWhile l hl
  · intro l hl
    rw [List.head?_takeWhile] at hl
    exact (Option.filter_eq_some_iff.1 hl).1
  · intro mark hmark
    have h := List.head?_dropWhile_not (fun l => !Lexeme.endsPrelude l) ls
    rw [Option.mem_def.1 hmark] at h
    simpa using h

/-- The ways in which lexemes can go on: with a filler, with a head that nothing ends, that
a semicolon or a closing brace ends, or that a brace ends which is never closed, with a rule, or
with an at-rule. -/
theorem scan_induction {motive : List Lexeme → Prop}
    (filler : ∀ l ls, l.isFiller = true → motive ls → motive (l :: ls))
    (tail : ∀ head : List Lexeme, (∀ l ∈ head, l.endsPrelude = false) → motive head)
    (loose : ∀ head mark after, (∀ l ∈ head, l.endsPrelude = false) → mark.endsPrelude = true →
      mark ≠ .single '{' → motive after → motive (head ++ mark :: after))
    (unclosed : ∀ head after, (∀ l ∈ head, l.endsPrelude = false) → cutBody? 0 after = none →
      motive (head ++ .single '{' :: after))
    (rule : ∀ head body next, (∀ l ∈ head, l.endsPrelude = false) →
      (∀ l ∈ head.head?, l.isFiller = false) → Balanced body →
      (Text.trim (visible head)).head? ≠ some '@' → motive next →
      motive (head ++ .single '{' :: body ++ .single '}' :: next))
    (group : ∀ head body next, (∀ l ∈ head, l.endsPrelude = false) →
      (∀ l ∈ head.head?, l.isFiller = false) → Balanced body →
      (Text.trim (visible head)).head? = some '@' → motive body → motive next →
      motive (head ++ .single '{' :: body ++ .single '}' :: next))
    (ls : List Lexeme) : motive ls := by
  -- the lexemes that follow are fewer, and so are those of a body
  induction hn : ls.length using Nat.strongRecOn generalizing ls with
  | _ n ih =>
    subst hn
    rcases exists_head ls with ⟨head, rest, hsplit, hhead, hfirst, hmark⟩
    -- a filler in front is one way to go on; otherwise the mark behind the head decides
    cases hl : ls.head?.any Lexeme.isFiller with
    | true =>
      obtain ⟨l, hls, hfill⟩ : ∃ l, ls.head? = some l ∧ l.isFiller = true := by
        simpa [Option.any_eq_true] using hl
      rcases List.head?_eq_some_iff.1 hls with ⟨tl, rfl⟩
      exact filler l tl hfill (ih _ (by simp) tl rfl)
    | false =>
      have hno : ∀ l ∈ head.head?, l.isFiller = false := by
        intro l hmem
        have hls : ls.head? = some l := hfirst l hmem
        simpa [hls] using hl
      subst hsplit
      cases rest with
      | nil => simpa using tail head hhead
      | cons mark after =>
        have hends : mark.endsPrelude = true := hmark mark rfl
        by_cases hopen : mark = .single '{'
        · subst hopen
          -- a brace that is closed belongs to a rule or to an at-rule
          cases hcut : cutBody? 0 after with
          | none => exact unclosed head after hhead hcut
          | some r =>
            rcases r with ⟨body, next⟩
            rcases cutBody?_eq_some.1 hcut with ⟨rfl, hbody⟩
            have hnext : motive next := ih _ (by simp; omega) next rfl
            have hinner : motive body := ih _ (by simp; omega) body rfl
            rw [← List.cons_append, ← List.append_assoc]
            by_cases hat : (Text.trim (visible head)).head? = some '@'
            · exact group head body next hhead hno hbody hat hinner hnext
            · exact rule head body next hhead hno hbody hat hnext
        · have hafter : motive after := ih _ (by simp; omega) after rfl
          exact loose head mark after hhead hends hopen hafter

/-- No block is an at-rule. -/
theorem head?_prelude_of_mem_scan {ls : List Lexeme} {b : Block} (hb : b ∈ scan offset ls) :
    b.prelude.head? ≠ some '@' := by
  induction ls using scan_induction generalizing offset with
  | filler l ls hl ih =>
    rw [scan_filler _ _ hl] at hb
    exact ih hb
  | tail head hhead =>
    rw [scan_tail _ hhead] at hb
    exact absurd hb List.not_mem_nil
  | loose head mark after hhead hmark hopen ih =>
    rw [scan_loose _ hhead hmark hopen] at hb
    exact ih hb
  | unclosed head after hhead hnone =>
    rw [scan_unclosed _ hhead hnone] at hb
    exact absurd hb List.not_mem_nil
  | rule head body next hhead hfirst hbody hat ih =>
    rw [scan_rule _ hhead hfirst hbody hat] at hb
    rcases List.mem_cons.1 hb with rfl | hb
    · exact hat
    · exact ih hb
  | group head body next hhead hfirst hbody hat ihbody ihnext =>
    rw [scan_group _ hhead hfirst hbody hat] at hb
    rcases List.mem_append.1 hb with hb | hb
    · exact ihbody hb
    · exact ihnext hb

end GeneratedContent.Css
