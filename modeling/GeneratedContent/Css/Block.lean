import GeneratedContent.Css.Comment
import GeneratedContent.Text.Blank

/-!
# Blocks of a stylesheet

A rule is a prelude and a body in braces. The blocks of a stylesheet are its rules in source order
with the span that each takes up; a rule whose prelude begins with an at sign is not a block itself,
but the rules in its body are. A brace that is never closed ends the reading, since nothing after it
can be told apart from its body.
-/

namespace GeneratedContent.Css

/-- A rule of a stylesheet and where it stands. -/
structure Block where
  /-- What stands before the brace, without comments and outer blanks. -/
  prelude : Text
  /-- What stands between the braces, as written. -/
  body : Text
  /-- The offset of the first character of the prelude. -/
  start : Nat
  /-- The offset after the closing brace. -/
  stop : Nat
deriving DecidableEq, Repr

/-- Splits what follows an opening brace into the body and what follows its closing brace, with
`depth` more braces open. -/
def cutBody? : (depth : Nat) → List Lexeme → Option (List Lexeme × List Lexeme)
  | _, [] => none
  | depth, l :: ls =>
    if l = .single '{' then (cutBody? (depth + 1) ls).map fun r => (l :: r.1, r.2)
    else if l = .single '}' then
      match depth with
      | 0 => some ([], ls)
      | depth + 1 => (cutBody? depth ls).map fun r => (l :: r.1, r.2)
    else (cutBody? depth ls).map fun r => (l :: r.1, r.2)

theorem cutBody?_append {depth : Nat} {ls body rest : List Lexeme}
    (h : cutBody? depth ls = some (body, rest)) : ls = body ++ .single '}' :: rest := by
  induction ls generalizing depth body with
  | nil => simp [cutBody?] at h
  | cons l ls ih =>
    unfold cutBody? at h
    split at h
    · obtain ⟨r, hr, e⟩ := Option.map_eq_some_iff.1 h
      obtain ⟨rfl, rfl⟩ : l :: r.1 = body ∧ r.2 = rest := by simpa using e
      rw [ih hr, List.cons_append]
    · split at h
      · split at h
        · simp_all
        · obtain ⟨r, hr, e⟩ := Option.map_eq_some_iff.1 h
          obtain ⟨rfl, rfl⟩ : l :: r.1 = body ∧ r.2 = rest := by simpa using e
          rw [ih hr, List.cons_append]
      · obtain ⟨r, hr, e⟩ := Option.map_eq_some_iff.1 h
        obtain ⟨rfl, rfl⟩ : l :: r.1 = body ∧ r.2 = rest := by simpa using e
        rw [ih hr, List.cons_append]

/-- Whether a lexeme may stand before a prelude without being part of it. -/
def Lexeme.isFiller : Lexeme → Bool
  | .comment _ => true
  | .quoted _ => false
  | .single c => isBlank c

/-- Whether a lexeme ends a prelude. -/
def Lexeme.endsPrelude : Lexeme → Bool
  | .single c => c == '{' || c == '}' || c == ';'
  | _ => false

/-- The blocks among lexemes that stand at an offset. -/
def scan (offset : Nat) (ls : List Lexeme) : List Block :=
  let lead := ls.takeWhile Lexeme.isFiller
  let rest := ls.dropWhile Lexeme.isFiller
  let head := rest.takeWhile (!·.endsPrelude)
  let start := offset + (flatten lead).length
  let brace := start + (flatten head).length
  match h : rest.dropWhile (!·.endsPrelude) with
  | [] => []
  | mark :: after =>
    if mark = .single '{' then
      match _hb : cutBody? 0 after with
      | none => []
      | some (body, next) =>
        let prelude := Text.trim (visible head)
        let close := brace + 1 + (flatten body).length
        let found :=
          if prelude.head? = some '@' then scan (brace + 1) body
          else [⟨prelude, flatten body, start, close + 1⟩]
        found ++ scan (close + 1) next
    else scan (brace + 1) after
termination_by ls.length
decreasing_by
  all_goals
    have h₁ := (List.dropWhile_sublist Lexeme.isFiller (l := ls)).length_le
    have h₂ := (List.dropWhile_sublist (fun l => !Lexeme.endsPrelude l)
      (l := ls.dropWhile Lexeme.isFiller)).length_le
    rw [h, List.length_cons] at h₂
    try have h₃ := congrArg List.length (cutBody?_append _hb)
    try rw [List.length_append, List.length_cons] at h₃
    omega

/-- The blocks of a stylesheet in source order. -/
def blocks (css : Text) : List Block := scan 0 (lex css)

end GeneratedContent.Css
