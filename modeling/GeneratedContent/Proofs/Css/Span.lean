import GeneratedContent.Proofs.Css.Outline

/-!
# Spans of blocks

The blocks of a stylesheet lie one behind the other, also where some are found in at-rules and
others around them: each ends before the next begins (`scan_within`).
-/

namespace GeneratedContent.Css

/-- Whether blocks lie one behind the other between two offsets. -/
structure Within (lo hi : Nat) (bs : List Block) : Prop where
  /-- Each block ends before the next begins. -/
  apart : bs.Pairwise fun a b => a.stop ≤ b.start
  /-- Each block takes up some text between the offsets. -/
  bounds : ∀ b ∈ bs, lo ≤ b.start ∧ b.start < b.stop ∧ b.stop ≤ hi

theorem Within.nil (lo hi : Nat) : Within lo hi [] :=
  ⟨List.Pairwise.nil, by simp⟩

theorem Within.mono {lo lo' hi hi' : Nat} {bs : List Block} (h : Within lo hi bs) (hlo : lo' ≤ lo)
    (hhi : hi ≤ hi') : Within lo' hi' bs := by
  refine ⟨h.apart, ?_⟩
  intro b hb
  have hb' := h.bounds b hb
  omega

theorem Within.sublist {lo hi : Nat} {as bs : List Block} (h : Within lo hi bs)
    (hsub : as.Sublist bs) : Within lo hi as := by
  refine ⟨h.apart.sublist hsub, ?_⟩
  intro b hb
  exact h.bounds b (hsub.subset hb)

theorem Within.append {lo mid hi : Nat} {as bs : List Block} (ha : Within lo mid as)
    (hb : Within mid hi bs) (hlo : lo ≤ mid) (hhi : mid ≤ hi) : Within lo hi (as ++ bs) := by
  refine ⟨List.pairwise_append.2 ⟨ha.apart, hb.apart, ?_⟩, ?_⟩
  · intro a hmem b hmem'
    have h1 := ha.bounds a hmem
    have h2 := hb.bounds b hmem'
    omega
  · intro b hmem
    rcases List.mem_append.1 hmem with h | h
    · have h1 := ha.bounds b h
      omega
    · have h2 := hb.bounds b h
      omega

theorem Within.cons {lo hi : Nat} {b : Block} {bs : List Block} (h : Within b.stop hi bs)
    (hlo : lo ≤ b.start) (hb : b.start < b.stop) (hhi : b.stop ≤ hi) : Within lo hi (b :: bs) := by
  have hone : Within lo b.stop [b] := by
    refine ⟨List.pairwise_singleton _ _, ?_⟩
    intro b' hb'
    obtain rfl : b' = b := by simpa using hb'
    omega
  exact hone.append h (by omega) hhi

theorem Within.of_cons {lo hi : Nat} {b : Block} {bs : List Block} (h : Within lo hi (b :: bs)) :
    Within b.stop hi bs := by
  rcases List.pairwise_cons.1 h.apart with ⟨hb, hbs⟩
  refine ⟨hbs, ?_⟩
  intro b' hb'
  have h' := h.bounds b' (List.mem_cons_of_mem _ hb')
  exact ⟨hb b' hb', h'.2⟩

/-- The blocks among lexemes lie one behind the other in the text of the lexemes. -/
theorem scan_within (offset : Nat) (ls : List Lexeme) :
    Within offset (offset + (flatten ls).length) (scan offset ls) := by
  induction ls using scan_induction generalizing offset with
  | filler l ls hl ih =>
    rw [scan_filler _ _ hl]
    refine (ih _).mono (by omega) ?_
    simp [Nat.add_assoc]
  | tail head hhead =>
    rw [scan_tail _ hhead]
    exact Within.nil _ _
  | loose head mark after hhead hmark hopen ih =>
    rw [scan_loose _ hhead hmark hopen]
    refine (ih _).mono (by omega) ?_
    simp [length_of_endsPrelude hmark]
    omega
  | unclosed head after hhead hnone =>
    rw [scan_unclosed _ hhead hnone]
    exact Within.nil _ _
  | rule head body next hhead hfirst hbody hat ih =>
    rw [scan_rule _ hhead hfirst hbody hat]
    -- the rule comes first, the blocks behind it start where it ends
    have hnext := ih (offset + (flatten head).length + (flatten body).length + 2)
    refine Within.cons (hnext.mono (Nat.le_refl _) ?_) (Nat.le_refl _) ?_ ?_
    · simp
      omega
    · show offset < offset + (flatten head).length + (flatten body).length + 2
      omega
    · simp
      omega
  | group head body next hhead hfirst hbody hat ihbody ihnext =>
    rw [scan_group _ hhead hfirst hbody hat]
    -- the blocks of the body end before the closing brace
    have hin := ihbody (offset + (flatten head).length + 1)
    have hnext := ihnext (offset + (flatten head).length + (flatten body).length + 2)
    refine Within.append (hin.mono (by omega) ?_) (hnext.mono (Nat.le_refl _) ?_) (by omega) ?_
    · omega
    · simp
      omega
    · simp
      omega

end GeneratedContent.Css
