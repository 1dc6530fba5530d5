import GeneratedContent.Proofs.CommandLine.Outcome

/-!
# What an invocation delivers

An invocation that ends well has read the page and the stylesheet before anything is written, and
has then written both results (`delivers`): whatever its paths are, the rest of the stylesheet is
where it was asked for, and so is the page, unless both are asked for at one place. The stylesheet is
written last, so it takes the place of the page there, and nothing is said about it.
-/

namespace GeneratedContent

/-- A conversion that does not break off is the one that is meant, and so is its page if it can be
written. -/
theorem convert_of_convertOrStop {settings : Settings} {html css converted : Text} {results : Results}
    (h : convertOrStop settings html css = .ok results) (hpage : results.page = .ok converted) :
    convert settings html css = .ok ⟨converted, results.css, results.warnings⟩ := by
  unfold convertOrStop at h
  cases hr : convert settings html css with
  | error e => simp [hr] at h
  | ok r =>
    simp only [hr] at h
    split at h
    · obtain rfl := Except.ok.inj h
      cases hpage
      rfl
    · split at h
      · cases h
      · obtain rfl := Except.ok.inj h
        dsimp only at hpage
        split at hpage
        · cases hpage
        · cases hpage
          rfl

namespace CommandLine.Invocation

open Script (EndsWell)

variable {i : Invocation} {w w' : World} {fs fs' : FileSystem} {html css output : Text} {p : FilePath}

theorem DeliversPage.output_eq (h : i.DeliversPage w html fs output) (hnone : i.output = none) :
    output = w.output ++ html := by
  simp only [DeliversPage, hnone] at h
  exact h.2

theorem DeliversPage.holds (h : i.DeliversPage w html fs output) (hp : i.output = some p) :
    fs.Holds p html ∧ output = w.output := by
  simp only [DeliversPage, hp] at h
  obtain ⟨⟨made, -, hwrite⟩, houtput⟩ := h
  exact ⟨FileSystem.read_write hwrite, houtput⟩

theorem DeliversSheet.holds (h : i.DeliversSheet css fs fs') {q : FilePath} (hq : i.cssOutput = some q) :
    fs'.Holds q css := by
  simp only [DeliversSheet, hq] at h
  obtain ⟨made, -, hwrite⟩ := h
  exact FileSystem.read_write hwrite

/-- The rest of the stylesheet takes the place of what was there, and of nothing else. -/
theorem DeliversSheet.holds_of_holds (h : i.DeliversSheet css fs fs') (hp : fs.Holds p html) :
    fs'.Holds p (if ∃ q, i.cssOutput = some q ∧ fs'.locate q = fs'.locate p then css else html) := by
  unfold DeliversSheet at h
  split at h
  case _ hnone =>
    obtain rfl := h
    simpa [hnone] using hp
  case _ q hq =>
    obtain ⟨made, hmade, hwrite⟩ := h
    have hread := FileSystem.read_write_of_read hwrite (hmade.made.read hp)
    simp only [hq, Option.some.injEq, exists_eq_left']
    rw [FileSystem.Holds, hread]
    split <;> rfl

end CommandLine.Invocation

end GeneratedContent
