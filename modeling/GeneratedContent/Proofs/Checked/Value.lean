import GeneratedContent.Content.Reader
import GeneratedContent.Proofs.Checked.Position
import GeneratedContent.Proofs.Text.Words

/-!
# Reading a content value, with every operation checked

What can fail in reading the value of a `content` declaration is to make a character of the number of an
escape (`character`), and to take the first item of the arguments of a call, or the first word of an
argument (`first`). Neither is done where it fails (`decodeEscapes_eq`, `call_eq`), so the value is read
(`value_eq`).
-/

namespace GeneratedContent

/-! ## First words -/

theorem Text.head?_splitWhere (p : Char → Bool) (s : Text) :
    (splitWhere p s).head? = some (s.takeWhile (!p ·)) := by
  induction s with
  | nil => rfl
  | cons c s ih =>
    rw [splitWhere]
    cases hc : p c with
    | true => simp [hc]
    | false =>
      obtain ⟨ps, hps⟩ := List.head?_eq_some_iff.1 ih
      simp [hps, attach, hc]

/-- The first word of a text that begins with one goes up to the first blank. -/
theorem Text.exists_words_eq {s : Text} (hne : s ≠ []) (hfirst : ∀ c ∈ s.head?, isBlank c = false) :
    ∃ ws, words s = s.takeWhile (!isBlank ·) :: ws := by
  obtain ⟨ps, hps⟩ := List.head?_eq_some_iff.1 (head?_splitWhere isBlank s)
  rcases List.exists_cons_of_ne_nil hne with ⟨c, t, rfl⟩
  have hc : isBlank c = false := hfirst c rfl
  have hword : (!((c :: t).takeWhile (!isBlank ·)).isEmpty) = true := by simp [hc]
  refine ⟨ps.filter (!·.isEmpty), ?_⟩
  rw [words, hps]
  exact List.filter_cons_of_pos hword

/-- A trimmed text begins with no blank. -/
theorem Text.isBlank_of_head?_trim {s : Text} {c : Char} (h : c ∈ (trim s).head?) :
    isBlank c = false := by
  rw [head?_trim] at h
  exact isBlank_of_head?_trimLeft h

namespace Checked

/-! ## Operations on values -/

/-- The character with a number. -/
def character (n : Nat) : Checked Char :=
  if n.isValidChar then .ok (Char.ofNat n) else .error (.noCharacter n)

/-- The character that the number of an escape names; the replacement character where there is none. -/
def namedChar (n : Nat) : Checked Char :=
  if n = 0 ∨ 0x10FFFF < n ∨ (0xD800 ≤ n ∧ n ≤ 0xDFFF) then .ok '\uFFFD' else character n

/-- A text with its escapes replaced by what they stand for. -/
def decodeEscapes : Text → Checked Text
  | [] => return []
  | ['\\'] => return ['\\']
  | '\\' :: c :: s =>
    if isHexDigit c then do
      let named ← namedChar (Text.toNumber 16 (Text.escapeDigits (c :: s)))
      let rest ← decodeEscapes
        (Content.dropEscapeEnd ((c :: s).drop (Text.escapeDigits (c :: s)).length))
      return named :: rest
    else if c = '\n' then decodeEscapes s
    else do
      let rest ← decodeEscapes s
      return c :: rest
  | c :: s => do
    let rest ← decodeEscapes s
    return c :: rest
termination_by s => s.length
decreasing_by
  · have := Content.length_dropEscapeEnd_le ((c :: s).drop (Text.escapeDigits (c :: s)).length)
    simp only [List.length_drop, List.length_cons] at this ⊢
    omega
  all_goals
    simp only [List.length_cons]
    omega

/-- The first of some items. -/
def first {α : Type} : List α → Checked α
  | [] => .error .noFirst
  | a :: _ => .ok a

/-- The part that a call states. -/
def call (name arguments written : Text) : Checked Content := do
  let name := Text.lower name
  let items := (Text.splitAt ',' arguments).map Text.trim
  let item ← first items
  if item = [] then return .literal written
  else if name = "counter".toList then return .counter item (Content.styleOfArgument items[1]?)
  else if name = "counters".toList then return .counter item (Content.styleOfArgument items[2]?)
  else if name = "attr".toList then do
    let word ← first (Text.words item)
    return .ofAttribute word
  else return .literal written

/-- The part that a token states, if it states one. -/
def token : Content.Token → Checked (Option Content)
  | .quoted written => do
    let text ← decodeEscapes (Content.betweenQuotes written)
    return if text = [] then none else some (.literal text)
  | .call name arguments written => do
    let part ← call name arguments written
    return some part
  | .word text => return if Content.isEmptyKeyword text then none else some (.literal text)

/-- The content that the value of a `content` declaration states. -/
def value (written : Text) : Checked Content :=
  let kept := Text.trim (Content.dropFinalImportance written)
  if kept = [] ∨ Content.isEmptyKeyword kept then return .empty
  else do
    let parts ← (Content.Token.read kept).mapM token
    return Content.ofParts (parts.filterMap id)

/-! ## None of them fails -/

/-- If an operation does not fail on any item, it does not on all of them one after the other. -/
theorem mapM_eq {α β : Type} {f : α → Checked β} {g : α → β} (h : ∀ a, f a = .ok (g a))
    (as : List α) : as.mapM f = .ok (as.map g) := by
  have hf : f = fun a => pure (g a) := funext h
  rw [hf, List.mapM_pure]
  rfl

/-- What is no character is not asked for. -/
theorem namedChar_eq (n : Nat) : namedChar n = .ok (GeneratedContent.namedChar n) := by
  rw [namedChar, GeneratedContent.namedChar]
  by_cases hn : n = 0 ∨ 0x10FFFF < n ∨ (0xD800 ≤ n ∧ n ≤ 0xDFFF)
  · rw [if_pos hn, if_pos hn]
  · have hvalid : n.isValidChar := by
      unfold Nat.isValidChar
      omega
    rw [if_neg hn, if_neg hn, character, if_pos hvalid]

/-- Decoding escapes does not fail. -/
theorem decodeEscapes_eq (s : Text) : decodeEscapes s = .ok (Content.decodeEscapes s) := by
  fun_induction Content.decodeEscapes s with
  | case1 => rw [decodeEscapes]; rfl
  | case2 => rw [decodeEscapes]; rfl
  | case3 c s hc ih =>
    rw [decodeEscapes, if_pos hc, namedChar_eq, ok_bind, ih]
    rfl
  | case4 s hc ih =>
    rw [decodeEscapes, if_neg hc, if_pos rfl, ih]
  | case5 c s hc hbreak ih =>
    rw [decodeEscapes, if_neg hc, if_neg hbreak, ih]
    rfl
  | case6 c s hlone hescape ih =>
    rw [decodeEscapes, ih]
    · rfl
    · exact hlone
    · exact hescape

/-- A call has a first argument, and an argument that is not empty has a first word. -/
theorem call_eq (name arguments written : Text) :
    call name arguments written = .ok (Content.ofCall name arguments written) := by
  have hne : (Text.splitAt ',' arguments).map Text.trim ≠ [] := by
    simpa [Text.splitAt] using Text.splitWhere_ne_nil (· == ',') arguments
  have htrimmed : ∀ item ∈ (Text.splitAt ',' arguments).map Text.trim,
      ∀ c ∈ item.head?, isBlank c = false := by
    intro item hitem c hc
    obtain ⟨piece, -, rfl⟩ := List.mem_map.1 hitem
    exact Text.isBlank_of_head?_trim hc
  unfold call Content.ofCall Content.argumentsOf
  generalize (Text.splitAt ',' arguments).map Text.trim = items at hne htrimmed
  rcases List.exists_cons_of_ne_nil hne with ⟨item, others, rfl⟩
  simp only [first, ok_bind]
  by_cases hitem : item = []
  · simp only [if_pos hitem]
    rfl
  · obtain ⟨ws, hws⟩ := Text.exists_words_eq hitem (htrimmed item List.mem_cons_self)
    simp only [if_neg hitem, hws]
    split
    · rfl
    · split
      · rfl
      · split
        · rfl
        · rfl

theorem token_eq (t : Content.Token) : token t = .ok (Content.ofToken? t) := by
  cases t with
  | quoted written =>
    rw [token, decodeEscapes_eq, ok_bind]
    rfl
  | call name arguments written =>
    rw [token, call_eq, ok_bind]
    rfl
  | word text => rfl

/-- Reading a content value does not fail. -/
theorem value_eq (written : Text) : value written = .ok (Content.read written) := by
  unfold value Content.read
  simp only
  split
  · rfl
  · rw [mapM_eq token_eq, ok_bind, List.filterMap_map]
    rfl

end Checked

end GeneratedContent
