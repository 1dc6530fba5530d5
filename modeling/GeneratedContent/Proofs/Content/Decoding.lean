import GeneratedContent.Proofs.Content.Token
import GeneratedContent.Proofs.Text.Backslash
import GeneratedContent.Proofs.Text.Letter
import Mathlib.Data.List.Induction
import Mathlib.Data.Nat.Digits.Defs

/-!
# What a string token stands for

The escapes of a text are decoded from left to right, and what they stand for is a relation (`Decodes`)
that holds of one text only (`decodes_iff`). A string token holds what stands behind its opening quote up to
the first quote that is not escaped, or up to its end (`Holds`). Unquoting decodes that, unless
the token is not closed and ends in an escaped quote: then this quote is taken for the closing one, and its
backslash is left over (`unquote_of_mem_read`).
-/

namespace GeneratedContent.Content

/-! ## Numeric escapes -/

/-- The hexadecimal digits in lower case, each in the place that is its value. -/
def hexDigits : Text := "0123456789abcdef".toList

/-- Whether a character is a hexadecimal digit, in upper or in lower case. -/
def isHex (c : Char) : Bool := hexDigits.contains c.toLower

/-- The number that hexadecimal digits write. -/
def hexNumber (digits : Text) : Nat :=
  Nat.ofDigits 16 (digits.reverse.map fun c => hexDigits.idxOf c.toLower)

/-- Whether a number names a character: its own code point, or if there is no such character, or only the one
with the number zero, the replacement character. -/
def Names (n : Nat) (c : Char) : Prop :=
  if n ≠ 0 ∧ n.isValidChar then c.toNat = n else c = '\uFFFD'

theorem toLower_of_not_ascii {c : Char} (h : ¬ c.toNat < 0x80) : c.toLower = c := by
  have hle : ¬ c.val ≤ 'Z'.val := by
    intro hle
    exact h (Nat.lt_of_le_of_lt (UInt32.le_iff_toNat_le.1 hle) (by decide))
  exact dif_neg fun h => hle h.2

theorem hexValue?_eq (c : Char) :
    hexValue? c = if isHex c = true then some (hexDigits.idxOf c.toLower) else none := by
  by_cases hascii : c.toNat < 0x80
  · exact forall_ascii (P := fun c => hexValue? c =
      if isHex c = true then some (hexDigits.idxOf c.toLower) else none) (by decide) hascii
  · have hbelow : ∀ d ∈ hexDigits, d.toNat < 0x80 := by
      intro d hd
      have hall : hexDigits.all (fun d => d.toNat < 0x80) = true := by decide
      simpa using List.all_eq_true.1 hall d hd
    have hhex : isHex c = false := by
      rw [isHex, toLower_of_not_ascii hascii, Bool.eq_false_iff, Ne, List.contains_iff_mem]
      exact fun hmem => hascii (hbelow c hmem)
    have hnone : hexValue? c = none := by
      have hle : ∀ d : Char, d.toNat < 0x80 → ¬ c ≤ d := by
        intro d hd hcd
        exact hascii (Nat.lt_of_le_of_lt (UInt32.le_iff_toNat_le.1 hcd) hd)
      have hdigit : c.isDigit = false := by
        rw [Bool.eq_false_iff]
        intro hdigit
        exact hle '9' (by decide) (of_decide_eq_true (Bool.and_eq_true_iff.1 hdigit).2)
      simp [hexValue?, hdigit, hle 'f' (by decide), hle 'F' (by decide)]
    rw [hnone, hhex]
    rfl

theorem isHexDigit_eq (c : Char) : isHexDigit c = isHex c := by
  rw [isHexDigit, hexValue?_eq]
  cases isHex c with
  | true => rfl
  | false => rfl

theorem toNumber_eq_hexNumber {digits : Text} (h : ∀ c ∈ digits, isHex c = true) :
    Text.toNumber 16 digits = hexNumber digits := by
  induction digits using List.reverseRecOn with
  | nil => rfl
  | append_singleton digits c ih =>
    rw [List.forall_mem_append, List.forall_mem_singleton] at h
    have hvalue : (hexValue? c).getD 0 = hexDigits.idxOf c.toLower := by
      rw [hexValue?_eq, if_pos h.2, Option.getD_some]
    have hstep : Text.toNumber 16 (digits ++ [c]) =
        Text.toNumber 16 digits * 16 + (hexValue? c).getD 0 := by
      rw [Text.toNumber, List.foldl_append]
      rfl
    rw [hstep, ih h.1, hvalue, hexNumber, hexNumber, List.reverse_append, List.reverse_singleton,
      List.singleton_append, List.map_cons, Nat.ofDigits_cons]
    omega

theorem names_iff {n : Nat} {c : Char} : Names n c ↔ c = namedChar n := by
  unfold Names namedChar
  by_cases hn : n ≠ 0 ∧ n.isValidChar
  · have hout : ¬(n = 0 ∨ 0x10FFFF < n ∨ (0xD800 ≤ n ∧ n ≤ 0xDFFF)) := by
      have hvalid := hn.2
      unfold Nat.isValidChar at hvalid
      omega
    have hnumber : (Char.ofNat n).toNat = n := congrArg Char.toNat (dif_pos hn.2)
    rw [if_pos hn, if_neg hout]
    constructor
    · intro hc
      rw [← Char.ofNat_toNat c, hc]
    · rintro rfl
      exact hnumber
  · have hout : n = 0 ∨ 0x10FFFF < n ∨ (0xD800 ≤ n ∧ n ≤ 0xDFFF) := by
      unfold Nat.isValidChar at hn
      omega
    rw [if_neg hn, if_pos hout]

/-! ## Escapes -/

/-- What a text stands for when its escapes are decoded from left to right. A numeric escape takes as many
digits as it can, six at most, and one character behind them that ends an escape. -/
inductive Decodes : Text → Text → Prop where
  /-- There is nothing to decode. -/
  | nil : Decodes [] []
  /-- Any other character than the backslash stands for itself. -/
  | plain {c : Char} {s t : Text} (hc : c ≠ '\\') (hs : Decodes s t) : Decodes (c :: s) (c :: t)
  /-- A backslash with nothing behind it stands for itself. -/
  | lone : Decodes ['\\'] ['\\']
  /-- A backslash and hexadecimal digits stand for the character that they name. -/
  | number {digits : Text} {gap : Option Char} {c : Char} {s t : Text} (hne : digits ≠ [])
      (hcount : digits.length ≤ 6) (hhex : ∀ d ∈ digits, isHex d = true)
      (hmost : digits.length < 6 → ∀ d ∈ (gap.toList ++ s).head?, isHex d = false)
      (hgap : ∀ d ∈ gap, isEscapeEnd d = true)
      (hnone : gap = none → ∀ d ∈ s.head?, isEscapeEnd d = false)
      (hc : Names (hexNumber digits) c) (hs : Decodes s t) :
      Decodes ('\\' :: (digits ++ (gap.toList ++ s))) (c :: t)
  /-- A backslash and a line break stand for nothing. -/
  | lineBreak {s t : Text} (hs : Decodes s t) : Decodes ('\\' :: '\n' :: s) t
  /-- A backslash and any other character stand for that character. -/
  | character {c : Char} {s t : Text} (hhex : isHex c = false) (hbreak : c ≠ '\n')
      (hs : Decodes s t) : Decodes ('\\' :: c :: s) (c :: t)

/-- The digits of a numeric escape are the longest row of at most so many digits. -/
theorem takeWhile_take_append {p : Char → Bool} {n : Nat} {digits : Text} (hcount : digits.length ≤ n)
    (hall : ∀ d ∈ digits, p d = true) {rest : Text}
    (hmost : digits.length < n → ∀ d ∈ rest.head?, p d = false) :
    ((digits ++ rest).take n).takeWhile p = digits := by
  induction digits generalizing n with
  | nil =>
    cases n with
    | zero => rfl
    | succ n =>
      cases rest with
      | nil => rfl
      | cons d rest =>
        rw [List.nil_append, List.take_succ_cons]
        exact List.takeWhile_cons_of_neg (by simp [hmost (Nat.succ_pos n) d rfl])
  | cons c digits ih =>
    rw [List.forall_mem_cons] at hall
    cases n with
    | zero => exact absurd hcount (by simp)
    | succ n =>
      rw [List.length_cons, Nat.add_le_add_iff_right] at hcount
      rw [List.length_cons, Nat.add_lt_add_iff_right] at hmost
      rw [List.cons_append, List.take_succ_cons, List.takeWhile_cons_of_pos hall.1,
        ih hcount hall.2 hmost]

theorem exists_takeWhile_take (p : Char → Bool) (n : Nat) (s : Text) :
    ∃ digits rest, s = digits ++ rest ∧ digits.length ≤ n ∧ (∀ d ∈ digits, p d = true) ∧
      (digits.length < n → ∀ d ∈ rest.head?, p d = false) := by
  induction n generalizing s with
  | zero => exact ⟨[], s, rfl, Nat.le_refl _, by simp, by simp⟩
  | succ n ih =>
    cases s with
    | nil => exact ⟨[], [], rfl, by simp, by simp, by simp⟩
    | cons c s =>
      by_cases hc : p c = true
      · rcases ih s with ⟨digits, rest, rfl, hcount, hall, hmost⟩
        refine ⟨c :: digits, rest, rfl, ?_, List.forall_mem_cons.2 ⟨hc, hall⟩, ?_⟩
        · exact Nat.add_le_add_right hcount 1
        · rwa [List.length_cons, Nat.add_lt_add_iff_right]
      · refine ⟨[], c :: s, rfl, by simp, by simp, ?_⟩
        intro _ d hd
        obtain rfl := Option.some.inj hd
        simpa using hc

theorem dropEscapeEnd_append {gap : Option Char} {s : Text} (hgap : ∀ d ∈ gap, isEscapeEnd d = true)
    (hnone : gap = none → ∀ d ∈ s.head?, isEscapeEnd d = false) :
    dropEscapeEnd (gap.toList ++ s) = s := by
  cases gap with
  | some d =>
    have hd : isEscapeEnd d = true := hgap d rfl
    rw [Option.toList_some, List.singleton_append, dropEscapeEnd, if_pos hd]
  | none =>
    cases s with
    | nil => rfl
    | cons d s =>
      have hd : isEscapeEnd d = false := hnone rfl d rfl
      rw [Option.toList_none, List.nil_append, dropEscapeEnd, hd]
      rfl

theorem exists_dropEscapeEnd (s : Text) : ∃ (gap : Option Char) (rest : Text),
    s = gap.toList ++ rest ∧ (∀ d ∈ gap, isEscapeEnd d = true) ∧
      (gap = none → ∀ d ∈ rest.head?, isEscapeEnd d = false) := by
  cases s with
  | nil => exact ⟨none, [], rfl, by simp, by simp⟩
  | cons d s =>
    cases hd : isEscapeEnd d with
    | true => exact ⟨some d, s, rfl, by simpa using hd, by simp⟩
    | false => exact ⟨none, d :: s, rfl, by simp, by simpa using hd⟩

/-- A numeric escape is decoded to the character that its digits name. -/
theorem decodeEscapes_number {digits : Text} {gap : Option Char} {s : Text} (hne : digits ≠ [])
    (hcount : digits.length ≤ 6) (hhex : ∀ d ∈ digits, isHex d = true)
    (hmost : digits.length < 6 → ∀ d ∈ (gap.toList ++ s).head?, isHex d = false)
    (hgap : ∀ d ∈ gap, isEscapeEnd d = true)
    (hnone : gap = none → ∀ d ∈ s.head?, isEscapeEnd d = false) :
    decodeEscapes ('\\' :: (digits ++ (gap.toList ++ s))) =
      namedChar (hexNumber digits) :: decodeEscapes s := by
  have hdigits : Text.escapeDigits (digits ++ (gap.toList ++ s)) = digits := by
    have hclass : isHexDigit = isHex := funext isHexDigit_eq
    rw [Text.escapeDigits, hclass]
    exact takeWhile_take_append hcount hhex hmost
  rcases List.exists_cons_of_ne_nil hne with ⟨d, more, rfl⟩
  have hd : isHexDigit d = true := by
    rw [isHexDigit_eq]
    exact hhex d List.mem_cons_self
  rw [List.cons_append] at hdigits ⊢
  rw [decodeEscapes, if_pos hd, hdigits, toNumber_eq_hexNumber hhex, ← List.cons_append,
    List.drop_left, dropEscapeEnd_append hgap hnone]

/-- Every text stands for what its escapes are decoded to. -/
theorem decodes_decodeEscapes (s : Text) : Decodes s (decodeEscapes s) := by
  induction hn : s.length using Nat.strong_induction_on generalizing s with
  | _ n ih =>
  cases s with
  | nil =>
    rw [decodeEscapes]
    exact Decodes.nil
  | cons c s =>
    have hshort : ∀ {t : Text}, t.length ≤ s.length → Decodes t (decodeEscapes t) := by
      intro t ht
      exact ih t.length (by rw [← hn, List.length_cons]; omega) t rfl
    by_cases hc : c = '\\'
    · subst hc
      cases s with
      | nil =>
        rw [decodeEscapes]
        exact Decodes.lone
      | cons d s =>
        cases hd : isHex d with
        | true =>
          rcases exists_takeWhile_take isHex 6 (d :: s) with ⟨digits, rest, hs, hcount, hhex, hmost⟩
          have hne : digits ≠ [] := by
            rintro rfl
            rw [List.nil_append] at hs
            have hnot := hmost (by decide) d (by rw [← hs]; rfl)
            rw [hd] at hnot
            exact absurd hnot (by decide)
          rcases exists_dropEscapeEnd rest with ⟨gap, rest, rfl, hgap, hnone⟩
          have hlength := congrArg List.length hs
          simp only [List.length_append] at hlength
          rw [hs, decodeEscapes_number hne hcount hhex hmost hgap hnone]
          exact Decodes.number hne hcount hhex hmost hgap hnone (names_iff.2 rfl)
            (hshort (by omega))
        | false =>
          by_cases hbreak : d = '\n'
          · subst hbreak
            rw [decodeEscapes, if_neg (by decide), if_pos rfl]
            exact Decodes.lineBreak (hshort (by simp))
          · rw [decodeEscapes_escape (by rw [isHexDigit_eq, hd]) hbreak]
            exact Decodes.character hd hbreak (hshort (by simp))
    · rw [decodeEscapes_cons hc]
      exact Decodes.plain hc (hshort (Nat.le_refl _))

/-- A text stands for one text only. -/
theorem decodes_iff {s t : Text} : Decodes s t ↔ t = decodeEscapes s := by
  constructor
  · intro h
    induction h with
    | nil => rw [decodeEscapes]
    | plain hc hs ih => rw [decodeEscapes_cons hc, ih]
    | lone => rw [decodeEscapes]
    | number hne hcount hhex hmost hgap hnone hc hs ih =>
      rw [decodeEscapes_number hne hcount hhex hmost hgap hnone, ih, names_iff.1 hc]
    | lineBreak hs ih => rw [decodeEscapes, if_neg (by decide), if_pos rfl, ih]
    | character hhex hbreak hs ih =>
      rw [decodeEscapes_escape (by rw [isHexDigit_eq, hhex]) hbreak, ih]
  · rintro rfl
    exact decodes_decodeEscapes s

/-- A backslash behind a text that leaves no escape begins an escape of its own. -/
theorem Decodes.append {s t u v : Text} (hs : Decodes s t) (hopen : Text.leavesEscape s = false)
    (hu : Decodes ('\\' :: u) v) : Decodes (s ++ '\\' :: u) (t ++ v) := by
  have hhead : ∀ {w : Text} {p : Char → Bool}, p '\\' = false → (∀ d ∈ w.head?, p d = false) →
      ∀ d ∈ (w ++ '\\' :: u).head?, p d = false := by
    intro w p hp hw d hd
    cases w with
    | nil =>
      obtain rfl := Option.some.inj hd
      exact hp
    | cons c w => exact hw d hd
  induction hs with
  | nil => exact hu
  | plain hc hs ih =>
    rw [Text.leavesEscape_cons hc] at hopen
    exact Decodes.plain hc (ih hopen)
  | lone => exact absurd hopen (by decide)
  | @number digits gap c s t hne hcount hhex hmost hgap hnone hc hs ih =>
    have hplain : Text.leavesEscape ('\\' :: (digits ++ gap.toList)) = false := by
      rcases List.exists_cons_of_ne_nil hne with ⟨d, more, rfl⟩
      rw [List.cons_append, Text.leavesEscape_escape, Bool.eq_false_iff]
      intro hleaves
      rcases Text.exists_of_leavesEscape hleaves with ⟨front, hfront, -⟩
      have hmem : '\\' ∈ more ++ gap.toList := by simp [hfront]
      rcases List.mem_append.1 hmem with hmem | hmem
      · exact absurd (hhex _ (List.mem_cons_of_mem d hmem)) (by decide)
      · exact absurd (hgap _ (Option.mem_toList.1 hmem)) (by decide)
    have hrest : Text.leavesEscape s = false := by
      rw [← hopen, ← Text.leavesEscape_append hplain s, List.cons_append, List.append_assoc]
    have hdecoded := Decodes.number hne hcount hhex (s := s ++ '\\' :: u)
      (by rw [← List.append_assoc]; exact fun hlt => hhead (by decide) (hmost hlt)) hgap
      (fun hgap => hhead (by decide) (hnone hgap)) hc (ih hrest)
    simpa using hdecoded
  | lineBreak hs ih =>
    rw [Text.leavesEscape_escape] at hopen
    exact Decodes.lineBreak (ih hopen)
  | character hhex hbreak hs ih =>
    rw [Text.leavesEscape_escape] at hopen
    exact Decodes.character hhex hbreak (ih hopen)

/-! ## String tokens -/

/-- What a string token holds: the text behind its opening quote up to the first quote that is not
escaped, or up to the end of the token if there is none. -/
inductive Holds : (token : Text) → (q : Char) → (inner : Text) → Prop where
  /-- The token ends in a closing quote. -/
  | closed {q : Char} {inner : Text} (hq : q = '"' ∨ q = '\'')
      (hkept : ∀ front back, inner = front ++ q :: back → Text.leavesEscape front = true)
      (hclose : Text.leavesEscape inner = false) : Holds (q :: (inner ++ [q])) q inner
  /-- No quote closes the token. -/
  | unclosed {q : Char} {inner : Text} (hq : q = '"' ∨ q = '\'')
      (hkept : ∀ front back, inner = front ++ q :: back → Text.leavesEscape front = true) :
      Holds (q :: inner) q inner

/-- A token holds one text only. -/
theorem Holds.unique {token inner inner' : Text} {q q' : Char} (h : Holds token q inner)
    (h' : Holds token q' inner') : q' = q ∧ inner' = inner := by
  -- the closing quote of one reading would have to be escaped in the other
  have hopen : ∀ {q : Char} {u v : Text}, Text.leavesEscape u = false → v = u ++ [q] →
      (∀ front back, v = front ++ q :: back → Text.leavesEscape front = true) → False := by
    intro q u v hu hv hkept
    rw [hkept u [] hv] at hu
    exact absurd hu (by decide)
  generalize htoken : token = token' at h'
  cases h with
  | closed hq hkept hclose =>
    cases h' with
    | closed hq' hkept' hclose' =>
      rcases List.cons.inj htoken with ⟨rfl, hinner⟩
      exact ⟨rfl, (List.append_cancel_right hinner).symm⟩
    | unclosed hq' hkept' =>
      rcases List.cons.inj htoken with ⟨rfl, hinner⟩
      exact absurd (hopen hclose hinner.symm hkept') not_false
  | unclosed hq hkept =>
    cases h' with
    | closed hq' hkept' hclose' =>
      rcases List.cons.inj htoken with ⟨rfl, hinner⟩
      exact absurd (hopen hclose' hinner hkept) not_false
    | unclosed hq' hkept' =>
      rcases List.cons.inj htoken with ⟨rfl, hinner⟩
      exact ⟨rfl, hinner.symm⟩

namespace Token

/-- A string is cut at its first quote that is not escaped, and no escape is cut in two. -/
theorem exists_of_cutString {q : Char} (hq : q ≠ '\\') (s : Text) :
    ∃ inner, ((cutString q s).1 = inner ++ [q] ∨ (cutString q s).1 = inner) ∧
      Text.leavesEscape inner = false ∧
      ∀ front back, inner = front ++ q :: back → Text.leavesEscape front = true := by
  fun_induction cutString q s with
  | case1 => exact ⟨[], Or.inr rfl, rfl, by simp⟩
  | case2 => exact ⟨[], Or.inr rfl, rfl, by simp⟩
  | case3 c s ih =>
    rcases ih with ⟨inner, hcut, hclose, hkept⟩
    refine ⟨'\\' :: c :: inner, ?_, ?_, ?_⟩
    · exact hcut.imp (fun h => by rw [h]; rfl) (fun h => by rw [h])
    · rw [Text.leavesEscape_escape, hclose]
    · intro front back hfront
      cases front with
      | nil => exact absurd (List.cons.inj hfront).1 (Ne.symm hq)
      | cons d front =>
        rcases List.cons.inj hfront with ⟨rfl, htail⟩
        cases front with
        | nil => rfl
        | cons e front =>
          rw [Text.leavesEscape_escape]
          exact hkept front back (List.cons.inj htail).2
  | case4 s => exact ⟨[], Or.inl rfl, rfl, by simp⟩
  | case5 c s hlone hescape hne ih =>
    rcases ih with ⟨inner, hcut, hclose, hkept⟩
    have hc : c ≠ '\\' := by
      intro hc
      cases s with
      | nil => exact hlone hc rfl
      | cons d s => exact hescape d s hc rfl
    refine ⟨c :: inner, ?_, ?_, ?_⟩
    · exact hcut.imp (congrArg (c :: ·)) (congrArg (c :: ·))
    · rw [Text.leavesEscape_cons hc, hclose]
    · intro front back hfront
      cases front with
      | nil => exact absurd (List.cons.inj hfront).1 hne
      | cons d front =>
        rcases List.cons.inj hfront with ⟨rfl, htail⟩
        rw [Text.leavesEscape_cons hc]
        exact hkept front back htail

/-- A string token holds a text, in which no escape is left open. -/
theorem exists_holds {value token : Text} (h : .quoted token ∈ read value) :
    ∃ q inner, Holds token q inner ∧ Text.leavesEscape inner = false := by
  fun_induction read value with
  | case1 => exact absurd h List.not_mem_nil
  | case2 q s hq ih =>
    rcases List.mem_cons.1 h with h | h
    · obtain rfl := Token.quoted.inj h
      have hne : q ≠ '\\' := by rcases hq with rfl | rfl <;> decide
      rcases exists_of_cutString hne s with ⟨inner, hcut | hcut, hclose, hkept⟩
      · rw [hcut]
        exact ⟨q, inner, Holds.closed hq hkept hclose, hclose⟩
      · rw [hcut]
        exact ⟨q, inner, Holds.unclosed hq hkept, hclose⟩
    · exact ih h
  | case3 c s hq token' rest hcut ih =>
    rcases exists_call_of_cutCall? hcut with ⟨name, arguments, written, rfl⟩
    exact ih ((List.mem_cons.1 h).resolve_left (by simp))
  | case4 c s hq hcut hpart ih =>
    exact ih ((List.mem_cons.1 h).resolve_left (by simp))
  | case5 c s hq hcut hpart ih => exact ih h

end Token

/-- A token that ends in a closing quote is decoded between its quotes. -/
theorem betweenQuotes_closed {q : Char} (hq : q = '"' ∨ q = '\'') (inner : Text) :
    betweenQuotes (q :: (inner ++ [q])) = inner := by
  simp [betweenQuotes, hq]

/-- A string token stands for what it holds, decoded. Only in a token that no quote closes, and that ends in
an escaped quote, is this quote taken for the closing one: then it is missing at the end, and the backslash in
front of it stands there instead. -/
theorem unquote_of_mem_read {value token : Text} (h : .quoted token ∈ Token.read value) :
    ∃ q inner t, (∀ q' inner', Holds token q' inner' ↔ q' = q ∧ inner' = inner) ∧
      (∀ u, Decodes inner u ↔ u = t) ∧
      (¬(token = q :: inner ∧ inner.getLast? = some q) → unquote token = t) ∧
      (token = q :: inner ∧ inner.getLast? = some q →
        ∃ front, t = front ++ [q] ∧ unquote token = front ++ ['\\']) := by
  rcases Token.exists_holds h with ⟨q, inner, hholds, hwhole⟩
  refine ⟨q, inner, decodeEscapes inner, ?_, fun u => decodes_iff, ?_⟩
  · intro q' inner'
    constructor
    · exact hholds.unique
    · rintro ⟨rfl, rfl⟩
      exact hholds
  · cases hholds with
    | closed hq hkept hclose =>
      have hlonger : q :: (inner ++ [q]) ≠ q :: inner := by
        intro heq
        exact absurd (congrArg List.length heq) (by simp)
      refine ⟨fun _ => ?_, fun hbad => absurd hbad.1 hlonger⟩
      rw [unquote, betweenQuotes_closed hq]
    | unclosed hq hkept =>
      have hbetween : betweenQuotes (q :: inner) =
          if inner.getLast? = some q then inner.dropLast else inner := by
        simp [betweenQuotes, hq]
      constructor
      · intro hgood
        rw [unquote, hbetween, if_neg fun hlast => hgood ⟨rfl, hlast⟩]
      · rintro ⟨-, hlast⟩
        -- the quote at the end is escaped by a backslash that is not escaped itself
        rcases List.getLast?_eq_some_iff.1 hlast with ⟨body, rfl⟩
        rcases Text.exists_of_leavesEscape (hkept body [] rfl) with ⟨front, rfl, hfront⟩
        have hquote : isHex q = false ∧ q ≠ '\n' := by rcases hq with rfl | rfl <;> decide
        have hescaped : Decodes (front ++ ['\\', q]) (decodeEscapes front ++ [q]) :=
          (decodes_decodeEscapes front).append hfront
            (Decodes.character hquote.1 hquote.2 Decodes.nil)
        have hlone : Decodes (front ++ ['\\']) (decodeEscapes front ++ ['\\']) :=
          (decodes_decodeEscapes front).append hfront Decodes.lone
        refine ⟨decodeEscapes front, ?_, ?_⟩
        · rw [decodes_iff.1 hescaped, List.append_assoc]
          rfl
        · rw [unquote, hbetween, if_pos hlast, List.dropLast_concat, decodes_iff.1 hlone]

/-- No quote closes the string at the end of the value, since the one there is escaped. -/
theorem unquote_of_mem_read_escaped :
    let value := "attr(x) \"\\26 B\\\"".toList
    let token := "\"\\26 B\\\"".toList
    let inner := "\\26 B\\\"".toList
    .quoted token ∈ Token.read value ∧ Holds token '"' inner ∧ Decodes inner "&B\"".toList ∧
      unquote token = "&B\\".toList := by
  intro value token inner
  have hmem : .quoted token ∈ Token.read value := by decide +kernel
  have hinner : Decodes inner "&B\"".toList := decodes_iff.2 (by decide +kernel)
  rcases unquote_of_mem_read hmem with ⟨q, inner', t, hholds, hdecodes, -, hescaped⟩
  have hself : Holds token q inner' := (hholds q inner').2 ⟨rfl, rfl⟩
  have hopened : q = '"' ∧ inner' = inner := by
    generalize htoken : token = token' at hself
    cases hself with
    | closed hq hkept hclose =>
      rcases List.cons.inj htoken with ⟨rfl, htail⟩
      have hbefore : inner' = "\\26 B\\".toList :=
        List.append_cancel_right (htail.symm.trans (show inner = "\\26 B\\".toList ++ ['"'] by decide))
      rw [hbefore] at hclose
      exact absurd hclose (by decide)
    | unclosed hq hkept =>
      rcases List.cons.inj htoken with ⟨rfl, htail⟩
      exact ⟨rfl, htail.symm⟩
  rcases hopened with ⟨rfl, rfl⟩
  rcases hescaped ⟨rfl, by decide⟩ with ⟨front, ht, hunquote⟩
  have hfront : front = "&B".toList := by
    have ht' := (hdecodes _).1 hinner
    rw [ht] at ht'
    exact (List.append_cancel_right (show "&B".toList ++ ['"'] = front ++ ['"'] from ht')).symm
  refine ⟨hmem, hself, hinner, ?_⟩
  rw [hunquote, hfront]
  rfl

end GeneratedContent.Content
