import BaseApi.Json.Skip
import BaseApi.Proofs.Fallible

/-!
# Tokens that are read or passed over

What can be read can also be passed over, and both end at the same place: `skipString_of_stringBody`
and `skipNumber_of_number`. Each token takes at least one character.
-/

namespace BaseApi.Json

open Fallible

/-! ## Blanks -/

theorem skipBlanks_skipBlanks (cs : List Char) : skipBlanks (skipBlanks cs) = skipBlanks cs := by
  induction cs with
  | nil => rfl
  | cons c rest ih =>
      simp only [skipBlanks, List.dropWhile_cons] at ih ⊢
      split
      · exact ih
      · next solid => simp [solid]

theorem length_skipBlanks_le (cs : List Char) : (skipBlanks cs).length ≤ cs.length :=
  (List.dropWhile_sublist isBlank).length_le

/-! ## Literals -/

theorem length_le_of_literal {letters cs rest : List Char}
    (read : literal letters cs = .ok rest) : rest.length ≤ cs.length := by
  induction letters generalizing cs with
  | nil =>
      cases read
      exact Nat.le_refl _
  | cons letter letters ih =>
      cases cs with
      | nil => cases read
      | cons c cs =>
          rw [literal] at read
          split at read
          · exact Nat.le_succ_of_le (ih read)
          · cases read

/-! ## Strings -/

/-- A surrogate pair is passed over as two escapes. -/
theorem skipString_of_stringBody {before cs rest : List Char} {text : String}
    (read : stringBody before cs = .ok (text, rest)) : skipString cs = .ok rest := by
  fun_induction stringBody before cs with
  | case2 =>
      cases read
      rfl
  | case7 before a b c d high isCode notLow isHigh a' b' c' d' after low isCode' isLow ih =>
      simp [skipString, isCode, isCode', ih read]
  | case10 before a b c d after code isCode notLow notHigh ih =>
      simp [skipString, isCode, ih read]
  | case12 before letter after notCode notUnicode c isShort ih =>
      simp [skipString, isShort, ih read]
  | case15 before c after notQuote notEnd notCode notUnicode notEscape printable ih =>
      simp [skipString, printable, ih read]
  | _ => cases read

theorem length_lt_of_skipString {cs rest : List Char} (passed : skipString cs = .ok rest) :
    rest.length < cs.length := by
  fun_induction skipString cs with
  | case2 =>
      cases passed
      exact Nat.lt_succ_self _
  | case4 a b c d after isCode ih =>
      have shorter := ih passed
      simp only [List.length_cons]
      omega
  | case7 letter after notCode notUnicode isShort ih =>
      have shorter := ih passed
      simp only [List.length_cons]
      omega
  | case10 c after notQuote notEnd notCode notUnicode notEscape printable ih =>
      exact Nat.lt_succ_of_lt (ih passed)
  | _ => cases passed

/-! ## Numbers -/

theorem digits_append (cs : List Char) : (digits cs).1 ++ (digits cs).2 = cs := by
  rw [digits, List.span_eq_takeWhile_dropWhile]
  exact List.takeWhile_append_dropWhile

theorem length_lt_of_someDigits {cs read rest : List Char}
    (found : someDigits cs = .ok (read, rest)) : rest.length < cs.length := by
  have parts := digits_append cs
  rw [someDigits] at found
  generalize digits cs = scanned at found parts
  rcases scanned with ⟨_ | ⟨digit, more⟩, after⟩
  · cases after with
    | nil => cases found
    | cons c after => cases found
  · cases found
    rw [← parts]
    simp only [List.length_append, List.length_cons]
    omega

theorem length_lt_of_wholePart {cs read rest : List Char}
    (found : wholePart cs = .ok (read, rest)) : rest.length < cs.length := by
  obtain ⟨digits, scanned, next⟩ := bind_eq_ok_iff.mp found
  split at next
  · cases next
  · cases next
    exact length_lt_of_someDigits scanned

theorem length_le_of_fractionPart {cs rest : List Char} {read : Option (List Char)}
    (found : fractionPart cs = .ok (read, rest)) : rest.length ≤ cs.length := by
  unfold fractionPart at found
  split at found
  · obtain ⟨digits, scanned, next⟩ := bind_eq_ok_iff.mp found
    cases next
    exact Nat.le_succ_of_le (length_lt_of_someDigits scanned).le
  · cases found
    exact Nat.le_refl _

theorem length_sign_le (cs : List Char) : (sign cs).2.length ≤ cs.length := by
  unfold sign
  split <;> simp

/-- The digits of an exponent, after their sign. -/
theorem length_le_of_signed {cs rest : List Char} {read : Option (Bool × List Char)}
    (found : (do
      let (read, rest) ← someDigits (sign cs).2
      pure (some ((sign cs).1, read), rest)) = Except.ok (read, rest)) :
    rest.length ≤ cs.length := by
  obtain ⟨digits, scanned, next⟩ := bind_eq_ok_iff.mp found
  cases next
  exact (length_lt_of_someDigits scanned).le.trans (length_sign_le cs)

theorem length_le_of_exponentPart {cs rest : List Char} {read : Option (Bool × List Char)}
    (found : exponentPart cs = .ok (read, rest)) : rest.length ≤ cs.length := by
  unfold exponentPart at found
  split at found
  · exact Nat.le_succ_of_le (length_le_of_signed found)
  · exact Nat.le_succ_of_le (length_le_of_signed found)
  · cases found
    exact Nat.le_refl _

theorem length_lt_of_numeral {cs rest : List Char} {read : Numeral}
    (found : numeral cs = .ok (read, rest)) : rest.length < cs.length := by
  simp only [numeral, bind_eq_ok_iff, pure_eq_ok_iff, Prod.mk.injEq] at found
  obtain ⟨whole, isWhole, fraction, isFraction, exponent, isExponent, -, rfl⟩ := found
  have afterWhole := length_lt_of_wholePart isWhole
  have afterFraction := length_le_of_fractionPart isFraction
  have afterExponent := length_le_of_exponentPart isExponent
  refine Nat.lt_of_le_of_lt (afterExponent.trans afterFraction) (afterWhole.trans_le ?_)
  split
  · exact Nat.le_succ _
  · exact Nat.le_refl _

theorem skipNumber_of_number {cs rest : List Char} {value : Number}
    (read : number cs = .ok (value, rest)) : skipNumber cs = .ok rest := by
  obtain ⟨⟨numeral, after⟩, scanned, next⟩ := bind_eq_ok_iff.mp read
  simp only [skipNumber, scanned]
  dsimp only at next
  split at next
  · cases next
    rfl
  · cases next

theorem length_lt_of_skipNumber {cs rest : List Char} (passed : skipNumber cs = .ok rest) :
    rest.length < cs.length := by
  unfold skipNumber at passed
  split at passed
  · next scanned =>
      cases passed
      exact length_lt_of_numeral scanned
  · cases passed

end BaseApi.Json
