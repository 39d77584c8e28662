import CredentialPolicy.Proofs.Text.Digits
import CredentialPolicy.Text.Uuid

/-!
An identifier is read back from its text.

The text is 32 digits, cut in five with hyphens in between. A reader that takes the hyphens out puts
the digits together again (`dropHyphens?_append`); as the text with its hyphens is longer than 32
characters, it is not taken for bare digits before that.
-/

set_option autoImplicit false

namespace CredentialPolicy.Text.Uuid

/-- Five parts of the right lengths lose the hyphens between them. -/
theorem dropHyphens?_append {a b c d e : List Char} (ha : a.length = 8) (hb : b.length = 4)
    (hc : c.length = 4) (hd : d.length = 4) (he : e.length = 12) :
    dropHyphens? (a ++ '-' :: b ++ '-' :: c ++ '-' :: d ++ '-' :: e) =
      some (a ++ b ++ c ++ d ++ e) := by
  have hhyphens : [8, 13, 18, 23].all
      (fun i => (a ++ '-' :: b ++ '-' :: c ++ '-' :: d ++ '-' :: e)[i]? = some '-') = true := by
    simp [List.getElem?_append, List.getElem?_cons, ha, hb, hc, hd]
  unfold dropHyphens?
  rw [if_pos ⟨by simp [ha, hb, hc, hd, he], hhyphens⟩]
  simp [List.drop_append, List.drop_of_length_le, ha, hb, hc, hd]

/-- Digits that are cut in five are the five parts one after the other. -/
theorem eq_parts {digits : List Char} (h : digits.length = 32) :
    (digits.drop 0).take 8 ++ (digits.drop 8).take 4 ++ (digits.drop 12).take 4 ++
      (digits.drop 16).take 4 ++ (digits.drop 20).take 12 = digits := by
  have hall : digits.take (8 + 4 + 4 + 4 + 12) = digits := List.take_of_length_le (Nat.le_of_eq h)
  rw [List.take_add, List.take_add, List.take_add, List.take_add] at hall
  exact hall

/-- The digits of an identifier are those of its number. -/
theorem ofHex?_hexOfWidth (u : Uuid) : ofHex? (hexOfWidth 32 u.bits.toNat) = some u := by
  have hne : hexOfWidth 32 u.bits.toNat ≠ [] :=
    List.ne_nil_of_length_pos (by rw [length_hexOfWidth]; decide)
  have hlt : u.bits.toNat < 16 ^ 32 := u.bits.isLt
  rw [ofHex?, if_pos (length_hexOfWidth 32 _), natOfDigits?,
    if_pos ⟨hne, all_isHex_hexOfWidth 32 _⟩, ofDigits_hexOfWidth, Nat.mod_eq_of_lt hlt,
    Option.map_some, BitVec.ofNat_toNat, BitVec.setWidth_eq]

/-- The text of an identifier is read as the identifier. -/
theorem ofText?_toText (u : Uuid) : ofText? u.toText = some u := by
  have hlength := length_hexOfWidth 32 u.bits.toNat
  have hhyphens : dropHyphens? u.toText.toList = some (hexOfWidth 32 u.bits.toNat) := by
    rw [toText, String.toList_ofList]
    refine (dropHyphens?_append ?_ ?_ ?_ ?_ ?_).trans (congrArg some (eq_parts hlength))
    all_goals simp [hlength]
  have hbare : ofHex? u.toText.toList = none := by
    refine if_neg fun h => ?_
    simp [toText, hlength] at h
  rw [ofText?]
  simp only [hbare, ofHyphenated?, hhyphens, Option.bind_some, ofHex?_hexOfWidth]

end CredentialPolicy.Text.Uuid
