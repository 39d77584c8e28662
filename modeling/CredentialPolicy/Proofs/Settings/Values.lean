import CredentialPolicy.Proofs.Text.Digits
import CredentialPolicy.Settings.Program
import Mathlib.Data.List.Induction
import Mathlib.Data.List.TakeWhile
import Mathlib.Data.Nat.Digits.Defs

/-!
What the texts of settings say.

A variable of the environment and the value of a setting are texts, and each sort of setting has a
reader of its own for them. Here every reader is compared with a statement about the text that knows
nothing of reading: a text denotes the number of which it is the decimal notation (`Text.Denotes`),
it is blank if nothing is left of it once it is trimmed, and it names a format or a truth value.

The reader of numbers takes the digits from the left and multiplies what it has so far; the notation
gives each digit its place from the right. That the two agree is an induction from the last digit
(`ofDigits_eq_ofDigits_reverse`).
-/

set_option autoImplicit false

namespace CredentialPolicy

/-! ## Numbers -/

namespace Text

/-- The text is the number in decimal digits, perhaps with a plus sign in front of them. There may
be zeros in front of the other digits. -/
def Denotes (text : List Char) (n : Nat) : Prop :=
  ∃ digits, (text = digits ∨ text = '+' :: digits) ∧ digits ≠ [] ∧
    (∀ c ∈ digits, isDecimal c = true) ∧
    Nat.ofDigits 10 (digits.reverse.map fun c => c.toNat - '0'.toNat) = n

variable {text digits : List Char}

/-- Reading from the left gives the value that the places from the right have. -/
theorem ofDigits_eq_ofDigits_reverse (h : ∀ c ∈ digits, isDecimal c = true) :
    ofDigits 10 digits = Nat.ofDigits 10 (digits.reverse.map fun c => c.toNat - '0'.toNat) := by
  induction digits using List.reverseRecOn with
  | nil => rfl
  | append_singleton digits c ih =>
    have hlast := h c (by simp)
    have hrest := ih fun d hd => h d (by simp [hd])
    rw [ofDigits_concat, digitValue?_of_isDecimal hlast, Option.getD_some, hrest,
      List.reverse_concat, List.map_cons, Nat.ofDigits_cons]
    omega

/-- A text is a number if it is made of digits and has at least one. -/
theorem natOfDigits?_ten_eq_some_iff {n : Nat} :
    natOfDigits? 10 digits = some n ↔
      digits ≠ [] ∧ (∀ c ∈ digits, isDecimal c = true) ∧
        Nat.ofDigits 10 (digits.reverse.map fun c => c.toNat - '0'.toNat) = n := by
  simp only [natOfDigits?, List.all_eq_true, isDigitOf_ten_iff]
  by_cases h : digits ≠ [] ∧ ∀ c ∈ digits, isDecimal c = true
  · rw [if_pos h, Option.some.injEq, ofDigits_eq_ofDigits_reverse h.2]
    exact ⟨fun hn => ⟨h.1, h.2, hn⟩, fun hn => hn.2.2⟩
  · rw [if_neg h]
    exact iff_of_false (Option.some_ne_none n).symm fun hn => h ⟨hn.1, hn.2.1⟩

/-- What is read as a number of 32 bits are the digits behind the plus sign, if there is one. -/
theorem uint32OfText?_eq_bind (text : List Char) :
    uint32OfText? text =
      (natOfDigits? 10 (if text.head? = some '+' then text.tail else text)).bind fun m =>
        if m < 0x100000000 then some (UInt32.ofNat m) else none := by
  cases text with
  | nil => rfl
  | cons c r =>
    by_cases hplus : c = '+'
    · subst hplus
      rw [if_pos List.head?_cons, List.tail_cons, uint32OfText?]
      cases natOfDigits? 10 r <;> rfl
    · have hhead : (c :: r).head? ≠ some '+' := fun h => hplus (Option.some.inj h)
      rw [if_neg hhead]
      unfold uint32OfText?
      simp only [List.cons.injEq, hplus, false_and, imp_self, implies_true]
      cases natOfDigits? 10 (c :: r) <;> rfl

/-- A number may have a plus in front, and has to fit into 32 bits. -/
theorem uint32OfText?_iff_natOfDigits? {n : UInt32} :
    uint32OfText? text = some n ↔
      natOfDigits? 10 (if text.head? = some '+' then text.tail else text) = some n.toNat := by
  have hn := n.toNat_lt
  rw [uint32OfText?_eq_bind, Option.bind_eq_some_iff]
  constructor
  · rintro ⟨m, hm, h⟩
    split_ifs at h with hlt
    rw [hm, ← Option.some.inj h, UInt32.toNat_ofNat_of_lt' hlt]
  · intro h
    exact ⟨n.toNat, h, by rw [if_pos (by omega), UInt32.ofNat_toNat]⟩

/-- A text is read as a number of 32 bits if it denotes that number. -/
theorem uint32OfText?_eq_some_iff {n : UInt32} :
    uint32OfText? text = some n ↔ Denotes text n.toNat := by
  rw [uint32OfText?_iff_natOfDigits?, natOfDigits?_ten_eq_some_iff, Denotes]
  by_cases hplus : text.head? = some '+'
  · obtain ⟨digits, rfl⟩ := List.head?_eq_some_iff.1 hplus
    rw [if_pos hplus, List.tail_cons]
    constructor
    · intro h
      exact ⟨digits, Or.inr rfl, h⟩
    · rintro ⟨others, hothers | hothers, h⟩
      · -- The plus sign is no digit, so it is not one of those that are read.
        have hdigit := h.2.1 '+' (hothers ▸ List.mem_cons_self)
        exact absurd hdigit (by decide)
      · obtain rfl := List.tail_eq_of_cons_eq hothers
        exact h
  · rw [if_neg hplus]
    constructor
    · intro h
      exact ⟨text, Or.inl rfl, h⟩
    · rintro ⟨digits, rfl | rfl, h⟩
      · exact h
      · exact absurd rfl hplus

end Text

/-! ## Blank texts -/

namespace Unicode

/-- Nothing is left of a text without its blanks exactly if it has nothing else. -/
theorem trim_eq_nil_iff {text : List Char} : trim text = [] ↔ ∀ c ∈ text, isBlank c = true := by
  unfold trim
  rw [List.reverse_eq_nil_iff, List.dropWhile_eq_nil_iff]
  simp only [List.mem_reverse]
  constructor
  · intro h
    -- What is left of the text would start with a character that is not blank.
    have hnil : text.dropWhile isBlank = [] := by
      by_contra hne
      have hhead := List.head_dropWhile_not isBlank hne
      rw [h _ (List.head_mem hne)] at hhead
      exact absurd hhead (by decide)
    exact List.dropWhile_eq_nil_iff.1 hnil
  · intro h c hc
    exact h c ((List.dropWhile_sublist isBlank).mem hc)

/-- A text is blank if nothing is left of it once it is trimmed. -/
theorem isBlankText_iff {text : String} : isBlankText text = true ↔ trimText text = "" := by
  rw [isBlankText, List.all_eq_true, ← trim_eq_nil_iff, trimText, ← String.toList_inj,
    String.toList_ofList, String.toList_empty]

end Unicode

/-! ## Names -/

/-- The name of a format may be written in any case. -/
theorem OutputFormat.ofText?_eq_some_iff {text : String} {format : OutputFormat} :
    OutputFormat.ofText? text = some format ↔
      String.ofList (Unicode.lower text.toList) = format.name := by
  unfold OutputFormat.ofText?
  generalize String.ofList (Unicode.lower text.toList) = name
  constructor
  · intro h
    have hname := List.find?_some (show OutputFormat.all.find? (·.name = name) = some format from h)
    exact (of_decide_eq_true hname).symm
  · rintro rfl
    exact OutputFormat.ofName?_name format

/-- Truth values are read by their own names only. -/
theorem booleanOfText?_eq_some_iff {text : String} {b : Bool} :
    booleanOfText? text = some b ↔ text = toString b := by
  constructor
  · intro h
    unfold booleanOfText? at h
    split at h
    · exact Option.some.inj h ▸ rfl
    · exact Option.some.inj h ▸ rfl
    · exact absurd h nofun
  · rintro rfl
    cases b <;> rfl

end CredentialPolicy
