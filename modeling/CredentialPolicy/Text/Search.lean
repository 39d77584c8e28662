/-!
Finding a text inside another, and taking a text apart at what is found.

`occursIn` is a test for the infix relation on lists: `occursIn_iff` says so. Pieces taken apart
make up the text again: `append_of_cutAt?` and `intercalate_pieces`.
-/

set_option autoImplicit false

namespace CredentialPolicy.Text

/-- Whether a text occurs in another, at any place. -/
def occursIn (part : List Char) : List Char → Bool
  | [] => part.isEmpty
  | c :: r => part.isPrefixOf (c :: r) || occursIn part r

theorem occursIn_iff {part text : List Char} : occursIn part text = true ↔ part <:+: text := by
  induction text with
  | nil => simp [occursIn]
  | cons c r ih =>
    rw [occursIn, Bool.or_eq_true, ih, List.infix_cons_iff, List.isPrefixOf_iff_prefix]

/-- Whether a text starts another. -/
def startsText (start text : String) : Bool := start.toList.isPrefixOf text.toList

/-- Whether a text ends another. -/
def endsText (ending text : String) : Bool := ending.toList.isSuffixOf text.toList

/-- What comes before the first occurrence of a text, and what comes behind it. -/
def cutAt? (mark : List Char) : List Char → Option (List Char × List Char)
  | [] => none
  | c :: r =>
    if mark.isPrefixOf (c :: r) then some ([], (c :: r).drop mark.length)
    else
      match cutAt? mark r with
      | some (before, after) => some (c :: before, after)
      | none => none

theorem append_of_cutAt? {mark text before after : List Char}
    (h : cutAt? mark text = some (before, after)) : before ++ mark ++ after = text := by
  induction text generalizing before with
  | nil => simp [cutAt?] at h
  | cons c r ih =>
    rw [cutAt?] at h
    split at h
    · next hp =>
      obtain ⟨t, ht⟩ := List.isPrefixOf_iff_prefix.1 hp
      simp only [Option.some.injEq, Prod.mk.injEq] at h
      obtain ⟨rfl, rfl⟩ := h
      simp [← ht]
    · split at h
      · next b a hr =>
        simp only [Option.some.injEq, Prod.mk.injEq] at h
        obtain ⟨rfl, rfl⟩ := h
        simpa using ih hr
      · simp at h

/-- The pieces of a text between the occurrences of a character. -/
def pieces (mark : Char) : List Char → List (List Char)
  | [] => [[]]
  | c :: r =>
    if c = mark then [] :: pieces mark r
    else
      match pieces mark r with
      | [] => [[c]]
      | piece :: rest => (c :: piece) :: rest

theorem pieces_ne_nil (mark : Char) (text : List Char) : pieces mark text ≠ [] := by
  cases text with
  | nil => simp [pieces]
  | cons c r =>
    rw [pieces]
    split
    · simp
    · split <;> simp

theorem intercalate_pieces (mark : Char) (text : List Char) :
    [mark].intercalate (pieces mark text) = text := by
  induction text with
  | nil => rfl
  | cons c r ih =>
    obtain ⟨piece, rest, hp⟩ := List.exists_cons_of_ne_nil (pieces_ne_nil mark r)
    rw [hp] at ih
    rw [pieces, hp]
    split
    · next h => simp_all [List.intercalate]
    · cases rest <;> simp_all [List.intercalate]

end CredentialPolicy.Text
