import CredentialPolicy.Proofs.Pattern.Normal

/-!
What is left of an expression when it is written and read again.

Repetitions of repetitions are written as marks in a row, and a question mark behind another mark is
read as making that one lazy. So a row of marks may lose repetitions, but it loses only question
marks: `Reads` lists the ways in which one repetition after the other comes out of a row. Two things
follow by induction over it, and then over the expression. What is read never matches more than what
was written (`reread_refines`); and it matches as much if no repetition is lost that would have let
the text go on without a match (`refines_reread`), which is what `Legible` asks for.
-/

set_option autoImplicit false

namespace CredentialPolicy.Pattern.Expr

/-! ## Rows of marks -/

namespace Bounds

/-- A repetition that is written as a question mark. -/
def IsOptional (b : Bounds) : Prop := b.min = 0 ∧ b.max = some 1

instance (b : Bounds) : Decidable b.IsOptional := inferInstanceAs (Decidable (_ ∧ _))

/-- The optional repetition that one question mark writes. -/
def optional : Bounds := ⟨0, some 1, true⟩

/-- The mark of a repetition, without that of a lazy one. -/
def mark (b : Bounds) : Mark := if b.IsOptional then .question else .bounds b.min b.max

/-- A mark keeps the bounds of its repetition; only whether it is lazy is decided by what
follows. -/
theorem bounded_mark (b : Bounds) (greedy : Bool) :
    b.mark.bounded greedy = ⟨b.min, b.max, greedy⟩ := by
  unfold mark
  split
  · next h => rw [h.1, h.2, Mark.bounded]
  · rfl

/-- A repetition is written as its mark, and a question mark behind it if it has to be marked as
lazy. -/
theorem marks_eq (b : Bounds) : b.marks = [b.mark] ∨ b.marks = [b.mark, .question] := by
  unfold marks
  by_cases h : b.min = 0 ∧ b.max = some 1
  · rw [if_pos h, show b.mark = .question from if_pos h]
    cases b.greedy
    · exact .inr rfl
    · exact .inl rfl
  · rw [if_neg h, show b.mark = .bounds b.min b.max from if_neg h]
    split
    · exact .inl rfl
    · exact .inr rfl

/-- Question marks are the marks of optional repetitions. -/
theorem mark_eq_question_iff {b : Bounds} : b.mark = .question ↔ b.IsOptional := by
  unfold mark
  split
  · next h => exact ⟨fun _ => h, fun _ => rfl⟩
  · next h => exact ⟨nofun, fun hb => absurd hb h⟩

/-- An optional repetition that is written as one question mark is greedy, since a lazy one takes
two. -/
theorem eq_optional_of_marks {b : Bounds} (hb : b.IsOptional) (h : b.marks = [b.mark]) :
    b = optional := by
  obtain ⟨min, max, greedy⟩ := b
  obtain ⟨rfl, rfl⟩ := hb
  cases greedy
  · exact absurd h (by decide)
  · rfl

theorem marks_optional : optional.marks = [.question] := rfl

end Bounds

/-- How repetitions, innermost first, come out of the row of their marks. -/
inductive Reads : List Bounds → List Bounds → Prop where
  | nil : Reads [] []
  /-- Behind the mark of a lazy repetition the row goes on with the next repetition. -/
  | lazy {b : Bounds} {rest read : List Bounds} (hb : b.marks = [b.mark, .question])
    (hrest : Reads rest read) : Reads (b :: rest) (b.mark.bounded false :: read)
  /-- So it does behind a mark that no question mark follows. -/
  | greedy {b : Bounds} {rest read : List Bounds} (hb : b.marks = [b.mark])
    (hnext : ∀ o ∈ rest.head?, ¬ o.IsOptional) (hrest : Reads rest read) :
    Reads (b :: rest) (b.mark.bounded true :: read)
  /-- An optional repetition behind a mark is lost: its question mark makes that one lazy. -/
  | lost {b : Bounds} {rest read : List Bounds} (hb : b.marks = [b.mark])
    (hrest : Reads rest read) : Reads (b :: .optional :: rest) (b.mark.bounded false :: read)
  /-- A lazy optional repetition behind a mark keeps one of its two question marks. -/
  | halved {b o : Bounds} {rest read : List Bounds} (hb : b.marks = [b.mark]) (ho : o.IsOptional)
    (hrest : Reads (.optional :: rest) read) : Reads (b :: o :: rest) (b.mark.bounded false :: read)

/-- A question mark behind a mark makes it lazy, whatever it was written for. -/
theorem readMarks_cons_question (m : Mark) (r : List Mark) :
    readMarks (m :: .question :: r) = m.bounded false :: readMarks r := by
  rw [readMarks]

/-- A mark without one behind it is greedy. -/
theorem readMarks_cons {m : Mark} {r : List Mark} (h : ∀ n ∈ r.head?, n ≠ .question) :
    readMarks (m :: r) = m.bounded true :: readMarks r := by
  cases r with
  | nil => rfl
  | cons n r =>
    have hn := h n rfl
    cases n with
    | question => exact absurd rfl hn
    | bounds min max => rw [readMarks]; exact nofun

/-- A row of marks starts with the mark of the innermost repetition. -/
theorem head?_flatMap_marks (bs : List Bounds) :
    (bs.flatMap Bounds.marks).head? = bs.head?.map Bounds.mark := by
  cases bs with
  | nil => rfl
  | cons b rest =>
    rw [List.flatMap_cons]
    rcases b.marks_eq with hb | hb
    all_goals
      rw [hb]
      rfl

/-- **The row of marks of some repetitions** is read in these ways. -/
theorem reads_readMarks (bs : List Bounds) : Reads bs (readMarks (bs.flatMap Bounds.marks)) := by
  match bs with
  | [] => exact .nil
  | b :: rest =>
    -- A repetition can be lost behind the first one, so the row is gone through by its length.
    have hrest := reads_readMarks rest
    rw [List.flatMap_cons]
    rcases b.marks_eq with hb | hb
    · rw [hb, List.singleton_append]
      by_cases hnext : ∀ o ∈ rest.head?, ¬ o.IsOptional
      · rw [readMarks_cons]
        · exact .greedy hb hnext hrest
        · rw [head?_flatMap_marks]
          intro n hn
          obtain ⟨o, ho, rfl⟩ := Option.map_eq_some_iff.1 hn
          exact fun h => hnext o ho (Bounds.mark_eq_question_iff.1 h)
      -- The next repetition is optional, so its question mark goes with the mark in front of it.
      · match rest with
        | [] => exact absurd nofun hnext
        | o :: rest =>
          have ho : o.IsOptional := by simpa using hnext
          have hmark := Bounds.mark_eq_question_iff.2 ho
          rcases o.marks_eq with hmarks | hmarks
          · obtain rfl := Bounds.eq_optional_of_marks ho hmarks
            rw [List.flatMap_cons, Bounds.marks_optional, List.singleton_append,
              readMarks_cons_question]
            exact .lost hb (reads_readMarks rest)
          · rw [List.flatMap_cons, hmarks, hmark, List.cons_append, readMarks_cons_question]
            exact .halved hb ho (reads_readMarks (.optional :: rest))
    · rw [hb, List.cons_append, List.singleton_append, readMarks_cons_question]
      exact .lazy hb hrest
  termination_by bs.length

/-! ## What a row of marks matches -/

variable {isWord : WordKind → Char → Bool} {w : List Char} {e f : Expr} {bs read : List Bounds}
  {i j : Nat}

/-- What is optional may be left out anywhere in the text. -/
theorem matches_optional_iff {greedy : Bool} :
    Matches isWord w (.repeated e 0 (some 1) greedy) i j ↔
      i = j ∧ i ≤ w.length ∨ Matches isWord w e i j := by
  rw [matches_repeated_iff]
  constructor
  · rintro ⟨hi, n, hn, hchain⟩
    have hle := hn.2 1 rfl
    match n with
    | 0 => exact .inl ⟨hchain, hi⟩
    | 1 =>
      obtain ⟨k, hfirst, rfl⟩ := hchain
      exact .inr hfirst
  · rintro (⟨rfl, hi⟩ | h)
    · exact ⟨hi, 0, ⟨Nat.le_refl 0, fun m _ => Nat.zero_le m⟩, rfl⟩
    · exact ⟨Nat.le_trans h.le h.le_length, 1, ⟨Nat.zero_le 1, by simp⟩, j, h, rfl⟩

namespace Refines

/-- What is repeated over and over may be loosened. -/
theorem wrap (h : Refines isWord w e f) (bs : List Bounds) :
    Refines isWord w (wrap e bs) (wrap f bs) := by
  induction bs generalizing e f with
  | nil => exact h
  | cons b bs ih => exact ih (.repeated h)

/-- What may be left out matches as much as without that. -/
theorem of_optional {greedy : Bool} : Refines isWord w e (.repeated e 0 (some 1) greedy) :=
  fun _ _ h => matches_optional_iff.2 (.inr h)

/-- It is no use to be allowed to leave out what can do without a match. -/
theorem optional_of_stop {greedy : Bool}
    (h : ∀ i, i ≤ w.length → Matches isWord w e i i) :
    Refines isWord w (.repeated e 0 (some 1) greedy) e := by
  intro i j hmatch
  rcases matches_optional_iff.1 hmatch with ⟨rfl, hi⟩ | hmatch
  · exact h i hi
  · exact hmatch

end Refines

/-- Repetitions are put around an expression from the innermost one on. -/
theorem wrap_cons (b : Bounds) (e : Expr) (bs : List Bounds) :
    wrap e (b :: bs) = wrap (.repeated e b.min b.max b.greedy) bs := rfl

/-- The repetitions that are read match no more than those that were written. -/
theorem Reads.refines (h : Reads bs read) (e : Expr) :
    Refines isWord w (wrap e read) (wrap e bs) := by
  induction h generalizing e with
  | nil => exact .refl e
  | lazy hb _ ih =>
    rw [wrap_cons, wrap_cons, Bounds.bounded_mark]
    exact (ih _).trans (.wrap (.repeated (.refl e)) _)
  | greedy hb hnext _ ih =>
    rw [wrap_cons, wrap_cons, Bounds.bounded_mark]
    exact (ih _).trans (.wrap (.repeated (.refl e)) _)
  | lost hb _ ih =>
    -- The optional repetition that is lost would also match what its expression matches.
    rw [wrap_cons, wrap_cons, wrap_cons, Bounds.bounded_mark]
    exact (ih _).trans (.wrap (.trans (.repeated (.refl e)) .of_optional) _)
  | @halved b o rest read hb ho _ ih =>
    rw [wrap_cons, wrap_cons, wrap_cons, Bounds.bounded_mark, ho.1, ho.2]
    exact (ih _).trans (.wrap (.repeated (.repeated (.refl e))) _)

/-- A mark does not lose an optional repetition behind it, or one that changes what is matched: the
repeated expression may be left out anyway, or the next repetition allows that again. -/
def Bounds.Keeps (b : Bounds) (rest : List Bounds) : Prop :=
  b.marks = [b.mark] → rest.head? = some .optional →
    b.min = 0 ∨ ∃ o ∈ rest.tail.head?, o.IsOptional

instance (b : Bounds) (rest : List Bounds) : Decidable (b.Keeps rest) :=
  inferInstanceAs (Decidable (_ → _ → _ ∨ _))

/-- No mark in a row loses a repetition that changes what is matched. -/
def KeepsAll : List Bounds → Prop
  | [] => True
  | b :: rest => b.Keeps rest ∧ KeepsAll rest

instance : (bs : List Bounds) → Decidable (KeepsAll bs)
  | [] => isTrue trivial
  | b :: rest =>
    have := instDecidableKeepsAll rest
    inferInstanceAs (Decidable (b.Keeps rest ∧ KeepsAll rest))

/-- What is optional itself keeps any row behind it, since its expression may be left out anyway. -/
theorem keeps_optional (rest : List Bounds) : Bounds.optional.Keeps rest := fun _ _ => .inl rfl

/-- If no repetition is lost that matters, then those that are read match as much. -/
theorem Reads.refines_of_keepsAll (h : Reads bs read) (hkeeps : KeepsAll bs) (e : Expr) :
    Refines isWord w (wrap e bs) (wrap e read) := by
  induction h generalizing e with
  | nil => exact .refl e
  | lazy hb _ ih =>
    rw [wrap_cons, wrap_cons, Bounds.bounded_mark]
    exact .trans (.wrap (.repeated (.refl e)) _) (ih hkeeps.2 _)
  | greedy hb hnext _ ih =>
    rw [wrap_cons, wrap_cons, Bounds.bounded_mark]
    exact .trans (.wrap (.repeated (.refl e)) _) (ih hkeeps.2 _)
  | @lost b rest read hb hrest ih =>
    rw [wrap_cons, wrap_cons, wrap_cons, Bounds.bounded_mark]
    refine .trans ?_ (ih hkeeps.2.2 _)
    -- Either the lost question mark was of no use, or the next repetition does what it did.
    rcases hkeeps.1 hb rfl with hmin | ⟨o, ho, hoptional⟩
    · refine .wrap (.trans (.optional_of_stop fun i hi => ?_) (.repeated (.refl e))) _
      rw [hmin]
      exact .stop hi
    · obtain ⟨others, rfl⟩ := List.head?_eq_some_iff.1 ho
      rw [wrap_cons, wrap_cons, hoptional.1, hoptional.2]
      refine .wrap (.trans (.optional_of_stop fun i hi => .stop hi) ?_) _
      exact .repeated (.repeated (.refl e))
  -- The question mark that is left is that of an optional repetition in its own right.
  | @halved b o rest read hb ho _ ih =>
    rw [wrap_cons, wrap_cons, wrap_cons, Bounds.bounded_mark, ho.1, ho.2]
    refine .trans (.wrap (.repeated (.repeated (.refl e))) _) (ih ⟨keeps_optional rest, ?_⟩ _)
    exact hkeeps.2.2

/-! ## Expressions that keep their meaning -/

mutual

/-- Nowhere in an expression, of which some repetitions have been taken off, is a repetition lost
that changes what is matched. -/
def LegibleWithin (bs : List Bounds) : Expr → Prop
  | .repeated e min max greedy => LegibleWithin (⟨min, max, greedy⟩ :: bs) e
  | .group e => KeepsAll bs ∧ LegibleWithin [] e
  | .concat es => KeepsAll bs ∧ AllLegible es
  | .choice es => KeepsAll bs ∧ AllLegible es
  | _ => KeepsAll bs

/-- All of some expressions keep what they match when they are written. -/
def AllLegible : List Expr → Prop
  | [] => True
  | e :: es => LegibleWithin [] e ∧ AllLegible es

end

/-- An expression keeps what it matches when it is written. -/
def Legible (e : Expr) : Prop := LegibleWithin [] e

mutual

/-- Legibility is decided along the expression. -/
def decidableLegibleWithin (bs : List Bounds) : (e : Expr) → Decidable (LegibleWithin bs e)
  | .repeated e min max greedy => decidableLegibleWithin (⟨min, max, greedy⟩ :: bs) e
  | .group e =>
    have := decidableLegibleWithin [] e
    inferInstanceAs (Decidable (KeepsAll bs ∧ LegibleWithin [] e))
  | .concat es =>
    have := decidableAllLegible es
    inferInstanceAs (Decidable (KeepsAll bs ∧ AllLegible es))
  | .choice es =>
    have := decidableAllLegible es
    inferInstanceAs (Decidable (KeepsAll bs ∧ AllLegible es))
  | .text _ => inferInstanceAs (Decidable (KeepsAll bs))
  | .oneOf _ => inferInstanceAs (Decidable (KeepsAll bs))
  | .look _ => inferInstanceAs (Decidable (KeepsAll bs))

/-- So it is along several ones. -/
def decidableAllLegible : (es : List Expr) → Decidable (AllLegible es)
  | [] => isTrue trivial
  | e :: es =>
    have := decidableLegibleWithin [] e
    have := decidableAllLegible es
    inferInstanceAs (Decidable (LegibleWithin [] e ∧ AllLegible es))

end

instance (e : Expr) : Decidable e.Legible := decidableLegibleWithin [] e

/-- A sequence is legible if each of its parts is by itself. -/
theorem allLegible_iff {es : List Expr} : AllLegible es ↔ ∀ e ∈ es, LegibleWithin [] e := by
  induction es with
  | nil => simp [AllLegible]
  | cons e es ih => rw [AllLegible, ih, List.forall_mem_cons]

/-- Expressions are read again one by one. -/
theorem rereadAll_eq_map (es : List Expr) : rereadAll es = es.map reread := by
  induction es with
  | nil => rfl
  | cons e es ih => rw [rereadAll, ih, List.map_cons, reread]

/-- A row of marks around a part that matches no more than it was written for matches no more
either. -/
theorem wrap_readMarks_refines (h : Refines isWord w f e) (bs : List Bounds) :
    Refines isWord w (wrap f (readMarks (bs.flatMap Bounds.marks))) (wrap e bs) :=
  .trans ((reads_readMarks bs).refines f) (h.wrap bs)

/-- It matches as much if the part does and no repetition in the row is lost. -/
theorem refines_wrap_readMarks (h : Refines isWord w e f) (hkeeps : KeepsAll bs) :
    Refines isWord w (wrap e bs) (wrap f (readMarks (bs.flatMap Bounds.marks))) :=
  .trans ((reads_readMarks bs).refines_of_keepsAll hkeeps e) (h.wrap _)

/-- The induction is on the expression; the repetitions that have been taken off it wait in a row,
and each other constructor ends the row. -/
theorem rereadWith_refines (e : Expr) (bs : List Bounds) :
    Refines isWord w (rereadWith (bs.flatMap Bounds.marks) e) (wrap e bs) := by
  induction e using induct generalizing bs with
  | text cs => exact wrap_readMarks_refines (.refl _) bs
  | oneOf set => exact wrap_readMarks_refines (.refl _) bs
  | look l => exact wrap_readMarks_refines (.refl _) bs
  | repeated e min max greedy ih => exact ih (⟨min, max, greedy⟩ :: bs)
  | group e ih => exact wrap_readMarks_refines (.group (ih [])) bs
  | concat es ih =>
    rw [rereadWith, rereadAll_eq_map]
    have hall : Refines isWord w (.concat (es.map reread)) (.concat (es.map id)) :=
      .concat_map fun e he => ih e he []
    rw [List.map_id] at hall
    exact wrap_readMarks_refines hall bs
  | choice es ih =>
    rw [rereadWith, rereadAll_eq_map]
    have hall : Refines isWord w (.choice (es.map reread)) (.choice (es.map id)) :=
      .choice_map fun e he => ih e he []
    rw [List.map_id] at hall
    exact wrap_readMarks_refines hall bs

/-- **A written expression never matches more** than the expression itself. -/
theorem reread_refines (e : Expr) : Refines isWord w (reread e) e := rereadWith_refines e []

/-- The same induction the other way round, where each row that ends has to keep what it writes. -/
theorem refines_rereadWith (h : LegibleWithin bs e) :
    Refines isWord w (wrap e bs) (rereadWith (bs.flatMap Bounds.marks) e) := by
  induction e using induct generalizing bs with
  | text cs => exact refines_wrap_readMarks (.refl _) h
  | oneOf set => exact refines_wrap_readMarks (.refl _) h
  | look l => exact refines_wrap_readMarks (.refl _) h
  | repeated e min max greedy ih => exact ih h
  | group e ih => exact refines_wrap_readMarks (.group (ih h.2)) h.1
  | concat es ih =>
    rw [rereadWith, rereadAll_eq_map]
    have hall : Refines isWord w (.concat (es.map id)) (.concat (es.map reread)) :=
      .concat_map fun e he => ih e he (allLegible_iff.1 h.2 e he)
    rw [List.map_id] at hall
    exact refines_wrap_readMarks hall h.1
  | choice es ih =>
    rw [rereadWith, rereadAll_eq_map]
    have hall : Refines isWord w (.choice (es.map id)) (.choice (es.map reread)) :=
      .choice_map fun e he => ih e he (allLegible_iff.1 h.2 e he)
    rw [List.map_id] at hall
    exact refines_wrap_readMarks hall h.1

/-- **A legible expression matches as much** when it has been written. -/
theorem refines_reread (h : Legible e) : Refines isWord w e (reread e) := refines_rereadWith h

/-! ## Bounds stay in order -/

/-- A repetition requires no more matches than it allows. -/
def Bounds.Ordered (b : Bounds) : Prop := ∀ m ∈ b.max, b.min ≤ m

/-- A mark has the bounds of its repetition, so they stay in order. -/
theorem Bounds.ordered_bounded_mark {b : Bounds} (h : b.Ordered) (greedy : Bool) :
    (b.mark.bounded greedy).Ordered := by
  rw [bounded_mark]
  exact h

/-- What is read in a row are bounds that were written there, and those of a question mark. -/
theorem Reads.ordered (h : Reads bs read) (hbs : ∀ b ∈ bs, b.Ordered) :
    ∀ b ∈ read, b.Ordered := by
  induction h with
  | nil => exact nofun
  | lazy _ _ ih =>
    obtain ⟨hb, hrest⟩ := List.forall_mem_cons.1 hbs
    exact List.forall_mem_cons.2 ⟨Bounds.ordered_bounded_mark hb _, ih hrest⟩
  | greedy _ _ _ ih =>
    obtain ⟨hb, hrest⟩ := List.forall_mem_cons.1 hbs
    exact List.forall_mem_cons.2 ⟨Bounds.ordered_bounded_mark hb _, ih hrest⟩
  | lost _ _ ih =>
    obtain ⟨hb, hrest⟩ := List.forall_mem_cons.1 hbs
    exact List.forall_mem_cons.2
      ⟨Bounds.ordered_bounded_mark hb _, ih (List.forall_mem_cons.1 hrest).2⟩
  | halved _ _ _ ih =>
    obtain ⟨hb, hrest⟩ := List.forall_mem_cons.1 hbs
    -- Of the lazy one behind it a question mark is left, which is in order too.
    have hoptional : Bounds.optional.Ordered := fun m _ => Nat.zero_le m
    exact List.forall_mem_cons.2 ⟨Bounds.ordered_bounded_mark hb _,
      ih (List.forall_mem_cons.2 ⟨hoptional, (List.forall_mem_cons.1 hrest).2⟩)⟩

/-- Repetitions in order may be put around an expression. -/
theorem Bounded.wrap (he : Bounded e) (hbs : ∀ b ∈ bs, b.Ordered) : Bounded (wrap e bs) := by
  induction bs generalizing e with
  | nil => exact he
  | cons b bs ih =>
    obtain ⟨hb, hrest⟩ := List.forall_mem_cons.1 hbs
    exact ih (.repeated b.greedy hb he) hrest

/-- So may those that are read from their marks. -/
theorem Bounded.wrap_readMarks (he : Bounded e) (hbs : ∀ b ∈ bs, b.Ordered) :
    Bounded (Expr.wrap e (readMarks (bs.flatMap Bounds.marks))) :=
  he.wrap ((reads_readMarks bs).ordered hbs)

/-- What is read again has its bounds in order if what was written has. -/
theorem Bounded.rereadWith (h : Bounded e) (hbs : ∀ b ∈ bs, b.Ordered) :
    Bounded (rereadWith (bs.flatMap Bounds.marks) e) := by
  have hmap : ∀ {es : List Expr}, (∀ e ∈ es, Bounded (Expr.rereadWith [] e)) →
      ∀ f ∈ rereadAll es, Bounded f := by
    intro es hes
    rw [rereadAll_eq_map]
    exact List.forall_mem_map.2 hes
  induction h generalizing bs with
  | text cs => exact Bounded.wrap_readMarks (.text cs) hbs
  | oneOf set => exact Bounded.wrap_readMarks (.oneOf set) hbs
  | look l => exact Bounded.wrap_readMarks (.look l) hbs
  | @repeated e min max greedy hbounds _ ih =>
    exact @ih (⟨min, max, greedy⟩ :: bs) (List.forall_mem_cons.2 ⟨hbounds, hbs⟩)
  | group _ ih => exact Bounded.wrap_readMarks (.group (@ih [] nofun)) hbs
  | concat _ ih => exact Bounded.wrap_readMarks (.concat (hmap fun e he => @ih e he [] nofun)) hbs
  | choice _ ih => exact Bounded.wrap_readMarks (.choice (hmap fun e he => @ih e he [] nofun)) hbs

theorem Bounded.reread (h : Bounded e) : Bounded (reread e) := @Bounded.rereadWith e [] h nofun

end CredentialPolicy.Pattern.Expr
