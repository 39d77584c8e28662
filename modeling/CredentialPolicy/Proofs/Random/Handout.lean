import CredentialPolicy.Random.Source

/-!
What a sampler takes from its source, and what it makes of it.

A sampler is a function of the source's state, so both questions about it are questions about the
words that the source hands out. `Hands s ws t` says that a source in state `s` hands out the words
`ws` and is in state `t` afterwards. On top of it stand the two judgements in which every sampler of
this library is described:

* `Yields m Q`: whatever the source hands out, `m` gives a result and takes a number of words that
  satisfy `Q` together. This is the *for every stream* direction.
* `Answers m ws a`: handed exactly the words `ws`, `m` gives `a` and takes all of them. A sampler
  can give `a` if it answers some words with `a`; this is the *for some stream* direction.

Both are compositional (`Yields.bind`, `Answers.bind`), so a sampler needs one lemma of each kind
and its callers never open it.
-/

set_option autoImplicit false

namespace CredentialPolicy.Random

variable {σ : Type} [WordSource σ] {α β : Type}

/-! ## Words handed out -/

/-- The source hands out the words of the list, in order, and is in the last state afterwards. -/
def Hands : σ → List UInt32 → σ → Prop
  | s, [], t => s = t
  | s, w :: ws, t => (WordSource.next s).1 = w ∧ Hands (WordSource.next s).2 ws t

@[simp] theorem hands_nil {s t : σ} : Hands s [] t ↔ s = t := Iff.rfl

@[simp] theorem hands_cons {s t : σ} {w : UInt32} {ws : List UInt32} :
    Hands s (w :: ws) t ↔
      (WordSource.next s).1 = w ∧ Hands (WordSource.next s).2 ws t := Iff.rfl

/-- Two lists are handed out one after the other. -/
theorem hands_append {s u : σ} {vs ws : List UInt32} :
    Hands s (vs ++ ws) u ↔ ∃ t, Hands s vs t ∧ Hands t ws u := by
  induction vs generalizing s with
  | nil => simp
  | cons v vs ih =>
    rw [List.cons_append, hands_cons, ih]
    constructor
    · rintro ⟨hv, t, hvs, hws⟩
      exact ⟨t, ⟨hv, hvs⟩, hws⟩
    · rintro ⟨t, ⟨hv, hvs⟩, hws⟩
      exact ⟨hv, t, hvs, hws⟩

/-- A list of words is what its own cyclic source hands out first. -/
theorem exists_hands_cyclicWords (ws : List UInt32) :
    ∃ t, Hands (CyclicWords.ofList ws) ws t := by
  -- The round may have started with a longer list than is left of it.
  have hround : ∀ all rest : List UInt32, ∃ t, Hands (⟨all, rest⟩ : CyclicWords) rest t := by
    intro all rest
    induction rest with
    | nil => exact ⟨_, rfl⟩
    | cons w rest ih =>
      obtain ⟨t, ht⟩ := ih
      exact ⟨t, rfl, ht⟩
  exact hround ws ws

/-! ## A source that counts -/

/-- A source that also counts the words taken from it. Two of its states are equal only if equally
many words were taken, so that nothing was taken is a statement about its states. -/
structure Metered (σ : Type) where
  /-- The source whose words are counted. -/
  source : σ
  /-- The number of words taken so far. -/
  taken : Nat := 0

instance : WordSource (Metered σ) where
  next s := ((WordSource.next s.source).1, ⟨(WordSource.next s.source).2, s.taken + 1⟩)

/-- As many words are counted as are handed out. -/
theorem taken_of_hands {s t : Metered σ} {ws : List UInt32} (h : Hands s ws t) :
    t.taken = s.taken + ws.length := by
  induction ws generalizing s with
  | nil => rw [← hands_nil.1 h, List.length_nil, Nat.add_zero]
  | cons w ws ih =>
    rw [ih (hands_cons.1 h).2, List.length_cons]
    show s.taken + 1 + ws.length = s.taken + (ws.length + 1)
    omega

/-! ## For every stream -/

/-- Whatever the source hands out, the sampler's result and the number of words that it takes are as
stated. -/
def Yields (m : StateM σ α) (Q : α → Nat → Prop) : Prop :=
  ∀ s, ∃ ws, Hands s ws (m s).2 ∧ Q (m s).1 ws.length

namespace Yields

theorem pure {Q : α → Nat → Prop} {a : α} (h : Q a 0) : Yields (Pure.pure a : StateM σ α) Q :=
  fun _ => ⟨[], rfl, h⟩

/-- What is said of the result and the words may be loosened. -/
theorem mono {m : StateM σ α} {Q R : α → Nat → Prop} (hm : Yields m Q)
    (h : ∀ a n, Q a n → R a n) : Yields m R := by
  intro s
  obtain ⟨ws, hs, hQ⟩ := hm s
  exact ⟨ws, hs, h _ _ hQ⟩

/-- The words of a composition are those of its parts together. -/
theorem bind {m : StateM σ α} {f : α → StateM σ β} {Q : α → Nat → Prop} {R : β → Nat → Prop}
    (hm : Yields m Q) (hf : ∀ a n, Q a n → Yields (f a) fun b k => R b (n + k)) :
    Yields (m >>= f) R := by
  intro s
  obtain ⟨vs, hvs, hQ⟩ := hm s
  obtain ⟨ws, hws, hR⟩ := hf _ _ hQ (m s).2
  refine ⟨vs ++ ws, hands_append.2 ⟨_, hvs, hws⟩, ?_⟩
  rw [List.length_append]
  exact hR

/-- What holds of every result holds of the result at one state. -/
theorem result {m : StateM σ α} {Q : α → Prop} (hm : Yields m fun a _ => Q a) (s : σ) :
    Q (m s).1 := by
  obtain ⟨_, _, hQ⟩ := hm s
  exact hQ

end Yields

/-- Reading a word takes just that one. -/
theorem yields_word : Yields (word : StateM σ UInt32) fun _ n => n = 1 :=
  fun s => ⟨[(WordSource.next s).1], ⟨rfl, rfl⟩, rfl⟩

/-! ## For some stream -/

/-- Handed the words of the list, the sampler takes all of them and gives the stated result. -/
def Answers (m : StateM σ α) (ws : List UInt32) (a : α) : Prop :=
  ∀ s t, Hands s ws t → m s = (a, t)

namespace Answers

theorem pure (a : α) : Answers (Pure.pure a : StateM σ α) [] a := by
  rintro s t rfl
  rfl

/-- Words for a sampler and words for what follows it are words for both together. -/
theorem bind {m : StateM σ α} {f : α → StateM σ β} {vs ws : List UInt32} {a : α} {b : β}
    (hm : Answers m vs a) (hf : Answers (f a) ws b) : Answers (m >>= f) (vs ++ ws) b := by
  intro s u h
  obtain ⟨t, hvs, hws⟩ := hands_append.1 h
  show f (m s).1 (m s).2 = (b, u)
  rw [hm s t hvs]
  exact hf t u hws

/-- A sampler that only computes with another one's result. -/
theorem map {m : StateM σ α} {f : α → β} {ws : List UInt32} {a : α} {b : β} (hm : Answers m ws a)
    (h : f a = b) : Answers (m >>= fun x => Pure.pure (f x)) ws b := by
  rw [← List.append_nil ws]
  refine hm.bind ?_
  rw [h]
  exact pure b

/-- Words that are answered are also answered when a cyclic source starts with them. -/
theorem result_cyclicWords {m : StateM CyclicWords α} {ws : List UInt32} {a : α}
    (h : Answers m ws a) : (m (CyclicWords.ofList ws)).1 = a := by
  obtain ⟨t, ht⟩ := exists_hands_cyclicWords ws
  rw [h _ t ht]

end Answers

/-- The word that is handed out is the one that is read. -/
theorem answers_word (w : UInt32) : Answers (word : StateM σ UInt32) [w] w := by
  rintro s t ⟨rfl, rfl⟩
  rfl

end CredentialPolicy.Random
