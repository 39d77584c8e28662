import CredentialPolicy.Pattern.Matcher
import CredentialPolicy.Proofs.Pattern.Language

/-!
Patterns that are read have the bounds of their repetitions in order.

The reader refuses bounds between braces of which the second is smaller; the other marks of a
repetition have fixed ones. So every part of a draft is in order as long as the reader goes on, and
so is the expression that a pattern stands for, whatever the switches are.
-/

set_option autoImplicit false

namespace CredentialPolicy.Pattern

/-- Nowhere in a part of a pattern does a repetition require more than it allows. -/
inductive Node.Bounded : Node → Prop where
  | settings (settings : List Setting) : Bounded (.settings settings)
  | literal (l : Literal) : Bounded (.literal l)
  | dot : Bounded .dot
  | place (p : Place) : Bounded (.place p)
  | named (c : NamedClass) : Bounded (.named c)
  | short (c : ShortClass) (negated : Bool) : Bounded (.short c negated)
  | bracketed (negated : Bool) (set : ClassSet) : Bounded (.bracketed negated set)
  | repetition {node : Node} {min : Nat} {max : Option Nat} (greedy : Bool)
    (h : ∀ m ∈ max, min ≤ m) (hnode : Bounded node) : Bounded (.repetition node min max greedy)
  | group {node : Node} (kind : GroupKind) (hnode : Bounded node) : Bounded (.group kind node)
  | alternation {nodes : List Node} (hnodes : ∀ node ∈ nodes, Bounded node) :
    Bounded (.alternation nodes)
  | concat {nodes : List Node} (hnodes : ∀ node ∈ nodes, Bounded node) : Bounded (.concat nodes)

/-! ## Reading -/

variable {extended : Bool} {s rest : List Char} {node : Node} {d next : Draft}

/-- Bounds in braces are read only if the second is not smaller; a single bound and an open end are
in order by themselves. -/
theorem le_of_readBounds {min : Nat} {max : Option Nat}
    (h : readBounds extended s = some ((min, max), rest)) : ∀ m ∈ max, min ≤ m := by
  unfold readBounds at h
  obtain ⟨first, -, h⟩ := Option.bind_eq_some_iff.1 h
  split at h
  · cases h
    simp
  · split at h
    · cases h
      simp
    · obtain ⟨last, -, h⟩ := Option.bind_eq_some_iff.1 h
      split at h
      · split at h
        · next hle =>
          cases h
          simpa using hle
        · cases h
      · cases h
  · cases h

/-- What is read as it is, or from something that is read first, is in order if each of it is. -/
theorem bounded_of_map {α : Type} {f : α → Node × List Char} {read? : Option α}
    (hf : ∀ a, (f a).1.Bounded) (h : read?.map f = some (node, rest)) : node.Bounded := by
  obtain ⟨a, -, ha⟩ := Option.map_eq_some_iff.1 h
  have hnode := hf a
  rwa [ha] at hnode

/-- What is read behind a backslash repeats nothing. -/
theorem bounded_of_readEscape (h : readEscape extended s = some (node, rest)) : node.Bounded := by
  unfold readEscape at h
  split at h
  case h_1 => cases h
  case h_2 => exact bounded_of_map (fun a => .literal a.1) h
  case h_3 => exact bounded_of_map (fun a => .literal a.1) h
  case h_4 => exact bounded_of_map (fun a => .literal a.1) h
  case h_5 => exact bounded_of_map (fun a => .named a.1) h
  case h_6 => exact bounded_of_map (fun a => .named a.1) h
  case h_15 => exact bounded_of_map (fun a => .place a.1) h
  case h_19 =>
    split at h
    · cases h
      exact .literal _
    · exact bounded_of_map (fun a => .literal _) h
  -- The other letters stand for a class or for a place.
  all_goals
    cases h
    first
      | exact .short _ _
      | exact .place _

/-- Brackets that are closed make one class. -/
theorem bounded_of_readBracketStep {inner : OpenBrackets} {outer : List OpenBrackets}
    (h : readBracketStep extended inner outer s = some (.closed node, rest)) : node.Bounded := by
  unfold readBracketStep at h
  split at h
  case h_2 =>
    split at h
    · cases h
    · cases h
  case h_3 =>
    split at h
    · cases h
      exact .bracketed _ _
    · cases h
  -- An item of a class is put into the open brackets, so nothing is closed.
  case h_7 =>
    obtain ⟨item, -, h⟩ := Option.map_eq_some_iff.1 h
    cases h
  all_goals cases h

/-- Brackets are read step by step until they are closed, and the step that closes them makes the
class. -/
theorem bounded_of_readBrackets {inner : OpenBrackets} {outer : List OpenBrackets}
    (h : readBrackets extended inner outer s = some (node, rest)) : node.Bounded := by
  fun_induction readBrackets extended inner outer s with
  | case1 inner outer s closed rest hstep =>
    cases h
    exact bounded_of_readBracketStep hstep
  | case2 inner outer s inner' outer' rest hstep hlt ih => exact ih h
  | case3 => cases h
  | case4 => cases h

namespace Draft

/-- Every part of a draft has its bounds in order. -/
structure Bounded (d : Draft) : Prop where
  /-- So have the alternatives that are read. -/
  alternatives : ∀ node ∈ d.alternatives, node.Bounded
  /-- So have the parts of the current one. -/
  parts : ∀ node ∈ d.parts, node.Bounded
  /-- So have those in front of parentheses that are open. -/
  outer : ∀ g ∈ d.outer,
    (∀ node ∈ g.alternatives, node.Bounded) ∧ ∀ node ∈ g.parts, node.Bounded

theorem bounded_empty : ({} : Draft).Bounded := ⟨nofun, nofun, nofun⟩

namespace Bounded

/-- The current alternative is in order, as its parts are. -/
theorem alternative (h : d.Bounded) : d.alternative.Bounded := by
  have hparts := h.parts
  unfold Draft.alternative
  split
  · next part hone =>
    rw [hone] at hparts
    exact hparts part List.mem_cons_self
  · exact .concat fun node hnode => hparts node (List.mem_reverse.1 hnode)

/-- So is the choice between the alternatives that have been read. -/
theorem body (h : d.Bounded) : d.body.Bounded := by
  unfold Draft.body
  split
  · exact h.alternative
  · refine .alternation fun node hnode => ?_
    rcases List.mem_cons.1 (List.mem_reverse.1 hnode) with rfl | hnode
    · exact h.alternative
    · exact h.alternatives node hnode

/-- A part that is in order may be added. -/
theorem add (h : d.Bounded) (hnode : node.Bounded) : (d.add node).Bounded :=
  ⟨h.alternatives, List.forall_mem_cons.2 ⟨hnode, h.parts⟩, h.outer⟩

/-- The last part may be repeated, under bounds that are in order. -/
theorem repeatLast (h : d.Bounded) {min : Nat} {max : Option Nat} {greedy : Bool}
    (hbounds : ∀ m ∈ max, min ≤ m) (hnext : d.repeatLast min max greedy = some next) :
    next.Bounded := by
  have hparts := h.parts
  unfold Draft.repeatLast at hnext
  split at hnext
  · cases hnext
  · cases hnext
  · next hlast =>
    cases hnext
    rw [hlast] at hparts
    obtain ⟨hpart, hothers⟩ := List.forall_mem_cons.1 hparts
    exact ⟨h.alternatives, List.forall_mem_cons.2 ⟨.repetition greedy hbounds hpart, hothers⟩,
      h.outer⟩

/-- The current alternative joins those that have been read. -/
theorem startAlternative (h : d.Bounded) : d.startAlternative.Bounded :=
  ⟨List.forall_mem_cons.2 ⟨h.alternative, h.alternatives⟩, nofun, h.outer⟩

/-- Parentheses that are opened put aside what stands in front of them. -/
theorem openGroup (h : d.Bounded) (kind : GroupKind) : (d.openGroup kind).Bounded :=
  ⟨nofun, nofun, List.forall_mem_cons.2 ⟨⟨h.alternatives, h.parts⟩, h.outer⟩⟩

/-- Parentheses that are closed make one part of what they enclose, behind what was put aside. -/
theorem closeGroup (h : d.Bounded) (hnext : d.closeGroup = some next) : next.Bounded := by
  have houter := h.outer
  unfold Draft.closeGroup at hnext
  split at hnext
  · cases hnext
  · next g outer hopen =>
    -- What was put aside is the first of what is still open.
    cases hnext
    rw [hopen] at houter
    obtain ⟨⟨halternatives, hparts⟩, hothers⟩ := List.forall_mem_cons.1 houter
    exact ⟨halternatives, List.forall_mem_cons.2 ⟨.group g.kind h.body, hparts⟩, hothers⟩

/-- A name is of no matter to the parts of a draft. -/
theorem of_readName (h : d.Bounded)
    (hnext : (match readName s with
      | some (name, rest) =>
        if d.names.contains name then none
        else some ({ d with names := name :: d.names }.openGroup .capture, rest)
      | none => none) = some (next, rest)) : next.Bounded := by
  have hnamed : ∀ names, ({ d with names } : Draft).Bounded := fun _ =>
    ⟨h.alternatives, h.parts, h.outer⟩
  split at hnext
  · split at hnext
    · cases hnext
    · cases hnext
      exact (hnamed _).openGroup .capture
  · cases hnext

/-- Behind an opening parenthesis a group is opened, or settings are added, which repeat nothing. -/
theorem readGroup (h : d.Bounded) (hnext : d.readGroup s = some (next, rest)) : next.Bounded := by
  unfold Draft.readGroup at hnext
  split at hnext
  case h_5 => exact h.of_readName hnext
  case h_6 => exact h.of_readName hnext
  case h_7 =>
    split at hnext
    · cases hnext
      exact h.openGroup _
    · split at hnext
      · cases hnext
      · cases hnext
        exact add ⟨h.alternatives, h.parts, h.outer⟩ (.settings _)
    · cases hnext
  case h_8 =>
    cases hnext
    exact h.openGroup .capture
  -- Conditions on the text around a match are refused.
  all_goals cases hnext

/-- The marks of a repetition that have fixed bounds repeat the last part. -/
theorem of_repeatLast (h : d.Bounded) {min : Nat} {max : Option Nat} {greedy : Bool}
    (hnext : (d.repeatLast min max greedy).map (·, s) = some (next, rest))
    (hbounds : ∀ m ∈ max, min ≤ m) : next.Bounded := by
  obtain ⟨d', hd', hnext⟩ := Option.map_eq_some_iff.1 hnext
  cases hnext
  exact h.repeatLast hbounds hd'

/-- One step of the reader keeps a draft in order, whichever character it starts with. -/
theorem readStep (h : d.Bounded) (hnext : d.readStep s = some (next, rest)) : next.Bounded := by
  unfold Draft.readStep at hnext
  split at hnext
  case h_1 => cases hnext
  case h_2 => exact h.readGroup hnext
  case h_3 =>
    obtain ⟨d', hd', hnext⟩ := Option.map_eq_some_iff.1 hnext
    cases hnext
    exact h.closeGroup hd'
  case h_4 =>
    cases hnext
    exact h.startAlternative
  case h_5 =>
    obtain ⟨⟨node, r⟩, hnode, hnext⟩ := Option.map_eq_some_iff.1 hnext
    cases hnext
    exact h.add (bounded_of_readBrackets hnode)
  -- A question mark, a star and a plus: each has bounds of its own.
  case h_6 => exact h.of_repeatLast hnext fun m _ => Nat.zero_le m
  case h_7 => exact h.of_repeatLast hnext nofun
  case h_8 => exact h.of_repeatLast hnext nofun
  -- Bounds in braces are the only ones that could be out of order.
  case h_9 =>
    obtain ⟨⟨⟨min, max⟩, r⟩, hbounds, hnext⟩ := Option.bind_eq_some_iff.1 hnext
    obtain ⟨d', hd', hnext⟩ := Option.bind_eq_some_iff.1 hnext
    cases hnext
    exact h.repeatLast (le_of_readBounds hbounds) hd'
  case h_10 =>
    obtain ⟨⟨node, r⟩, hnode, hnext⟩ := Option.map_eq_some_iff.1 hnext
    cases hnext
    exact h.add (bounded_of_readEscape hnode)
  case h_11 =>
    cases hnext
    exact h.add .dot
  case h_12 =>
    cases hnext
    exact h.add (.place _)
  case h_13 =>
    cases hnext
    exact h.add (.place _)
  case h_14 =>
    cases hnext
    exact h.add (.literal _)

/-- So does the whole run. The induction is on the steps that are taken. -/
theorem readAll (h : d.Bounded) (hnext : d.readAll s = some next) : next.Bounded := by
  fun_induction Draft.readAll d s with
  | case1 =>
    cases hnext
    exact h
  | case2 d s hstart later rest hlt hstep ih => exact ih (h.readStep hstep) hnext
  | case3 => cases hnext
  | case4 => cases hnext

end Bounded

end Draft

/-- The pattern that a text writes has its bounds in order. -/
theorem Node.bounded_of_ofText? {text : List Char} (h : Node.ofText? text = some node) :
    node.Bounded := by
  obtain ⟨d, hd, h⟩ := Option.bind_eq_some_iff.1 h
  have hbounded := Draft.bounded_empty.readAll hd
  split at h
  · cases h
    exact hbounded.body
  · cases h

/-! ## Meanings -/

/-- A character stands for itself or for a set, and neither repeats anything. -/
theorem Context.bounded_of_literal? {c : Context} {l : Literal} {e : Expr}
    (h : c.literal? l = some e) : e.Bounded := by
  unfold literal? at h
  split at h
  · cases h
  · cases h
    split
    · exact .text _
    · exact .oneOf _

/-- The dot stands for a set, whichever switches are on. -/
theorem Context.bounded_of_dot? {c : Context} {e : Expr} (h : c.dot? = some e) : e.Bounded := by
  unfold dot? at h
  split at h
  · cases h
  · split at h
    · cases h
      exact .oneOf _
    · split at h
      · cases h
        exact .oneOf _
      · cases h
        exact .oneOf _

/-- Parts that follow one another stand for expressions in order if each of them does, whatever
switches the earlier ones leave on. -/
theorem bounded_of_exprsOf? {nodes : List Node}
    (h : ∀ node ∈ nodes, ∀ c e c', node.expr? c = some (e, c') → Expr.Bounded e)
    {c c' : Context} {es : List Expr} (hes : exprsOf? c nodes = some (es, c')) :
    ∀ e ∈ es, e.Bounded := by
  -- Each part is read under the switches that the one before it leaves, so these are general.
  induction nodes generalizing c es with
  | nil =>
    cases hes
    nofun
  | cons node nodes ih =>
    obtain ⟨hnode, hnodes⟩ := List.forall_mem_cons.1 h
    rw [exprsOf?] at hes
    obtain ⟨⟨e, c₁⟩, he, hes⟩ := Option.bind_eq_some_iff.1 hes
    obtain ⟨⟨others, c₂⟩, hothers, hes⟩ := Option.bind_eq_some_iff.1 hes
    cases hes
    exact List.forall_mem_cons.2 ⟨hnode c e c₁ he, ih hnodes hothers⟩

/-- **A pattern in order stands for an expression in order.** Only repetitions bring in bounds, and
an expression repeats under those of its part. -/
theorem Node.Bounded.expr? (h : node.Bounded) {c c' : Context} {e : Expr}
    (he : node.expr? c = some (e, c')) : e.Bounded := by
  induction h generalizing c c' e with
  | settings settings =>
    cases he
    exact .text []
  | literal l =>
    obtain ⟨f, hf, he⟩ := Option.map_eq_some_iff.1 he
    cases he
    exact Context.bounded_of_literal? hf
  | dot =>
    obtain ⟨f, hf, he⟩ := Option.map_eq_some_iff.1 he
    cases he
    exact Context.bounded_of_dot? hf
  | place p =>
    cases he
    exact .look _
  | named k =>
    obtain ⟨set, -, he⟩ := Option.map_eq_some_iff.1 he
    cases he
    exact .oneOf set
  | short k negated =>
    obtain ⟨set, -, he⟩ := Option.map_eq_some_iff.1 he
    cases he
    exact .oneOf set
  | bracketed negated set =>
    rw [Node.expr?] at he
    obtain ⟨inner, -, he⟩ := Option.bind_eq_some_iff.1 he
    obtain ⟨set, -, he⟩ := Option.bind_eq_some_iff.1 he
    cases he
    exact .oneOf set
  | repetition greedy hbounds _ ih =>
    rw [Node.expr?] at he
    -- Only here are there bounds, and those are in order as they were read.
    obtain ⟨⟨f, c₁⟩, hf, he⟩ := Option.bind_eq_some_iff.1 he
    cases he
    exact .repeated _ hbounds (ih hf)
  | group kind _ ih =>
    cases kind with
    | capture =>
      rw [Node.expr?] at he
      obtain ⟨⟨f, c₁⟩, hf, he⟩ := Option.bind_eq_some_iff.1 he
      cases he
      exact .group (ih hf)
    | plain settings =>
      -- Parentheses that capture nothing leave no trace in the expression.
      rw [Node.expr?] at he
      obtain ⟨⟨f, c₁⟩, hf, he⟩ := Option.bind_eq_some_iff.1 he
      cases he
      exact ih hf
  | alternation _ ih =>
    obtain ⟨⟨es, c₁⟩, hes, he⟩ := Option.map_eq_some_iff.1 he
    cases he
    exact .choice (bounded_of_exprsOf? (fun node hnode c e c' => ih node hnode) hes)
  | concat _ ih =>
    obtain ⟨⟨es, c₁⟩, hes, he⟩ := Option.map_eq_some_iff.1 he
    cases he
    exact .concat (bounded_of_exprsOf? (fun node hnode c e c' => ih node hnode) hes)

end CredentialPolicy.Pattern
