import CredentialPolicy.Policy.Registry
import CredentialPolicy.Proofs.Document.Presentation
import CredentialPolicy.Proofs.Json.RoundTrip

/-!
A rule has many documents.

A rule's document need not be the record that the rule is written as. Its members may stand in any
order and among others, sets may be listed in any order and with repetitions, what has its default
may be left out; or the document is the list of the values alone (`Rule.Presented`). None of this
makes a difference to what is read: both forms show the fields of the rule, and whatever shows them
is read as the rule (`Rule.ofValue?_of_presented`). The kind in front is of no matter to the fields,
it only chooses between the two readers.

What is read does depend on a known field being written once: a document that gives one twice is no
rule's document.
-/

set_option autoImplicit false

namespace CredentialPolicy

open Document
open Json (Exact)

namespace PasswordRule

/-- Whatever shows the fields of a rule is read as the rule. -/
theorem ofFields?_of_shows {r : PasswordRule} {f : Fields}
    (h : ∀ e ∈ r.toFields, f.Shows ({} : PasswordRule).toFields e) : ofFields? f = some r := by
  simp only [toFields, List.forall_mem_cons] at h
  obtain ⟨hname, hmin, hmax, hletters, hupper, hlower, hdigits, hspecials, hspecialChars, hillegal,
    hrepeat, husername, hwords, hschemas, -⟩ := h
  simp only [ofFields?, Fields.withDefault_of_shows hname rfl readBack_text,
    Fields.withDefault_of_shows hmin rfl readBack_int32,
    Fields.withDefault_of_shows hmax rfl readBack_int32,
    Fields.withDefault_of_shows hletters rfl readBack_int32,
    Fields.withDefault_of_shows hupper rfl readBack_int32,
    Fields.withDefault_of_shows hlower rfl readBack_int32,
    Fields.withDefault_of_shows hdigits rfl readBack_int32,
    Fields.withDefault_of_shows hspecials rfl readBack_int32,
    Fields.withDefault_of_shows hspecialChars rfl readBack_charSet,
    Fields.withDefault_of_shows hillegal rfl readBack_charSet,
    Fields.withDefault_of_shows hrepeat rfl readBack_int32,
    Fields.withDefault_of_shows husername rfl readBack_bool,
    Fields.withDefault_of_shows hwords rfl readBack_textSet,
    Fields.withDefault_of_shows hschemas rfl readBack_textSet]
  rfl

/-- The fields of a rule are texts, truth values, small integers and sets, so they nest one deep at
most. -/
theorem exact_of_mem_toFields {r : PasswordRule} {depth : Nat} :
    ∀ e ∈ r.toFields, Exact (depth + 1) e.2 := by
  simp only [toFields, List.forall_mem_cons, Exact.ofInt32, Exact.ofCharSet, Exact.ofTextSet,
    Exact.text, Exact.bool, true_and]
  exact nofun

end PasswordRule

namespace AccountRule

/-- A pattern that may be absent, as a value. -/
def ofPattern : Option String → Value
  | some p => .text p
  | none => .null

/-- An absent pattern is read back as absent. -/
theorem readBack_pattern : ReadBack pattern? ofPattern := by
  rintro (_ | p) v h
  · cases h
    rfl
  · cases h
    rfl

/-- Whatever shows the fields of a rule is read as the rule. -/
theorem ofFields?_of_shows {r : AccountRule} {f : Fields}
    (h : ∀ e ∈ r.toFields, f.Shows ({} : AccountRule).toFields e) : ofFields? f = some r := by
  simp only [toFields, List.forall_mem_cons] at h
  obtain ⟨hname, hmin, hmax, hpattern, hupper, hlower, hwords, hschemas, hstarts, hends, -⟩ := h
  have hpattern? : f.withDefault "pattern" pattern? none = some r.pattern :=
    Fields.withDefault_of_shows hpattern rfl readBack_pattern
  simp only [ofFields?, Fields.withDefault_of_shows hname rfl readBack_text,
    Fields.withDefault_of_shows hmin rfl readBack_int32,
    Fields.withDefault_of_shows hmax rfl readBack_int32, hpattern?,
    Fields.withDefault_of_shows hupper rfl readBack_bool,
    Fields.withDefault_of_shows hlower rfl readBack_bool,
    Fields.withDefault_of_shows hwords rfl readBack_textSet,
    Fields.withDefault_of_shows hschemas rfl readBack_textSet,
    Fields.withDefault_of_shows hstarts rfl readBack_textSet,
    Fields.withDefault_of_shows hends rfl readBack_textSet]
  rfl

theorem exact_of_mem_toFields {r : AccountRule} {depth : Nat} :
    ∀ e ∈ r.toFields, Exact (depth + 1) e.2 := by
  cases hpattern : r.pattern
  all_goals
    simp only [toFields, hpattern, List.forall_mem_cons, Exact.ofInt32, Exact.ofTextSet, Exact.text,
      Exact.bool, Exact.null, true_and]
    exact nofun

end AccountRule

/-! ## Presentations of rules -/

/-- The names of the fields of a kind, in order. -/
def RuleKind.fieldNames : RuleKind → List String
  | password => PasswordRule.fieldNames
  | account => AccountRule.fieldNames

/-- The fields of a kind, each with its default, in order. -/
def RuleKind.defaults : RuleKind → List (String × Value)
  | password => ({} : PasswordRule).toFields
  | account => ({} : AccountRule).toFields

namespace Rule

/-- The fields of a rule but for its kind, in order. -/
def fields : Rule → List (String × Value)
  | password r => r.toFields
  | account r => r.toFields

theorem map_fst_fields (rule : Rule) : rule.fields.map (·.1) = rule.kind.fieldNames := by
  cases rule <;> rfl

theorem nodup_names (kind : RuleKind) : ("kind" :: kind.fieldNames).Nodup := by
  cases kind <;> decide

/-- What a field is written as is readable, so it does not make the document unreadable. -/
theorem readable_of_mem_fields {rule : Rule} {e : String × Value} (h : e ∈ rule.fields) :
    e.2.readable = true := by
  cases rule with
  | password r => exact (@PasswordRule.exact_of_mem_toFields r 0 e h).readable
  | account r => exact (@AccountRule.exact_of_mem_toFields r 0 e h).readable

/-- The members of a record show a rule: the kind is given once, and so is each field of the kind,
unless it is left out and has its default. Members may stand in any order, and those under other
names do not count. -/
structure ShownBy (rule : Rule) (members : List (String × Value)) : Prop where
  kind : valuesOf "kind" members = [.text rule.kind.bodyTag]
  field : ∀ e ∈ rule.fields, (∃ v, Presents e.2 v ∧ valuesOf e.1 members = [v]) ∨
    valuesOf e.1 members = [] ∧ rule.kind.defaults.lookup e.1 = some e.2
  readable : ∀ m ∈ members, m.2.readable = true

/-- All fields of a rule behind its kind show the rule. -/
theorem shownBy_fields (rule : Rule) :
    rule.ShownBy (("kind", .text rule.kind.bodyTag) :: rule.fields) := by
  have hnodup : ((("kind", Value.text rule.kind.bodyTag) :: rule.fields).map (·.1)).Nodup := by
    rw [List.map_cons, rule.map_fst_fields]
    exact nodup_names rule.kind
  have hvalues := List.forall_mem_cons.1 (valuesOf_of_mem hnodup)
  exact
    { kind := hvalues.1
      field := fun e he => .inl ⟨e.2, .same _, hvalues.2 e he⟩
      readable := List.forall_mem_cons.2 ⟨rfl, fun e he => readable_of_mem_fields he⟩ }

/-- Members may be moved about and others put in between. -/
theorem ShownBy.of_perm_append {rule : Rule} {members others moved : List (String × Value)}
    (h : rule.ShownBy members) (hmoved : moved.Perm (members ++ others))
    (hunknown : ∀ m ∈ others, ¬ m.1 ∈ "kind" :: rule.kind.fieldNames)
    (hreadable : ∀ m ∈ others, m.2.readable = true) : rule.ShownBy moved := by
  -- Under a name that counts, moving members about keeps the values up to their order. There is one
  -- of them at most, so it keeps them.
  have hsame : ∀ name ∈ "kind" :: rule.kind.fieldNames,
      (valuesOf name moved).Perm (valuesOf name members) := by
    intro name hname
    have hnone : valuesOf name others = [] := valuesOf_eq_nil fun m hm heq =>
      hunknown m hm (heq ▸ hname)
    have happend : valuesOf name (members ++ others) = valuesOf name members := by
      rw [valuesOf, List.filter_append, List.map_append]
      exact (congrArg (valuesOf name members ++ ·) hnone).trans (List.append_nil _)
    rw [← happend]
    exact (hmoved.filter _).map _
  refine ⟨?_, fun e he => ?_, fun m hm => ?_⟩
  · have hkind := hsame "kind" List.mem_cons_self
    rw [h.kind] at hkind
    exact hkind.eq_singleton
  · have hname : e.1 ∈ rule.kind.fieldNames := by
      rw [← rule.map_fst_fields]
      exact List.mem_map.2 ⟨e, he, rfl⟩
    have hfield := hsame e.1 (List.mem_cons_of_mem _ hname)
    rcases h.field e he with ⟨v, hpresents, hv⟩ | ⟨hnone, hdefault⟩
    · rw [hv] at hfield
      exact .inl ⟨v, hpresents, hfield.eq_singleton⟩
    · rw [hnone] at hfield
      exact .inr ⟨hfield.eq_nil, hdefault⟩
  · rcases List.mem_append.1 (hmoved.mem_iff.1 hm) with hm | hm
    · exact h.readable m hm
    · exact hreadable m hm

/-- The documents of a rule. -/
inductive Presented (rule : Rule) : Value → Prop where
  /-- A record that shows the rule. -/
  | record {members : List (String × Value)} (h : rule.ShownBy members) :
    Presented rule (.record members)
  /-- The list of the kind and the values of the fields in order, of which the last ones may be left
  out where they have their defaults. -/
  | list {kept omitted : List (String × Value)} {values : List Value}
    (hfields : rule.fields = kept ++ omitted)
    (hkept : List.Forall₂ (fun e v => Presents e.2 v) kept values)
    (homitted : ∀ e ∈ omitted, rule.kind.defaults.lookup e.1 = some e.2) :
    Presented rule (.list (.text rule.kind.bodyTag :: values))

/-- The record that is written for a rule is one of its documents. -/
theorem presented_toValue (rule : Rule) : rule.Presented rule.toValue := by
  cases rule with
  | password r => exact .record (shownBy_fields (.password r))
  | account r => exact .record (shownBy_fields (.account r))

theorem kindOfTag?_bodyTag (kind : RuleKind) : kindOfTag? kind.bodyTag = some kind := by
  cases kind <;> decide

/-- A readable document that gives the kind of a rule, and shows the fields of the rule beside it,
is read as the rule. -/
theorem ofValue?_of_shows {rule : Rule} {v document : Value} {f : Fields}
    (hreadable : v.readable = true) (hkind : kindAndFields? v = some (rule.kind, document))
    (hf : Fields.ofValue? .refused rule.kind.fieldNames document = some f)
    (h : ∀ e ∈ rule.fields, f.Shows rule.kind.defaults e) : ofValue? v = some rule := by
  rw [ofValue?, if_pos hreadable, hkind]
  cases rule with
  | password r =>
    have hread : PasswordRule.ofValue? document = some r := by
      rw [PasswordRule.ofValue?, show Fields.ofValue? _ PasswordRule.fieldNames _ = _ from hf]
      exact PasswordRule.ofFields?_of_shows h
    simp only [kind, hread, Option.map_some]
  | account r =>
    have hread : AccountRule.ofValue? document = some r := by
      rw [AccountRule.ofValue?, show Fields.ofValue? _ AccountRule.fieldNames _ = _ from hf]
      exact AccountRule.ofFields?_of_shows h
    simp only [kind, hread, Option.map_some]

/-- A record that gives its kind once, by the tag, is of that kind. -/
theorem kindAndFields?_of_once {kind : RuleKind} {members : List (String × Value)}
    (h : valuesOf "kind" members = [.text kind.bodyTag]) :
    kindAndFields? (.record members) = some (kind, .record members) := by
  have hone : ∀ name ∈ ["kind"], (valuesOf name members).length ≤ 1 := by
    simp [h]
  rw [kindAndFields?, ofValue?_record_iff.2 ⟨hone, rfl⟩, Option.bind_eq_bind, Option.bind_some,
    Fields.required, h]
  simp only [List.head?_cons, Value.text?, Option.bind_eq_bind, Option.bind_some,
    kindOfTag?_bodyTag]
  rfl

/-- Records that show a rule are read as the rule. -/
theorem ofValue?_of_shownBy {rule : Rule} {members : List (String × Value)}
    (h : rule.ShownBy members) : ofValue? (.record members) = some rule := by
  have hreadable : (Value.record members).readable = true := by
    rw [Value.readable, Value.readableFields_eq_all, List.all_eq_true]
    exact h.readable
  have hfields : ∀ name ∈ rule.kind.fieldNames, (valuesOf name members).length ≤ 1 := by
    rw [← rule.map_fst_fields, List.forall_mem_map]
    intro e he
    rcases h.field e he with ⟨v, -, hv⟩ | ⟨hnone, -⟩
    · rw [hv]
      exact Nat.le_refl 1
    · rw [hnone]
      exact Nat.zero_le 1
  refine ofValue?_of_shows hreadable (kindAndFields?_of_once h.kind)
    (ofValue?_record_iff.2 ⟨hfields, rfl⟩) fun e he => ?_
  rcases h.field e he with ⟨v, hpresents, hv⟩ | ⟨hnone, hdefault⟩
  · exact .inl ⟨v, congrArg List.head? hv, hpresents⟩
  · exact .inr ⟨congrArg List.head? hnone, hdefault⟩

/-- A list is read by the places of the fields. Those that are left out are the last ones, so what
is there stands in its place. -/
theorem ofValue?_list {rule : Rule} {kept omitted : List (String × Value)} {values : List Value}
    (hfields : rule.fields = kept ++ omitted)
    (hkept : List.Forall₂ (fun e v => Presents e.2 v) kept values)
    (homitted : ∀ e ∈ omitted, rule.kind.defaults.lookup e.1 = some e.2) :
    ofValue? (.list (.text rule.kind.bodyTag :: values)) = some rule := by
  have hreadable : (Value.list (.text rule.kind.bodyTag :: values)).readable = true := by
    rw [Value.readable, Value.readableItems_eq_all, List.all_cons, Bool.and_eq_true]
    refine ⟨rfl, List.all_eq_true.2 fun v hv => ?_⟩
    obtain ⟨e, he, hpresents⟩ := exists_left_of_forall₂ hkept v hv
    have hmem : e ∈ rule.fields := hfields ▸ List.mem_append_left _ he
    exact hpresents.readable (readable_of_mem_fields hmem)
  have hkind : kindAndFields? (.list (.text rule.kind.bodyTag :: values)) =
      some (rule.kind, .list values) := by
    simp only [kindAndFields?, Value.text?, Option.bind_eq_bind, Option.bind_some,
      kindOfTag?_bodyTag]
    rfl
  have hnames : rule.kind.fieldNames = kept.map (·.1) ++ omitted.map (·.1) := by
    rw [← rule.map_fst_fields, hfields, List.map_append]
  -- No name stands twice, neither among the fields that are there nor among both.
  have hnodup := (List.nodup_cons.1 (nodup_names rule.kind)).2
  rw [hnames, List.nodup_append] at hnodup
  have hlength : values.length = kept.length := hkept.length_eq.symm
  -- Names without a value drop out when they are put beside the values.
  have hzip : rule.kind.fieldNames.zip values = (kept.map (·.1)).zip values := by
    have hsplit : (kept.map (·.1) ++ omitted.map (·.1)).zip (values ++ []) =
        (kept.map (·.1)).zip values ++ (omitted.map (·.1)).zip [] :=
      List.zip_append (by rw [List.length_map, hlength])
    rwa [List.append_nil, List.zip_nil_right, List.append_nil, ← hnames] at hsplit
  have hf : Fields.ofValue? .refused rule.kind.fieldNames (.list values) =
      some fun name => ((kept.map (·.1)).zip values).lookup name := by
    have hle : values.length ≤ rule.kind.fieldNames.length := by
      rw [hnames, List.length_append, List.length_map, hlength]
      exact Nat.le_add_right _ _
    rw [Fields.ofValue?, if_pos (.inl hle), hzip]
  refine ofValue?_of_shows hreadable hkind hf fun e he => ?_
  rw [hfields] at he
  rcases List.mem_append.1 he with hkeep | homit
  · obtain ⟨v, hv, hpresents⟩ := exists_lookup_zip hkept hnodup.1 e hkeep
    exact .inl ⟨v, hv, hpresents⟩
  · -- A field that was left out has no place, and so its default.
    refine .inr ⟨lookup_zip_eq_none fun hmem => ?_, homitted e homit⟩
    exact hnodup.2.2 e.1 hmem e.1 (List.mem_map.2 ⟨e, homit, rfl⟩) rfl

/-- **Every document of a rule is read as the rule.** -/
theorem ofValue?_of_presented {rule : Rule} {v : Value} (h : rule.Presented v) :
    ofValue? v = some rule := by
  cases h with
  | record h => exact ofValue?_of_shownBy h
  | list hfields hkept homitted => exact ofValue?_list hfields hkept homitted

/-- The members of a record give a kind twice, or one of the fields of their kind. -/
def Repeats (members : List (String × Value)) : Prop :=
  2 ≤ (valuesOf "kind" members).length ∨
    ∃ kind : RuleKind, valuesOf "kind" members = [.text kind.bodyTag] ∧
      ∃ name ∈ kind.fieldNames, 2 ≤ (valuesOf name members).length

/-- A known field that is given twice makes a record no document of a rule. -/
theorem ofValue?_eq_none_of_repeats {members : List (String × Value)} (h : Repeats members) :
    ofValue? (.record members) = none := by
  -- Fields of which one is given twice are not read at all.
  have hrefused : ∀ {names : List String}, (∃ name ∈ names, 2 ≤ (valuesOf name members).length) →
      Fields.ofValue? .refused names (.record members) = none := by
    rintro names ⟨name, hname, htwice⟩
    refine Option.eq_none_iff_forall_ne_some.2 fun f hf => ?_
    have hone := (ofValue?_record_iff.1 hf).1 name hname
    omega
  rw [ofValue?, ite_eq_right_iff]
  intro _
  rcases h with htwice | ⟨kind, hkind, hfield⟩
  · have hnone : kindAndFields? (.record members) = none := by
      rw [kindAndFields?, hrefused ⟨"kind", List.mem_singleton_self _, htwice⟩]
      rfl
    rw [hnone]
  · rw [kindAndFields?_of_once hkind]
    cases kind with
    | password =>
      have hnone : PasswordRule.ofValue? (.record members) = none := by
        have hfields : Fields.ofValue? .refused PasswordRule.fieldNames (.record members) = none :=
          hrefused hfield
        rw [PasswordRule.ofValue?, hfields, Option.bind_none]
      exact congrArg (Option.map Rule.password) hnone
    | account =>
      have hnone : AccountRule.ofValue? (.record members) = none := by
        have hfields : Fields.ofValue? .refused AccountRule.fieldNames (.record members) = none :=
          hrefused hfield
        rw [AccountRule.ofValue?, hfields, Option.bind_none]
      exact congrArg (Option.map Rule.account) hnone

end Rule

/-! ## Bodies of stored rules -/

namespace DocumentFormat

variable {stored : StoredRule}

/-- The body is all that counts. -/
theorem build_of_rule? {format : DocumentFormat} {rule : Rule}
    (h : format.rule? stored.body = some rule) : format.build stored = .ok rule :=
  RuleFactory.build_eq_ok_iff.2 h

/-- **The body of a rule may be presented in any way.** Whatever text a body is, if it writes a
document of a rule then that rule is built from it; and each document that JSON text holds exactly
is written by some body. A body that gives the kind twice, or a field of its kind, is malformed. -/
theorem build_presented (stored : StoredRule) :
    (∀ (rule : Rule) (v : Value), rule.Presented v →
      (Json.read? stored.body = some v → json.build stored = .ok rule) ∧
      (Exact Json.maxDepth v → json.build { stored with body := Json.write v } = .ok rule)) ∧
    ∀ members : List (String × Value), Rule.Repeats members →
      Json.read? stored.body = some (.record members) →
        json.build stored = .error (.malformedBody stored.key) := by
  refine ⟨fun rule v h => ⟨fun hbody => ?_, fun hexact => ?_⟩, fun members h hbody => ?_⟩
  · apply build_of_rule?
    rw [rule?, read?, hbody, Option.bind_some, Rule.ofValue?_of_presented h]
  · apply build_of_rule?
    rw [rule?, read?, Json.read?_write hexact, Option.bind_some, Rule.ofValue?_of_presented h]
  · have hrule : json.rule? stored.body = none := by
      rw [rule?, read?, hbody, Option.bind_some, Rule.ofValue?_eq_none_of_repeats h]
    exact RuleFactory.build_of_malformed hrule

/-- A rule that is shown in part by its defaults. -/
def twoWordsRule : Rule := .account { minLength := 3, forbiddenWords := .ofList ["a", "b"] }

/-- Its words, out of order and one of them twice. -/
def twoWords : Value := .list [.text "b", .text "a", .text "b"]

/-- Members that show the rule, no more than it takes. -/
def twoWordsKnown : List (String × Value) :=
  [("words_not_permitted", twoWords), ("min_length", .int 3),
    ("kind", .text "default_account_rule")]

/-- Members that say nothing of the rule. -/
def twoNotes : List (String × Value) := [("note", .record [("kind", .null)]), ("note", .list [])]

/-- A record of the rule. Its members are out of order and some are left out, and there are notes
beside them. -/
def twoWordsMembers : List (String × Value) :=
  [("note", .record [("kind", .null)]), ("words_not_permitted", twoWords), ("min_length", .int 3),
    ("note", .list []), ("kind", .text "default_account_rule")]

/-- A list of the rule, as far as the words. -/
def twoWordsItems : List Value :=
  [.text "default_account_rule", .text "", .int 3, .int 0, .null, .bool false, .bool false,
    twoWords]

theorem presents_twoWords : Presents (.ofTextSet (.ofList ["a", "b"])) twoWords := by
  have hitems : (Ascending.ofList ["a", "b"]).toList = ["a", "b"] := by decide
  rw [Value.ofTextSet, hitems]
  exact .set (by simp)

theorem shownBy_twoWordsKnown : twoWordsRule.ShownBy twoWordsKnown := by
  refine ⟨rfl, ?_, by decide⟩
  simp only [Rule.fields, twoWordsRule, AccountRule.toFields, List.forall_mem_cons]
  exact ⟨.inr ⟨rfl, rfl⟩, .inl ⟨_, .same _, rfl⟩, .inr ⟨rfl, rfl⟩, .inr ⟨rfl, rfl⟩,
    .inr ⟨rfl, rfl⟩, .inr ⟨rfl, rfl⟩, .inl ⟨_, presents_twoWords, rfl⟩, .inr ⟨rfl, rfl⟩,
    .inr ⟨rfl, rfl⟩, .inr ⟨rfl, rfl⟩, List.forall_mem_nil _⟩

/-- The notes may stand in between, since nothing of the rule goes by their name. -/
theorem shownBy_twoWordsMembers : twoWordsRule.ShownBy twoWordsMembers := by
  have hlast : twoWordsMembers.Perm (("note", .record [("kind", .null)]) ::
      (twoWordsKnown ++ [("note", .list [])])) :=
    (((List.Perm.swap _ _ []).cons _).cons _).cons _
  have hmoved : twoWordsMembers.Perm (twoWordsKnown ++ twoNotes) :=
    hlast.trans List.perm_middle.symm
  exact shownBy_twoWordsKnown.of_perm_append hmoved (by decide) (by decide)

theorem presented_twoWordsItems : twoWordsRule.Presented (.list twoWordsItems) := by
  refine @Rule.Presented.list twoWordsRule (twoWordsRule.fields.take 7)
    (twoWordsRule.fields.drop 7) _ (List.take_append_drop 7 _).symm ?_ ?_
  · exact .cons (.same _) <| .cons (.same _) <| .cons (.same _) <| .cons (.same _) <|
      .cons (.same _) <| .cons (.same _) <| .cons presents_twoWords .nil
  · simp only [Rule.fields, twoWordsRule, AccountRule.toFields, List.drop, List.forall_mem_cons]
    exact ⟨rfl, rfl, rfl, List.forall_mem_nil _⟩

theorem exact_twoWords : Exact 126 twoWords := by
  refine .list _ ?_
  simp only [List.forall_mem_cons]
  exact ⟨.text _, .text _, .text _, List.forall_mem_nil _⟩

theorem exact_of_mem_twoWordsMembers : ∀ m ∈ twoWordsMembers, Exact 126 m.2 := by
  have hnote : ∀ m ∈ [("kind", Value.null)], Exact 125 m.2 :=
    List.forall_mem_cons.2 ⟨.null, List.forall_mem_nil _⟩
  simp only [twoWordsMembers, List.forall_mem_cons]
  exact ⟨.record _ hnote, exact_twoWords, .ofInt32 3, .list _ (List.forall_mem_nil _), .text _,
    List.forall_mem_nil _⟩

theorem exact_twoWordsItems : Exact 127 (.list twoWordsItems) := by
  refine .list _ ?_
  simp only [twoWordsItems, List.forall_mem_cons]
  exact ⟨.text _, .text _, .ofInt32 3, .ofInt32 0, .null, .bool _, .bool _, exact_twoWords,
    List.forall_mem_nil _⟩

theorem build_presented_twoWordsRule :
    json.build ⟨"words", "JSON", .account, Json.write (.record twoWordsMembers)⟩ =
        .ok twoWordsRule ∧
      json.build ⟨"words", "JSON", .account, Json.write (.list twoWordsItems)⟩ =
        .ok twoWordsRule ∧
      json.build ⟨"words", "JSON", .account,
          Json.write (.record (("min_length", .int 3) :: twoWordsMembers))⟩ =
        .error (.malformedBody "words") := by
  have hrepeats : Rule.Repeats (("min_length", .int 3) :: twoWordsMembers) :=
    .inr ⟨.account, rfl, "min_length", by decide, by decide⟩
  have hrepeated : Exact Json.maxDepth (.record (("min_length", .int 3) :: twoWordsMembers)) :=
    .record _ (List.forall_mem_cons.2 ⟨.ofInt32 3, exact_of_mem_twoWordsMembers⟩)
  exact ⟨((build_presented ⟨"words", "JSON", .account, ""⟩).1 _ _
      (.record shownBy_twoWordsMembers)).2 (.record _ exact_of_mem_twoWordsMembers),
    ((build_presented ⟨"words", "JSON", .account, ""⟩).1 _ _
      presented_twoWordsItems).2 exact_twoWordsItems,
    (build_presented _).2 _ hrepeats (Json.read?_write hrepeated)⟩

end DocumentFormat

end CredentialPolicy
