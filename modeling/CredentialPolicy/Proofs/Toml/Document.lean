import CredentialPolicy.Document.Value
import CredentialPolicy.Proofs.Toml.Scalar
import CredentialPolicy.Toml.Reader

/-!
Written TOML documents are read as the records they were written from.

A document consists of lines, then of tables with lines of their own. Every line is read on its own,
and changes the draft of the document in one way: a line with a value adds an item to the open
table, a header adds a table and opens it, an empty line changes nothing. For the lines it is of no
matter which table is open, as long as it can be put back in its place (`OpensTable`), so those of
the document itself and those of a table are covered by one induction (`readAll_writeLines`). A
second one goes over the tables.

Both need that no name is used twice in one place, and that the names can stand without quotes.
-/

set_option autoImplicit false

namespace CredentialPolicy.Toml

open Document (Value)

/-! ## Lines -/

/-- A name that is written without quotes. -/
def IsBareKey (key : String) : Prop := key.toList ≠ [] ∧ key.toList.all isBareChar = true

instance (key : String) : Decidable (IsBareKey key) := inferInstanceAs (Decidable (_ ∧ _))

theorem IsBareKey.exists_eq_cons {key : String} (h : IsBareKey key) :
    ∃ c r, key.toList = c :: r ∧ isBareChar c = true := by
  obtain ⟨c, r, hcr⟩ := List.exists_cons_of_ne_nil h.1
  exact ⟨c, r, hcr, List.all_eq_true.1 h.2 c (hcr ▸ List.mem_cons_self)⟩

/-- Names and scalars that can be written as lines of one table. -/
structure IsLines (fields : List (String × Value)) : Prop where
  /-- Each line has a bare key and a scalar. -/
  line : ∀ f ∈ fields, IsBareKey f.1 ∧ IsScalar f.2
  /-- No key stands twice. -/
  nodup : (fields.map (·.1)).Nodup

/-- Reading goes on behind a line that is read. -/
theorem Draft.readAll_of_readLine {d next : Draft} {s rest : List Char}
    (h : d.readLine s = some (next, rest)) (hlength : rest.length < s.length) :
    d.readAll s = next.readAll rest := by
  cases s with
  | nil => exact absurd hlength (Nat.not_lt_zero _)
  | cons c r =>
    rw [List.length_cons] at hlength
    rw [readAll, h]
    exact if_pos (Nat.le_of_lt_succ hlength)

theorem skipBlanks_of_not_isBlank {c : Char} (h : isBlank c = false) (r : List Char) :
    skipBlanks (c :: r) = c :: r := List.dropWhile_cons_of_neg (Bool.eq_false_iff.1 h)

/-- A bare key starts with no blank. -/
theorem skipBlanks_of_isBareChar {c : Char} (h : isBareChar c = true) (r : List Char) :
    skipBlanks (c :: r) = c :: r := by
  apply skipBlanks_of_not_isBlank
  have hspace : c ≠ ' ' := Text.ne_of_test h rfl
  have htab : c ≠ '\t' := Text.ne_of_test h rfl
  simp [isBlank, hspace, htab]

/-- A bare key is read up to the character behind it, and the blanks behind it are passed over. -/
theorem readKey_append {key : String} (hkey : IsBareKey key) {c : Char} {r r' : List Char}
    (hc : isBareChar c = false) {d : Char} (hd : d ≠ '.') (hskip : skipBlanks (c :: r) = d :: r') :
    readKey maxDepth (key.toList ++ c :: r) = some (([], key), d :: r') := by
  have hspan : (key.toList ++ c :: r).span isBareChar = (key.toList, c :: r) :=
    Text.span_append_of_all (List.all_eq_true.1 hkey.2) fun e he => Option.some.inj he ▸ hc
  obtain ⟨k, ks, hcons, hk⟩ := hkey.exists_eq_cons
  have hpart : readKeyPart (key.toList ++ c :: r) = some (key, c :: r) := by
    rw [readKeyPart, hspan]
    · simp only [List.isEmpty_eq_false_iff.2 hkey.1, Bool.false_eq_true, if_false,
        String.ofList_toList]
    all_goals
      rw [hcons]
      exact fun r'' heq => Text.ne_of_test hk rfl (List.cons.inj heq).1
  have hblanks : skipBlanks (key.toList ++ c :: r) = key.toList ++ c :: r := by
    rw [hcons]
    exact skipBlanks_of_isBareChar hk _
  rw [maxDepth, readKey, hblanks, hpart]
  simp only [Option.bind_eq_bind, Option.bind_some, hskip]
  split
  -- No dot follows, so the key has no further part.
  case h_1 r'' heq => exact absurd (List.cons.inj heq).1 hd
  case h_2 => rfl

theorem afterLine?_lineFeed (rest : List Char) : afterLine? ('\n' :: rest) = some rest := rfl

/-- A value that is no list and no record is read as a scalar, however deep it may nest. -/
theorem readValue_of_ne {c : Char} (hlist : c ≠ '[') (hrecord : c ≠ '{') (depth : Nat)
    (r : List Char) : readValue depth (c :: r) = readScalar (c :: r) := by
  rw [readValue]
  all_goals simp [hlist, hrecord]

/-- A line that starts with a bare key is no header, no comment and not empty. -/
theorem Draft.readLine_of_isBareChar (d : Draft) {c : Char} (hc : isBareChar c = true)
    (r : List Char) : d.readLine (c :: r) = d.readPair (c :: r) := by
  rw [readLine, skipBlanks_of_isBareChar hc]
  split
  case h_1 r' heq => exact absurd (List.cons.inj heq).1 (Text.ne_of_test hc rfl)
  case h_2 r' _ heq => exact absurd (List.cons.inj heq).1 (Text.ne_of_test hc rfl)
  case h_3 heq => exact absurd heq (List.cons_ne_nil c r)
  case h_4 r' heq => exact absurd (List.cons.inj heq).1 (Text.ne_of_test hc rfl)
  case h_5 r' heq => exact absurd (List.cons.inj heq).1 (Text.ne_of_test hc rfl)
  case h_6 r' heq => exact absurd (List.cons.inj heq).1 (Text.ne_of_test hc rfl)
  case h_7 => rfl

/-- The line of a key and a scalar adds the scalar to the open table. -/
theorem Draft.readLine_writeLine {d : Draft} {key : String} (hkey : IsBareKey key) {v : Value}
    (hv : IsScalar v) {items : Items}
    (hadd : d.items.addValueAt d.header [] key v = some items) (rest : List Char) :
    d.readLine (writeLine key v ++ rest) = some ({ d with items }, rest) := by
  obtain ⟨c, r, hcr, hblank, hlist, hrecord⟩ := exists_writeScalar_eq_cons hv
  have hscalar := readScalar_writeScalar hv rest
  rw [hcr, List.cons_append] at hscalar
  have hline : writeLine key v ++ rest =
      key.toList ++ ' ' :: '=' :: ' ' :: c :: (r ++ '\n' :: rest) := by
    simp [writeLine, hcr]
  have hpair : d.readPair (writeLine key v ++ rest) = some ({ d with items }, rest) := by
    have hread : readKey maxDepth (key.toList ++ ' ' :: '=' :: ' ' :: c :: (r ++ '\n' :: rest)) =
        some (([], key), '=' :: ' ' :: c :: (r ++ '\n' :: rest)) :=
      readKey_append hkey rfl (by decide) rfl
    have hskip : skipBlanks (' ' :: c :: (r ++ '\n' :: rest)) = c :: (r ++ '\n' :: rest) :=
      skipBlanks_of_not_isBlank hblank _
    rw [hline, readPair, hread]
    simp only [Option.bind_eq_bind, Option.bind_some, hskip, readValue_of_ne hlist hrecord, hscalar,
      hadd, afterLine?_lineFeed]
    rfl
  -- A bare key starts neither a header nor a comment.
  obtain ⟨k, ks, hcons, hk⟩ := hkey.exists_eq_cons
  rw [← hpair, hline, hcons]
  exact readLine_of_isBareChar d hk _

/-- The line of a header adds a table to the document, and opens it. -/
theorem Draft.readLine_header {d : Draft} {key : String} (hkey : IsBareKey key)
    (hnew : d.items.lookup key = none) (rest : List Char) :
    d.readLine ('[' :: key.toList ++ [']', '\n'] ++ rest) =
      some ({ items := d.items.set key (.table .defined []), header := [key] }, rest) := by
  have hline : '[' :: key.toList ++ [']', '\n'] ++ rest =
      '[' :: (key.toList ++ ']' :: '\n' :: rest) := by
    simp
  have hread : readKey maxDepth (key.toList ++ ']' :: '\n' :: rest) =
      some (([], key), ']' :: '\n' :: rest) := readKey_append hkey rfl (by decide) rfl
  have hdefine : d.items.defineTable [] key = some (d.items.set key (.table .defined [])) := by
    rw [Items.defineTable, Items.update, hnew]
  have hheader : readHeader [']'] (key.toList ++ ']' :: '\n' :: rest) = some (([], key), rest) := by
    rw [readHeader, hread]
    rfl
  have hskip : skipBlanks ('[' :: (key.toList ++ ']' :: '\n' :: rest)) =
      '[' :: (key.toList ++ ']' :: '\n' :: rest) := skipBlanks_of_not_isBlank rfl _
  rw [hline, readLine, hskip]
  split
  case h_1 r heq =>
    -- A second bracket would have to be the first character of the key.
    obtain ⟨k, ks, hcons, hk⟩ := hkey.exists_eq_cons
    rw [hcons] at heq
    exact absurd (List.cons.inj (List.cons.inj heq).2).1 (Text.ne_of_test hk rfl)
  case h_2 r _ heq =>
    rw [← (List.cons.inj heq).2]
    simp only [Option.bind_eq_bind, Option.bind_some, hheader, hdefine]
    rfl
  case h_3 heq => exact absurd heq (List.cons_ne_nil _ _)
  case h_4 r heq => exact absurd (List.cons.inj heq).1 (by decide)
  case h_5 r heq => exact absurd (List.cons.inj heq).1 (by decide)
  case h_6 r heq => exact absurd (List.cons.inj heq).1 (by decide)
  case h_7 _ _ hother _ _ _ _ => exact (hother _ rfl).elim

/-- An empty line changes nothing. -/
theorem Draft.readAll_lineFeed (d : Draft) (rest : List Char) :
    d.readAll ('\n' :: rest) = d.readAll rest :=
  readAll_of_readLine rfl (Nat.lt_succ_self rest.length)

/-! ## Items -/

/-- A new key is put behind the items that are there. -/
theorem Items.set_append {items : Items} {key : String} (h : items.lookup key = none) (item : Item)
    (others : Items) : (items ++ others : Items).set key item = items ++ others.set key item := by
  induction items with
  | nil => rfl
  | cons e items ih =>
    rw [List.lookup_cons] at h
    split at h
    case h_1 => exact absurd h nofun
    case h_2 hne =>
      have hkey : ¬ e.1 = key := fun heq => by simp [heq] at hne
      rw [List.cons_append, Items.set, if_neg hkey, ih h, List.cons_append]

/-- A new key is put at the end. -/
theorem Items.set_of_lookup {items : Items} {key : String} (h : items.lookup key = none)
    (item : Item) : items.set key item = items ++ [(key, item)] := by
  have hset := Items.set_append h item []
  rw [List.append_nil] at hset
  exact hset

/-- Another item does not put a new key in. -/
theorem Items.lookup_concat {items : Items} {key k : String} (h : items.lookup k = none)
    (hne : k ≠ key) (item : Item) : (items ++ [(key, item)] : Items).lookup k = none := by
  rw [List.lookup_append, h, Option.none_or, List.lookup_cons, beq_false_of_ne hne]
  rfl

/-! ## The lines of a table -/

/-- The header leads to a table, and `put` gives the document with some items as this table's. -/
def OpensTable (header : List String) (put : Items → Items) : Prop :=
  ∀ (items : Items) (key : String) (v : Value), items.lookup key = none →
    (put items).addValueAt header [] key v = some (put (items ++ [(key, .value v)]))

/-- Without a header the document itself is open. -/
theorem opensTable_nil : OpensTable [] id := by
  intro items key v h
  simp only [Items.addValueAt, Items.update, Items.addValue, Items.addKey, h, id, List.isEmpty_nil,
    Bool.true_or, if_true]

/-- Behind its header a table is open. -/
theorem opensTable_singleton {items : Items} {key : String} (h : items.lookup key = none) :
    OpensTable [key] fun inner => items ++ [(key, .table .defined inner)] := by
  intro inner k v hk
  have hlookup : (items ++ [(key, Item.table .defined inner)]).lookup key =
      some (.table .defined inner) := by
    rw [List.lookup_append, h, Option.none_or, List.lookup_cons, beq_self_eq_true]
  have hadd := opensTable_nil inner k v hk
  simp only [Items.addValueAt, Items.update, id] at hadd
  simp only [Items.addValueAt, Items.update, hlookup, hadd, Items.set_append h, reduceCtorEq,
    false_and, if_false, Option.bind_eq_bind, Option.bind_some, Items.set, if_true, Option.pure_def]

/-- Fields of scalars as items. -/
def itemsOf (fields : List (String × Value)) : Items := fields.map fun f => (f.1, .value f.2)

/-- Items have the keys of the fields they were made from. -/
theorem lookup_itemsOf {fields : List (String × Value)} {key : String}
    (h : key ∉ fields.map (·.1)) : (itemsOf fields).lookup key = none := by
  rw [List.lookup_eq_none_iff]
  intro e he
  obtain ⟨f, hf, rfl⟩ := List.mem_map.1 he
  exact bne_iff_ne.2 fun heq => h (List.mem_map.2 ⟨f, hf, heq.symm⟩)

/-- A field that is a scalar has a line of its own. -/
theorem writeLines_cons {f : String × Value} (h : IsScalar f.2) (fields : List (String × Value)) :
    writeLines (f :: fields) = writeLine f.1 f.2 ++ writeLines fields := by
  obtain ⟨key, v⟩ := f
  cases h with
  | bool b => rfl
  | int i _ => rfl
  | text s => rfl

/-- A line is not empty, so reading it gets the reader on. -/
theorem length_writeLine_pos (key : String) (v : Value) : 0 < (writeLine key v).length := by
  simp only [writeLine, List.length_append, List.length_cons]
  omega

/-- Lines of new keys and scalars add these to the open table, in order. -/
theorem readAll_writeLines {fields : List (String × Value)} (h : IsLines fields)
    {header : List String} {put : Items → Items} (hopens : OpensTable header put)
    (before : Items) (hbefore : ∀ f ∈ fields, before.lookup f.1 = none) (rest : List Char) :
    ({ items := put before, header } : Draft).readAll (writeLines fields ++ rest) =
      ({ items := put (before ++ itemsOf fields), header } : Draft).readAll rest := by
  -- The lines that were read are items already, and the other keys are still new among them.
  induction fields generalizing before with
  | nil =>
    rw [itemsOf, List.map_nil, List.append_nil]
    rfl
  | cons f fields ih =>
    obtain ⟨⟨hkey, hscalar⟩, hlines⟩ := List.forall_mem_cons.1 h.line
    obtain ⟨hf, hnodup⟩ := List.nodup_cons.1 h.nodup
    obtain ⟨hnew, hothers⟩ := List.forall_mem_cons.1 hbefore
    have hmore : ∀ e ∈ fields, (before ++ [(f.1, Item.value f.2)]).lookup e.1 = none :=
      fun e he => Items.lookup_concat (hothers e he) (fun heq => hf (List.mem_map.2 ⟨e, he, heq⟩)) _
    have hitems : before ++ [(f.1, Item.value f.2)] ++ itemsOf fields =
        before ++ itemsOf (f :: fields) := by
      rw [List.append_assoc]
      rfl
    have hline := Draft.readLine_writeLine (d := ⟨put before, header⟩) hkey hscalar
      (hopens before f.1 f.2 hnew) (writeLines fields ++ rest)
    rw [writeLines_cons hscalar, List.append_assoc, Draft.readAll_of_readLine hline, ← hitems]
    · exact ih ⟨hlines, hnodup⟩ _ hmore
    · -- A line takes up characters, so the reader gets on.
      have hpos := length_writeLine_pos f.1 f.2
      simp only [List.length_append]
      omega

/-! ## Tables -/

/-- The table of a new name adds the fields of the table under this name. -/
theorem readAll_writeTable {d : Draft} {key : String} (hkey : IsBareKey key)
    (hnew : d.items.lookup key = none) {fields : List (String × Value)} (h : IsLines fields)
    (rest : List Char) :
    d.readAll (writeTable key fields ++ rest) =
      ({ items := d.items ++ [(key, .table .defined (itemsOf fields))], header := [key] } :
        Draft).readAll rest := by
  have hheader := Draft.readLine_header hkey hnew (writeLines fields ++ rest)
  rw [writeTable, List.append_assoc, Draft.readAll_of_readLine hheader, Items.set_of_lookup hnew]
  · exact readAll_writeLines h (opensTable_singleton hnew) [] (fun _ _ => rfl) rest
  · simp only [List.length_append, List.length_cons]
    omega

section Tables

variable {lines : List (String × Value)} {tables : List (String × List (String × Value))}

/-- Records of scalars as the fields of a document. -/
def recordsAs (tables : List (String × List (String × Value))) : List (String × Value) :=
  tables.map fun t => (t.1, .record t.2)

/-- Records of scalars as the items of a document. -/
def tableItems (tables : List (String × List (String × Value))) : Items :=
  tables.map fun t => (t.1, .table .defined (itemsOf t.2))

/-- Tables of new names, with an empty line between two of them, add their records in order. -/
theorem readAll_intercalate (h : ∀ t ∈ tables, IsBareKey t.1 ∧ IsLines t.2)
    (hkeys : (tables.map (·.1)).Nodup) {d : Draft}
    (hnew : ∀ t ∈ tables, d.items.lookup t.1 = none) :
    (d.readAll (['\n'].intercalate (tables.map fun t => writeTable t.1 t.2))).map (·.items) =
      some (d.items ++ tableItems tables) := by
  -- Behind each table the draft has another header, so the induction is for any draft.
  induction tables generalizing d with
  | nil =>
    rw [List.map_nil, List.intercalate_nil, Draft.readAll, tableItems, List.map_nil,
      List.append_nil]
    rfl
  | cons t tables ih =>
    obtain ⟨⟨hkey, hlines⟩, hothers⟩ := List.forall_mem_cons.1 h
    obtain ⟨ht, hnodup⟩ := List.nodup_cons.1 hkeys
    obtain ⟨hfirst, hrest⟩ := List.forall_mem_cons.1 hnew
    have hmore : ∀ t' ∈ tables,
        (d.items ++ [(t.1, Item.table .defined (itemsOf t.2))]).lookup t'.1 = none :=
      fun t' ht' =>
        Items.lookup_concat (hrest t' ht') (fun heq => ht (List.mem_map.2 ⟨t', ht', heq⟩)) _
    have hitems : d.items ++ [(t.1, Item.table .defined (itemsOf t.2))] ++ tableItems tables =
        d.items ++ tableItems (t :: tables) := by
      rw [List.append_assoc]
      rfl
    have hread := ih hothers hnodup (d := ⟨_, [t.1]⟩) hmore
    cases tables with
    | nil =>
      rw [List.map_singleton, List.intercalate_singleton, ← List.append_nil (writeTable t.1 t.2),
        readAll_writeTable hkey hfirst hlines, ← hitems]
      exact hread
    | cons t' tables =>
      rw [List.map_cons, List.map_cons, List.intercalate_cons_cons, List.append_assoc,
        readAll_writeTable hkey hfirst hlines, List.singleton_append, Draft.readAll_lineFeed,
        ← hitems]
      exact hread

/-- Each item becomes a field under its own key. -/
theorem fieldsOf_eq_map (items : Items) :
    fieldsOf items = items.map fun e => (e.1, e.2.toValue) := by
  induction items with
  | nil => rfl
  | cons e items ih => rw [fieldsOf, ih, List.map_cons]

theorem fieldsOf_itemsOf (fields : List (String × Value)) : fieldsOf (itemsOf fields) = fields := by
  rw [fieldsOf_eq_map, itemsOf, List.map_map]
  exact List.map_id' fields

/-- Behind the lines each table becomes a record. -/
theorem fieldsOf_append_tableItems (lines : List (String × Value))
    (tables : List (String × List (String × Value))) :
    fieldsOf (itemsOf lines ++ tableItems tables) = lines ++ recordsAs tables := by
  have hlines := fieldsOf_itemsOf lines
  rw [fieldsOf_eq_map] at hlines
  rw [fieldsOf_eq_map, List.map_append, hlines, tableItems, recordsAs, List.map_map]
  refine congrArg (lines ++ ·) (List.map_congr_left fun t _ => ?_)
  show (t.1, Value.record (fieldsOf (itemsOf t.2))) = (t.1, .record t.2)
  rw [fieldsOf_itemsOf]

/-! ## Whole documents -/

/-- A record is written as a table, so it has no line. -/
theorem writeLines_append_recordsAs (h : ∀ f ∈ lines, IsScalar f.2) :
    writeLines (lines ++ recordsAs tables) = writeLines lines := by
  induction lines with
  | nil => exact List.flatMap_eq_nil_iff.2 (List.forall_mem_map.2 fun _ _ => rfl)
  | cons f lines ih =>
    obtain ⟨hf, hlines⟩ := List.forall_mem_cons.1 h
    rw [List.cons_append, writeLines_cons hf, writeLines_cons hf, ih hlines]

/-- A scalar is written as a line, so it has no table. -/
theorem tables_append_recordsAs (h : ∀ f ∈ lines, IsScalar f.2) :
    Toml.tables (lines ++ recordsAs tables) = tables.map fun t => writeTable t.1 t.2 := by
  induction lines with
  | nil =>
    rw [List.nil_append, recordsAs, Toml.tables, List.filterMap_map, ← List.filterMap_eq_map]
    rfl
  | cons f lines ih =>
    obtain ⟨hf, hlines⟩ := List.forall_mem_cons.1 h
    rw [← ih hlines]
    obtain ⟨key, v⟩ := f
    cases hf with
    | bool b => rfl
    | int i _ => rfl
    | text s => rfl

/-- The blocks of a document are its lines, if it has any, and its tables. -/
theorem toList_write (h : ∀ f ∈ lines, IsScalar f.2) :
    (write (lines ++ recordsAs tables)).toList =
      ['\n'].intercalate ((if lines = [] then [] else [writeLines lines]) ++
        tables.map fun t => writeTable t.1 t.2) := by
  rw [write, writeLines_append_recordsAs h, tables_append_recordsAs h, String.toList_ofList]
  cases lines with
  | nil => rfl
  | cons f lines =>
    have hpos := length_writeLine_pos f.1 f.2
    have hne : (writeLines (f :: lines)).isEmpty = false := by
      rw [writeLines_cons (h f List.mem_cons_self), List.isEmpty_eq_false_iff]
      exact List.append_ne_nil_of_left_ne_nil (List.ne_nil_of_length_pos hpos) _
    rw [hne, if_neg (List.cons_ne_nil f lines)]
    rfl

/-- A document starts with its first block. -/
theorem head?_intercalate (c : Char) (r : List Char) (blocks : List (List Char)) :
    (['\n'].intercalate ((c :: r) :: blocks)).head? = some c := by
  cases blocks with
  | nil => rw [List.intercalate_singleton, List.head?_cons]
  | cons b blocks =>
    rw [List.intercalate_cons_cons, List.append_assoc, List.cons_append, List.head?_cons]

/-- Only a byte order mark in front is dropped. -/
theorem dropMark_of_head? {s : List Char} {c : Char} (h : s.head? = some c) (hc : c ≠ '\ufeff') :
    dropMark s = s := by
  cases s with
  | nil => rfl
  | cons d s =>
    rw [dropMark]
    exact fun r heq => hc (Option.some.inj h ▸ (List.cons.inj heq).1)

/-- No written document starts with a byte order mark. -/
theorem dropMark_write (hlines : IsLines lines) :
    dropMark (write (lines ++ recordsAs tables)).toList =
      (write (lines ++ recordsAs tables)).toList := by
  rw [toList_write fun f hf => (hlines.line f hf).2]
  cases lines with
  | nil =>
    cases tables with
    | nil => rfl
    | cons t tables => exact dropMark_of_head? (head?_intercalate '[' _ _) (by decide)
  | cons f lines =>
    obtain ⟨⟨hkey, hscalar⟩, -⟩ := List.forall_mem_cons.1 hlines.line
    obtain ⟨c, r, hcr, hc⟩ := hkey.exists_eq_cons
    rw [if_neg (List.cons_ne_nil f lines), writeLines_cons hscalar, writeLine, hcr]
    exact dropMark_of_head? (head?_intercalate c _ _) (Text.ne_of_test hc rfl)

/-- **A written document is read as the record it was written from.** The record has fields that are
scalars, and after them fields that are records of scalars. -/
theorem read?_write (hlines : IsLines lines) (htables : ∀ t ∈ tables, IsBareKey t.1 ∧ IsLines t.2)
    (hkeys : (lines.map (·.1) ++ tables.map (·.1)).Nodup) :
    read? (write (lines ++ recordsAs tables)) = some (.record (lines ++ recordsAs tables)) := by
  obtain ⟨-, hnodup, hdisjoint⟩ := List.nodup_append.1 hkeys
  -- The lines leave the names of the tables free.
  have hnew : ∀ t ∈ tables, (itemsOf lines).lookup t.1 = none := fun t ht =>
    lookup_itemsOf fun hmem => hdisjoint _ hmem _ (List.mem_map.2 ⟨t, ht, rfl⟩) rfl
  have hopen : ∀ rest, ({} : Draft).readAll (writeLines lines ++ rest) =
      ({ items := itemsOf lines } : Draft).readAll rest :=
    readAll_writeLines hlines opensTable_nil [] fun _ _ => rfl
  have hrest := readAll_intercalate htables hnodup (d := { items := itemsOf lines }) hnew
  have hread : (({} : Draft).readAll (write (lines ++ recordsAs tables)).toList).map (·.items) =
      some (itemsOf lines ++ tableItems tables) := by
    rw [toList_write fun f hf => (hlines.line f hf).2, ← hrest]
    cases lines with
    | nil => rfl
    | cons f lines =>
      rw [if_neg (List.cons_ne_nil f lines), List.singleton_append]
      cases tables with
      | nil =>
        rw [List.map_nil, List.intercalate_singleton, List.intercalate_nil, ← hopen,
          List.append_nil]
      | cons t tables =>
        rw [List.map_cons, List.intercalate_cons_cons, List.append_assoc, hopen,
          List.singleton_append, Draft.readAll_lineFeed]
  obtain ⟨d, hd, hitems⟩ := Option.map_eq_some_iff.1 hread
  rw [read?, dropMark_write hlines, hd, Option.map_some, hitems, fieldsOf_append_tableItems]

end Tables

end CredentialPolicy.Toml
