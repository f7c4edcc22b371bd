import DirectoryRecords.Proofs.GivenNames
import DirectoryRecords.Proofs.TypeDescriptions
import DirectoryRecords.Schema.AttributeType
import Mathlib.Data.List.TakeWhile

/-!
# Published schemas — what is read from the descriptions of attribute types

    Of several definitions of a name the last one counts, whatever their
    texts are (`mem_keys_schemaMap`, `get?_schemaMap`). What is left is to say
    which names and which identifier are read from a description. Keywords
    are searched for in its whole text, of which the remark is a part:

    * the names are the ones that the description gives, but where it gives
      none a remark with the word `NAME` may open a list of names, and the
      words behind the remark are taken for one (`names_text`);
    * the identifier is what stands behind the first word `SYNTAX`, which may
      be a word of the remark or refer to a rule (`identifier_text`).

    Where neither happens the descriptions are legible, and then, and only
    then, the schema is the one that they describe.
-/

namespace DirectoryRecords.AttributeType

open Text

/-! ## Definitions of a name -/

/-- A name with this lower-case form is read from a definition. -/
def Defines (definition key : Text) : Prop :=
  ∃ name ∈ AttributeType.names definition, lower name = key

section

variable {definition key : Text} {definitions front back : List Text}

theorem identifiers_schemaMap (definitions : List Text) :
    (schemaMap definitions).identifiers
      = .ofList (definitions.flatMap fun definition =>
          (AttributeType.names definition).map fun name =>
            (lower name, AttributeType.identifier definition)) := by
  rw [schemaMap, SchemaMap.identifiers_ofList, List.map_flatMap]
  simp only [bindings, List.map_map]
  rfl

/-- The schema has the names that are read from some definition. -/
theorem mem_keys_schemaMap :
    key ∈ (schemaMap definitions).identifiers.keys
      ↔ ∃ definition ∈ definitions, Defines definition key := by
  rw [identifiers_schemaMap, TextMap.mem_keys_ofList]
  constructor
  · rintro ⟨binding, hbinding, rfl⟩
    obtain ⟨definition, hdefinition, hmem⟩ := List.mem_flatMap.mp hbinding
    obtain ⟨name, hname, rfl⟩ := List.mem_map.mp hmem
    exact ⟨definition, hdefinition, name, hname, rfl⟩
  · rintro ⟨definition, hdefinition, name, hname, rfl⟩
    refine ⟨(lower name, AttributeType.identifier definition), ?_, rfl⟩
    exact List.mem_flatMap.mpr ⟨definition, hdefinition, List.mem_map_of_mem hname⟩

/-- The last definition of a name gives its identifier. -/
theorem get?_schemaMap (h : Defines definition key) (hback : ∀ later ∈ back, ¬ Defines later key) :
    (schemaMap (front ++ definition :: back)).identifiers.get? key
      = some (AttributeType.identifier definition) := by
  rw [identifiers_schemaMap, List.flatMap_append, List.flatMap_cons]
  refine TextMap.get?_ofList_of_last ?_ ?_ ?_
  · obtain ⟨name, hname, rfl⟩ := h
    exact ⟨_, List.mem_map_of_mem hname, rfl⟩
  · exact List.forall_mem_map.mpr fun name _ => rfl
  · intro binding hbinding heq
    obtain ⟨later, hlater, hmem⟩ := List.mem_flatMap.mp hbinding
    obtain ⟨name, hname, rfl⟩ := List.mem_map.mp hmem
    exact hback later hlater ⟨name, hname, heq⟩

end

/-! ## Values and names at the start of a text -/

/-- The identifier at the start of a text. -/
def leadingValue (text : Text) : Text :=
  withoutLength (text.takeWhile fun c => !endsValue c)

theorem leadingValue_append {c : Char} (h : endsValue c = true) (front back : Text) :
    leadingValue (front ++ c :: back) = leadingValue front := by
  have htake : (front ++ c :: back).takeWhile (fun c => !endsValue c)
      = front.takeWhile fun c => !endsValue c := by
    induction front with
    | nil => simp [h]
    | cons d front ih => rw [List.cons_append, List.takeWhile_cons, List.takeWhile_cons, ih]
  rw [leadingValue, leadingValue, htake]

/-- A value ends with its word. -/
theorem leadingValue_spaced (word : Text) (rest : List Text) :
    leadingValue (word ++ spaced rest) = leadingValue word := by
  cases rest with
  | nil => exact congrArg leadingValue (List.append_nil word)
  | cons next rest => exact leadingValue_append (by decide) word (next ++ spaced rest)

theorem endsValue_of_isSolid {c : Char} (h : isSolid c = true) : endsValue c = false := by
  simp only [isSolid, Bool.and_eq_true, Bool.not_eq_true', bne_iff_ne] at h
  simp [endsValue, h]

theorem leadingValue_form (form : Form) : leadingValue form.text = form.oid.text := by
  have hword : form.text.takeWhile (fun c => !endsValue c) = form.text := by
    refine List.takeWhile_eq_self_iff.mpr fun c hc => ?_
    rw [endsValue_of_isSolid (form.solid c hc), Bool.not_false]
  have hoid : ∀ c ∈ form.oid.text, (c != '\x7b') = true := by
    intro c hc
    refine bne_iff_ne.mpr ?_
    rintro rfl
    exact absurd (List.all_eq_true.mp form.oid.all_text _ hc) (by decide)
  rw [leadingValue, hword, withoutLength, Form.text, List.takeWhile_append_of_pos hoid]
  cases form.length? with
  | none => exact List.append_nil _
  | some length => exact List.append_nil _

theorem leadingNames_of_head {text : Text} (h : text.head? ≠ some '(') :
    leadingNames text
      = match (cut '\'' text).bind fun (_, quoted) => cut '\'' quoted with
        | some ([], _) => []
        | some (name, _) => [name]
        | none => [] := by
  refine leadingNames.eq_2 text fun list hlist => h ?_
  rw [hlist]
  rfl

theorem quotedNames_of_free {text : Text} (h : '\'' ∉ text) : quotedNames text = [] := by
  rw [quotedNames, splitOn_of_not_mem h]
  rfl

/-- Behind a single quotation mark everything is a name. -/
theorem quotedNames_append {front back : Text} (hfront : '\'' ∉ front) (hback : '\'' ∉ back)
    (hne : back ≠ []) : quotedNames (front ++ '\'' :: back) = [back] := by
  rw [quotedNames, splitOn_append_cons hfront, splitOn_of_not_mem hback]
  show [back].filter _ = [back]
  rw [List.filter_singleton, List.isEmpty_eq_false_iff.mpr hne]
  rfl

theorem quotedNames_spaced {names : List Text} (h : ∀ name ∈ names, name ≠ [] ∧ '\'' ∉ name) :
    quotedNames (spaced (names.map inQuotes) ++ [' ']) = names := by
  induction names with
  | nil => rfl
  | cons name rest ih =>
      obtain ⟨⟨hne, hquote⟩, hrest⟩ := List.forall_mem_cons.mp h
      have hsplit : spaced ((name :: rest).map inQuotes) ++ [' ']
          = [' '] ++ '\'' :: (name ++ '\'' :: (spaced (rest.map inQuotes) ++ [' '])) := by
        rw [List.map_cons, spaced_cons, inQuotes]
        simp
      have hnames := ih hrest
      rw [quotedNames] at hnames
      rw [quotedNames, hsplit, splitOn_append_cons (by decide), splitOn_append_cons hquote]
      show (name :: evenPlaces _).filter _ = _
      rw [List.filter_cons, List.isEmpty_eq_false_iff.mpr hne, hnames]
      rfl

/-- A name in quotation marks is read. -/
theorem leadingNames_inQuotes {name : Text} (hne : name ≠ []) (hquote : '\'' ∉ name)
    (rest : Text) : leadingNames (inQuotes name ++ rest) = [name] := by
  have hcut : cut '\'' (inQuotes name ++ rest) = some ([], name ++ '\'' :: rest) := by
    rw [inQuotes, List.cons_append, List.cons_append, List.append_assoc]
    exact cut_append List.not_mem_nil (name ++ '\'' :: rest)
  have hhead : (inQuotes name ++ rest).head? ≠ some '(' := by
    show some '\'' ≠ some '('
    decide
  rw [leadingNames_of_head hhead, hcut, Option.bind_some]
  show (match cut '\'' (name ++ '\'' :: rest) with
    | some ([], _) => []
    | some (name, _) => [name]
    | none => []) = [name]
  obtain ⟨c, tail, rfl⟩ := List.exists_cons_of_ne_nil hne
  rw [cut_append hquote]

/-- A list of names in quotation marks is read. -/
theorem leadingNames_list {names : List Text}
    (h : ∀ name ∈ names, name ≠ [] ∧ '\'' ∉ name ∧ ')' ∉ name) (rest : List Text) :
    leadingNames (opening ++ spaced (names.map inQuotes ++ closing :: rest)) = names := by
  have hfree : ')' ∉ spaced (names.map inQuotes) ++ [' '] := by
    intro hmem
    rcases List.mem_append.mp hmem with hmem | hmem
    · rcases mem_spaced hmem with heq | ⟨word, hword, hc⟩
      · exact absurd heq (by decide)
      · obtain ⟨name, hname, rfl⟩ := List.mem_map.mp hword
        simp [inQuotes, (h name hname).2.2] at hc
    · exact absurd hmem (by decide)
  have hsplit : opening ++ spaced (names.map inQuotes ++ closing :: rest)
      = '(' :: ((spaced (names.map inQuotes) ++ [' ']) ++ ')' :: spaced rest) := by
    rw [spaced_append, spaced_cons, List.append_assoc]
    rfl
  rw [hsplit, leadingNames, cut_append hfree]
  exact quotedNames_spaced fun name hname => ⟨(h name hname).1, (h name hname).2.1⟩

/-- No names are read from a text without quotation marks. -/
theorem leadingNames_of_free {text : Text} (hquote : '\'' ∉ text) (hopen : '(' ∉ text) :
    leadingNames text = [] := by
  have hhead : text.head? ≠ some '(' := fun hsome => hopen (List.mem_of_head? hsome)
  rw [leadingNames_of_head hhead, cut_eq_none_iff.mpr hquote]
  rfl

/-- Where no list is open, no names are read from a text with a single quotation mark. -/
theorem leadingNames_append {front back : Text} (hfront : '\'' ∉ front) (hback : '\'' ∉ back)
    (hclosed : ∀ list, front = '(' :: list → ')' ∈ list) :
    leadingNames (front ++ '\'' :: back) = [] := by
  by_cases hopen : ∃ list, front = '(' :: list
  · obtain ⟨list, rfl⟩ := hopen
    obtain ⟨inside, after, rfl, hinside⟩ := List.eq_append_cons_of_mem (hclosed list rfl)
    rw [List.cons_append, leadingNames, List.append_assoc, List.cons_append, cut_append hinside]
    refine quotedNames_of_free fun hmem => hfront ?_
    exact List.mem_cons_of_mem _ (List.mem_append_left _ hmem)
  · have hhead : (front ++ '\'' :: back).head? ≠ some '(' := by
      cases front with
      | nil =>
          show some '\'' ≠ some '('
          decide
      | cons c list =>
          intro hsome
          exact hopen ⟨list, congrArg (· :: list) (Option.some.inj hsome)⟩
    rw [leadingNames_of_head hhead, cut_append hfront, Option.bind_some]
    show (match cut '\'' back with
      | some ([], _) => []
      | some (name, _) => [name]
      | none => []) = []
    rw [cut_eq_none_iff.mpr hback]

/-- What closes a list behind a single quotation mark makes a name of what stands between. -/
theorem leadingNames_open {front between : Text} (hfront : '\'' ∉ front) (hopen : ')' ∉ front)
    (hquote : '\'' ∉ between) (hclose : ')' ∉ between) (hne : between ≠ []) (rest : Text) :
    leadingNames ('(' :: (front ++ '\'' :: (between ++ ')' :: rest))) = [between] := by
  have hfree : ')' ∉ front ++ '\'' :: between := by
    simp [hopen, hclose]
  have hsplit : front ++ '\'' :: (between ++ ')' :: rest)
      = (front ++ '\'' :: between) ++ ')' :: rest := by
    simp
  rw [hsplit, leadingNames, cut_append hfree]
  exact quotedNames_append hfront hquote hne

/-! ## Keywords in a description -/

theorem identifier_eq (text : Text) :
    AttributeType.identifier text = ((behind? "SYNTAX" text).map leadingValue).getD [] := by
  rw [AttributeType.identifier, keywordValue?, behind?]
  cases cutAt (' ' :: "SYNTAX".toList ++ [' ']) text with
  | none => rfl
  | some sides =>
      dsimp only [Option.map_some, Option.getD_some, leadingValue]
      cases sides.2.takeWhile fun c => !endsValue c with
      | nil => rfl
      | cons c value => rfl

theorem names_eq (text : Text) :
    AttributeType.names text
      = ((behind? "NAME" text).map fun after => leadingNames (trimStart after)).getD [] := by
  rw [AttributeType.names, show " NAME ".toList = ' ' :: "NAME".toList ++ [' '] from rfl, behind?]
  cases cutAt (' ' :: "NAME".toList ++ [' ']) text with
  | none => rfl
  | some sides => rfl

namespace Description

variable {d : Description} {keyword : Text}

/-- Neither the first parenthesis nor the identifier of a type is a keyword. -/
theorem behind?_text (hspace : ' ' ∉ keyword)
    (hnumeric : keyword.all isNumberChar = false) :
    behind? keyword d.text
      = behind? keyword (spaced (d.nameWords ++ (d.remarkWords ++ (d.tail ++ [closing])))) := by
  rw [text, joinWith_cons]
  show behind? keyword (opening ++ spaced (d.oid.text :: _)) = _
  rw [behind?_append (by decide), behind?_spaced_cons hspace (d.oid.solid.not_mem (by decide))
    (d.oid.text_ne hnumeric)]

/-- A keyword is found in the remark, or else among the words behind it. -/
theorem behind?_remark (hsolid : Solid keyword) (hne : "DESC".toList ≠ keyword) :
    behind? keyword (spaced (d.remarkWords ++ (d.tail ++ [closing])))
      = ((d.remark?.bind fun remark => behind? keyword remark.text).map
            (· ++ '\'' :: spaced (d.tail ++ [closing]))).or
          (behind? keyword (spaced (d.tail ++ [closing]))) := by
  rw [remarkWords]
  cases d.remark? with
  | none => rfl
  | some remark =>
      show behind? keyword (spaced ("DESC".toList :: inQuotes remark.text :: (d.tail ++ [closing])))
        = _
      rw [behind?_spaced_cons (hsolid.not_mem (by decide)) (by decide) hne,
        behind?_spaced_inQuotes (hsolid.not_mem (by decide))]
      rfl

/-! ## The identifier -/

/-- The identifier that is read: the one behind the word `SYNTAX` in the remark, or else behind
    the first word `SYNTAX` that follows. -/
def mentioned (d : Description) : Text :=
  (((d.remark?.bind fun remark => behind? "SYNTAX" remark.text).or
    (behind? "SYNTAX" (spaced (d.tail ++ [closing])))).map leadingValue).getD []

/-- **The identifier behind the first word `SYNTAX` is read.** -/
theorem identifier_text (d : Description) : AttributeType.identifier d.text = d.mentioned := by
  have hspace : ∀ word ∈ d.nameWords, ' ' ∉ word := by
    intro word hword
    rcases mem_nameWords hword with hword | ⟨name, rfl⟩
    · exact (by decide : ∀ word ∈ ["NAME".toList, opening, closing], ' ' ∉ word) word hword
    · simp [inQuotes, name.solid.not_mem (c := ' ') (by decide)]
  have hname : "SYNTAX".toList ∉ d.nameWords := by
    intro hword
    rcases mem_nameWords hword with hword | ⟨name, heq⟩
    · exact absurd hword (by decide)
    · have hfirst : some 'S' = some '\'' := congrArg List.head? heq
      exact absurd hfirst (by decide)
  rw [identifier_eq, behind?_text (by decide) (by decide),
    behind?_spaced_append (by decide) hspace hname, behind?_remark (by decide) (by decide),
    mentioned]
  cases d.remark?.bind fun remark => behind? "SYNTAX" remark.text with
  | none => rfl
  | some after => exact leadingValue_append (by decide) after _

/-! ## The names -/

/-- A description without names has a remark that opens a list of names and leaves it open. -/
def Misnamed (d : Description) : Prop :=
  d.names? = none ∧ ∃ remark ∈ d.remark?, ∃ after list,
    behind? "NAME" remark.text = some after ∧ trimStart after = '(' :: list ∧ ')' ∉ list

theorem spaced_tail (d : Description) :
    spaced (d.tail ++ [closing]) = (spaced d.tail ++ [' ']) ++ closing := by
  rw [spaced_append, List.append_assoc]
  rfl

theorem not_mem_spaced_tail {c : Char} (hsolid : isSolid c = false) (hspace : c ≠ ' ') :
    c ∉ spaced d.tail ++ [' '] := by
  intro hmem
  rcases List.mem_append.mp hmem with hmem | hmem
  · rcases mem_spaced hmem with heq | ⟨word, hword, hc⟩
    · exact hspace heq
    · exact (solid_of_mem_tail hword).not_mem hsolid hc
  · exact hspace (List.mem_singleton.mp hmem)

/-- Neither a quotation mark nor an open parenthesis follows the remark. -/
theorem not_mem_spaced_closed {c : Char} (hsolid : isSolid c = false) (hspace : c ≠ ' ')
    (hclose : c ∉ closing) : c ∉ spaced (d.tail ++ [closing]) := by
  rw [spaced_tail, List.mem_append, not_or]
  exact ⟨not_mem_spaced_tail hsolid hspace, hclose⟩

/-- The names of a description are read where they stand. -/
theorem leadingNames_words (names : Names) (rest : List Text) :
    (joined? (names.words ++ rest)).map (fun after => leadingNames (trimStart after))
      = some (names.descriptors.map Descriptor.text) := by
  have hname : ∀ name : Descriptor, name.text ≠ [] ∧ '\'' ∉ name.text ∧ ')' ∉ name.text :=
    fun name => ⟨List.cons_ne_nil _ _, name.solid.not_mem (by decide),
      name.solid.not_mem (by decide)⟩
  cases names with
  | one name =>
      have htrim : trimStart (inQuotes name.text ++ spaced rest)
          = inQuotes name.text ++ spaced rest :=
        trimStart_of_head (forall_head_cons (by decide) _)
      show some (leadingNames (trimStart (inQuotes name.text ++ spaced rest))) = some [name.text]
      rw [htrim, leadingNames_inQuotes (hname name).1 (hname name).2.1]
  | list names =>
      have hwords : (Names.list names).words ++ rest
          = opening :: ((names.map Descriptor.text).map inQuotes ++ closing :: rest) := by
        simp [Names.words]
      have htrim : ∀ list : Text, trimStart (opening ++ list) = opening ++ list :=
        fun list => trimStart_of_head (forall_head_cons (by decide) list)
      rw [hwords]
      show some (leadingNames (trimStart (opening ++ spaced _))) = some _
      rw [htrim, leadingNames_list]
      · rfl
      · exact List.forall_mem_map.mpr fun name _ => hname name

/-- Where no names are given, the word `NAME` behind the remark leads to none. -/
theorem names_text_of_none (h : d.names? = none) :
    AttributeType.names d.text
      = ((d.remark?.bind fun remark => behind? "NAME" remark.text).map fun after =>
          leadingNames (trimStart (after ++ '\'' :: spaced (d.tail ++ [closing])))).getD [] := by
  rw [names_eq, behind?_text (by decide) (by decide), nameWords, h]
  show ((behind? "NAME" (spaced (d.remarkWords ++ _))).map _).getD [] = _
  rw [behind?_remark (by decide) (by decide)]
  cases d.remark?.bind fun remark => behind? "NAME" remark.text with
  | some after => rfl
  | none =>
      -- Behind the remark there are neither quotation marks nor lists.
      show ((behind? "NAME" (spaced (d.tail ++ [closing]))).map _).getD [] = []
      cases hafter : behind? "NAME" (spaced (d.tail ++ [closing])) with
      | none => rfl
      | some after =>
          have hsuffix := (List.dropWhile_suffix isBlank).trans (suffix_of_behind? hafter)
          exact leadingNames_of_free
            (fun hquote => not_mem_spaced_closed (by decide) (by decide) (by decide)
              (hsuffix.mem hquote))
            (fun hopen => not_mem_spaced_closed (by decide) (by decide) (by decide)
              (hsuffix.mem hopen))

/-- **The names of a description are read**, unless its remark leaves a list open. -/
theorem names_text (h : ¬ d.Misnamed) : AttributeType.names d.text = d.names := by
  cases hnames : d.names? with
  | some names =>
      -- The first word `NAME` is the keyword, whatever the remark says.
      rw [names_eq, behind?_text (by decide) (by decide), nameWords, Description.names, hnames]
      show ((behind? "NAME" (spaced ("NAME".toList :: (names.words ++ _)))).map _).getD [] = _
      rw [behind?_spaced_self (by decide), leadingNames_words]
      rfl
  | none =>
      rw [names_text_of_none hnames, Description.names, hnames]
      cases hafter : d.remark?.bind fun remark => behind? "NAME" remark.text with
      | none => rfl
      | some after =>
          -- A quotation mark ends the remark, and no other follows that would end a name.
          obtain ⟨remark, hremark, hafter⟩ := Option.bind_eq_some_iff.mp hafter
          have hquote : '\'' ∉ trimStart after := fun hmem => remark.quote_notMem
            ((suffix_of_behind? hafter).mem ((List.dropWhile_suffix isBlank).mem hmem))
          show leadingNames (trimStart (after ++ '\'' :: _)) = []
          rw [trimStart_append_cons (by decide)]
          refine leadingNames_append hquote
            (not_mem_spaced_closed (by decide) (by decide) (by decide)) fun list hlist => ?_
          exact Decidable.byContradiction fun hopen =>
            h ⟨hnames, remark, hremark, after, list, hafter, hlist, hopen⟩

/-- Then the words behind the remark are taken for a name. -/
theorem names_text_of_misnamed (h : d.Misnamed) :
    AttributeType.names d.text = [spaced d.tail ++ [' ']] := by
  obtain ⟨hnames, remark, hremark, after, list, hafter, hlist, hopen⟩ := h
  have hquote : '\'' ∉ list := by
    intro hmem
    have hsuffix := (List.dropWhile_suffix isBlank).trans (suffix_of_behind? hafter)
    rw [show after.dropWhile isBlank = '(' :: list from hlist] at hsuffix
    exact remark.quote_notMem (hsuffix.mem (List.mem_cons_of_mem _ hmem))
  have hne : spaced d.tail ++ [' '] ≠ [] := List.concat_ne_nil ' ' (spaced d.tail)
  -- The parenthesis at the end of the description closes the list of the remark.
  rw [names_text_of_none hnames, Option.mem_def.mp hremark, Option.bind_some, hafter]
  show leadingNames (trimStart (after ++ '\'' :: spaced (d.tail ++ [closing]))) = _
  rw [trimStart_append_cons (by decide), hlist, spaced_tail]
  exact leadingNames_open hquote hopen (not_mem_spaced_tail (by decide) (by decide))
    (not_mem_spaced_tail (by decide) (by decide)) hne []

end Description

/-! ## The schema that descriptions describe -/

/-- A name with this lower-case form is given in a description. -/
def Description.Gives (d : Description) (key : Text) : Prop :=
  ∃ name ∈ d.names, lower name = key

/-- The last description of a name. -/
def LastOf (descriptions : List Description) (key : Text) (d : Description) : Prop :=
  ∃ front back, descriptions = front ++ d :: back ∧ d.Gives key ∧
    ∀ later ∈ back, ¬ later.Gives key

/-- A schema is the one that is described: its names are those of the descriptions, in lower case,
    and each has the identifier of the last description that gives it. -/
structure Describes (descriptions : List Description) (schema : SchemaMap) : Prop where
  keys : ∀ key, key ∈ schema.identifiers.keys ↔ ∃ d ∈ descriptions, d.Gives key
  identifiers : ∀ key d, LastOf descriptions key d →
    schema.identifiers.get? key = some d.identifier

/-- Nothing else is taken for a name, and the word `SYNTAX` stands nowhere in front of the
    identifier, as far as this one counts. -/
structure Legible (descriptions : List Description) : Prop where
  names : ∀ d ∈ descriptions, ¬ d.Misnamed
  identifiers : ∀ key d, LastOf descriptions key d → d.mentioned = d.identifier

/-- The remark of a description has none of the two keywords, and no reference is one. -/
structure Description.Plain (d : Description) : Prop where
  remark : ∀ remark ∈ d.remark?,
    ¬ " NAME ".toList <:+: remark.text ∧ ¬ " SYNTAX ".toList <:+: remark.text
  references : ∀ reference ∈ d.references, reference.text ≠ "SYNTAX".toList

theorem Description.Plain.not_misnamed {d : Description} (h : d.Plain) : ¬ d.Misnamed := by
  rintro ⟨-, remark, hremark, after, list, hafter, -, -⟩
  have hnone : behind? "NAME" remark.text = none :=
    behind?_eq_none_iff.mpr (h.remark remark hremark).1
  rw [hnone] at hafter
  exact nomatch hafter

theorem Description.Plain.mentioned_eq {d : Description} (h : d.Plain) :
    d.mentioned = d.identifier := by
  have hremark : (d.remark?.bind fun remark => behind? "SYNTAX" remark.text) = none := by
    refine Option.bind_eq_none_iff.mpr fun remark hremark => ?_
    exact behind?_eq_none_iff.mpr (h.remark remark hremark).2
  have htail : ∀ word ∈ d.tail ++ [closing], ' ' ∉ word := by
    intro word hword
    rcases List.mem_append.mp hword with hword | hword
    · exact (solid_of_mem_tail hword).not_mem (by decide)
    · rw [List.mem_singleton.mp hword]
      decide
  rw [mentioned, hremark, Option.none_or, behind?_spaced (by decide) htail,
    following_tail h.references, identifier]
  cases d.form? with
  | none => rfl
  | some form => exact (leadingValue_spaced form.text _).trans (leadingValue_form form)

section

variable {descriptions : List Description} {d : Description} {key : Text}

theorem Description.defines_iff (h : ¬ d.Misnamed) : Defines d.text key ↔ d.Gives key := by
  rw [Defines, names_text h, Gives]

theorem head_lower {c : Char} (h : c.toNat < 0x80) (rest : Text) :
    (lower (c :: rest)).head? = some c.toLower := by
  have hsigma : c ≠ 'Σ' := by
    rintro rfl
    exact absurd h (by decide)
  rw [lower, lowerFrom, if_neg hsigma, lowerChar, if_pos h]
  rfl

/-- What is taken for a name starts with a space, so it is none. -/
theorem Description.not_gives (d other : Description) :
    ¬ other.Gives (lower (spaced d.tail ++ [' '])) := by
  rintro ⟨text, htext, heq⟩
  obtain ⟨name, rfl⟩ := exists_of_mem_names htext
  obtain ⟨rest, hrest⟩ : ∃ rest, spaced d.tail ++ [' '] = ' ' :: rest := by
    cases d.tail with
    | nil => exact ⟨[], rfl⟩
    | cons word words => exact ⟨_, rfl⟩
  have hlower : name.first.toLower ≠ ' ' :=
    of_isAlphanum (p := fun c => c.toLower ≠ ' ') (by decide) name.isAlphanum_first
  have hhead := congrArg List.head? heq
  rw [hrest, head_lower (by decide), Descriptor.text,
    head_lower (lt_of_isAlphanum name.isAlphanum_first)] at hhead
  exact hlower (Option.some.inj hhead)

/-- Where nothing else is taken for a name, the identifier of a name is the one that is read from
    its last description. -/
theorem get?_of_lastOf (hnames : ∀ d ∈ descriptions, ¬ d.Misnamed)
    (hlast : LastOf descriptions key d) :
    (schemaMap (descriptions.map Description.text)).identifiers.get? key = some d.mentioned := by
  obtain ⟨front, back, rfl, hgives, hback⟩ := hlast
  have hd : Defines d.text key :=
    (Description.defines_iff (hnames d (List.mem_append_right _ List.mem_cons_self))).mpr hgives
  have hlater : ∀ text ∈ back.map Description.text, ¬ Defines text key := by
    refine List.forall_mem_map.mpr fun later hlater hdefines => hback later hlater ?_
    refine (Description.defines_iff (hnames later ?_)).mp hdefines
    exact List.mem_append_right _ (List.mem_cons_of_mem _ hlater)
  rw [List.map_append, List.map_cons, get?_schemaMap hd hlater, Description.identifier_text]

/-- The names of a described schema leave no room for others. -/
theorem legible_of_describes
    (h : Describes descriptions (schemaMap (descriptions.map Description.text))) :
    Legible descriptions := by
  have hnames : ∀ d ∈ descriptions, ¬ d.Misnamed := by
    intro d hd hmisnamed
    have hdefines : Defines d.text (lower (spaced d.tail ++ [' '])) := by
      rw [Defines, Description.names_text_of_misnamed hmisnamed]
      exact ⟨_, List.mem_cons_self, rfl⟩
    have hkey := mem_keys_schemaMap.mpr ⟨d.text, List.mem_map_of_mem hd, hdefines⟩
    obtain ⟨other, -, hgives⟩ := (h.keys _).mp hkey
    exact d.not_gives other hgives
  refine ⟨hnames, fun key d hlast => ?_⟩
  have hread := get?_of_lastOf hnames hlast
  rw [h.identifiers key d hlast] at hread
  exact (Option.some.inj hread).symm

theorem describes_of_legible (h : Legible descriptions) :
    Describes descriptions (schemaMap (descriptions.map Description.text)) := by
  constructor
  · intro key
    rw [mem_keys_schemaMap]
    simp only [List.mem_map, exists_exists_and_eq_and]
    exact exists_congr fun d => and_congr_right fun hd => Description.defines_iff (h.names d hd)
  · intro key d hlast
    rw [get?_of_lastOf h.names hlast, h.identifiers key d hlast]

theorem legible_of_plain (h : ∀ d ∈ descriptions, d.Plain) : Legible descriptions := by
  constructor
  · intro d hd
    exact (h d hd).not_misnamed
  · intro key d hlast
    obtain ⟨front, back, rfl, -, -⟩ := hlast
    exact (h d (List.mem_append_right front List.mem_cons_self)).mentioned_eq

end

/-- **The schema is the one that the descriptions describe exactly where they are legible**, which
    plain ones are. -/
theorem schemaMap_describes (descriptions : List Description) :
    (Describes descriptions (schemaMap (descriptions.map Description.text))
        ↔ Legible descriptions) ∧
      ((∀ d ∈ descriptions, d.Plain) → Legible descriptions) :=
  ⟨⟨legible_of_describes, describes_of_legible⟩, legible_of_plain⟩

/-- The type of mail addresses, with two names and a bound on their length. -/
def mailType : Description where
  oid := ⟨0, 9, [2342, 19200300, 100, 1, 3]⟩
  names? := some (.list [⟨'m', "ail", rfl, rfl⟩, ⟨'r', "fc822Mailbox", rfl, rfl⟩])
  remark? := some ⟨"RFC1274: RFC822 Mailbox", by decide⟩
  equality? := some (.descriptor ⟨'c', "aseIgnoreIA5Match", rfl, rfl⟩)
  form? := some ⟨⟨1, 3, [6, 1, 4, 1, 1466, 115, 121, 1, 26]⟩, some 256⟩

theorem schemaMap_describes_mailType :
    mailType.text =
        "( 0.9.2342.19200300.100.1.3 NAME ( 'mail' 'rfc822Mailbox' ) ".toList ++
          "DESC 'RFC1274: RFC822 Mailbox' EQUALITY caseIgnoreIA5Match ".toList ++
          "SYNTAX 1.3.6.1.4.1.1466.115.121.1.26\x7b256\x7d )".toList ∧
      Describes [mailType] (schemaMap [mailType.text]) := by
  refine ⟨by decide +kernel, ?_⟩
  refine (schemaMap_describes [mailType]).1.mpr ((schemaMap_describes [mailType]).2 ?_)
  exact List.forall_mem_singleton.mpr ⟨by decide +kernel, by decide +kernel⟩

/-- The type of common names, with a remark that has the word `SYNTAX`. -/
def remarkedType : Description where
  oid := ⟨2, 5, [4, 3]⟩
  names? := some (.one ⟨'c', "n", rfl, rfl⟩)
  remark? := some ⟨"see SYNTAX of name", by decide⟩
  parent? := some (.descriptor ⟨'n', "ame", rfl, rfl⟩)

/-- The remark of a description is taken for its fields. -/
theorem schemaMap_not_described :
    remarkedType.text = "( 2.5.4.3 NAME 'cn' DESC 'see SYNTAX of name' SUP name )".toList ∧
      (schemaMap [remarkedType.text]).get? "cn" = some "of" ∧
      ¬ Describes [remarkedType] (schemaMap [remarkedType.text]) := by
  have hget : (schemaMap [remarkedType.text]).identifiers.get? "cn" = some "of".toList := by
    decide +kernel
  refine ⟨by decide +kernel, by decide +kernel, fun h => ?_⟩
  have hlast : LastOf [remarkedType] "cn" remarkedType :=
    ⟨[], [], rfl, ⟨"cn", by decide, by decide⟩, fun later hlater => nomatch hlater⟩
  rw [h.identifiers _ _ hlast] at hget
  exact absurd hget (by decide)

end DirectoryRecords.AttributeType
