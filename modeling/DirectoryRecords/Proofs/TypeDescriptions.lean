import DirectoryRecords.Proofs.DecimalNumbers
import DirectoryRecords.Proofs.Keywords

/-!
# Type descriptions — attribute types as RFC 4512 has them written

    A description is a list of words between parentheses. An object
    identifier comes first, then the fields in a fixed order, of which a
    description may leave out any: names, a remark, what the type is derived
    from and compared by, the form of its values, and what is allowed of it.

    Names and remark are in quotation marks, and a remark may have any
    characters but these. The words behind them, which are the `tail`, are
    solid: they have no blank, no quotation mark and no parenthesis
    (`solid_of_mem_tail`). One of them is the word `SYNTAX` only if it is the
    keyword, or a type or a rule of that name (`following_tail`).
-/

namespace DirectoryRecords.AttributeType

open Text

/-! ## Descriptions -/

/-- An object identifier in numbers, of which it has two or more. -/
structure NumericId where
  root : Nat
  arc : Nat
  arcs : List Nat

/-- The numbers with a dot between each two. -/
def NumericId.text (id : NumericId) : Text :=
  joinWith '.' ((id.root :: id.arc :: id.arcs).map Decimal.write)

/-- Whether a character may stand in a name: a letter or a digit, or a hyphen. -/
def isNameChar (c : Char) : Bool :=
  c.isAlphanum || c == '-'

/-- A name of a type or a rule, which starts with a letter. -/
structure Descriptor where
  first : Char
  rest : Text
  isAlpha_first : first.isAlpha = true
  isNameChar_rest : rest.all isNameChar = true

/-- The characters of the name. -/
def Descriptor.text (name : Descriptor) : Text :=
  name.first :: name.rest

/-- What refers to another type or to a rule: its name or its identifier. -/
inductive Reference where
  | descriptor (name : Descriptor)
  | numeric (id : NumericId)

/-- The name or the identifier, as it is written. -/
def Reference.text : Reference → Text
  | descriptor name => name.text
  | numeric id => id.text

/-- The names of a type: a single one, or a list in parentheses. -/
inductive Names where
  | one (name : Descriptor)
  | list (names : List Descriptor)

/-- The names one by one. -/
def Names.descriptors : Names → List Descriptor
  | one name => [name]
  | list names => names

/-- The word that opens a list. -/
def opening : Text := "("

/-- The word that closes it. -/
def closing : Text := ")"

/-- The names in quotation marks. -/
def Names.words : Names → List Text
  | one name => [inQuotes name.text]
  | list names => opening :: (names.map (inQuotes ·.text) ++ [closing])

/-- A remark about a type, which has no quotation mark. -/
structure Remark where
  text : Text
  quote_notMem : '\'' ∉ text

/-- The form of the values of a type: the identifier of their syntax, and how long they may be. -/
structure Form where
  oid : NumericId
  length? : Option Nat

/-- The length in braces. -/
def Form.lengthText : Option Nat → Text
  | none => []
  | some length => '\x7b' :: Decimal.write length ++ ['\x7d']

/-- The identifier with the length behind it. -/
def Form.text (form : Form) : Text :=
  form.oid.text ++ lengthText form.length?

/-- What a type is used for. -/
inductive Usage where
  | userApplications
  | directoryOperation
  | distributedOperation
  | dSAOperation

/-- The word for a usage. -/
def Usage.text : Usage → Text
  | userApplications => "userApplications"
  | directoryOperation => "directoryOperation"
  | distributedOperation => "distributedOperation"
  | dSAOperation => "dSAOperation"

/-- The description of an attribute type. -/
structure Description where
  oid : NumericId
  names? : Option Names := none
  remark? : Option Remark := none
  obsolete : Bool := false
  parent? : Option Reference := none
  equality? : Option Reference := none
  ordering? : Option Reference := none
  substrings? : Option Reference := none
  form? : Option Form := none
  singleValue : Bool := false
  collective : Bool := false
  noUserModification : Bool := false
  usage? : Option Usage := none

/-- The words of a field that may be left out. -/
def field (keyword : Text) : Option Text → List Text
  | none => []
  | some value => [keyword, value]

/-- The word of a field without a value. -/
def flag (keyword : Text) (given : Bool) : List Text :=
  if given then [keyword] else []

namespace Description

/-- The words for the names. -/
def nameWords (d : Description) : List Text :=
  match d.names? with
  | none => []
  | some names => "NAME" :: names.words

/-- The words for the remark. -/
def remarkWords (d : Description) : List Text :=
  field "DESC" (d.remark?.map fun remark => inQuotes remark.text)

/-- The types and rules that a description refers to. -/
def references (d : Description) : List Reference :=
  [d.parent?, d.equality?, d.ordering?, d.substrings?].filterMap id

/-- The keywords of what a type is derived from and compared by. -/
def ruleKeywords : List Text :=
  ["OBSOLETE", "SUP", "EQUALITY", "ORDERING", "SUBSTR"]

/-- The words for what a type is derived from and compared by. -/
def rules (d : Description) : List Text :=
  flag "OBSOLETE" d.obsolete ++ field "SUP" (d.parent?.map Reference.text) ++
    field "EQUALITY" (d.equality?.map Reference.text) ++
    field "ORDERING" (d.ordering?.map Reference.text) ++
    field "SUBSTR" (d.substrings?.map Reference.text)

/-- The keywords of what is allowed of a type. -/
def markKeywords : List Text :=
  ["SINGLE-VALUE", "COLLECTIVE", "NO-USER-MODIFICATION", "USAGE"]

/-- The words for what is allowed of a type. -/
def marks (d : Description) : List Text :=
  flag "SINGLE-VALUE" d.singleValue ++ flag "COLLECTIVE" d.collective ++
    flag "NO-USER-MODIFICATION" d.noUserModification ++ field "USAGE" (d.usage?.map Usage.text)

/-- The words behind the remark. -/
def tail (d : Description) : List Text :=
  d.rules ++ (field "SYNTAX" (d.form?.map Form.text) ++ d.marks)

/-- The description in words with a single space between each two. -/
def text (d : Description) : Text :=
  joinWith ' ' (opening :: d.oid.text :: (d.nameWords ++ (d.remarkWords ++ (d.tail ++ [closing]))))

/-- The names that a description gives. -/
def names (d : Description) : List Text :=
  match d.names? with
  | none => []
  | some names => names.descriptors.map Descriptor.text

/-- The identifier of the syntax, without the length, and empty where none is given. -/
def identifier (d : Description) : Text :=
  match d.form? with
  | none => []
  | some form => form.oid.text

end Description

/-! ## Solid words -/

/-- Whether a character is no blank, no quotation mark and no parenthesis. -/
def isSolid (c : Char) : Bool :=
  !isBlank c && c != '\'' && c != '(' && c != ')'

/-- A word without blanks, quotation marks and parentheses. -/
def Solid (word : Text) : Prop :=
  ∀ c ∈ word, isSolid c = true

instance (word : Text) : Decidable (Solid word) :=
  List.decidableBAll (fun c => isSolid c = true) word

theorem Solid.not_mem {word : Text} (h : Solid word) {c : Char} (hc : isSolid c = false) :
    c ∉ word := by
  intro hmem
  rw [h c hmem] at hc
  exact Bool.noConfusion hc

theorem Solid.append {left right : Text} (hleft : Solid left) (hright : Solid right) :
    Solid (left ++ right) :=
  List.forall_mem_append.mpr ⟨hleft, hright⟩

theorem lt_of_isAlphanum {c : Char} (h : c.isAlphanum = true) : c.toNat < 128 := by
  rcases Bool.or_eq_true_iff.mp h with halpha | hdigit
  · rcases Bool.or_eq_true_iff.mp halpha with hupper | hlower
    · have hle : c.val ≤ 'Z'.val := (of_decide_eq_true hupper).2
      exact Nat.lt_of_le_of_lt (UInt32.le_iff_toNat_le.mp hle) (by decide)
    · have hle : c.val ≤ 'z'.val := of_decide_eq_true (Bool.and_eq_true_iff.mp hlower).2
      exact Nat.lt_of_le_of_lt (UInt32.le_iff_toNat_le.mp hle) (by decide)
  · have hle : c.val ≤ '9'.val := of_decide_eq_true (Bool.and_eq_true_iff.mp hdigit).2
    exact Nat.lt_of_le_of_lt (UInt32.le_iff_toNat_le.mp hle) (by decide)

/-- What holds of letters and digits can be checked one by one. -/
theorem of_isAlphanum {p : Char → Prop}
    (hall : ∀ n : Fin 128, (Char.ofNat n).isAlphanum = true → p (Char.ofNat n)) {c : Char}
    (h : c.isAlphanum = true) : p c := by
  have hc := hall ⟨c.toNat, lt_of_isAlphanum h⟩
  rw [show Char.ofNat (⟨c.toNat, lt_of_isAlphanum h⟩ : Fin 128) = c from Char.ofNat_toNat c] at hc
  exact hc h

theorem isSolid_of_isAlphanum {c : Char} (h : c.isAlphanum = true) : isSolid c = true :=
  of_isAlphanum (p := fun c => isSolid c = true) (by decide) h

theorem solid_of_isDigit {text : Text} (h : ∀ c ∈ text, c.isDigit = true) : Solid text := by
  intro c hc
  refine isSolid_of_isAlphanum ?_
  rw [Char.isAlphanum, h c hc, Bool.or_true]

/-- Whether a character may stand in an identifier in numbers. -/
def isNumberChar (c : Char) : Bool :=
  c.isDigit || c == '.'

theorem NumericId.all_text (id : NumericId) : id.text.all isNumberChar = true := by
  have hnumber : ∀ n, (Decimal.write n).all isNumberChar = true := by
    refine fun n => List.all_eq_true.mpr fun c hc => ?_
    rw [isNumberChar, Decimal.isDigit_of_mem_write hc, Bool.true_or]
  rw [NumericId.text, List.map_cons, joinWith_cons, List.all_append, hnumber, Bool.true_and,
    List.all_flatMap, List.all_map]
  refine List.all_eq_true.mpr fun n _ => ?_
  show ('.' :: Decimal.write n).all isNumberChar = true
  rw [List.all_cons, hnumber]
  rfl

theorem NumericId.solid (id : NumericId) : Solid id.text := by
  intro c hc
  have hnumber := List.all_eq_true.mp id.all_text c hc
  rw [isNumberChar, Bool.or_eq_true, beq_iff_eq] at hnumber
  rcases hnumber with hdigit | rfl
  · exact solid_of_isDigit (List.forall_mem_singleton.mpr hdigit) c List.mem_cons_self
  · decide

/-- A word with other characters than digits and dots is no identifier in numbers. -/
theorem NumericId.text_ne (id : NumericId) {word : Text} (h : word.all isNumberChar = false) :
    id.text ≠ word := by
  rintro rfl
  rw [id.all_text] at h
  exact Bool.noConfusion h

theorem Descriptor.isAlphanum_first (name : Descriptor) : name.first.isAlphanum = true := by
  rw [Char.isAlphanum, name.isAlpha_first, Bool.true_or]

theorem Descriptor.solid (name : Descriptor) : Solid name.text := by
  intro c hc
  rcases List.mem_cons.mp hc with rfl | hc
  · exact isSolid_of_isAlphanum name.isAlphanum_first
  · have hname := List.all_eq_true.mp name.isNameChar_rest c hc
    rw [isNameChar, Bool.or_eq_true, beq_iff_eq] at hname
    rcases hname with halphanum | rfl
    · exact isSolid_of_isAlphanum halphanum
    · decide

theorem Reference.solid : (reference : Reference) → Solid reference.text
  | descriptor name => name.solid
  | numeric id => id.solid

theorem Form.solid (form : Form) : Solid form.text := by
  refine form.oid.solid.append ?_
  cases form.length? with
  | none => exact fun c hc => nomatch hc
  | some length =>
      have hbraces : Solid ['\x7b'] ∧ Solid ['\x7d'] := by decide
      exact (hbraces.1.append (solid_of_isDigit fun c => Decimal.isDigit_of_mem_write)).append
        hbraces.2

theorem Usage.solid (usage : Usage) : Solid usage.text := by
  cases usage <;> decide

/-! ## The words of a description -/

theorem mem_field {keyword word : Text} {value? : Option Text}
    (h : word ∈ field keyword value?) : word = keyword ∨ value? = some word := by
  cases value? with
  | none => exact nomatch h
  | some value =>
      rcases List.mem_cons.mp h with rfl | h
      · exact .inl rfl
      · exact .inr (congrArg some (List.mem_singleton.mp h).symm)

theorem mem_flag {keyword word : Text} {given : Bool} (h : word ∈ flag keyword given) :
    word = keyword := by
  cases given with
  | false => exact nomatch h
  | true => exact List.mem_singleton.mp h

namespace Description

variable {d : Description} {word : Text}

theorem exists_of_mem_names (h : word ∈ d.names) : ∃ name : Descriptor, name.text = word := by
  rw [names] at h
  cases hnames : d.names? with
  | none =>
      rw [hnames] at h
      exact nomatch h
  | some names =>
      rw [hnames] at h
      obtain ⟨name, -, hname⟩ := List.mem_map.mp h
      exact ⟨name, hname⟩

/-- A word for the names is the keyword, a parenthesis, or a name in quotation marks. -/
theorem mem_nameWords (h : word ∈ d.nameWords) :
    word ∈ ["NAME".toList, opening, closing] ∨ ∃ name : Descriptor, word = inQuotes name.text := by
  rw [nameWords] at h
  cases hnames : d.names? with
  | none =>
      rw [hnames] at h
      exact nomatch h
  | some names =>
      rw [hnames] at h
      rcases List.mem_cons.mp h with rfl | h
      · exact .inl (by decide)
      · cases names with
        | one name => exact .inr ⟨name, List.mem_singleton.mp h⟩
        | list names =>
            rcases List.mem_cons.mp h with rfl | h
            · exact .inl (by decide)
            · rcases List.mem_append.mp h with h | h
              · obtain ⟨name, -, rfl⟩ := List.mem_map.mp h
                exact .inr ⟨name, rfl⟩
              · rw [List.mem_singleton.mp h]
                exact .inl (by decide)

/-- A word for what a type is derived from and compared by is a keyword or a reference. -/
theorem mem_rules (h : word ∈ d.rules) :
    word ∈ ruleKeywords ∨
      ∃ reference ∈ d.references, word = reference.text := by
  have hreference : ∀ {keyword : Text} {reference? : Option Reference},
      word ∈ field keyword (reference?.map Reference.text) →
        reference? ∈ [d.parent?, d.equality?, d.ordering?, d.substrings?] →
          word = keyword ∨ ∃ reference ∈ d.references, word = reference.text := by
    intro keyword reference? hword hmem
    refine (mem_field hword).imp_right fun hsome => ?_
    obtain ⟨reference, rfl, rfl⟩ := Option.map_eq_some_iff.mp hsome
    exact ⟨reference, List.mem_filterMap.mpr ⟨some reference, hmem, rfl⟩, rfl⟩
  rw [rules, List.mem_append, List.mem_append, List.mem_append, List.mem_append] at h
  rcases h with (((h | h) | h) | h) | h
  · obtain rfl := mem_flag h
    exact .inl (by decide)
  all_goals
    refine (hreference h (by simp)).imp_left ?_
    rintro rfl
    decide

/-- A word for what is allowed of a type is a keyword or a usage. -/
theorem mem_marks (h : word ∈ d.marks) :
    word ∈ markKeywords ∨
      ∃ usage : Usage, word = usage.text := by
  rw [marks, List.mem_append, List.mem_append, List.mem_append] at h
  rcases h with ((h | h) | h) | h
  · obtain rfl := mem_flag h
    exact .inl (by decide)
  · obtain rfl := mem_flag h
    exact .inl (by decide)
  · obtain rfl := mem_flag h
    exact .inl (by decide)
  · rcases mem_field h with rfl | husage
    · exact .inl (by decide)
    · obtain ⟨usage, -, rfl⟩ := Option.map_eq_some_iff.mp husage
      exact .inr ⟨usage, rfl⟩

/-- **The words behind the remark are solid.** -/
theorem solid_of_mem_tail (h : word ∈ d.tail) : Solid word := by
  have hkeywords : ∀ keyword ∈ ruleKeywords ++ "SYNTAX".toList :: markKeywords, Solid keyword := by
    decide
  rw [tail, List.mem_append, List.mem_append] at h
  rcases h with h | h | h
  · rcases mem_rules h with hkeyword | ⟨reference, -, rfl⟩
    · exact hkeywords word (List.mem_append_left _ hkeyword)
    · exact reference.solid
  · rcases mem_field h with rfl | hform
    · exact hkeywords _ (by decide)
    · obtain ⟨form, -, rfl⟩ := Option.map_eq_some_iff.mp hform
      exact form.solid
  · rcases mem_marks h with hkeyword | ⟨usage, rfl⟩
    · exact hkeywords word (List.mem_append_right _ (List.mem_cons_of_mem _ hkeyword))
    · exact usage.solid

/-- Where no reference is the word, the first word `SYNTAX` is the keyword. -/
theorem following_tail (h : ∀ reference ∈ d.references, reference.text ≠ "SYNTAX".toList) :
    following "SYNTAX" (d.tail ++ [closing])
      = match d.form? with
        | none => []
        | some form => form.text :: (d.marks ++ [closing]) := by
  have hrules : "SYNTAX".toList ∉ d.rules := by
    intro hmem
    rcases mem_rules hmem with hkeyword | ⟨reference, hreference, heq⟩
    · exact absurd hkeyword (by decide)
    · exact h reference hreference heq.symm
  have hmarks : "SYNTAX".toList ∉ d.marks := by
    intro hmem
    rcases mem_marks hmem with hkeyword | ⟨usage, heq⟩
    · exact absurd hkeyword (by decide)
    · cases usage <;> exact absurd heq (by decide)
  rw [tail, List.append_assoc, following_append hrules]
  cases d.form? with
  | none =>
      show following "SYNTAX" (d.marks ++ [closing]) = []
      rw [following_append hmarks]
      rfl
  | some form => exact if_pos rfl

end Description

end DirectoryRecords.AttributeType
