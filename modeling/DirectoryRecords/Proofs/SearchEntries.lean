import DirectoryRecords.Ldap.SearchEntry
import DirectoryRecords.Proofs.EncodedBytes
import DirectoryRecords.Proofs.EntryOrder

/-!
# Search entries — what an entry shows of an object

    A server sends the text attributes and the binary attributes of an object
    in no particular order. What is sent is seen here as a list of parts, each
    of which is of text or binary (`parts`), and the entry comes from sorting
    them (`toEntry_eq`). Of two parts one is `Before` the other: in the order
    of names in lower case, text before binary where these are the same.

    * Where no two text attributes and no two binary attributes have one name
      but for letter case, what is sent has the right order among the parts of
      one name, and sorting keeps it; so the sorted parts are in strict order
      (`pairwise_order`).
    * Strict orders of the same parts are the same list, whatever order they
      were sent in (`order_eq`).

    So the entry shows every part once and in order, and loses nothing: the
    values of a binary part are read back from their texts.
-/

namespace DirectoryRecords.SearchEntry

/-- An attribute as a server sends it. -/
inductive Part where
  | text (sent : Attribute)
  | binary (name : Text) (values : List (List UInt8))

namespace Part

/-- The name of the attribute. -/
def name : Part → Text
  | text sent => sent.name
  | binary name _ => name

/-- The name in lower case. -/
def key (part : Part) : Text :=
  Text.lower part.name

/-- The part as an attribute of an entry. -/
def toAttribute : Part → Attribute
  | text sent => sent
  | binary name values => encodeBinary name values

/-- Whether the first of two parts is of text and the second one binary. -/
def TextFirst : Part → Part → Prop
  | text _, binary _ _ => True
  | _, _ => False

/-- A part stands before another one: its name in lower case is smaller, or the same, and it is
    the one of text of the two. -/
def Before (a b : Part) : Prop :=
  a.key < b.key ∨ a.key = b.key ∧ TextFirst a b

/-- An attribute of an entry shows a part: a text attribute as it is, and a binary one under its
    name with the encodings of its values, from which these are read back. -/
def ShownAs : Part → Attribute → Prop
  | text sent, shown => shown = sent
  | binary name values, shown =>
    shown.name = name ∧ List.Forall₂ Base64.Encodes values shown.values ∧
      shown.values.map Base64.decode = values

theorem name_toAttribute (part : Part) : part.toAttribute.name = part.name := by
  cases part with
  | text sent => rfl
  | binary name values => rfl

theorem shownAs_toAttribute (part : Part) : part.ShownAs part.toAttribute := by
  cases part with
  | text sent => exact rfl
  | binary name values =>
      refine ⟨rfl, ?_, ?_⟩
      · exact List.forall₂_map_right_iff.mpr
          (List.forall₂_same.mpr fun bytes _ => Base64.encodes_encode bytes)
      · show (values.map Base64.encode).map Base64.decode = values
        rw [List.map_map]
        exact (List.map_congr_left fun bytes _ => Base64.decode_encode bytes).trans
          (List.map_id values)

theorem not_textFirst_symm {a b : Part} (h : TextFirst a b) : ¬ TextFirst b a := by
  cases a with
  | text sent =>
      cases b with
      | text other => exact absurd h id
      | binary name values => exact id
  | binary name values => exact absurd h id

theorem Before.asymm {a b : Part} (hab : Before a b) : ¬ Before b a := by
  rintro (hba | ⟨hkey, hba⟩)
  · rcases hab with hab | ⟨hkey, -⟩
    · exact List.lt_asymm hab hba
    · rw [hkey] at hba
      exact List.lt_irrefl _ hba
  · rcases hab with hab | ⟨-, hab⟩
    · rw [hkey] at hab
      exact List.lt_irrefl _ hab
    · exact not_textFirst_symm hab hba

end Part

/-- Everything that is sent: the text attributes, and the binary ones behind them. -/
def parts (found : SearchEntry) : List Part :=
  found.texts.map .text ++ found.binaries.map fun (name, values) => .binary name values

/-- The parts as the entry has them. -/
def order (found : SearchEntry) : List Part :=
  found.parts.mergeSort (Text.inKeyOrder Part.key)

theorem toEntry_eq (found : SearchEntry) :
    found.toEntry = ⟨found.dn, found.order.map Part.toAttribute⟩ := by
  have hparts : found.texts ++ found.binaries.map (fun (name, values) => encodeBinary name values)
      = found.parts.map Part.toAttribute := by
    rw [parts, List.map_append, List.map_map, List.map_map]
    exact congrArg (· ++ _) (List.map_id found.texts).symm
  have hsort : (found.parts.map Part.toAttribute).mergeSort inOrder
      = found.order.map Part.toAttribute := by
    refine (List.map_mergeSort fun a _ b _ => ?_).symm
    rw [inOrder, Part.name_toAttribute, Part.name_toAttribute]
    rfl
  rw [toEntry, hparts, hsort]

theorem order_perm (found : SearchEntry) : found.order.Perm found.parts :=
  List.mergeSort_perm found.parts _

/-! ## Distinct names -/

/-- No two text attributes have one name but for letter case, and no two binary attributes. -/
structure DistinctNames (found : SearchEntry) : Prop where
  texts : (found.texts.map fun sent => Text.lower sent.name).Nodup
  binaries : (found.binaries.map fun (name, _) => Text.lower name).Nodup

variable {found other : SearchEntry}

/-- Of the parts of one name the one of text is sent first. -/
theorem pairwise_parts (h : found.DistinctNames) :
    found.parts.Pairwise fun a b => a.key = b.key → a.TextFirst b := by
  rw [parts, List.pairwise_append, List.pairwise_map, List.pairwise_map]
  refine ⟨?_, ?_, fun a ha b hb _ => ?_⟩
  · exact (List.pairwise_map.mp h.texts).imp fun hne heq => absurd heq hne
  · exact (List.pairwise_map.mp h.binaries).imp fun hne heq => absurd heq hne
  · obtain ⟨sent, -, rfl⟩ := List.mem_map.mp ha
    obtain ⟨binary, -, rfl⟩ := List.mem_map.mp hb
    exact trivial

/-- **Sorting puts the parts in strict order.** Two parts of one name are among the parts of this
    name, and these are as they were sent. -/
theorem pairwise_order (h : found.DistinctNames) : found.order.Pairwise Part.Before := by
  have hsorted := List.pairwise_mergeSort (Text.inKeyOrder_trans Part.key)
    (Text.inKeyOrder_total Part.key) found.parts
  have htie : found.order.Pairwise fun a b => a.key = b.key → a.TextFirst b := by
    rw [List.pairwise_iff_forall_sublist]
    intro a b hpair hkey
    -- What is sorted has the parts of one name in the order in which they were sent.
    have hboth : [a, b].filter (Part.key · = a.key) = [a, b] := by simp [hkey]
    have hkept := hpair.filter (Part.key · = a.key)
    rw [hboth, order, Text.filter_mergeSort] at hkept
    have hsent := (pairwise_parts h).sublist (hkept.trans List.filter_sublist)
    exact List.rel_of_pairwise_cons hsent List.mem_cons_self hkey
  refine hsorted.imp₂ (fun a b hle htext => ?_) htie
  by_cases hkey : a.key = b.key
  · exact .inr ⟨hkey, htext hkey⟩
  · exact .inl (Text.lt_of_not_lt ((Text.inKeyOrder_iff Part.key).mp hle) (Ne.symm hkey))

/-! ## Orders of sending -/

/-- Another order of sending the same object. -/
structure Reordered (found other : SearchEntry) : Prop where
  dn : other.dn = found.dn
  texts : other.texts.Perm found.texts
  binaries : other.binaries.Perm found.binaries

theorem Reordered.distinctNames (hother : found.Reordered other) (h : found.DistinctNames) :
    other.DistinctNames :=
  ⟨(hother.texts.map _).nodup_iff.mpr h.texts, (hother.binaries.map _).nodup_iff.mpr h.binaries⟩

theorem Reordered.parts_perm (hother : found.Reordered other) : other.parts.Perm found.parts :=
  (hother.texts.map _).append (hother.binaries.map _)

/-- **One order for all orders of sending.** -/
theorem order_eq (h : found.DistinctNames) (hother : found.Reordered other) :
    other.order = found.order := by
  have hperm : other.order.Perm found.order :=
    other.order_perm.trans (hother.parts_perm.trans found.order_perm.symm)
  refine hperm.eq_of_pairwise ?_ (pairwise_order (hother.distinctNames h)) (pairwise_order h)
  exact fun a b _ _ hab hba => absurd hba hab.asymm

/-- **What an entry shows of an object.** Where no two attributes of a kind have one name but for
    letter case, the entry does not depend on the order of sending. It has the name of the object,
    and its attributes show the parts of the object, each of them once, by their names in lower
    case, text before binary. -/
theorem toEntry_reflects (h : found.DistinctNames) :
    (∀ other, found.Reordered other → other.toEntry = found.toEntry) ∧
      found.toEntry.dn = found.dn ∧
      ∃ parts : List Part, parts.Perm found.parts ∧ parts.Pairwise Part.Before ∧
        List.Forall₂ Part.ShownAs parts found.toEntry.attributes := by
  refine ⟨fun other hother => ?_, rfl, found.order, found.order_perm, pairwise_order h, ?_⟩
  · rw [toEntry_eq, toEntry_eq, order_eq h hother, hother.dn]
  · rw [toEntry_eq]
    exact List.forall₂_map_right_iff.mpr
      (List.forall₂_same.mpr fun part _ => part.shownAs_toAttribute)

/-- A photo as text and as bytes, under names that differ in letter case only. Sent with the mail
    behind it, it comes to the entry that is in order as it is sent. -/
theorem toEntry_reflects_photo :
    let found : SearchEntry := ⟨"uid=jdoe", [⟨"mail", ["jdoe@example.com"]⟩, ⟨"Photo", ["below"]⟩],
      [("photo", [[0xff, 0xd8, 0xff], []])]⟩
    let other : SearchEntry := { found with texts := found.texts.reverse }
    found.DistinctNames ∧ found.Reordered other ∧ other.toEntry = ⟨"uid=jdoe",
      [⟨"mail", ["jdoe@example.com"]⟩, ⟨"Photo", ["below"]⟩, ⟨"photo", ["/9j/", []]⟩]⟩ := by
  intro found other
  have hnames : found.DistinctNames := ⟨by decide, by decide⟩
  have hother : found.Reordered other := ⟨rfl, List.reverse_perm found.texts, .refl _⟩
  refine ⟨hnames, hother, ?_⟩
  rw [(toEntry_reflects hnames).1 other hother, toEntry, List.mergeSort_of_pairwise (by decide)]
  decide

end DirectoryRecords.SearchEntry
