import GaleraControl.ResourceKey
import Mathlib.Data.List.DropRight

/-!
# Keys and the resources that they name

The work queue keeps the passes of one cluster apart by the text of its key, so
keys and clusters have to correspond.  A key is `Plain` when no part of it holds
the separator, and `Legible` when it also has a name.

Every text either has no separator, or it is the `path` of a key whose namespace
has none; `parse?_of_not_mem` and `parse?_path` say how the two are read, and
nothing else is used of the reader.  It accepts the texts of the legible keys,
and beside them only the path of a key without a namespace.
-/

namespace GaleraControl

namespace ResourceKey

/-- A key whose parts do not hold the separator. -/
structure Plain (key : ResourceKey) : Prop where
  namespaceName : '/' ∉ key.namespaceName.toList
  name : '/' ∉ key.name.toList

/-- A plain key that names something. -/
structure Legible (key : ResourceKey) : Prop extends key.Plain where
  named : key.name ≠ ""

/-- The part of a text after its last separator, or the whole text if it has none. -/
def lastPart (text : String) : String :=
  String.ofList (text.toList.rtakeWhile (· ≠ '/'))

/-- Characters among which there is no separator are all of one part. -/
theorem all_of_not_mem {characters : List Char} (plain : '/' ∉ characters) :
    ∀ character ∈ characters, decide (character ≠ '/') = true := by
  intro character member
  simpa using ne_of_mem_of_not_mem member plain

theorem toList_path (key : ResourceKey) :
    key.path.toList = key.namespaceName.toList ++ '/' :: key.name.toList := by
  simp [path]

theorem text_eq_path {key : ResourceKey} (present : key.namespaceName ≠ "") :
    key.text = key.path := text_of_namespace present key.name

theorem lastPart_of_not_mem {text : String} (plain : '/' ∉ text.toList) :
    lastPart text = text := by
  rw [lastPart, List.rtakeWhile_eq_self_iff.mpr (all_of_not_mem plain), String.ofList_toList]

theorem lastPart_path {key : ResourceKey} (plain : '/' ∉ key.name.toList) :
    lastPart key.path = key.name := by
  have kept := all_of_not_mem (List.mem_reverse.not.mpr plain)
  rw [lastPart, toList_path, List.rtakeWhile, List.reverse_append, List.reverse_cons,
    List.append_assoc, List.takeWhile_append_of_pos kept]
  simp

/-! ## What a text is read as -/

/-- A text without a separator is a name. -/
theorem parse?_of_not_mem {text : String} (plain : '/' ∉ text.toList) :
    parse? text = if text = "" then none else some ⟨"", text⟩ := by
  have kept := all_of_not_mem plain
  rw [parse?, List.takeWhile_eq_self_iff.mpr kept, List.dropWhile_eq_nil_iff.mpr kept]
  simp

/-- A path is read at its first separator. -/
theorem parse?_path {key : ResourceKey} (plain : '/' ∉ key.namespaceName.toList) :
    parse? key.path = if key.name = "" ∨ '/' ∈ key.name.toList then none else some key := by
  have kept := all_of_not_mem plain
  rw [parse?, toList_path, List.takeWhile_append_of_pos kept, List.dropWhile_append_of_pos kept]
  simp

/-- A text with a separator is a path, divided at the first one. -/
theorem exists_path {text : String} (separated : '/' ∈ text.toList) :
    ∃ key : ResourceKey, '/' ∉ key.namespaceName.toList ∧ text = key.path := by
  rcases List.eq_append_cons_of_mem separated with ⟨before, after, spelled, first⟩
  refine ⟨⟨String.ofList before, String.ofList after⟩, by simpa using first, ?_⟩
  rw [← String.toList_inj, toList_path, spelled]
  simp

theorem Legible.parse?_path {key : ResourceKey} (legible : key.Legible) :
    parse? key.path = some key := by
  rw [ResourceKey.parse?_path legible.namespaceName, if_neg]
  exact not_or.mpr ⟨legible.named, legible.name⟩

theorem Legible.parse?_text {key : ResourceKey} (legible : key.Legible) :
    parse? key.text = some key := by
  obtain ⟨namespaceName, name⟩ := key
  by_cases absent : namespaceName = ""
  · subst absent
    rw [text_of_empty_namespace, parse?_of_not_mem legible.name, if_neg legible.named]
  · rw [text_eq_path absent]
    exact legible.parse?_path

/-- What is read from a text is legible and has the text for its own, or for its path. -/
theorem legible_of_parse? {text : String} {key : ResourceKey} (read : parse? text = some key) :
    key.Legible ∧ (text = key.text ∨ text = key.path) := by
  by_cases separated : '/' ∈ text.toList
  · rcases exists_path separated with ⟨parts, plain, rfl⟩
    rw [ResourceKey.parse?_path plain] at read
    split at read
    · contradiction
    · next accepted =>
        cases read
        exact ⟨⟨⟨plain, (not_or.mp accepted).2⟩, (not_or.mp accepted).1⟩, .inr rfl⟩
  · rw [parse?_of_not_mem separated] at read
    split at read
    · contradiction
    · next named =>
        cases read
        exact ⟨⟨⟨List.not_mem_nil, separated⟩, named⟩, .inl rfl⟩

/-- A legible key has two texts, which differ only when it has no namespace. -/
theorem parse?_eq_some_iff {text : String} {key : ResourceKey} :
    parse? text = some key ↔ key.Legible ∧ (text = key.text ∨ text = key.path) := by
  constructor
  · exact legible_of_parse?
  · rintro ⟨legible, rfl | rfl⟩
    · exact legible.parse?_text
    · exact legible.parse?_path

theorem parse?_text_eq_some_iff {key : ResourceKey} :
    parse? key.text = some key ↔ key.Legible :=
  parse?_eq_some_iff.trans (and_iff_left (.inl rfl))

/-- A text is accepted if it has at most one separator and a name after it. -/
theorem isSome_parse?_iff {text : String} :
    (parse? text).isSome ↔ text.toList.count '/' ≤ 1 ∧ lastPart text ≠ "" := by
  by_cases separated : '/' ∈ text.toList
  · rcases exists_path separated with ⟨key, plain, rfl⟩
    have counted : key.path.toList.count '/' = key.name.toList.count '/' + 1 := by
      rw [toList_path, List.count_append, List.count_cons_self,
        List.count_eq_zero_of_not_mem plain, Nat.zero_add]
    rw [ResourceKey.parse?_path plain, counted]
    by_cases inner : '/' ∈ key.name.toList
    · have several : ¬ key.name.toList.count '/' + 1 ≤ 1 := by
        have := List.count_pos_iff.mpr inner
        omega
      simp [inner, several]
    · simp [inner, lastPart_path inner, List.count_eq_zero_of_not_mem inner]
  · simp [parse?_of_not_mem separated, lastPart_of_not_mem separated,
      List.count_eq_zero_of_not_mem separated]

/-! ## What joins to a text -/

/-- The text of a legible key does not begin with the separator. -/
theorem Legible.head?_text_ne {key : ResourceKey} (legible : key.Legible) :
    key.text.toList.head? ≠ some '/' := by
  obtain ⟨namespaceName, name⟩ := key
  by_cases absent : namespaceName = ""
  · subst absent
    rw [text_of_empty_namespace]
    exact fun first => legible.name (List.mem_of_head? first)
  · have filled : namespaceName.toList ≠ [] := by simpa using absent
    rw [text_eq_path absent, toList_path, List.head?_append_of_ne_nil _ filled]
    exact fun first => legible.namespaceName (List.mem_of_head? first)

/-- Joining what was read gives the text back, without the separator that it may begin with. -/
theorem eq_joined_of_parse? {text : String} {key : ResourceKey} (read : parse? text = some key) :
    text = if text.toList.head? = some '/' then "/" ++ key.text else key.text := by
  rcases legible_of_parse? read with ⟨legible, rfl | rfl⟩
  · rw [if_neg legible.head?_text_ne]
  · obtain ⟨namespaceName, name⟩ := key
    by_cases absent : namespaceName = ""
    · subst absent
      simp [path]
    · rw [← text_eq_path absent, if_neg legible.head?_text_ne]

/-- The text of a plain key names that key, or nothing at all. -/
theorem Plain.eq_of_parse? {key other : ResourceKey} (plain : key.Plain)
    (read : parse? key.text = some other) : other = key := by
  have named : key.name ≠ "" := by
    intro empty
    obtain ⟨namespaceName, name⟩ := key
    subst empty
    by_cases absent : namespaceName = ""
    · subst absent
      contradiction
    · rw [text_eq_path absent, ResourceKey.parse?_path plain.namespaceName,
        if_pos (.inl rfl)] at read
      contradiction
  have own := Legible.parse?_text ⟨plain, named⟩
  exact Option.some.inj (read.symm.trans own)

/--
A key is read back from its text if and only if it has a name and no part of it
holds a separator.  A text is accepted if and only if it has at most one separator
and something after the last one, and then joining its parts gives the text, apart
from a separator that it begins with.  So different texts of plain keys never name
the same resource, and different legible keys never have the same text.
-/
theorem keys_unambiguous :
    (∀ namespaceName name, parse? (text ⟨namespaceName, name⟩) = some ⟨namespaceName, name⟩ ↔
      name ≠ "" ∧ '/' ∉ namespaceName.toList ∧ '/' ∉ name.toList) ∧
    (∀ text, (parse? text).isSome ↔ text.toList.count '/' ≤ 1 ∧ lastPart text ≠ "") ∧
    (∀ text key, parse? text = some key →
      text = if text.toList.head? = some '/' then "/" ++ key.text else key.text) ∧
    (∀ first second : ResourceKey, first.Plain → second.Plain → first.text ≠ second.text →
      ∀ resource, parse? first.text = some resource → parse? second.text ≠ some resource) ∧
    (∀ first second : ResourceKey, first.Legible → second.Legible → first ≠ second →
      first.text ≠ second.text) := by
  refine ⟨fun namespaceName name => ?_, fun text => isSome_parse?_iff,
    fun text key => eq_joined_of_parse?, ?_, ?_⟩
  · rw [parse?_text_eq_some_iff]
    constructor
    · intro legible
      exact ⟨legible.named, legible.namespaceName, legible.name⟩
    · rintro ⟨named, namespacePlain, namePlain⟩
      exact ⟨⟨namespacePlain, namePlain⟩, named⟩
  · intro first second plain plainToo differ resource read readToo
    have same : first = second :=
      (plain.eq_of_parse? read).symm.trans (plainToo.eq_of_parse? readToo)
    exact differ (congrArg text same)
  · intro first second legible legibleToo differ same
    have read := legible.parse?_text
    rw [same, legibleToo.parse?_text] at read
    exact differ (Option.some.inj read).symm

/-- With and without its namespace, a name stands for two resources. -/
theorem orders_unambiguous :
    let placed : ResourceKey := ⟨"prod", "orders"⟩
    let bare : ResourceKey := ⟨"", "orders"⟩
    placed.Legible ∧ bare.Legible ∧ parse? "prod/orders" = some placed ∧
      parse? "orders" ≠ some placed ∧ parse? "/orders" = some bare ∧
      "/orders" = "/" ++ bare.text := by
  intro placed bare
  rcases keys_unambiguous with ⟨_, _, rejoins, distinct, _⟩
  have placedLegible : placed.Legible := ⟨⟨by decide, by decide⟩, by decide⟩
  have bareLegible : bare.Legible := ⟨⟨by decide, by decide⟩, by decide⟩
  have read : parse? "/orders" = some bare := by decide
  exact ⟨placedLegible, bareLegible, by decide,
    distinct placed bare placedLegible.toPlain bareLegible.toPlain (by decide) placed (by decide),
    read, rejoins _ _ read⟩

end ResourceKey

end GaleraControl
