/-!
# Resource keys

The work queue names a resource by one text: `namespace/name`, or the name
alone for a resource without a namespace.  A key holds at most one separator
and its name is not empty; reading refuses every other text.
-/

namespace GaleraControl

/-- The namespace and the name of a resource; an empty namespace means none. -/
structure ResourceKey where
  /-- The namespace, empty for a resource without one. -/
  namespaceName : String
  name : String
deriving DecidableEq, Repr, Inhabited

namespace ResourceKey

/-- The text of a key: the name alone when there is no namespace. -/
def text (key : ResourceKey) : String :=
  if key.namespaceName = "" then key.name else key.namespaceName ++ "/" ++ key.name

/-- The text of a key with the separator always written. -/
def path (key : ResourceKey) : String :=
  key.namespaceName ++ "/" ++ key.name

/-- The key that a text names, unless its name is empty or it has two separators. -/
def parse? (text : String) : Option ResourceKey :=
  let first := text.toList.takeWhile (· ≠ '/')
  match text.toList.dropWhile (· ≠ '/') with
  | [] => if first = [] then none else some ⟨"", text⟩
  | _ :: rest =>
      if rest = [] ∨ '/' ∈ rest then none
      else some ⟨String.ofList first, String.ofList rest⟩

/-- Keys are ordered by their namespaces, and within a namespace by their names. -/
instance : LT ResourceKey where
  lt first second :=
    first.namespaceName < second.namespaceName ∨
      (first.namespaceName = second.namespaceName ∧ first.name < second.name)

instance : DecidableLT ResourceKey := fun first second =>
  inferInstanceAs (Decidable (first.namespaceName < second.namespaceName ∨
    (first.namespaceName = second.namespaceName ∧ first.name < second.name)))

@[simp]
theorem text_of_empty_namespace (name : String) : text ⟨"", name⟩ = name := rfl

theorem text_of_namespace {namespaceName : String} (present : namespaceName ≠ "")
    (name : String) : text ⟨namespaceName, name⟩ = namespaceName ++ "/" ++ name := by
  simp [text, present]

end ResourceKey

end GaleraControl
