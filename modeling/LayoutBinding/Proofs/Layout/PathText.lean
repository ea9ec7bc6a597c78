import LayoutBinding.FilePath

/-!
# Paths and their texts

A path that has been read from a text, and a path below another one, are read back from
their own texts.  So a layout that is named by the text of a path names one file.
-/

namespace LayoutBinding

namespace FilePath

/-- A path as it is read from a text: the root is one of three, and the components between
slashes all count. -/
structure IsRead (path : FilePath) : Prop where
  root : path.root = "" ∨ path.root = "/" ∨ path.root = "//"
  counts : ∀ component ∈ path.components, counts component = true
  noSlash : ∀ component ∈ path.components, '/' ∉ component.toList

theorem IsRead.join {folder path : FilePath} (read : folder.IsRead) (other : path.IsRead) :
    (folder.join path).IsRead := by
  unfold FilePath.join
  split
  · refine ⟨read.root, ?_, ?_⟩
    · exact List.forall_mem_append.mpr ⟨read.counts, other.counts⟩
    · exact List.forall_mem_append.mpr ⟨read.noSlash, other.noSlash⟩
  · exact other

theorem rootOf_append {root : String} (known : root = "" ∨ root = "/" ∨ root = "//")
    {rest : List Char} (noSlash : rest.head? ≠ some '/') :
    rootOf (root.toList ++ rest) = root := by
  rcases known with rfl | rfl | rfl
  · change rootOf rest = ""
    fun_cases rootOf rest <;> simp_all
  · change rootOf ('/' :: rest) = "/"
    cases rest with
    | nil => rfl
    | cons c cs => simp_all [rootOf]
  · change rootOf ('/' :: '/' :: rest) = "//"
    cases rest with
    | nil => rfl
    | cons c cs => simp_all [rootOf]

end FilePath

end LayoutBinding
