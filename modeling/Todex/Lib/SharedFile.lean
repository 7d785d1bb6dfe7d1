import Mathlib

/-!
# A file that several processes replace

A file is replaced as a whole, and the stamp of a version tells it apart from every other version.
The versions of the file so far are kept; the stamp of a version is the number of versions up to it.
-/

/-- The versions of a file, newest first. -/
structure SharedFile (α : Type) where
  versions : List α

namespace SharedFile

variable {α : Type} (file : SharedFile α)

/-- The current content, if the file exists. -/
def content : Option α := file.versions.head?

/-- The stamp of the current version; zero if there is no file. -/
def stamp : Nat := file.versions.length

/-- Atomically replace the file. -/
def replace (a : α) : SharedFile α := { versions := a :: file.versions }

@[simp] lemma content_replace (a : α) : (file.replace a).content = some a := rfl

@[simp] lemma stamp_replace (a : α) : (file.replace a).stamp = file.stamp + 1 := rfl

lemma content_eq_none : file.content = none ↔ file.stamp = 0 := by
  rw [content, stamp, List.head?_eq_none_iff, List.length_eq_zero_iff]

/-- The file had this content at some moment since its version `n` was the current one. -/
def CurrentSince (n : Nat) (a : α) : Prop :=
  ∃ newer older, file.versions = newer ++ a :: older ∧ n ≤ older.length + 1

variable {file}

lemma CurrentSince.replace (h : file.CurrentSince n a) (b : α) : (file.replace b).CurrentSince n a := by
  obtain ⟨newer, older, hv, hn⟩ := h
  exact ⟨b :: newer, older, congrArg (b :: ·) hv, hn⟩

lemma CurrentSince.mem (h : file.CurrentSince n a) : a ∈ file.versions := by
  obtain ⟨newer, older, hv, -⟩ := h
  rw [hv]
  exact List.mem_append_right _ List.mem_cons_self

lemma currentSince_content (h : file.content = some a) (hn : n ≤ file.stamp) : file.CurrentSince n a := by
  obtain ⟨older, hv⟩ := List.head?_eq_some_iff.mp h
  refine ⟨[], older, hv, ?_⟩
  rw [stamp, hv] at hn
  exact hn

end SharedFile
