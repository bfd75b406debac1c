import Mathlib.Logic.Function.Basic

/-!
# File Systems as Maps

A file system is a map from paths to contents. Removing deletes an entry; moving fails if the
source is missing or the destination exists, and otherwise moves the content. Either may throw for
reasons of its own, which the flag `throws` stands for; what throws changes nothing.
-/

namespace ThorChat.Library

/-- A map from paths to contents. -/
abbrev FileSystem (Path Content : Type) := Path → Option Content

namespace FileSystem

variable {Path Content : Type} [DecidableEq Path] {files files' : FileSystem Path Content}
  {throws : Bool} {source target path : Path}

/-- There is something at the path. -/
def fileExists (files : FileSystem Path Content) (path : Path) : Bool := (files path).isSome

/-- Remove what is at the path. -/
def removeItem (throws : Bool) (path : Path) (files : FileSystem Path Content) :
    Option (FileSystem Path Content) :=
  if throws || !files.fileExists path then none else some (Function.update files path none)

/-- Move what is at the source to the target. -/
def moveItem (throws : Bool) (source target : Path) (files : FileSystem Path Content) :
    Option (FileSystem Path Content) :=
  if throws || !files.fileExists source || files.fileExists target then none
  else some (Function.update (Function.update files source none) target (files source))

theorem moveItem_eq_some :
    files.moveItem throws source target = some files' ↔
      throws = false ∧ files.fileExists source = true ∧ files.fileExists target = false ∧
        files' = Function.update (Function.update files source none) target (files source) := by
  unfold moveItem
  cases throws with
  | true => simp
  | false =>
    cases files.fileExists source with
    | false => simp
    | true => cases files.fileExists target <;> simp [eq_comm]

/-- After making room for it, an item replaces what was at the target. -/
theorem update_move (hne : source ≠ target) (files : FileSystem Path Content) :
    Function.update (Function.update (Function.update files target none) source none) target
        (Function.update files target none source) =
      Function.update (Function.update files source none) target (files source) := by
  rw [Function.update_of_ne hne, Function.update_comm hne.symm, Function.update_idem]

end FileSystem

end ThorChat.Library
