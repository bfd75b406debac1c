import ThorChat.Library.FileSystem
import ThorChat.Runtime.Foundation

/-!
# The Document Picker

`documentPicker(_:didPickDocumentsAt:)` of `imagepicker.swift`: every picked document is moved to
the temporary directory under its last path component, after whatever is there was removed, and
reported to `pickImageCallback`. The callback is set whenever the picker can be opened.
-/

namespace ThorChat.SupportFrameWorks

open ThorChat.Library
open ThorChat.Runtime

/-- The URL of a file, by its directory and its last path component; two URLs have the same path
only if they are equal. -/
structure URL where
  directory : List String
  lastPathComponent : String
  deriving DecidableEq, Repr

/-- The calls of the file manager that throw for a reason the file system does not show. -/
structure Faults where
  removeItem : Bool := false
  moveItem : Bool := false
  deriving DecidableEq, Repr

/-- A call of `pickImageCallback`. `picked` is the document it reports (a history variable). -/
structure PickImageCall where
  picked : URL
  image : Option String
  data : Option Data
  isDocument : Bool
  url : Option URL
  deriving DecidableEq, Repr

/-- The files, and the calls the callback has received. -/
@[ext] structure ImagePickerManager where
  files : FileSystem URL Data
  calls : List PickImageCall := []

namespace ImagePickerManager

variable {NSTemporaryDirectory : List String} {faults : Faults} {url : URL}
  {manager : ImagePickerManager}

/-- Where a picked document goes. -/
def tempURL (NSTemporaryDirectory : List String) (url : URL) : URL where
  directory := NSTemporaryDirectory
  lastPathComponent := url.lastPathComponent

/-- The call that reports a picked document. -/
def callFor (NSTemporaryDirectory : List String) (url : URL) : PickImageCall where
  picked := url
  image := some "singletickwhite"
  data := none
  isDocument := true
  url := some (tempURL NSTemporaryDirectory url)

/-- The closure that is mapped over the picked URLs. It returns nil from the catch branch. -/
def importDocument (NSTemporaryDirectory : List String) (faults : Faults) (url : URL)
    (manager : ImagePickerManager) : ImagePickerManager × Option URL :=
  let tempURL := tempURL NSTemporaryDirectory url
  let removed :=
    if manager.files.fileExists tempURL then manager.files.removeItem faults.removeItem tempURL
    else some manager.files
  match removed with
  | none => (manager, none)
  | some files =>
    match files.moveItem faults.moveItem url tempURL with
    -- What was removed to make room stays removed
    | none => ({ manager with files := files }, none)
    | some files =>
      ({ files := files, calls := manager.calls ++ [callFor NSTemporaryDirectory url] },
        some tempURL)

/-- `documentPicker(_:didPickDocumentsAt:)`; the mapped URLs are not used. -/
def documentPicker (NSTemporaryDirectory : List String) (faults : URL → Faults)
    (manager : ImagePickerManager) (urls : List URL) : ImagePickerManager :=
  urls.foldl (fun manager url => (importDocument NSTemporaryDirectory (faults url) url manager).1)
    manager

/-! ## What an import does -/

/-- The document lies in the temporary directory already. -/
def InPlace (NSTemporaryDirectory : List String) (url : URL) : Prop :=
  url.directory = NSTemporaryDirectory

instance (NSTemporaryDirectory : List String) (url : URL) :
    Decidable (InPlace NSTemporaryDirectory url) :=
  inferInstanceAs (Decidable (_ = _))

theorem tempURL_eq_self : tempURL NSTemporaryDirectory url = url ↔
    InPlace NSTemporaryDirectory url := by
  obtain ⟨directory, lastPathComponent⟩ := url
  simp [tempURL, InPlace, eq_comm]

theorem inPlace_tempURL : InPlace NSTemporaryDirectory (tempURL NSTemporaryDirectory url) := rfl

/-- The move fails once there is room for the document: it throws, there is no document, or the
document itself was removed to make room. -/
def MoveFails (NSTemporaryDirectory : List String) (faults : Faults) (url : URL)
    (files : FileSystem URL Data) : Prop :=
  faults.moveItem = true ∨ files.fileExists url = false ∨ InPlace NSTemporaryDirectory url

instance (NSTemporaryDirectory : List String) (faults : Faults) (url : URL)
    (files : FileSystem URL Data) :
    Decidable (MoveFails NSTemporaryDirectory faults url files) :=
  inferInstanceAs (Decidable (_ ∨ _ ∨ _))

/-- The files once there is room for the document. -/
def madeRoom (NSTemporaryDirectory : List String) (url : URL) (files : FileSystem URL Data) :
    FileSystem URL Data :=
  Function.update files (tempURL NSTemporaryDirectory url) none

theorem moveItem_madeRoom {files : FileSystem URL Data} :
    (madeRoom NSTemporaryDirectory url files).moveItem faults.moveItem url
        (tempURL NSTemporaryDirectory url) = none ↔
      MoveFails NSTemporaryDirectory faults url files := by
  have hroom : (madeRoom NSTemporaryDirectory url files).fileExists
      (tempURL NSTemporaryDirectory url) = false := by
    simp [madeRoom, FileSystem.fileExists]
  rw [Option.eq_none_iff_forall_ne_some]
  simp only [ne_eq, FileSystem.moveItem_eq_some, hroom, true_and, not_and, MoveFails]
  by_cases hplace : InPlace NSTemporaryDirectory url
  · -- The source is the path that was cleared
    rw [tempURL_eq_self.mpr hplace] at hroom
    simp [hplace, hroom]
  · have hne : url ≠ tempURL NSTemporaryDirectory url :=
      fun h => hplace (tempURL_eq_self.mp h.symm)
    have hexists : (madeRoom NSTemporaryDirectory url files).fileExists url =
        files.fileExists url := by
      simp [madeRoom, FileSystem.fileExists, Function.update_of_ne hne]
    rw [hexists]
    -- Clearing the target left the source alone
    cases faults.moveItem <;> cases files.fileExists url <;> simp [hplace]

theorem madeRoom_eq_self {files : FileSystem URL Data}
    (h : files.fileExists (tempURL NSTemporaryDirectory url) = false) :
    madeRoom NSTemporaryDirectory url files = files := by
  have hnone : files (tempURL NSTemporaryDirectory url) = none := by
    simpa [FileSystem.fileExists] using h
  rw [madeRoom, ← hnone, Function.update_eq_self]

/-- What a successful import leaves in the files. -/
def moved (NSTemporaryDirectory : List String) (url : URL) (files : FileSystem URL Data) :
    FileSystem URL Data :=
  Function.update (Function.update files url none) (tempURL NSTemporaryDirectory url) (files url)

theorem moveItem_madeRoom_of_not {files : FileSystem URL Data}
    (h : ¬ MoveFails NSTemporaryDirectory faults url files) :
    (madeRoom NSTemporaryDirectory url files).moveItem faults.moveItem url
        (tempURL NSTemporaryDirectory url) = some (moved NSTemporaryDirectory url files) := by
  have hne : url ≠ tempURL NSTemporaryDirectory url :=
    fun heq => h (Or.inr (Or.inr (tempURL_eq_self.mp heq.symm)))
  obtain ⟨files', hmove⟩ := Option.ne_none_iff_exists'.mp (mt moveItem_madeRoom.mp h)
  obtain ⟨-, -, -, rfl⟩ := FileSystem.moveItem_eq_some.mp hmove
  rw [hmove, madeRoom, FileSystem.update_move hne, moved]

/-- An import is caught before it changed anything if making room throws, is caught with the room
made if the move fails, and otherwise moves the document and reports it. -/
theorem importDocument_eq :
    importDocument NSTemporaryDirectory faults url manager =
      if manager.files.fileExists (tempURL NSTemporaryDirectory url) = true ∧
          faults.removeItem = true then (manager, none)
      else if MoveFails NSTemporaryDirectory faults url manager.files then
        ({ manager with files := madeRoom NSTemporaryDirectory url manager.files }, none)
      else
        ({ files := moved NSTemporaryDirectory url manager.files
           calls := manager.calls ++ [callFor NSTemporaryDirectory url] },
          some (tempURL NSTemporaryDirectory url)) := by
  -- Where there was nothing to remove, there is room already
  have hremoved : (if manager.files.fileExists (tempURL NSTemporaryDirectory url) then
        manager.files.removeItem faults.removeItem (tempURL NSTemporaryDirectory url)
      else some manager.files) =
      if manager.files.fileExists (tempURL NSTemporaryDirectory url) = true ∧
          faults.removeItem = true then none
      else some (madeRoom NSTemporaryDirectory url manager.files) := by
    cases hexists : manager.files.fileExists (tempURL NSTemporaryDirectory url) with
    | false => simp [madeRoom_eq_self hexists]
    | true => cases faults.removeItem <;> simp [FileSystem.removeItem, hexists, madeRoom]
  simp only [importDocument, hremoved]
  by_cases hthrows : manager.files.fileExists (tempURL NSTemporaryDirectory url) = true ∧
      faults.removeItem = true
  · simp only [if_pos hthrows]
  · simp only [if_neg hthrows]
    by_cases hfails : MoveFails NSTemporaryDirectory faults url manager.files
    · simp only [if_pos hfails, moveItem_madeRoom.mpr hfails]
    · simp only [if_neg hfails, moveItem_madeRoom_of_not hfails]

/-! ## Failed imports -/

/-- **When a failed import leaves the files as they were**: unless there is a file of that name,
removing it succeeds and the move fails. -/
theorem failed_import_keeps_iff (NSTemporaryDirectory : List String) (faults : Faults) (url : URL)
    (manager : ImagePickerManager) :
    ((importDocument NSTemporaryDirectory faults url manager).2 = none →
        (importDocument NSTemporaryDirectory faults url manager).1 = manager) ↔
      ¬ (manager.files.fileExists (tempURL NSTemporaryDirectory url) = true ∧
        faults.removeItem = false ∧ MoveFails NSTemporaryDirectory faults url manager.files) := by
  rw [importDocument_eq]
  cases hexists : manager.files.fileExists (tempURL NSTemporaryDirectory url) with
  | false =>
    -- Nothing is removed, so nothing can be lost
    by_cases hfails : MoveFails NSTemporaryDirectory faults url manager.files
    · simp [hfails, madeRoom_eq_self hexists]
    · simp [hfails]
  | true =>
    cases faults.removeItem with
    | true => simp
    | false =>
      by_cases hfails : MoveFails NSTemporaryDirectory faults url manager.files
      · -- The old file is removed, and the move that should replace it fails
        have hlost : madeRoom NSTemporaryDirectory url manager.files ≠ manager.files := by
          intro heq
          rw [← heq] at hexists
          simp [madeRoom, FileSystem.fileExists] at hexists
        simpa [hfails, ImagePickerManager.ext_iff] using hlost
      · simp [hfails]

/-- Two files: one in the temporary directory, one in another. -/
def sampleFiles : FileSystem URL Data := fun url =>
  if url = ⟨["tmp"], "a.pdf"⟩ then some [1]
  else if url = ⟨["Inbox"], "a.pdf"⟩ then some [2]
  else none

/-- Picking a file in the temporary directory itself removes it, and only prints a message. -/
theorem import_in_place_loses :
    (importDocument ["tmp"] {} ⟨["tmp"], "a.pdf"⟩ ⟨sampleFiles, []⟩).2 = none ∧
    sampleFiles ⟨["tmp"], "a.pdf"⟩ = some [1] ∧
    (importDocument ["tmp"] {} ⟨["tmp"], "a.pdf"⟩ ⟨sampleFiles, []⟩).1.files
      ⟨["tmp"], "a.pdf"⟩ = none := by
  decide

end ImagePickerManager

end ThorChat.SupportFrameWorks
