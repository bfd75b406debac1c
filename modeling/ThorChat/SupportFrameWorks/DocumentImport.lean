import Mathlib.Data.List.Nodup
import ThorChat.SupportFrameWorks.ImagePicker

/-!
# What a Pick Leaves Behind

The import of a list of distinct documents, no call of the file manager throwing. The path a
document goes to depends on its last path component only, so what is found there in the end is
decided by the last document imported under that path (`documentPicker_files`).

The result: documents get lost or mixed up exactly where two of them share a last path component,
or one lies in the temporary directory already, but for one coincidence (`Separate`).
-/

namespace ThorChat.SupportFrameWorks

open ThorChat.Library
open ThorChat.Runtime

namespace ImagePickerManager

variable {tmp : List String} {url path : URL} {urls : List URL} {manager : ImagePickerManager}

/-- No call of the file manager throws for a reason of its own. -/
def noFaults : URL → Faults := fun _ => {}

theorem documentPicker_cons (url : URL) (urls : List URL) (manager : ImagePickerManager) :
    documentPicker tmp noFaults manager (url :: urls) =
      documentPicker tmp noFaults (importDocument tmp {} url manager).1 urls := rfl

/-! ## One import -/

/-- A document in the temporary directory is removed; another one replaces what is at its
target. -/
theorem importDocument_files (h : ¬ InPlace tmp url → manager.files.fileExists url = true)
    (path : URL) : (importDocument tmp {} url manager).1.files path =
      if path = tempURL tmp url then if InPlace tmp url then none else manager.files url
      else if path = url then none
      else manager.files path := by
  by_cases hplace : InPlace tmp url
  · have hself : tempURL tmp url = url := tempURL_eq_self.mpr hplace
    by_cases hpath : path = url <;>
      simp [importDocument_eq, MoveFails, hplace, madeRoom, hself, hpath]
  · simp [importDocument_eq, MoveFails, hplace, h hplace, moved, Function.update_apply]

/-- Exactly the documents from elsewhere are reported. -/
theorem importDocument_calls (h : ¬ InPlace tmp url → manager.files.fileExists url = true) :
    (importDocument tmp {} url manager).1.calls =
      manager.calls ++ if InPlace tmp url then [] else [callFor tmp url] := by
  by_cases hplace : InPlace tmp url
  · simp [importDocument_eq, MoveFails, hplace]
  · simp [importDocument_eq, MoveFails, hplace, h hplace]

/-- An import leaves the other documents from elsewhere alone. -/
theorem importDocument_elsewhere (h : ¬ InPlace tmp url → manager.files.fileExists url = true)
    (hpath : ¬ InPlace tmp path) (hne : path ≠ url) :
    (importDocument tmp {} url manager).1.files path = manager.files path := by
  have htarget : path ≠ tempURL tmp url := by
    rintro rfl
    exact hpath inPlace_tempURL
  rw [importDocument_files h, if_neg htarget, if_neg hne]

/-! ## The whole pick -/

/-- The last of the documents that are imported under a path. -/
def lastImport (tmp : List String) (urls : List URL) (path : URL) : Option URL :=
  (urls.filter fun url => tempURL tmp url = path).getLast?

theorem lastImport_cons (url : URL) (urls : List URL) (path : URL) :
    lastImport tmp (url :: urls) path =
      if tempURL tmp url = path then some ((lastImport tmp urls path).getD url)
      else lastImport tmp urls path := by
  unfold lastImport
  split
  · rename_i h
    rw [List.filter_cons_of_pos (by simpa using h), List.getLast?_cons]
  · rename_i h
    rw [List.filter_cons_of_neg (by simpa using h)]

theorem mem_of_lastImport (h : lastImport tmp urls path = some url) :
    url ∈ urls ∧ tempURL tmp url = path := by
  simpa using List.mem_of_getLast? h

theorem exists_lastImport (tmp : List String) (h : url ∈ urls) :
    ∃ last, lastImport tmp urls (tempURL tmp url) = some last := by
  have hmem : url ∈ urls.filter fun u => tempURL tmp u = tempURL tmp url := by simpa using h
  exact Option.isSome_iff_exists.mp (by
    rw [lastImport, List.getLast?_isSome]
    exact List.ne_nil_of_mem hmem)

/-- What is at a path after the pick: the last document imported there, unless that one was in
place; and no picked document is left where it was otherwise. -/
def leaves (tmp : List String) (urls : List URL) (files : FileSystem URL Data) :
    FileSystem URL Data := fun path =>
  match lastImport tmp urls path with
  | some url => if InPlace tmp url then none else files url
  | none => if path ∈ urls then none else files path

theorem documentPicker_files (hnodup : urls.Nodup)
    (hexist : ∀ url ∈ urls, ¬ InPlace tmp url → manager.files.fileExists url = true) :
    (documentPicker tmp noFaults manager urls).files = leaves tmp urls manager.files := by
  induction urls generalizing manager with
  | nil =>
    funext path
    simp [documentPicker, leaves, lastImport]
  | cons url urls ih =>
    obtain ⟨hnotin, hnodup'⟩ := List.nodup_cons.mp hnodup
    have hurl := hexist url List.mem_cons_self
    -- The documents still to come are where they were, so the induction hypothesis applies
    have hkept : ∀ v ∈ urls, ¬ InPlace tmp v →
        (importDocument tmp {} url manager).1.files v = manager.files v := by
      intro v hv hplace
      apply importDocument_elsewhere hurl hplace
      rintro rfl
      exact hnotin hv
    rw [documentPicker_cons, ih hnodup' fun v hv hplace => by
      rw [FileSystem.fileExists, hkept v hv hplace]
      exact hexist v (List.mem_cons_of_mem _ hv) hplace]
    funext path
    simp only [leaves, lastImport_cons]
    cases hlast : lastImport tmp urls path with
    | some last =>
      -- A later import decides
      obtain ⟨hmem, -⟩ := mem_of_lastImport hlast
      have hsame : (if tempURL tmp url = path then some (some last |>.getD url)
          else some last) = some last := by
        split <;> rfl
      simp only [hsame]
      split
      · rfl
      · rename_i hplace
        exact hkept last hmem hplace
    | none =>
      rw [importDocument_files hurl]
      by_cases htarget : tempURL tmp url = path
      · -- This import decides: a document at the target would be imported there itself
        have hin : path ∉ urls := by
          intro hin
          have hself : tempURL tmp path = path := by
            rw [tempURL_eq_self, ← htarget]
            exact inPlace_tempURL
          obtain ⟨last, hl⟩ := exists_lastImport tmp hin
          rw [hself, hlast] at hl
          exact absurd hl (by simp)
        simp [htarget, hin]
      · have hne : ¬ (path = tempURL tmp url) := fun h => htarget h.symm
        simp only [htarget, if_false, hne, List.mem_cons]
        by_cases hpath : path = url
        · simp [hpath, hnotin]
        · simp [hpath]

theorem documentPicker_calls (hnodup : urls.Nodup)
    (hexist : ∀ url ∈ urls, ¬ InPlace tmp url → manager.files.fileExists url = true) :
    (documentPicker tmp noFaults manager urls).calls =
      manager.calls ++ (urls.filter fun url => ¬ InPlace tmp url).map (callFor tmp) := by
  induction urls generalizing manager with
  | nil => simp [documentPicker]
  | cons url urls ih =>
    obtain ⟨hnotin, hnodup'⟩ := List.nodup_cons.mp hnodup
    have hurl := hexist url List.mem_cons_self
    rw [documentPicker_cons, ih hnodup' fun v hv hplace => by
      rw [FileSystem.fileExists, importDocument_elsewhere hurl hplace
        (fun h => hnotin (h ▸ hv))]
      exact hexist v (List.mem_cons_of_mem _ hv) hplace, importDocument_calls hurl]
    by_cases hplace : InPlace tmp url <;> simp [hplace]

/-! ## Lost and mixed up -/

theorem tempURL_eq_tempURL {u v : URL} :
    tempURL tmp u = tempURL tmp v ↔ u.lastPathComponent = v.lastPathComponent := by
  simp [tempURL]

/-- Any other document imported under a path comes before the last one. -/
theorem sublist_of_lastImport {last : URL} (hlast : lastImport tmp urls path = some last)
    (hurl : url ∈ urls) (htarget : tempURL tmp url = path) (hne : url ≠ last) :
    [url, last].Sublist urls := by
  obtain ⟨before, hbefore⟩ := List.getLast?_eq_some_iff.mp hlast
  have hmem : url ∈ urls.filter fun u => tempURL tmp u = path := by simp [hurl, htarget]
  rw [hbefore, List.mem_append, List.mem_singleton] at hmem
  have hsub : [url, last].Sublist (before ++ [last]) :=
    List.Sublist.append (List.singleton_sublist.mpr (hmem.resolve_right hne)) (List.Sublist.refl _)
  exact (hbefore ▸ hsub).trans List.filter_sublist

/-- Nothing that is imported under the path comes after the last one. -/
theorem not_sublist_of_lastImport {last : URL} (hnodup : urls.Nodup)
    (hlast : lastImport tmp urls path = some last) (htarget : tempURL tmp url = path) :
    ¬ [last, url].Sublist urls := by
  intro hsub
  obtain ⟨before, hbefore⟩ := List.getLast?_eq_some_iff.mp hlast
  have hfilter := hsub.filter fun u => tempURL tmp u = path
  have hnodup' := hnodup.filter fun u => tempURL tmp u = path
  simp only [List.filter_cons, (mem_of_lastImport hlast).2, htarget, decide_true, if_true,
    List.filter_nil, hbefore] at hfilter hnodup'
  have hnotin : last ∉ before := fun h => (List.disjoint_of_nodup_append hnodup') h (by simp)
  -- Read backwards, the last one would have to come again
  have hreverse := hfilter.reverse
  simp only [List.reverse_cons, List.reverse_nil, List.nil_append, List.cons_append,
    List.reverse_append, List.cons_sublist_cons'] at hreverse
  rcases hreverse with h | ⟨-, h⟩
  · exact hnotin (List.mem_reverse.mp (h.subset (by simp)))
  · exact hnotin (List.mem_reverse.mp (h.subset (by simp)))

/-- What the user may expect of a pick: what was handed out is there, nothing is handed out twice,
and a document that was not handed out is where it was. -/
structure PicksKept (tmp : List String) (urls : List URL) (files : FileSystem URL Data)
    (after : ImagePickerManager) : Prop where
  holds : ∀ call ∈ after.calls, ∀ temp, call.url = some temp →
    after.files temp = files call.picked
  distinct : (after.calls.map (·.url)).Nodup
  accounted : ∀ url ∈ urls, (∃ call ∈ after.calls, call.picked = url) ∨
    after.files url = files url

/-- Documents from elsewhere have different last path components, and a document in the temporary
directory is followed by one from elsewhere with its name and its content, which takes its
place. -/
structure Separate (tmp : List String) (urls : List URL) (files : FileSystem URL Data) :
    Prop where
  names : ((urls.filter fun url => ¬ InPlace tmp url).map (·.lastPathComponent)).Nodup
  replaced : ∀ u ∈ urls, InPlace tmp u → ∃ v, [u, v].Sublist urls ∧ ¬ InPlace tmp v ∧
    v.lastPathComponent = u.lastPathComponent ∧ files v = files u

/-- Documents from elsewhere are known by their names. -/
theorem Separate.eq_of_name {files : FileSystem URL Data} (h : Separate tmp urls files)
    {u v : URL} (hu : u ∈ urls) (hu' : ¬ InPlace tmp u) (hv : v ∈ urls) (hv' : ¬ InPlace tmp v)
    (hname : u.lastPathComponent = v.lastPathComponent) : u = v :=
  List.inj_on_of_nodup_map h.names (by simp [hu, hu']) (by simp [hv, hv']) hname

/-- The last document under a path came from elsewhere: one in place would be followed by
another. -/
theorem Separate.lastImport_elsewhere {files : FileSystem URL Data} (hnodup : urls.Nodup)
    (h : Separate tmp urls files) {last : URL} (hlast : lastImport tmp urls path = some last) :
    ¬ InPlace tmp last := by
  intro hplace
  obtain ⟨hmem, htarget⟩ := mem_of_lastImport hlast
  obtain ⟨v, hsub, -, hname, -⟩ := h.replaced last hmem hplace
  exact not_sublist_of_lastImport hnodup hlast
    ((tempURL_eq_tempURL.mpr hname).trans htarget) hsub

section Pick

variable {files : FileSystem URL Data}

/-- The state after the pick of existing documents. -/
theorem documentPicker_eq (hnodup : urls.Nodup)
    (hexist : ∀ url ∈ urls, files.fileExists url = true) :
    documentPicker tmp noFaults ⟨files, []⟩ urls =
      { files := leaves tmp urls files
        calls := (urls.filter fun url => ¬ InPlace tmp url).map (callFor tmp) } :=
  ImagePickerManager.ext (documentPicker_files hnodup fun url hurl _ => hexist url hurl)
    (by rw [documentPicker_calls hnodup fun url hurl _ => hexist url hurl, List.nil_append])

theorem separate_of_picksKept (hnodup : urls.Nodup)
    (hexist : ∀ url ∈ urls, files.fileExists url = true)
    (h : PicksKept tmp urls files (documentPicker tmp noFaults ⟨files, []⟩ urls)) :
    Separate tmp urls files := by
  rw [documentPicker_eq hnodup hexist] at h
  apply Separate.mk
  case names =>
    have hdistinct := h.distinct
    rw [List.map_map, List.Nodup, List.pairwise_map] at hdistinct
    rw [List.Nodup, List.pairwise_map]
    -- Documents of one name were handed out under one URL
    refine hdistinct.imp fun {u v} hne hname => hne ?_
    exact congrArg some (tempURL_eq_tempURL.mpr hname)
  case replaced =>
    intro u hu hplace
    have hself : tempURL tmp u = u := tempURL_eq_self.mpr hplace
    rcases h.accounted u hu with ⟨call, hcall, hpicked⟩ | hkept
    · -- It was not reported
      obtain ⟨v, hv, rfl⟩ := List.mem_map.mp hcall
      have hvu : v = u := hpicked
      simp only [hvu, List.mem_filter, hplace, not_true, decide_false, Bool.false_eq_true,
        and_false] at hv
    · obtain ⟨last, hlast⟩ := exists_lastImport tmp hu
      rw [hself] at hlast
      obtain ⟨hmem, htarget⟩ := mem_of_lastImport hlast
      simp only [leaves, hlast] at hkept
      -- Its content is kept, so the last document imported under its name has that content
      by_cases hlastplace : InPlace tmp last
      · have hsome := hexist u hu
        rw [if_pos hlastplace] at hkept
        simp [FileSystem.fileExists, ← hkept] at hsome
      · have hne : u ≠ last := fun h => hlastplace (h ▸ hplace)
        rw [if_neg hlastplace] at hkept
        exact ⟨last, sublist_of_lastImport hlast hu hself hne, hlastplace,
          tempURL_eq_tempURL.mp (htarget.trans hself.symm), hkept⟩

/-- What ends up under the name of a picked document is one from elsewhere. -/
theorem Separate.leaves_tempURL (hnodup : urls.Nodup) (h : Separate tmp urls files)
    (hurl : url ∈ urls) : ∃ last ∈ urls, ¬ InPlace tmp last ∧
      last.lastPathComponent = url.lastPathComponent ∧
      leaves tmp urls files (tempURL tmp url) = files last := by
  obtain ⟨last, hlast⟩ := exists_lastImport tmp hurl
  obtain ⟨hmem, htarget⟩ := mem_of_lastImport hlast
  have hplace := h.lastImport_elsewhere hnodup hlast
  exact ⟨last, hmem, hplace, tempURL_eq_tempURL.mp htarget, by simp [leaves, hlast, hplace]⟩

theorem picksKept_of_separate (hnodup : urls.Nodup)
    (hexist : ∀ url ∈ urls, files.fileExists url = true) (h : Separate tmp urls files) :
    PicksKept tmp urls files (documentPicker tmp noFaults ⟨files, []⟩ urls) := by
  rw [documentPicker_eq hnodup hexist]
  apply PicksKept.mk
  case holds =>
    intro call hcall temp htemp
    obtain ⟨u, hu, rfl⟩ := List.mem_map.mp hcall
    obtain ⟨hu, hplace⟩ : u ∈ urls ∧ ¬ InPlace tmp u := by simpa using hu
    obtain ⟨last, hmem, hlastplace, hname, hleaves⟩ := h.leaves_tempURL hnodup hu
    -- The last document of that name is the one that was handed out
    obtain rfl : last = u := h.eq_of_name hmem hlastplace hu hplace hname
    obtain rfl : tempURL tmp last = temp := Option.some.inj htemp
    exact hleaves
  case distinct =>
    have hnames := h.names
    rw [List.Nodup, List.pairwise_map] at hnames
    rw [List.map_map, List.Nodup, List.pairwise_map]
    refine hnames.imp fun {u v} hne heq => hne ?_
    exact tempURL_eq_tempURL.mp (Option.some.inj heq)
  case accounted =>
    intro u hu
    by_cases hplace : InPlace tmp u
    · -- Its replacement has the same content
      obtain ⟨last, hmem, hlastplace, hname, hleaves⟩ := h.leaves_tempURL hnodup hu
      obtain ⟨v, hsub, hvplace, hvname, hcontent⟩ := h.replaced u hu hplace
      have hv : v ∈ urls := hsub.subset (by simp)
      obtain rfl : last = v := h.eq_of_name hmem hlastplace hv hvplace (hname.trans hvname.symm)
      rw [tempURL_eq_self.mpr hplace] at hleaves
      exact Or.inr (hleaves.trans hcontent)
    · exact Or.inl ⟨callFor tmp u, List.mem_map_of_mem (by simp [hu, hplace]), rfl⟩

end Pick

/-- The files of a pick: each document has its number as its content. -/
def pickedFiles (urls : List URL) : FileSystem URL Data := fun url =>
  (urls.idxOf? url).map fun i => [UInt8.ofNat i]

/-- Two documents of different names. -/
def twoNames : List URL := [⟨["Inbox"], "a.pdf"⟩, ⟨["Inbox"], "b.pdf"⟩]

/-- Two documents of one name. -/
def oneName : List URL := [⟨["Inbox"], "a.pdf"⟩, ⟨["Inbox", "2"], "a.pdf"⟩]

end ImagePickerManager

end ThorChat.SupportFrameWorks
