import Mathlib.Data.List.Basic

/-!
# Loading Overlays

`PUGIFLoading.show` and `hide`. A `PUGIFLoading` object is known by a number and remembers at
most one overlay, so an overlay is a pair of the object that put it up and the window it was
put on.
-/

namespace ThorChat.SupportFrameWorks

/-- The view a `PUGIFLoading` object has put on a window, its `recentOverlay`. -/
structure Overlay where
  bar : Nat
  window : Nat
  deriving DecidableEq, Repr

/-- The windows of the app, as far as overlays go. -/
@[ext] structure Windows where
  /-- `UIWindow.key`. -/
  keyWindow : Option Nat
  overlays : List Overlay
  deriving DecidableEq, Repr

namespace Windows

variable {w : Windows} {bar : Nat} {o : Overlay}

/-- `hide`. -/
def hide (bar : Nat) (w : Windows) : Windows :=
  { w with overlays := w.overlays.filter fun o => o.bar ≠ bar }

/-- `show`: puts nothing up when there is no key window. -/
def «show» (bar : Nat) (w : Windows) : Windows :=
  let w := w.hide bar
  match w.keyWindow with
  | some window => { w with overlays := ⟨bar, window⟩ :: w.overlays }
  | none => w

/-- `makeKeyAndVisible` of another window. -/
def makeKey (window : Nat) (w : Windows) : Windows :=
  { w with keyWindow := some window }

/-- The overlays on the key window. -/
def onKeyWindow (w : Windows) : List Overlay :=
  w.overlays.filter fun o => some o.window = w.keyWindow

/-- An overlay lies on the key window and takes every touch. -/
def covered (w : Windows) : Bool :=
  !w.onKeyWindow.isEmpty

@[simp] theorem hide_keyWindow : (w.hide bar).keyWindow = w.keyWindow := rfl

@[simp] theorem makeKey_overlays {window : Nat} : (w.makeKey window).overlays = w.overlays := rfl

@[simp] theorem makeKey_keyWindow {window : Nat} :
    (w.makeKey window).keyWindow = some window := rfl

@[simp] theorem show_keyWindow : (w.show bar).keyWindow = w.keyWindow := by
  simp only [Windows.show]
  split <;> rfl

theorem mem_hide : o ∈ (w.hide bar).overlays ↔ o ∈ w.overlays ∧ o.bar ≠ bar := by
  simp [hide]

/-- Hiding twice is hiding once. -/
@[simp] theorem hide_hide : (w.hide bar).hide bar = w.hide bar := by
  simp only [hide, List.filter_filter, Bool.and_self]

theorem show_overlays {window : Nat} (h : w.keyWindow = some window) :
    (w.show bar).overlays = ⟨bar, window⟩ :: (w.hide bar).overlays := by
  simp only [Windows.show, hide_keyWindow, h]

theorem mem_show {window : Nat} (h : w.keyWindow = some window) :
    o ∈ (w.show bar).overlays ↔ o = ⟨bar, window⟩ ∨ (o ∈ w.overlays ∧ o.bar ≠ bar) := by
  rw [show_overlays h, List.mem_cons, mem_hide]

theorem mem_onKeyWindow : o ∈ w.onKeyWindow ↔ o ∈ w.overlays ∧ some o.window = w.keyWindow := by
  simp [onKeyWindow]

theorem covered_of_mem (h : o ∈ w.overlays) (hw : some o.window = w.keyWindow) :
    w.covered = true := by
  have ho : o ∈ w.onKeyWindow := mem_onKeyWindow.mpr ⟨h, hw⟩
  simp only [covered, Bool.not_eq_true', List.isEmpty_eq_false_iff]
  exact List.ne_nil_of_mem ho

end Windows

end ThorChat.SupportFrameWorks
