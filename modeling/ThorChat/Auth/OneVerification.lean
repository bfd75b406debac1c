import ThorChat.Auth.CodeEntry

/-!
# One Verification at a Time

Runs of the one-time-code screen in which events reach it the way the system delivers them:
the keyboard writes to the first responder only, an overlay takes every touch, and a screen
under the profile screen gets neither.

A request is sent from inside the edit that completes the code. What keeps a second one from
being sent is that completing the code in the last field puts the keyboard away.
-/

namespace ThorChat.Auth

open ThorChat.Library
open ThorChat.Library.Utf16
open ThorChat.Runtime
open ThorChat.Sources
open ThorChat.SupportFrameWorks

namespace OTPScreen

variable {P : Platform} {s s' : OTPScreen} {tag : Nat} {range : NSRange} {string : String}

/-! ## Delivered events -/

/-- The system delivers the event to the screen now. -/
def Deliverable (s : OTPScreen) : OTPEvent → Prop
  | .tapResend => s.windows.covered = false ∧ s.profilePushes = 0
  | .tapField _ => s.windows.covered = false ∧ s.profilePushes = 0
  | .edit tag _ _ => s.vc.vpmOtpViewref.firstResponder = some tag ∧ s.profilePushes = 0
  | .deleteBackward tag _ => s.vc.vpmOtpViewref.firstResponder = some tag ∧ s.profilePushes = 0
  | _ => True

instance (s : OTPScreen) : (e : OTPEvent) → Decidable (Deliverable s e)
  | .fire _ => isTrue trivial
  | .tapResend => inferInstanceAs (Decidable (_ ∧ _))
  | .tapField _ => inferInstanceAs (Decidable (_ ∧ _))
  | .edit _ _ _ => inferInstanceAs (Decidable (_ ∧ _))
  | .deleteBackward _ _ => inferInstanceAs (Decidable (_ ∧ _))
  | .verificationAnswered _ _ => isTrue trivial
  | .resendAnswered _ _ => isTrue trivial

/-- A step in which an event that is not delivered changes nothing. -/
def deliveredStep (P : Platform) (s : OTPScreen) (e : OTPEvent) : Option OTPScreen :=
  if Deliverable s e then step P s e else some s

/-- An edit that completes the code is made in the last field, and not by a delete key that
takes part of a longer text away. -/
def LastField (P : Platform) (s : OTPScreen) : OTPEvent → Prop
  | .edit tag range string => s.vc.vpmOtpViewref.Completes P tag range string → tag = 4
  | .deleteBackward tag none => s.vc.vpmOtpViewref.Completes P tag ⟨0, 0⟩ "" → tag = 4
  | .deleteBackward tag (some range) => ¬ s.vc.vpmOtpViewref.Completes P tag range ""
  | _ => True

instance (P : Platform) (s : OTPScreen) : (e : OTPEvent) → Decidable (LastField P s e)
  | .fire _ => isTrue trivial
  | .tapResend => isTrue trivial
  | .tapField _ => isTrue trivial
  | .edit _ _ _ => inferInstanceAs (Decidable (_ → _))
  | .deleteBackward _ none => inferInstanceAs (Decidable (_ → _))
  | .deleteBackward _ (some _) => inferInstanceAs (Decidable (¬ _))
  | .verificationAnswered _ _ => isTrue trivial
  | .resendAnswered _ _ => isTrue trivial

/-! ## The keyboard -/

/-- Completing the code in the last field puts the keyboard away. -/
theorem enterText_last {view view' : VPMOTPView} {otpString : Option String}
    (h : view.Synced) (hfirst : view.firstResponder = some 4)
    (hr : view.enterText P 4 string = some (view', otpString)) :
    view'.firstResponder = none := by
  obtain ⟨view₁, hset, hv⟩ := Option.map_eq_some_iff.mp hr
  have hfields : view₁.fields.length = 4 ∧ view₁.firstResponder = some 4 := by
    unfold VPMOTPView.setEntry at hset
    split at hset
    · rw [Option.some.injEq] at hset
      subst hset
      exact ⟨by simpa using h.length, hfirst⟩
    · exact absurd hset (by simp)
  -- There is no fifth field to hand the keyboard to
  have hnone : view₁.viewWithTag 5 = none := by
    simp [VPMOTPView.viewWithTag, hfields.1]
  simp only [hnone, Option.isSome_none, Bool.false_eq_true, if_false, Prod.mk.injEq] at hv
  rw [← hv.1]
  simp only [VPMOTPView.resignFirstResponder, hfields.2, if_true]

/-! ## The invariant -/

/-- While a verification request is unanswered its overlay takes the touches and no field has
the keyboard. -/
structure OneAtATime (s : OTPScreen) : Prop where
  synced : s.vc.vpmOtpViewref.Synced
  keyWindow : s.windows.keyWindow = some 0
  fresh : ∀ bar, bar ∈ s.verifications ∨ bar ∈ s.resends → bar < s.nextBar
  distinct : ∀ bar ∈ s.verifications, bar ∉ s.resends
  overlay : ∀ bar ∈ s.verifications, ⟨bar, 0⟩ ∈ s.windows.overlays
  le_one : s.verifications.length ≤ 1
  keyboard : s.verifications ≠ [] →
    s.vc.vpmOtpViewref.firstResponder = none ∧ s.profilePushes = 0
  pushes : s.profilePushes ≤ 1

theorem OneAtATime.uncovered (h : OneAtATime s) (hc : s.windows.covered = false) :
    s.verifications = [] := by
  by_contra hne
  obtain ⟨bar, hbar⟩ := List.exists_mem_of_ne_nil _ hne
  have hcovered : s.windows.covered = true :=
    Windows.covered_of_mem (h.overlay bar hbar) h.keyWindow.symm
  rw [hc] at hcovered
  exact absurd hcovered (by decide)

theorem OneAtATime.keyboard_up (h : OneAtATime s)
    (hf : s.vc.vpmOtpViewref.firstResponder = some tag) : s.verifications = [] := by
  by_contra hne
  rw [(h.keyboard hne).1] at hf
  exact absurd hf (by simp)

/-- Nothing is under way, so only the fields, the windows and the numbering matter. -/
theorem OneAtATime.of_idle (hsync : s.vc.vpmOtpViewref.Synced)
    (hkey : s.windows.keyWindow = some 0) (hfresh : ∀ bar ∈ s.resends, bar < s.nextBar)
    (hidle : s.verifications = []) (hpushes : s.profilePushes ≤ 1) : OneAtATime s where
  synced := hsync
  keyWindow := hkey
  fresh := by simpa [hidle] using hfresh
  distinct := by simp [hidle]
  overlay := by simp [hidle]
  le_one := by simp [hidle]
  keyboard := by simp [hidle]
  pushes := hpushes

theorem oneAtATime_load (mobileNumber CustomerID : String) :
    OneAtATime (load mobileNumber CustomerID) :=
  .of_idle (synced_load mobileNumber CustomerID) rfl (by simp [load]) rfl (Nat.zero_le 1)

/-! ## Steps -/

/-- An edit made while nothing is under way, in the last field if it completes the code. -/
theorem OneAtATime.edit (h : OneAtATime s) (hidle : s.verifications = [])
    (hpushes : s.profilePushes = 0)
    (hlast : s.vc.vpmOtpViewref.Completes P tag range string →
      tag = 4 ∧ s.vc.vpmOtpViewref.firstResponder = some tag)
    (he : s.edit P tag range string = some s') : OneAtATime s' := by
  obtain ⟨view, hsync, -, ⟨hc, henter, -, rfl⟩ | ⟨-, rfl⟩⟩ := edit_cases h.synced he
  -- The code is complete: a request is sent, its overlay goes up, the keyboard goes away
  · obtain ⟨rfl, hfirst⟩ := hlast hc
    have hresends : ∀ bar ∈ s.resends, bar < s.nextBar := fun bar hb => h.fresh bar (Or.inr hb)
    apply OneAtATime.mk
    case synced =>
      exact hsync
    case keyWindow =>
      exact (Windows.show_keyWindow).trans h.keyWindow
    case fresh =>
      rintro bar (hb | hb)
      · simp only [OTPScreen.act, hidle, List.mem_singleton] at hb
        exact hb ▸ Nat.lt_succ_self _
      · exact Nat.lt_succ_of_lt (hresends bar hb)
    case distinct =>
      intro bar hb hmem
      simp only [OTPScreen.act, hidle, List.mem_singleton] at hb
      exact Nat.lt_irrefl _ (hresends _ (hb ▸ hmem))
    case overlay =>
      intro bar hb
      simp only [OTPScreen.act, hidle, List.mem_singleton] at hb
      exact (Windows.mem_show h.keyWindow).mpr (Or.inl (by rw [hb]))
    case le_one =>
      simp [OTPScreen.act, hidle]
    case keyboard =>
      exact fun _ => ⟨enterText_last h.synced hfirst henter, hpushes⟩
    case pushes =>
      exact h.pushes
  -- No request is sent
  · exact .of_idle hsync h.keyWindow (fun bar hb => h.fresh bar (Or.inr hb)) hidle h.pushes

theorem OneAtATime.deleteBackward (h : OneAtATime s) {deleted : Option NSRange}
    (hfirst : s.vc.vpmOtpViewref.firstResponder = some tag) (hpushes : s.profilePushes = 0)
    (hlast : LastField P s (.deleteBackward tag deleted))
    (he : s.deleteBackward P tag deleted = some s') : OneAtATime s' := by
  have hidle : s.verifications = [] := h.keyboard_up hfirst
  cases deleted with
  | none => exact h.edit hidle hpushes (fun hc => ⟨hlast hc, hfirst⟩) he
  | some range =>
    obtain ⟨s₁, h₁, h₂⟩ := Option.bind_eq_some_iff.mp he
    have hone : OneAtATime s₁ := h.edit hidle hpushes (fun hc => absurd hc hlast) h₁
    -- The first half leaves the field empty, so the second half is no entry
    have hempty : s₁.vc.vpmOtpViewref.viewWithTag tag = some "" ∧ s₁.verifications = [] ∧
        s₁.profilePushes = 0 := by
      obtain ⟨otpString, htext⟩ := edit_textField h₁
      refine ⟨h.synced.textField_empty htext, ?_⟩
      obtain ⟨view, -, -, ⟨hc, -⟩ | ⟨-, rfl⟩⟩ := edit_cases h.synced h₁
      · exact absurd hc hlast
      · exact ⟨hidle, hpushes⟩
    exact hone.edit hempty.2.1 hempty.2.2
      (fun hc => absurd hc.1 (VPMOTPView.not_entry_empty hempty.1)) h₂

/-- What the answer to a rejected verification does while nothing is under way. -/
theorem OneAtATime.foldl_rejected {bar : Nat} {rest : List Effect} (h : OneAtATime s)
    (hidle : s.verifications = [])
    (hrest : ∀ e ∈ rest, e = .initializeUI ∨ e = .hide ∨ e.isNotice = true) :
    OneAtATime (rest.foldl (perform bar) s) := by
  induction rest generalizing s with
  | nil => exact h
  | cons e rest ih =>
    have hfresh : ∀ bar ∈ s.resends, bar < s.nextBar := fun bar hb => h.fresh bar (Or.inr hb)
    have htail := fun e he => hrest e (List.mem_cons_of_mem _ he)
    rw [List.foldl_cons]
    rcases hrest e (by simp) with rfl | rfl | hnotice
    · exact ih (.of_idle h.synced.initializeUI_again h.keyWindow hfresh hidle h.pushes) hidle htail
    · exact ih (.of_idle h.synced h.keyWindow hfresh hidle h.pushes) hidle htail
    · rw [perform_notice hnotice]
      exact ih h hidle htail

theorem OneAtATime.verificationAnswered {bar : Nat} {answer : Answer} {effects : List Effect}
    (h : OneAtATime s) (hb : bar ∈ s.verifications)
    (hc : sendOtpValidation.completion answer = some effects) :
    OneAtATime (effects.foldl (perform bar)
      { s with verifications := s.verifications.filter (· ≠ bar) }) := by
  -- The answered request was the only one
  have hsettled : s.verifications.filter (· ≠ bar) = [] := by
    simp [eq_singleton_of_mem h.le_one hb]
  have hpushes : s.profilePushes = 0 := (h.keyboard (List.ne_nil_of_mem hb)).2
  have hfresh : ∀ bar ∈ s.resends, bar < s.nextBar := fun bar hb => h.fresh bar (Or.inr hb)
  rcases sendOtpValidation.completion_cases hc with ⟨json, -, rfl⟩ | ⟨-, rest, rfl, hrest⟩
  -- While it waited, the profile screen was not pushed yet
  · have hpushed : s.profilePushes + 1 ≤ 1 := by omega
    exact .of_idle h.synced h.keyWindow hfresh hsettled hpushed
  · rw [List.foldl_cons]
    refine foldl_rejected ?_ hsettled hrest
    exact .of_idle h.synced h.keyWindow hfresh hsettled h.pushes

theorem OneAtATime.resendAnswered {bar : Nat} {answer : Answer} (h : OneAtATime s)
    (hb : bar ∈ s.resends) (hstep : step P s (.resendAnswered bar answer) = some s') :
    OneAtATime s' := by
  have hfresh : ∀ b, b ∈ s.verifications ∨ b ∈ s.resends.filter (· ≠ bar) → b < s.nextBar := by
    rintro b (hv | hr)
    · exact h.fresh b (Or.inl hv)
    · exact h.fresh b (Or.inr (List.mem_of_mem_filter hr))
  have hdistinct : ∀ b ∈ s.verifications, b ∉ s.resends.filter (· ≠ bar) :=
    fun b hv hr => h.distinct b hv (List.mem_of_mem_filter hr)
  -- The overlay of the verification belongs to another `bar` and stays up
  have hoverlay : ∀ b ∈ s.verifications, ⟨b, 0⟩ ∈ (s.windows.hide bar).overlays := by
    intro b hv
    refine Windows.mem_hide.mpr ⟨h.overlay b hv, ?_⟩
    rintro rfl
    exact h.distinct _ hv hb
  obtain ⟨-, rfl⟩ | ⟨-, rfl⟩ := step_resendAnswered hb hstep
  · refine ⟨?_, h.keyWindow, hfresh, hdistinct, hoverlay, h.le_one, ?_, h.pushes⟩
    · rw [OTPVerificationVC.start_vpmOtpViewref]
      exact h.synced
    · rw [OTPVerificationVC.start_vpmOtpViewref]
      exact h.keyboard
  · exact ⟨h.synced, h.keyWindow, hfresh, hdistinct, hoverlay, h.le_one, h.keyboard, h.pushes⟩

theorem oneAtATime_step {e : OTPEvent} (h : OneAtATime s) (hlast : LastField P s e)
    (hstep : deliveredStep P s e = some s') : OneAtATime s' := by
  unfold deliveredStep at hstep
  split at hstep
  -- An event that is not delivered changes nothing
  swap
  · rw [Option.some.injEq] at hstep
    exact hstep ▸ h
  rename_i hd
  cases e with
  | fire timer =>
    simp only [step] at hstep
    split at hstep <;> rw [Option.some.injEq] at hstep <;> subst hstep
    · have hview : s.vc.action.vpmOtpViewref = s.vc.vpmOtpViewref :=
        OTPVerificationVC.action_vpmOtpViewref s.vc
      exact ⟨hview.symm ▸ h.synced, h.keyWindow, h.fresh, h.distinct, h.overlay, h.le_one,
        hview.symm ▸ h.keyboard, h.pushes⟩
    · exact h
  | tapResend =>
    -- A touch reaches the screen, so no overlay of a verification is up
    have hidle : s.verifications = [] := h.uncovered hd.1
    have hfresh : ∀ bar ∈ s.resends, bar < s.nextBar := fun bar hb => h.fresh bar (Or.inr hb)
    simp only [step] at hstep
    split at hstep <;> rw [Option.some.injEq] at hstep <;> subst hstep
    · exact h
    · simp only [OTPVerificationVC.ResendOtpbtnref]
      split
      · refine .of_idle h.synced (Windows.show_keyWindow.trans h.keyWindow) ?_ hidle h.pushes
        intro bar hb
        rcases List.mem_cons.mp hb with rfl | hb
        · exact Nat.lt_succ_self _
        · exact Nat.lt_succ_of_lt (hfresh bar hb)
      · exact .of_idle h.synced h.keyWindow hfresh hidle h.pushes
  | tapField tag =>
    simp only [step, Option.some.injEq] at hstep
    subst hstep
    exact .of_idle (h.synced.becomeFirstResponder tag) h.keyWindow
      (fun bar hb => h.fresh bar (Or.inr hb)) (h.uncovered hd.1) h.pushes
  | edit tag range string =>
    exact h.edit (h.keyboard_up hd.1) hd.2 (fun hc => ⟨hlast hc, hd.1⟩) hstep
  | deleteBackward tag deleted => exact h.deleteBackward hd.1 hd.2 hlast hstep
  | verificationAnswered bar answer =>
    simp only [step] at hstep
    split at hstep
    · rename_i hb
      obtain ⟨effects, hc, rfl⟩ := Option.map_eq_some_iff.mp hstep
      exact h.verificationAnswered hb hc
    · rw [Option.some.injEq] at hstep
      exact hstep ▸ h
  | resendAnswered bar answer =>
    by_cases hb : bar ∈ s.resends
    · exact h.resendAnswered hb hstep
    · simp only [step, hb, if_false, Option.some.injEq] at hstep
      exact hstep ▸ h

/-- **One verification at a time**, in every run in which each edit that completes the code is
made in the last field, and not by a delete key that takes part of a longer text away: at most
one verification request is unanswered, and the profile screen is pushed once at most. -/
theorem one_verification_of_lastField (P : Platform) (mobileNumber CustomerID : String)
    (es : List OTPEvent)
    (h : EachStep (deliveredStep P) (LastField P) (load mobileNumber CustomerID) es) :
    Always (deliveredStep P) (fun s => s.verifications.length ≤ 1 ∧ s.profilePushes ≤ 1)
      (load mobileNumber CustomerID) es :=
  (always_of_eachStep (fun _ _ _ => oneAtATime_step) (oneAtATime_load _ _) h).mono
    fun _ hs => ⟨hs.le_one, hs.pushes⟩

/-- A body with a status of 200 and credentials. -/
def verifiedBody : JSON :=
  .object [("status", .number ⟨200, 0⟩), ("auth_key", .string "key"),
    ("client_service", .string "service")]

/-- A code typed field by field and verified. -/
theorem one_verification_typed :
    Always (deliveredStep (.sample []))
      (fun s => s.verifications.length ≤ 1 ∧ s.profilePushes ≤ 1) (load "+1 2025550100" "7")
      [.edit 1 ⟨0, 0⟩ "1", .edit 2 ⟨0, 0⟩ "2", .edit 3 ⟨0, 0⟩ "3", .edit 4 ⟨0, 0⟩ "4",
        .verificationAnswered 0 ⟨true, verifiedBody, ""⟩] :=
  one_verification_of_lastField (.sample []) "+1 2025550100" "7" _ (by decide)

/-- After a failed attempt the second field is corrected: the keyboard moves on to the third
field, the next key sends a second request while the first is unanswered, and both answers push
the profile screen. -/
theorem two_verifications :
    ∃ s t, run (deliveredStep (.sample [])) (load "+1 2025550100" "7")
        [.edit 1 ⟨0, 0⟩ "1", .edit 2 ⟨0, 0⟩ "2", .edit 3 ⟨0, 0⟩ "3", .edit 4 ⟨0, 0⟩ "4",
          .verificationAnswered 0 ⟨false, .string "Failure", "Network error"⟩,
          .tapField 2, .edit 2 ⟨0, 1⟩ "5", .edit 3 ⟨0, 1⟩ "6"] = some s ∧
      s.verifications = [2, 1] ∧
      run (deliveredStep (.sample [])) s
        [.verificationAnswered 1 ⟨true, verifiedBody, ""⟩,
          .verificationAnswered 2 ⟨true, verifiedBody, ""⟩] = some t ∧
      t.profilePushes = 2 :=
  ⟨_, _, rfl, by decide, rfl, by decide⟩

end OTPScreen

end ThorChat.Auth
