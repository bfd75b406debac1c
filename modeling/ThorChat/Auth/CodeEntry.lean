import ThorChat.Auth.ResendTimer
import ThorChat.SupportFrameWorks.EntryBuffer

/-!
# Entering the Code

What the one-time-code screen sends when the code is complete. `edit_cases` says what one edit
does to the screen; the main result is `sent_code_is_displayed`: what is sent is what the
fields display.
-/

namespace ThorChat.Auth

open ThorChat.Library
open ThorChat.Library.Utf16
open ThorChat.Runtime
open ThorChat.Sources
open ThorChat.SupportFrameWorks

namespace OTPScreen

variable {P : Platform} {s s' : OTPScreen} {tag : Nat} {range : NSRange} {string : String}

/-! ## One edit -/

/-- What an edit does: if it completes the code, the displayed texts are put together and sent
at once; otherwise nothing is sent. -/
theorem edit_cases (h : s.vc.vpmOtpViewref.Synced)
    (he : s.edit P tag range string = some s') :
    ∃ view, view.Synced ∧
      (s.vc.vpmOtpViewref.Entry tag range string →
        view.fields = s.vc.vpmOtpViewref.fields.set (tag - 1) string) ∧
      ((s.vc.vpmOtpViewref.Completes P tag range string ∧
          s.vc.vpmOtpViewref.enterText P tag string =
            some (view, some (String.join view.fields)) ∧
          P.count (String.join view.fields) = 4 ∧
          s' = OTPScreen.act
            { s with vc :=
              { s.vc with vpmOtpViewref := view, enteredOtp := String.join view.fields } }
            .sendOtpValidation) ∨
        (¬ s.vc.vpmOtpViewref.Completes P tag range string ∧
          s' = { s with vc := { s.vc with vpmOtpViewref := view } })) := by
  simp only [OTPScreen.edit, OTPVerificationVC.edit, Option.map_eq_some_iff] at he
  obtain ⟨⟨vc, action⟩, ⟨⟨view, otpString⟩, htext, hvc⟩, rfl⟩ := he
  obtain ⟨hsync, hfields, ⟨hc, henter, rfl⟩ | ⟨hc, rfl⟩⟩ := h.textField_cases htext
  · have hcount : P.count (String.join view.fields) = 4 := by
      rw [hfields hc.1]
      exact hc.2
    refine ⟨view, hsync, hfields, Or.inl ⟨hc, henter, hcount, ?_⟩⟩
    -- The delegate checks the length once more, and it is four
    simp only [OTPVerificationVC.enteredOTP, OTPVerificationVC.verifybtnref, hcount,
      Nat.lt_irrefl, if_false, Prod.mk.injEq] at hvc
    obtain ⟨rfl, rfl⟩ := hvc
    rfl
  · refine ⟨view, hsync, hfields, Or.inr ⟨hc, ?_⟩⟩
    simp only [Prod.mk.injEq] at hvc
    obtain ⟨rfl, rfl⟩ := hvc
    rfl

theorem edit_textField (he : s.edit P tag range string = some s') :
    ∃ otpString, s.vc.vpmOtpViewref.textField P tag range string =
      some (s'.vc.vpmOtpViewref, otpString) := by
  simp only [OTPScreen.edit, OTPVerificationVC.edit, Option.map_eq_some_iff] at he
  obtain ⟨⟨vc, action⟩, ⟨⟨view, otpString⟩, htext, hvc⟩, rfl⟩ := he
  refine ⟨otpString, ?_⟩
  rw [htext, act_vc]
  cases otpString with
  | none =>
    simp only [Prod.mk.injEq] at hvc
    rw [← hvc.1]
  | some otpString =>
    simp only [OTPVerificationVC.enteredOTP, Prod.mk.injEq] at hvc
    rw [← hvc.1]

/-! ## What is sent is what is displayed -/

/-- The request carries the concatenation of four displayed texts, which has four characters. -/
def SentVerification.Shown (P : Platform) (r : SentVerification) : Prop :=
  r.displayed.length = 4 ∧ r.parameters.lookup "customer_otp" = some (String.join r.displayed) ∧
    P.count (String.join r.displayed) = 4

/-- The buffer holds the displayed texts, and every request sent carried them. -/
structure CodeShown (P : Platform) (s : OTPScreen) : Prop where
  synced : s.vc.vpmOtpViewref.Synced
  sent : ∀ r ∈ s.sent, SentVerification.Shown P r

theorem synced_load (mobileNumber CustomerID : String) :
    (load mobileNumber CustomerID).vc.vpmOtpViewref.Synced := by
  simp only [load, OTPVerificationVC.viewDidLoad, OTPVerificationVC.OtpValidationInit,
    OTPVerificationVC.start_vpmOtpViewref]
  exact VPMOTPView.Synced.initializeUI rfl rfl rfl rfl (Nat.zero_le 4)

theorem codeShown_load (mobileNumber CustomerID : String) :
    CodeShown P (load mobileNumber CustomerID) :=
  ⟨synced_load mobileNumber CustomerID, by simp [load]⟩

theorem CodeShown.edit (h : CodeShown P s) (he : s.edit P tag range string = some s') :
    CodeShown P s' := by
  obtain ⟨view, hsync, -, ⟨-, -, hcount, rfl⟩ | ⟨-, rfl⟩⟩ := edit_cases h.synced he
  · refine ⟨hsync, fun r hr => ?_⟩
    rcases List.mem_cons.mp hr with rfl | hr
    · exact ⟨hsync.length, rfl, hcount⟩
    · exact h.sent r hr
  · exact ⟨hsync, h.sent⟩

theorem CodeShown.perform (h : CodeShown P s) (bar : Nat) (e : Effect) :
    CodeShown P (s.perform bar e) := by
  cases e with
  -- A rejected verification empties the fields and the buffer alike
  | initializeUI => exact ⟨h.synced.initializeUI_again, h.sent⟩
  | start =>
    refine ⟨?_, h.sent⟩
    show (s.vc.start).vpmOtpViewref.Synced
    rw [OTPVerificationVC.start_vpmOtpViewref]
    exact h.synced
  | _ => exact ⟨h.synced, h.sent⟩

theorem CodeShown.foldl_perform (h : CodeShown P s) (bar : Nat) (effects : List Effect) :
    CodeShown P (effects.foldl (OTPScreen.perform bar) s) := by
  induction effects generalizing s with
  | nil => exact h
  | cons e rest ih => exact ih (h.perform bar e)

theorem codeShown_step {e : OTPEvent} (h : CodeShown P s) (hstep : step P s e = some s') :
    CodeShown P s' := by
  cases e with
  | fire timer =>
    simp only [step] at hstep
    split at hstep <;> rw [Option.some.injEq] at hstep <;> subst hstep
    · exact ⟨(OTPVerificationVC.action_vpmOtpViewref s.vc).symm ▸ h.synced, h.sent⟩
    · exact h
  | tapResend =>
    simp only [step] at hstep
    split at hstep <;> rw [Option.some.injEq] at hstep <;> subst hstep
    · exact h
    · simp only [OTPVerificationVC.ResendOtpbtnref]
      split <;> exact ⟨h.synced, h.sent⟩
  | tapField tag =>
    simp only [step, Option.some.injEq] at hstep
    exact hstep ▸ ⟨h.synced.becomeFirstResponder tag, h.sent⟩
  | edit tag range string => exact h.edit hstep
  | deleteBackward tag deleted =>
    cases deleted with
    | none => exact h.edit hstep
    | some range =>
      -- The delete key makes two delegate calls
      obtain ⟨s₁, h₁, h₂⟩ := Option.bind_eq_some_iff.mp hstep
      exact (h.edit h₁).edit h₂
  | verificationAnswered bar answer =>
    simp only [step] at hstep
    split at hstep
    · obtain ⟨effects, -, rfl⟩ := Option.map_eq_some_iff.mp hstep
      refine CodeShown.foldl_perform ?_ bar effects
      exact ⟨h.synced, h.sent⟩
    · rw [Option.some.injEq] at hstep
      exact hstep ▸ h
  | resendAnswered bar answer =>
    simp only [step] at hstep
    split at hstep
    · obtain ⟨effects, -, rfl⟩ := Option.map_eq_some_iff.mp hstep
      refine CodeShown.foldl_perform ?_ bar effects
      exact ⟨h.synced, h.sent⟩
    · rw [Option.some.injEq] at hstep
      exact hstep ▸ h

theorem codeShown_reachable {mobileNumber CustomerID : String}
    (h : Reachable (step P) (load mobileNumber CustomerID) s) : CodeShown P s :=
  h.invariant (codeShown_load mobileNumber CustomerID) fun _ _ _ => codeShown_step

/-- **What is sent is what is displayed.** In every state the screen gets to, the entry buffer
holds the texts displayed in the four fields, and every verification request sent so far
carried the concatenation of the texts displayed when it was sent, which has four characters.
An edit sends a request exactly if it is handled as an entry and leaves four characters; edits
of the four fields within bounds do not trap. -/
theorem sent_code_is_displayed (P : Platform) (mobileNumber CustomerID : String) (s : OTPScreen)
    (h : Reachable (step P) (load mobileNumber CustomerID) s) :
    (s.vc.vpmOtpViewref.fields.length = 4 ∧
      s.vc.vpmOtpViewref.secureEntryData = s.vc.vpmOtpViewref.fields) ∧
    (∀ r ∈ s.sent, r.displayed.length = 4 ∧
      r.parameters.lookup "customer_otp" = some (String.join r.displayed) ∧
      P.count (String.join r.displayed) = 4) ∧
    (∀ tag range string s', s.edit P tag range string = some s' →
      (s.vc.vpmOtpViewref.Entry tag range string ∧
          P.count (String.join s'.vc.vpmOtpViewref.fields) = 4 ∧
          s'.sent = ⟨sendOtpValidation.parameters s'.vc, s'.vc.vpmOtpViewref.fields⟩ :: s.sent) ∨
        (¬ (s.vc.vpmOtpViewref.Entry tag range string ∧
            P.count (String.join s'.vc.vpmOtpViewref.fields) = 4) ∧
          s'.sent = s.sent)) ∧
    (∀ tag range string, 1 ≤ tag → tag ≤ 4 →
      (∀ text, s.vc.vpmOtpViewref.viewWithTag tag = some text → range.InBounds text) →
      ∃ s', s.edit P tag range string = some s') := by
  have hs : CodeShown P s := codeShown_reachable h
  refine ⟨⟨hs.synced.length, hs.synced.entries⟩, hs.sent, ?_, ?_⟩
  · intro tag range string s' he
    obtain ⟨view, -, hfields, ⟨hc, -, hcount, rfl⟩ | ⟨hc, rfl⟩⟩ := edit_cases hs.synced he
    · exact Or.inl ⟨hc.1, hcount, rfl⟩
    · refine Or.inr ⟨fun ⟨hentry, hcount⟩ => hc ⟨hentry, ?_⟩, rfl⟩
      rw [← hfields hentry]
      exact hcount
  · intro tag range string h₁ h₄ hrange
    obtain ⟨view, otpString, hv⟩ := hs.synced.textField_total P h₁ h₄ string hrange
    simp only [OTPScreen.edit, OTPVerificationVC.edit, hv, Option.map_some, Option.some.injEq,
      exists_eq']

/-- Pasting a code of four characters into the first field sends it. -/
theorem sent_code_is_displayed_paste :
    ∃ s, run (step (.sample [])) (load "+1 2025550100" "7") [.edit 1 ⟨0, 0⟩ "4321"] = some s ∧
      s.sent = [⟨[("customer_id", "7"), ("customer_otp", "4321")], ["4321", "", "", ""]⟩] ∧
      s.vc.vpmOtpViewref.secureEntryData = s.vc.vpmOtpViewref.fields := by
  have hrun : ∃ s, run (step (.sample [])) (load "+1 2025550100" "7")
      [.edit 1 ⟨0, 0⟩ "4321"] = some s ∧
      s.sent = [⟨[("customer_id", "7"), ("customer_otp", "4321")], ["4321", "", "", ""]⟩] :=
    ⟨_, rfl, by decide⟩
  obtain ⟨s, hs, hsent⟩ := hrun
  exact ⟨s, hs, hsent,
    (sent_code_is_displayed (.sample []) "+1 2025550100" "7" s ⟨_, hs⟩).1.2⟩

end OTPScreen

end ThorChat.Auth
