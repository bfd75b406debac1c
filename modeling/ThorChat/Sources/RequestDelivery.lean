import ThorChat.Alamofire.Requests
import ThorChat.Sources.RequestCompletion

/-!
# An API Call to Its End

`responseJSON` runs the handler of a call once, and the handler is `responseData`, which passes
one answer on or drops the response. So the completion closure of a call is run exactly once in
the end, unless the server answered 401 or the handler came too late.
-/

namespace ThorChat.Sources

open ThorChat.Alamofire
open ThorChat.Library

/-- The answers the completion closures have been run with, each with its request. -/
def answers (session : Session) : List (Nat × Answer) :=
  session.called.filterMap fun entry => (answerOf entry.2).map fun answer => (entry.1, answer)

variable {serializer : JSONResponseSerializer} {session : Session} {r : Nat}

theorem answers_of (session : Session) (r : Nat) :
    (answers session).filter (fun answer => answer.1 = r) =
      (session.called.filter fun entry => entry.1 = r).filterMap fun entry =>
        (answerOf entry.2).map fun answer => (entry.1, answer) := by
  unfold answers
  induction session.called with
  | nil => rfl
  | cons entry called ih =>
    cases ha : answerOf entry.2 with
    | none =>
      by_cases hr : entry.1 = r
      · simp [ha, hr, ih]
      · simp [ha, hr, ih]
    | some answer =>
      by_cases hr : entry.1 = r
      · simp [ha, hr, ih]
      · simp [ha, hr, ih]

/-- **The completion of a call**: when nothing is left to do it has been run exactly once, unless
the last status was 401 or the handler was attached while the request was being finalized. -/
theorem completion_called_once (h : Reachable (Session.step serializer) .initial session)
    (hq : session.Quiescent) (hr : r < session.nextRequest) :
    ((answers session).filter fun answer => answer.1 = r).length =
      if r ∈ session.overtaken ∨ session.statusCode r = some 401 then 0 else 1 := by
  have hsound := (Session.sound_of_reachable h).of_made hr
  have hlength := hq.called_length.trans (hq.posted_length hsound)
  rw [answers_of]
  by_cases hovertaken : r ∈ session.overtaken
  · rw [if_pos hovertaken, List.length_eq_zero_iff] at hlength
    rw [if_pos (Or.inl hovertaken), hlength]
    rfl
  · rw [if_neg hovertaken, List.length_eq_one_iff] at hlength
    obtain ⟨⟨r', response⟩, hcalled⟩ := hlength
    have hentry : (r', response) ∈ session.called.filter fun entry => entry.1 = r := by
      simp [hcalled]
    obtain ⟨hmem, hmine⟩ := List.mem_filter.mp hentry
    obtain rfl : r' = r := by simpa using hmine
    -- The response is the one the request was finished with
    have hposted : response ∈ (session.slice r').posted := by
      simp only [Session.slice, List.mem_map, List.mem_filter]
      exact ⟨(r', response), ⟨List.mem_append_left _ hmem, by simp⟩, rfl⟩
    have hstatus : response.statusCode = session.statusCode r' := by
      rw [(Session.finishes_of_posted hsound hposted).2, Session.statusCode_slice]
      rfl
    rw [hcalled, ← hstatus]
    by_cases h401 : response.statusCode = some 401
    · simp [answerOf_eq_none_iff.mpr h401, h401]
    · obtain ⟨answer, hanswer⟩ := Option.ne_none_iff_exists'.mp (mt answerOf_eq_none_iff.mp h401)
      simp [hanswer, h401, hovertaken]

theorem completion_called_once_upload :
    ((answers .uploaded).filter fun answer => answer.1 = 0).length = 1 :=
  completion_called_once Session.uploaded_reachable Session.uploaded_quiescent
    (show 0 < 1 by decide)

end ThorChat.Sources
