import LiteralRegex.Session
import Mathlib.Data.List.Basic
import Mathlib.Tactic.Common

/-!
# The default of a session

The default is the one thing that steps share. A step that stores a default replaces it and a
request leaves it alone, so after any steps it is what was stored last (`runSession_fst`), and each
request is answered under the default that the steps in front of it left
(`getElem?_runSession_snd`). A reset stores code 1, and a session begins as if it had just been reset.

How a request uses the default is said of single requests. Without a flavor it goes on as it would
with the stored code in the place of the flavor, and only the error of a code that no flavor has is
another one. With a flavor or a code it never looks at the default.
-/

namespace LiteralRegex

/-! ## What steps leave -/

/-- The default that a step stores, if it stores one: a reset stores code 1. -/
def SessionStep.stored? : SessionStep → Option DefaultCode
  | setDefault code => some code
  | resetDefault => some (some 1)
  | request _ _ => none

/-- The default that was stored last, and code 1 if none was. -/
def lastStored (steps : List SessionStep) : DefaultCode :=
  (steps.filterMap SessionStep.stored?).getLast?.getD (some 1)

lemma SessionStep.perform_fst (default : DefaultCode) (step : SessionStep) :
    (step.perform default).1 = step.stored?.getD default := by
  cases step <;> rfl

/-- A step in front of others decides only if none of them stores a default. -/
lemma runSession_fst (default : DefaultCode) (steps : List SessionStep) :
    (runSession default steps).1 =
      (steps.filterMap SessionStep.stored?).getLast?.getD default := by
  induction steps generalizing default with
  | nil => rfl
  | cons step steps ih =>
    show (runSession (step.perform default).1 steps).1 = _
    rw [ih, step.perform_fst, List.filterMap_cons]
    cases step.stored? with
    | none => rfl
    | some code => rw [List.getLast?_cons, Option.getD_some, Option.getD_some]

/-- Each step is performed under the default that the steps in front of it left. -/
lemma getElem?_runSession_snd (default : DefaultCode) (steps : List SessionStep) (i : ℕ) :
    (runSession default steps).2[i]? =
      steps[i]?.map fun step => (step.perform (runSession default (steps.take i)).1).2 := by
  induction steps generalizing default i with
  | nil => rfl
  | cons step steps ih =>
    cases i with
    | zero => rfl
    | succ i =>
      show (runSession (step.perform default).1 steps).2[i]? = _
      rw [ih]
      rfl

/-! ## What a request makes of the default -/

section Requests

variable (r : Request) {default : DefaultCode} {choice : FlavorChoice} {code : Int} {f : Flavor}

/-- A request fails as the choice of its flavor does, and else as its fragment does. -/
lemma Request.result_answer (default : DefaultCode) (choice : FlavorChoice) :
    (r.answer default choice).result = (choice.resolve default).result.bind fun f => r.build f := by
  rw [answer, Report.result_bind]

/-- A choice that names a flavor or a code does not depend on the default. -/
lemma FlavorChoice.resolve_eq_of_ne (h : choice ≠ .unspecified) (default other : DefaultCode) :
    choice.resolve default = choice.resolve other := by
  cases choice with
  | given f => rfl
  | byCode code => rfl
  | unspecified => exact absurd rfl h

lemma Request.result_answer_byCode_of_none (h : Flavor.ofCode? code = none) :
    (r.answer default (.byCode code)).result = .error (.unknownFlavor code) := by
  rw [r.result_answer, FlavorChoice.resolve, Report.result_ofExcept, Flavor.ofCode, h]
  rfl

lemma Request.result_answer_unspecified_of_none (h : Flavor.ofCode? code = none) :
    (r.answer (some code) .unspecified).result = .error (.unknownDefault code) := by
  rw [r.result_answer, FlavorChoice.resolve, DefaultCode.resolve, h]
  rfl

/-- Under a default that some flavor has, the stored code can as well be given. -/
lemma Request.result_answer_unspecified (h : Flavor.ofCode? code = some f) :
    (r.answer (some code) .unspecified).result = (r.answer (some code) (.byCode code)).result := by
  rw [r.result_answer, r.result_answer, FlavorChoice.resolve, FlavorChoice.resolve,
    DefaultCode.resolve, Report.result_ofExcept, Flavor.ofCode, h]

end Requests

/-- After any steps the default is what was stored last, whatever requests were made between, and it
is code 1 in the beginning and after a reset. A request without a flavor is answered under the default of
its moment as if the stored code were given, except for the error of a code that no flavor has, and is
refused without a default. A request with a flavor or a code is answered the same under every default. -/
theorem session_default_is_last_stored (steps : List SessionStep) :
    (runSession .initial steps).1 = lastStored steps ∧
    (∀ (i : ℕ) (choice : FlavorChoice) (r : Request), steps[i]? = some (.request choice r) →
      (runSession .initial steps).2[i]? =
        some (some (r.answer (lastStored (steps.take i)) choice))) ∧
    ∀ r : Request,
      (r.answer none .unspecified).result = .error .noDefault ∧
      (∀ code, Flavor.ofCode? code = none →
        (r.answer (some code) .unspecified).result = .error (.unknownDefault code) ∧
        (r.answer (some code) (.byCode code)).result = .error (.unknownFlavor code)) ∧
      (∀ code, Flavor.ofCode? code ≠ none →
        (r.answer (some code) .unspecified).result =
          (r.answer (some code) (.byCode code)).result) ∧
      ∀ choice, choice ≠ .unspecified →
        ∀ default other, r.answer default choice = r.answer other choice := by
  have hlast : ∀ steps, (runSession .initial steps).1 = lastStored steps := runSession_fst (some 1)
  refine ⟨hlast steps, fun i choice r hi => ?_, fun r => ⟨?_, ?_, ?_, ?_⟩⟩
  · rw [getElem?_runSession_snd, hi, hlast]
    rfl
  · rw [r.result_answer]
    rfl
  · intro code h
    exact ⟨r.result_answer_unspecified_of_none h, r.result_answer_byCode_of_none h⟩
  · intro code h
    obtain ⟨f, hf⟩ := Option.ne_none_iff_exists'.mp h
    exact r.result_answer_unspecified hf
  · intro choice h default other
    rw [Request.answer, Request.answer, FlavorChoice.resolve_eq_of_ne h default other]

/-- The first request is answered under code 1, and so is the one behind the reset. Between them is a
default that no flavor has: the request is refused for the code of the default, where the code by itself
would be refused as given. The last request is answered as code 2 is. A flavor that is given hides the
default. -/
theorem session_default_is_last_stored_replaced :
    ∃ (r : Request) (steps : List SessionStep),
      r = .character '/' ∧
      steps = [.request .unspecified r, .setDefault (some 7), .request .unspecified r, .resetDefault,
        .request .unspecified r, .setDefault (some 2), .request .unspecified r] ∧
      (runSession .initial steps).1 = some 2 ∧
      (runSession .initial (steps.take 4)).1 = some 1 ∧
      (runSession .initial steps).2[0]? = some (some (r.answer (some 1) .unspecified)) ∧
      (runSession .initial steps).2[2]? = some (some (r.answer (some 7) .unspecified)) ∧
      (runSession .initial steps).2[4]? = some (some (r.answer (some 1) .unspecified)) ∧
      (runSession .initial steps).2[6]? = some (some (r.answer (some 2) .unspecified)) ∧
      Flavor.ofCode? 1 ≠ none ∧
      (r.answer (some 1) .unspecified).result = .ok "\\/".toList ∧
      Flavor.ofCode? 7 = none ∧
      (r.answer (some 7) .unspecified).result = .error (.unknownDefault 7) ∧
      Flavor.ofCode? 2 ≠ none ∧
      (r.answer (some 2) .unspecified).result = .ok "\\x{002f}".toList ∧
      FlavorChoice.given .re ≠ .unspecified ∧
      r.answer none (.given .re) = r.answer (some 7) (.given .re) := by
  let r : Request := .character '/'
  let steps : List SessionStep := [.request .unspecified r, .setDefault (some 7),
    .request .unspecified r, .resetDefault, .request .unspecified r, .setDefault (some 2),
    .request .unspecified r]
  obtain ⟨hlast, hanswer, hrequest⟩ := session_default_is_last_stored steps
  obtain ⟨hreset, -⟩ := session_default_is_last_stored (steps.take 4)
  obtain ⟨_, hundefined, hdefined, hgiven⟩ := hrequest r
  have hone : Flavor.ofCode? 1 ≠ none := by decide
  have hseven : Flavor.ofCode? 7 = none := by decide
  have htwo : Flavor.ofCode? 2 ≠ none := by decide
  have hre : FlavorChoice.given .re ≠ .unspecified := by decide
  refine ⟨r, steps, rfl, rfl, hlast, hreset, hanswer 0 _ _ rfl, hanswer 2 _ _ rfl,
    hanswer 4 _ _ rfl, hanswer 6 _ _ rfl, hone, ?_, hseven, (hundefined 7 hseven).1, htwo, ?_, hre,
    hgiven _ hre none _⟩
  · rw [hdefined 1 hone]
    decide
  · rw [hdefined 2 htwo]
    decide

end LiteralRegex
