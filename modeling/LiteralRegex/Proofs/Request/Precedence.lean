import LiteralRegex.Proofs.Report
import LiteralRegex.Proofs.Session.Default

/-!
# Flavor errors come first

A request goes on only with a flavor. If the choice of the flavor fails, that is all there is to the
answer, whatever is asked for (`Request.answer_of_resolve_error`). With a flavor the answer is the
fragment (`Request.result_answer_of_resolve`), and then just the requests that give their characters as
texts can fail: for a text that is not one character, and of several ones for the first
(`mapM_single_eq_error_iff`).
-/

namespace LiteralRegex

/-! ## Texts of one character in a row -/

lemma mapM_single_eq_ok_iff {texts : List Text} {chars : List Char} :
    texts.mapM Text.single = .ok chars ↔ texts = chars.map fun c => [c] := by
  induction texts generalizing chars with
  | nil =>
    rw [List.mapM_nil]
    constructor
    · intro h
      rw [← Except.ok.inj h]
      rfl
    · intro h
      rw [List.map_eq_nil_iff.mp h.symm]
      rfl
  | cons text texts ih =>
    rw [List.mapM_cons, bind_eq_ok_iff]
    simp only [bind_eq_ok_iff, Text.single_eq_ok_iff, ih]
    constructor
    · rintro ⟨c, rfl, rest, rfl, hchars⟩
      rw [← Except.ok.inj hchars]
      rfl
    · intro h
      cases chars with
      | nil => cases h
      | cons c chars =>
        obtain ⟨rfl, rfl⟩ := List.cons.inj h
        exact ⟨c, rfl, chars, rfl, rfl⟩

/-- Of several texts the first one that is not one character is refused. -/
lemma mapM_single_eq_error_iff {texts : List Text} {e : Error} :
    texts.mapM Text.single = .error e ↔
      ∃ front text rest, texts = front ++ text :: rest ∧ (∀ t ∈ front, t.length = 1) ∧
        text.single = .error e := by
  simp only [mapM_eq_error_iff, Text.exists_single_eq_ok_iff]

/-! ## Answers with and without a flavor -/

section Answers

variable {default : DefaultCode} {choice : FlavorChoice}

/-- Nothing is told of a choice that fails. -/
lemma FlavorChoice.notices_resolve_of_error {e : Error}
    (h : (choice.resolve default).result = .error e) : (choice.resolve default).notices = [] := by
  cases choice with
  | given f => cases h
  | byCode code => rfl
  | unspecified =>
    cases default with
    | none => rfl
    | some code =>
      simp only [resolve, DefaultCode.resolve] at h ⊢
      cases hcode : Flavor.ofCode? code with
      | none => rfl
      | some f =>
        rw [hcode] at h
        cases h

/-- Without a flavor every request is answered by the error of the choice alone. -/
lemma Request.answer_of_resolve_error {e : Error} (h : (choice.resolve default).result = .error e)
    (r : Request) : r.answer default choice = { result := .error e, notices := [] } := by
  rw [answer, Report.bind_of_error h, FlavorChoice.notices_resolve_of_error h]

lemma Request.result_answer_of_resolve {f : Flavor} (h : (choice.resolve default).result = .ok f)
    (r : Request) : (r.answer default choice).result = r.build f := by
  rw [r.result_answer, h]
  rfl

end Answers

/-- If the choice of the flavor fails, every request is answered by its error and nothing else is told.
Otherwise characters, texts, lists of texts and lists of characters have their fragments. A text that has
to be one character is answered as the character is, and refused if it is not one. Texts that have to
be one character each are answered as their characters are, and else refused for the first one that is
not. -/
theorem flavor_errors_first (default : DefaultCode) (choice : FlavorChoice) :
    (∀ e, (choice.resolve default).result = .error e →
      ∀ r : Request, r.answer default choice = { result := .error e, notices := [] }) ∧
    ∀ f, (choice.resolve default).result = .ok f →
      (∀ c, ((Request.character c).answer default choice).result = .ok (f.escape c)) ∧
      (∀ text, ((Request.literal text).answer default choice).result = .ok (f.literal text)) ∧
      (∀ texts, ((Request.alternation texts).answer default choice).result =
        .ok (f.alternation texts)) ∧
      (∀ chars, ((Request.classBody chars).answer default choice).result =
        .ok (f.classBody chars)) ∧
      (∀ text fragment, ((Request.characterText text).answer default choice).result = .ok fragment ↔
        ∃ c, text = [c] ∧ ((Request.character c).answer default choice).result = .ok fragment) ∧
      (∀ text e, ((Request.characterText text).answer default choice).result = .error e ↔
        text.single = .error e) ∧
      (∀ texts fragment,
        ((Request.classBodyTexts texts).answer default choice).result = .ok fragment ↔
          ∃ chars, texts = chars.map (fun c => [c]) ∧
            ((Request.classBody chars).answer default choice).result = .ok fragment) ∧
      ∀ texts e, ((Request.classBodyTexts texts).answer default choice).result = .error e ↔
        ∃ front text rest, texts = front ++ text :: rest ∧ (∀ t ∈ front, t.length = 1) ∧
          text.single = .error e := by
  refine ⟨fun e h r => r.answer_of_resolve_error h, fun f h => ?_⟩
  have hanswer := Request.result_answer_of_resolve h
  refine ⟨fun c => hanswer _, fun text => hanswer _, fun texts => hanswer _, fun chars => hanswer _,
    fun text fragment => ?_, fun text e => ?_, fun texts fragment => ?_, fun texts e => ?_⟩
  · rw [hanswer]
    show text.single.map f.escape = .ok fragment ↔ _
    simp only [map_eq_ok_iff, Text.single_eq_ok_iff, hanswer, Request.build, Except.ok.injEq]
  · rw [hanswer]
    exact map_eq_error_iff
  · rw [hanswer]
    show (texts.mapM Text.single).map f.classBody = .ok fragment ↔ _
    simp only [map_eq_ok_iff, mapM_single_eq_ok_iff, hanswer, Request.build, Except.ok.injEq]
  · rw [hanswer]
    exact map_eq_error_iff.trans mapM_single_eq_error_iff

/-- Under a default that no flavor has, malformed texts are not even looked at. With a code they are, and
the empty one in front of the long one is told. -/
theorem flavor_errors_first_malformed :
    (FlavorChoice.unspecified.resolve (some 7)).result = .error (.unknownDefault 7) ∧
    (Request.classBodyTexts [[], ['b', 'c']]).answer (some 7) .unspecified =
      { result := .error (.unknownDefault 7), notices := [] } ∧
    ((FlavorChoice.byCode 2).resolve none).result = .ok .re2 ∧
    ((Request.classBodyTexts [['a'], [], ['b', 'c']]).answer none (.byCode 2)).result =
      .error (.input (.notOneCharacter [])) ∧
    ((Request.characterText ['/']).answer none (.byCode 2)).result =
      .ok "\\x\x7b002f\x7d".toList := by
  have hundefined : (FlavorChoice.unspecified.resolve (some 7)).result =
      .error (.unknownDefault 7) := rfl
  have hcode : ((FlavorChoice.byCode 2).resolve none).result = .ok .re2 := rfl
  obtain ⟨hfirst, -⟩ := flavor_errors_first (some 7) .unspecified
  obtain ⟨-, hresolved⟩ := flavor_errors_first none (.byCode 2)
  obtain ⟨hcharacter, -, -, -, htext, -, -, hrefused⟩ := hresolved _ hcode
  refine ⟨hundefined, hfirst _ hundefined _, hcode, ?_, ?_⟩
  · exact (hrefused _ _).mpr ⟨[['a']], [], [['b', 'c']], rfl, by decide, rfl⟩
  · refine (htext _ _).mpr ⟨'/', rfl, ?_⟩
    rw [hcharacter]
    decide +kernel

end LiteralRegex
