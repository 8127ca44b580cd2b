import Numeral.Datum.Writing
import Numeral.Pattern.Fields
import Numeral.Proofs.Grammar
import Numeral.Proofs.Halting

namespace Numeral

/-- Reads a style from its pattern by way of the fields that the pattern states, which are checked
like any other fields. -/
def Style.parseChecked (text : String) : Except Failure Style := do
  let p ← (Pattern.read Unicode.classes Digits.limit text.toList).mapError .pattern
  (Draft.initial.patched p.fields).toStyle.mapError .draft

/-- The check never refuses what a pattern states. -/
theorem Style.parseChecked_eq (text : String) :
    parseChecked text = (Style.parse text).mapError .pattern := by
  unfold parseChecked Style.parse
  cases read : Pattern.read Unicode.classes Digits.limit text.toList with
  | error e => rfl
  | ok p =>
    obtain ⟨wf, _⟩ := Pattern.scan_sound (Pattern.read_eq_ok_iff.mp read)
    simp only [Except.mapError_ok, Except.map, bind, Except.bind, Pattern.patched_fields wf,
      Style.toStyle_toDraft]

/-- A text is accepted if it is read as a style. -/
def Accepted (cs : List Char) : Prop :=
  ∃ s, Style.parseChecked (String.ofList cs) = .ok s

/-- The first `k` characters of a text are accepted, and no longer piece of it is. -/
structure LongestAccepted (cs : List Char) (k : Nat) : Prop where
  within : k ≤ cs.length
  accepted : Accepted (cs.take k)
  longer : ∀ n, k < n → n ≤ cs.length → ¬ Accepted (cs.take n)

theorem accepted_iff {cs : List Char} :
    Accepted cs ↔ ∃ found, Scan.steps Unicode.classes Digits.limit cs = .ok found := by
  unfold Accepted
  simp only [Style.parseChecked_eq, Except.mapError_eq_ok, Style.parse, String.toList_ofList]
  constructor
  · rintro ⟨s, ok⟩
    cases read : Pattern.read Unicode.classes Digits.limit cs with
    | error e => rw [read] at ok; cases ok
    | ok p =>
      rw [Pattern.read_eq_ok_iff, Pattern.scan_eq_steps] at read
      cases steps : Scan.steps Unicode.classes Digits.limit cs with
      | error e => rw [steps] at read; cases read
      | ok found => exact ⟨found, rfl⟩
  · rintro ⟨found, steps⟩
    have read : Pattern.read Unicode.classes Digits.limit cs = .ok found.1 := by
      rw [Pattern.read_eq_ok_iff, Pattern.scan_eq_steps, steps]
      rfl
    exact ⟨found.1.style, by rw [read]; rfl⟩

/-- A reading that stops has reached the end of the longest piece that is accepted. -/
theorem Scan.Halting.longestAccepted {cs before : List Char} {stop : Stop}
    (halting : Halting (steps Unicode.classes Digits.limit) cs stop before) :
    LongestAccepted cs before.length where
  within := by
    rw [halting.whole, List.length_append]
    exact Nat.le_add_right _ _
  accepted := by
    obtain ⟨p, read⟩ := halting.read
    rw [halting.whole, List.take_left]
    exact accepted_iff.mpr ⟨_, read⟩
  longer n more within accepted := by
    have piece : cs.take n =
        before ++ (stop.cause.overrun ++ stop.rest).take (n - before.length) := by
      rw [halting.whole, List.take_append, List.take_of_length_le (Nat.le_of_lt more)]
    have nonempty : (stop.cause.overrun ++ stop.rest).take (n - before.length) ≠ [] := by
      rw [halting.whole, List.length_append] at within
      refine List.length_pos_iff.mp ?_
      rw [List.length_take]
      omega
    obtain ⟨e, failed⟩ := halting.longer nonempty (List.take_prefix _ _)
    rw [piece, accepted_iff, failed] at accepted
    obtain ⟨found, ok⟩ := accepted
    cases ok

theorem Cause.overrun_eq_nil_iff {cause : Cause} :
    cause.overrun = [] ↔ cause.kind ≠ .malformedNumber ∨ cause = .zeroSpacing := by
  cases cause <;> simp [overrun, kind]

theorem Cause.length_overrun {cause : Cause} (some : cause.overrun ≠ []) :
    cause.overrun.length = 1 := by
  cases cause with
  | zeroBeforeWidth | zeroWithoutWidth | missingPrecision => rfl
  | _ => exact absurd rfl some

/-- The position of an error is where the reading has stopped. -/
theorem Style.parse_error {text : String} {e : PatternError}
    (failed : Style.parse text = .error (.mismatch e)) :
    ∃ before rest,
      Scan.Halting (Scan.steps Unicode.classes Digits.limit) text.toList ⟨e.cause, rest⟩ before ∧
        e.position = before.length + e.cause.overrun.length ∧ e.text = text.toList := by
  obtain ⟨stop, stopped, rfl⟩ := Pattern.read_eq_mismatch_iff.mp (Except.map_eq_error.mp failed)
  rw [Pattern.scan_eq_steps, Except.map_eq_error] at stopped
  obtain ⟨before, halting⟩ :=
    Scan.steps_halts Unicode.classes text.toList stop stopped
  refine ⟨before, stop.rest, halting, ?_, rfl⟩
  have length := congrArg List.length halting.whole
  simp only [List.length_append] at length
  simp only
  omega

/-- What an error says about its place. The text up to there is the beginning of a text that is
accepted. Up to there, or up to the character before where that one needs a number behind it, the text
itself is accepted, and no longer piece of it is. -/
structure PatternError.Places (e : PatternError) (text : String) : Prop where
  text_eq : e.text = text.toList
  within : e.position ≤ text.length
  extends_to : ∃ more, Accepted (text.toList.take e.position ++ more)
  complete : e.cause.kind ≠ .malformedNumber ∨ e.cause = .zeroSpacing →
    LongestAccepted text.toList e.position
  unfinished : e.cause.kind = .malformedNumber → e.cause ≠ .zeroSpacing →
    0 < e.position ∧ LongestAccepted text.toList (e.position - 1)

theorem Style.parse_places {text : String} {e : PatternError}
    (failed : Style.parse text = .error (.mismatch e)) : e.Places text := by
  obtain ⟨before, rest, halting, position, written⟩ := parse_error failed
  have longest := halting.longestAccepted
  have whole : text.toList = (before ++ e.cause.overrun) ++ rest := by
    rw [List.append_assoc, ← halting.whole]
  have read : text.toList.take e.position = before ++ e.cause.overrun := by
    rw [whole, position, ← List.length_append, List.take_left]
  constructor
  case text_eq => exact written
  case within =>
    rw [← String.length_toList, whole, position, List.length_append, List.length_append]
    exact Nat.le_add_right _ _
  case extends_to =>
    obtain ⟨p, mended⟩ := halting.mended
    refine ⟨e.cause.mend, accepted_iff.mpr ⟨(p, []), ?_⟩⟩
    rw [read, List.append_assoc]
    exact mended
  case complete =>
    intro complete
    rw [position, Cause.overrun_eq_nil_iff.mpr complete]
    exact longest
  case unfinished =>
    intro number other
    have some : e.cause.overrun ≠ [] := fun none =>
      (Cause.overrun_eq_nil_iff.mp none).elim (absurd number) other
    rw [position, Cause.length_overrun some]
    exact ⟨Nat.succ_pos _, longest⟩

/-- A text that is refused is refused as a pattern: at a place that the error gives rightly, or for a
number in the text that has too many digits, and then at no place. -/
theorem Style.parse_stops_at_mismatch {text : String} {failure : Failure}
    (rejected : parseChecked text = .error failure) :
    (∃ e : PatternError, failure = .pattern (.mismatch e) ∧
        Style.parse text = .error (.mismatch e) ∧ e.Places text) ∨
      ∃ n, failure = .pattern (.digits (.tooLong n)) ∧
        Overlong Digits.limit text.toList n := by
  rw [parseChecked_eq] at rejected
  cases failed : Style.parse text with
  | ok s => rw [failed] at rejected; cases rejected
  | error e =>
    rw [failed] at rejected
    cases rejected
    cases e with
    | mismatch e => exact Or.inl ⟨e, rfl, rfl, parse_places failed⟩
    | digits e =>
      right
      obtain ⟨n, rfl, long⟩ :=
        Pattern.scan_digits (Pattern.read_eq_digits_iff.mp (Except.map_eq_error.mp failed))
      exact ⟨n, rfl, long⟩

/-- What starts like a sign becomes a fill, and the point behind it has no precision. -/
theorem Style.parse_stops_behind_point :
    let text := String.ofList ['-', '<', '.', 'q']
    parseChecked text = .error (.pattern (.mismatch ⟨.missingPrecision, 3, text.toList⟩)) ∧
      LongestAccepted text.toList 2 := by
  intro text
  have refused :
      parseChecked text = .error (.pattern (.mismatch ⟨.missingPrecision, 3, text.toList⟩)) := by
    rw [parseChecked_eq, Style.parse, String.toList_ofList]
    rfl
  rcases parse_stops_at_mismatch refused with ⟨e, same, _, places⟩ | ⟨n, same, _⟩
  · cases same
    exact ⟨refused, (places.unfinished rfl Cause.noConfusion).2⟩
  · cases same

/-- A width of too many digits hides the place of the letter behind it. -/
theorem Style.parse_misses_place :
    let text := String.ofList (List.replicate 4301 '1' ++ ['q'])
    parseChecked text = .error (.pattern (.digits (.tooLong 4301))) ∧
      ∀ e : PatternError, parseChecked text ≠ .error (.pattern (.mismatch e)) := by
  intro text
  have refused : parseChecked text = .error (.pattern (.digits (.tooLong 4301))) := by
    have scanned := Pattern.scan_replicate_one Unicode.classes ['q'] rfl
    rw [parseChecked_eq, Style.parse, String.toList_ofList,
      Pattern.read_eq_digits_iff.mpr scanned]
    rfl
  refine ⟨refused, fun e same => ?_⟩
  rw [refused] at same
  cases same

end Numeral
