import Numeral.Proofs.Steps

namespace Numeral

/-- What the group in which the reading stops has taken before that place. A zero flag is nothing
without its width and a point nothing without its precision; a separator can stand alone. -/
def Cause.overrun : Cause → List Char
  | .zeroBeforeWidth | .zeroWithoutWidth => ['0']
  | .missingPrecision => ['.']
  | _ => []

/-- What completes such a group. -/
def Cause.mend (cause : Cause) : List Char :=
  if cause.overrun = [] then [] else ['$']

namespace Scan

open Pattern (Starts)

/-- The text that completes a group may stand in the place of the text that does not. -/
theorem Cut.mend (cause : Cause) (rest : List Char) :
    Cut (cause.overrun ++ cause.mend) (cause.overrun ++ rest) := by
  cases cause with
  | zeroBeforeWidth | zeroWithoutWidth | missingPrecision => exact .cons rfl
  | _ => exact .of_front List.nil_prefix

/-- A step stops where nothing can go on. The text up to the group it stops in is read whole, no
longer piece of the text is, and the text up to the place itself is once the group is completed. -/
structure Halting {α : Type} (step : Reader α) (cs : List Char) (stop : Stop)
    (before : List Char) : Prop where
  whole : cs = before ++ (stop.cause.overrun ++ stop.rest)
  read : ∃ x, step before = .ok (x, [])
  longer : ∀ {kept : List Char}, kept ≠ [] → kept <+: stop.cause.overrun ++ stop.rest →
    ∃ e, step (before ++ kept) = .error e
  mended : ∃ x, step (before ++ (stop.cause.overrun ++ stop.cause.mend)) = .ok (x, [])

/-- Wherever the step stops, nothing can go on. -/
def Halts {α : Type} (step : Reader α) : Prop :=
  ∀ (cs : List Char) (stop : Stop),
    step cs = .error (.stop stop) → ∃ before, Halting step cs stop before

section andThen

variable {α β : Type} {step : Reader α} {next : α → Reader β} {cs : List Char}

/-- A failure of the first step is one of both, since nothing has to follow. -/
theorem Halting.first {stop : Stop} {before : List Char}
    (ends : ∀ x, ∃ y, next x [] = .ok (y, [])) (halting : Halting step cs stop before) :
    Halting (andThen step next) cs stop before where
  whole := halting.whole
  read := by
    obtain ⟨x, read⟩ := halting.read
    obtain ⟨y, ended⟩ := ends x
    exact ⟨y, (andThen_ok read).trans ended⟩
  longer nonempty front := by
    obtain ⟨e, failed⟩ := halting.longer nonempty front
    exact ⟨e, andThen_error failed⟩
  mended := by
    obtain ⟨x, read⟩ := halting.mended
    obtain ⟨y, ended⟩ := ends x
    exact ⟨y, (andThen_ok read).trans ended⟩

/-- A failure of the second step is one of both, since the first one reads the same group whatever
piece of the text it is given. -/
theorem Halting.second {text : α → List Char} (reads : Reads text step) {x : α}
    {rest : List Char} (ok : step cs = .ok (x, rest)) {stop : Stop} {before : List Char}
    (halting : Halting (next x) rest stop before) :
    Halting (andThen step next) cs stop (text x ++ before) := by
  have whole := reads.taken ok
  have same : step (text x ++ rest) = .ok (x, rest) := by rw [whole, ok]
  have onCut {kept : List Char} (cut : Cut kept (stop.cause.overrun ++ stop.rest)) :
      andThen step next (text x ++ before ++ kept) = next x (before ++ kept) := by
    rw [List.append_assoc]
    refine andThen_ok (reads.cut same ?_)
    rw [halting.whole]
    exact cut.append before
  constructor
  case whole => rw [List.append_assoc, ← halting.whole, whole]
  case read =>
    obtain ⟨y, read⟩ := halting.read
    have short := onCut (.of_front List.nil_prefix)
    rw [List.append_nil, List.append_nil] at short
    exact ⟨y, short.trans read⟩
  case longer =>
    intro kept nonempty front
    obtain ⟨e, failed⟩ := halting.longer nonempty front
    exact ⟨e, (onCut (.of_front front)).trans failed⟩
  case mended =>
    obtain ⟨y, read⟩ := halting.mended
    exact ⟨y, (onCut (.mend stop.cause stop.rest)).trans read⟩

theorem Halts.andThen {text : α → List Char} (reads : Reads text step) (halts : Halts step)
    (ends : ∀ x, ∃ y, next x [] = .ok (y, [])) (later : ∀ x, Halts (next x)) :
    Halts (andThen step next) := by
  intro cs stop failed
  rcases andThen_eq_error failed with here | ⟨x, rest, read, there⟩
  · obtain ⟨before, halting⟩ := halts cs stop here
    exact ⟨before, halting.first ends⟩
  · obtain ⟨before, halting⟩ := later x rest stop there
    exact ⟨text x ++ before, halting.second reads read⟩

end andThen

/-- A step that stops at once stops where nothing can go on if it refuses every text that starts
with the character it has stopped at. -/
theorem Halting.at_once {α : Type} {step : Reader α} {cause : Cause} {c : Char} {rest : List Char}
    (alone : cause.overrun = []) (empty : ∃ x, step [] = .ok (x, []))
    (refused : ∀ tail, ∃ e, step (c :: tail) = .error e) :
    Halting step (c :: rest) ⟨cause, c :: rest⟩ [] where
  whole := by rw [alone]; rfl
  read := empty
  longer {kept} nonempty front := by
    cases kept with
    | nil => exact absurd rfl nonempty
    | cons d kept =>
      rw [alone, List.nil_append, List.cons_prefix_cons] at front
      obtain ⟨rfl, _⟩ := front
      exact refused kept
  mended := by
    rw [Cause.mend, if_pos alone, alone]
    exact empty

/-- No count starts with this character. -/
def NoCount (c : Char) : Prop :=
  c ≠ '$' ∧ Digit.ofChar? c = none

theorem count_eq_none_iff {cs rest : List Char} :
    count cs = (none, rest) ↔ rest = cs ∧ Starts NoCount cs := by
  constructor
  · intro read
    obtain ⟨ends, absent⟩ := count_stops read
    obtain ⟨whole, _⟩ := count_eq cs
    rw [read] at whole
    obtain rfl : rest = cs := whole
    refine ⟨rfl, fun c tail same => ⟨absent rfl c tail same, ?_⟩⟩
    have stops := ends (by simp)
    rw [same] at stops
    simpa [Digits.goesOn] using stops
  · rintro ⟨rfl, starts⟩
    refine @count_text_append none rest (by simp) (fun _ => ?_) fun _ tail same => ?_
    · exact Starts.goesOn fun c tail same => (starts c tail same).2
    · exact (starts '$' tail same).1 rfl

theorem zero_error {f : Flags} {cs : List Char} {stop : Stop} (failed : zero f cs = .error (.stop stop)) :
    ∃ fill a tail, f = .pair fill a ∧ cs = '0' :: tail ∧ stop = ⟨.zeroAfterFill fill, cs⟩ := by
  unfold zero at failed
  split at failed
  · split at failed
    · cases failed
      exact ⟨_, _, _, rfl, rfl, rfl⟩
    · cases failed
  · cases failed

variable {most : Nat}

/-- A count is never refused for the place where it stands. -/
theorem legible_ne_stop {found : Option Count × List Char} {stop : Stop} :
    legible most found ≠ .error (.stop stop) := by
  intro failed
  unfold legible at failed
  split at failed
  · unfold Digits.read at failed
    split at failed <;> cases failed
  · cases failed

/-- After the zero flag there has to be a width, and no further zero. -/
theorem width_true_error_iff {cs : List Char} :
    (∃ stop, width most true cs = .error (.stop stop)) ↔ Starts (fun c => c = '0' ∨ NoCount c) cs := by
  constructor
  · rintro ⟨stop, failed⟩
    unfold width at failed
    split at failed
    · intro c tail same
      exact Or.inl (List.cons.inj same).1.symm
    · split at failed
      · next rest _ read _ =>
        intro c tail same
        exact Or.inr ((count_eq_none_iff.mp read).2 c tail same)
      · exact absurd failed legible_ne_stop
  · intro starts
    unfold width
    split
    · exact ⟨_, rfl⟩
    · next other =>
      have read : count cs = (none, cs) := by
        refine count_eq_none_iff.mpr ⟨rfl, fun c tail same => ?_⟩
        refine (starts c tail same).resolve_left fun zero => ?_
        rw [zero] at same
        exact other tail same
      rw [read]
      exact ⟨_, rfl⟩

theorem width_error {z : Bool} {cs : List Char} {stop : Stop}
    (failed : width most z cs = .error (.stop stop)) :
    stop.cause.overrun = ['0'] ∧ stop.rest = cs ∧ (z = false → ∃ tail, cs = '0' :: tail) := by
  unfold width at failed
  split at failed
  · next tail =>
    cases failed
    exact ⟨rfl, rfl, fun _ => ⟨tail, rfl⟩⟩
  · split at failed
    · next read =>
      cases failed
      exact ⟨rfl, (count_eq_none_iff.mp read).1, nofun⟩
    · exact absurd failed legible_ne_stop

/-- The zero flag is refused behind fill and alignment, and where no width follows it. -/
theorem zeroWidth_error {f : Flags} {cs : List Char} {stop : Stop}
    (failed : zeroWidth most f cs = .error (.stop stop)) :
    (∃ fill a tail, f = .pair fill a ∧ cs = '0' :: tail ∧ stop = ⟨.zeroAfterFill fill, cs⟩) ∨
      (stop.cause.overrun = ['0'] ∧ cs = '0' :: stop.rest ∧ (∀ c a, f ≠ .pair c a) ∧
        Starts (fun c => c = '0' ∨ NoCount c) stop.rest) := by
  cases flag : zero f cs with
  | error e =>
    simp only [zeroWidth, flag, bind, Except.bind] at failed
    cases failed
    exact Or.inl (zero_error flag)
  | ok found =>
    obtain ⟨z, rest⟩ := found
    have refused : width most z rest = .error (.stop stop) := by
      cases read : width most z rest with
      | error e => simpa [zeroWidth, flag, read, bind, Except.bind] using failed
      | ok found => simp [zeroWidth, flag, read, bind, Except.bind, pure, Except.pure] at failed
    obtain ⟨overrun, rfl, zero⟩ := width_error refused
    cases z with
    | false =>
      obtain ⟨same, first⟩ := zero_false flag
      obtain ⟨tail, starts⟩ := zero rfl
      exact absurd rfl (first '0' tail (same.symm.trans starts))
    | true =>
      obtain ⟨taken, unpaired⟩ := zero_eq flag
      exact Or.inr ⟨overrun, taken, unpaired rfl, width_true_error_iff.mp ⟨stop, refused⟩⟩

theorem zeroWidth_halts (f : Flags) : Halts (zeroWidth most f) := by
  intro cs stop failed
  rcases zeroWidth_error failed with ⟨fill, a, tail, rfl, rfl, rfl⟩ |
    ⟨overrun, taken, unpaired, starts⟩
  · exact ⟨[], .at_once rfl ⟨_, rfl⟩ fun _ => ⟨_, rfl⟩⟩
  · have flagged (rest : List Char) : Scan.zero f ('0' :: rest) = .ok (true, rest) :=
      zero_text_append (b := true) (fun _ => unpaired) nofun
    refine ⟨[], ?_, ⟨(false, none), rfl⟩, fun {kept} nonempty front => ?_, ?_⟩
    · rw [overrun, taken]
      rfl
    · rw [overrun] at front
      cases kept with
      | nil => exact absurd rfl nonempty
      | cons c kept =>
        obtain ⟨rfl, short⟩ := List.cons_prefix_cons.mp front
        obtain ⟨e, failed⟩ :=
          (@width_true_error_iff most kept).mpr ((Cut.of_front short).starts starts)
        refine ⟨.stop e, ?_⟩
        simp only [List.nil_append, zeroWidth, flagged, failed, bind, Except.bind]
    · rw [Cause.mend, overrun, if_neg (List.cons_ne_nil _ _)]
      exact ⟨(true, some .deferred), zeroWidth_eq_ok_iff.mpr ⟨['$'], flagged _, rfl⟩⟩

/-- A point is refused where no count follows it. -/
theorem precision_error {cs : List Char} {stop : Stop}
    (failed : precision most cs = .error (.stop stop)) :
    ∃ rest, cs = '.' :: rest ∧ stop = ⟨.missingPrecision, rest⟩ ∧ Starts NoCount rest := by
  unfold precision at failed
  split at failed
  · next tail =>
    split at failed
    · next rest read =>
      cases failed
      obtain ⟨rfl, starts⟩ := count_eq_none_iff.mp read
      exact ⟨rest, rfl, rfl, starts⟩
    · exact absurd failed legible_ne_stop
  · cases failed

theorem precision_halts : Halts (precision most) := by
  intro cs stop failed
  obtain ⟨rest, rfl, rfl, starts⟩ := precision_error failed
  refine ⟨[], rfl, ⟨none, rfl⟩, fun {kept} nonempty front => ?_, ⟨some .deferred, rfl⟩⟩
  cases kept with
  | nil => exact absurd rfl nonempty
  | cons c kept =>
    obtain ⟨rfl, short⟩ := List.cons_prefix_cons.mp front
    have none := count_eq_none_iff.mpr ⟨rfl, (Cut.of_front short).starts starts⟩
    exact ⟨.stop ⟨.missingPrecision, kept⟩, by simp only [List.nil_append, precision, none]⟩

/-- A letter that stands for no base is refused. -/
theorem radix_error {classes : Unicode.Classes} {cs : List Char} {stop : Stop}
    (failed : radix classes cs = .error (.stop stop)) :
    ∃ c tail, cs = c :: tail ∧ stop = ⟨.unknownRadix c, cs⟩ ∧ Radix.ofCode? c = none ∧
      classes.letter c = true := by
  unfold radix at failed
  split at failed
  · cases failed
  · next c tail =>
    split at failed
    · cases failed
    · next code =>
      split at failed
      · next letter =>
        cases failed
        exact ⟨c, tail, rfl, rfl, code, letter⟩
      · cases failed

theorem radix_halts (classes : Unicode.Classes) : Halts (radix classes) := by
  intro cs stop failed
  obtain ⟨c, tail, rfl, rfl, code, letter⟩ := radix_error failed
  refine ⟨[], .at_once rfl ⟨none, rfl⟩ fun tail => ?_⟩
  simp [radix, code, letter]

/-- A separator is refused where the digits behind it come to nothing, and any other character that
neither is a letter or numeral nor belongs to a pattern elsewhere. -/
theorem grouping_error {classes : Unicode.Classes} {cs : List Char} {stop : Stop}
    (failed : grouping classes most cs = .error (.stop stop)) :
    (∃ (mark : GroupMark) (rest : List Char), cs = mark.char :: rest ∧ stop = ⟨.zeroSpacing, rest⟩ ∧
      (Digits.scan rest).1 ≠ [] ∧ Digits.value (Digits.scan rest).1 = 0) ∨
      ∃ c tail, cs = c :: tail ∧ stop = ⟨.unknownSeparator c, cs⟩ ∧ GroupMark.ofChar? c = none ∧
        ¬ (classes.letterOrNumeral c || reserved.contains c) = true := by
  cases cs with
  | nil => cases failed
  | cons c rest =>
    cases found : GroupMark.ofChar? c with
    | some mark =>
      rw [GroupMark.ofChar?_eq_some_iff.mp found] at failed ⊢
      rw [grouping_mark] at failed
      split at failed
      · split at failed
        · next zero =>
          cases failed
          exact Or.inl ⟨mark, rest, rfl, rfl, zero⟩
        · cases failed
      · cases failed
    | none =>
      simp only [grouping, found] at failed
      split at failed
      · cases failed
      · next unknown =>
        cases failed
        exact Or.inr ⟨c, rest, rfl, rfl, found, unknown⟩

/-- Where the digits behind a separator come to nothing, so does every piece of them that is not
empty. The separator alone leaves the size open. -/
theorem grouping_halts (classes : Unicode.Classes) : Halts (grouping classes most) := by
  intro cs stop failed
  rcases grouping_error failed with ⟨mark, rest, rfl, rfl, zero⟩ |
    ⟨c, tail, rfl, rfl, mark, unknown⟩
  · have alone : ∃ g, grouping classes most [mark.char] = .ok (g, []) :=
      ⟨some ⟨mark, []⟩, by simp [grouping_mark, Digits.scan]⟩
    refine ⟨[mark.char], rfl, alone, fun {kept} nonempty front => ?_, alone⟩
    have goesOn : Digits.goesOn kept = true := by
      have some := Digits.scan_ne_nil_iff.mp zero.1
      cases kept with
      | nil => exact absurd rfl nonempty
      | cons d kept =>
        obtain ⟨after, rfl⟩ := front
        exact some
    have nothing := Digits.value_eq_zero_of_front (by decide) (Digits.scan_front front) zero.2
    simp only [List.cons_append, List.nil_append, grouping_mark]
    split
    · exact ⟨_, if_pos ⟨Digits.scan_ne_nil_iff.mpr goesOn, nothing⟩⟩
    · exact ⟨_, rfl⟩
  · refine ⟨[], .at_once rfl ⟨none, rfl⟩ fun tail => ⟨.stop ⟨.unknownSeparator c, c :: tail⟩, ?_⟩⟩
    simp only [grouping, mark]
    exact if_neg unknown

theorem finish_halts (p : Pattern) : Halts (finish p) := by
  intro cs stop failed
  cases cs with
  | nil => cases failed
  | cons c rest =>
    cases failed
    exact ⟨[], .at_once rfl ⟨p, rfl⟩ fun tail => ⟨_, rfl⟩⟩

theorem steps_halts (classes : Unicode.Classes) : Halts (steps classes most) := by
  refine .andThen flags_reads nofun (fun _ => ⟨_, rfl⟩) fun f => ?_
  refine .andThen sign_reads nofun (fun _ => ⟨_, rfl⟩) fun _ => ?_
  refine .andThen alternate_reads nofun (fun _ => ⟨_, rfl⟩) fun _ => ?_
  refine .andThen (zeroWidth_reads f) (zeroWidth_halts f) (fun _ => ⟨_, rfl⟩) fun _ => ?_
  refine .andThen precision_reads precision_halts (fun _ => ⟨_, rfl⟩) fun _ => ?_
  refine .andThen (radix_reads classes) (radix_halts classes) (fun _ => ⟨_, rfl⟩) fun _ => ?_
  refine .andThen (grouping_reads classes) (grouping_halts classes) (fun _ => ⟨_, rfl⟩) fun _ => ?_
  exact finish_halts _

end Scan

end Numeral
