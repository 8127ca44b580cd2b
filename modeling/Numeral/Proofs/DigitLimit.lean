import Numeral.Proofs.Steps

namespace Numeral

/-- An outcome is another one, or that a number has too many digits. -/
def Limits {α : Type} (x y : Except ScanError α) : Prop :=
  x = y ∨ ∃ e, x = .error (.digits e)

theorem Limits.bind {α β : Type} {x y : Except ScanError α} {f g : α → Except ScanError β}
    (first : Limits x y) (second : ∀ a, Limits (f a) (g a)) : Limits (x >>= f) (y >>= g) := by
  rcases first with rfl | ⟨e, rfl⟩
  · cases x with
    | error e => exact Or.inl rfl
    | ok a => exact second a
  · exact Or.inr ⟨e, rfl⟩

/-- A text holds `n` digits in a row that no further digit follows, which are more than `most`. -/
def Overlong (most : Nat) (cs : List Char) (n : Nat) : Prop :=
  most < n ∧ ∃ (before after : List Char) (run : Digits 10),
    cs = before ++ (run.chars ++ after) ∧ run.length = n ∧ Digits.goesOn after = false

theorem Overlong.append_left {most n : Nat} {cs : List Char} (long : Overlong most cs n)
    (front : List Char) : Overlong most (front ++ cs) n := by
  obtain ⟨many, before, after, run, rfl, length, ends⟩ := long
  exact ⟨many, front ++ before, after, run, (List.append_assoc ..).symm, length, ends⟩

namespace Scan

variable {most more : Nat}

/-- A higher limit lets more numbers pass and changes nothing else. -/
theorem legible_limits (least : most ≤ more) (found : Option Count × List Char) :
    Limits (legible most found) (legible more found) := by
  unfold legible
  split
  · next run _ =>
    simp only [Digits.read]
    by_cases few : run.length ≤ most
    · rw [if_pos few, if_pos (Nat.le_trans few least)]
      exact Or.inl rfl
    · rw [if_neg few]
      exact Or.inr ⟨_, rfl⟩
  · exact Or.inl rfl

theorem width_limits (least : most ≤ more) (zero : Bool) (cs : List Char) :
    Limits (width most zero cs) (width more zero cs) := by
  unfold width
  split
  · exact Or.inl rfl
  · split
    · exact Or.inl rfl
    · exact legible_limits least _

theorem precision_limits (least : most ≤ more) (cs : List Char) :
    Limits (precision most cs) (precision more cs) := by
  unfold precision
  split
  · split
    · exact Or.inl rfl
    · exact legible_limits least _
  · exact Or.inl rfl

theorem grouping_limits {classes : Unicode.Classes} (least : most ≤ more) (cs : List Char) :
    Limits (grouping classes most cs) (grouping classes more cs) := by
  cases cs with
  | nil => exact Or.inl rfl
  | cons c rest =>
    cases found : GroupMark.ofChar? c with
    | none =>
      simp only [grouping, found]
      exact Or.inl rfl
    | some mark =>
      rw [GroupMark.ofChar?_eq_some_iff.mp found, grouping_mark, grouping_mark]
      by_cases few : (Digits.scan rest).1.length ≤ most
      · rw [if_pos few, if_pos (Nat.le_trans few least)]
        exact Or.inl rfl
      · rw [if_neg few]
        exact Or.inr ⟨_, rfl⟩

/-- The digits at the front of a text are too many to be read. -/
theorem overlong_of_scan {cs : List Char} (many : ¬ (Digits.scan cs).1.length ≤ most) :
    Overlong most cs (Digits.scan cs).1.length :=
  ⟨Nat.lt_of_not_le many, [], (Digits.scan cs).2, (Digits.scan cs).1, (Digits.scan_eq cs).symm, rfl,
    Digits.goesOn_scan cs⟩

theorem legible_count {cs : List Char} {e : DigitError}
    (failed : legible most (count cs) = .error (.digits e)) :
    ∃ n, e = .tooLong n ∧ Overlong most cs n := by
  unfold count at failed
  split at failed
  · cases failed
  · split at failed
    · cases failed
    · next run rest nonempty scanned =>
      simp only [legible, Digits.read] at failed
      split at failed
      · cases failed
      · next many =>
        cases failed
        have taken : (Digits.scan cs).1 = run := congrArg Prod.fst scanned
        rw [← taken] at many ⊢
        exact ⟨_, rfl, overlong_of_scan many⟩

theorem width_digits {zero : Bool} {cs : List Char} {e : DigitError}
    (failed : width most zero cs = .error (.digits e)) :
    ∃ n, e = .tooLong n ∧ Overlong most cs n := by
  unfold width at failed
  split at failed
  · cases failed
  · split at failed
    · cases failed
    · exact legible_count failed

theorem precision_digits {cs : List Char} {e : DigitError}
    (failed : precision most cs = .error (.digits e)) :
    ∃ n, e = .tooLong n ∧ Overlong most cs n := by
  unfold precision at failed
  split at failed
  · split at failed
    · cases failed
    · obtain ⟨n, count, long⟩ := legible_count failed
      exact ⟨n, count, long.append_left ['.']⟩
  · cases failed

theorem grouping_digits {classes : Unicode.Classes} {cs : List Char} {e : DigitError}
    (failed : grouping classes most cs = .error (.digits e)) :
    ∃ n, e = .tooLong n ∧ Overlong most cs n := by
  cases cs with
  | nil => cases failed
  | cons c rest =>
    cases found : GroupMark.ofChar? c with
    | none =>
      simp only [grouping, found] at failed
      split at failed <;> cases failed
    | some mark =>
      rw [GroupMark.ofChar?_eq_some_iff.mp found] at failed ⊢
      rw [grouping_mark] at failed
      split at failed
      · split at failed <;> cases failed
      · next many =>
        cases failed
        exact ⟨_, rfl, (overlong_of_scan many).append_left [mark.char]⟩

/-- Wherever a step fails on the digits of a number, the number stands in the text. -/
def Meets {α : Type} (most : Nat) (step : Reader α) : Prop :=
  ∀ (cs : List Char) (e : DigitError),
    step cs = .error (.digits e) → ∃ n, e = .tooLong n ∧ Overlong most cs n

theorem Meets.andThen {α β : Type} {text : α → List Char} {step : Reader α} {next : α → Reader β}
    (reads : Reads text step) (here : Meets most step) (there : ∀ x, Meets most (next x)) :
    Meets most (andThen step next) := by
  intro cs e failed
  rcases andThen_eq_error failed with first | ⟨x, rest, ok, second⟩
  · exact here cs e first
  · obtain ⟨n, count, long⟩ := there x rest e second
    rw [← reads.taken ok]
    exact ⟨n, count, long.append_left (text x)⟩

theorem zeroWidth_meets (flags : Flags) : Meets most (zeroWidth most flags) := by
  intro cs e failed
  cases flag : zero flags cs with
  | error e' =>
    unfold zeroWidth at failed
    rw [flag] at failed
    cases failed
    unfold zero at flag
    split at flag
    · split at flag <;> cases flag
    · cases flag
  | ok found =>
    obtain ⟨z, rest⟩ := found
    have refused : width most z rest = .error (.digits e) := by
      cases read : width most z rest with
      | error e' => simpa [zeroWidth, flag, read, bind, Except.bind] using failed
      | ok found => simp [zeroWidth, flag, read, bind, Except.bind, pure, Except.pure] at failed
    obtain ⟨n, count, long⟩ := width_digits refused
    rw [(zero_eq flag).1]
    exact ⟨n, count, long.append_left _⟩

theorem radix_meets (classes : Unicode.Classes) : Meets most (radix classes) := by
  intro cs e failed
  unfold radix at failed
  split at failed
  · cases failed
  · split at failed
    · cases failed
    · split at failed <;> cases failed

theorem finish_meets (p : Pattern) : Meets most (finish p) := by
  intro cs e failed
  unfold finish at failed
  split at failed <;> cases failed

theorem steps_meets (classes : Unicode.Classes) : Meets most (steps classes most) := by
  refine .andThen flags_reads nofun fun f => ?_
  refine .andThen sign_reads nofun fun _ => ?_
  refine .andThen alternate_reads nofun fun _ => ?_
  refine .andThen (zeroWidth_reads f) (zeroWidth_meets f) fun _ => ?_
  refine .andThen precision_reads (fun _ _ => precision_digits) fun _ => ?_
  refine .andThen (radix_reads classes) (radix_meets classes) fun _ => ?_
  refine .andThen (grouping_reads classes) (fun _ _ => grouping_digits) fun _ => ?_
  exact finish_meets _

end Scan

namespace Pattern

variable {classes : Unicode.Classes} {most more : Nat}

/-- Under a higher limit a text is read in the same way, unless the lower one is what its reading
fails on. -/
theorem scan_limits (least : most ≤ more) (cs : List Char) :
    Limits (scan classes most cs) (scan classes more cs) := by
  unfold scan
  refine .bind (.inl rfl) fun _ => .bind (Scan.width_limits least _ _) fun _ => ?_
  refine .bind (Scan.precision_limits least _) fun _ => .bind (.inl rfl) fun _ => ?_
  exact .bind (Scan.grouping_limits least _) fun _ => .inl rfl

/-- A number with too many digits is one that stands in the text. -/
theorem scan_digits {cs : List Char} {e : DigitError}
    (failed : scan classes most cs = .error (.digits e)) :
    ∃ n, e = .tooLong n ∧ Overlong most cs n := by
  rw [scan_eq_steps, Except.map_eq_error] at failed
  exact Scan.steps_meets classes cs e failed

/-- A well-formed pattern with a number of too many digits is not read back. -/
theorem scan_text_of_not_legible (marks : ∀ m : GroupMark, classes.letter m.char = false)
    {p : Pattern} (wf : p.WellFormed) (illegible : ¬ p.Legible most) :
    ∃ n, scan classes most p.text = .error (.digits (.tooLong n)) ∧ Overlong most p.text n := by
  have longer := scan_text marks wf (p.legible_length.mono (Nat.le_max_right most _))
  have limits : Limits (scan classes most p.text) (scan classes (max most p.text.length) p.text) :=
    scan_limits (Nat.le_max_left most p.text.length) p.text
  rcases limits with same | ⟨e, failed⟩
  · rw [longer] at same
    exact absurd (scan_sound same).2.1 illegible
  · obtain ⟨n, rfl, long⟩ := scan_digits failed
    exact ⟨n, failed, long⟩

/-- A text that starts with the digits of a width is refused for them if they are too many. A second
digit keeps the first one from being a fill. -/
theorem scan_overlong_width {d e : Digit} {ds : Digits 10} {rest : List Char} (leading : d ≠ 0)
    (many : most < (d :: e :: ds).length) (ends : Digits.goesOn rest = false) :
    scan classes most (Digits.chars (d :: e :: ds) ++ rest) =
      .error (.digits (.tooLong (d :: e :: ds).length)) := by
  have first : ∀ c : Digit, Align.ofChar? c.char = none ∧ SignRule.ofChar? c.char = none ∧
      c.char ≠ '#' ∧ c.char ≠ '$' ∧ (c ≠ 0 → c.char ≠ '0') := by decide
  obtain ⟨align, sign, mark, deferred, zero⟩ := first d
  have zero := zero leading
  have run := Digits.scan_chars_append (d :: e :: ds) ends
  have unread : Digits.read most (d :: e :: ds) = .error (.tooLong (d :: e :: ds).length) :=
    if_neg (Nat.not_le_of_lt many)
  have illegible : Scan.legible most (some (.digits (d :: e :: ds)), rest) =
      .error (.digits (.tooLong (d :: e :: ds).length)) := by
    simp only [Scan.legible, unread]
    rfl
  have width : Scan.width most false (Digits.chars (d :: e :: ds) ++ rest) =
      .error (.digits (.tooLong (d :: e :: ds).length)) := by
    simp only [Digits.chars, List.map_cons, List.cons_append] at run ⊢
    simp [Scan.width, Scan.count, deferred, zero, run, illegible]
  simp only [Digits.chars, List.map_cons, List.cons_append] at width ⊢
  simp [scan, Scan.flags, align, (first e).1, Scan.sign, sign, Scan.alternate, mark, Scan.zero, zero,
    width, bind, Except.bind]

theorem scan_replicate_one (classes : Unicode.Classes) (rest : List Char)
    (ends : Digits.goesOn rest = false) :
    scan classes Digits.limit (List.replicate 4301 '1' ++ rest) =
      .error (.digits (.tooLong 4301)) := by
  have many : Digits.limit < (1 :: 1 :: List.replicate 4299 (1 : Digit)).length := by
    rw [List.length_cons, List.length_cons, List.length_replicate]
    decide
  have refused := @scan_overlong_width classes _ 1 1 _ rest (by decide) many ends
  rw [← List.replicate_succ, ← List.replicate_succ, Digits.chars, List.map_replicate,
    List.length_replicate] at refused
  exact refused

end Pattern

end Numeral
