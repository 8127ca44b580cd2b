import Numeral.Digits.Lemmas
import Numeral.Outcome
import Numeral.Pattern.Scan

namespace Numeral

namespace Scan

theorem flags_eq (cs : List Char) : (flags cs).1.text ++ (flags cs).2 = cs := by
  unfold flags
  split
  · rfl
  · next c rest =>
    split
    · next a align => rw [Align.ofChar?_eq_some_iff.mp align]; rfl
    · rfl
    · next d after _ =>
      split
      · next a align => rw [Align.ofChar?_eq_some_iff.mp align]; rfl
      · rfl

theorem flags_fill {cs : List Char} {c : Char} {a : Align} (pair : (flags cs).1 = .pair c a) :
    Align.ofChar? c = none := by
  unfold flags at pair
  split at pair
  · cases pair
  · split at pair
    · cases pair
    · cases pair
    · next none =>
      split at pair
      · cases pair
        assumption
      · cases pair

theorem flags_text_append {f : Flags} {rest : List Char}
    (fill : ∀ c a, f = .pair c a → Align.ofChar? c = none)
    (plain : f = .none → ∀ c ∈ rest, Align.ofChar? c = none) :
    flags (f.text ++ rest) = (f, rest) := by
  cases f with
  | none =>
    have other := plain rfl
    cases rest with
    | nil => rfl
    | cons c rest =>
      cases rest with
      | nil => simp [Flags.text, flags, other c]
      | cons d rest => simp [Flags.text, flags, other c, other d]
  | align a => simp [Flags.text, flags, Align.ofChar?_char]
  | pair c a => simp [Flags.text, flags, fill c a rfl, Align.ofChar?_char]

theorem sign_eq (cs : List Char) :
    ((sign cs).1.map SignRule.char).toList ++ (sign cs).2 = cs := by
  unfold sign
  split
  · rfl
  · split
    · next s found => rw [SignRule.ofChar?_eq_some_iff.mp found]; rfl
    · rfl

theorem sign_text_append {s : Option SignRule} {rest : List Char}
    (ends : s = none → ∀ c tail, rest = c :: tail → SignRule.ofChar? c = none) :
    sign ((s.map SignRule.char).toList ++ rest) = (s, rest) := by
  cases s with
  | none =>
    cases rest with
    | nil => rfl
    | cons c rest => simp [sign, ends rfl c rest rfl]
  | some s => simp [sign, SignRule.ofChar?_char]

theorem alternate_eq (cs : List Char) :
    (if (alternate cs).1 then ['#'] else []) ++ (alternate cs).2 = cs := by
  unfold alternate
  split <;> rfl

theorem alternate_text_append {b : Bool} {rest : List Char}
    (ends : b = false → ∀ tail, rest ≠ '#' :: tail) :
    alternate ((if b then ['#'] else []) ++ rest) = (b, rest) := by
  cases b with
  | true => rfl
  | false =>
    unfold alternate
    split
    · next tail same => exact absurd same (ends rfl tail)
    · rfl

theorem zero_eq {f : Flags} {cs rest : List Char} {b : Bool} (ok : zero f cs = .ok (b, rest)) :
    cs = (if b then ['0'] else []) ++ rest ∧ (b = true → ∀ c a, f ≠ .pair c a) := by
  unfold zero at ok
  split at ok
  · split at ok
    · cases ok
    · next other =>
      cases ok
      exact ⟨rfl, fun _ => other⟩
  · cases ok
    exact ⟨rfl, fun true => by cases true⟩

theorem zero_text_append {f : Flags} {b : Bool} {rest : List Char}
    (allowed : b = true → ∀ c a, f ≠ .pair c a) (ends : b = false → ∀ tail, rest ≠ '0' :: tail) :
    zero f ((if b then ['0'] else []) ++ rest) = .ok (b, rest) := by
  cases b with
  | true =>
    cases f with
    | pair c a => exact absurd rfl (allowed rfl c a)
    | none => rfl
    | align a => rfl
  | false =>
    unfold zero
    split
    · next tail same => exact absurd same (ends rfl tail)
    · rfl

theorem count_eq (cs : List Char) :
    ((count cs).1.map Count.text).getD [] ++ (count cs).2 = cs ∧
      ∀ run, (count cs).1 = some (.digits run) → run ≠ [] := by
  have whole := Digits.scan_eq cs
  unfold count
  split
  · exact ⟨rfl, fun run found => by cases found⟩
  · split
    · next rest scanned =>
      rw [scanned] at whole
      exact ⟨whole, fun run found => by cases found⟩
    · next run rest nonempty scanned =>
      rw [scanned] at whole
      refine ⟨whole, fun run' found => ?_⟩
      cases found
      exact nonempty

theorem count_text_append {n : Option Count} {rest : List Char}
    (nonempty : ∀ run, n = some (.digits run) → run ≠ [])
    (ends : n ≠ some .deferred → Digits.goesOn rest = false)
    (absent : n = none → ∀ tail, rest ≠ '$' :: tail) :
    count ((n.map Count.text).getD [] ++ rest) = (n, rest) := by
  cases n with
  | none =>
    have scanned := Digits.scan_chars_append [] (ends (by simp))
    unfold count
    split
    · next tail same => exact absurd same (absent rfl tail)
    · simp only [Digits.chars, List.map_nil, List.nil_append] at scanned
      simp [scanned]
  | some n =>
    cases n with
    | deferred => rfl
    | digits run =>
      have scanned := Digits.scan_chars_append run (ends (by simp))
      cases run with
      | nil => exact absurd rfl (nonempty [] rfl)
      | cons d run =>
        simp only [Option.map_some, Option.getD_some, Count.text]
        unfold count
        split
        · next same =>
          have read := Digit.ofChar?_char d
          rw [show Digit.char d = '$' from (List.cons.inj same).1] at read
          cases read
        · rw [scanned]

theorem legible_eq_ok_iff {most : Nat} {found out : Option Count × List Char} :
    legible most found = .ok out ↔
      found = out ∧ ∀ run, found.1 = some (.digits run) → run.length ≤ most := by
  unfold legible
  split
  · next run written =>
    rw [written]
    simp only [Digits.read]
    split
    · next few =>
      refine ⟨fun ok => ⟨Except.ok.inj ok, fun run' same => ?_⟩, fun ok => congrArg _ ok.1⟩
      cases same
      exact few
    · next many => exact ⟨nofun, fun ok => absurd (ok.2 run rfl) many⟩
  · next other =>
    exact ⟨fun ok => ⟨Except.ok.inj ok, fun run same => absurd same (other run)⟩,
      fun ok => congrArg _ ok.1⟩

theorem width_eq {most : Nat} {zero : Bool} {cs rest : List Char} {n : Option Count}
    (ok : width most zero cs = .ok (n, rest)) :
    (n.map Count.text).getD [] ++ rest = cs ∧ (zero = true → n ≠ none) ∧
      (∀ run, n = some (.digits run) → ∃ d ds, run = d :: ds ∧ d ≠ 0) ∧
      ∀ run, n = some (.digits run) → run.length ≤ most := by
  unfold width at ok
  split at ok
  · cases ok
  · next leading =>
    obtain ⟨whole, nonempty⟩ := count_eq cs
    split at ok
    · cases ok
    · next found flag allowed =>
      obtain ⟨same, few⟩ := legible_eq_ok_iff.mp ok
      rw [same] at whole nonempty few
      refine ⟨whole, fun flagged absent => ?_, fun run written => ?_, few⟩
      · exact allowed rest (by rw [same, absent]) flagged
      · cases run with
        | nil => exact absurd rfl (nonempty [] written)
        | cons d ds =>
          refine ⟨d, ds, rfl, fun zero => ?_⟩
          rw [written, zero] at whole
          exact leading _ whole.symm

theorem width_text_append {most : Nat} {zero : Bool} {n : Option Count} {rest : List Char}
    (present : zero = true → n ≠ none)
    (leading : ∀ run, n = some (.digits run) → ∃ d ds, run = d :: ds ∧ d ≠ 0)
    (few : ∀ run, n = some (.digits run) → run.length ≤ most)
    (ends : n ≠ some .deferred → Digits.goesOn rest = false)
    (absent : n = none → ∀ tail, rest ≠ '$' :: tail) :
    width most zero ((n.map Count.text).getD [] ++ rest) = .ok (n, rest) := by
  have read : count ((n.map Count.text).getD [] ++ rest) = (n, rest) := by
    refine count_text_append (fun run written => ?_) ends absent
    obtain ⟨d, ds, same, _⟩ := leading run written
    simp [same]
  unfold width
  split
  · next tail same =>
    cases n with
    | none =>
      simp only [Option.map_none, Option.getD_none, List.nil_append] at same
      have stops := ends (by simp)
      rw [same] at stops
      cases stops
    | some n =>
      cases n with
      | deferred => cases same
      | digits run =>
        obtain ⟨d, ds, rfl, nonzero⟩ := leading run rfl
        have head : Digit.char d = '0' := (List.cons.inj same).1
        have zero := Digit.ofChar?_char d
        rw [head] at zero
        exact absurd (Option.some.inj zero).symm nonzero
  · rw [read]
    cases n with
    | none =>
      cases zero with
      | true => exact absurd rfl (present rfl)
      | false => rfl
    | some n => cases zero <;> exact legible_eq_ok_iff.mpr ⟨rfl, few⟩

theorem precision_eq {most : Nat} {cs rest : List Char} {n : Option Count}
    (ok : precision most cs = .ok (n, rest)) :
    (n.map fun count => '.' :: count.text).getD [] ++ rest = cs ∧
      (∀ run, n = some (.digits run) → run ≠ []) ∧
      ∀ run, n = some (.digits run) → run.length ≤ most := by
  unfold precision at ok
  split at ok
  · next tail =>
    obtain ⟨whole, nonempty⟩ := count_eq tail
    split at ok
    · cases ok
    · next found =>
      obtain ⟨same, few⟩ := legible_eq_ok_iff.mp ok
      rw [same] at whole nonempty few
      cases n with
      | none => exact absurd same (found rest)
      | some n => exact ⟨congrArg ('.' :: ·) whole, nonempty, few⟩
  · cases ok
    exact ⟨rfl, nofun, nofun⟩

theorem precision_text_append {most : Nat} {n : Option Count} {rest : List Char}
    (nonempty : ∀ run, n = some (.digits run) → run ≠ [])
    (few : ∀ run, n = some (.digits run) → run.length ≤ most)
    (ends : n ≠ none → n ≠ some .deferred → Digits.goesOn rest = false)
    (absent : n = none → ∀ tail, rest ≠ '.' :: tail) :
    precision most ((n.map fun count => '.' :: count.text).getD [] ++ rest) = .ok (n, rest) := by
  cases n with
  | none =>
    unfold precision
    split
    · next tail same => exact absurd same (absent rfl tail)
    · rfl
  | some n =>
    have read := count_text_append nonempty (ends nofun) nofun
    simp only [Option.map_some, Option.getD_some] at read
    simp only [Option.map_some, Option.getD_some, List.cons_append, precision, read]
    exact legible_eq_ok_iff.mpr ⟨rfl, few⟩

theorem radix_eq {classes : Unicode.Classes} {cs rest : List Char} {r : Option Radix}
    (ok : radix classes cs = .ok (r, rest)) : (r.map Radix.code).toList ++ rest = cs := by
  unfold radix at ok
  split at ok
  · cases ok
    rfl
  · split at ok
    · next found =>
      cases ok
      rw [Radix.ofCode?_eq_some_iff.mp found]
      rfl
    · split at ok
      · cases ok
      · cases ok
        rfl

theorem radix_text_append {classes : Unicode.Classes} {r : Option Radix} {rest : List Char}
    (ends : r = none → ∀ c tail, rest = c :: tail →
      Radix.ofCode? c = none ∧ classes.letter c = false) :
    radix classes ((r.map Radix.code).toList ++ rest) = .ok (r, rest) := by
  cases r with
  | none =>
    cases rest with
    | nil => rfl
    | cons c rest =>
      obtain ⟨code, letter⟩ := ends rfl c rest rfl
      simp [radix, code, letter]
  | some r => simp [radix, Radix.ofCode?_code]

/-- A separator takes the digits behind it, which have to be few and not all zeros. -/
theorem grouping_mark {classes : Unicode.Classes} {most : Nat} {mark : GroupMark}
    {cs : List Char} :
    grouping classes most (mark.char :: cs) =
      if (Digits.scan cs).1.length ≤ most then
        if (Digits.scan cs).1 ≠ [] ∧ Digits.value (Digits.scan cs).1 = 0 then
          .error (.stop ⟨.zeroSpacing, cs⟩)
        else .ok (some ⟨mark, (Digits.scan cs).1⟩, (Digits.scan cs).2)
      else .error (.digits (.tooLong (Digits.scan cs).1.length)) := by
  simp only [grouping, GroupMark.ofChar?_char, Digits.read]
  split <;> rfl

theorem grouping_eq {classes : Unicode.Classes} {most : Nat} {cs rest : List Char}
    {g : Option Grouping} (ok : grouping classes most cs = .ok (g, rest)) :
    (g.map Grouping.text).getD [] ++ rest = cs ∧
      (∀ g', g = some g' → g'.run ≠ [] → 0 < Digits.value g'.run) ∧
      ∀ g', g = some g' → g'.run.length ≤ most := by
  cases cs with
  | nil =>
    cases ok
    exact ⟨rfl, nofun, nofun⟩
  | cons c tail =>
    cases found : GroupMark.ofChar? c with
    | some mark =>
      have whole := Digits.scan_eq tail
      rw [GroupMark.ofChar?_eq_some_iff.mp found] at ok ⊢
      rw [grouping_mark] at ok
      split at ok
      · next few =>
        split at ok
        · cases ok
        · next spacing =>
          cases ok
          refine ⟨congrArg (mark.char :: ·) whole, fun g' written nonempty => ?_,
            fun g' written => ?_⟩
          · cases written
            exact Nat.pos_of_ne_zero fun zero => spacing ⟨nonempty, zero⟩
          · cases written
            exact few
      · cases ok
    | none =>
      simp only [grouping, found] at ok
      split at ok
      · cases ok
        exact ⟨rfl, nofun, nofun⟩
      · cases ok

theorem grouping_text_append {classes : Unicode.Classes} {most : Nat} {g : Option Grouping}
    {rest : List Char}
    (spacing : ∀ g', g = some g' → g'.run ≠ [] → 0 < Digits.value g'.run)
    (few : ∀ g', g = some g' → g'.run.length ≤ most)
    (ends : g ≠ none → Digits.goesOn rest = false)
    (absent : g = none → ∀ c tail, rest = c :: tail →
      GroupMark.ofChar? c = none ∧ (classes.letterOrNumeral c || reserved.contains c) = true) :
    grouping classes most ((g.map Grouping.text).getD [] ++ rest) = .ok (g, rest) := by
  cases g with
  | none =>
    cases rest with
    | nil => rfl
    | cons c rest =>
      obtain ⟨mark, elsewhere⟩ := absent rfl c rest rfl
      simp only [Option.map_none, Option.getD_none, List.nil_append, grouping, mark]
      rw [if_pos elsewhere]
  | some g =>
    have read := Digits.scan_chars_append g.run (ends (by simp))
    have positive := spacing g rfl
    simp only [Option.map_some, Option.getD_some, Grouping.text, List.cons_append, grouping_mark,
      read]
    rw [if_pos (few g rfl), if_neg fun zero => by have := positive zero.1; omega]

theorem grouping_text {classes : Unicode.Classes} {most : Nat} {g : Option Grouping}
    (spacing : ∀ g', g = some g' → g'.run ≠ [] → 0 < Digits.value g'.run)
    (few : ∀ g', g = some g' → g'.run.length ≤ most) :
    grouping classes most ((g.map Grouping.text).getD []) = .ok (g, []) := by
  have read := @grouping_text_append classes most g [] spacing few (fun _ => rfl) nofun
  rwa [List.append_nil] at read

end Scan

namespace Pattern

/-- Whatever is read is a well-formed pattern and is read whole. -/
theorem scan_sound {classes : Unicode.Classes} {most : Nat} {cs : List Char} {p : Pattern}
    (ok : scan classes most cs = .ok p) : p.WellFormed ∧ p.Legible most ∧ p.text = cs := by
  unfold scan at ok
  simp only [Except.bind_eq_ok] at ok
  obtain ⟨⟨zero, afterZero⟩, zeroOk, ⟨width, afterWidth⟩, widthOk, ⟨precision, afterPrecision⟩,
    precisionOk, ⟨radix, afterRadix⟩, radixOk, ⟨grouping, afterGrouping⟩, groupingOk, ended⟩ := ok
  simp only at ended
  split at ended
  · next empty =>
    cases ended
    have flagsEq := Scan.flags_eq cs
    have signEq := Scan.sign_eq (Scan.flags cs).2
    have alternateEq := Scan.alternate_eq (Scan.sign (Scan.flags cs).2).2
    obtain ⟨zeroEq, unpaired⟩ := Scan.zero_eq zeroOk
    obtain ⟨widthEq, present, leading, fewWidth⟩ := Scan.width_eq widthOk
    obtain ⟨precisionEq, nonempty, fewPrecision⟩ := Scan.precision_eq precisionOk
    have radixEq := Scan.radix_eq radixOk
    obtain ⟨groupingEq, spacing, fewSpacing⟩ := Scan.grouping_eq groupingOk
    refine ⟨⟨fun c a pair b => ?_, fun flagged => ⟨present flagged, unpaired flagged⟩, leading,
      nonempty, spacing⟩, ⟨fewWidth, fewPrecision, fewSpacing⟩, ?_⟩
    · exact Align.ofChar?_eq_none_iff.mp (Scan.flags_fill pair) b
    · rw [empty, List.append_nil] at groupingEq
      simp only [text]
      rw [groupingEq, radixEq, precisionEq, widthEq, ← zeroEq, alternateEq, signEq, flagsEq]
  · cases ended

theorem read_eq_mismatch_iff {classes : Unicode.Classes} {most : Nat} {cs : List Char}
    {e : PatternError} :
    read classes most cs = .error (.mismatch e) ↔
      ∃ stop, scan classes most cs = .error (.stop stop) ∧
        e = ⟨stop.cause, cs.length - stop.rest.length, cs⟩ := by
  unfold read
  cases scan classes most cs with
  | ok p => simp
  | error e => cases e <;> simp [eq_comm]

theorem read_eq_digits_iff {classes : Unicode.Classes} {most : Nat} {cs : List Char}
    {e : DigitError} :
    read classes most cs = .error (.digits e) ↔ scan classes most cs = .error (.digits e) := by
  unfold read
  cases scan classes most cs with
  | ok p => simp
  | error e => cases e <;> simp

theorem read_eq_ok_iff {classes : Unicode.Classes} {most : Nat} {cs : List Char} {p : Pattern} :
    read classes most cs = .ok p ↔ scan classes most cs = .ok p := by
  unfold read
  cases scan classes most cs with
  | ok p => simp
  | error e => cases e <;> simp

/-- The character with which a text starts, if there is one, satisfies `P`. -/
def Starts (P : Char → Prop) (cs : List Char) : Prop :=
  ∀ c tail, cs = c :: tail → P c

theorem Starts.toList_append {P : Char → Prop} {α : Type} {f : α → Char} {x : Option α}
    {rest : List Char} (here : ∀ a, P (f a)) (after : Starts P rest) :
    Starts P ((x.map f).toList ++ rest) := by
  cases x with
  | none => exact after
  | some a =>
    intro c tail same
    rw [← (List.cons.inj same).1]
    exact here a

theorem Starts.ite_append {P : Char → Prop} {b : Bool} {d : Char} {rest : List Char} (here : P d)
    (after : Starts P rest) : Starts P ((if b then [d] else []) ++ rest) := by
  cases b with
  | false => exact after
  | true =>
    intro c tail same
    rw [← (List.cons.inj same).1]
    exact here

theorem Starts.grouping {P : Char → Prop} {g : Option Grouping}
    (here : ∀ m : GroupMark, P m.char) :
    Starts P ((g.map Grouping.text).getD []) := by
  cases g with
  | none =>
    intro c tail same
    cases same
  | some g =>
    intro c tail same
    rw [← (List.cons.inj same).1]
    exact here g.mark

theorem Starts.precision {P : Char → Prop} {n : Option Count} {rest : List Char} (here : P '.')
    (after : Starts P rest) :
    Starts P ((n.map fun count => '.' :: count.text).getD [] ++ rest) := by
  cases n with
  | none => exact after
  | some n =>
    intro c tail same
    rw [← (List.cons.inj same).1]
    exact here

theorem Starts.width {P : Char → Prop} {n : Option Count} {rest : List Char} (deferred : P '$')
    (digit : ∀ d : Digit, d ≠ 0 → P d.char)
    (leading : ∀ run, n = some (.digits run) → ∃ d ds, run = d :: ds ∧ d ≠ 0)
    (after : Starts P rest) : Starts P ((n.map Count.text).getD [] ++ rest) := by
  cases n with
  | none => exact after
  | some n =>
    cases n with
    | deferred =>
      intro c tail same
      rw [← (List.cons.inj same).1]
      exact deferred
    | digits run =>
      obtain ⟨d, ds, rfl, nonzero⟩ := leading run rfl
      intro c tail same
      rw [← (List.cons.inj same).1]
      exact digit d nonzero

theorem Starts.goesOn {rest : List Char} (other : Starts (fun c => Digit.ofChar? c = none) rest) :
    Digits.goesOn rest = false := by
  cases rest with
  | nil => rfl
  | cons c tail => simp [Digits.goesOn, other c tail rfl]

theorem not_align_of_mem_chars {run : Digits 10} {c : Char} (member : c ∈ Digits.chars run) :
    Align.ofChar? c = none := by
  obtain ⟨d, _, same⟩ := List.mem_map.mp member
  have other : ∀ d : Digit, Align.ofChar? d.char = none := by decide
  rw [← same, other]

theorem not_align_of_mem_count {n : Count} {c : Char} (member : c ∈ n.text) :
    Align.ofChar? c = none := by
  cases n with
  | deferred => rw [List.mem_singleton.mp member]; rfl
  | digits run => exact not_align_of_mem_chars member

/-- No group after the flags holds an alignment character. -/
theorem not_align_of_mem_text (p : Pattern) :
    ∀ c ∈ { p with flags := .none }.text, Align.ofChar? c = none := by
  intro c member
  simp only [text, Flags.text, List.nil_append, List.mem_append, Option.mem_toList,
    Option.map_eq_some_iff] at member
  rcases member with ⟨s, _, rfl⟩ | member | member | member | member | ⟨r, _, rfl⟩ | member
  · cases s <;> rfl
  · split at member
    · rw [List.mem_singleton.mp member]; rfl
    · cases member
  · split at member
    · rw [List.mem_singleton.mp member]; rfl
    · cases member
  · cases width : p.width with
    | none => rw [width] at member; cases member
    | some n =>
      rw [width] at member
      exact not_align_of_mem_count member
  · cases precision : p.precision with
    | none => rw [precision] at member; cases member
    | some n =>
      rw [precision] at member
      rcases List.mem_cons.mp member with same | member
      · rw [same]; rfl
      · exact not_align_of_mem_count member
  · cases r <;> rfl
  · cases grouping : p.grouping with
    | none => rw [grouping] at member; cases member
    | some g =>
      rw [grouping] at member
      rcases List.mem_cons.mp member with same | member
      · rw [same]
        cases g.mark <;> rfl
      · exact not_align_of_mem_chars member

theorem Legible.mono {most more : Nat} {p : Pattern} (legible : p.Legible most)
    (least : most ≤ more) : p.Legible more :=
  ⟨fun run written => Nat.le_trans (legible.width run written) least,
    fun run written => Nat.le_trans (legible.precision run written) least,
    fun g written => Nat.le_trans (legible.spacing g written) least⟩

/-- The numbers of a pattern have no more digits than its text has characters. -/
theorem legible_length (p : Pattern) : p.Legible p.text.length := by
  refine ⟨fun run written => ?_, fun run written => ?_, fun g written => ?_⟩ <;>
    simp only [text, written, Option.map_some, Option.getD_some, Count.text, Grouping.text,
      Digits.chars, List.length_append, List.length_cons, List.length_map] <;> omega

/-- A well-formed pattern is read back from its text, unless a number has too many digits. The
classes must not count a separator as a letter. -/
theorem scan_text {classes : Unicode.Classes} {most : Nat}
    (marks : ∀ m : GroupMark, classes.letter m.char = false) {p : Pattern} (wf : p.WellFormed)
    (legible : p.Legible most) : scan classes most p.text = .ok p := by
  have flagsOk := Scan.flags_text_append (f := p.flags)
    (fun c a pair => Align.ofChar?_eq_none_iff.mpr (wf.fill c a pair))
    (fun _ => p.not_align_of_mem_text)
  have groupingOk : Scan.grouping classes most ((p.grouping.map Grouping.text).getD []) =
      .ok (p.grouping, []) := Scan.grouping_text wf.spacing legible.spacing
  have radixOk : Scan.radix classes ((p.radix.map Radix.code).toList ++
      (p.grouping.map Grouping.text).getD []) =
        .ok (p.radix, (p.grouping.map Grouping.text).getD []) :=
    Scan.radix_text_append fun _ => Starts.grouping fun m => ⟨by cases m <;> rfl, marks m⟩
  have afterPrecision {P : Char → Prop} (code : ∀ r : Radix, P r.code)
      (mark : ∀ m : GroupMark, P m.char) :
      Starts P ((p.radix.map Radix.code).toList ++ (p.grouping.map Grouping.text).getD []) :=
    .toList_append code (.grouping mark)
  have precisionOk := Scan.precision_text_append wf.precision legible.precision
    (fun _ _ => Starts.goesOn (afterPrecision (fun r => by cases r <;> rfl)
      (fun m => by cases m <;> rfl)))
    (fun _ tail same => afterPrecision (P := (· ≠ '.')) (fun r => by cases r <;> decide)
      (fun m => by cases m <;> decide) _ tail same rfl)
  have afterWidth {P : Char → Prop} (point : P '.') (code : ∀ r : Radix, P r.code)
      (mark : ∀ m : GroupMark, P m.char) :=
    Starts.precision (n := p.precision) point (afterPrecision code mark)
  have widthOk := Scan.width_text_append (fun flagged => (wf.zero flagged).1) wf.width legible.width
    (fun _ => Starts.goesOn (afterWidth rfl (fun r => by cases r <;> rfl)
      (fun m => by cases m <;> rfl)))
    (fun _ tail same => afterWidth (P := (· ≠ '$')) (by decide) (fun r => by cases r <;> decide)
      (fun m => by cases m <;> decide) _ tail same rfl)
  have afterZero {P : Char → Prop} (deferred : P '$') (digit : ∀ d : Digit, d ≠ 0 → P d.char)
      (point : P '.') (code : ∀ r : Radix, P r.code) (mark : ∀ m : GroupMark, P m.char) :=
    Starts.width deferred digit wf.width (afterWidth point code mark)
  have zeroOk := Scan.zero_text_append (f := p.flags) (fun flagged => (wf.zero flagged).2)
    (fun _ tail same => afterZero (P := (· ≠ '0')) (by decide) (by decide) (by decide)
      (fun r => by cases r <;> decide) (fun m => by cases m <;> decide) _ tail same rfl)
  have afterAlternate {P : Char → Prop} (zero : P '0') (deferred : P '$')
      (digit : ∀ d : Digit, d ≠ 0 → P d.char) (point : P '.') (code : ∀ r : Radix, P r.code)
      (mark : ∀ m : GroupMark, P m.char) :=
    Starts.ite_append (b := p.zero) zero (afterZero deferred digit point code mark)
  have alternateOk := Scan.alternate_text_append (b := p.alternate)
    (fun _ tail same => afterAlternate (P := (· ≠ '#')) (by decide) (by decide) (by decide)
      (by decide) (fun r => by cases r <;> decide) (fun m => by cases m <;> decide) _ tail same rfl)
  have signOk := Scan.sign_text_append (s := p.sign)
    (fun _ => Starts.ite_append (P := fun c => SignRule.ofChar? c = none) (b := p.alternate)
      (d := '#') rfl (afterAlternate rfl rfl (by decide) rfl (fun r => by cases r <;> rfl)
        (fun m => by cases m <;> rfl)))
  simp only [text, Flags.text, List.nil_append] at flagsOk ⊢
  simp only [scan, flagsOk, signOk, alternateOk, zeroOk, widthOk, precisionOk, radixOk,
    groupingOk, bind, Except.bind, if_pos, pure, Except.pure]

end Pattern

end Numeral
