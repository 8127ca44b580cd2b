import Numeral.Pattern.Grammar

namespace Numeral

namespace Scan

open Pattern (Starts)

/-- What can stand in the place of text that a group left unread. It is empty or starts with the
same character, and it brings no alignment into the second place. -/
structure Cut (kept unread : List Char) : Prop where
  head : ∀ c tail, kept = c :: tail → ∃ others, unread = c :: others
  second : ∀ c d tail, kept = c :: d :: tail →
    Align.ofChar? d = none ∨ ∃ others, unread = c :: d :: others

section Cut

variable {kept unread : List Char}

theorem Cut.of_front (front : kept <+: unread) : Cut kept unread := by
  obtain ⟨rest, rfl⟩ := front
  constructor
  case head =>
    rintro c tail rfl
    exact ⟨tail ++ rest, rfl⟩
  case second =>
    rintro c d tail rfl
    exact Or.inr ⟨tail ++ rest, rfl⟩

theorem Cut.append (cut : Cut kept unread) (taken : List Char) :
    Cut (taken ++ kept) (taken ++ unread) := by
  cases taken with
  | nil => exact cut
  | cons a taken =>
    refine ⟨fun c tail same => ?_, fun c d tail same => Or.inr ?_⟩
    · cases same
      exact ⟨taken ++ unread, rfl⟩
    · cases taken with
      | nil =>
        obtain ⟨rfl, rfl⟩ := List.cons.inj same
        obtain ⟨others, rfl⟩ := cut.head d tail rfl
        exact ⟨others, rfl⟩
      | cons b taken =>
        cases same
        exact ⟨taken ++ unread, rfl⟩

/-- One character may be followed by anything that is no alignment. -/
theorem Cut.cons {a b : Char} {more rest : List Char} (other : Align.ofChar? b = none) :
    Cut (a :: b :: more) (a :: rest) := by
  refine ⟨fun c tail same => ?_, fun c d tail same => Or.inl ?_⟩
  · cases same
    exact ⟨rest, rfl⟩
  · cases same
    exact other

theorem Cut.starts {P : Char → Prop} (cut : Cut kept unread) (starts : Starts P unread) :
    Starts P kept := by
  intro c tail same
  obtain ⟨others, whole⟩ := cut.head c tail same
  exact starts c others whole

theorem Cut.goesOn (cut : Cut kept unread) (ends : Digits.goesOn unread = false) :
    Digits.goesOn kept = false := by
  cases kept with
  | nil => rfl
  | cons c tail =>
    obtain ⟨others, rfl⟩ := cut.head c tail rfl
    exact ends

end Cut

/-- A step takes a group from the front of a text and leaves the rest. -/
abbrev Reader (α : Type) := List Char → Except ScanError (α × List Char)

/-- A step that reads one group. What it takes is the text of the group, and of what it leaves it
has seen no more than that the group ends there. -/
structure Reads {α : Type} (text : α → List Char) (step : Reader α) : Prop where
  taken : ∀ {cs : List Char} {x : α} {unread : List Char},
    step cs = .ok (x, unread) → text x ++ unread = cs
  cut : ∀ {x : α} {unread kept : List Char}, step (text x ++ unread) = .ok (x, unread) →
    Cut kept unread → step (text x ++ kept) = .ok (x, kept)

theorem flags_none {unread : List Char} (none : flags unread = (.none, unread)) :
    Starts (Align.ofChar? · = Option.none) unread ∧
      ∀ c d tail, unread = c :: d :: tail → Align.ofChar? d = Option.none := by
  have shorter {f : Flags} {rest : List Char} (same : (f, rest) = (Flags.none, unread))
      (less : rest.length < unread.length) : False := by
    rw [(Prod.mk.inj same).2] at less
    exact Nat.lt_irrefl _ less
  unfold flags at none
  split at none
  · exact ⟨nofun, nofun⟩
  · next c rest =>
    split at none
    · exact (shorter none (by simp)).elim
    · next other =>
      refine ⟨fun a tail same => ?_, nofun⟩
      rw [← (List.cons.inj same).1]
      exact other
    · next d after other =>
      split at none
      · exact (shorter none (by simp only [List.length_cons]; omega)).elim
      · next second =>
        refine ⟨fun a tail same => ?_, fun a b tail same => ?_⟩
        · rw [← (List.cons.inj same).1]
          exact other
        · rw [← (List.cons.inj (List.cons.inj same).2).1]
          exact second

theorem flags_reads : Reads Flags.text fun cs => .ok (flags cs) where
  taken {cs x unread} ok := by
    have whole := flags_eq cs
    rwa [Except.ok.inj ok] at whole
  cut {x unread kept} ok cut := by
    refine congrArg Except.ok ?_
    have read : flags (x.text ++ unread) = (x, unread) := Except.ok.inj ok
    cases x with
    | none =>
      obtain ⟨first, second⟩ := flags_none read
      have head := cut.starts first
      cases kept with
      | nil => rfl
      | cons c kept =>
        cases kept with
        | nil => simp [Flags.text, flags, head c [] rfl]
        | cons d kept =>
          have other : Align.ofChar? d = none := by
            rcases cut.second c d kept rfl with other | ⟨others, same⟩
            · exact other
            · exact second c d others same
          simp [Flags.text, flags, head c _ rfl, other]
    | align a => exact flags_text_append (fun _ _ pair => by cases pair) fun none => by cases none
    | pair c a =>
      refine flags_text_append (fun d b pair => ?_) fun none => by cases none
      cases pair
      exact flags_fill (congrArg Prod.fst read)

theorem sign_none {unread : List Char} (none : sign unread = (none, unread)) :
    Starts (SignRule.ofChar? · = Option.none) unread := by
  rintro c tail rfl
  simp only [sign] at none
  split at none
  · cases none
  · assumption

theorem sign_reads :
    Reads (fun s : Option SignRule => (s.map SignRule.char).toList) fun cs => .ok (sign cs) where
  taken {cs x unread} ok := by
    have whole := sign_eq cs
    rwa [Except.ok.inj ok] at whole
  cut {x unread kept} ok cut := by
    refine congrArg Except.ok (sign_text_append ?_)
    rintro rfl
    exact cut.starts (sign_none (Except.ok.inj ok))

theorem alternate_reads :
    Reads (fun b : Bool => if b then ['#'] else []) fun cs => .ok (alternate cs) where
  taken {cs x unread} ok := by
    have whole := alternate_eq cs
    rwa [Except.ok.inj ok] at whole
  cut {x unread kept} ok cut := by
    refine congrArg Except.ok (alternate_text_append ?_)
    rintro rfl tail rfl
    obtain ⟨others, rfl⟩ := cut.head '#' tail rfl
    cases Except.ok.inj ok

/-- Where no deferred count was read no digit follows, and where none was read at all no mark of a
deferred one either. -/
theorem count_stops {n : Option Count} {cs unread : List Char} (read : count cs = (n, unread)) :
    (n ≠ some .deferred → Digits.goesOn unread = false) ∧
      (n = none → Starts (· ≠ '$') unread) := by
  have ends := Digits.goesOn_scan cs
  unfold count at read
  split at read
  · cases read
    exact ⟨fun other => absurd rfl other, nofun⟩
  · next other =>
    split at read
    · next rest scanned =>
      have whole := Digits.scan_eq cs
      rw [scanned] at whole ends
      cases read
      refine ⟨fun _ => ends, fun _ c tail same mark => ?_⟩
      rw [same, mark] at whole
      exact other tail whole.symm
    · next run rest nonempty scanned =>
      rw [scanned] at ends
      cases read
      exact ⟨fun _ => ends, nofun⟩

/-- The zero flag and the width behind it. The flag alone is no group: it needs the width. -/
def zeroWidth (most : Nat) (flags : Flags) : Reader (Bool × Option Count) := fun cs => do
  let (zero, cs) ← zero flags cs
  let (width, cs) ← width most zero cs
  pure ((zero, width), cs)

variable {most : Nat}

theorem zeroWidth_eq_ok_iff {f : Flags} {cs unread : List Char} {z : Bool} {n : Option Count} :
    zeroWidth most f cs = .ok ((z, n), unread) ↔
      ∃ rest, zero f cs = .ok (z, rest) ∧ width most z rest = .ok (n, unread) := by
  unfold zeroWidth
  simp only [Except.bind_eq_ok, Prod.exists]
  constructor
  · rintro ⟨z', rest, flag, n', unread', count, made⟩
    cases made
    exact ⟨rest, flag, count⟩
  · rintro ⟨rest, flag, count⟩
    exact ⟨z, rest, flag, n, unread, count, rfl⟩

theorem zero_false {f : Flags} {cs unread : List Char} (ok : zero f cs = .ok (false, unread)) :
    unread = cs ∧ Starts (· ≠ '0') cs := by
  unfold zero at ok
  split at ok
  · split at ok <;> cases ok
  · next other =>
    cases ok
    refine ⟨rfl, fun c tail same zero => ?_⟩
    rw [same, zero] at other
    exact other tail rfl

theorem width_stops {z : Bool} {cs unread : List Char} {n : Option Count}
    (ok : width most z cs = .ok (n, unread)) : count cs = (n, unread) := by
  unfold width at ok
  split at ok
  · cases ok
  · split at ok
    · cases ok
    · exact (legible_eq_ok_iff.mp ok).1

/-- The text of the zero flag and of the width behind it. -/
def zeroWidthText (x : Bool × Option Count) : List Char :=
  (if x.1 then ['0'] else []) ++ (x.2.map Count.text).getD []

theorem zeroWidth_reads (f : Flags) : Reads zeroWidthText (zeroWidth most f) where
  taken {cs x unread} ok := by
    obtain ⟨z, n⟩ := x
    obtain ⟨rest, flag, counted⟩ := zeroWidth_eq_ok_iff.mp ok
    rw [zeroWidthText, List.append_assoc, (width_eq counted).1, ← (zero_eq flag).1]
  cut {x unread kept} ok cut := by
    obtain ⟨z, n⟩ := x
    obtain ⟨rest, flag, counted⟩ := zeroWidth_eq_ok_iff.mp ok
    obtain ⟨whole, present, leading, few⟩ := width_eq counted
    obtain ⟨ends, absent⟩ := count_stops (width_stops counted)
    obtain ⟨_, unpaired⟩ := zero_eq flag
    refine zeroWidth_eq_ok_iff.mpr ⟨(n.map Count.text).getD [] ++ kept, ?_, ?_⟩
    · rw [zeroWidthText, List.append_assoc]
      refine zero_text_append unpaired ?_
      rintro rfl tail same
      obtain ⟨_, first⟩ := zero_false flag
      exact (cut.append _).starts first '0' tail same rfl
    · refine width_text_append present leading few (fun other => cut.goesOn (ends other)) ?_
      intro none tail same
      exact cut.starts (absent none) '$' tail same rfl

theorem precision_stops {cs unread : List Char} {n : Option Count}
    (ok : precision most cs = .ok (n, unread)) :
    (n = none → Starts (· ≠ '.') unread) ∧
      (n ≠ none → n ≠ some .deferred → Digits.goesOn unread = false) := by
  unfold precision at ok
  split at ok
  · next tail =>
    split at ok
    · cases ok
    · next found =>
      have same := (legible_eq_ok_iff.mp ok).1
      obtain ⟨ends, _⟩ := count_stops same
      refine ⟨fun none => ?_, fun _ other => ends other⟩
      rw [none] at same
      exact (found unread same).elim
  · next other =>
    cases ok
    refine ⟨fun _ c tail same point => ?_, fun some => absurd rfl some⟩
    rw [same, point] at other
    exact other tail rfl

theorem precision_reads :
    Reads (fun n : Option Count => (n.map fun count => '.' :: count.text).getD [])
      (precision most) where
  taken ok := (precision_eq ok).1
  cut {n unread kept} ok cut := by
    obtain ⟨absent, ends⟩ := precision_stops ok
    obtain ⟨_, nonempty, few⟩ := precision_eq ok
    refine precision_text_append nonempty few (fun some other => ?_) fun none tail same => ?_
    · exact cut.goesOn (ends some other)
    · exact cut.starts (absent none) '.' tail same rfl

theorem radix_none {classes : Unicode.Classes} {unread : List Char}
    (ok : radix classes unread = .ok (none, unread)) :
    Starts (fun c => Radix.ofCode? c = none ∧ classes.letter c = false) unread := by
  rintro c tail rfl
  simp only [radix] at ok
  split at ok
  · cases ok
  · next code =>
    split at ok
    · cases ok
    · next letter => exact ⟨code, Bool.eq_false_iff.mpr letter⟩

theorem radix_reads (classes : Unicode.Classes) :
    Reads (fun r : Option Radix => (r.map Radix.code).toList) (radix classes) where
  taken ok := radix_eq ok
  cut {r unread kept} ok cut := by
    refine radix_text_append ?_
    rintro rfl
    exact cut.starts (radix_none ok)

theorem grouping_none {classes : Unicode.Classes} {unread : List Char}
    (ok : grouping classes most unread = .ok (none, unread)) :
    Starts (fun c => GroupMark.ofChar? c = none ∧
      (classes.letterOrNumeral c || reserved.contains c) = true) unread := by
  rintro c tail rfl
  cases mark : GroupMark.ofChar? c with
  | some m =>
    rw [GroupMark.ofChar?_eq_some_iff.mp mark, grouping_mark] at ok
    split at ok
    · split at ok <;> cases ok
    · cases ok
  | none =>
    simp only [grouping, mark] at ok
    split at ok
    · next elsewhere => exact ⟨rfl, elsewhere⟩
    · cases ok

theorem grouping_some {classes : Unicode.Classes} {cs unread : List Char} {g : Grouping}
    (ok : grouping classes most cs = .ok (some g, unread)) : Digits.goesOn unread = false := by
  cases cs with
  | nil => cases ok
  | cons c rest =>
    cases mark : GroupMark.ofChar? c with
    | some m =>
      have ends := Digits.goesOn_scan rest
      rw [GroupMark.ofChar?_eq_some_iff.mp mark, grouping_mark] at ok
      split at ok
      · split at ok
        · cases ok
        · cases ok
          exact ends
      · cases ok
    | none =>
      simp only [grouping, mark] at ok
      split at ok <;> cases ok

theorem grouping_reads (classes : Unicode.Classes) :
    Reads (fun g : Option Grouping => (g.map Grouping.text).getD []) (grouping classes most) where
  taken ok := (grouping_eq ok).1
  cut {g unread kept} ok cut := by
    obtain ⟨_, spacing, few⟩ := grouping_eq ok
    refine grouping_text_append spacing few (fun some => ?_) ?_
    · obtain ⟨g, rfl⟩ := Option.ne_none_iff_exists'.mp some
      exact cut.goesOn (grouping_some ok)
    · rintro rfl
      exact cut.starts (grouping_none ok)

/-- One step, and then another one on what it leaves. -/
def andThen {α β : Type} (step : Reader α) (next : α → Reader β) : Reader β := fun cs => do
  let (x, rest) ← step cs
  next x rest

section andThen

variable {α β : Type} {step : Reader α} {next : α → Reader β} {cs : List Char}

theorem andThen_ok {x : α} {rest : List Char} (ok : step cs = .ok (x, rest)) :
    andThen step next cs = next x rest := by
  rw [andThen, ok]
  rfl

theorem andThen_error {e : ScanError} (failed : step cs = .error e) :
    andThen step next cs = .error e := by
  rw [andThen, failed]
  rfl

theorem andThen_eq_error {e : ScanError} (failed : andThen step next cs = .error e) :
    step cs = .error e ∨ ∃ x rest, step cs = .ok (x, rest) ∧ next x rest = .error e := by
  cases read : step cs with
  | error e' =>
    rw [andThen_error read] at failed
    exact Or.inl (congrArg Except.error (Except.error.inj failed))
  | ok found =>
    rw [andThen_ok read] at failed
    exact Or.inr ⟨found.1, found.2, rfl, failed⟩

theorem map_andThen {γ : Type} {f : β × List Char → γ} :
    (andThen step next cs).map f = step cs >>= fun found => (next found.1 found.2).map f := by
  rw [andThen]
  cases step cs <;> rfl

end andThen

/-- The end of a pattern has to be the end of the text. -/
def finish (p : Pattern) : Reader Pattern
  | [] => .ok (p, [])
  | cs => .error (.stop ⟨.trailing cs, cs⟩)

theorem map_finish (p : Pattern) (cs : List Char) :
    (finish p cs).map Prod.fst =
      if cs = [] then pure p else throw (.stop ⟨.trailing cs, cs⟩) := by
  cases cs <;> rfl

/-- The steps by which a pattern is read, one after another. -/
def steps (classes : Unicode.Classes) (most : Nat) : Reader Pattern :=
  andThen (fun cs => .ok (flags cs)) fun flags =>
  andThen (fun cs => .ok (sign cs)) fun sign =>
  andThen (fun cs => .ok (alternate cs)) fun alternate =>
  andThen (zeroWidth most flags) fun (zero, width) =>
  andThen (precision most) fun precision =>
  andThen (radix classes) fun radix =>
  andThen (grouping classes most) fun grouping =>
  finish { flags, sign, alternate, zero, width, precision, radix, grouping }

end Scan

theorem Pattern.scan_eq_steps (classes : Unicode.Classes) (most : Nat) (cs : List Char) :
    scan classes most cs = (Scan.steps classes most cs).map Prod.fst := by
  simp only [Scan.steps, Scan.map_andThen, Scan.zeroWidth, Scan.map_finish, scan, bind_assoc,
    pure_bind]
  rfl

end Numeral
