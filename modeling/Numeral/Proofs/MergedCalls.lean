import Numeral.Proofs.Merging
import Numeral.Proofs.Registers

namespace Numeral

theorem Field.mem_all (field : Field) : field ∈ all := by
  cases field <;> decide

theorem Draft.orUnset_of_ne_none {d : Datum} (given : d ≠ .none) : orUnset d = d := by
  cases d with
  | none => exact absurd rfl given
  | _ => rfl

namespace Setter

/-- The call for a field. There is none for the mode by itself. -/
def ofField? : Field → Datum → Option Setter
  | .fill, v => some (.fill v)
  | .align, v => some (.align v)
  | .sign, v => some (.sign v)
  | .alternate, v => some (.alternate v)
  | .mode, _ => none
  | .width, v => some (.width v)
  | .precision, v => some (.precision v)
  | .radix, v => some (.radix v)
  | .separator, v => some (.separator v)
  | .spacing, v => some (.spacing v)
  | .point, v => some (.point v)

section

variable {field : Field} {v : Datum} {c : Setter}

theorem field_ofField? (made : ofField? field v = some c) : c.field = field := by
  cases field <;> cases made <;> rfl

/-- The call brings the datum that it was made for, unless that stands for an unset width or
precision. -/
theorem value_ofField? (made : ofField? field v = some c) (width : field = .width → v ≠ .none)
    (precision : field = .precision → v ≠ .none) : c.value = v := by
  cases field with
  | width => cases made; exact Draft.orUnset_of_ne_none (width rfl)
  | precision => cases made; exact Draft.orUnset_of_ne_none (precision rfl)
  | _ => cases made <;> rfl

theorem exists_ofField? (other : field ≠ .mode) (v : Datum) : ∃ c, ofField? field v = some c := by
  cases field with
  | mode => exact absurd rfl other
  | _ => exact ⟨_, rfl⟩

end

/-- Whether a call that is not for the zero flag changes a field. A fill changes the mode too. -/
def writes (c : Setter) (field : Field) : Bool :=
  c.field = field || c.field = .fill && field = .mode

end Setter

namespace Patch

variable {p : Patch} {field : Field}

/-- The calls for the fields that a patch names. -/
def setters (p : Patch) : List Setter :=
  Field.all.filterMap fun field =>
    match p field with
    | .unset => none
    | v => Setter.ofField? field v

theorem mem_setters {c : Setter} :
    c ∈ p.setters ↔ ∃ field, p field ≠ .unset ∧ Setter.ofField? field (p field) = some c := by
  simp only [setters, List.mem_filterMap]
  constructor
  · rintro ⟨field, _, made⟩
    split at made
    · cases made
    · next given => exact ⟨field, given, made⟩
  · rintro ⟨field, given, made⟩
    refine ⟨field, field.mem_all, ?_⟩
    split
    · next without => exact absurd without given
    · exact made

/-- Each of some calls brings what a patch without a mode has for its field, and each field that the
patch names has such a call. The order of the calls is left open, and so is whether a deferred width
or precision and an absent separator come by a call of their own. -/
structure SetBy (p : Patch) (calls : List Setter) : Prop where
  modeless : p .mode = .unset
  brings : ∀ c ∈ calls, c.value = p c.field
  named : ∀ c ∈ calls, p c.field ≠ .unset
  covers : ∀ field, p field ≠ .unset → ∃ c ∈ calls, c.field = field

/-- The calls for the named fields bring what the patch has for them, in any order. -/
theorem setBy_of_perm (modeless : p .mode = .unset) (width : p .width ≠ .none)
    (precision : p .precision ≠ .none) {calls : List Setter} (order : calls.Perm p.setters) :
    p.SetBy calls where
  modeless := modeless
  brings c member := by
    obtain ⟨field, given, made⟩ := mem_setters.mp (order.mem_iff.mp member)
    rw [Setter.field_ofField? made]
    refine Setter.value_ofField? made ?_ ?_
    · rintro rfl
      exact width
    · rintro rfl
      exact precision
  named c member := by
    obtain ⟨field, given, made⟩ := mem_setters.mp (order.mem_iff.mp member)
    rw [Setter.field_ofField? made]
    exact given
  covers field given := by
    have other : field ≠ .mode := by
      rintro rfl
      exact given modeless
    obtain ⟨c, made⟩ := Setter.exists_ofField? other (p field)
    have member := order.mem_iff.mpr (mem_setters.mpr ⟨field, given, made⟩)
    exact ⟨c, member, Setter.field_ofField? made⟩

end Patch

namespace Draft

variable {d : Draft} {p : Patch} {c : Setter} {calls : List Setter} {field : Field}

theorem apply_of_eq_set (made : d.apply c = d.set c.field c.value) (fill : c.field ≠ .fill)
    (mode : c.field ≠ .mode) (brings : c.value = p c.field) :
    d.apply c field = if c.writes field then p.normal field else d field := by
  rw [made]
  by_cases same : c.field = field
  · have writes : c.writes field = true := by
      simp only [Setter.writes, same, decide_true, Bool.true_or]
    rw [if_pos writes, ← same, Patch.normal_of_ne_mode mode, ← brings]
    exact if_pos rfl
  · have silent : c.writes field = false := by
      simp only [Setter.writes, same, fill, decide_false, Bool.false_and, Bool.or_false]
    rw [silent]
    exact set_of_ne (Ne.symm same)

/-- A call that brings what a patch has for its field changes a field as the patch does, or not at
all. -/
theorem apply_brought (modeless : p .mode = .unset) (brings : c.value = p c.field)
    (named : p c.field ≠ .unset) (field : Field) :
    d.apply c field = if c.writes field then p.normal field else d field := by
  cases c with
  | zero flag => exact absurd modeless named
  | fill v =>
    cases field with
    | fill => exact brings
    | mode =>
      have filled := Patch.normal_mode_of_fill named
      rw [modeless] at filled
      exact filled.symm
    | _ => rfl
  | _ => exact apply_of_eq_set rfl nofun nofun brings

/-- So do any number of such calls. -/
theorem applyAll_brought (modeless : p .mode = .unset) (brings : ∀ c ∈ calls, c.value = p c.field)
    (named : ∀ c ∈ calls, p c.field ≠ .unset) (field : Field) :
    d.applyAll calls field = if calls.any (·.writes field) then p.normal field else d field := by
  induction calls generalizing d with
  | nil => rfl
  | cons c rest ih =>
    rw [List.forall_mem_cons] at brings named
    rw [applyAll_cons, ih brings.2 named.2, apply_brought modeless brings.1 named.1,
      List.any_cons]
    cases c.writes field <;> cases rest.any (·.writes field) <;> rfl

end Draft

namespace Patch.SetBy

variable {p : Patch} {calls : List Setter}

/-- Some call changes a field exactly if the patch names it or brings a mode with its fill. -/
theorem writes_iff (setBy : p.SetBy calls) (field : Field) :
    calls.any (·.writes field) = true ↔ p.normal field ≠ .unset := by
  simp only [List.any_eq_true, Setter.writes, Bool.or_eq_true, Bool.and_eq_true, decide_eq_true_eq]
  by_cases mode : field = .mode
  · subst mode
    constructor
    · rintro ⟨c, member, same | ⟨fill, _⟩⟩
      · exact absurd setBy.modeless (same ▸ setBy.named c member)
      · rw [normal_mode_of_fill (fill ▸ setBy.named c member), setBy.modeless]
        nofun
    · intro given
      have fill : p .fill ≠ .unset := by
        intro without
        rw [normal_mode_of_not_fill without] at given
        exact given setBy.modeless
      obtain ⟨c, member, same⟩ := setBy.covers .fill fill
      exact ⟨c, member, Or.inr ⟨same, rfl⟩⟩
  · rw [normal_of_ne_mode mode]
    constructor
    · rintro ⟨c, member, same | ⟨_, other⟩⟩
      · exact same ▸ setBy.named c member
      · exact absurd other mode
    · intro given
      obtain ⟨c, member, same⟩ := setBy.covers field given
      exact ⟨c, member, Or.inl same⟩

/-- The calls make of any draft what the patch makes of it. -/
theorem applyAll_eq (setBy : p.SetBy calls) (d : Draft) :
    d.applyAll calls = d.patched p.normal := by
  funext field
  rw [Draft.applyAll_brought setBy.modeless setBy.brings setBy.named]
  split
  · next written =>
    have given := (setBy.writes_iff field).mp written
    exact (Datum.orElse_of_ne_unset given _).symm
  · next silent =>
    have none : p.normal field = .unset := by
      by_contra given
      exact silent ((setBy.writes_iff field).mpr given)
    rw [Draft.patched, none]
    rfl

end Patch.SetBy

/-- The only numbers among the fields of a style are plain ones. -/
theorem Style.toDraft_eq_int {s : Style} {field : Field} {n : Int}
    (number : (s.toDraft field).int? = some n) : s.toDraft field = .int n := by
  cases field with
  | width =>
    rw [toDraft] at number ⊢
    cases width : s.width <;> rw [width] at number <;> cases number
    rfl
  | precision =>
    rw [toDraft] at number ⊢
    cases precision : s.precision <;> rw [precision] at number <;> cases number
    rfl
  | separator =>
    rw [toDraft] at number
    cases separator : s.separator <;> rw [separator] at number <;> cases number
  | spacing => cases number; rfl
  | _ => cases number

theorem Style.toDraft_eq_of_same {s t : Style} {field : Field}
    (same : (s.toDraft field).Same (t.toDraft field)) : s.toDraft field = t.toDraft field := by
  rcases same with equal | ⟨n, left, right⟩
  · exact equal
  · rw [toDraft_eq_int left, toDraft_eq_int right]

namespace Style

variable {s t : Style} {p : Patch} {field : Field}

/-- A merged style holds what the patch has for a field, or what the style had before. -/
theorem same_of_merge (merged : s.merge p = .ok t) (field : Field) :
    ((p.normal field).orElse (s.toDraft field)).Same (t.toDraft field) :=
  (Draft.toStyle_eq_ok_iff.mp merged).alike field

theorem toDraft_of_merge (merged : s.merge p = .ok t) (without : p.normal field = .unset) :
    t.toDraft field = s.toDraft field := by
  have same := same_of_merge merged field
  rw [without] at same
  exact (toDraft_eq_of_same same).symm

end Style

/-- Merging a patch without a mode comes to the same as the calls for the fields that it names, in
any order, on a draft of the style: both make the same style or fail with the same error, whatever
data the patch holds. A named field holds its new value, and any other one what it held before,
except that a fill brings the explicit fill mode with it. The same goes for records. -/
theorem Style.merge_eq_setters {p : Patch} (modeless : p .mode = .unset) (width : p .width ≠ .none)
    (precision : p .precision ≠ .none) :
    (∀ calls : List Setter, calls.Perm p.setters → p.SetBy calls) ∧
    ∀ calls : List Setter, p.SetBy calls →
      (∀ s : Style, (s.toDraft.applyAll calls).toStyle = s.merge p) ∧
      (∀ r : Record, (r.toDraft.applyAll calls).toRecord = r.merge p) ∧
      ∀ s t : Style, s.merge p = .ok t →
        (∀ field, p field ≠ .unset → (p field).Same (t.toDraft field)) ∧
        (∀ field, p field = .unset → (field = .mode → p .fill = .unset) →
          t.toDraft field = s.toDraft field) ∧
        (p .fill ≠ .unset → t.margin.mode = .filled) := by
  refine ⟨fun calls order => Patch.setBy_of_perm modeless width precision order,
    fun calls setBy => ⟨fun s => ?_, fun r => ?_, fun s t merged => ⟨?_, ?_, ?_⟩⟩⟩
  · rw [setBy.applyAll_eq, merge]
  · rw [setBy.applyAll_eq, Record.merge]
  · intro field given
    have other : field ≠ .mode := by
      rintro rfl
      exact given modeless
    have same := same_of_merge merged field
    rwa [Patch.normal_of_ne_mode other, Datum.orElse_of_ne_unset given] at same
  · intro field without fill
    refine toDraft_of_merge merged ?_
    by_cases mode : field = .mode
    · rw [mode, Patch.normal_mode_of_not_fill (fill mode), modeless]
    · rw [Patch.normal_of_ne_mode mode, without]
  · intro fill
    have same := same_of_merge merged .mode
    rw [Patch.normal_mode_of_fill fill, modeless] at same
    have stated : t.toDraft .mode = .str PadMode.filled.text := same.eq_of_eq rfl rfl
    exact PadMode.text_inj.mp (Datum.str.inj stated)

/-- A fill in place of zeros, no separator and a deferred width, named in one order and set in
another: the alignment at the point stays. With an empty group both fail in the same way. -/
theorem Style.merge_eq_setters_shuffled :
    let s : Style := { margin := .zeros true, separator := .char ',', width := .fixed 5 }
    let p : Patch
      | .fill => .char '🖤'
      | .width => .deferred
      | .separator => .none
      | _ => .unset
    let calls : List Setter := [.noSeparator, .fill (.char '🖤'), .deferWidth]
    let empty : Patch := Draft.set p .spacing (.int 0)
    (s.toDraft.applyAll calls).toStyle = s.merge p ∧
      s.merge p = .ok { margin := .filled '🖤' .decimal, separator := .off, width := .deferred } ∧
      (s.toDraft.applyAll empty.setters.reverse).toStyle = s.merge empty ∧
      s.merge empty = .error (.spacingBelowOne (.int 0)) := by
  intro s p calls empty
  have setBy : p.SetBy calls := by
    refine ⟨rfl, ?_, ?_, fun field given => ?_⟩
    · simp only [calls, List.forall_mem_cons]
      exact ⟨rfl, rfl, rfl, nofun⟩
    · simp only [calls, List.forall_mem_cons]
      exact ⟨nofun, nofun, nofun, nofun⟩
    · cases field with
      | fill => exact ⟨.fill (.char '🖤'), by simp [calls], rfl⟩
      | width => exact ⟨.deferWidth, by simp [calls], rfl⟩
      | separator => exact ⟨.noSeparator, by simp [calls], rfl⟩
      | _ => exact absurd rfl given
  obtain ⟨_, same⟩ := merge_eq_setters (p := p) rfl nofun nofun
  obtain ⟨ordered, same'⟩ := merge_eq_setters (p := empty) rfl nofun nofun
  refine ⟨(same calls setBy).1 s, ?_, (same' _ (ordered _ (List.reverse_perm _))).1 s, ?_⟩
  · exact Draft.toStyle_eq_ok_iff.mpr ⟨rfl, rfl, rfl, rfl, rfl, rfl, rfl, rfl, rfl, rfl, rfl⟩
  · dsimp +zetaDelta only
    rfl

end Numeral
