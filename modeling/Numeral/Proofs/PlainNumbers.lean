import Mathlib.Control.Monad.Basic
import Numeral.Proofs.Rendering

namespace Numeral

/-- A plain number as a datum. -/
def Plain.toDatum : Plain → Datum
  | .int n => .int n
  | .float x => .float x

/-- The kind of failure that it is if a datum is no number. -/
def ConversionError.kind : ConversionError → FaultKind
  | .truthValue _ | .index .. | .noFloat _ | .unsupported _ => .type
  | .digits _ | .limit _ => .value
  | .arithmetic condition => .other condition.name
  | .fault failed => failed.kind

/-- What is written with the digits of its own text: a floating point scalar that knows no integer
in its place and is none. -/
def Datum.HasOwnDigits : Datum → Prop
  | .scalar f => f.scalarFamily = some "f" ∧ f.index = Option.none ∧ ∀ n, f.number ≠ some (.int n)
  | _ => False

/-- A number that was found counts as itself if it is looked at again: it is no scalar, or a scalar
that counts as the number that it is. An integer does, unless it is in the class of truth values. A
floating point number does, if it knows no integer in its place, is in no class of its own and gives
no other floating point number. -/
def NumberDatum.CountsAsItself (r : NumberDatum) : Prop :=
  ∀ f, r.datum = .scalar f → f.scalarFamily ≠ some "b" ∧
    ∀ x, r.number = .float x → f.index = none ∧ f.scalarFamily ≠ some "f" ∧
      ∀ outcome, f.float = some outcome → outcome = .ok x

/-- A datum stands for a truth value, or for the failure to tell it: it is one, it is a scalar of
that class, or it is any other scalar that is no number, knows no integer and is in no class of floating
point numbers, and has a truth value as its plain value. -/
inductive Datum.StandsForTruth : Datum → Except Fault Bool → Prop
  | itself (b : Bool) : StandsForTruth (.bool b) (.ok b)
  | family {f : Facets Datum} (truth : f.scalarFamily = some "b") :
      StandsForTruth (.scalar f) f.truth
  | item {f : Facets Datum} {b : Bool} (other : f.scalarFamily ≠ some "b")
      (numberless : f.number = Option.none) (indexless : f.index = Option.none)
      (floatless : f.scalarFamily ≠ some "f") (answered : f.item = some (.ok (.bool b))) :
      StandsForTruth (.scalar f) (.ok b)

namespace Facets

variable {f : Facets Datum} {allowBool : Bool}

/-- An integer in place of a scalar is never a floating point number. -/
theorem ofIndex_ne_float {outcome : Except Fault Datum} {r : NumberDatum} {x : Binary64}
    (ok : f.ofIndex outcome = .ok r) : r.number ≠ .float x := by
  unfold ofIndex at ok
  split at ok
  · cases ok
    nofun
  · split at ok <;> cases ok
    nofun
  · split at ok <;> cases ok

theorem toStandard_of_truth (truth : f.scalarFamily = some "b") :
    f.toStandard allowBool = NumberDatum.ofTruth allowBool f.truth f.ownText := by
  rw [toStandard, if_pos truth]

theorem toStandard_of_int {n : Int} (other : f.scalarFamily ≠ some "b")
    (is : f.number = some (.int n)) : f.toStandard allowBool = .ok (.int n) := by
  rw [toStandard, if_neg other, is]

theorem toStandard_of_index {outcome : Except Fault Datum} (other : f.scalarFamily ≠ some "b")
    (not : ∀ n, f.number ≠ some (.int n)) (known : f.index = some outcome) :
    f.toStandard allowBool = f.ofIndex outcome := by
  rw [toStandard, if_neg other, known]
  cases number : f.number with
  | none => rfl
  | some plain =>
    cases plain with
    | int n => exact absurd number (not n)
    | float x => rfl

theorem toStandard_of_float {x : Binary64} (other : f.scalarFamily ≠ some "b")
    (is : f.number = some (.float x)) (indexless : f.index = none) :
    f.toStandard allowBool = f.toFloat := by
  rw [toStandard, if_neg other, is, indexless]

theorem toStandard_of_own (floating : f.scalarFamily = some "f")
    (not : ∀ n, f.number ≠ some (.int n)) (indexless : f.index = none) :
    f.toStandard allowBool = f.toFloat := by
  have other : f.scalarFamily ≠ some "b" := by
    rw [floating]
    decide
  rw [toStandard, if_neg other, indexless]
  cases number : f.number with
  | none => exact if_pos floating
  | some plain =>
    cases plain with
    | int n => exact absurd number (not n)
    | float x => rfl

theorem toStandard_of_item (other : f.scalarFamily ≠ some "b") (numberless : f.number = none)
    (indexless : f.index = none) (floatless : f.scalarFamily ≠ some "f") :
    f.toStandard allowBool =
      match f.item with
      | some outcome => f.ofItem allowBool outcome
      | none => .error (.unsupported (.scalar f)) := by
  rw [toStandard, if_neg other, numberless, indexless]
  exact if_neg floatless

/-- A plain value is the same number whether or not truth values count, unless it is one. -/
theorem ofItem_eq {outcome : Except Fault Datum} (number : ∀ b, outcome ≠ .ok (.bool b)) :
    f.ofItem true outcome = f.ofItem false outcome := by
  cases outcome with
  | error fault => rfl
  | ok d =>
    cases d with
    | bool b => exact absurd rfl (number b)
    | _ => rfl

end Facets

namespace Datum

variable {value : Datum} {allowBool : Bool} {t : Except Fault Bool}

/-- Without digits of its own a floating point number has those of its shortest decimal. -/
theorem magnitudeOf_eq {r : NumberDatum} {x : Binary64} (found : value.toStandard allowBool = .ok r)
    (is : r.number = .float x) (foreign : ¬ value.HasOwnDigits) :
    value.magnitudeOf x = .ok x.shortest := by
  cases value with
  | scalar f =>
    simp only [magnitudeOf]
    split
    · next floating =>
      -- An integer is found, its own or one in its place, and that has no digits to ask for.
      have other : f.scalarFamily ≠ some "b" := by
        rw [floating]
        decide
      by_cases int : ∃ n, f.number = some (.int n)
      · obtain ⟨n, int⟩ := int
        have same := (Facets.toStandard_of_int other int).symm.trans found
        cases same
        cases is
      · have not : ∀ n, f.number ≠ some (.int n) := not_exists.mp int
        obtain ⟨outcome, known⟩ : ∃ outcome, f.index = some outcome :=
          Option.ne_none_iff_exists'.mp fun indexless => foreign ⟨floating, indexless, not⟩
        have index := (Facets.toStandard_of_index other not known).symm.trans found
        exact absurd is (Facets.ofIndex_ne_float index)
    · rfl
  | _ => rfl

/-- A datum is written as the plain number that is found for it, as long as that has the digits of
its shortest decimal. -/
theorem toNumber_eq_toNumber_plain {r : NumberDatum} (found : value.toStandard allowBool = .ok r)
    (digits : ∀ x, r.number = .float x → value.magnitudeOf x = .ok x.shortest) :
    value.toNumber allowBool = r.number.toDatum.toNumber allowBool := by
  have plain : value.toPlain allowBool = .ok r.number := by
    rw [toPlain, found]
    rfl
  cases is : r.number with
  | int n =>
    rw [is] at plain
    rw [toNumber, plain]
    rfl
  | float x =>
    rw [is] at plain
    rw [toNumber, plain]
    simp only [bind, Except.bind, digits x is]
    rfl

/-- What counts as itself is found again as the same number, and written with the same digits. -/
theorem toNumber_of_countsAsItself {r : NumberDatum} (itself : r.CountsAsItself) :
    r.datum.toNumber allowBool = r.number.toDatum.toNumber allowBool := by
  obtain ⟨datum, number, same⟩ := r
  cases datum with
  | int n => cases same; rfl
  | intLike kind n => cases same; rfl
  | float x => cases same; rfl
  | floatLike kind x => cases same; rfl
  | scalar f =>
    obtain ⟨other, float⟩ := itself f rfl
    change f.number = some number at same
    cases number with
    | int n =>
      have found : toStandard (.scalar f) allowBool = .ok (.int n) :=
        Facets.toStandard_of_int other same
      have written : toNumber (.scalar f) allowBool = toNumber (.int n) allowBool :=
        toNumber_eq_toNumber_plain found nofun
      exact written
    | float x =>
      obtain ⟨indexless, floatless, agrees⟩ := float x rfl
      have found : toStandard (.scalar f) allowBool = .ok (.float x) := by
        refine (Facets.toStandard_of_float other same indexless).trans ?_
        rw [Facets.toFloat]
        cases outcome : f.float with
        | none => simp only [same]
        | some given =>
          rw [agrees given outcome]
          rfl
      have written : toNumber (.scalar f) allowBool = toNumber (.float x) allowBool :=
        toNumber_eq_toNumber_plain found fun y is =>
          magnitudeOf_eq found is fun own => floatless own.1
      exact written
  | _ => cases same

/-- Whether truth values count as numbers makes no difference to anything else. -/
theorem toStandard_eq_of_not_standsForTruth (number : ∀ t, ¬ value.StandsForTruth t) :
    value.toStandard true = value.toStandard false := by
  cases value with
  | bool b => exact absurd (.itself b) (number _)
  | scalar f =>
    have other : f.scalarFamily ≠ some "b" := fun truth => number _ (.family truth)
    change f.toStandard true = f.toStandard false
    by_cases int : ∃ n, f.number = some (.int n)
    · obtain ⟨n, int⟩ := int
      rw [Facets.toStandard_of_int other int, Facets.toStandard_of_int other int]
    have not : ∀ n, f.number ≠ some (.int n) := not_exists.mp int
    cases known : f.index with
    | some outcome =>
      rw [Facets.toStandard_of_index other not known, Facets.toStandard_of_index other not known]
    | none =>
      cases is : f.number with
      | some plain =>
        cases plain with
        | int n => exact absurd is (not n)
        | float x =>
          rw [Facets.toStandard_of_float other is known, Facets.toStandard_of_float other is known]
      | none =>
        by_cases floating : f.scalarFamily = some "f"
        · rw [Facets.toStandard_of_own floating not known,
            Facets.toStandard_of_own floating not known]
        · rw [Facets.toStandard_of_item other is known floating,
            Facets.toStandard_of_item other is known floating]
          cases answered : f.item with
          | none => rfl
          | some outcome =>
            refine Facets.ofItem_eq fun b truth => ?_
            rw [truth] at answered
            exact number _ (.item other is known floating answered)
  | _ => rfl

namespace StandsForTruth

theorem toStandard_true (stands : value.StandsForTruth t) :
    value.toStandard true =
      (t.mapError .fault).map fun b => NumberDatum.int (if b then 1 else 0) := by
  cases stands with
  | itself => rfl
  | family truth => exact Facets.toStandard_of_truth truth
  | item other numberless indexless floatless answered =>
    refine (Facets.toStandard_of_item other numberless indexless floatless).trans ?_
    rw [answered]
    rfl

/-- A truth value that does not count as a number is refused as such, unless not even its text can
be had for the message. -/
theorem toStandard_false (stands : value.StandsForTruth t) :
    ∃ e, value.toStandard false = .error e ∧
      (e.kind = .type ∨ ∃ f, value = .scalar f ∧ f.ownText = .error e) := by
  cases stands with
  | itself b => exact ⟨_, rfl, Or.inl rfl⟩
  | @family f truth =>
    have refused : f.toStandard false = f.ownText.bind fun text => .error (.truthValue text) :=
      Facets.toStandard_of_truth truth
    change ∃ e, f.toStandard false = .error e ∧ _
    rw [refused]
    cases shown : f.ownText with
    | ok text => exact ⟨.truthValue text, rfl, Or.inl rfl⟩
    | error e => exact ⟨e, rfl, Or.inr ⟨f, rfl, shown⟩⟩
  | @item f b other numberless indexless floatless answered =>
    have refused : f.toStandard false = f.ofItem false (.ok (.bool b)) := by
      rw [Facets.toStandard_of_item other numberless indexless floatless, answered]
    exact ⟨_, refused, Or.inl rfl⟩

end StandsForTruth

/-- With the quantities settled, a datum is written as the number that is found for it, and what goes
wrong is what goes wrong in finding that number, unless the datum has digits of its own, or the number
found counts as another one if it is looked at again. Whether truth values count as numbers makes a
difference only to what stands for one: if they do, that is zero or one, or it fails as its truth
fails, and if not, it is refused for its kind, provided that its text can be had for the message. -/
theorem render_eq_render_standard (value : Datum) :
    (∀ {s : Style} {given : Datum} {o : Overrides} {m : Measures} (encodable : Char → Bool),
      given.toOverrides = .ok o → s.measures o = .ok m → ¬ value.HasOwnDigits →
      (∀ r, value.toStandard false = .ok r → r.CountsAsItself) →
      renderChecked encodable (.style s) value given =
        ((value.toStandard false).mapError .conversion).bind fun r =>
          renderChecked encodable (.style s) r.datum given) ∧
    (value.toStandard true ≠ value.toStandard false → ∃ t, value.StandsForTruth t) ∧
    ∀ t : Except Fault Bool, value.StandsForTruth t →
      value.toStandard true =
        (t.mapError .fault).map (fun b => NumberDatum.int (if b then 1 else 0)) ∧
      ∃ e, value.toStandard false = .error e ∧
        (e.kind = .type ∨ ∃ f, value = .scalar f ∧ f.ownText = .error e) := by
  refine ⟨fun {s given o m} encodable supplied settled foreign again => ?_,
    fun different => ?_, fun t stands => ⟨stands.toStandard_true, stands.toStandard_false⟩⟩
  · cases found : value.toStandard false with
    | error e =>
      have refused : value.toNumber false = .error e := by
        rw [toNumber, toPlain, found]
        rfl
      rw [renderChecked_style encodable supplied, settled, refused]
      rfl
    | ok r =>
      have number : value.toNumber false = r.datum.toNumber false := by
        rw [toNumber_of_countsAsItself (again r found)]
        exact toNumber_eq_toNumber_plain found fun x is => magnitudeOf_eq found is foreign
      simp only [renderChecked_style encodable supplied, number]
      rfl
  · exact Classical.byContradiction fun none =>
      different (toStandard_eq_of_not_standsForTruth (not_exists.mp none))

/-- A floating point scalar that knows an integer is written as that, whatever its text. One that
fails to give its integer is not asked for a plain value. A scalar of truth values is asked for its
own truth alone. -/
theorem render_eq_render_standard_scalars :
    let s : Style := { alternate := true, radix := .hexLower }
    let any : Char → Bool := fun _ => true
    let byte : Facets Datum :=
      { kind := "Byte", shown := .ok "byte", text := some (.ok "0.5"),
        index := some (.ok (.int 255)), family := some "f",
        float := some (.ok ⟨0x3FE0000000000000⟩) }
    let refusing : Facets Datum :=
      { kind := "Refusing", shown := .ok "refusing", index := some (.error ⟨.value, "boom"⟩),
        item := some (.ok (.int 1)) }
    let off : Facets Datum :=
      { kind := "Off", shown := .ok "off", truth := .ok false, index := some (.ok (.int 5)),
        item := some (.ok (.bool true)), family := some "b" }
    renderChecked any (.style s) (.scalar byte) .none = .ok "0xff" ∧
      renderChecked any (.style s) (.scalar refusing) .none =
        .error (.conversion (.index (.scalar refusing) "boom")) ∧
      (Datum.scalar off).StandsForTruth (.ok false) ∧
      (Datum.scalar off).toStandard true = .ok (.int 0) ∧
      ∃ e, (Datum.scalar off).toStandard false = .error e ∧ e.kind = .type := by
  intro s any byte refusing off
  have stands : (Datum.scalar off).StandsForTruth (.ok false) := .family rfl
  have settled : s.measures {} = .ok {} := rfl
  have foreign : ¬ (Datum.scalar byte).HasOwnDigits := nofun
  refine ⟨?_, ?_, stands, ((render_eq_render_standard (.scalar off)).2.2 _ stands).1, ⟨_, rfl, rfl⟩⟩
  · rw [(render_eq_render_standard (.scalar byte)).1 any rfl settled foreign (by rintro r ⟨⟩ f ⟨⟩)]
    exact renderChecked_of_settled rfl settled rfl (by decide +kernel)
  · rw [(render_eq_render_standard (.scalar refusing)).1 any rfl settled nofun nofun]
    rfl

/-- An object whose plain value is two and a half, as a number of a derived kind that knows the integer
seven in its place, is written as two and a half, and what is found for it is written as seven. A
scalar of truth values without a text is refused in another way than for its kind. -/
theorem render_ne_render_standard :
    let any : Char → Bool := fun _ => true
    let half : Facets Datum :=
      { kind := "Half", shown := .ok "2.5", index := some (.ok (.int 7)),
        number := some (.float ⟨0x4004000000000000⟩) }
    let holder : Facets Datum :=
      { kind := "Holder", shown := .ok "holder", item := some (.ok (.scalar half)) }
    let mute : Facets Datum :=
      { kind := "Mute", shown := .error ⟨.other "RuntimeError", "boom"⟩, family := some "b" }
    renderChecked any (.style {}) (.scalar holder) .none = .ok "2.5" ∧
      (∃ r, (Datum.scalar holder).toStandard false = .ok r ∧
        renderChecked any (.style {}) r.datum .none = .ok "7") ∧
      (Datum.scalar mute).StandsForTruth (.ok true) ∧
      ∃ e, (Datum.scalar mute).toStandard false = .error e ∧ e.kind = .other "RuntimeError" := by
  intro any half holder mute
  have settled : ({} : Style).measures {} = .ok {} := rfl
  refine ⟨?_, ⟨_, rfl, ?_⟩, .family rfl, ⟨_, rfl, rfl⟩⟩
  · have digits : Number.ofFloat ⟨0x4004000000000000⟩ (Binary64.shortest ⟨0x4004000000000000⟩) =
        { magnitude := ⟨25, 1⟩, isFloat := true } := by decide +kernel
    have read : (Datum.scalar holder).toNumber false =
        .ok { magnitude := ⟨25, 1⟩, isFloat := true } := congrArg Except.ok digits
    exact renderChecked_of_settled rfl settled read (by decide +kernel)
  · exact renderChecked_of_settled rfl settled rfl (by decide +kernel)

end Datum

end Numeral
