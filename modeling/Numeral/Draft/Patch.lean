import Numeral.Draft.Basic

namespace Numeral

/-- New values for some fields of a style. A field whose value is unset is not named. -/
abbrev Patch := Field → Datum

namespace Patch

def empty : Patch :=
  fun _ => .unset

/-- A fill brings the explicit fill mode with it unless a mode is named. -/
def normal (p : Patch) : Patch
  | .mode =>
    match p .fill, p .mode with
    | .unset, mode => mode
    | _, .unset => .str PadMode.filled.text
    | _, mode => mode
  | field => p field

end Patch

/-- Puts the fields that the patch names in place of those of the draft. -/
def Draft.patched (d : Draft) (p : Patch) : Draft :=
  fun field => (p field).orElse (d field)

/-- Replaces the named fields of a style and checks the outcome. -/
def Style.merge (s : Style) (p : Patch) : Except DraftError Style :=
  (s.toDraft.patched p.normal).toStyle

end Numeral
