import FieldSchema.Terminal.LooseInteger
import FieldSchema.Terminal.Markup
import FieldSchema.Terminal.Options
import FieldSchema.Tool.Platform

/-! A terminal as the platform of a run. -/
namespace FieldSchema.Terminal

open Tool

/-- A later variable takes precedence over an earlier one. -/
def valueOf? (env : Environment) (name : String) : Option String :=
  (env.reverse.find? fun (key, _) => key.toLower = name.toLower).map (·.2)

def bool? (s : String) : Option Bool :=
  let s := s.toLower
  if ["true", "1", "yes", "on", "y", "t"].contains s then some true
  else if ["false", "0", "no", "off", "n", "f"].contains s then some false
  else none

def platform : Platform where
  opening? := opening?
  request? := request?
  valueOf? := valueOf?
  bool? := bool?
  int? s := LooseInteger.ofText? s.toList
  shown markup := (Markup.plain markup).mapError fun e => ⟨e.name, e.message⟩
  escape := Markup.escape

theorem platform_documented : platform.Documented where
  shows {t} h := by
    have plain : Markup.plain t = .ok (Markup.shown t) :=
      if_neg (by simpa [Markup.lbracket] using h)
    refine ⟨Markup.shown t, ?_⟩
    change (Markup.plain t).mapError _ = _
    rw [plain]
    rfl

end FieldSchema.Terminal
