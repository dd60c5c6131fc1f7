import FieldSchema.Schema.Datum

/-! When two schemas are the same: kinds, names and data agree at every place, numbers being
compared by value. Hints do not count. -/
namespace FieldSchema

def Scalar.numeric? : Scalar → Option Numeric
  | int n => some n
  | real x => some x
  | text _ => none

def Scalar.same (a b : Scalar) : Bool :=
  match a.numeric?, b.numeric? with
  | some m, some n => m.same n
  | _, _ => a == b

def sameItems {α : Type} (same : α → α → Bool) : List α → List α → Bool
  | [], [] => true
  | a :: as, b :: bs => same a b && sameItems same as bs
  | _, _ => false

def Options.same (a b : Options) : Bool := sameItems Scalar.same a.scalars b.scalars

namespace Field

mutual

def same (f g : Field) : Bool :=
  f.name == g.name &&
    match f, g with
    | integer _ b, integer _ c => b == c
    | real _ b, real _ c => b.low.units == c.low.units && b.high.units == c.high.units
    | string _ b, string _ c => b == c
    | constant _ v, constant _ w => v.same w
    | boolean _, boolean _ => true
    | choice _ o, choice _ p => o.same p
    | object _ fs, object _ gs => sameAll fs gs
    | variant _ fs, variant _ gs => sameAll fs gs
    | array _ f b, array _ g c => same f g && b == c
    | optional _ f, optional _ g => same f g
    | template _ p b, template _ q c => p == q && b == c
    | _, _ => false

def sameAll : List Field → List Field → Bool
  | [], [] => true
  | f :: fs, g :: gs => same f g && sameAll fs gs
  | _, _ => false

end

end Field

namespace Datum

def countsAs? : Datum → Option Numeric
  | bool b => some (if b then (1 : Int) else (0 : Int))
  | int n => some n
  | real x => some x
  | _ => none

mutual

def same (a b : Datum) : Bool :=
  match a, b with
  | null, null => true
  | text s, text t => s == t
  | list as, list bs => sameAll as bs
  | field f, field g => f.same g
  | bare l, bare m => l.name == m.name
  | _, _ =>
    match a.countsAs?, b.countsAs? with
    | some m, some n => m.same n
    | _, _ => false

def sameAll : List Datum → List Datum → Bool
  | [], [] => true
  | a :: as, b :: bs => same a b && sameAll as bs
  | _, _ => false

end

/-- The values without those that are the same as an earlier one. -/
def distinct (values : List Datum) : List Datum :=
  values.foldl (fun kept v => if kept.any (·.same v) then kept else kept ++ [v]) []

end Datum
end FieldSchema
