import FieldSchema.Proofs.Number.Rounding
import FieldSchema.Proofs.Schema.Buildable

/-! Which arguments the constructors take. What each of them asks of its arguments is said here
without reference to the order of the checks, and they fail in no other way than by a check. -/
namespace FieldSchema

open Finite64 (unitsPerOne)

/-- A constructor with its arguments. -/
inductive Call where
  | integer (name hint low high : Datum)
  | real (name hint low high : Datum)
  | string (name hint low high : Datum)
  | constant (name hint value : Datum)
  | boolean (name hint : Datum)
  | choice (name hint : Datum) (values : List Datum)
  | object (name hint : Datum) (values : List Datum)
  | variant (name hint : Datum) (values : List Datum)
  | array (name hint element low high : Datum)
  | optional (name hint inner : Datum)
  | template (name hint text low high : Datum)

section Arguments

/-- A name that is not empty and has no control characters, and a hint or none. -/
def ValidLabel (name hint : Datum) : Prop :=
  (∃ s, name = .text s ∧ s ≠ "" ∧ isClean s) ∧ (hint = .null ∨ ∃ h, hint = .text h)

def OrderedIntegers (low high : Datum) : Prop :=
  ∃ m n, low = .int m ∧ high = .int n ∧ m ≤ n

/-- A finite number and its exact value, in units of the smallest positive double. -/
inductive FiniteNumber : Datum → Int → Prop where
  | int (n : Int) : FiniteNumber (.int n) (n * unitsPerOne)
  | real (x : Finite64) : FiniteNumber (.real (.finite x)) x.units

def OrderedNumbers (low high : Datum) : Prop :=
  ∃ m n, FiniteNumber low m ∧ FiniteNumber high n ∧ m ≤ n

def OrderedLengths (low high : Datum) : Prop :=
  ∃ m n, low = .int m ∧ high = .int n ∧ 0 ≤ m ∧ m ≤ n

def ConstantValue (value : Datum) : Prop :=
  (∃ n, value = .int n) ∨ (∃ x : Finite64, value = .real x) ∨ ∃ s, value = .text s

/-- Options of one type, no two of them equal; doubles are compared by value. -/
def DistinctOptions (values : List Datum) : Prop :=
  values ≠ [] ∧
    ((∃ ns : List Int, values = ns.map .int ∧ ns.Nodup) ∨
      (∃ xs : List Finite64, values = xs.map (fun x => .real x) ∧ (xs.map Finite64.units).Nodup) ∨
      ∃ ss : List String, values = ss.map .text ∧ ss.Nodup)

def DistinctMembers (values : List Datum) : Prop :=
  ∃ fields : List Field, values = fields.map .field ∧ (fields.map Field.name).Nodup

def ObjectAlternatives (values : List Datum) : Prop :=
  values ≠ [] ∧ ∃ fields : List Field, values = fields.map .field ∧ ∀ f ∈ fields, f.kind = .object

def MarkedText (text : Datum) : Prop :=
  ∃ s, text = .text s ∧ Search.occurrences generatedMark.toList s.toList = 1 ∧ isClean s

end Arguments

namespace Call

def run : Call → Except SchemaError Field
  | integer name hint low high => Construct.integer name hint low high
  | real name hint low high => Construct.real name hint low high
  | string name hint low high => Construct.string name hint low high
  | constant name hint value => Construct.constant name hint value
  | boolean name hint => Construct.boolean name hint
  | choice name hint values => Construct.choice name hint values
  | object name hint values => Construct.object name hint values
  | variant name hint values => Construct.variant name hint values
  | array name hint element low high => Construct.array name hint element low high
  | optional name hint inner => Construct.optional name hint inner
  | template name hint text low high => Construct.template name hint text low high

/-- What the arguments have to be. Options, members and alternatives may come as one list. -/
def Valid : Call → Prop
  | integer name hint low high => ValidLabel name hint ∧ OrderedIntegers low high
  | real name hint low high => ValidLabel name hint ∧ OrderedNumbers low high
  | string name hint low high => ValidLabel name hint ∧ OrderedLengths low high
  | constant name hint value => ValidLabel name hint ∧ ConstantValue value
  | boolean name hint => ValidLabel name hint
  | choice name hint values => ValidLabel name hint ∧ DistinctOptions (Datum.spread values)
  | object name hint values => ValidLabel name hint ∧ DistinctMembers (Datum.spread values)
  | variant name hint values => ValidLabel name hint ∧ ObjectAlternatives (Datum.spread values)
  | array name hint element low high =>
    ValidLabel name hint ∧ (∃ f, element = .field f) ∧ OrderedLengths low high
  | optional name hint inner => ValidLabel name hint ∧ ∃ f, inner = .field f
  | template name hint text low high =>
    ValidLabel name hint ∧ MarkedText text ∧ OrderedLengths low high

/-- A field among the arguments. -/
def Gives (g : Field) : Call → Prop
  | object _ _ values | variant _ _ values => .field g ∈ Datum.spread values
  | array _ _ d _ _ | optional _ _ d => d = .field g
  | _ => False

/-- An integer that is given as a bound for doubles is nearer to zero than to the power of two after
the largest double. -/
def Convertible : Call → Prop
  | real _ _ low high =>
    ∀ n, low = .int n ∨ high = .int n → n.natAbs < 2 ^ 1024 - 2 ^ 970
  | _ => True

end Call

/-- A computation that returns a result exactly if `p`, and otherwise fails by a check. -/
structure Checks {α : Type} (r : Except SchemaError α) (p : Prop) : Prop where
  returns : (∃ a, r = .ok a) ↔ p
  refuses : r ≠ .error .integerTooLarge

namespace Checks

variable {α β : Type} {r : Except SchemaError α} {p q : Prop}

theorem congr (h : Checks r q) (hp : p ↔ q) : Checks r p := ⟨h.returns.trans hp.symm, h.refuses⟩

theorem accept {a : α} (h : p) : Checks (.ok a) p := ⟨iff_of_true ⟨a, rfl⟩ h, nofun⟩

theorem reject {e : SchemaError} (hp : ¬ p) (he : e ≠ .integerTooLarge) :
    Checks (.error e : Except SchemaError α) p :=
  ⟨iff_of_false (fun ⟨_, h⟩ => absurd h nofun) hp, fun h => he (Except.error.inj h)⟩

theorem bind {k : α → Except SchemaError β} (hr : Checks r p)
    (hk : ∀ a, r = .ok a → Checks (k a) q) : Checks (r >>= k) (p ∧ q) := by
  cases r with
  | error e =>
    have hp : ¬ p := fun h => by simpa using hr.returns.2 h
    exact reject (fun h => hp h.1) fun he => hr.refuses (congrArg _ he)
  | ok a => exact (hk a rfl).congr (and_iff_right (hr.returns.1 ⟨a, rfl⟩))

theorem map {k : α → β} (hr : Checks r p) : Checks (r >>= fun a => .ok (k a)) p :=
  (hr.bind fun _ _ => accept trivial).congr (and_iff_left trivial).symm

end Checks

namespace Construct

variable {name hint low high : Datum} {label : String}

theorem checks_label (name hint : Datum) :
    Checks (Label.make name hint) (ValidLabel name hint) := by
  unfold Label.make
  split
  next s =>
    split
    next named =>
      split
      next clean =>
        have valid : ∃ s', Datum.text s = .text s' ∧ s' ≠ "" ∧ isClean s' := ⟨s, rfl, named, clean⟩
        split
        next => exact .accept ⟨valid, .inl rfl⟩
        next h => exact .accept ⟨valid, .inr ⟨h, rfl⟩⟩
        next other_null other_text =>
          refine .reject ?_ (by simp)
          rintro ⟨-, rfl | ⟨h, rfl⟩⟩
          · exact other_null rfl
          · exact other_text _ rfl
      next unclean =>
        refine .reject ?_ (by simp)
        rintro ⟨⟨s', same, -, clean⟩, -⟩
        exact unclean (Datum.text.inj same ▸ clean)
    next empty =>
      refine .reject ?_ (by simp)
      rintro ⟨⟨s', same, named, -⟩, -⟩
      exact empty (Datum.text.inj same ▸ named)
  next other =>
    refine .reject ?_ (by simp)
    rintro ⟨⟨s, hs, -⟩, -⟩
    exact other s hs

theorem checks_lengths (kind : Kind) (label : String) (low high : Datum) :
    Checks (lengths kind label low high) (OrderedLengths low high) := by
  unfold lengths
  split
  next m n =>
    split
    next negative =>
      refine .reject ?_ (by simp)
      rintro ⟨m', n', hm, -, positive, -⟩
      obtain rfl := Datum.int.inj hm
      omega
    next positive =>
      split
      next ordered => exact .accept ⟨m, n, rfl, rfl, by omega, ordered⟩
      next reversed =>
        refine .reject ?_ (by simp)
        rintro ⟨m', n', hm, hn, -, ordered⟩
        obtain rfl := Datum.int.inj hm
        obtain rfl := Datum.int.inj hn
        exact reversed ordered
  next other =>
    refine .reject ?_ (by simp)
    rintro ⟨m, n, hm, hn, -⟩
    exact other m n hm hn

theorem checks_integer (name hint low high : Datum) :
    Checks (integer name hint low high) (ValidLabel name hint ∧ OrderedIntegers low high) := by
  refine (checks_label name hint).bind fun label _ => ?_
  split
  next m n =>
    split
    next ordered => exact .accept ⟨m, n, rfl, rfl, ordered⟩
    next reversed =>
      refine .reject ?_ (by simp)
      rintro ⟨m', n', hm, hn, ordered⟩
      obtain rfl := Datum.int.inj hm
      obtain rfl := Datum.int.inj hn
      exact reversed ordered
  next other =>
    refine .reject ?_ (by simp)
    rintro ⟨m, n, hm, hn, -⟩
    exact other m n hm hn

theorem checks_string (name hint low high : Datum) :
    Checks (string name hint low high) (ValidLabel name hint ∧ OrderedLengths low high) :=
  (checks_label name hint).bind fun label _ => (checks_lengths .string label.name low high).map

theorem checks_constant (name hint value : Datum) :
    Checks (constant name hint value) (ValidLabel name hint ∧ ConstantValue value) := by
  refine (checks_label name hint).bind fun label _ => ?_
  cases value with
  | int n => exact .accept (.inl ⟨n, rfl⟩)
  | text s => exact .accept (.inr (.inr ⟨s, rfl⟩))
  | real x =>
    cases x with
    | finite x => exact .accept (.inr (.inl ⟨x, rfl⟩))
    | infinite | nan => exact .reject (by simp [ConstantValue]) (by simp)
  | _ => exact .reject (by simp [ConstantValue]) (by simp)

theorem checks_boolean (name hint : Datum) : Checks (boolean name hint) (ValidLabel name hint) :=
  (checks_label name hint).map

section Options

variable {values : List Datum}

/-- What takes items off one by one has taken all of them in the end. -/
theorem eq_map_of_taken {α β : Type} {wrap : α → β} (take : List β → Option (List α))
    (nil : take [] = some []) (cons : ∀ b rest as, take (b :: rest) = some as →
      ∃ a more, b = wrap a ∧ take rest = some more ∧ as = a :: more)
    {bs : List β} {as : List α} (h : take bs = some as) : bs = as.map wrap := by
  induction bs generalizing as with
  | nil =>
    obtain rfl := Option.some.inj (nil.symm.trans h)
    rfl
  | cons b rest ih =>
    obtain ⟨a, more, rfl, taken, rfl⟩ := cons b rest as h
    rw [ih taken, List.map_cons]

theorem eq_of_ints? {ns : List Int} : Datum.ints? values = some ns → values = ns.map .int := by
  refine eq_map_of_taken Datum.ints? rfl fun d rest ns h => ?_
  cases d with
  | int n =>
    obtain ⟨more, taken, rfl⟩ := Option.map_eq_some_iff.1 h
    exact ⟨n, more, rfl, taken, rfl⟩
  | _ => exact absurd h nofun

theorem eq_of_reals? {xs : List Binary64} :
    Datum.reals? values = some xs → values = xs.map .real := by
  refine eq_map_of_taken Datum.reals? rfl fun d rest xs h => ?_
  cases d with
  | real x =>
    obtain ⟨more, taken, rfl⟩ := Option.map_eq_some_iff.1 h
    exact ⟨x, more, rfl, taken, rfl⟩
  | _ => exact absurd h nofun

theorem eq_of_texts? {ss : List String} :
    Datum.texts? values = some ss → values = ss.map .text := by
  refine eq_map_of_taken Datum.texts? rfl fun d rest ss h => ?_
  cases d with
  | text s =>
    obtain ⟨more, taken, rfl⟩ := Option.map_eq_some_iff.1 h
    exact ⟨s, more, rfl, taken, rfl⟩
  | _ => exact absurd h nofun

theorem eq_of_finites? {xs : List Binary64} {ys : List Finite64} :
    Binary64.finites? xs = some ys → xs = ys.map .finite := by
  refine eq_map_of_taken Binary64.finites? rfl fun x rest ys h => ?_
  cases x with
  | finite y =>
    obtain ⟨more, taken, rfl⟩ := Option.map_eq_some_iff.1 h
    exact ⟨y, more, rfl, taken, rfl⟩
  | infinite | nan => exact absurd h nofun

theorem eq_of_sortedOptions {o : Options} (h : sortedOptions label values = .ok o) :
    values = optionValues o := by
  unfold sortedOptions at h
  split at h
  next =>
    obtain rfl := Except.ok.inj h
    exact eq_of_ints? ‹_›
  next =>
    split at h
    next ys finite =>
      obtain rfl := Except.ok.inj h
      rw [eq_of_reals? ‹Datum.reals? values = some _›, eq_of_finites? finite, optionValues]
    next => cases h
  next =>
    obtain rfl := Except.ok.inj h
    exact eq_of_texts? ‹_›
  next => cases h

theorem sortedOptions_refuses : sortedOptions label values ≠ .error .integerTooLarge := by
  unfold sortedOptions
  split
  · nofun
  · split <;> nofun
  · nofun
  · nofun

theorem distinctOptions_iff : DistinctOptions values ↔ ∃ o, o.Valid ∧ values = optionValues o := by
  constructor
  · rintro ⟨some_value, ⟨ns, rfl, distinct⟩ | ⟨xs, rfl, distinct⟩ | ⟨ss, rfl, distinct⟩⟩
    · exact ⟨.ints ns, ⟨by simpa using some_value, distinct⟩, rfl⟩
    · exact ⟨.reals xs, ⟨by simpa using some_value, distinct⟩, by simp [optionValues]⟩
    · exact ⟨.texts ss, ⟨by simpa using some_value, distinct⟩, rfl⟩
  · rintro ⟨o, valid, rfl⟩
    cases o with
    | ints ns => exact ⟨by simpa [optionValues] using valid.1, .inl ⟨ns, rfl, valid.2⟩⟩
    | reals xs =>
      exact ⟨by simpa [optionValues] using valid.1,
        .inr (.inl ⟨xs, by simp [optionValues], valid.2⟩)⟩
    | texts ss => exact ⟨by simpa [optionValues] using valid.1, .inr (.inr ⟨ss, rfl, valid.2⟩)⟩

theorem eq_of_options {o : Options} (h : options label values = .ok o) :
    values = optionValues o := by
  unfold options at h
  split at h
  next => exact absurd h nofun
  next =>
    obtain ⟨o', sorted, h⟩ := Except.bind_eq_ok.1 h
    split at h
    next =>
      obtain rfl := Except.ok.inj h
      exact eq_of_sortedOptions sorted
    next => exact absurd h nofun

theorem options_refuses : options label values ≠ .error .integerTooLarge := by
  unfold options
  split
  · nofun
  · cases hs : sortedOptions label values with
    | error e =>
      exact fun he => sortedOptions_refuses (hs.trans (congrArg _ (Except.error.inj he)))
    | ok o =>
      have valid : ∀ r : Except SchemaError Options, r = (if o.Valid then pure o
          else throw (.repeatedOption label)) → r ≠ .error .integerTooLarge := by
        rintro _ rfl
        split <;> nofun
      exact valid _ rfl

theorem checks_options (label : String) (values : List Datum) :
    Checks (options label values) (DistinctOptions values) := by
  rw [distinctOptions_iff]
  refine ⟨⟨fun ⟨o, h⟩ => ⟨o, options_valid h, eq_of_options h⟩, fun ⟨o, valid, given⟩ => ?_⟩,
    options_refuses⟩
  rw [given]
  exact ⟨o, options_ok valid⟩

end Options

theorem checks_choice (name hint : Datum) (values : List Datum) :
    Checks (choice name hint values)
      (ValidLabel name hint ∧ DistinctOptions (Datum.spread values)) :=
  (checks_label name hint).bind fun label _ => (checks_options label.name _).map

def NewMembers (seen : List String) (values : List Datum) : Prop :=
  ∃ fields : List Field, values = fields.map .field ∧ (fields.map Field.name).Nodup ∧
    ∀ f ∈ fields, f.name ∉ seen

theorem newMembers_cons {seen : List String} {f : Field} {rest : List Datum} :
    NewMembers seen (.field f :: rest) ↔ f.name ∉ seen ∧ NewMembers (f.name :: seen) rest := by
  constructor
  · rintro ⟨fields, given, distinct, new⟩
    cases fields with
    | nil => exact absurd given nofun
    | cons g fields =>
      obtain ⟨rfl, rfl⟩ : f = g ∧ rest = fields.map .field := by simpa using given
      rw [List.map_cons, List.nodup_cons] at distinct
      obtain ⟨here, there⟩ := List.forall_mem_cons.1 new
      refine ⟨here, fields, rfl, distinct.2, fun h hh => ?_⟩
      rw [List.mem_cons, not_or]
      exact ⟨fun same => distinct.1 (same ▸ List.mem_map_of_mem hh), there h hh⟩
  · rintro ⟨here, fields, rfl, distinct, new⟩
    refine ⟨f :: fields, rfl, ?_, List.forall_mem_cons.2 ⟨here, fun g hg hs => ?_⟩⟩
    · rw [List.map_cons, List.nodup_cons]
      refine ⟨fun hf => ?_, distinct⟩
      obtain ⟨g, hg, same⟩ := List.mem_map.1 hf
      exact new g hg (by simp [same])
    · exact new g hg (List.mem_cons_of_mem _ hs)

theorem checks_members (label : String) (seen : List String) (values : List Datum) :
    Checks (members label seen values) (NewMembers seen values) := by
  induction values generalizing seen with
  | nil => exact .accept ⟨[], rfl, List.nodup_nil, List.forall_mem_nil _⟩
  | cons d rest ih =>
    cases d with
    | field f =>
      unfold members
      split
      next old => exact .reject (fun h => (newMembers_cons.1 h).1 old) (by simp)
      next new => exact (ih (f.name :: seen)).map.congr (newMembers_cons.trans (and_iff_right new))
    | _ =>
      refine .reject ?_ (by simp)
      rintro ⟨fields, given, -⟩
      cases fields <;> simp at given

theorem checks_object (name hint : Datum) (values : List Datum) :
    Checks (object name hint values)
      (ValidLabel name hint ∧ DistinctMembers (Datum.spread values)) := by
  refine (checks_label name hint).bind fun label _ => ?_
  refine (checks_members label.name [] _).map.congr ?_
  simp [DistinctMembers, NewMembers]

theorem checks_alternatives (label : String) (values : List Datum) :
    Checks (alternatives label values) (∃ fields : List Field, values = fields.map .field ∧
      ∀ f ∈ fields, f.kind = .object) := by
  induction values with
  | nil => exact .accept ⟨[], rfl, List.forall_mem_nil _⟩
  | cons d rest ih =>
    unfold alternatives
    split
    next below members =>
      refine ih.map.congr ⟨?_, ?_⟩
      · rintro ⟨fields, given, objects⟩
        cases fields with
        | nil => exact absurd given nofun
        | cons g fields =>
          exact ⟨fields, (List.cons.inj given).2, (List.forall_mem_cons.1 objects).2⟩
      · rintro ⟨fields, given, objects⟩
        exact ⟨.object below members :: fields, by rw [given]; rfl,
          List.forall_mem_cons.2 ⟨rfl, objects⟩⟩
    next other =>
      refine .reject ?_ (by simp)
      rintro ⟨fields, given, objects⟩
      cases fields with
      | nil => exact absurd given nofun
      | cons g fields =>
        have object := (List.forall_mem_cons.1 objects).1
        cases g with
        | object below members => exact other below members (List.cons.inj given).1
        | _ => exact absurd object nofun

theorem checks_variant (name hint : Datum) (values : List Datum) :
    Checks (variant name hint values)
      (ValidLabel name hint ∧ ObjectAlternatives (Datum.spread values)) := by
  refine (checks_label name hint).bind fun label _ => ?_
  generalize Datum.spread values = given
  cases given with
  | nil => exact .reject (fun h => h.1 rfl) (by simp)
  | cons d rest =>
    exact (checks_alternatives label.name (d :: rest)).map.congr
      (and_iff_right (List.cons_ne_nil d rest))

theorem checks_array (name hint element low high : Datum) :
    Checks (array name hint element low high)
      (ValidLabel name hint ∧ (∃ f, element = .field f) ∧ OrderedLengths low high) := by
  refine (checks_label name hint).bind fun label _ => ?_
  split
  next f => exact (checks_lengths .array label.name low high).map.congr (and_iff_right ⟨f, rfl⟩)
  next other =>
    refine .reject ?_ (by simp)
    rintro ⟨⟨f, h⟩, -⟩
    exact other f h

theorem checks_optional (name hint inner : Datum) :
    Checks (optional name hint inner) (ValidLabel name hint ∧ ∃ f, inner = .field f) := by
  refine (checks_label name hint).bind fun label _ => ?_
  split
  next f => exact .accept ⟨f, rfl⟩
  next other =>
    refine .reject ?_ (by simp)
    rintro ⟨f, h⟩
    exact other f h

theorem checks_pattern (label : String) (text : Datum) :
    Checks (pattern label text) (MarkedText text) := by
  cases text with
  | text s =>
    unfold pattern
    dsimp only
    split
    next once =>
      split
      next clean => exact .accept ⟨s, rfl, once, clean⟩
      next unclean =>
        refine .reject ?_ (by simp)
        rintro ⟨s', same, -, clean⟩
        exact unclean (Datum.text.inj same ▸ clean)
    next many =>
      refine .reject ?_ (by simp)
      rintro ⟨s', same, once, -⟩
      exact many (Datum.text.inj same ▸ once)
  | _ => exact .reject (by simp [MarkedText]) (by simp)

theorem checks_template (name hint text low high : Datum) :
    Checks (template name hint text low high)
      (ValidLabel name hint ∧ MarkedText text ∧ OrderedLengths low high) :=
  (checks_label name hint).bind fun label _ => (checks_pattern label.name text).bind fun _ _ =>
    (checks_lengths .template label.name low high).map

section Numbers

theorem finiteNumber_unique {d : Datum} {m n : Int} (hm : FiniteNumber d m)
    (hn : FiniteNumber d n) : m = n := by
  cases hm <;> cases hn <;> rfl

theorem not_finiteNumber {d : Datum} (h : d.numeric? = none) (m : Int) : ¬ FiniteNumber d m := by
  intro hm
  cases hm <;> exact absurd h nofun

/-- The conversion of a number, as one that uses the conversion of an integer. Named so, the latter
is not computed where the former is unfolded. -/
theorem toFinite?_eq_conversion : ∃ f : (Int → Option Finite64) → Numeric →
    Except SchemaError (Option Finite64), Numeric.toFinite? = f Binary64.ofInt? ∧
      ∀ convert n x, convert n = some x → f convert (.int n) = .ok (some x) := by
  delta Numeric.toFinite?
  refine ⟨?f, ?shape, ?int⟩
  case shape =>
    generalize Binary64.ofInt? = convert
    exact rfl
  case int =>
    intro convert n x h
    dsimp only
    rw [h]

theorem toFinite?_int {n : Int} {x : Finite64} (h : Binary64.ofInt? n = some x) :
    (Numeric.int n).toFinite? = .ok (some x) := by
  obtain ⟨f, shape, int⟩ := toFinite?_eq_conversion
  rw [shape]
  exact int _ n x h

/-- A number that can be converted is finite and has a double next to it, or it is not finite. -/
theorem toFinite?_spec {d : Datum} {a : Numeric} (h : d.numeric? = some a)
    (small : ∀ n, d = .int n → n.natAbs < 2 ^ 1024 - 2 ^ 970) :
    (∃ x m, a.toFinite? = .ok (some x) ∧ FiniteNumber d m ∧ Rounds m x ∧ a.place? = some (0, m)) ∨
      (a.toFinite? = .ok none ∧ ∀ m, ¬ FiniteNumber d m) := by
  cases d with
  | int n =>
    obtain rfl := Option.some.inj h
    obtain ⟨x, hx⟩ := ofInt?_isSome (small n rfl)
    have near : Rounds (n * unitsPerOne) x := .int hx
    have place : (Numeric.int n).place? = some (0, n * unitsPerOne) := by rw [Numeric.place?]
    exact .inl ⟨x, _, toFinite?_int hx, .int n, near, place⟩
  | real x =>
    obtain rfl := Option.some.inj h
    cases x with
    | finite x => exact .inl ⟨x, x.units, rfl, .real x, .double x, rfl⟩
    | infinite | nan => exact .inr ⟨rfl, fun m hm => by cases hm⟩
  | _ => exact absurd h nofun

theorem checks_real (name hint low high : Datum)
    (small : ∀ n, low = .int n ∨ high = .int n → n.natAbs < 2 ^ 1024 - 2 ^ 970) :
    Checks (real name hint low high) (ValidLabel name hint ∧ OrderedNumbers low high) := by
  refine (checks_label name hint).bind fun label _ => ?_
  cases hl : low.numeric? with
  | none =>
    refine .reject ?_ (by simp)
    rintro ⟨m, n, hm, -, -⟩
    exact not_finiteNumber hl m hm
  | some a =>
    cases hh : high.numeric? with
    | none =>
      refine .reject ?_ (by simp)
      rintro ⟨m, n, -, hn, -⟩
      exact not_finiteNumber hh n hn
    | some b =>
      dsimp only
      obtain ⟨x, m, hx, hm, near, place⟩ | ⟨hx, none⟩ :=
        toFinite?_spec hl fun n h => small n (.inl h)
      · obtain ⟨y, n, hy, hn, near', place'⟩ | ⟨hy, none⟩ :=
          toFinite?_spec hh fun n h => small n (.inr h)
        · rw [hx, hy]
          dsimp only [bind, Except.bind]
          rw [Numeric.lt_eq_decide place' place]
          by_cases less : n < m
          · rw [decide_eq_true less, if_pos rfl]
            refine .reject ?_ (by simp)
            rintro ⟨m', n', hm', hn', ordered⟩
            rw [finiteNumber_unique hm' hm, finiteNumber_unique hn' hn] at ordered
            omega
          · have ordered : x ≤ y := near.mono near' (Int.not_lt.1 less)
            rw [decide_eq_false less, if_neg Bool.false_ne_true]
            dsimp only [pure, Except.pure]
            rw [dif_pos ordered]
            exact .accept ⟨m, n, hm, hn, Int.not_lt.1 less⟩
        · rw [hx, hy]
          refine .reject ?_ (by simp)
          rintro ⟨m, n, -, hn, -⟩
          exact none n hn
      · rw [hx]
        refine .reject ?_ (by simp)
        rintro ⟨m, n, hm, -, -⟩
        exact none m hm

end Numbers

end Construct

namespace Call

open Construct

/-- What a call does, if it does not have to round an integer beyond all doubles. -/
theorem checks_run (c : Call) (h : c.Convertible) : Checks c.run c.Valid := by
  cases c with
  | integer name hint low high => exact checks_integer name hint low high
  | real name hint low high => exact checks_real name hint low high h
  | string name hint low high => exact checks_string name hint low high
  | constant name hint value => exact checks_constant name hint value
  | boolean name hint => exact checks_boolean name hint
  | choice name hint values => exact checks_choice name hint values
  | object name hint values => exact checks_object name hint values
  | variant name hint values => exact checks_variant name hint values
  | array name hint element low high => exact checks_array name hint element low high
  | optional name hint inner => exact checks_optional name hint inner
  | template name hint text low high => exact checks_template name hint text low high

/-- Out of fields that were built before comes a field that is built. -/
theorem constructed_run {c : Call} {f : Field} (given : ∀ g, c.Gives g → Constructed g)
    (h : c.run = .ok f) : Constructed f := by
  cases c with
  | integer name hint low high => exact .integer h
  | real name hint low high => exact .real h
  | string name hint low high => exact .string h
  | constant name hint value => exact .constant h
  | boolean name hint => exact .boolean h
  | choice name hint values => exact .choice h
  | object name hint values => exact .object given h
  | variant name hint values => exact .variant given h
  | array name hint element low high =>
    obtain ⟨-, ⟨g, rfl⟩, -⟩ := (checks_array name hint element low high).returns.1 ⟨f, h⟩
    exact .array (given g rfl) h
  | optional name hint inner =>
    obtain ⟨-, g, rfl⟩ := (checks_optional name hint inner).returns.1 ⟨f, h⟩
    exact .optional (given g rfl) h
  | template name hint text low high => exact .template h

/-- A constructor returns a field exactly for valid arguments. For all others it fails by one of its
checks, and what it returns is well-formed if the fields that it is given are. -/
theorem run_isOk_iff (c : Call) (h : c.Convertible) :
    ((∃ f, c.run = .ok f) ↔ c.Valid) ∧ c.run ≠ .error .integerTooLarge ∧
      ∀ f, (∀ g, c.Gives g → g.WellFormed) → c.run = .ok f → f.WellFormed := by
  refine ⟨(checks_run c h).returns, (checks_run c h).refuses, fun f given built => ?_⟩
  exact (constructed_run (fun g hg => (given g hg).constructed) built).wellFormed

def oddBounds : Call := .real (.text "count") .null (.int 0) (.int (2 ^ 53 + 1))

theorem oddBounds_taken : oddBounds.Convertible ∧ oddBounds.Valid ∧
    ∃ f, oddBounds.run = .ok f ∧ f.WellFormed := by
  have small : oddBounds.Convertible := by
    rintro n (h | h) <;> (obtain rfl := Datum.int.inj h; decide +kernel)
  have ordered : (0 : Int) * unitsPerOne ≤ (2 ^ 53 + 1) * unitsPerOne :=
    Int.mul_le_mul_of_nonneg_right (by decide) (Int.natCast_nonneg _)
  have valid : oddBounds.Valid :=
    ⟨⟨⟨"count", rfl, by decide, by decide⟩, .inl rfl⟩, _, _, .int 0, .int _, ordered⟩
  obtain ⟨returns, -, built⟩ := run_isOk_iff oddBounds small
  obtain ⟨f, hf⟩ := returns.2 valid
  exact ⟨small, valid, f, hf, built f (fun g hg => absurd hg id) hf⟩

end Call

end FieldSchema
