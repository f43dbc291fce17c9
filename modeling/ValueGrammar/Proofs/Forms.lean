import Mathlib.Data.List.Forall2
import ValueGrammar.Proofs.Fractions

/-! Descriptors in JSON. The text of a list of descriptors is read back as the
objects that were written, each of which names the kind of its descriptor and holds
all that the descriptor does. So the text tells the descriptors, but for numbers that
are none, which are all written alike. -/
namespace ValueGrammar.Forms
open Json Binary64 CanonicalNumerals Literals Reading Fractions

variable {x y : Binary64} {left right : Descriptor}

/-! ### Numbers -/

/-- Numbers that JSON does not tell apart. -/
def AlikeNumbers (x y : Binary64) : Prop := x.toBits = y.toBits ∨ x.isNaN ∧ y.isNaN

private theorem finite_json (finite : x.isFinite = true) :
    Descriptor.numberJson x = .number (Numeral.fractionalText x) := by
  rw [Descriptor.numberJson, if_pos finite]

private theorem infinite_json (infinite : ¬ x.isFinite = true) :
    Descriptor.numberJson x = .string (Literal.escape (Numeral.text x)) := by
  rw [Descriptor.numberJson, if_neg infinite]
  rfl

theorem number_legible (x : Binary64) : Legible (Descriptor.numberJson x) := by
  by_cases finite : x.isFinite = true
  · rw [finite_json finite]
    exact .number (fraction_numeric finite)
  · rw [infinite_json finite]
    exact .string (escape_whole _)

private theorem nan_infinite (none : x.isNaN = true) : ¬ x.isFinite = true := by
  simp only [isNaN, isFinite, decide_eq_true_eq] at none ⊢
  omega

/-- What is not finite and has a canonical numeral of its own is denoted by it. -/
private theorem infinite_denoted (infinite : ¬ x.isFinite = true) (number : ¬ x.isNaN = true) :
    denoted x = x := by
  have filled : ¬ x.isZero = true := by
    intro zero
    apply infinite
    rw [isFinite, of_decide_eq_true zero]
    decide
  rw [denoted, if_neg number, if_neg filled]

/-- Numbers that are not finite are told by their numerals, unless they are none. -/
theorem infinite_alike (infinite : ¬ x.isFinite = true) (infinite' : ¬ y.isFinite = true)
    (same : Numeral.text x = Numeral.text y) : AlikeNumbers x y := by
  have read := text_read x
  rw [same, text_read y] at read
  have denote : denoted x = denoted y := (Option.some.inj read).symm
  have none : (nan false).isNaN = true := by decide
  by_cases number : x.isNaN = true <;> by_cases number' : y.isNaN = true
  · exact .inr ⟨number, number'⟩
  · rw [infinite_denoted infinite' number', denoted, if_pos number] at denote
    rw [← denote] at number'
    exact absurd none number'
  · rw [infinite_denoted infinite number, denoted, if_pos number'] at denote
    rw [denote] at number
    exact absurd none number
  · rw [infinite_denoted infinite number, infinite_denoted infinite' number'] at denote
    exact .inl (congrArg toBits denote)

/-- A number in JSON tells the number, whether it is written as a number or not. -/
theorem number_json_iff :
    Descriptor.numberJson x = Descriptor.numberJson y ↔ AlikeNumbers x y := by
  constructor
  · intro same
    by_cases finite : x.isFinite = true <;> by_cases finite' : y.isFinite = true
    · rw [finite_json finite, finite_json finite'] at same
      have read := fraction_read finite
      rw [Json.number.inj same, fraction_read finite'] at read
      exact .inl (congrArg toBits (Option.some.inj read).symm)
    · rw [finite_json finite, infinite_json finite'] at same
      cases same
    · rw [infinite_json finite, finite_json finite'] at same
      cases same
    · rw [infinite_json finite, infinite_json finite'] at same
      exact infinite_alike finite finite' (escape_injective (Json.string.inj same))
  · rintro (same | ⟨none, none'⟩)
    · rw [toBits_injective same]
    · rw [infinite_json (nan_infinite none), infinite_json (nan_infinite none'),
        Printing.zeros_and_nans_alike (.inr ⟨none, none'⟩)]

/-! ### Descriptors -/

/-- Descriptors that JSON does not tell apart: all but numbers are the same. -/
def Alike : Descriptor → Descriptor → Prop
  | .numericLiteral x, .numericLiteral y => AlikeNumbers x y
  | left, right => left = right

/-- The names that stand in the JSON form of descriptors. -/
def names : List String :=
  ["type", "String", "Number", "Length", "StringLiteral", "NumericLiteral", "DataType", "Alias",
    "literal", "name", "generics", "default"]

theorem name_plain : ∀ name ∈ names, Literal.escape name = name := by decide +kernel

theorem name_inside {name : String} (known : name ∈ names) : Whole name :=
  plain_whole (name_plain name known)

/-- The name of the kind of a descriptor. -/
def kindName : Descriptor → String
  | .string => "String"
  | .number => "Number"
  | .length => "Length"
  | .stringLiteral _ => "StringLiteral"
  | .numericLiteral _ => "NumericLiteral"
  | .dataType _ => "DataType"
  | .named .. => "Alias"

/-- What JSON has for a descriptor besides its kind. -/
def contents : Descriptor → List (String × Json)
  | .string | .number | .length => []
  | .stringLiteral literal => [("literal", .string (Literal.escape literal))]
  | .numericLiteral literal => [("literal", Descriptor.numberJson literal)]
  | .dataType name => [("name", .string (Literal.escape name))]
  | .named name generics =>
    [("name", .string (Literal.escape name)),
      ("generics", .array (generics.map Descriptor.genericJson))]

/-- The form of a descriptor is an object that names its kind and has its contents. -/
theorem json_form (type : Descriptor) :
    type.json = .object (("type", .string (kindName type)) :: contents type) := by
  cases type <;> rfl

/-- What JSON has for the default of a parameter. -/
def defaultJson : Option String → Json
  | none => .null
  | some value => .string (Literal.escape value)

theorem generic_form (generic : Generic) :
    Descriptor.genericJson generic =
      .object [("name", .string (Literal.escape generic.name)),
        ("default", defaultJson generic.default)] := by
  obtain ⟨name, default⟩ := generic
  cases default <;> rfl

/-! ### Forms are legible -/

theorem default_legible (default : Option String) : Legible (defaultJson default) := by
  cases default with
  | none => exact .null
  | some value => exact .string (escape_whole value)

theorem object_legible {members : List (String × Json)}
    (known : ∀ member ∈ members, member.1 ∈ names)
    (each : ∀ member ∈ members, Legible member.2) : Legible (.object members) := by
  apply Legible.object _ each
  intro member inside
  exact name_inside (known member inside)

theorem array_legible {α : Type} {json : α → Json} (legible : ∀ value, Legible (json value))
    (values : List α) : Legible (.array (values.map json)) := by
  apply Legible.array
  intro item member
  obtain ⟨value, -, rfl⟩ := List.mem_map.mp member
  exact legible value

theorem generic_legible (generic : Generic) : Legible (Descriptor.genericJson generic) := by
  rw [generic_form]
  apply object_legible
  · simp [names]
  · simpa using ⟨Legible.string (escape_whole generic.name), default_legible generic.default⟩

theorem kind_known (type : Descriptor) : kindName type ∈ names := by
  cases type <;> simp [kindName, names]

theorem contents_known (type : Descriptor) : ∀ member ∈ contents type, member.1 ∈ names := by
  cases type <;> simp [contents, names]

theorem contents_legible (type : Descriptor) : ∀ member ∈ contents type, Legible member.2 := by
  cases type with
  | string | number | length => simp [contents]
  | stringLiteral literal => simpa [contents] using Legible.string (escape_whole literal)
  | numericLiteral literal => simpa [contents] using number_legible literal
  | dataType name => simpa [contents] using Legible.string (escape_whole name)
  | named name generics =>
    have listed := array_legible generic_legible generics
    simpa [contents] using ⟨Legible.string (escape_whole name), listed⟩

theorem form_legible (type : Descriptor) : Legible type.json := by
  have kind : Legible (.string (kindName type)) := .string (name_inside (kind_known type))
  rw [json_form]
  apply object_legible
  · rw [List.forall_mem_cons]
    exact ⟨List.mem_cons_self, contents_known type⟩
  · rw [List.forall_mem_cons]
    exact ⟨kind, contents_legible type⟩

/-! ### Forms tell descriptors -/

theorem default_injective {default default' : Option String}
    (same : defaultJson default = defaultJson default') : default = default' := by
  cases default with
  | none =>
    cases default' with
    | none => rfl
    | some value' => cases same
  | some value =>
    cases default' with
    | none => cases same
    | some value' => rw [escape_injective (Json.string.inj same)]

theorem generic_injective : Function.Injective Descriptor.genericJson := by
  intro generic generic' same
  obtain ⟨name, default⟩ := generic
  obtain ⟨name', default'⟩ := generic'
  simp only [generic_form, Json.object.injEq, List.cons.injEq, Prod.mk.injEq, Json.string.injEq,
    true_and, and_true] at same
  rw [escape_injective same.1, default_injective same.2]

/-- Descriptors of one kind are told by what JSON has for them besides the kind. -/
theorem contents_alike (kind : kindName left = kindName right)
    (same : contents left = contents right) : Alike left right := by
  cases left <;> cases right <;> simp [kindName] at kind
  case string | number | length => rfl
  all_goals
    simp only [contents, List.cons.injEq, Prod.mk.injEq, Json.string.injEq, Json.array.injEq,
      true_and, and_true] at same
  case stringLiteral => exact congrArg Descriptor.stringLiteral (escape_injective same)
  case numericLiteral => exact number_json_iff.mp same
  case dataType => exact congrArg Descriptor.dataType (escape_injective same)
  case named =>
    obtain ⟨name, generics⟩ := same
    exact congr (congrArg Descriptor.named (escape_injective name))
      (List.map_injective_iff.mpr generic_injective generics)

/-- The form of a descriptor tells the descriptor. -/
theorem json_iff : left.json = right.json ↔ Alike left right := by
  constructor
  · intro same
    rw [json_form, json_form] at same
    simp only [Json.object.injEq, List.cons.injEq, Prod.mk.injEq, Json.string.injEq,
      true_and] at same
    exact contents_alike same.1 same.2
  · intro alike
    unfold Alike at alike
    split at alike
    · rw [Descriptor.json, Descriptor.json, number_json_iff.mpr alike]
    · rw [alike]

/-- Lists of descriptors with one JSON text are the same list, but for numbers that are
none in the same places. -/
theorem json_tells_descriptors (types others : List Descriptor) :
    (Json.array (types.map Descriptor.json)).compact =
        (Json.array (others.map Descriptor.json)).compact ↔
      List.Forall₂ Alike types others := by
  have each : types.map Descriptor.json = others.map Descriptor.json ↔
      List.Forall₂ Alike types others := by
    rw [← List.forall₂_eq_eq_eq, List.forall₂_map_left_iff, List.forall₂_map_right_iff]
    simp only [json_iff]
  rw [← each]
  constructor
  · intro same
    have legible := array_legible form_legible
    exact Json.array.inj (compact_injective (legible types) (legible others) same)
  · intro same
    rw [same]

/-- Zeros of both signs, an infinity and the keyword of its name, and a parameter with
no default and with an empty one are written differently. -/
example : ([.numericLiteral (.zero false), .numericLiteral (.zero true),
      .numericLiteral (.infinity false), .stringLiteral "Infinity",
      .named "Color" [⟨"T", none⟩], .named "Color" [⟨"T", some ""⟩]].map
        fun type : Descriptor => (Json.array [type.json]).compact).Nodup := by
  decide +kernel

end ValueGrammar.Forms
