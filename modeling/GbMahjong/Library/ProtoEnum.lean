import Mathlib.Data.List.Nodup

/-! Protobuf enumerations as the generated Rust code sees them: a closed list of
declared values, each with its number and its proto name. On the wire a field
is any number, so reading one back can fail. -/

set_option autoImplicit false

namespace GbMahjong.Library

/-- A proto3 `enum` with the numbers of its declared values. -/
class ProtoEnum (Value : Type) where
  values : List Value
  asI32 : Value → Int
  complete : ∀ value, value ∈ values
  distinct : (values.map asI32).Nodup

/-- A proto3 `enum` whose value names are used too. -/
class NamedProtoEnum (Value : Type) extends ProtoEnum Value where
  asStrName : Value → String

namespace ProtoEnum

variable {Value : Type} [ProtoEnum Value]

theorem asI32_injective {left right : Value} (same : asI32 left = asI32 right) :
    left = right :=
  List.inj_on_of_nodup_map distinct (complete left) (complete right) same

/-- `TryFrom<i32>`: the declared value with this number. -/
def tryFrom (number : Int) : Option Value :=
  (values : List Value).find? fun value => asI32 value == number

@[simp] theorem tryFrom_asI32 (value : Value) :
    tryFrom (asI32 value) = some value := by
  unfold tryFrom
  cases found : (values : List Value).find?
      (fun candidate => asI32 candidate == asI32 value) with
  | none =>
      have absent := List.find?_eq_none.mp found value (complete value)
      simp at absent
  | some candidate =>
      have same : asI32 candidate = asI32 value := by simpa using List.find?_some found
      rw [asI32_injective same]

theorem asI32_of_tryFrom {number : Int} {value : Value}
    (read : tryFrom number = some value) : asI32 value = number := by
  simpa using List.find?_some read

theorem tryFrom_eq_some_iff {number : Int} {value : Value} :
    tryFrom number = some value ↔ number = asI32 value := by
  constructor
  · intro read
    exact (asI32_of_tryFrom read).symm
  · rintro rfl
    exact tryFrom_asI32 value

theorem tryFrom_eq_none_iff {number : Int} :
    (tryFrom number : Option Value) = none ↔ ∀ value : Value, asI32 value ≠ number := by
  unfold tryFrom
  rw [List.find?_eq_none]
  constructor
  · intro absent value same
    exact absent value (complete value) (by simpa using same)
  · intro absent value _
    simpa using absent value

variable (Value) in
/-- The number of some declared value. -/
def Declared (number : Int) : Prop :=
  ∃ value : Value, asI32 value = number

theorem declared_iff_tryFrom {number : Int} :
    Declared Value number ↔ ∃ value : Value, tryFrom number = some value := by
  constructor
  · intro declared
    obtain ⟨value, rfl⟩ := declared
    exact ⟨value, tryFrom_asI32 value⟩
  · intro read
    obtain ⟨value, read⟩ := read
    exact ⟨value, asI32_of_tryFrom read⟩

instance (number : Int) : Decidable (Declared Value number) :=
  decidable_of_iff (∃ value ∈ (values : List Value), asI32 value = number) <| by
    constructor
    · intro declared
      obtain ⟨value, _, same⟩ := declared
      exact ⟨value, same⟩
    · intro declared
      obtain ⟨value, same⟩ := declared
      exact ⟨value, complete value, same⟩

end ProtoEnum

namespace NamedProtoEnum

variable {Value : Type} [NamedProtoEnum Value]

/-- `from_str_name`: the declared value with this proto name. -/
def fromStrName (name : String) : Option Value :=
  (ProtoEnum.values : List Value).find? fun value => asStrName value == name

end NamedProtoEnum

end GbMahjong.Library
