import Mathlib.Data.List.Basic
import Mathlib.Data.Vector.Basic
import Mathlib.Tactic.Common

/-!
# Structures read from JSON

What the derived readers of serde make of a JSON text: of a structure with named fields, of an
enumeration without data, of a string, of a number and of an array of fixed length. They work on the
syntax tree of the text. A structure is an object that has each of its fields once, in any order
and among any others, or an array of its fields in their order.

The derived writer makes an object of the fields alone, `structObject`. It is read back
(`structFields_structObject`), and a structure with one more field does not read it
(`structFields_structObject_of_notMem`).
-/

set_option autoImplicit false
set_option relaxedAutoImplicit false

namespace SerdeJson

/-- The syntax tree of a JSON text, as far as the readers tell its parts apart. The text of a string
is missing when one of its escapes is no character, which matters only where the string is read. -/
inductive Json where
  | null
  | bool (value : Bool)
  | unsigned (value : UInt64)
  | otherNumber
  | string (text : Option String)
  | array (items : List Json)
  | object (members : List (Option String × Json))

/-! ### Structures -/

/-- The value of a field: the field must be there, and only once. -/
def field (members : List (Option String × Json)) (name : String) : Option Json :=
  match members.filter fun member ↦ member.1 = some name with
  | [member] => some member.2
  | _ => none

/-- The values of the fields of a structure, in the order of the fields. All names of members are
read, those of other members too. -/
def structFields (names : List String) : Json → Option (List Json)
  | .object members =>
    if members.all fun member ↦ member.1.isSome then names.mapM (field members) else none
  | .array items => if items.length = names.length then some items else none
  | _ => none

/-- The object that is written for a structure. -/
def structObject (names : List String) (values : List Json) : Json :=
  .object ((names.map some).zip values)

/-- No member of a written structure has the name of a field that the structure does not have. -/
theorem filter_zip_of_notMem {names : List String} {name : String} (hname : name ∉ names)
    (values : List Json) :
    ((names.map some).zip values).filter (fun member ↦ member.1 = some name) = [] := by
  rw [List.filter_eq_nil_iff]
  intro member hmember hfound
  have hmem : member.1 ∈ names.map some := (List.of_mem_zip hmember).1
  obtain ⟨other, hother, heq⟩ := List.mem_map.mp hmem
  have hsame : some other = some name := heq.trans (of_decide_eq_true hfound)
  exact hname (Option.some.inj hsame ▸ hother)

/-- A field of another name than the first member is looked for behind it. -/
theorem field_cons_of_ne {first name : String} (hne : first ≠ name) (value : Json)
    (members : List (Option String × Json)) :
    field ((some first, value) :: members) name = field members name := by
  rw [field, List.filter_cons_of_neg (by simpa using hne)]
  rfl

/-- Fields that do not have the name of the first member are looked for behind it. -/
theorem mapM_field_cons {first : String} {names : List String} (hfirst : first ∉ names)
    (value : Json) (members : List (Option String × Json)) :
    names.mapM (field ((some first, value) :: members)) = names.mapM (field members) := by
  induction names with
  | nil => rfl
  | cons name names ih =>
    rw [List.mem_cons, not_or] at hfirst
    rw [List.mapM_cons, List.mapM_cons, field_cons_of_ne hfirst.1, ih hfirst.2]

/-- The first field of a written structure is found. -/
theorem field_cons_zip {first : String} {names : List String} (hfirst : first ∉ names)
    (value : Json) (values : List Json) :
    field ((some first, value) :: (names.map some).zip values) first = some value := by
  rw [field, List.filter_cons_of_pos (by simp), filter_zip_of_notMem hfirst]

/-- The fields of a written structure are found in their order. -/
theorem mapM_field_zip {names : List String} (hnodup : names.Nodup) {values : List Json}
    (hlength : values.length = names.length) :
    names.mapM (field ((names.map some).zip values)) = some values := by
  induction names generalizing values with
  | nil =>
    rw [List.length_eq_zero_iff.mp hlength]
    rfl
  | cons name names ih =>
    obtain ⟨value, rest, rfl⟩ := List.exists_cons_of_length_eq_add_one hlength
    obtain ⟨hname, hnames⟩ := List.nodup_cons.mp hnodup
    have hrest := ih hnames (Nat.add_right_cancel hlength)
    rw [List.map_cons, List.zip_cons_cons, List.mapM_cons, field_cons_zip hname,
      mapM_field_cons hname, hrest]
    rfl

/-- All names of the members of a written structure can be read. -/
theorem all_isSome_zip (names : List String) (values : List Json) :
    ((names.map some).zip values).all (fun member ↦ member.1.isSome) = true := by
  rw [List.all_eq_true]
  intro member hmember
  obtain ⟨name, _, heq⟩ := List.mem_map.mp (List.of_mem_zip hmember).1
  rw [← heq]
  rfl

/-- A written structure is read back. -/
theorem structFields_structObject {names : List String} (hnodup : names.Nodup)
    {values : List Json} (hlength : values.length = names.length) :
    structFields names (structObject names values) = some values := by
  rw [structObject, structFields, if_pos (all_isSome_zip names values)]
  exact mapM_field_zip hnodup hlength

/-- A written structure is read as one that lacks its first field. -/
theorem structFields_structObject_cons {first : String} {names : List String}
    (hfirst : first ∉ names) (hnodup : names.Nodup) (value : Json) {values : List Json}
    (hlength : values.length = names.length) :
    structFields names (structObject (first :: names) (value :: values)) = some values := by
  rw [structObject, structFields, if_pos (all_isSome_zip (first :: names) (value :: values))]
  rw [List.map_cons, List.zip_cons_cons, mapM_field_cons hfirst]
  exact mapM_field_zip hnodup hlength

/-- A structure of one field is read from any written structure that begins with the field. -/
theorem structFields_singleton {first : String} {names : List String} (hfirst : first ∉ names)
    (value : Json) (values : List Json) :
    structFields [first] (structObject (first :: names) (value :: values)) = some [value] := by
  rw [structObject, structFields, if_pos (all_isSome_zip (first :: names) (value :: values))]
  rw [List.map_cons, List.zip_cons_cons, List.mapM_cons, field_cons_zip hfirst]
  rfl

/-- A written structure is not read as one that has another field. -/
theorem structFields_structObject_of_notMem {names others : List String} {name : String}
    (hmem : name ∈ others) (hname : name ∉ names) (values : List Json) :
    structFields others (structObject names values) = none := by
  have hmissing : field ((names.map some).zip values) name = none := by
    rw [field, filter_zip_of_notMem hname]
  have hfields : others.mapM (field ((names.map some).zip values)) = none := by
    induction others with
    | nil => simp at hmem
    | cons other others ih =>
      rw [List.mapM_cons]
      rcases List.mem_cons.mp hmem with rfl | hothers
      · rw [hmissing]
        rfl
      · rw [ih hothers]
        cases field ((names.map some).zip values) other <;> rfl
  rw [structObject, structFields, hfields, ite_self]

/-! ### Values of the fields -/

/-- A string. -/
def text : Json → Option String
  | .string text => text
  | _ => none

/-- An enumeration without data: the name of a variant, or an object with `null` under the name. -/
def unitVariant {α : Type*} (variants : List (String × α)) : Json → Option α
  | .string (some name) => variants.lookup name
  | .object [(some name, .null)] => variants.lookup name
  | _ => none

/-- A `u16`. -/
def u16 : Json → Option UInt16
  | .unsigned value => if value.toNat < 2 ^ 16 then some (UInt16.ofNat value.toNat) else none
  | _ => none

/-- An array of fixed length. -/
def fixedArray {α : Type} (length : ℕ) (item : Json → Option α) :
    Json → Option (List.Vector α length)
  | .array items =>
    (items.mapM item).bind fun values ↦
      if hlength : values.length = length then some ⟨values, hlength⟩ else none
  | _ => none

/-- A written `u16` is read back. -/
theorem u16_unsigned (value : UInt16) : u16 (.unsigned value.toUInt64) = some value := by
  have hvalue : value.toUInt64.toNat < 2 ^ 16 := by
    rw [UInt16.toNat_toUInt64]
    exact value.toNat_lt
  rw [u16, if_pos hvalue, UInt16.toNat_toUInt64, UInt16.ofNat_toNat]

/-- A written array is read back. Assumes: its items are. -/
theorem fixedArray_map {α : Type} {length : ℕ} {item : Json → Option α} {write : α → Json}
    (hitem : ∀ value, item (write value) = some value) (values : List.Vector α length) :
    fixedArray length item (.array (values.toList.map write)) = some values := by
  have hmap : ∀ items : List α, (items.map write).mapM item = some items := by
    intro items
    induction items with
    | nil => rfl
    | cons first items ih =>
      rw [List.map_cons, List.mapM_cons, hitem, ih]
      rfl
  rw [fixedArray, hmap, Option.bind_some, dif_pos values.toList_length]
  rfl

/-- A boolean. -/
def bool : Json → Option Bool
  | .bool value => some value
  | _ => none

/-- A `u64`. -/
def u64 : Json → Option UInt64
  | .unsigned value => some value
  | _ => none

/-- A `u8`. -/
def u8 : Json → Option UInt8
  | .unsigned value => if value.toNat < 2 ^ 8 then some (UInt8.ofNat value.toNat) else none
  | _ => none

/-- A `u32`. -/
def u32 : Json → Option UInt32
  | .unsigned value => if value.toNat < 2 ^ 32 then some (UInt32.ofNat value.toNat) else none
  | _ => none

/-- A vector. -/
def vector {α : Type} (item : Json → Option α) : Json → Option (List α)
  | .array items => items.mapM item
  | _ => none

/-- A written `u8` is read back. -/
theorem u8_unsigned (value : UInt8) : u8 (.unsigned value.toUInt64) = some value := by
  have hvalue : value.toUInt64.toNat < 2 ^ 8 := by
    rw [UInt8.toNat_toUInt64]
    exact value.toNat_lt
  rw [u8, if_pos hvalue, UInt8.toNat_toUInt64, UInt8.ofNat_toNat]

/-- A written `u32` is read back. -/
theorem u32_unsigned (value : UInt32) : u32 (.unsigned value.toUInt64) = some value := by
  have hvalue : value.toUInt64.toNat < 2 ^ 32 := by
    rw [UInt32.toNat_toUInt64]
    exact value.toNat_lt
  rw [u32, if_pos hvalue, UInt32.toNat_toUInt64, UInt32.ofNat_toNat]

/-- A written vector is read back. Assumes: its items are. -/
theorem vector_map {α : Type} {item : Json → Option α} {write : α → Json}
    (hitem : ∀ value, item (write value) = some value) (values : List α) :
    vector item (.array (values.map write)) = some values := by
  rw [vector]
  induction values with
  | nil => rfl
  | cons value values ih =>
    rw [List.map_cons, List.mapM_cons, hitem, ih]
    rfl

end SerdeJson
