import Mathlib

/-!
# Plain objects of JavaScript

Strings are lists of UTF-16 code units.  A plain object `{}` has own properties
and inherits from `Object.prototype`: an assignment makes an own property unless
the prototype has a setter under the key, which `__proto__` is the only one to
have, and which does nothing with a string.
-/

namespace SsnConsole.JavaScript

/-- The UTF-16 code units of a string. -/
abbrev JsString : Type :=
  List UInt16

/-- The code unit of a character of the basic plane. -/
def unitOf (char : Char) : UInt16 :=
  UInt16.ofNat char.toNat

/-- The code units of an ASCII text in the source. -/
def unitsOf (text : String) : JsString :=
  text.toList.map unitOf

/-- The character of a code unit that is not half of a pair. -/
def charOf (unit : UInt16) : Char :=
  Char.ofNat unit.toNat

/-- A character of the basic plane is read back from its unit. -/
theorem charOf_unitOf
    {char : Char}
    (basic : char.toNat < 65536) :
    charOf (unitOf char) = char := by
  have read : (unitOf char).toNat = char.toNat % 65536 := rfl
  unfold charOf
  rw [read, Nat.mod_eq_of_lt basic, Char.ofNat_toNat]

section Numerals

/-- A number as a template literal writes it. -/
def numeral (value : Nat) : JsString :=
  (Nat.toDigits 10 value).map unitOf

/-- The codes of decimal digits. -/
theorem digit_bounds
    {value : Nat}
    {digit : Char}
    (member : digit ∈ Nat.toDigits 10 value) :
    48 ≤ digit.toNat ∧ digit.toNat ≤ 57 := by
  have isDigit := Nat.isDigit_of_mem_toDigits (by decide) (by decide) member
  have zero : '0'.toNat = 48 := rfl
  have nine : '9'.toNat = 57 := rfl
  have bounds := Char.isDigit_iff_toNat.mp isDigit
  omega

/-- A numeral has decimal digits only. -/
theorem numeral_bounds
    {value : Nat}
    {unit : UInt16}
    (member : unit ∈ numeral value) :
    48 ≤ unit.toNat ∧ unit.toNat ≤ 57 := by
  obtain ⟨digit, inside, rfl⟩ := List.mem_map.mp member
  have bounds := digit_bounds inside
  have read : (unitOf digit).toNat = digit.toNat % 65536 := rfl
  omega

/-- Numbers are told apart by their numerals. -/
theorem numeral_injective : Function.Injective numeral := by
  have readBack : ∀ value, (numeral value).map charOf = Nat.toDigits 10 value := by
    intro value
    calc
      (numeral value).map charOf = (Nat.toDigits 10 value).map (charOf ∘ unitOf) := List.map_map
      _ = (Nat.toDigits 10 value).map id := by
          apply List.map_congr_left
          intro digit member
          have bounds := digit_bounds member
          exact charOf_unitOf (by omega)
      _ = Nat.toDigits 10 value := List.map_id _
  intro first second same
  have digits : Nat.toDigits 10 first = Nat.toDigits 10 second := by
    rw [← readBack, ← readBack, same]
  have values := congrArg (fun digits => Nat.ofDigitChars 10 digits 0) digits
  simpa [Nat.ofDigitChars_toDigits] using values

end Numerals

section Objects

/-- A property: its key and its value. -/
abbrev Property : Type :=
  JsString × JsString

/-- A plain object whose values are strings, with its properties in the order of their
creation. -/
structure PlainObject where
  own : List Property
  distinct : (own.map Prod.fst).Nodup

/-- What an object inherits under a key. -/
inductive Inherited where
  | nothing
  | writable
  | accessor
deriving DecidableEq

/-- The key of the one accessor of `Object.prototype`. -/
def protoKey : JsString :=
  unitsOf "__proto__"

/-- The functions of `Object.prototype`. -/
def prototypeMethods : List JsString :=
  ["constructor", "hasOwnProperty", "isPrototypeOf", "propertyIsEnumerable", "toLocaleString",
    "toString", "valueOf", "__defineGetter__", "__defineSetter__", "__lookupGetter__",
    "__lookupSetter__"].map unitsOf

/-- `Object.prototype`. -/
def objectPrototype (key : JsString) : Inherited :=
  if key = protoKey then
    .accessor
  else if key ∈ prototypeMethods then
    .writable
  else
    .nothing

namespace PlainObject

/-- `{}`. -/
def empty : PlainObject :=
  ⟨[], List.nodup_nil⟩

/-- The keys of an object's own properties. -/
def keys (object : PlainObject) : List JsString :=
  object.own.map Prod.fst

/-- The value of an own property. -/
def get? (object : PlainObject) (key : JsString) : Option JsString :=
  (object.own.find? fun property => property.1 = key).map Prod.snd

/-- Give a property of this key another value. -/
def revalue (key value : JsString) (property : Property) : Property :=
  if property.1 = key then (key, value) else property

/-- Other values leave the keys as they are. -/
theorem keys_revalue
    (own : List Property)
    (key value : JsString) :
    (own.map (revalue key value)).map Prod.fst = own.map Prod.fst := by
  rw [List.map_map]
  apply List.map_congr_left
  intro property member
  simp only [Function.comp_apply, revalue]
  split
  · rename_i same
    exact same.symm
  · rfl

/-- A new key is not among the others. -/
theorem nodup_append_key
    {own : List Property}
    {key : JsString}
    (distinct : (own.map Prod.fst).Nodup)
    (new : key ∉ own.map Prod.fst)
    (value : JsString) :
    ((own ++ [(key, value)]).map Prod.fst).Nodup := by
  rw [List.map_append, List.nodup_append]
  refine ⟨distinct, List.nodup_singleton _, ?_⟩
  intro first firstMember second secondMember same
  obtain rfl := List.mem_singleton.mp secondMember
  exact new (same ▸ firstMember)

/-- Make an own property, as `JSON.parse` does, or give it another value. -/
def define (object : PlainObject) (key value : JsString) : PlainObject :=
  if present : key ∈ object.keys then
    ⟨object.own.map (revalue key value), keys_revalue object.own key value ▸ object.distinct⟩
  else
    ⟨object.own ++ [(key, value)], nodup_append_key object.distinct present value⟩

/-- `object[key] = value`: an inherited accessor is called instead, and does nothing with a
string. -/
def assign (object : PlainObject) (key value : JsString) : PlainObject :=
  if key ∈ object.keys then
    object.define key value
  else
    match objectPrototype key with
    | .accessor => object
    | .writable => object.define key value
    | .nothing => object.define key value

/-- A new key is put behind the others. -/
theorem own_define
    {object : PlainObject}
    {key : JsString}
    (new : key ∉ object.keys)
    (value : JsString) :
    (object.define key value).own = object.own ++ [(key, value)] := by
  unfold define
  rw [dif_neg new]

/-- A new key is put behind the others, unless it is that of the inherited accessor. -/
theorem own_assign
    {object : PlainObject}
    {key : JsString}
    (new : key ∉ object.keys)
    (value : JsString) :
    (object.assign key value).own =
      if key = protoKey then object.own else object.own ++ [(key, value)] := by
  unfold assign objectPrototype
  rw [if_neg new]
  by_cases proto : key = protoKey
  · rw [if_pos proto, if_pos proto]
  · rw [if_neg proto, if_neg proto]
    split
    · rename_i inherited
      split at inherited <;> cases inherited
    · exact own_define new value
    · exact own_define new value

/-- Properties with distinct keys, defined one after the other, are the object's own. -/
theorem own_foldl_define
    {properties : List Property}
    (distinct : (properties.map Prod.fst).Nodup) :
    (properties.foldl (fun object property => object.define property.1 property.2) empty).own =
      properties := by
  induction properties using List.reverseRecOn with
  | nil => rfl
  | append_singleton properties property inductionHypothesis =>
      rw [List.map_append, List.nodup_append] at distinct
      obtain ⟨earlier, -, apart⟩ := distinct
      have own := inductionHypothesis earlier
      rw [List.foldl_append, List.foldl_cons, List.foldl_nil, own_define ?_, own]
      unfold keys
      rw [own]
      intro present
      exact apart _ present _ (List.mem_singleton_self _) rfl

/-- Properties with distinct keys, assigned one after the other, are the object's own, except
one under the key of the inherited accessor. -/
theorem own_foldl_assign
    {properties : List Property}
    (distinct : (properties.map Prod.fst).Nodup) :
    (properties.foldl (fun object property => object.assign property.1 property.2) empty).own =
      properties.filter fun property => property.1 ≠ protoKey := by
  induction properties using List.reverseRecOn with
  | nil => rfl
  | append_singleton properties property inductionHypothesis =>
      rw [List.map_append, List.nodup_append] at distinct
      obtain ⟨earlier, -, apart⟩ := distinct
      have own := inductionHypothesis earlier
      rw [List.foldl_append, List.foldl_cons, List.foldl_nil, own_assign ?_, own,
        List.filter_append]
      · by_cases proto : property.1 = protoKey
        · simp [proto]
        · simp [proto]
      · unfold keys
        rw [own]
        intro present
        obtain ⟨other, kept, same⟩ := List.mem_map.mp present
        exact apart _ (List.mem_map_of_mem (List.mem_of_mem_filter kept)) _
          (List.mem_singleton_self _) same

/-- An own property has its value. -/
theorem get?_eq_some
    {object : PlainObject}
    {key value : JsString}
    (member : (key, value) ∈ object.own) :
    object.get? key = some value := by
  unfold get?
  cases found : object.own.find? fun property => property.1 = key with
  | none =>
      have none := List.find?_eq_none.mp found (key, value) member
      simp at none
  | some property =>
      have inside := List.mem_of_find?_eq_some found
      have sameKey : property.1 = key := by
        simpa using List.find?_some found
      have same := List.inj_on_of_nodup_map object.distinct inside member sameKey
      rw [same]
      rfl

section Enumeration

/-- The number of a key that is an array index: its numeral, below the largest length. -/
def arrayIndex (key : JsString) : Option Nat :=
  let value := Nat.ofDigitChars 10 (key.map charOf) 0
  if numeral value = key ∧ value < 2 ^ 32 - 1 then some value else none

/-- Whether a property's key is an array index. -/
def isIndexed (property : Property) : Bool :=
  (arrayIndex property.1).isSome

/-- The own properties as they are enumerated: array indices ascending, then the other keys in
the order of their creation. -/
def enumerated (object : PlainObject) : List Property :=
  (object.own.filter isIndexed).insertionSort
      (fun first second =>
        (arrayIndex first.1).getD 0 ≤ (arrayIndex second.1).getD 0) ++
    object.own.filter fun property => !isIndexed property

/-- Every own property is enumerated once. -/
theorem enumerated_perm
    (object : PlainObject) :
    object.enumerated.Perm object.own := by
  have sorted :=
    (List.perm_insertionSort
        (fun first second : Property =>
          (arrayIndex first.1).getD 0 ≤ (arrayIndex second.1).getD 0)
        (object.own.filter isIndexed)).append_right
      (object.own.filter fun property => !isIndexed property)
  exact sorted.trans (List.filter_append_perm isIndexed object.own)

example :
    (["b", "10", "2", "02", "__proto__"].foldl
        (fun object key => object.assign (unitsOf key) []) empty).enumerated.map Prod.fst =
      ["2", "10", "b", "02"].map unitsOf := by
  decide +kernel

end Enumeration

end PlainObject

end Objects

end SsnConsole.JavaScript
