import Signet.Kit.JsonText
import Signet.Kit.JsValue
import Signet.Kit.Utf8

/-!
# Canonical bytes of any value

What is signed is the text of a copy of the value whose keys are sorted.  The copy is made by
assignment to a plain object, which takes every key for a member but one.  The packages that
sign and verify each have the same function of their own.

* `sortKeys`, `canonicalize` — the copy, and its bytes.
* `meaning_sortKeys` — the copy stands for the value without what is under `__proto__`.
* `canonicalize_sound_iff` — two values have the same bytes exactly when they are the same,
  where they do not differ in that alone.
-/

namespace Signet
namespace Canonical

open Kit

/-- The copy of an object: its members are assigned in the order of their keys. -/
def copySorted (members : JsMembers JsValue) : JsMembers JsValue :=
  (sortByKey id members.keys).foldl (fun sorted key => sorted.assign key (members.get key)) []

/-- Recursively sorts object keys for deterministic serialization. -/
def sortKeys : JsValue → JsValue :=
  JsValue.fold ⟨.scalar, .array, fun members => .object (copySorted members)⟩

/-- The bytes of what is written of the sorted copy; `serialize` writes a text and encodes it. -/
def canonicalize (serialize : JsText → List UInt8) (value : JsValue) : List UInt8 :=
  serialize (sortKeys value).text

/-- `canonicalize` of the seals package -/
def sealsCanonicalize (serialize : JsText → List UInt8) : JsValue → List UInt8 :=
  canonicalize serialize

/-- `canonicalize` of the verifier -/
def verifierCanonicalize (serialize : JsText → List UInt8) : JsValue → List UInt8 :=
  canonicalize serialize

/-- `canonicalize` of the seal stamper of the keys package -/
def sealStamperCanonicalize (serialize : JsText → List UInt8) : JsValue → List UInt8 :=
  canonicalize serialize

/-- What `createSealStamperCompat` signs: the bytes of `sortKeysCompat`. -/
def compatCanonicalize (serialize : JsText → List UInt8) : JsValue → List UInt8 :=
  canonicalize serialize

/-- Those that sign, and those that verify. -/
def canonicalizers (serialize : JsText → List UInt8) : List (JsValue → List UInt8) :=
  [sealsCanonicalize serialize, verifierCanonicalize serialize, sealStamperCanonicalize serialize,
    compatCanonicalize serialize]

/-- A value no object of which has a key twice. -/
structure ParsedValue where
  value : JsValue
  wellFormed : value.WellFormed

/-- The value without what is under `__proto__` anywhere in it. -/
def withoutProto : JsValue → JsValue :=
  JsValue.fold ⟨.scalar, .array,
    fun members => .object (members.filter fun member => member.1 ≠ protoKey)⟩

/-! ## The copy of an object -/

theorem sortKeys_array (items : List JsValue) :
    sortKeys (.array items) = .array (items.map sortKeys) := JsValue.fold_array items

theorem sortKeys_object (members : JsMembers JsValue) : sortKeys (.object members) =
    .object (copySorted (members.map fun member => (member.1, member.2.map sortKeys))) :=
  JsValue.fold_object members

variable {α : Type*}

theorem setEntry_of_not_mem {key : JsString} {members : JsMembers α}
    (h : key ∉ members.map Prod.fst) (value : Option α) :
    setEntry key value members = members ++ [(key, value)] := by
  induction members with
  | nil => rfl
  | cons member members ih =>
    rw [List.map_cons, List.mem_cons, not_or] at h
    rw [setEntry, if_neg (Ne.symm h.1), ih h.2, List.cons_append]

/-- Distinct keys are put one after the other, and `__proto__` is not put. -/
theorem foldl_assign (read : JsString → Option α) {keys : List JsString} {sorted : JsMembers α}
    (hKeys : keys.Nodup) (hFresh : ∀ key ∈ keys, key ∉ sorted.map Prod.fst) :
    keys.foldl (fun sorted key => sorted.assign key (read key)) sorted =
      sorted ++ (keys.filter fun key => key ≠ protoKey).map fun key => (key, read key) := by
  induction keys generalizing sorted with
  | nil => simp
  | cons key keys ih =>
    obtain ⟨hNotMem, hRest⟩ := List.nodup_cons.mp hKeys
    rw [List.foldl_cons]
    by_cases hProto : key = protoKey
    · rw [JsMembers.assign, if_pos hProto, List.filter_cons_of_neg (by simp [hProto])]
      exact ih hRest fun other hMem => hFresh other (List.mem_cons_of_mem key hMem)
    · rw [JsMembers.assign, if_neg hProto, List.filter_cons_of_pos (by simp [hProto]),
        setEntry_of_not_mem (hFresh key List.mem_cons_self), ih hRest, List.map_cons,
        List.append_assoc, List.singleton_append]
      intro other hMem hPut
      rw [List.map_append, List.mem_append] at hPut
      rcases hPut with hPut | hPut
      · exact hFresh other (List.mem_cons_of_mem key hMem) hPut
      · cases List.mem_singleton.mp hPut
        exact hNotMem hMem

variable {members : JsMembers JsValue}

theorem copySorted_eq (h : (members.map Prod.fst).Nodup) :
    copySorted members = ((sortByKey id members.keys).filter fun key => key ≠ protoKey).map
      fun key => (key, members.get key) := by
  have hKeys : (sortByKey id members.keys).Nodup :=
    (sortByKey_perm id _).nodup_iff.mpr ((JsMembers.keys_perm members).nodup_iff.mpr h)
  rw [copySorted, foldl_assign members.get hKeys (by simp), List.nil_append]

/-- **The copy has its members sorted.** -/
theorem sorted_copySorted (h : (members.map Prod.fst).Nodup) :
    StrictlySorted ((copySorted members).map Prod.fst) := by
  have hKeys : (sortByKey id members.keys).Nodup :=
    (sortByKey_perm id _).nodup_iff.mpr ((JsMembers.keys_perm members).nodup_iff.mpr h)
  have hSorted : StrictlySorted (sortByKey id members.keys) :=
    ((pairwise_sortByKey id members.keys).and hKeys).imp fun hBoth =>
      lt_of_le_of_ne hBoth.1 hBoth.2
  rw [copySorted_eq h, List.map_map]
  have hSame : (Prod.fst ∘ fun key => (key, members.get key)) = id := rfl
  rw [hSame, List.map_id]
  exact List.Pairwise.sublist List.filter_sublist hSorted

theorem get_map_keys (read : JsString → Option α) (keys : List JsString) (key : JsString) :
    JsMembers.get (keys.map fun key => (key, read key)) key = if key ∈ keys then read key else none := by
  unfold JsMembers.get
  induction keys with
  | nil => rfl
  | cons first keys ih =>
    rw [List.map_cons, List.lookup_cons]
    by_cases hEq : key = first
    · subst hEq
      simp
    · have hNe : (key == first) = false := by simpa using hEq
      rw [hNe, ih]
      simp [hEq]

/-- **What the copy has under each key.** -/
theorem get_copySorted (h : (members.map Prod.fst).Nodup) (key : JsString) :
    (copySorted members).get key = if key = protoKey then none else members.get key := by
  rw [copySorted_eq h, get_map_keys]
  by_cases hProto : key = protoKey
  · rw [if_pos hProto, if_neg (by simp [hProto])]
  · rw [if_neg hProto]
    split
    · rfl
    · next hAbsent =>
      -- What is not among the keys reads nothing.
      have hNotMem : key ∉ members.map Prod.fst := by
        intro hMem
        refine hAbsent (List.mem_filter.mpr ⟨?_, by simpa using hProto⟩)
        exact (sortByKey_perm id _).mem_iff.mpr ((JsMembers.keys_perm members).mem_iff.mpr hMem)
      cases hGet : members.get key with
      | none => rfl
      | some value =>
        exact absurd (List.mem_map.mpr ⟨_, JsMembers.mem_of_get hGet, rfl⟩) hNotMem

theorem get_filter_ne (members : JsMembers JsValue) (key : JsString) :
    JsMembers.get (members.filter fun member => member.1 ≠ protoKey) key =
      if key = protoKey then none else members.get key := by
  unfold JsMembers.get
  induction members with
  | nil => simp
  | cons member members ih =>
    obtain ⟨first, value⟩ := member
    by_cases hFirst : first = protoKey
    · rw [List.filter_cons_of_neg (by simp [hFirst]), ih, List.lookup_cons]
      by_cases hKey : key = protoKey
      · rw [if_pos hKey, if_pos hKey]
      · have hNe : (key == first) = false := by simp [hFirst, hKey]
        rw [if_neg hKey, if_neg hKey, hNe]
    · rw [List.filter_cons_of_pos (by simp [hFirst]), List.lookup_cons, List.lookup_cons]
      cases hEq : key == first with
      | false => exact ih
      | true =>
        have hKey : key ≠ protoKey := by
          rw [eq_of_beq hEq]
          exact hFirst
        rw [if_neg hKey]

/-! ## The copy of a value -/

theorem meaning_withoutProto_object (members : JsMembers JsValue) :
    (withoutProto (.object members)).meaning = .object fun key =>
      if key = protoKey then none
      else (members.get key).map fun value => (withoutProto value).meaning := by
  unfold withoutProto
  rw [JsValue.fold_object, JsValue.meaning_object]
  refine congrArg JsMeaning.object (funext fun key => ?_)
  rw [get_filter_ne, JsMembers.get_map]
  split
  · rfl
  · rw [Option.map_map]
    rfl

/-- **The copy stands for the value, but for what is under `__proto__`.** -/
theorem meaning_sortKeys {value : JsValue} (h : value.WellFormed) :
    (sortKeys value).meaning = (withoutProto value).meaning := by
  induction value using JsValue.induct with
  | scalar value => rfl
  | array items ih =>
    have hItems := (JsValue.keysMeet_array items).mp h
    rw [sortKeys_array, withoutProto, JsValue.fold_array, JsValue.meaning_array,
      JsValue.meaning_array, List.map_map, List.map_map]
    refine congrArg JsMeaning.array (List.map_congr_left ?_)
    intro item hMem
    exact ih item hMem (hItems item hMem)
  | object members ih =>
    obtain ⟨hKeys, hValues⟩ := (JsValue.keysMeet_object members).mp h
    rw [meaning_withoutProto_object, sortKeys_object, JsValue.meaning_object]
    refine congrArg JsMeaning.object (funext fun key => ?_)
    rw [get_copySorted (by rw [JsMembers.map_keys]; exact hKeys), JsMembers.get_map]
    split
    · rfl
    · rw [Option.map_map]
      cases hGet : members.get key with
      | none => rfl
      | some value =>
        have hMem := JsMembers.mem_of_get hGet
        exact congrArg some (ih key value hMem (hValues key value hMem))

theorem sorted_sortKeys {value : JsValue} (h : value.WellFormed) : (sortKeys value).Sorted := by
  induction value using JsValue.induct with
  | scalar value => exact trivial
  | array items ih =>
    rw [sortKeys_array]
    refine (JsValue.keysMeet_array _).mpr ?_
    intro sorted hSorted
    obtain ⟨item, hMem, rfl⟩ := List.mem_map.mp hSorted
    exact ih item hMem ((JsValue.keysMeet_array items).mp h item hMem)
  | object members ih =>
    obtain ⟨hKeys, hValues⟩ := (JsValue.keysMeet_object members).mp h
    rw [← JsMembers.map_keys members sortKeys] at hKeys
    rw [sortKeys_object]
    have hSorted := sorted_copySorted hKeys
    refine (JsValue.keysMeet_object _).mpr ⟨hSorted, ?_⟩
    intro key sorted hMem
    have hGet : JsMembers.get (copySorted _) key = some sorted :=
      Option.join_eq_some_iff.mpr ((lookup_eq_some_iff_mem hSorted.nodup).mpr hMem)
    rw [get_copySorted hKeys, JsMembers.get_map] at hGet
    split at hGet
    · cases hGet
    · obtain ⟨value, hValue, rfl⟩ := Option.map_eq_some_iff.mp hGet
      have hOwn := JsMembers.mem_of_get hValue
      exact ih key value hOwn (hValues key value hOwn)

/-- Values that are the same are the same without what is under `__proto__`. -/
theorem same_withoutProto {v w : JsValue} (h : v.Same w) : (withoutProto v).Same (withoutProto w) := by
  unfold JsValue.Same at h ⊢
  induction v using JsValue.induct generalizing w with
  | scalar value =>
    cases w with
    | scalar value' => exact h
    | array items => simp [JsValue.meaning, JsValue.fold] at h
    | object members => simp [JsValue.meaning, JsValue.fold] at h
  | array items ih =>
    cases w with
    | scalar value => simp [JsValue.meaning, JsValue.fold] at h
    | array items' =>
      rw [JsValue.meaning_array, JsValue.meaning_array, JsMeaning.array.injEq] at h
      rw [withoutProto, JsValue.fold_array, JsValue.fold_array, JsValue.meaning_array,
        JsValue.meaning_array, List.map_map, List.map_map]
      refine congrArg JsMeaning.array (JsValue.map_eq_map ?_ h)
      intro item hMem item' hMem' hEq
      exact ih item hMem hEq
    | object members => simp [JsValue.meaning, JsValue.fold] at h
  | object members ih =>
    cases w with
    | scalar value => simp [JsValue.meaning, JsValue.fold] at h
    | array items => simp [JsValue.meaning, JsValue.fold] at h
    | object members' =>
      rw [JsValue.meaning_object, JsValue.meaning_object, JsMeaning.object.injEq] at h
      rw [meaning_withoutProto_object, meaning_withoutProto_object]
      refine congrArg JsMeaning.object (funext fun key => ?_)
      split
      · rfl
      · refine JsValue.map_eq_map_option ?_ (congrFun h key)
        intro value hGet value' hGet' hEq
        exact ih key value (JsMembers.mem_of_get hGet) hEq

/-! ## The bytes -/

variable {serialize : JsText → List UInt8}

/-- **What two values with the same bytes have in common.** -/
theorem canonicalize_eq_iff (hInjective : Function.Injective serialize) (v w : ParsedValue) :
    canonicalize serialize v.value = canonicalize serialize w.value ↔
      (withoutProto v.value).Same (withoutProto w.value) := by
  unfold canonicalize JsValue.Same
  rw [hInjective.eq_iff,
    JsValue.text_eq_iff (sorted_sortKeys v.wellFormed) (sorted_sortKeys w.wellFormed),
    meaning_sortKeys v.wellFormed, meaning_sortKeys w.wellFormed]

theorem canonicalizers_eq {function : JsValue → List UInt8} (h : function ∈ canonicalizers serialize) :
    function = canonicalize serialize := by
  simp only [canonicalizers, List.mem_cons, List.not_mem_nil, or_false] at h
  rcases h with rfl | rfl | rfl | rfl <;> rfl

/-- **What is signed.**  Whoever signs and whoever verifies, two values have the same bytes
exactly when they are the same, where they do not differ only under `__proto__`. -/
theorem canonicalize_sound_iff (hInjective : Function.Injective serialize) (v w : ParsedValue) :
    ∀ signer ∈ canonicalizers serialize, ∀ verifier ∈ canonicalizers serialize,
      ((signer v.value = verifier w.value ↔ v.value.Same w.value) ↔
        ((withoutProto v.value).Same (withoutProto w.value) → v.value.Same w.value)) := by
  intro signer hSigner verifier hVerifier
  rw [canonicalizers_eq hSigner, canonicalizers_eq hVerifier, canonicalize_eq_iff hInjective]
  exact ⟨Iff.mp, fun h => ⟨h, same_withoutProto⟩⟩

/-! ## A serializer -/

/-- The character of a code unit: a surrogate, which is none, gets one of its own. -/
def unitChar (unit : Fin 65536) : Char :=
  if unit.val < 0xD800 ∨ 0xE000 ≤ unit.val then Char.ofNat unit.val
  else Char.ofNat (0x10000 + unit.val)

def charUnit (c : Char) : Fin 65536 := Fin.ofNat 65536 c.toNat

theorem toNat_ofNat_of_valid {n : Nat} (h : n.isValidChar) : (Char.ofNat n).toNat = n := by
  unfold Char.ofNat
  rw [dif_pos h]
  rfl

/-- A character of its own has the number of its unit, or the next plane's. -/
theorem toNat_unitChar (unit : Fin 65536) :
    (unitChar unit).toNat = unit.val ∨ (unitChar unit).toNat = 0x10000 + unit.val := by
  have hLt := unit.isLt
  unfold unitChar
  split
  · left
    exact toNat_ofNat_of_valid (by unfold Nat.isValidChar; omega)
  · right
    exact toNat_ofNat_of_valid (by unfold Nat.isValidChar; omega)

theorem charUnit_unitChar (unit : Fin 65536) : charUnit (unitChar unit) = unit := by
  have hLt := unit.isLt
  have hChar := toNat_unitChar unit
  have hUnit : (unitChar unit).toNat % 65536 = unit.val := by omega
  exact Fin.ext hUnit

def stringText (units : JsString) : String := String.ofList (units.map unitChar)

def textString (text : String) : JsString := text.toList.map charUnit

theorem textString_stringText (units : JsString) : textString (stringText units) = units := by
  unfold textString stringText
  rw [String.toList_ofList, List.map_map]
  exact (List.map_congr_left fun unit _ => charUnit_unitChar unit).trans (List.map_id units)

def fractionKey : String := String.ofList [Char.ofNat 0x10FFFF]

theorem stringText_ne_fractionKey (units : JsString) : stringText units ≠ fractionKey := by
  intro h
  have hUnits : units.map unitChar = [Char.ofNat 0x10FFFF] := String.ofList_injective h
  cases units with
  | nil => cases hUnits
  | cons unit units =>
    have hLt := unit.isLt
    have hChar := toNat_unitChar unit
    have hLast : (unitChar unit).toNat = 0x10FFFF :=
      congrArg Char.toNat (List.cons.inj hUnits).1
    omega

/-- A scalar, with a fraction written as a pair. -/
def scalarJson : JsScalar ℚ → Json
  | .null => .null
  | .bool value => .bool value
  | .number value =>
    if value.den = 1 then .number value.num
    else .object [(fractionKey, .number value.num), (fractionKey, .number value.den)]
  | .string value => .string (stringText value)

mutual

def json : JsText → Json
  | .scalar value => scalarJson value
  | .array items => .array (jsonItems items)
  | .object members => .object (jsonMembers members)

def jsonItems : List JsText → List Json
  | [] => []
  | item :: items => json item :: jsonItems items

def jsonMembers : List (JsString × JsText) → List (String × Json)
  | [] => []
  | (key, value) :: members => (stringText key, json value) :: jsonMembers members

end

def pairFraction : List (String × Json) → Option ℚ
  | [(key, .number num), (_, .number den)] =>
    if key = fractionKey then some (mkRat num den.toNat) else none
  | _ => none

mutual

def readJson : Json → JsText
  | .null => .scalar .null
  | .bool value => .scalar (.bool value)
  | .number value => .scalar (.number value)
  | .string value => .scalar (.string (textString value))
  | .array items => .array (readItems items)
  | .object members =>
    match pairFraction members with
    | some value => .scalar (.number value)
    | none => .object (readMembers members)

def readItems : List Json → List JsText
  | [] => []
  | item :: items => readJson item :: readItems items

def readMembers : List (String × Json) → List (JsString × JsText)
  | [] => []
  | (key, value) :: members => (textString key, readJson value) :: readMembers members

end

theorem readJson_scalarJson (value : JsScalar ℚ) : readJson (scalarJson value) = .scalar value := by
  cases value with
  | null => rfl
  | bool value => rfl
  | number value =>
    rw [scalarJson]
    split
    · next hDen =>
      have hInt : ((value.num : ℤ) : ℚ) = value := (Rat.den_eq_one_iff value).mp hDen
      rw [readJson, hInt]
    · have hPair : mkRat value.num value.den = value := Rat.mkRat_self value
      simp [readJson, pairFraction, hPair]
  | string value => rw [scalarJson, readJson, textString_stringText]

theorem pairFraction_jsonMembers (members : List (JsString × JsText)) :
    pairFraction (jsonMembers members) = none := by
  cases members with
  | nil => rfl
  | cons member members =>
    obtain ⟨key, value⟩ := member
    rw [jsonMembers]
    unfold pairFraction
    split
    · next hEq =>
      obtain ⟨hKey, -⟩ := List.cons.inj hEq
      obtain ⟨hText, -⟩ := Prod.mk.inj hKey
      rw [← hText, if_neg (stringText_ne_fractionKey key)]
    · rfl

mutual

theorem readJson_json : ∀ text : JsText, readJson (json text) = text
  | .scalar value => readJson_scalarJson value
  | .array items => by rw [json, readJson, readItems_jsonItems items]
  | .object members => by
      rw [json, readJson, pairFraction_jsonMembers, readMembers_jsonMembers members]

theorem readItems_jsonItems : ∀ items : List JsText, readItems (jsonItems items) = items
  | [] => rfl
  | item :: items => by rw [jsonItems, readItems, readJson_json item, readItems_jsonItems items]

theorem readMembers_jsonMembers :
    ∀ members : List (JsString × JsText), readMembers (jsonMembers members) = members
  | [] => rfl
  | (key, value) :: members => by
      rw [jsonMembers, readMembers, textString_stringText, readJson_json value,
        readMembers_jsonMembers members]

end

def compactBytes (text : JsText) : List UInt8 := Utf8.encode (json text).stringify

theorem compactBytes_injective : Function.Injective compactBytes := by
  intro text text' h
  have hText : (json text).stringify = (json text').stringify := by
    rw [← Utf8.decode_encode (json text).stringify, ← Utf8.decode_encode (json text').stringify]
    exact congrArg Utf8.decode h
  rw [← readJson_json text, ← readJson_json text', Json.stringify_injective hText]

/-! ## Fixed values -/

def numberMember (value : ℚ) : Option JsValue := some (.scalar (.number (.finite value)))

/-- `{"b": 1, "a": -0}` -/
def unsortedObject : ParsedValue where
  value := .object [(.ofAscii "b", numberMember 1), (.ofAscii "a", some (.scalar (.number .negZero)))]
  wellFormed := by
    refine (JsValue.keysMeet_object _).mpr ⟨by decide, ?_⟩
    intro key value hMem
    simp only [List.mem_cons, Prod.mk.injEq, List.not_mem_nil, or_false] at hMem
    rcases hMem with ⟨-, hValue⟩ | ⟨-, hValue⟩ <;> cases hValue <;> exact trivial

/-- `{"a": 0, "b": 1, "c": undefined}` -/
def sortedObject : ParsedValue where
  value := .object [(.ofAscii "a", numberMember 0), (.ofAscii "b", numberMember 1), (.ofAscii "c", none)]
  wellFormed := by
    refine (JsValue.keysMeet_object _).mpr ⟨by decide, ?_⟩
    intro key value hMem
    simp only [List.mem_cons, Prod.mk.injEq, List.not_mem_nil, or_false] at hMem
    rcases hMem with ⟨-, hValue⟩ | ⟨-, hValue⟩ | ⟨-, hValue⟩ <;> cases hValue <;> exact trivial

/-- A seal that is signed and then read with its keys in another order. -/
theorem reordered_sound :
    sealsCanonicalize compactBytes unsortedObject.value =
      verifierCanonicalize compactBytes sortedObject.value ↔
        unsortedObject.value.Same sortedObject.value := by
  refine (canonicalize_sound_iff compactBytes_injective unsortedObject sortedObject
    _ (by simp [canonicalizers]) _ (by simp [canonicalizers])).mpr ?_
  intro h
  exact h

/-- `{}` -/
def emptyObject : ParsedValue where
  value := .object []
  wellFormed := (JsValue.keysMeet_object _).mpr ⟨List.nodup_nil, fun _ _ hMem => by cases hMem⟩

/-- `{"__proto__": 1}`, as `JSON.parse` makes it -/
def protoObject : ParsedValue where
  value := .object [(protoKey, numberMember 1)]
  wellFormed := by
    refine (JsValue.keysMeet_object _).mpr ⟨by simp, ?_⟩
    intro key value hMem
    cases List.mem_singleton.mp hMem
    exact trivial

/-- Two different values are signed with the same bytes. -/
theorem proto_collides :
    ¬∀ v w : ParsedValue, sealsCanonicalize compactBytes v.value =
      verifierCanonicalize compactBytes w.value ↔ v.value.Same w.value := by
  intro hSound
  have hBytes : sealsCanonicalize compactBytes protoObject.value =
      verifierCanonicalize compactBytes emptyObject.value := by
    have hLeft : withoutProto protoObject.value = emptyObject.value := by
      rw [protoObject, withoutProto, JsValue.fold_object]
      rfl
    refine (canonicalize_eq_iff compactBytes_injective protoObject emptyObject).mpr ?_
    rw [hLeft]
    rfl
  have hSame := (hSound protoObject emptyObject).mp hBytes
  have hMeaning : (fun key => (JsMembers.get [(protoKey, numberMember 1)] key).map JsValue.meaning) =
      fun _ => none := by
    unfold JsValue.Same protoObject emptyObject at hSame
    rw [JsValue.meaning_object, JsValue.meaning_object] at hSame
    exact JsMeaning.object.inj hSame
  have hProto := congrFun hMeaning protoKey
  simp [JsMembers.get, numberMember] at hProto

end Canonical
end Signet
