import Mathlib.Algebra.Ring.Nat
import Signet.Kit.AssocMap
import Signet.Kit.Sorting
import Mathlib.Data.List.Lex
import Mathlib.Data.Rat.Defs
import Mathlib.Order.Fin.Basic

/-!
# Plain JavaScript values

The values a JSON text can stand for, as a program holds them: an object lists its own members
in the order of their insertion, a member may be `undefined`, and the two zeros differ.  What is
done with the parts of a value before the value itself is a fold.

* `JsValue.fold`, `JsValue.induct` — recursion and induction over a value.
* `JsMembers.own`, `JsMembers.assign` — the order in which members are listed, and assignment.
* `JsValue.text` — what a serializer sees; `JsValue.meaning` — what a value stands for.
* `text_eq_iff` — of values whose members are sorted, the text and the meaning say the same.
-/

namespace Signet
namespace Kit

/-! ## Data -/

/-- A JavaScript string: its UTF-16 code units. -/
abbrev JsString := List (Fin 65536)

instance neZero_codeUnits : NeZero 65536 := ⟨by decide⟩

def JsString.ofAscii (text : String) : JsString := text.toList.map fun c => Fin.ofNat 65536 c.toNat

inductive JsNumber where
  | negZero
  | finite (value : ℚ)
deriving DecidableEq

/-- A number without the sign of zero. -/
def JsNumber.value : JsNumber → ℚ
  | .negZero => 0
  | .finite value => value

/-- A value without parts. -/
inductive JsScalar (ν : Type) where
  | null
  | bool (value : Bool)
  | number (value : ν)
  | string (value : JsString)
deriving DecidableEq

def JsScalar.map {ν μ : Type} (f : ν → μ) : JsScalar ν → JsScalar μ
  | .null => .null
  | .bool value => .bool value
  | .number value => .number (f value)
  | .string value => .string value

/-- A value; a member without a value is `undefined`. -/
inductive JsValue where
  | scalar (value : JsScalar JsNumber)
  | array (items : List JsValue)
  | object (members : List (JsString × Option JsValue))

/-- The own members of an object, in the order of their insertion. -/
abbrev JsMembers (α : Type*) := List (JsString × Option α)

/-- What a serializer sees. -/
inductive JsText where
  | scalar (value : JsScalar ℚ)
  | array (items : List JsText)
  | object (members : List (JsString × JsText))

/-- What a value stands for: an object is what it has under each key. -/
inductive JsMeaning where
  | scalar (value : JsScalar ℚ)
  | array (items : List JsMeaning)
  | object (value : JsString → Option JsMeaning)

/-! ## Recursion -/

/-- What is made of a value from what has been made of its parts. -/
structure JsAlgebra (α : Type*) where
  scalar : JsScalar JsNumber → α
  array : List α → α
  object : JsMembers α → α

namespace JsValue

variable {α : Type*}

mutual

def fold (A : JsAlgebra α) : JsValue → α
  | .scalar value => A.scalar value
  | .array items => A.array (foldItems A items)
  | .object members => A.object (foldMembers A members)

def foldItems (A : JsAlgebra α) : List JsValue → List α
  | [] => []
  | item :: items => fold A item :: foldItems A items

def foldMembers (A : JsAlgebra α) : JsMembers JsValue → JsMembers α
  | [] => []
  | (key, none) :: members => (key, none) :: foldMembers A members
  | (key, some value) :: members => (key, some (fold A value)) :: foldMembers A members

end

variable {A : JsAlgebra α}

theorem foldItems_eq (items : List JsValue) : foldItems A items = items.map (fold A) := by
  induction items with
  | nil => rfl
  | cons item items ih => rw [foldItems, List.map_cons, ih]

theorem foldMembers_eq (members : JsMembers JsValue) :
    foldMembers A members = members.map fun member => (member.1, member.2.map (fold A)) := by
  induction members with
  | nil => rfl
  | cons member members ih =>
    obtain ⟨key, value⟩ := member
    cases value with
    | none => rw [foldMembers, List.map_cons, ih, Option.map_none]
    | some value => rw [foldMembers, List.map_cons, ih, Option.map_some]

theorem fold_array (items : List JsValue) :
    fold A (.array items) = A.array (items.map (fold A)) := by
  rw [fold, foldItems_eq]

theorem fold_object (members : JsMembers JsValue) :
    fold A (.object members) =
      A.object (members.map fun member => (member.1, member.2.map (fold A))) := by
  rw [fold, foldMembers_eq]

/-- **Induction over a value**, with what holds of its items, or of the values of its members. -/
theorem induct {P : JsValue → Prop} (scalar : ∀ value, P (.scalar value))
    (array : ∀ items, (∀ item ∈ items, P item) → P (.array items))
    (object : ∀ members : JsMembers JsValue,
      (∀ key value, (key, some value) ∈ members → P value) → P (.object members))
    (value : JsValue) : P value := by
  refine @JsValue.rec P (fun items => ∀ item ∈ items, P item)
    (fun members => ∀ key value, (key, some value) ∈ members → P value)
    (fun member => ∀ value, member.2 = some value → P value)
    (fun entry => ∀ value, entry = some value → P value) scalar array object
    ?_ ?_ ?_ ?_ ?_ ?_ ?_ value
  · intro item hMem
    cases hMem
  · intro first items hFirst hItems item hMem
    rcases List.mem_cons.mp hMem with rfl | hMem
    · exact hFirst
    · exact hItems item hMem
  · intro key value hMem
    cases hMem
  · intro first members hFirst hMembers key value hMem
    rcases List.mem_cons.mp hMem with rfl | hMem
    · exact hFirst value rfl
    · exact hMembers key value hMem
  · intro key entry hEntry
    exact hEntry
  · intro value hNone
    cases hNone
  · intro first hFirst value hSome
    cases hSome
    exact hFirst

end JsValue

/-! ## Objects -/

/-- Listed in order, and none twice. -/
def StrictlySorted {κ : Type*} [LinearOrder κ] (keys : List κ) : Prop :=
  keys.Pairwise fun k k' => k < k'

variable {κ : Type*}

theorem StrictlySorted.nodup [LinearOrder κ] {keys : List κ} (h : StrictlySorted keys) :
    keys.Nodup := List.Pairwise.imp (fun hLt => ne_of_lt hLt) h

/-- What is listed once is found by its key. -/
theorem lookup_eq_some_iff_mem {β : Type*} [BEq κ] [LawfulBEq κ] {l : List (κ × β)}
    (h : (l.map Prod.fst).Nodup) {key : κ} {value : β} :
    l.lookup key = some value ↔ (key, value) ∈ l := by
  induction l with
  | nil => simp
  | cons entry l ih =>
    obtain ⟨first, entry⟩ := entry
    obtain ⟨hFresh, hRest⟩ := List.nodup_cons.mp h
    rw [List.lookup_cons]
    cases hEq : key == first with
    | false =>
      have hNe : key ≠ first := fun hSame => by simp [hSame] at hEq
      simp [ih hRest, hNe]
    | true =>
      obtain rfl := eq_of_beq hEq
      have hNot : (key, value) ∉ l := fun hMem => hFresh (List.mem_map.mpr ⟨_, hMem, rfl⟩)
      simp [hNot, eq_comm]

theorem lookup_perm {β : Type*} [BEq κ] [LawfulBEq κ] {l l' : List (κ × β)} (hPerm : l.Perm l')
    (h : (l.map Prod.fst).Nodup) (key : κ) : l.lookup key = l'.lookup key := by
  apply Option.ext
  intro value
  have h' : (l'.map Prod.fst).Nodup := (hPerm.map Prod.fst).nodup_iff.mp h
  rw [lookup_eq_some_iff_mem h, lookup_eq_some_iff_mem h', hPerm.mem_iff]

/-- Sorted lists are told apart by what is found in them. -/
theorem eq_of_lookup {β : Type*} [BEq κ] [LawfulBEq κ] [LinearOrder κ] {l l' : List (κ × β)}
    (h : StrictlySorted (l.map Prod.fst)) (h' : StrictlySorted (l'.map Prod.fst))
    (hLookup : ∀ key, l.lookup key = l'.lookup key) : l = l' := by
  have hMem : ∀ entry, entry ∈ l ↔ entry ∈ l' := by
    rintro ⟨key, value⟩
    rw [← lookup_eq_some_iff_mem h.nodup, hLookup, lookup_eq_some_iff_mem h'.nodup]
  have hPerm : l.Perm l' :=
    (List.perm_ext_iff_of_nodup h.nodup.of_map h'.nodup.of_map).mpr hMem
  refine hPerm.eq_of_pairwise ?_ (List.pairwise_map.mp h) (List.pairwise_map.mp h')
  intro entry entry' _ _ hLt hGt
  exact absurd (hLt.trans hGt) (lt_irrefl _)

/-- The key that assignment does not take for a member. -/
def protoKey : JsString := .ofAscii "__proto__"

def arrayIndex (key : JsString) : Option Nat :=
  if key ≠ [] ∧ (key.head? = some 48 → key.length = 1) ∧ ∀ unit ∈ key, 48 ≤ unit ∧ unit ≤ 57 then
    let index := key.foldl (fun index unit => 10 * index + (unit.val - 48)) 0
    if index < 2 ^ 32 - 1 then some index else none
  else none

namespace JsMembers

variable {α β : Type*}

/-- The order in which own members are listed: first the indices of an array, ascending. -/
def own (members : List (JsString × β)) : List (JsString × β) :=
  sortByKey (fun member => (arrayIndex member.1).getD 0)
      (members.filter fun member => (arrayIndex member.1).isSome) ++
    members.filter fun member => !(arrayIndex member.1).isSome

/-- `Object.keys` -/
def keys (members : JsMembers α) : List JsString := (own members).map Prod.fst

/-- `members[key]`, of an own key -/
def get (members : JsMembers α) (key : JsString) : Option α := (members.lookup key).join

/-- `members[key] = value`, of a plain object: `__proto__` is set, and no member is made. -/
def assign (key : JsString) (value : Option α) (members : JsMembers α) : JsMembers α :=
  if key = protoKey then members else setEntry key value members

/-- The members that are not `undefined`. -/
def defined (members : JsMembers α) : List (JsString × α) :=
  members.filterMap fun member => member.2.map fun value => (member.1, value)

theorem own_perm (members : List (JsString × β)) : (own members).Perm members :=
  ((sortByKey_perm _ _).append_right _).trans (List.filter_append_perm _ members)

theorem keys_perm (members : JsMembers α) : members.keys.Perm (members.map Prod.fst) :=
  (own_perm members).map Prod.fst

variable {members : JsMembers α}

theorem mem_of_get {key : JsString} {value : α} (h : members.get key = some value) :
    (key, some value) ∈ members := by
  obtain ⟨before, after, hEq, -⟩ := List.lookup_eq_some_iff.mp (Option.join_eq_some_iff.mp h)
  rw [hEq]
  simp

theorem map_keys (members : JsMembers α) (f : α → β) :
    (members.map fun member => (member.1, member.2.map f)).map Prod.fst = members.map Prod.fst := by
  rw [List.map_map]
  rfl

/-- What is made of each value. -/
theorem get_map (members : JsMembers α) (f : α → β) (key : JsString) :
    get (members.map fun member => (member.1, member.2.map f)) key = (members.get key).map f := by
  unfold get
  induction members with
  | nil => rfl
  | cons member members ih =>
    obtain ⟨first, value⟩ := member
    rw [List.map_cons, List.lookup_cons, List.lookup_cons]
    cases hEq : key == first with
    | false => exact ih
    | true => rfl

theorem keys_defined_sublist (members : JsMembers α) :
    (members.defined.map Prod.fst).Sublist (members.map Prod.fst) := by
  induction members with
  | nil => exact List.Sublist.refl _
  | cons member members ih =>
    obtain ⟨key, value⟩ := member
    cases value with
    | none => exact ih.cons key
    | some value => exact ih.cons_cons key

theorem lookup_defined (h : (members.map Prod.fst).Nodup) (key : JsString) :
    members.defined.lookup key = members.get key := by
  have hDefined : (members.defined.map Prod.fst).Nodup := h.sublist (keys_defined_sublist members)
  apply Option.ext
  intro value
  unfold get
  rw [lookup_eq_some_iff_mem hDefined, Option.join_eq_some_iff, lookup_eq_some_iff_mem h]
  unfold defined
  constructor
  · intro hMem
    obtain ⟨⟨key', entry⟩, hListed, hEq⟩ := List.mem_filterMap.mp hMem
    obtain ⟨value', hEntry, hEq⟩ := Option.map_eq_some_iff.mp hEq
    cases hEq
    exact hEntry ▸ hListed
  · intro hMem
    exact List.mem_filterMap.mpr ⟨_, hMem, rfl⟩

/-- **What is listed of sorted members says what is found under each key.** -/
theorem own_defined_eq_iff {members' : JsMembers α} (h : StrictlySorted (members.map Prod.fst))
    (h' : StrictlySorted (members'.map Prod.fst)) :
    own members.defined = own members'.defined ↔ ∀ key, members.get key = members'.get key := by
  have hSorted : StrictlySorted (members.defined.map Prod.fst) :=
    List.Pairwise.sublist (keys_defined_sublist members) h
  have hSorted' : StrictlySorted (members'.defined.map Prod.fst) :=
    List.Pairwise.sublist (keys_defined_sublist members') h'
  constructor
  · intro hOwn key
    have hPerm : members.defined.Perm members'.defined := by
      have hListed := own_perm members'.defined
      rw [← hOwn] at hListed
      exact (own_perm members.defined).symm.trans hListed
    rw [← lookup_defined h.nodup, ← lookup_defined h'.nodup]
    exact lookup_perm hPerm hSorted.nodup key
  · intro hGet
    have hEq : members.defined = members'.defined := by
      refine eq_of_lookup hSorted hSorted' ?_
      intro key
      rw [lookup_defined h.nodup, lookup_defined h'.nodup, hGet key]
    rw [hEq]

end JsMembers

/-! ## Texts and meanings -/

namespace JsValue

/-- What a serializer sees of a value. -/
def text : JsValue → JsText :=
  fold ⟨fun value => .scalar (value.map JsNumber.value), .array,
    fun members => .object (JsMembers.own members.defined)⟩

/-- What a value stands for. -/
def meaning : JsValue → JsMeaning :=
  fold ⟨fun value => .scalar (value.map JsNumber.value), .array, fun members => .object members.get⟩

def KeysMeet (P : List JsString → Prop) : JsValue → Prop :=
  fold ⟨fun _ => True, fun items => ∀ item ∈ items, item,
    fun members => P (members.map Prod.fst) ∧ ∀ key value, (key, some value) ∈ members → value⟩

/-- No object has a key twice. -/
def WellFormed : JsValue → Prop := KeysMeet List.Nodup

/-- The members of every object are sorted. -/
def Sorted : JsValue → Prop := KeysMeet StrictlySorted

/-- Equal up to the order of members, members that are `undefined`, and the sign of zero. -/
def Same (v w : JsValue) : Prop := v.meaning = w.meaning

variable {P : List JsString → Prop}

theorem keysMeet_array (items : List JsValue) :
    KeysMeet P (.array items) ↔ ∀ item ∈ items, KeysMeet P item := by
  unfold KeysMeet
  rw [fold_array]
  exact List.forall_mem_map

theorem keysMeet_object (members : JsMembers JsValue) :
    KeysMeet P (.object members) ↔ P (members.map Prod.fst) ∧
      ∀ key value, (key, some value) ∈ members → KeysMeet P value := by
  unfold KeysMeet
  rw [fold_object]
  refine and_congr (by rw [JsMembers.map_keys]) ?_
  constructor
  · intro h key value hMem
    exact h key _ (List.mem_map.mpr ⟨_, hMem, rfl⟩)
  · intro h key holds hMem
    obtain ⟨⟨key', entry⟩, hListed, hEq⟩ := List.mem_map.mp hMem
    cases entry with
    | none => cases hEq
    | some value =>
      cases hEq
      exact h key' value hListed

theorem text_array (items : List JsValue) : text (.array items) = .array (items.map text) :=
  fold_array items

theorem text_object (members : JsMembers JsValue) :
    text (.object members) = .object (JsMembers.own
      (JsMembers.defined (members.map fun member => (member.1, member.2.map text)))) :=
  fold_object members

theorem meaning_array (items : List JsValue) : meaning (.array items) = .array (items.map meaning) :=
  fold_array items

theorem meaning_object (members : JsMembers JsValue) :
    meaning (.object members) = .object fun key => (members.get key).map meaning := by
  unfold meaning
  rw [fold_object]
  exact congrArg JsMeaning.object (funext (JsMembers.get_map members _))

/-- What tells the items of two lists apart tells the lists apart. -/
theorem map_eq_map {α β γ : Type*} {f : α → β} {g : α → γ} {l l' : List α}
    (h : ∀ x ∈ l, ∀ y ∈ l', f x = f y → g x = g y) (hEq : l.map f = l'.map f) :
    l.map g = l'.map g := by
  induction l generalizing l' with
  | nil =>
    cases l' with
    | nil => rfl
    | cons y l' => cases hEq
  | cons x l ih =>
    cases l' with
    | nil => cases hEq
    | cons y l' =>
      obtain ⟨hFirst, hRest⟩ := List.cons.inj hEq
      rw [List.map_cons, List.map_cons, h x (by simp) y (by simp) hFirst,
        ih (fun x hx y hy => h x (by simp [hx]) y (by simp [hy])) hRest]

theorem map_eq_map_option {α β γ : Type*} {f : α → β} {g : α → γ} {x y : Option α}
    (h : ∀ a, x = some a → ∀ b, y = some b → f a = f b → g a = g b) (hEq : x.map f = y.map f) :
    x.map g = y.map g := by
  cases x with
  | none =>
    cases y with
    | none => rfl
    | some b => cases hEq
  | some a =>
    cases y with
    | none => cases hEq
    | some b => exact congrArg some (h a rfl b rfl (Option.some.inj hEq))

/-- **Of sorted values the text and the meaning say the same.** -/
theorem text_eq_iff {v w : JsValue} (hv : v.Sorted) (hw : w.Sorted) :
    v.text = w.text ↔ v.meaning = w.meaning := by
  induction v using induct generalizing w with
  | scalar value =>
    cases w with
    | scalar value' =>
      show JsText.scalar _ = JsText.scalar _ ↔ JsMeaning.scalar _ = JsMeaning.scalar _
      rw [JsText.scalar.injEq, JsMeaning.scalar.injEq]
    | array items => simp [text, meaning, fold]
    | object members => simp [text, meaning, fold]
  | array items ih =>
    cases w with
    | scalar value => simp [text, meaning, fold]
    | array items' =>
      rw [text_array, text_array, meaning_array, meaning_array, JsText.array.injEq,
        JsMeaning.array.injEq]
      have hItem : ∀ item ∈ items, ∀ item' ∈ items',
          (item.text = item'.text ↔ item.meaning = item'.meaning) := fun item hMem item' hMem' =>
        ih item hMem ((keysMeet_array items).mp hv item hMem)
          ((keysMeet_array items').mp hw item' hMem')
      exact ⟨map_eq_map fun item hMem item' hMem' => (hItem item hMem item' hMem').mp,
        map_eq_map fun item hMem item' hMem' => (hItem item hMem item' hMem').mpr⟩
    | object members => simp [text, meaning, fold]
  | object members ih =>
    cases w with
    | scalar value => simp [text, meaning, fold]
    | array items => simp [text, meaning, fold]
    | object members' =>
      obtain ⟨hKeys, hValues⟩ := (keysMeet_object members).mp hv
      obtain ⟨hKeys', hValues'⟩ := (keysMeet_object members').mp hw
      rw [text_object, text_object, meaning_object, meaning_object, JsText.object.injEq,
        JsMeaning.object.injEq, funext_iff, JsMembers.own_defined_eq_iff]
      · refine forall_congr' fun key => ?_
        rw [JsMembers.get_map, JsMembers.get_map]
        have hValue : ∀ value, members.get key = some value → ∀ value',
            JsMembers.get members' key = some value' →
            (value.text = value'.text ↔ value.meaning = value'.meaning) := by
          intro value hGet value' hGet'
          have hMem := JsMembers.mem_of_get hGet
          exact ih key value hMem (hValues key value hMem)
            (hValues' key value' (JsMembers.mem_of_get hGet'))
        exact ⟨map_eq_map_option fun value hGet value' hGet' => (hValue value hGet value' hGet').mp,
          map_eq_map_option fun value hGet value' hGet' => (hValue value hGet value' hGet').mpr⟩
      · rw [JsMembers.map_keys]
        exact hKeys
      · rw [JsMembers.map_keys]
        exact hKeys'

end JsValue

end Kit
end Signet
