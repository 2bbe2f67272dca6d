import Mathlib.Data.Int.Notation
import Mathlib.Data.List.Basic
import Mathlib.Algebra.Group.Int.Defs

/-!
# Documents with members in order

A document is a tree whose objects are lists of members. A member is added at the end, also when
there is one with the same key, and the first is found. The case of the letters of a key does not
matter.

* `Json` — documents; `getObjectItem`, `addItemToObject`, `insertItemInArray` the operations.
* `saturate`, `asValueint` — a number is read as an integer of 32 bits.
* `updateItem` — the first member with a key is changed in place.
* `withItem` — a member is looked up, made if it is missing or unfit, and changed.
* `member_append_singleton`, `member_updateFirst` — what is found after the operations.
-/

namespace AvSession.Lib

/-- A document. -/
inductive Json
  | null
  | bool (b : Bool)
  | number (v : ℤ)
  | string (s : String)
  | array (items : List Json)
  | object (members : List (String × Json))

namespace Json

/-! ## Operations -/

section operations

/-- The value of a boolean. -/
def asBool : Json → Option Bool
  | bool b => some b
  | _ => none

/-- A number as a signed integer of 32 bits: it stops at the ends of the range. -/
def saturate (v : ℤ) : ℤ := max (-2 ^ 31) (min v (2 ^ 31 - 1))

/-- The integer value of a number. -/
def asValueint : Json → Option ℤ
  | number v => some (saturate v)
  | _ => none

/-- The value of a string. -/
def asString : Json → Option String
  | string s => some s
  | _ => none

/-- The items of an array. -/
def asArray : Json → Option (List Json)
  | array items => some items
  | _ => none

/-- Whether it is `null`. -/
def isNull : Json → Bool
  | null => true
  | _ => false

/-- Whether it is an array. -/
def isArray : Json → Bool
  | array _ => true
  | _ => false

/-- The letters of a key in lower case. -/
def lowerCase (key : String) : List Char := key.toList.map Char.toLower

/-- Keys are told apart by their letters only, not by the case of these. -/
def SameKey (k key : String) : Prop := lowerCase k = lowerCase key

instance (k key : String) : Decidable (SameKey k key) := inferInstanceAs (Decidable (_ = _))

/-- The value of the first member with a key. -/
def member : List (String × Json) → String → Option Json
  | [], _ => none
  | (k, v) :: members, key => if SameKey k key then some v else member members key

/-- The first member with a key. -/
def getObjectItem : Json → String → Option Json
  | object members, key => member members key
  | _, _ => none

/-- A member more. What cannot have members stays, and an array takes the value. -/
def addItemToObject (j : Json) (key : String) (v : Json) : Json :=
  match j with
  | object members => object (members ++ [(key, v)])
  | array items => array (items ++ [v])
  | j => j

/-- An item more before that with a number, or at the end. -/
def insertItemInArray (j : Json) (which : ℕ) (v : Json) : Json :=
  match j with
  | array items => array (items.take which ++ v :: items.drop which)
  | j => j

/-- Change the first member with a key. -/
def updateFirst (key : String) (f : Json → Json) : List (String × Json) → List (String × Json)
  | [] => []
  | (k, v) :: members =>
      if SameKey k key then (k, f v) :: members else (k, v) :: updateFirst key f members

/-- Change the first member with a key. -/
def updateItem (j : Json) (key : String) (f : Json → Json) : Json :=
  match j with
  | object members => object (updateFirst key f members)
  | j => j

/-- Change a member that is fit, or add a new one. -/
def withItem (j : Json) (key : String) (fit : Json → Bool) (fresh : Json) (f : Json → Json) :
    Json :=
  match j.getObjectItem key with
  | some v => if fit v then j.updateItem key f else j.addItemToObject key (f fresh)
  | none => j.addItemToObject key (f fresh)

end operations

/-! ## Integers -/

section integers

variable {v : ℤ}

/-- The integers of 32 bits are those that are read as they are. -/
theorem saturate_eq_self_iff : saturate v = v ↔ -2 ^ 31 ≤ v ∧ v < 2 ^ 31 := by
  unfold saturate
  omega

end integers

/-! ## Members -/

section members

variable {members : List (String × Json)} {key k : String} {v : Json} {f : Json → Json}

/-- Each key is the same as itself. -/
theorem SameKey.refl (key : String) : SameKey key key := Eq.refl _

/-- The order of two keys does not matter. -/
theorem SameKey.symm (h : SameKey k key) : SameKey key k := Eq.symm h

/-- Keys that are the same as a third are the same. -/
theorem SameKey.trans {l : String} (h : SameKey k key) (h' : SameKey key l) : SameKey k l :=
  Eq.trans h h'

/-- A member behind the others is found if none of these has its key. -/
theorem member_append_singleton (members : List (String × Json)) (key k : String) (v : Json) :
    member (members ++ [(key, v)]) k =
      (member members k).or (if SameKey key k then some v else none) := by
  induction members with
  | nil => rfl
  | cons m members ih =>
      rw [List.cons_append, member, member, ih]
      split_ifs <;> rfl

/-- A change in place is a change of what is found under the key, and of nothing else. -/
theorem member_updateFirst (members : List (String × Json)) (key k : String) (f : Json → Json) :
    member (updateFirst key f members) k =
      if SameKey key k then (member members k).map f else member members k := by
  induction members with
  | nil =>
      show none = _
      split_ifs <;> rfl
  | cons m members ih =>
      unfold updateFirst
      by_cases hm : SameKey m.1 key
      · rw [if_pos hm, member, member]
        by_cases hk : SameKey key k
        · have hsame : SameKey m.1 k := hm.trans hk
          rw [if_pos hsame, if_pos hk, if_pos hsame]
          rfl
        · have hne : ¬ SameKey m.1 k := fun h => hk (hm.symm.trans h)
          rw [if_neg hne, if_neg hk, if_neg hne]
      · rw [if_neg hm, member, member, ih]
        by_cases hk : SameKey m.1 k
        · have hne : ¬ SameKey key k := fun h => hm (hk.trans h.symm)
          rw [if_pos hk, if_pos hk, if_neg hne]
        · rw [if_neg hk, if_neg hk]

/-- A new key is found behind the others. -/
theorem member_append_self (h : member members key = none) :
    member (members ++ [(key, v)]) key = some v := by
  rw [member_append_singleton, h, if_pos (SameKey.refl key), Option.none_or]

/-- Other keys are found as before. -/
theorem member_append_of_ne (h : ¬ SameKey key k) :
    member (members ++ [(key, v)]) k = member members k := by
  rw [member_append_singleton, if_neg h, Option.or_none]

/-- The member that is changed is found changed. -/
theorem member_updateFirst_self :
    member (updateFirst key f members) key = (member members key).map f := by
  rw [member_updateFirst, if_pos (SameKey.refl key)]

/-- Other members are found unchanged. -/
theorem member_updateFirst_of_ne (h : ¬ SameKey key k) :
    member (updateFirst key f members) k = member members k := by
  rw [member_updateFirst, if_neg h]

/-- A member that is fit is changed in place. -/
theorem withItem_of_fit {fit : Json → Bool} {fresh : Json} (h : member members key = some v)
    (hfit : fit v = true) :
    (object members).withItem key fit fresh f = object (updateFirst key f members) := by
  unfold withItem getObjectItem
  dsimp only
  rw [h]
  exact if_pos hfit

/-- A member that is missing is added. -/
theorem withItem_of_none {fit : Json → Bool} {fresh : Json} (h : member members key = none) :
    (object members).withItem key fit fresh f = object (members ++ [(key, f fresh)]) := by
  unfold withItem getObjectItem
  dsimp only
  rw [h]
  rfl

/-- A member that is missing or an object is changed as an object. -/
theorem exists_withItem_object {ms : List (String × Json)} (fit : Json → Bool)
    (f : Json → Json) (hfit : ∀ ms, fit (object ms) = true)
    (h : (member members key).getD (object []) = object ms) :
    ∃ members', (object members).withItem key fit (object []) f = object members' ∧
      member members' key = some (f (object ms)) ∧
      ∀ k, ¬ SameKey key k → member members' k = member members k := by
  cases hmember : member members key with
  | none =>
      rw [hmember] at h
      refine ⟨_, withItem_of_none hmember, ?_, fun k hk => ?_⟩
      · rw [member_append_self hmember, ← h]
        rfl
      · exact member_append_of_ne hk
  | some v =>
      rw [hmember] at h
      obtain rfl : v = object ms := h
      refine ⟨_, withItem_of_fit hmember (hfit ms), ?_, fun k hk => ?_⟩
      · rw [member_updateFirst_self, hmember, Option.map_some]
      · exact member_updateFirst_of_ne hk

/-- Other members stay. -/
theorem exists_withItem (members : List (String × Json)) (key : String) (fit : Json → Bool)
    (fresh : Json) (f : Json → Json) :
    ∃ members', (object members).withItem key fit fresh f = object members' ∧
      ∀ k, ¬ SameKey key k → member members' k = member members k := by
  have hadd : ∀ k, ¬ SameKey key k →
      member (members ++ [(key, f fresh)]) k = member members k :=
    fun _ hk => member_append_of_ne hk
  cases h : member members key with
  | none => exact ⟨_, withItem_of_none h, hadd⟩
  | some v =>
      by_cases hfit : fit v = true
      · exact ⟨_, withItem_of_fit h hfit, fun _ hk => member_updateFirst_of_ne hk⟩
      · refine ⟨_, ?_, hadd⟩
        unfold withItem getObjectItem
        dsimp only
        rw [h]
        exact if_neg hfit

end members

end Json

end AvSession.Lib
