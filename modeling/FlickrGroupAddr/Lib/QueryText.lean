import Mathlib.Algebra.GroupWithZero.Nat
import Mathlib.Data.List.Perm.Basic
import Mathlib.Data.List.Nodup

/-!
# Query strings

A query string is made of pieces `key=value` between ampersands.  Reading refuses a piece
of another form and a key that comes twice, so it accepts the text of a list of fields
with distinct keys, and returns that list.
-/

namespace QueryText

set_option autoImplicit false

/-! ## Association lists -/

section Lookup

variable {α β : Type} [BEq α] [LawfulBEq α]

theorem lookup_cons_ne {key name : α} (h : key ≠ name) (value : β) (fields : List (α × β)) :
    ((name, value) :: fields).lookup key = fields.lookup key := by
  rw [List.lookup_cons, beq_eq_false_iff_ne.mpr h]

theorem mem_iff_lookup {fields : List (α × β)} (h : (fields.map Prod.fst).Nodup) {key : α} {value : β} :
    (key, value) ∈ fields ↔ fields.lookup key = some value := by
  induction fields with
  | nil => simp
  | cons field fields ih =>
      obtain ⟨name, content⟩ := field
      rw [List.map_cons, List.nodup_cons] at h
      obtain ⟨hnew, hrest⟩ := h
      rw [List.mem_cons]
      by_cases hkey : key = name
      · subst hkey
        have hout : (key, value) ∉ fields := fun hmem => hnew (List.mem_map.mpr ⟨_, hmem, rfl⟩)
        simp [hout, eq_comm]
      · rw [lookup_cons_ne hkey, ← ih hrest]
        simp [hkey]

/-- Lists with distinct keys that give the same values are rearrangements of each other. -/
theorem perm_of_lookup {left right : List (α × β)} (hleft : (left.map Prod.fst).Nodup)
    (hright : (right.map Prod.fst).Nodup) (h : ∀ key, left.lookup key = right.lookup key) :
    left.Perm right := by
  refine (List.perm_ext_iff_of_nodup hleft.of_map hright.of_map).mpr ?_
  rintro ⟨key, value⟩
  rw [mem_iff_lookup hleft, mem_iff_lookup hright, h]

theorem lookup_perm {left right : List (α × β)} (hleft : (left.map Prod.fst).Nodup)
    (h : left.Perm right) (key : α) : left.lookup key = right.lookup key := by
  have hright : (right.map Prod.fst).Nodup := (h.map Prod.fst).nodup_iff.mp hleft
  apply Option.ext
  intro value
  rw [← mem_iff_lookup hleft, ← mem_iff_lookup hright, h.mem_iff]

end Lookup

/-! ## Fields -/

abbrev Field := List UInt8 × List UInt8

def ampersand : UInt8 := 38

def equals : UInt8 := 61

/-- `key=value`. -/
def fieldText (field : Field) : List UInt8 := field.1 ++ equals :: field.2

def queryText (fields : List Field) : List UInt8 := [ampersand].intercalate (fields.map fieldText)

section Reading

-- the bytes that a key is made of
variable (isKey : UInt8 → Bool)

/-- A piece of a key, an equals sign, and a value without one. -/
def readField (piece : List UInt8) : Option Field :=
  match piece.dropWhile isKey with
  | [] => none
  | mark :: value =>
    if mark = equals ∧ piece.takeWhile isKey ≠ [] ∧ value ≠ [] ∧ equals ∉ value ∧ ampersand ∉ value
      then some (piece.takeWhile isKey, value)
    else none

local instance lawfulKey : LawfulBEq (List UInt8) := inferInstance

/-- The fields in order; a key that comes twice is refused. -/
def readFields : List Field → List (List UInt8) → Option (List Field)
  | fields, [] => some fields
  | fields, piece :: rest =>
    match readField isKey piece with
    | none => none
    | some field =>
      if field.1 ∈ fields.map Prod.fst then none else readFields (fields ++ [field]) rest

def readQuery (query : List UInt8) : Option (List Field) :=
  readFields isKey [] (query.splitOn ampersand)

/-- A key of key bytes, and a value without separators. -/
structure Legible (field : Field) : Prop where
  key : field.1 ≠ []
  keyBytes : ∀ byte ∈ field.1, isKey byte = true
  value : field.2 ≠ []
  valueBytes : equals ∉ field.2 ∧ ampersand ∉ field.2

variable {isKey}

theorem readField_eq_some (hkeys : isKey equals = false) {piece : List UInt8} {field : Field} :
    readField isKey piece = some field ↔ Legible isKey field ∧ piece = fieldText field := by
  constructor
  · intro h
    unfold readField at h
    split at h
    · cases h
    · next mark value hdrop =>
        obtain ⟨⟨rfl, hkey, hvalue, hbytes⟩, hfield⟩ := Option.ite_none_right_eq_some.mp h
        obtain rfl := Option.some.inj hfield
        refine ⟨⟨hkey, ?_, hvalue, hbytes⟩, ?_⟩
        · intro byte hmem
          exact List.all_eq_true.mp List.all_takeWhile byte hmem
        · rw [fieldText, ← hdrop, List.takeWhile_append_dropWhile]
  · rintro ⟨hlegible, rfl⟩
    have htake : (fieldText field).takeWhile isKey = field.1 := by
      rw [fieldText, List.takeWhile_append_of_pos hlegible.keyBytes,
        List.takeWhile_cons_of_neg (by simp [hkeys]), List.append_nil]
    have hdrop : (fieldText field).dropWhile isKey = equals :: field.2 := by
      rw [fieldText, List.dropWhile_append_of_pos hlegible.keyBytes,
        List.dropWhile_cons_of_neg (by simp [hkeys])]
    unfold readField
    rw [hdrop, htake]
    dsimp only
    rw [if_pos ⟨rfl, hlegible.key, hlegible.value, hlegible.valueBytes⟩]

theorem readFields_eq_some (hkeys : isKey equals = false) {pieces : List (List UInt8)}
    {front fields : List Field} (hfront : (front.map Prod.fst).Nodup) :
    readFields isKey front pieces = some fields ↔ ∃ rest, fields = front ++ rest ∧
      (∀ field ∈ rest, Legible isKey field) ∧ ((front ++ rest).map Prod.fst).Nodup ∧
        pieces = rest.map fieldText := by
  induction pieces generalizing front with
  | nil =>
      rw [readFields, Option.some.injEq]
      constructor
      · rintro rfl
        exact ⟨[], by simpa using hfront⟩
      · rintro ⟨rest, rfl, _, _, hpieces⟩
        rw [List.map_eq_nil_iff.mp hpieces.symm, List.append_nil]
  | cons piece pieces ih =>
      rw [readFields]
      constructor
      · intro h
        split at h
        · cases h
        next field hfield =>
        obtain ⟨hlegible, rfl⟩ := (readField_eq_some hkeys).mp hfield
        obtain ⟨hnew, h⟩ := Option.ite_none_left_eq_some.mp h
        have hnext : ((front ++ [field]).map Prod.fst).Nodup := by
          rw [List.map_append, List.nodup_append]
          refine ⟨hfront, by simp, ?_⟩
          intro key hkey other hother
          rw [List.map_singleton, List.mem_singleton] at hother
          rintro rfl
          exact hnew (hother ▸ hkey)
        obtain ⟨rest, rfl, hrest, hnodup, rfl⟩ := (ih hnext).mp h
        refine ⟨field :: rest, by simp, ?_, by simpa using hnodup, rfl⟩
        exact List.forall_mem_cons.mpr ⟨hlegible, hrest⟩
      · rintro ⟨rest, rfl, hrest, hnodup, hpieces⟩
        cases rest with
        | nil => cases hpieces
        | cons field rest =>
            obtain ⟨rfl, rfl⟩ := List.cons.inj hpieces
            rw [(readField_eq_some hkeys).mpr ⟨hrest field List.mem_cons_self, rfl⟩]
            have hjoin : front ++ field :: rest = front ++ [field] ++ rest := by simp
            rw [hjoin] at hnodup
            have hnext : ((front ++ [field]).map Prod.fst).Nodup := by
              rw [List.map_append] at hnodup
              exact hnodup.of_append_left
            have hnew : field.1 ∉ front.map Prod.fst := by
              intro hmem
              rw [List.map_append, List.nodup_append] at hnext
              exact hnext.2.2 field.1 hmem field.1 (by simp) rfl
            dsimp only
            rw [if_neg hnew]
            exact (ih hnext).mpr ⟨rest, hjoin, fun other hother =>
              hrest other (List.mem_cons_of_mem _ hother), hnodup, rfl⟩

/-- A query string is read as a list of fields exactly when it is the text of that list. -/
theorem readQuery_eq_some (hkeys : isKey equals = false) (hkeys' : isKey ampersand = false)
    {query : List UInt8} {fields : List Field} :
    readQuery isKey query = some fields ↔ fields ≠ [] ∧ (∀ field ∈ fields, Legible isKey field) ∧
      (fields.map Prod.fst).Nodup ∧ query = queryText fields := by
  rw [readQuery, readFields_eq_some hkeys (by simp)]
  constructor
  · rintro ⟨rest, hfields, hlegible, hnodup, hpieces⟩
    rw [List.nil_append] at hfields hnodup
    subst hfields
    refine ⟨?_, hlegible, hnodup, ?_⟩
    · rintro rfl
      exact List.splitOn_ne_nil ampersand query hpieces
    · rw [queryText, ← hpieces, List.intercalate_splitOn]
  · rintro ⟨hne, hlegible, hnodup, rfl⟩
    refine ⟨fields, rfl, hlegible, hnodup, ?_⟩
    rw [queryText, List.splitOn_intercalate]
    · intro piece hpiece hmem
      obtain ⟨field, hfield, rfl⟩ := List.mem_map.mp hpiece
      have hgood := hlegible field hfield
      rw [fieldText, List.mem_append, List.mem_cons] at hmem
      rcases hmem with hkey | hmark | hvalue
      · rw [hgood.keyBytes _ hkey] at hkeys'
        cases hkeys'
      · exact absurd hmark (by decide)
      · exact hgood.valueBytes.2 hvalue
    · simpa using hne

end Reading

theorem mem_queryText {byte : UInt8} {fields : List Field} (h : byte ∈ queryText fields) :
    byte = ampersand ∨ byte = equals ∨ ∃ field ∈ fields, byte ∈ field.1 ∨ byte ∈ field.2 := by
  induction fields with
  | nil => simp [queryText] at h
  | cons field fields ih =>
      have hsplit : byte ∈ fieldText field ∨ byte = ampersand ∨ byte ∈ queryText fields := by
        rw [queryText] at h
        cases fields with
        | nil => exact Or.inl (by simpa using h)
        | cons next fields => simpa [queryText, List.intercalate_cons_cons] using h
      rcases hsplit with hfield | hmark | hrest
      · rw [fieldText, List.mem_append, List.mem_cons] at hfield
        rcases hfield with hkey | hequals | hvalue
        · exact Or.inr (Or.inr ⟨field, List.mem_cons_self, Or.inl hkey⟩)
        · exact Or.inr (Or.inl hequals)
        · exact Or.inr (Or.inr ⟨field, List.mem_cons_self, Or.inr hvalue⟩)
      · exact Or.inl hmark
      · rcases ih hrest with hmark | hequals | ⟨other, hother, hmem⟩
        · exact Or.inl hmark
        · exact Or.inr (Or.inl hequals)
        · exact Or.inr (Or.inr ⟨other, List.mem_cons_of_mem _ hother, hmem⟩)

/-- The text takes the bytes of the fields, and two more for each. -/
theorem length_queryText_le (fields : List Field) :
    (queryText fields).length ≤ (fields.map fun field => field.1.length + field.2.length + 2).sum := by
  induction fields with
  | nil => simp [queryText]
  | cons field fields ih =>
      rw [queryText] at ih ⊢
      cases fields with
      | nil =>
          simp [fieldText]
          omega
      | cons next fields =>
          simp only [List.map_cons, List.intercalate_cons_cons, List.sum_cons, List.length_append,
            fieldText, List.length_cons, List.length_nil] at ih ⊢
          omega

end QueryText
