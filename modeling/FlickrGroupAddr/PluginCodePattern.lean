import FlickrGroupAddr.PluginCodeText
import FlickrGroupAddr.Lib.Utf8

/-!
# What the patterns accept

The pattern of the service and the checks of the plug-in accept the same texts: thirteen
groups of four characters, whose last character ends the digits of 32 bytes.
-/

namespace FlickrGroupAddr

set_option autoImplicit false

open JsonText BitGroups

namespace PluginCode

/-- Twelve groups of four characters, each with its dash, and a last group. -/
structure Spelling (codes : List ℕ) (front : List (List ℕ)) (tail : List ℕ) (last : ℕ) : Prop where
  groups : front.length = 12
  group : ∀ group ∈ front, group.length = 4 ∧ ∀ code ∈ group, inClass code = true
  ending : tail.length = 3 ∧ ∀ code ∈ tail, inClass code = true
  final : inTailClass last = true
  codes : codes = front.flatMap (· ++ [45]) ++ (tail ++ [last])

/-! ## The pattern of the service -/

theorem takeClass_eq_some {count : ℕ} {codes rest : List ℕ} :
    takeClass count codes = some rest ↔
      ∃ front, front.length = count ∧ (∀ code ∈ front, inClass code = true) ∧
        codes = front ++ rest := by
  induction count generalizing codes with
  | zero =>
      rw [takeClass, Option.some_inj]
      constructor
      · rintro rfl
        exact ⟨[], rfl, by simp, rfl⟩
      · rintro ⟨front, hlength, _, rfl⟩
        rw [List.length_eq_zero_iff.mp hlength, List.nil_append]
  | succ count ih =>
      cases codes with
      | nil =>
          rw [takeClass]
          constructor
          · intro h
            cases h
          · rintro ⟨front, hlength, _, hcodes⟩
            rw [(List.append_eq_nil_iff.mp hcodes.symm).1] at hlength
            cases hlength
      | cons code codes =>
          rw [takeClass, Option.ite_none_right_eq_some, ih]
          constructor
          · rintro ⟨hclass, front, hlength, hfront, rfl⟩
            refine ⟨code :: front, by simp [hlength], ?_, rfl⟩
            intro other hother
            rcases List.mem_cons.mp hother with rfl | hother
            · exact hclass
            · exact hfront other hother
          · rintro ⟨front, hlength, hfront, hcodes⟩
            cases front with
            | nil => cases hlength
            | cons first front =>
                cases hcodes
                refine ⟨hfront _ List.mem_cons_self, front, Nat.succ.inj hlength, ?_, rfl⟩
                intro other hother
                exact hfront other (List.mem_cons_of_mem _ hother)

theorem takeDash_eq_some {codes rest : List ℕ} : takeDash codes = some rest ↔ codes = 45 :: rest := by
  cases codes with
  | nil => simp [takeDash]
  | cons code codes => simp [takeDash]

/-- The groups before the last one, each with the dash after it. -/
theorem takeLeading_eq_some {count : ℕ} {codes rest : List ℕ} :
    ((takeClass 4 codes).bind (takeGroups count)).bind takeDash = some rest ↔
      ∃ front : List (List ℕ), front.length = count + 1 ∧
        (∀ group ∈ front, group.length = 4 ∧ ∀ code ∈ group, inClass code = true) ∧
          codes = front.flatMap (· ++ [45]) ++ rest := by
  induction count generalizing codes with
  | zero =>
      simp only [takeGroups, Option.bind_eq_some_iff, takeClass_eq_some, takeDash_eq_some]
      constructor
      · rintro ⟨_, ⟨_, ⟨group, hlength, hgroup, rfl⟩, hrest⟩, rfl⟩
        cases hrest
        exact ⟨[group], rfl, by simpa using ⟨hlength, hgroup⟩, by simp⟩
      · rintro ⟨front, hlength, hfront, rfl⟩
        obtain ⟨group, rfl⟩ := List.length_eq_one_iff.mp hlength
        obtain ⟨hlength, hgroup⟩ := hfront group List.mem_cons_self
        exact ⟨45 :: rest, ⟨_, ⟨group, hlength, hgroup, by simp⟩, rfl⟩, rfl⟩
  | succ count ih =>
      have hstep : ((takeClass 4 codes).bind (takeGroups (count + 1))).bind takeDash = some rest ↔
          ∃ middle, (takeClass 4 codes).bind takeDash = some middle ∧
            ((takeClass 4 middle).bind (takeGroups count)).bind takeDash = some rest := by
        simp only [takeGroups, Option.bind_eq_some_iff]
        constructor
        · rintro ⟨a, ⟨b, hb, c, ⟨d, hd, hc⟩, ha⟩, hrest⟩
          exact ⟨d, ⟨b, hb, hd⟩, a, ⟨c, hc, ha⟩, hrest⟩
        · rintro ⟨d, ⟨b, hb, hd⟩, a, ⟨c, hc, ha⟩, hrest⟩
          exact ⟨a, ⟨b, hb, c, ⟨d, hd, hc⟩, ha⟩, hrest⟩
      rw [hstep]
      simp only [Option.bind_eq_some_iff, takeClass_eq_some, takeDash_eq_some]
      constructor
      · rintro ⟨middle, ⟨_, ⟨group, hlength, hgroup, rfl⟩, rfl⟩, hmiddle⟩
        obtain ⟨front, hcount, hfront, rfl⟩ := ih.mp (by
          simpa only [Option.bind_eq_some_iff, takeClass_eq_some, takeDash_eq_some] using hmiddle)
        refine ⟨group :: front, by simp [hcount], ?_, by simp⟩
        intro other hother
        rcases List.mem_cons.mp hother with rfl | hother
        · exact ⟨hlength, hgroup⟩
        · exact hfront other hother
      · rintro ⟨front, hcount, hfront, rfl⟩
        cases front with
        | nil => cases hcount
        | cons group front =>
            obtain ⟨hlength, hgroup⟩ := hfront group List.mem_cons_self
            have hmiddle := ih.mpr ⟨front, Nat.succ.inj hcount,
              fun other hother => hfront other (List.mem_cons_of_mem _ hother), rfl⟩
            refine ⟨_, ⟨_, ⟨group, hlength, hgroup, ?_⟩, rfl⟩, by
              simpa only [Option.bind_eq_some_iff, takeClass_eq_some, takeDash_eq_some] using hmiddle⟩
            simp

theorem matchesCredential_iff {codes : List ℕ} :
    matchesCredential codes = true ↔ ∃ front tail last, Spelling codes front tail last := by
  unfold matchesCredential
  constructor
  · intro h
    split at h
    · next last hmatch =>
        obtain ⟨middle, hleading, htail⟩ := Option.bind_eq_some_iff.mp hmatch
        obtain ⟨front, hcount, hfront, rfl⟩ := takeLeading_eq_some.mp hleading
        obtain ⟨tail, hlength, hclass, rfl⟩ := takeClass_eq_some.mp htail
        exact ⟨front, tail, last, hcount, hfront, ⟨hlength, hclass⟩, h, rfl⟩
    · cases h
  · rintro ⟨front, tail, last, h⟩
    have hleading := takeLeading_eq_some.mpr ⟨front, h.groups, h.group, h.codes⟩
    have htail : takeClass 3 (tail ++ [last]) = some [last] :=
      takeClass_eq_some.mpr ⟨tail, h.ending.1, h.ending.2, rfl⟩
    rw [hleading, Option.bind_some, htail]
    exact h.final

/-! ## The checks of the plug-in -/

theorem matchesTail_iff {codes : List ℕ} :
    matchesTail codes = true ↔ ∃ tail last, (tail.length = 3 ∧ ∀ code ∈ tail, inClass code = true) ∧
      inTailClass last = true ∧ codes = tail ++ [last] := by
  constructor
  · intro h
    unfold matchesTail at h
    split at h
    · next a b c d =>
        simp only [Bool.and_eq_true] at h
        obtain ⟨⟨⟨ha, hb⟩, hc⟩, hd⟩ := h
        exact ⟨[a, b, c], d, ⟨rfl, by simp [ha, hb, hc]⟩, hd, rfl⟩
    · cases h
  · rintro ⟨tail, last, ⟨hlength, hclass⟩, hlast, rfl⟩
    obtain ⟨a, b, c, rfl⟩ := List.length_eq_three.mp hlength
    simp only [List.mem_cons, List.not_mem_nil, or_false, forall_eq_or_imp, forall_eq] at hclass
    simp [matchesTail, hclass, hlast]

theorem sub_drop (codes : List ℕ) (count first last : ℕ) (hfirst : 1 ≤ first) :
    sub (codes.drop count) first last = sub codes (first + count) (last + count) := by
  have hplace : count + (first - 1) = first + count - 1 := by omega
  have hlength : last + 1 - first = last + count + 1 - (first + count) := by omega
  rw [sub, List.drop_drop, hplace, hlength, sub]

/-- A later round looks at what is left of the earlier groups. -/
theorem groupAt_succ (codes : List ℕ) (index : ℕ) :
    groupAt codes (index + 1) = groupAt (codes.drop 5) index := by
  have hstart : (index + 1) * 5 + 1 = index * 5 + 1 + 5 := by ring
  simp only [groupAt]
  rw [sub_drop codes 5 _ _ (by omega), sub_drop codes 5 _ _ (by omega), hstart,
    Nat.add_right_comm _ 5 3, Nat.add_right_comm _ 5 4]

theorem groupAt_zero {codes : List ℕ} (hlength : 5 ≤ codes.length) :
    groupAt codes 0 = true ↔ ∃ group, group.length = 4 ∧ (∀ code ∈ group, inClass code = true) ∧
      codes = group ++ [45] ++ codes.drop 5 := by
  obtain ⟨a, b, c, d, e, rest, rfl⟩ : ∃ a b c d e rest, codes = a :: b :: c :: d :: e :: rest := by
    match codes, hlength with
    | a :: b :: c :: d :: e :: rest, _ => exact ⟨a, b, c, d, e, rest, rfl⟩
  have hgroup : groupAt (a :: b :: c :: d :: e :: rest) 0 = true ↔
      (∀ code ∈ [a, b, c, d], inClass code = true) ∧ e = 45 := by
    simp [groupAt, sub, matchesClass]
  rw [hgroup]
  constructor
  · rintro ⟨hclass, rfl⟩
    exact ⟨[a, b, c, d], rfl, hclass, rfl⟩
  · rintro ⟨group, hcount, hclass, hcodes⟩
    obtain ⟨w, x, y, z, rfl⟩ : ∃ w x y z, group = [w, x, y, z] := by
      match group, hcount with
      | [w, x, y, z], _ => exact ⟨w, x, y, z, rfl⟩
    cases hcodes
    exact ⟨hclass, rfl⟩

theorem groupsAt_iff {count : ℕ} {codes : List ℕ} (hlength : 5 * count ≤ codes.length) :
    (∀ index < count, groupAt codes index = true) ↔
      ∃ front : List (List ℕ), front.length = count ∧
        (∀ group ∈ front, group.length = 4 ∧ ∀ code ∈ group, inClass code = true) ∧
          codes = front.flatMap (· ++ [45]) ++ codes.drop (5 * count) := by
  induction count generalizing codes with
  | zero =>
      constructor
      · intro _
        exact ⟨[], rfl, by simp, by simp⟩
      · intro _ index hindex
        cases hindex
  | succ count ih =>
      have hdrop : (codes.drop 5).drop (5 * count) = codes.drop (5 * (count + 1)) := by
        rw [List.drop_drop]
        congr 1
        ring
      have ih := @ih (codes.drop 5) (by
        rw [List.length_drop]
        omega)
      rw [hdrop] at ih
      have hsplit : (∀ index < count + 1, groupAt codes index = true) ↔
          groupAt codes 0 = true ∧ ∀ index < count, groupAt (codes.drop 5) index = true := by
        rw [Nat.forall_lt_succ_left']
        simp only [groupAt_succ]
      rw [hsplit, ih, groupAt_zero (by omega)]
      constructor
      · rintro ⟨⟨group, hfour, hclass, hcodes⟩, front, hcount, hfront, hrest⟩
        refine ⟨group :: front, by simp [hcount], ?_, ?_⟩
        · intro other hother
          rcases List.mem_cons.mp hother with rfl | hother
          · exact ⟨hfour, hclass⟩
          · exact hfront other hother
        · rw [List.flatMap_cons, List.append_assoc, ← hrest]
          exact hcodes
      · rintro ⟨front, hcount, hfront, hcodes⟩
        cases front with
        | nil => cases hcount
        | cons group front =>
            obtain ⟨hfour, hclass⟩ := hfront group List.mem_cons_self
            have hrest : codes.drop 5 =
                front.flatMap (· ++ [45]) ++ codes.drop (5 * (count + 1)) := by
              conv_lhs => rw [hcodes, List.flatMap_cons, List.append_assoc]
              rw [List.drop_left' (by simp [hfour])]
            refine ⟨⟨group, hfour, hclass, ?_⟩, front, Nat.succ.inj hcount,
              fun other hother => hfront other (List.mem_cons_of_mem _ hother), hrest⟩
            rw [hrest, ← List.append_assoc]
            exact hcodes

/-- The characters of the groups and of the dashes. -/
theorem length_leading {front : List (List ℕ)} (h : ∀ group ∈ front, group.length = 4) :
    (front.flatMap (· ++ [45])).length = 5 * front.length := by
  induction front with
  | nil => rfl
  | cons group front ih =>
      rw [List.flatMap_cons, List.length_append, List.length_append, List.length_singleton,
        h group List.mem_cons_self, ih fun other hother => h other (List.mem_cons_of_mem _ hother),
        List.length_cons]
      ring

theorem canonicalCodes_iff {codes : List ℕ} :
    canonicalCodes codes = true ↔ ∃ front tail last, Spelling codes front tail last := by
  unfold canonicalCodes
  rw [Bool.and_eq_true, Bool.and_eq_true, decide_eq_true_eq, List.all_eq_true]
  simp only [List.mem_range]
  constructor
  · rintro ⟨⟨hlength, hgroups⟩, htail⟩
    obtain ⟨front, hcount, hfront, hcodes⟩ := (groupsAt_iff (by omega)).mp hgroups
    obtain ⟨tail, last, hclass, hlast, hsub⟩ := matchesTail_iff.mp htail
    refine ⟨front, tail, last, hcount, hfront, hclass, hlast, ?_⟩
    rw [← hsub]
    have hrest : sub codes 61 64 = codes.drop (5 * 12) := by
      rw [sub, List.take_of_length_le]
      rw [List.length_drop]
      omega
    rw [hrest]
    exact hcodes
  · rintro ⟨front, tail, last, h⟩
    have hleading := length_leading fun group hgroup => (h.group group hgroup).1
    rw [h.groups] at hleading
    have hdrop : codes.drop (5 * 12) = tail ++ [last] := by
      rw [h.codes, List.drop_left' hleading]
    have hlength : codes.length = 64 := by
      rw [h.codes, List.length_append, hleading, List.length_append, h.ending.1,
        List.length_singleton]
    refine ⟨⟨hlength, ?_⟩, ?_⟩
    · apply (groupsAt_iff (by omega)).mpr
      refine ⟨front, h.groups, h.group, ?_⟩
      rw [hdrop]
      exact h.codes
    · apply matchesTail_iff.mpr
      refine ⟨tail, last, h.ending, h.final, ?_⟩
      have htake : sub codes 61 64 = (codes.drop (5 * 12)).take 4 := rfl
      rw [htake, hdrop, List.take_of_length_le]
      simp [h.ending.1]

/-! ## The digits of a text -/

/-- The code of the character of a digit. -/
def digitCode (digit : ℕ) : ℕ := (character digit).toNat

theorem inClass_digitCode : ∀ digit < 32, inClass (digitCode digit) = true := by decide

theorem digitCode_injective : ∀ digit < 32, ∀ digit' < 32,
    digitCode digit = digitCode digit' → digit = digit' := by decide

theorem inTailClass_digitCode : ∀ digit < 32,
    (inTailClass (digitCode digit) = true ↔ 16 ∣ digit) := by decide

theorem exists_digitCode {code : ℕ} (h : inClass code = true) : ∃ digit < 32, digitCode digit = code := by
  have hall : ∀ code < 91, inClass code = true → ∃ digit < 32, digitCode digit = code := by decide
  apply hall code _ h
  simp only [inClass, decide_eq_true_eq] at h
  omega

theorem character_ne_dash {digit : ℕ} (h : digit < 32) : character digit ≠ dash := by
  intro hdash
  have hclass := inClass_digitCode digit h
  rw [digitCode, hdash] at hclass
  cases hclass

theorem exists_digits_of_class {codes : List ℕ} (h : ∀ code ∈ codes, inClass code = true) :
    ∃ digits : List ℕ, (∀ digit ∈ digits, digit < 32) ∧ digits.map digitCode = codes := by
  induction codes with
  | nil => exact ⟨[], by simp, rfl⟩
  | cons code codes ih =>
      obtain ⟨digit, hdigit, rfl⟩ := exists_digitCode (h code List.mem_cons_self)
      obtain ⟨digits, hdigits, rfl⟩ := ih fun other hother => h other (List.mem_cons_of_mem _ hother)
      exact ⟨digit :: digits, by simpa using ⟨hdigit, hdigits⟩, rfl⟩

/-- The digits of groups of four characters. -/
theorem exists_groups_of_class {front : List (List ℕ)}
    (h : ∀ group ∈ front, group.length = 4 ∧ ∀ code ∈ group, inClass code = true) :
    ∃ digits : List (List ℕ), (∀ group ∈ digits, group.length = 4 ∧ ∀ digit ∈ group, digit < 32) ∧
      digits.map (List.map digitCode) = front := by
  induction front with
  | nil => exact ⟨[], by simp, rfl⟩
  | cons group front ih =>
      obtain ⟨hlength, hclass⟩ := h group List.mem_cons_self
      obtain ⟨digits, hdigits, rfl⟩ := exists_digits_of_class hclass
      obtain ⟨later, hlater, rfl⟩ := ih fun other hother => h other (List.mem_cons_of_mem _ hother)
      refine ⟨digits :: later, ?_, rfl⟩
      intro other hother
      rcases List.mem_cons.mp hother with rfl | hother
      · exact ⟨by simpa using hlength, hdigits⟩
      · exact hlater other hother

theorem groups_flatten {front : List Text} (h : ∀ group ∈ front, group.length = 4) :
    groups front.flatten = front := by
  induction front with
  | nil => rfl
  | cons group front ih =>
      obtain ⟨a, b, c, d, rfl⟩ : ∃ a b c d, group = [a, b, c, d] := by
        match group, h group List.mem_cons_self with
        | [a, b, c, d], _ => exact ⟨a, b, c, d, rfl⟩
      have ih := ih fun other hother => h other (List.mem_cons_of_mem _ hother)
      simp [groups, ih]

theorem intercalate_snoc (front : List Text) (group : Text) :
    [dash].intercalate (front ++ [group]) = front.flatMap (· ++ [dash]) ++ group := by
  induction front with
  | nil => simp [List.intercalate]
  | cons first front ih =>
      have hcons : [dash].intercalate (first :: (front ++ [group])) =
          first ++ [dash] ++ [dash].intercalate (front ++ [group]) := by
        cases front <;> simp [List.intercalate]
      rw [List.cons_append, hcons, ih, List.flatMap_cons]
      simp

/-- What is written for groups of four digits. -/
theorem spelled_groups {front : List (List ℕ)} {group : List ℕ}
    (h : ∀ other ∈ front ++ [group], other.length = 4) :
    spelled (front ++ [group]).flatten =
      (front.map (List.map character)).flatMap (· ++ [dash]) ++ group.map character := by
  rw [spelled, List.map_flatten, groups_flatten, List.map_append, List.map_singleton,
    intercalate_snoc]
  intro other hother
  obtain ⟨digits, hdigits, rfl⟩ := List.mem_map.mp hother
  rw [List.length_map]
  exact h digits hdigits

theorem exists_groups {α : Type} (count : ℕ) {items : List α} (h : items.length = 4 * count) :
    ∃ front : List (List α), front.length = count ∧ (∀ group ∈ front, group.length = 4) ∧
      items = front.flatten := by
  induction count generalizing items with
  | zero => exact ⟨[], rfl, by simp, List.length_eq_zero_iff.mp h⟩
  | succ count ih =>
      obtain ⟨front, hcount, hfront, hrest⟩ := @ih (items.drop 4) (by
        rw [List.length_drop]
        omega)
      refine ⟨items.take 4 :: front, by simp [hcount], ?_, ?_⟩
      · intro other hother
        rcases List.mem_cons.mp hother with rfl | hother
        · rw [List.length_take]
          omega
        · exact hfront other hother
      · rw [List.flatten_cons, ← hrest, List.take_append_drop]

/-- The thirteen groups of canonical digits. -/
theorem Canonical.groups {digits : List ℕ} (h : Canonical digits) :
    ∃ (front : List (List ℕ)) (tail : List ℕ) (last : ℕ), front.length = 12 ∧ tail.length = 3 ∧
      (∀ group ∈ front, group.length = 4) ∧ digits = (front ++ [tail ++ [last]]).flatten := by
  obtain ⟨all, hcount, hall, rfl⟩ := exists_groups 13 h.length
  have hne : all ≠ [] := by
    rintro rfl
    cases hcount
  obtain ⟨front, group, rfl⟩ := (List.eq_nil_or_concat all).resolve_left hne
  have hgroup : group.length = 4 := hall group (by simp)
  have hsome : group ≠ [] := by
    rintro rfl
    cases hgroup
  obtain ⟨tail, last, rfl⟩ := (List.eq_nil_or_concat group).resolve_left hsome
  refine ⟨front, tail, last, by simpa using hcount, by simpa using hgroup, ?_, by simp⟩
  intro other hother
  exact hall other (by simp [hother])

theorem spelling_of_canonical {digits : List ℕ} (h : Canonical digits) :
    ∃ front tail last, Spelling ((spelled digits).map UInt16.toNat) front tail last := by
  obtain ⟨front, tail, last, hcount, hthree, hfour, rfl⟩ := h.groups
  have hsmall : ∀ group ∈ front, ∀ digit ∈ group, digit < 32 := by
    intro group hgroup digit hdigit
    apply h.small
    simp only [List.flatten_append, List.mem_append, List.mem_flatten]
    exact Or.inl ⟨group, hgroup, hdigit⟩
  have htail : ∀ digit ∈ tail ++ [last], digit < 32 := by
    intro digit hdigit
    apply h.small
    simp only [List.flatten_append, List.mem_append, List.mem_flatten, List.mem_singleton,
      exists_eq_left]
    exact Or.inr (List.mem_append.mp hdigit |>.imp id List.mem_singleton.mp)
  have hpadded : 16 ∣ last := by
    have hpadded := h.padded
    rw [List.flatten_append, List.flatten_singleton, ← List.append_assoc, number_snoc] at hpadded
    exact (Nat.dvd_add_right (Dvd.dvd.mul_left (by decide) _)).mp hpadded
  refine ⟨front.map (List.map digitCode), tail.map digitCode, digitCode last, by simpa using hcount,
    ?_, ⟨by simpa using hthree, ?_⟩, ?_, ?_⟩
  · intro group hgroup
    obtain ⟨digits, hdigits, rfl⟩ := List.mem_map.mp hgroup
    refine ⟨by simpa using hfour digits hdigits, ?_⟩
    intro code hcode
    obtain ⟨digit, hdigit, rfl⟩ := List.mem_map.mp hcode
    exact inClass_digitCode digit (hsmall digits hdigits digit hdigit)
  · intro code hcode
    obtain ⟨digit, hdigit, rfl⟩ := List.mem_map.mp hcode
    exact inClass_digitCode digit (htail digit (List.mem_append_left _ hdigit))
  · exact (inTailClass_digitCode last (htail last (by simp))).mpr hpadded
  · have hgroups : ∀ other ∈ front ++ [tail ++ [last]], other.length = 4 := by
      intro other hother
      rcases List.mem_append.mp hother with hother | hother
      · exact hfour other hother
      · rw [List.mem_singleton.mp hother, List.length_append, hthree, List.length_singleton]
    rw [spelled_groups hgroups]
    simp only [List.map_append, List.map_flatMap, List.flatMap_map, List.map_map]
    rfl

theorem canonical_of_spelling {text : Text} {front : List (List ℕ)} {tail : List ℕ} {last : ℕ}
    (h : Spelling (text.map UInt16.toNat) front tail last) :
    ∃ digits, Canonical digits ∧ text = spelled digits := by
  obtain ⟨front, hfront, rfl⟩ := exists_groups_of_class h.group
  obtain ⟨tail, htail, rfl⟩ := exists_digits_of_class h.ending.2
  have hclass : inClass last = true := by
    have hfinal := h.final
    simp only [inTailClass, decide_eq_true_eq] at hfinal
    rcases hfinal with rfl | rfl <;> decide
  obtain ⟨last, hlast, rfl⟩ := exists_digitCode hclass
  have hcount := h.groups
  have hthree := h.ending.1
  rw [List.length_map] at hcount hthree
  have hgroups : ∀ other ∈ front ++ [tail ++ [last]], other.length = 4 := by
    intro other hother
    rcases List.mem_append.mp hother with hother | hother
    · exact (hfront other hother).1
    · rw [List.mem_singleton.mp hother, List.length_append, hthree, List.length_singleton]
  refine ⟨(front ++ [tail ++ [last]]).flatten, ⟨?_, ?_, ?_⟩, ?_⟩
  · rw [List.length_flatten, List.map_congr_left hgroups]
    simp [hcount]
  · intro digit hdigit
    simp only [List.flatten_append, List.mem_append, List.mem_flatten, List.mem_singleton,
      exists_eq_left] at hdigit
    rcases hdigit with ⟨group, hgroup, hdigit⟩ | hdigit | rfl
    · exact (hfront group hgroup).2 digit hdigit
    · exact htail digit hdigit
    · exact hlast
  · rw [List.flatten_append, List.flatten_singleton, ← List.append_assoc, number_snoc]
    exact Dvd.dvd.add (Dvd.dvd.mul_left (by decide) _)
      ((inTailClass_digitCode last hlast).mp h.final)
  · apply List.map_injective_iff.mpr (fun _ _ => UInt16.toNat_inj.mp)
    rw [h.codes, spelled_groups hgroups]
    simp only [List.map_append, List.map_flatMap, List.flatMap_map, List.map_map]
    rfl

/-! ## One text for one list of digits -/

theorem spelled_characters {digits : List ℕ} (h : Canonical digits) :
    (spelled digits).filter (· ≠ dash) = digits.map character := by
  have hkept : ∀ part : List ℕ, (∀ digit ∈ part, digit < 32) →
      (part.map character).filter (· ≠ dash) = part.map character := by
    intro part hpart
    rw [List.filter_eq_self]
    intro unit hunit
    obtain ⟨digit, hdigit, rfl⟩ := List.mem_map.mp hunit
    exact decide_eq_true (character_ne_dash (hpart digit hdigit))
  have hsmall := h.small
  obtain ⟨front, tail, last, _, hthree, hfour, rfl⟩ := h.groups
  have hgroups : ∀ other ∈ front ++ [tail ++ [last]], other.length = 4 := by
    intro other hother
    rcases List.mem_append.mp hother with hother | hother
    · exact hfour other hother
    · rw [List.mem_singleton.mp hother, List.length_append, hthree, List.length_singleton]
  have hfront : ∀ part : List (List ℕ), (∀ group ∈ part, ∀ digit ∈ group, digit < 32) →
      ((part.map (List.map character)).flatMap (· ++ [dash])).filter (· ≠ dash) =
        part.flatten.map character := by
    intro part hpart
    induction part with
    | nil => rfl
    | cons group part ih =>
        have hgroup := hkept group (hpart group List.mem_cons_self)
        have ih := ih fun other hother => hpart other (List.mem_cons_of_mem _ hother)
        rw [List.map_cons, List.flatMap_cons, List.filter_append, List.filter_append, hgroup, ih,
          List.flatten_cons, List.map_append]
        simp
  have hlast : ∀ digit ∈ tail ++ [last], digit < 32 := by
    intro digit hdigit
    apply hsmall
    rw [List.flatten_append, List.flatten_singleton]
    exact List.mem_append_right _ hdigit
  have hfirst : ∀ group ∈ front, ∀ digit ∈ group, digit < 32 := by
    intro group hgroup digit hdigit
    apply hsmall
    rw [List.flatten_append]
    exact List.mem_append_left _ (List.mem_flatten_of_mem hgroup hdigit)
  rw [spelled_groups hgroups, List.filter_append, hfront front hfirst, hkept _ hlast,
    ← List.map_append, List.flatten_append, List.flatten_singleton]

theorem digits_of_characters {digits digits' : List ℕ} (h : ∀ digit ∈ digits, digit < 32)
    (h' : ∀ digit ∈ digits', digit < 32) (heq : digits.map character = digits'.map character) :
    digits = digits' := by
  induction digits generalizing digits' with
  | nil =>
      rw [List.map_nil] at heq
      exact (List.map_eq_nil_iff.mp heq.symm).symm
  | cons digit digits ih =>
      cases digits' with
      | nil => cases heq
      | cons digit' digits' =>
          obtain ⟨hfirst, hrest⟩ := List.cons.inj heq
          have hdigit := digitCode_injective digit (h digit List.mem_cons_self) digit'
            (h' digit' List.mem_cons_self) (congrArg UInt16.toNat hfirst)
          rw [hdigit, ih (fun other hother => h other (List.mem_cons_of_mem _ hother))
            (fun other hother => h' other (List.mem_cons_of_mem _ hother)) hrest]

theorem spelled_injective {digits digits' : List ℕ} (h : Canonical digits) (h' : Canonical digits')
    (heq : spelled digits = spelled digits') : digits = digits' := by
  apply digits_of_characters h.small h'.small
  rw [← spelled_characters h, ← spelled_characters h', heq]

theorem credentialTest_iff {text : Text} :
    credentialTest text = true ↔ ∃ digits, Canonical digits ∧ text = spelled digits := by
  rw [credentialTest, matchesCredential_iff]
  constructor
  · rintro ⟨front, tail, last, h⟩
    exact canonical_of_spelling h
  · rintro ⟨digits, h, rfl⟩
    exact spelling_of_canonical h

/-! ## The bytes of a text -/

theorem bytes_lt (bytes : List UInt8) : ∀ value ∈ bytes.map UInt8.toNat, value < 256 := by
  intro value hvalue
  obtain ⟨byte, _, rfl⟩ := List.mem_map.mp hvalue
  exact byte.toNat_lt

theorem encode_injective {bytes bytes' : List UInt8} (h : bytes.length = 32)
    (h' : bytes'.length = 32) (heq : encodePluginCode bytes = encodePluginCode bytes') :
    bytes = bytes' := by
  obtain ⟨digits, hcanonical, hencode, hnumber⟩ := encodePluginCode_eq h
  obtain ⟨digits', hcanonical', hencode', hnumber'⟩ := encodePluginCode_eq h'
  rw [hencode, hencode', Option.some_inj] at heq
  rw [spelled_injective hcanonical hcanonical' heq, hnumber'] at hnumber
  apply List.map_injective_iff.mpr (fun _ _ => UInt8.toNat_inj.mp)
  apply number_injective (by decide) (by simp [h, h']) (bytes_lt bytes) (bytes_lt bytes')
  omega

/-- Canonical digits are those of 32 bytes. -/
theorem exists_bytes {digits : List ℕ} (h : Canonical digits) :
    ∃ bytes : List UInt8, bytes.length = 32 ∧ encodePluginCode bytes = some (spelled digits) := by
  obtain ⟨n, hn⟩ := h.padded
  have hbound : number 32 digits < 32 ^ 52 := by
    have hbound := number_lt (by decide) h.small
    rwa [h.length] at hbound
  obtain ⟨values, hlength, hvalues, hnumber⟩ := @exists_digits 256 (by decide) 32 n (by
    norm_num at hbound ⊢
    omega)
  have htoNat : (values.map UInt8.ofNat).map UInt8.toNat = values := by
    rw [List.map_map]
    conv_rhs => rw [← List.map_id values]
    apply List.map_congr_left
    intro value hvalue
    exact UInt8.toNat_ofNat_of_lt (hvalues value hvalue)
  refine ⟨values.map UInt8.ofNat, by simpa using hlength, ?_⟩
  obtain ⟨digits', hcanonical, hencode, hvalue⟩ :=
    @encodePluginCode_eq (values.map UInt8.ofNat) (by simpa using hlength)
  rw [htoNat, hnumber] at hvalue
  have hsame : digits' = digits := by
    apply number_injective (by decide) (hcanonical.length.trans h.length.symm) hcanonical.small
      h.small
    rw [hvalue, hn, mul_comm]
  rw [hencode, hsame]

/-- A text of the pattern has the bytes of its codes, and no others. -/
theorem sameText_iff {bytes : List UInt8} {text : Text} (h : ∀ unit ∈ text, unit.toNat < 0x80) :
    SameText bytes text ↔ bytes.map UInt8.toNat = text.map UInt16.toNat := by
  induction text generalizing bytes with
  | nil =>
      rw [List.map_nil, List.map_eq_nil_iff]
      constructor
      · exact SameText.text_nil
      · rintro rfl
        exact SameText.nil
  | cons unit text ih =>
      have hunit := h unit List.mem_cons_self
      have ih := fun bytes => @ih bytes fun other hother => h other (List.mem_cons_of_mem _ hother)
      constructor
      · intro hsame
        obtain ⟨byte, bytes', hbyte, rfl, hrest⟩ := hsame.to_ascii hunit
        rw [List.map_cons, List.map_cons, hbyte, (ih bytes').mp hrest]
      · intro hcodes
        cases bytes with
        | nil => cases hcodes
        | cons byte bytes =>
            obtain ⟨hbyte, hrest⟩ := List.cons.inj hcodes
            exact (SameText.ascii (hbyte ▸ hunit) hbyte.symm).append ((ih bytes).mpr hrest)

theorem ascii_of_credentialTest {text : Text} (h : credentialTest text = true) :
    ∀ unit ∈ text, unit.toNat < 0x80 := by
  obtain ⟨digits, hcanonical, rfl⟩ := credentialTest_iff.mp h
  intro unit hunit
  by_cases hdash : unit = dash
  · subst hdash
    decide
  · have hmem : unit ∈ (spelled digits).filter (· ≠ dash) :=
      List.mem_filter.mpr ⟨hunit, decide_eq_true hdash⟩
    rw [spelled_characters hcanonical] at hmem
    obtain ⟨digit, hdigit, rfl⟩ := List.mem_map.mp hmem
    have hall : ∀ digit < 32, (character digit).toNat < 0x80 := by decide
    exact hall digit (hcanonical.small digit hdigit)

theorem isCanonicalCredential_iff {value : LuaValue} :
    isCanonicalCredential value = true ↔
      ∃ bytes text, value = .text bytes ∧ SameText bytes text ∧ credentialTest text = true := by
  constructor
  · intro h
    cases value with
    | text bytes =>
        refine ⟨bytes, bytes.map fun byte => byte.toNat.toUInt16, rfl, ?_⟩
        have hcodes : (bytes.map fun byte => byte.toNat.toUInt16).map UInt16.toNat =
            bytes.map UInt8.toNat := by
          rw [List.map_map]
          apply List.map_congr_left
          intro byte _
          have := byte.toNat_lt
          simp
        have htest : credentialTest (bytes.map fun byte => byte.toNat.toUInt16) = true := by
          rw [credentialTest, hcodes, matchesCredential_iff]
          exact canonicalCodes_iff.mp h
        exact ⟨(sameText_iff (ascii_of_credentialTest htest)).mpr hcodes.symm, htest⟩
    | _ => cases h
  · rintro ⟨bytes, text, rfl, hsame, htest⟩
    rw [isCanonicalCredential, (sameText_iff (ascii_of_credentialTest htest)).mp hsame,
      canonicalCodes_iff]
    exact matchesCredential_iff.mp htest

end PluginCode

open PluginCode in
/-- The codes of 32 bytes are the texts that the service and the plug-in accept, each for one
array of bytes. -/
theorem plugin_code_bijection :
    Set.BijOn encodePluginCode {bytes | bytes.length = 32}
        {code | ∃ text, code = some text ∧ credentialTest text = true} ∧
      (∀ bytes, bytes.length ≠ 32 → encodePluginCode bytes = none) ∧
      ∀ value, isCanonicalCredential value = true ↔
        ∃ bytes text, value = .text bytes ∧ SameText bytes text ∧ credentialTest text = true := by
  refine ⟨⟨?_, ?_, ?_⟩, ?_, fun _ => isCanonicalCredential_iff⟩
  · intro bytes hlength
    obtain ⟨digits, hcanonical, hencode, _⟩ := encodePluginCode_eq hlength
    exact ⟨spelled digits, hencode, credentialTest_iff.mpr ⟨digits, hcanonical, rfl⟩⟩
  · intro bytes hlength bytes' hlength' heq
    exact encode_injective hlength hlength' heq
  · rintro code ⟨text, rfl, htest⟩
    obtain ⟨digits, hcanonical, rfl⟩ := credentialTest_iff.mp htest
    exact exists_bytes hcanonical
  · intro bytes hlength
    rw [encodePluginCode, if_pos hlength]

end FlickrGroupAddr
