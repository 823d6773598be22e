import FlickrGroupAddr.StrictJson

/-!
# The tokens of strict JSON

The scanner works on bytes and the grammar on code units.  On the two spellings of one text
each part of the scanner passes what the grammar spells: white space, strings, numbers and
the literal names.
-/

namespace FlickrGroupAddr

set_option autoImplicit false

open JsonText

namespace StrictJson

section Codes

variable {byte : UInt8} {unit : UInt16}

/-- A byte and a unit of one number are the same character. -/
theorem same_iff (h : unit.toNat = byte.toNat) {other : UInt8} {mark : UInt16}
    (hmark : mark.toNat = other.toNat) : byte = other ↔ unit = mark := by
  rw [← UInt8.toNat_inj, ← UInt16.toNat_inj, h, hmark]

theorem isWhite_eq (h : unit.toNat = byte.toNat) : isWhite byte = isSpace unit := by
  have hone := same_iff h (show (0x20 : UInt16).toNat = (' '.toUInt8).toNat from rfl)
  have htwo := same_iff h (show (0x09 : UInt16).toNat = ('\t'.toUInt8).toNat from rfl)
  have hthree := same_iff h (show (0x0D : UInt16).toNat = ('\r'.toUInt8).toNat from rfl)
  have hfour := same_iff h (show (0x0A : UInt16).toNat = ('\n'.toUInt8).toNat from rfl)
  rw [Bool.eq_iff_iff]
  simp only [isWhite, isSpace, Bool.or_eq_true, beq_iff_eq, hone, htwo, hthree, hfour]

theorem isWhite_high (h : 0x80 ≤ byte.toNat) : isWhite byte = false := by
  rw [Bool.eq_false_iff]
  simp only [isWhite, Ne, Bool.or_eq_true, beq_iff_eq]
  rintro (((rfl | rfl) | rfl) | rfl) <;> exact absurd h (by decide)

theorem isSpace_high (h : 0x80 ≤ unit.toNat) : isSpace unit = false := by
  rw [Bool.eq_false_iff]
  simp only [isSpace, Ne, Bool.or_eq_true, beq_iff_eq]
  rintro (((rfl | rfl) | rfl) | rfl) <;> exact absurd h (by decide)

end Codes

/-- What a character of one code contributes to both sides is skipped on both or on neither. -/
theorem white_same {bytes : Bytes} {text : Text} (h : SameText bytes text) :
    SameText (white bytes) (skipSpace text) := by
  obtain ⟨chars, rfl, rfl⟩ := h
  induction chars with
  | nil => exact SameText.nil
  | cons c chars ih =>
      have hchar : SameText (utf8 (c :: chars)) (utf16 (c :: chars)) := ⟨_, rfl, rfl⟩
      rw [utf8_cons, utf16_cons] at hchar ⊢
      have hcode := charCode c
      generalize String.utf8EncodeChar c = front at hcode hchar
      generalize encodeChar c = units at hcode hchar
      cases hcode with
      | @ascii byte unit hlt hunit =>
          have hsame := isWhite_eq hunit
          cases hspace : isSpace unit with
          | false =>
              have hwhite : isWhite byte = false := hsame.trans hspace
              simpa [white, skipSpace, hspace, hwhite] using hchar
          | true =>
              have hwhite : isWhite byte = true := hsame.trans hspace
              simpa [white, skipSpace, hspace, hwhite] using ih
      | single hne hhigh hlarge =>
          obtain ⟨first, others, rfl⟩ := List.exists_cons_of_ne_nil hne
          have hwhite := isWhite_high (hhigh first List.mem_cons_self)
          have hspace := isSpace_high hlarge
          simpa [white, skipSpace, hspace, hwhite] using hchar
      | @pair _ high low hne hhigh hlarge =>
          obtain ⟨first, others, rfl⟩ := List.exists_cons_of_ne_nil hne
          have hwhite := isWhite_high (hhigh first List.mem_cons_self)
          have hspace : isSpace high = false := by
            rw [isHighSurrogate_iff] at hlarge
            exact isSpace_high (by omega)
          simpa [white, skipSpace, hspace, hwhite] using hchar

/-! ### Strings -/

theorem hexDigit_same {byte : UInt8} {unit : UInt16} (h : unit.toNat = byte.toNat) :
    isHex byte = true ↔ (hexDigit? unit).isSome = true := by
  have hcodes : ('0'.toUInt8).toNat = 48 ∧ ('9'.toUInt8).toNat = 57 ∧ ('a'.toUInt8).toNat = 97 ∧
      ('f'.toUInt8).toNat = 102 ∧ ('A'.toUInt8).toNat = 65 ∧ ('F'.toUInt8).toNat = 70 := by decide
  simp only [isHex, Bool.or_eq_true, Bool.and_eq_true, decide_eq_true_eq, UInt8.le_iff_toNat_le,
    hcodes, hexDigit?, UInt16.le_iff_toNat_le, ← h]
  split
  · next hdigit => simpa using Or.inl (Or.inl hdigit)
  · next hdigit =>
      split
      · next hupper => simpa using Or.inr hupper
      · next hupper =>
          split
          · next hlower => simpa using Or.inl (Or.inr hlower)
          · next hlower =>
              simp only [Option.isSome_none, Bool.false_eq_true, iff_false]
              rintro ((hcase | hcase) | hcase)
              · exact hdigit hcase
              · exact hlower hcase
              · exact hupper hcase

theorem hexUnit_isSome {a b c d : UInt16} : (hexUnit? a b c d).isSome = true ↔
    (((hexDigit? a).isSome = true ∧ (hexDigit? b).isSome = true) ∧ (hexDigit? c).isSome = true) ∧
      (hexDigit? d).isSome = true := by
  unfold hexUnit?
  cases hexDigit? a <;> cases hexDigit? b <;> cases hexDigit? c <;> cases hexDigit? d <;> simp

theorem letters_same {byte : UInt8} {unit : UInt16} (h : unit.toNat = byte.toNat) :
    byte ∈ letters ↔ (escapes.lookup unit).isSome = true := by
  have hbyte : byte ∈ letters ↔ byte.toNat ∈ [0x22, 0x5C, 0x2F, 0x62, 0x66, 0x6E, 0x72, 0x74] := by
    simp only [letters, List.map_cons, List.map_nil, List.mem_cons, List.not_mem_nil, or_false,
      ← UInt8.toNat_inj]
    rfl
  rw [hbyte, ← h, List.lookup_isSome_iff]
  simp [escapes, ← UInt16.toNat_inj]

theorem stringTail_high {front rest : Bytes} (h : ∀ byte ∈ front, 0x80 ≤ byte.toNat) :
    stringTail (front ++ rest) =
      (stringTail rest).map fun found => (front ++ found.1, found.2) := by
  induction front with
  | nil => simp
  | cons byte front ih =>
      have hbyte := h byte List.mem_cons_self
      have hquote : byte ≠ '"'.toUInt8 := by
        rintro rfl
        exact absurd hbyte (by decide)
      have hslash : byte ≠ '\\'.toUInt8 := by
        rintro rfl
        exact absurd hbyte (by decide)
      rw [List.cons_append, stringTail.eq_def]
      dsimp only
      rw [if_neg hquote, if_neg (by omega), if_neg hslash,
        ih fun other hother => h other (List.mem_cons_of_mem _ hother), Option.map_map]
      rfl

theorem isHex_ascii {byte : UInt8} (h : isHex byte = true) : byte.toNat < 0x80 := by
  have hcodes : ('9'.toUInt8).toNat = 57 ∧ ('f'.toUInt8).toNat = 102 ∧ ('F'.toUInt8).toNat = 70 := by
    decide
  simp only [isHex, Bool.or_eq_true, Bool.and_eq_true, decide_eq_true_eq, UInt8.le_iff_toNat_le]
    at h
  omega

theorem letters_ascii {byte : UInt8} (h : byte ∈ letters) : byte.toNat < 0x80 := by
  have hall : ∀ letter ∈ letters, letter.toNat < 0x80 := by
    simp [letters]
    decide
  exact hall byte h

theorem escaped_append {content content' spelled spelled' : Text} (h : Escaped content spelled)
    (h' : Escaped content' spelled') : Escaped (content ++ content') (spelled ++ spelled') := by
  induction h with
  | nil => exact h'
  | plain hq hb hc _ ih => exact Escaped.plain hq hb hc ih
  | short hl _ ih => exact Escaped.short hl ih
  | code hu _ ih => exact Escaped.code hu ih

/-- The text spells a string up to its closing quote, which ends the scanned bytes. -/
structure StringSplit (inner rest : Bytes) (text content : Text) : Prop where
  split : ∃ spelled after, text = spelled ++ quote :: after ∧ Escaped content spelled ∧
    SameText rest after ∧ SameText inner (spelled ++ [quote])

/-- A piece in front of a string. -/
theorem StringSplit.prepend {inner rest front : Bytes} {text content units piece : Text}
    (h : StringSplit inner rest text content) (hfront : SameText front units)
    (hpiece : Escaped piece units) :
    StringSplit (front ++ inner) rest (units ++ text) (piece ++ content) := by
  obtain ⟨spelled, after, rfl, hescaped, hrest, hinner⟩ := h
  refine ⟨units ++ spelled, after, ?_, escaped_append hpiece hescaped, hrest, ?_⟩
  · rw [List.append_assoc]
  · rw [List.append_assoc]
    exact hfront.append hinner

theorem escaped_high {unit : UInt16} (h : 0x80 ≤ unit.toNat) : Escaped [unit] [unit] := by
  refine Escaped.plain ?_ ?_ ?_ Escaped.nil
  · rintro rfl
    exact absurd h (by decide)
  · rintro rfl
    exact absurd h (by decide)
  · rw [UInt16.le_iff_toNat_le]
    exact le_trans (by decide) h

/-- The letters of an escape after its backslash, and the text after them. -/
def escape : Bytes → Option (Bytes × Bytes)
  | [] => none
  | letter :: rest =>
    if letter = 'u'.toUInt8 then
      match rest with
      | a :: b :: c :: d :: rest =>
        if isHex a && isHex b && isHex c && isHex d then some ([letter, a, b, c, d], rest) else none
      | _ => none
    else if letter ∈ letters then some ([letter], rest)
    else none

theorem stringTail_slash (rest : Bytes) : stringTail ('\\'.toUInt8 :: rest) =
    (escape rest).bind fun piece =>
      (stringTail piece.2).map fun found => ('\\'.toUInt8 :: piece.1 ++ found.1, found.2) := by
  rw [stringTail.eq_def]
  dsimp only
  rw [if_neg (by decide), if_neg (by decide), if_pos rfl]
  cases rest with
  | nil => rfl
  | cons letter rest =>
      unfold escape
      dsimp only
      by_cases hcode : letter = 'u'.toUInt8
      · rw [if_pos hcode, if_pos hcode]
        rcases rest with _ | ⟨a, _ | ⟨b, _ | ⟨c, _ | ⟨d, rest⟩⟩⟩⟩
        · rfl
        · rfl
        · rfl
        · rfl
        · dsimp only
          by_cases hhex : (isHex a && isHex b && isHex c && isHex d) = true
          · rw [if_pos hhex, if_pos hhex]
            rfl
          · rw [if_neg hhex, if_neg hhex]
            rfl
      · rw [if_neg hcode, if_neg hcode]
        by_cases hletter : letter ∈ letters
        · rw [if_pos hletter, if_pos hletter]
          rfl
        · rw [if_neg hletter, if_neg hletter]
          rfl

theorem escape_length {bytes letters rest : Bytes} (h : escape bytes = some (letters, rest)) :
    rest.length < bytes.length := by
  unfold escape at h
  split at h
  · cases h
  · split at h
    · split at h
      · split at h
        · cases h
          simp
          omega
        · cases h
      · cases h
    · split at h
      · cases h
        simp
      · cases h

theorem slash_same : SameText ['\\'.toUInt8] [backslash] := SameText.ascii (by decide) (by decide)

/-- An escape stands for one code unit. -/
theorem escape_sound {bytes piece rest : Bytes} {text : Text} (h : SameText bytes text)
    (hscan : escape bytes = some (piece, rest)) :
    ∃ unit units after, text = units ++ after ∧ Escaped [unit] (backslash :: units) ∧
      SameText rest after ∧ SameText piece units := by
  cases bytes with
  | nil => cases hscan
  | cons letter bytes =>
    unfold escape at hscan
    dsimp only at hscan
    split at hscan
    · next hletter =>
        obtain ⟨unit, after, hunit, rfl, hrest⟩ := h.of_ascii (by rw [hletter]; decide)
        have hu : unit = lowerU := (same_iff hunit rfl).mp hletter
        split at hscan
        · next a b c d rest' =>
            split at hscan
            · next hhex =>
                cases hscan
                simp only [Bool.and_eq_true] at hhex
                obtain ⟨⟨⟨ha, hb⟩, hc⟩, hd⟩ := hhex
                obtain ⟨ua, _, hua, rfl, hafterA⟩ := hrest.of_ascii (isHex_ascii ha)
                obtain ⟨ub, _, hub, rfl, hafterB⟩ := hafterA.of_ascii (isHex_ascii hb)
                obtain ⟨uc, _, huc, rfl, hafterC⟩ := hafterB.of_ascii (isHex_ascii hc)
                obtain ⟨ud, after, hud, rfl, hafterD⟩ := hafterC.of_ascii (isHex_ascii hd)
                obtain ⟨code, hcode⟩ := Option.isSome_iff_exists.mp (hexUnit_isSome.mpr
                  ⟨⟨⟨(hexDigit_same hua).mp ha, (hexDigit_same hub).mp hb⟩,
                    (hexDigit_same huc).mp hc⟩, (hexDigit_same hud).mp hd⟩)
                refine ⟨code, [unit, ua, ub, uc, ud], after, rfl, ?_, hafterD, ?_⟩
                · rw [hu]
                  exact Escaped.code hcode Escaped.nil
                · exact (SameText.ascii (by rw [hletter]; decide) hunit).append
                    ((SameText.ascii (isHex_ascii ha) hua).append
                      ((SameText.ascii (isHex_ascii hb) hub).append
                        ((SameText.ascii (isHex_ascii hc) huc).append
                          (SameText.ascii (isHex_ascii hd) hud))))
            · cases hscan
        · cases hscan
    · split at hscan
      · next hletter =>
          cases hscan
          obtain ⟨unit, after, hunit, rfl, hrest⟩ := h.of_ascii (letters_ascii hletter)
          obtain ⟨code, hcode⟩ := Option.isSome_iff_exists.mp ((letters_same hunit).mp hletter)
          exact ⟨code, [unit], after, rfl, Escaped.short hcode Escaped.nil, hrest,
            SameText.ascii (letters_ascii hletter) hunit⟩
      · cases hscan

/-- What the scan of a string passes spells a content, up to the closing quote. -/
theorem stringTail_sound {bytes inner rest : Bytes} {text : Text} (h : SameText bytes text)
    (hscan : stringTail bytes = some (inner, rest)) :
    ∃ content, StringSplit inner rest text content := by
  induction hlength : bytes.length using Nat.strong_induction_on generalizing bytes text inner with
  | _ n ih =>
    rcases h.eq_or with ⟨rfl, _⟩ | ⟨front, units, bytes', text', hcode, hfront, hrest, rfl, rfl⟩
    · cases hscan
    cases hcode with
    | @ascii byte unit hlt hunit =>
        by_cases hslash : byte = '\\'.toUInt8
        · subst hslash
          rw [List.singleton_append, stringTail_slash] at hscan
          obtain ⟨⟨piece, bytes''⟩, hpiece, hscan⟩ := Option.bind_eq_some_iff.mp hscan
          obtain ⟨⟨inner', _⟩, htail, heq⟩ := Option.map_eq_some_iff.mp hscan
          cases heq
          obtain ⟨code, units, after, rfl, hescaped, hsame, hspelled⟩ := escape_sound hrest hpiece
          have hshort := escape_length hpiece
          rw [List.singleton_append, List.length_cons] at hlength
          obtain ⟨content, hsplit⟩ := ih bytes''.length (by omega) hsame htail rfl
          have hmark : unit = backslash := (same_iff hunit rfl).mp rfl
          rw [hmark]
          exact ⟨_, hsplit.prepend (slash_same.append hspelled) hescaped⟩
        · rw [List.singleton_append, stringTail.eq_def] at hscan
          dsimp only at hscan
          rw [if_neg hslash] at hscan
          split at hscan
          · next hquote =>
              cases hscan
              have hmark : unit = quote := (same_iff hunit rfl).mp hquote
              exact ⟨[], [], text', by rw [hmark]; rfl, Escaped.nil, hrest, hmark ▸ hfront⟩
          · next hquote =>
              split at hscan
              · cases hscan
              · next hcontrol =>
                  obtain ⟨⟨inner', _⟩, htail, heq⟩ := Option.map_eq_some_iff.mp hscan
                  cases heq
                  rw [List.singleton_append, List.length_cons] at hlength
                  obtain ⟨content, hsplit⟩ := ih bytes'.length (by omega) hrest htail rfl
                  refine ⟨_, hsplit.prepend hfront (Escaped.plain ?_ ?_ ?_ Escaped.nil)⟩
                  · exact fun hmark => hquote ((same_iff hunit rfl).mpr hmark)
                  · exact fun hmark => hslash ((same_iff hunit rfl).mpr hmark)
                  · rw [UInt16.le_iff_toNat_le, hunit]
                    exact not_lt.mp hcontrol
    | single hne hhigh hlarge =>
        rw [stringTail_high hhigh] at hscan
        obtain ⟨⟨inner', _⟩, htail, heq⟩ := Option.map_eq_some_iff.mp hscan
        cases heq
        have hpos := List.length_pos_of_ne_nil hne
        rw [List.length_append] at hlength
        obtain ⟨content, hsplit⟩ := ih bytes'.length (by omega) hrest htail rfl
        exact ⟨_, hsplit.prepend hfront (escaped_high hlarge)⟩
    | pair hne hhigh hlarge hlarge' =>
        rw [isHighSurrogate_iff] at hlarge
        rw [isLowSurrogate_iff] at hlarge'
        rw [stringTail_high hhigh] at hscan
        obtain ⟨⟨inner', _⟩, htail, heq⟩ := Option.map_eq_some_iff.mp hscan
        cases heq
        have hpos := List.length_pos_of_ne_nil hne
        rw [List.length_append] at hlength
        obtain ⟨content, hsplit⟩ := ih bytes'.length (by omega) hrest htail rfl
        exact ⟨_, hsplit.prepend hfront
          (escaped_append (escaped_high (by omega)) (escaped_high (by omega)))⟩

theorem hexDigit_ascii {unit : UInt16} (h : (hexDigit? unit).isSome = true) :
    unit.toNat < 0x80 := by
  unfold hexDigit? at h
  simp only [UInt16.le_iff_toNat_le] at h
  have hcodes : (0x39 : UInt16).toNat = 57 ∧ (0x46 : UInt16).toNat = 70 ∧
      (0x66 : UInt16).toNat = 102 := by decide
  split at h
  · omega
  · split at h
    · omega
    · split at h
      · omega
      · cases h

theorem escapes_ascii {letter unit : UInt16} (h : escapes.lookup letter = some unit) :
    letter.toNat < 0x80 ∧ letter ≠ lowerU := by
  have hall : ∀ pair ∈ escapes, pair.1.toNat < 0x80 ∧ pair.1 ≠ lowerU := by
    simp [escapes, lowerU]
  obtain ⟨_, _, hescapes, _⟩ := List.lookup_eq_some_iff.mp h
  exact hall (letter, unit) (by rw [hescapes]; simp)

/-- The letters of an escape are passed as one piece. -/
theorem escape_short {letter unit : UInt16} {bytes : Bytes} {after : Text}
    (hl : escapes.lookup letter = some unit) (h : SameText bytes (letter :: after)) :
    ∃ piece rest, escape bytes = some (piece, rest) ∧ SameText rest after ∧
      SameText piece [letter] := by
  obtain ⟨hascii, hu⟩ := escapes_ascii hl
  obtain ⟨byte, rest, hbyte, rfl, hrest⟩ := h.to_ascii hascii
  have hletter : byte ∈ letters := by
    rw [letters_same hbyte.symm, hl]
    rfl
  have hne : byte ≠ 'u'.toUInt8 := fun heq => hu ((same_iff hbyte.symm rfl).mp heq)
  refine ⟨[byte], rest, ?_, hrest, SameText.ascii (hbyte ▸ hascii) hbyte.symm⟩
  unfold escape
  dsimp only
  rw [if_neg hne, if_pos hletter]

theorem escape_code {a b c d unit : UInt16} {bytes : Bytes} {after : Text}
    (hu : hexUnit? a b c d = some unit) (h : SameText bytes (lowerU :: a :: b :: c :: d :: after)) :
    ∃ piece rest, escape bytes = some (piece, rest) ∧ SameText rest after ∧
      SameText piece [lowerU, a, b, c, d] := by
  obtain ⟨⟨⟨ha, hb⟩, hc⟩, hd⟩ := hexUnit_isSome.mp (Option.isSome_iff_exists.mpr ⟨unit, hu⟩)
  have hascii : lowerU.toNat < 0x80 := by decide
  obtain ⟨byte, _, hbyte, rfl, hafter⟩ := h.to_ascii hascii
  obtain ⟨ba, _, hba, rfl, hafterA⟩ := hafter.to_ascii (hexDigit_ascii ha)
  obtain ⟨bb, _, hbb, rfl, hafterB⟩ := hafterA.to_ascii (hexDigit_ascii hb)
  obtain ⟨bc, _, hbc, rfl, hafterC⟩ := hafterB.to_ascii (hexDigit_ascii hc)
  obtain ⟨bd, rest, hbd, rfl, hrest⟩ := hafterC.to_ascii (hexDigit_ascii hd)
  have hletter : byte = 'u'.toUInt8 := (same_iff hbyte.symm rfl).mpr rfl
  have hhex : (isHex ba && isHex bb && isHex bc && isHex bd) = true := by
    simp only [Bool.and_eq_true]
    exact ⟨⟨⟨(hexDigit_same hba.symm).mpr ha, (hexDigit_same hbb.symm).mpr hb⟩,
      (hexDigit_same hbc.symm).mpr hc⟩, (hexDigit_same hbd.symm).mpr hd⟩
  refine ⟨[byte, ba, bb, bc, bd], rest, ?_, hrest, ?_⟩
  · unfold escape
    dsimp only
    rw [if_pos hletter, if_pos hhex]
  · exact (SameText.ascii (hbyte ▸ hascii) hbyte.symm).append
      ((SameText.ascii (hba ▸ hexDigit_ascii ha) hba.symm).append
        ((SameText.ascii (hbb ▸ hexDigit_ascii hb) hbb.symm).append
          ((SameText.ascii (hbc ▸ hexDigit_ascii hc) hbc.symm).append
            (SameText.ascii (hbd ▸ hexDigit_ascii hd) hbd.symm))))

/-- An escape and what the scan passes after it. -/
theorem stringTail_escape {bytes piece rest inner rest' : Bytes} {units spelled after : Text}
    (hpiece : escape bytes = some (piece, rest)) (hunits : SameText piece units)
    (hscan : stringTail rest = some (inner, rest')) (hrest : SameText rest' after)
    (hinner : SameText inner (spelled ++ [quote])) :
    ∃ inner rest, stringTail ('\\'.toUInt8 :: bytes) = some (inner, rest) ∧ SameText rest after ∧
      SameText inner (backslash :: units ++ spelled ++ [quote]) := by
  refine ⟨'\\'.toUInt8 :: piece ++ inner, rest', ?_, hrest, ?_⟩
  · rw [stringTail_slash, hpiece, Option.bind_some, hscan]
    rfl
  · rw [List.append_assoc]
    exact (slash_same.append hunits).append hinner

/-- The scan of a string passes whatever spells a content. -/
theorem stringTail_complete {content spelled after : Text} {bytes : Bytes}
    (hescaped : Escaped content spelled) (h : SameText bytes (spelled ++ quote :: after)) :
    ∃ inner rest, stringTail bytes = some (inner, rest) ∧ SameText rest after ∧
      SameText inner (spelled ++ [quote]) := by
  induction hlength : spelled.length using Nat.strong_induction_on
    generalizing content spelled bytes with
  | _ n ih =>
    cases hescaped with
    | nil =>
        obtain ⟨byte, rest, hbyte, rfl, hrest⟩ := h.to_ascii (by decide)
        have hquote : byte = '"'.toUInt8 := (same_iff hbyte.symm rfl).mpr rfl
        refine ⟨[byte], rest, ?_, hrest, SameText.ascii (by rw [hbyte]; decide) hbyte.symm⟩
        rw [stringTail.eq_def]
        dsimp only
        rw [if_pos hquote]
    | @plain unit content spelled hq hb hc htail =>
        rw [List.cons_append] at h
        simp only [List.length_cons] at hlength
        rcases h.eq_or with ⟨_, htext⟩ | ⟨front, units, bytes', text', hcode, hfront, hrest, rfl, htext⟩
        · cases htext
        cases hcode with
        | @ascii byte unit' hlt hunit =>
            cases htext
            obtain ⟨inner, rest, hscan, hsame, hinner⟩ := ih spelled.length (by omega) htail hrest rfl
            refine ⟨byte :: inner, rest, ?_, hsame, hfront.append hinner⟩
            have hquote : byte ≠ '"'.toUInt8 := fun heq => hq ((same_iff hunit rfl).mp heq)
            have hslash : byte ≠ '\\'.toUInt8 := fun heq => hb ((same_iff hunit rfl).mp heq)
            rw [UInt16.le_iff_toNat_le, hunit] at hc
            have hcontrol : ¬ byte.toNat < 32 := not_lt.mpr hc
            rw [List.singleton_append, stringTail.eq_def]
            dsimp only
            rw [if_neg hquote, if_neg hcontrol, if_neg hslash, hscan]
            rfl
        | single hne hhigh hlarge =>
            cases htext
            obtain ⟨inner, rest, hscan, hsame, hinner⟩ := ih spelled.length (by omega) htail hrest rfl
            refine ⟨front ++ inner, rest, ?_, hsame, hfront.append hinner⟩
            rw [stringTail_high hhigh, hscan]
            rfl
        | @pair _ high low hne hhigh hlarge hlow =>
            rw [isLowSurrogate_iff] at hlow
            cases spelled with
            | nil =>
                cases htext
                exact absurd hlow (by decide)
            | cons next spelled =>
                cases htext
                simp only [List.length_cons] at hlength
                have hplain : ∃ content', Escaped content' spelled := by
                  cases htail with
                  | plain _ _ _ htail => exact ⟨_, htail⟩
                  | short => exact absurd hlow (by decide)
                  | code => exact absurd hlow (by decide)
                obtain ⟨_, htail'⟩ := hplain
                obtain ⟨inner, rest, hscan, hsame, hinner⟩ :=
                  ih spelled.length (by omega) htail' hrest rfl
                refine ⟨front ++ inner, rest, ?_, hsame, hfront.append hinner⟩
                rw [stringTail_high hhigh, hscan]
                rfl
    | @short letter unit content spelled hl htail =>
        obtain ⟨byte, rest, hbyte, rfl, hrest⟩ := h.to_ascii (by decide)
        obtain rfl : byte = '\\'.toUInt8 := (same_iff hbyte.symm rfl).mpr rfl
        obtain ⟨piece, rest', hpiece, hafter, hunits⟩ := escape_short hl hrest
        simp only [List.length_cons] at hlength
        obtain ⟨inner, _, hscan, hsame, hinner⟩ := ih spelled.length (by omega) htail hafter rfl
        exact stringTail_escape hpiece hunits hscan hsame hinner
    | @code a b c d unit content spelled hu htail =>
        obtain ⟨byte, rest, hbyte, rfl, hrest⟩ := h.to_ascii (by decide)
        obtain rfl : byte = '\\'.toUInt8 := (same_iff hbyte.symm rfl).mpr rfl
        obtain ⟨piece, rest', hpiece, hafter, hunits⟩ := escape_code hu hrest
        simp only [List.length_cons] at hlength
        obtain ⟨inner, _, hscan, hsame, hinner⟩ := ih spelled.length (by omega) htail hafter rfl
        exact stringTail_escape hpiece hunits hscan hsame hinner

/-! ### Numbers -/

theorem isDigit_eq {byte : UInt8} {unit : UInt16} (h : unit.toNat = byte.toNat) :
    isDigit byte = (digit? unit).isSome := by
  have hcodes : ('0'.toUInt8).toNat = 48 ∧ ('9'.toUInt8).toNat = 57 := by decide
  rw [Bool.eq_iff_iff]
  simp only [isDigit, Bool.and_eq_true, decide_eq_true_eq, UInt8.le_iff_toNat_le, hcodes, digit?,
    ← h]
  split
  · next hdigit => simpa using hdigit
  · next hdigit => simpa using hdigit

theorem isDigit_high {byte : UInt8} (h : 0x80 ≤ byte.toNat) : isDigit byte = false := by
  have hcode : ('9'.toUInt8).toNat = 57 := by decide
  rw [Bool.eq_false_iff]
  simp only [isDigit, Ne, Bool.and_eq_true, decide_eq_true_eq, UInt8.le_iff_toNat_le, hcode]
  omega

theorem digit_high {unit : UInt16} (h : 0x80 ≤ unit.toNat) : digit? unit = none := by
  unfold digit?
  rw [dif_neg (by omega)]

/-- The first character of both sides is one ASCII character, or neither starts with one. -/
inductive Heads : Bytes → Text → Prop
  | nil : Heads [] []
  | ascii {byte : UInt8} {unit : UInt16} {bytes : Bytes} {text : Text} : byte.toNat < 0x80 →
      unit.toNat = byte.toNat → SameText bytes text → Heads (byte :: bytes) (unit :: text)
  | high {byte : UInt8} {unit : UInt16} {bytes : Bytes} {text : Text} : 0x80 ≤ byte.toNat →
      0x80 ≤ unit.toNat → Heads (byte :: bytes) (unit :: text)

theorem heads {bytes : Bytes} {text : Text} (h : SameText bytes text) : Heads bytes text := by
  rcases h.eq_or with ⟨rfl, rfl⟩ | ⟨front, units, bytes', text', hcode, _, hrest, rfl, rfl⟩
  · exact Heads.nil
  cases hcode with
  | ascii hlt hunit => exact Heads.ascii hlt hunit hrest
  | single hne hhigh hlarge =>
      obtain ⟨first, others, rfl⟩ := List.exists_cons_of_ne_nil hne
      exact Heads.high (hhigh first List.mem_cons_self) hlarge
  | pair hne hhigh hlarge =>
      obtain ⟨first, others, rfl⟩ := List.exists_cons_of_ne_nil hne
      rw [isHighSurrogate_iff] at hlarge
      exact Heads.high (hhigh first List.mem_cons_self) (by omega)

theorem dropDigits_same {bytes : Bytes} {text : Text} (h : SameText bytes text) :
    SameText (bytes.dropWhile isDigit) (takeDigits text).2 := by
  induction bytes generalizing text with
  | nil =>
      rw [h.bytes_nil]
      exact SameText.nil
  | cons byte bytes ih =>
      cases heads h with
      | @ascii _ unit _ text hlt hunit hrest =>
          rw [takeDigits.eq_def, List.dropWhile_cons, isDigit_eq hunit]
          cases hdigit : digit? unit with
          | none => simpa [hdigit] using h
          | some digit => simpa [hdigit] using ih hrest
      | high hbyte hunit =>
          rw [takeDigits.eq_def, List.dropWhile_cons, isDigit_high hbyte]
          simpa [digit_high hunit] using h

theorem digits_same {bytes : Bytes} {text : Text} (h : SameText bytes text) :
    (∀ rest, digits bytes = some rest →
      (takeDigits text).1 ≠ [] ∧ SameText rest (takeDigits text).2) ∧
    (digits bytes = none → (takeDigits text).1 = []) := by
  cases heads h with
  | nil => exact ⟨fun _ hscan => absurd hscan (Option.some_ne_none _).symm, fun _ => rfl⟩
  | @ascii byte unit bytes text hlt hunit hrest =>
      have hdrop := dropDigits_same hrest
      rw [takeDigits.eq_def]
      cases hdigit : digit? unit with
      | none => simp [digits, isDigit_eq hunit, hdigit]
      | some digit => simpa [digits, isDigit_eq hunit, hdigit] using hdrop
  | high hbyte hunit =>
      rw [takeDigits.eq_def]
      simp [digits, isDigit_high hbyte, digit_high hunit]

theorem dropMinus_same {bytes : Bytes} {text : Text} (h : SameText bytes text) :
    SameText (dropMinus bytes) (readMinus text).2 := by
  cases heads h with
  | nil => exact h
  | @ascii byte unit bytes text hlt hunit hrest =>
      have hminus := same_iff hunit (show minus.toNat = ('-'.toUInt8).toNat from rfl)
      by_cases hunit' : unit = minus
      · simpa [dropMinus, readMinus, hminus, hunit'] using hrest
      · simpa [dropMinus, readMinus, hminus, hunit'] using h
  | @high byte unit bytes text hbyte hunit =>
      have hminus : byte ≠ '-'.toUInt8 := by
        rintro rfl
        exact absurd hbyte (by decide)
      have hminus' : unit ≠ minus := by
        rintro rfl
        exact absurd hunit (by decide)
      simpa [dropMinus, readMinus, hminus, hminus'] using h

theorem whole_same {bytes : Bytes} {text : Text} (h : SameText bytes text) :
    (whole bytes = none ∧ readWhole text = none) ∨
      ∃ rest w after, whole bytes = some rest ∧ readWhole text = some (w, after) ∧
        SameText rest after := by
  cases heads h with
  | nil => exact Or.inl ⟨rfl, rfl⟩
  | @ascii byte unit bytes text hlt hunit hrest =>
      have hzero := same_iff hunit (show (0x30 : UInt16).toNat = ('0'.toUInt8).toNat from rfl)
      cases hdigit : digit? unit with
      | none =>
          have hne : unit ≠ 0x30 := by
            rintro rfl
            exact absurd hdigit (by decide)
          left
          simp [whole, readWhole, takeDigits, hdigit, isDigit_eq hunit, hzero, hne]
      | some digit =>
          have hdigits := digit?_eq_some hdigit
          have hdrop := dropDigits_same hrest
          right
          by_cases hfirst : digit = 0
          · subst hfirst
            have hmark : unit = 0x30 := hdigits
            have hread : readWhole (unit :: text) = some (⟨[0], by simp⟩, text) := by
              simp [readWhole, takeDigits, hdigit]
            exact ⟨bytes, _, text, by simp [whole, hzero, hmark], hread, hrest⟩
          · have hne : unit ≠ 0x30 := by
              intro hmark
              rw [hmark] at hdigit
              exact hfirst (Option.some.inj (hdigit.symm.trans (by decide)))
            have hread : readWhole (unit :: text) =
                some (⟨digit :: (takeDigits text).1, by simp [hfirst]⟩, (takeDigits text).2) := by
              simp [readWhole, takeDigits, hdigit, hfirst]
            exact ⟨_, _, _, by simp [whole, hzero, hne, isDigit_eq hunit, hdigit], hread, hdrop⟩
  | @high byte unit bytes text hbyte hunit =>
      have hzero : byte ≠ '0'.toUInt8 := by
        rintro rfl
        exact absurd hbyte (by decide)
      left
      simp [whole, readWhole, takeDigits, hzero, isDigit_high hbyte, digit_high hunit]

/-- A point without digits stops the scan; the reader leaves it standing. -/
theorem fraction_same {bytes : Bytes} {text : Text} (h : SameText bytes text) :
    (∃ rest, fraction bytes = some rest ∧ SameText rest (readFraction text).2) ∨
      (fraction bytes = none ∧ ∃ after, (readFraction text).2 = point :: after) := by
  cases heads h with
  | nil => exact Or.inl ⟨[], rfl, h⟩
  | @ascii byte unit bytes text hlt hunit hrest =>
      have hpoint := same_iff hunit (show point.toNat = ('.'.toUInt8).toNat from rfl)
      by_cases hmark : unit = point
      · have hscan : fraction (byte :: bytes) = digits bytes := by simp [fraction, hpoint, hmark]
        obtain ⟨hsome, hnone⟩ := digits_same hrest
        cases hdigits : digits bytes with
        | none =>
            right
            refine ⟨hscan.trans hdigits, text, ?_⟩
            have hempty := hnone hdigits
            rw [readFraction.eq_def]
            simp only [hmark, if_true]
            split
            · rfl
            · next hread =>
                rw [hread] at hempty
                cases hempty
        | some rest =>
            left
            obtain ⟨hne, hsame⟩ := hsome rest hdigits
            refine ⟨rest, hscan.trans hdigits, ?_⟩
            rw [readFraction.eq_def]
            simp only [hmark, if_true]
            split
            · next hread =>
                rw [hread] at hne
                exact absurd rfl hne
            · next hread =>
                rw [hread] at hsame
                exact hsame
      · left
        refine ⟨byte :: bytes, by simp [fraction, hpoint, hmark], ?_⟩
        simpa [readFraction, hmark] using h
  | @high byte unit bytes text hbyte hunit =>
      have hpoint : byte ≠ '.'.toUInt8 := by
        rintro rfl
        exact absurd hbyte (by decide)
      have hmark : unit ≠ point := by
        rintro rfl
        exact absurd hunit (by decide)
      left
      refine ⟨byte :: bytes, by simp [fraction, hpoint], ?_⟩
      simpa [readFraction, hmark] using h

theorem dropSign_same {bytes : Bytes} {text : Text} (h : SameText bytes text) :
    SameText (dropSign bytes) (readSign text).2 := by
  cases heads h with
  | nil => exact h
  | @ascii byte unit bytes text hlt hunit hrest =>
      have hplus := same_iff hunit (show plus.toNat = ('+'.toUInt8).toNat from rfl)
      have hminus := same_iff hunit (show minus.toNat = ('-'.toUInt8).toNat from rfl)
      by_cases hone : unit = plus
      · simpa [dropSign, readSign, hplus, hone] using hrest
      · by_cases htwo : unit = minus
        · simpa [dropSign, readSign, hminus, htwo, show minus ≠ plus by decide] using hrest
        · simpa [dropSign, readSign, hplus, hminus, hone, htwo] using h
  | @high byte unit bytes text hbyte hunit =>
      have hmarks : byte ≠ '+'.toUInt8 ∧ byte ≠ '-'.toUInt8 := by
        constructor
        · rintro rfl
          exact absurd hbyte (by decide)
        · rintro rfl
          exact absurd hbyte (by decide)
      have hunits : unit ≠ plus ∧ unit ≠ minus := by
        constructor
        · rintro rfl
          exact absurd hunit (by decide)
        · rintro rfl
          exact absurd hunit (by decide)
      simpa [dropSign, readSign, hmarks, hunits] using h

/-- An exponent mark without digits stops the scan; the reader leaves it standing. -/
theorem exponent_same {bytes : Bytes} {text : Text} (h : SameText bytes text) :
    (∃ rest, exponent bytes = some rest ∧ SameText rest (readExponent text).2) ∨
      (exponent bytes = none ∧ ∃ mark after, (mark = upperE ∨ mark = lowerE) ∧
        (readExponent text).2 = mark :: after) := by
  cases heads h with
  | nil => exact Or.inl ⟨[], rfl, h⟩
  | @ascii byte unit bytes text hlt hunit hrest =>
      have hlower := same_iff hunit (show lowerE.toNat = ('e'.toUInt8).toNat from rfl)
      have hupper := same_iff hunit (show upperE.toNat = ('E'.toUInt8).toNat from rfl)
      by_cases hmark : unit = upperE ∨ unit = lowerE
      · have hscan : exponent (byte :: bytes) = digits (dropSign bytes) := by
          unfold exponent
          dsimp only
          rw [if_pos (by rw [hlower, hupper]; exact hmark.symm)]
        obtain ⟨hsome, hnone⟩ := digits_same (dropSign_same hrest)
        cases hdigits : digits (dropSign bytes) with
        | none =>
            right
            refine ⟨hscan.trans hdigits, unit, text, hmark, ?_⟩
            have hempty := hnone hdigits
            rw [readExponent.eq_def]
            simp only [hmark, if_true]
            split
            · rfl
            · next hread =>
                rw [hread] at hempty
                cases hempty
        | some rest =>
            left
            obtain ⟨hne, hsame⟩ := hsome rest hdigits
            refine ⟨rest, hscan.trans hdigits, ?_⟩
            rw [readExponent.eq_def]
            simp only [hmark, if_true]
            split
            · next hread =>
                rw [hread] at hne
                exact absurd rfl hne
            · next hread =>
                rw [hread] at hsame
                exact hsame
      · left
        refine ⟨byte :: bytes, ?_, ?_⟩
        · unfold exponent
          dsimp only
          rw [if_neg (by rw [hlower, hupper]; exact fun hcase => hmark hcase.symm)]
        · rw [readExponent.eq_def]
          simpa [hmark] using h
  | @high byte unit bytes text hbyte hunit =>
      have hmarks : ¬ (byte = 'e'.toUInt8 ∨ byte = 'E'.toUInt8) := by
        rintro (rfl | rfl) <;> exact absurd hbyte (by decide)
      have hunits : ¬ (unit = upperE ∨ unit = lowerE) := by
        rintro (rfl | rfl) <;> exact absurd hunit (by decide)
      left
      refine ⟨byte :: bytes, ?_, ?_⟩
      · unfold exponent
        dsimp only
        rw [if_neg hmarks]
      · rw [readExponent.eq_def]
        simpa [hunits] using h

/-- What the scan of a number passes is a number token. -/
theorem number_sound {bytes rest : Bytes} {text : Text} (h : SameText bytes text)
    (hscan : number bytes = some rest) :
    ∃ (token : NumberToken) (after : Text), text = token.text ++ after ∧ SameText rest after := by
  obtain ⟨first, hwhole, hscan⟩ := Option.bind_eq_some_iff.mp hscan
  obtain ⟨second, hfraction, hexponent⟩ := Option.bind_eq_some_iff.mp hscan
  rcases whole_same (dropMinus_same h) with ⟨hnone, _⟩ | ⟨_, w, after, hsome, hread, hsame⟩
  · exact absurd (hnone.symm.trans hwhole) (by simp)
  obtain rfl := Option.some.inj (hsome.symm.trans hwhole)
  rcases fraction_same hsame with ⟨_, hsome, hsame⟩ | ⟨hnone, _⟩
  · obtain rfl := Option.some.inj (hsome.symm.trans hfraction)
    rcases exponent_same hsame with ⟨_, hsome, hsame⟩ | ⟨hnone, _⟩
    · obtain rfl := Option.some.inj (hsome.symm.trans hexponent)
      have hnumber : ∃ token, readNumber text =
          some (token, (readExponent (readFraction after).2).2) := by
        simp [readNumber, hread]
      obtain ⟨token, htoken⟩ := hnumber
      exact ⟨token, _, readNumber_text htoken, hsame⟩
    · exact absurd (hnone.symm.trans hexponent) (by simp)
  · exact absurd (hnone.symm.trans hfraction) (by simp)

/-- The scan of a number passes every number token that nothing continues. -/
theorem number_complete {bytes : Bytes} {token : NumberToken} {after : Text}
    (h : SameText bytes (token.text ++ after)) (hends : NumberEnds after) :
    ∃ rest, number bytes = some rest ∧ SameText rest after := by
  have hread := readNumber_append token hends
  obtain ⟨⟨w, first⟩, hwhole, hpair⟩ := Option.map_eq_some_iff.mp hread
  have hafter : (readExponent (readFraction first).2).2 = after := (Prod.mk.inj hpair).2
  rcases whole_same (dropMinus_same h) with ⟨_, hnone⟩ | ⟨rest, _, _, hscan, hsome, hsame⟩
  · exact absurd (hnone.symm.trans hwhole) (by simp)
  cases hsome.symm.trans hwhole
  rcases fraction_same hsame with ⟨second, hfraction, hsame⟩ | ⟨_, tail, hstand⟩
  · rcases exponent_same hsame with ⟨third, hexponent, hsame⟩ | ⟨_, mark, tail, hmark, hstand⟩
    · refine ⟨third, ?_, hafter ▸ hsame⟩
      rw [number, hscan, Option.bind_some, hfraction, Option.bind_some, hexponent]
    · rw [hstand] at hafter
      have hclear := hends mark (by rw [← hafter]; rfl)
      rcases hmark with rfl | rfl
      · exact absurd rfl hclear.2.2.1
      · exact absurd rfl hclear.2.2.2
  · have hpoint : (readExponent (readFraction first).2).2 = point :: tail := by
      rw [hstand, readExponent.eq_def]
      simp [show point ≠ upperE by decide, show point ≠ lowerE by decide]
    rw [hpoint] at hafter
    exact absurd rfl (hends point (by rw [← hafter]; rfl)).2.1

/-! ### Literal names -/

/-- An ASCII character as a byte and as a code unit. -/
theorem char_codes {c : Char} (h : c.toNat < 0x80) :
    c.toUInt8.toNat = c.toNat ∧ (c.toNat.toUInt16).toNat = c.toNat := by
  have hval : c.val.toNat = c.toNat := rfl
  constructor
  · rw [Char.toUInt8, UInt32.toNat_toUInt8, hval]
    omega
  · rw [Nat.toUInt16, UInt16.toNat_ofNat']
    omega

/-- A name in front of the bytes is in front of the text. -/
theorem name_sound {chars : List Char} (hchars : ∀ c ∈ chars, c.toNat < 0x80) {rest : Bytes}
    {text : Text} (h : SameText (chars.map Char.toUInt8 ++ rest) text) :
    ∃ after, text = units chars ++ after ∧ SameText rest after := by
  induction chars generalizing text with
  | nil => exact ⟨text, rfl, h⟩
  | cons c chars ih =>
      have hc := hchars c List.mem_cons_self
      obtain ⟨hbyte, hunit⟩ := char_codes hc
      obtain ⟨unit, text', hsame, rfl, htail⟩ := h.of_ascii (by rw [hbyte]; exact hc)
      obtain ⟨after, rfl, hafter⟩ := ih (fun d hd => hchars d (List.mem_cons_of_mem _ hd)) htail
      have hmark : unit = c.toNat.toUInt16 := by
        rw [← UInt16.toNat_inj, hsame, hbyte, hunit]
      exact ⟨after, by rw [hmark]; rfl, hafter⟩

/-- A name in front of the text is in front of the bytes. -/
theorem name_complete {chars : List Char} (hchars : ∀ c ∈ chars, c.toNat < 0x80) {bytes : Bytes}
    {after : Text} (h : SameText bytes (units chars ++ after)) :
    ∃ rest, bytes = chars.map Char.toUInt8 ++ rest ∧ SameText rest after := by
  induction chars generalizing bytes with
  | nil => exact ⟨bytes, rfl, h⟩
  | cons c chars ih =>
      have hc := hchars c List.mem_cons_self
      obtain ⟨hbyte, hunit⟩ := char_codes hc
      rw [units, List.map_cons, List.cons_append] at h
      obtain ⟨byte, bytes', hsame, rfl, htail⟩ := h.to_ascii (by rw [hunit]; exact hc)
      obtain ⟨rest, rfl, hrest⟩ := ih (fun d hd => hchars d (List.mem_cons_of_mem _ hd)) htail
      have hmark : byte = c.toUInt8 := by
        rw [← UInt8.toNat_inj, hsame, hbyte, hunit]
      exact ⟨rest, by rw [hmark]; rfl, hrest⟩

/-- The trees of the literal names. -/
inductive LiteralTree : JsonTree NumberToken .value → List Char → Prop
  | yes : LiteralTree (.boolean true) ['t', 'r', 'u', 'e']
  | no : LiteralTree (.boolean false) ['f', 'a', 'l', 's', 'e']
  | null : LiteralTree .null ['n', 'u', 'l', 'l']

theorem LiteralTree.facts {tree : JsonTree NumberToken .value} {name : List Char}
    (h : LiteralTree tree name) : (∀ c ∈ name, c.toNat < 0x80) ∧ Spells tree (units name) ∧
      tree.depth = 0 ∧ tree.Distinct := by
  cases h with
  | yes => exact ⟨by simp, Spells.boolean true, rfl, trivial⟩
  | no => exact ⟨by simp, Spells.boolean false, rfl, trivial⟩
  | null => exact ⟨by simp, Spells.null, rfl, trivial⟩

theorem literal_eq_some {bytes rest : Bytes} (h : literal bytes = some rest) :
    ∃ tree name, LiteralTree tree name ∧ bytes = name.map Char.toUInt8 ++ rest := by
  obtain ⟨name, hmem, h⟩ := List.exists_of_findSome?_eq_some h
  rw [Option.ite_none_right_eq_some, List.isPrefixOf_iff_prefix] at h
  obtain ⟨⟨tail, rfl⟩, h⟩ := h
  rw [List.drop_left, Option.some.injEq] at h
  subst h
  simp only [literals, List.map_cons, List.map_nil, List.mem_cons, List.not_mem_nil, or_false]
    at hmem
  rcases hmem with rfl | rfl | rfl
  · exact ⟨_, _, LiteralTree.yes, rfl⟩
  · exact ⟨_, _, LiteralTree.no, rfl⟩
  · exact ⟨_, _, LiteralTree.null, rfl⟩

theorem literal_of_tree {tree : JsonTree NumberToken .value} {name : List Char} (rest : Bytes)
    (h : LiteralTree tree name) : literal (name.map Char.toUInt8 ++ rest) = some rest := by
  cases h <;> rfl

end StrictJson

end FlickrGroupAddr
