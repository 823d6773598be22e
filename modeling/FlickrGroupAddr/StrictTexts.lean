import FlickrGroupAddr.StrictTokens

/-!
# Strict JSON texts

What the scanner of values passes is a value of the grammar within the levels, and every
such value is passed.  With the check of the bytes and the walk over the decoded value this
says which byte strings `decode` accepts, and what it returns.
-/

namespace FlickrGroupAddr

set_option autoImplicit false

open JsonText

namespace StrictJson

/-! ### What is passed is spelled -/

section Sound

variable {json : Decoder}

theorem quote_same : SameText ['"'.toUInt8] [quote] := SameText.ascii (by decide) (by decide)

/-- A key is decoded to the string of its content. -/
theorem decodedKey_eq (hjson : json.Correct) {rawKey : Bytes} {content spelled : Text}
    (h : SameText rawKey (quote :: (spelled ++ [quote]))) (hescaped : Escaped content spelled) :
    decodedKey json rawKey = some (luaString content) := by
  have hdocument : Document (.text content) (quote :: (spelled ++ [quote])) := by
    refine ⟨[], _, [], ?_, Spells.text hescaped, ?_, ?_⟩
    · simp [Blank]
    · simp [Blank]
    · simp
  obtain ⟨position, hdecode, _⟩ := hjson _ _ _ h hdocument (by simp [JsonTree.depth]) trivial
  rw [denote] at hdecode
  rw [decodedKey, hdecode]

/-- The text after white space, with its first character. -/
theorem white_cons {bytes rest : Bytes} {text : Text} {current : UInt8} (h : SameText bytes text)
    (hwhite : white bytes = current :: rest) (hascii : current.toNat < 0x80) :
    ∃ before unit after, Blank before ∧ text = before ++ unit :: after ∧
      unit.toNat = current.toNat ∧ SameText rest after := by
  obtain ⟨before, hblank, htext, _⟩ := exists_blank text
  have hsame := white_same h
  rw [hwhite] at hsame
  obtain ⟨unit, after, hunit, hskip, hrest⟩ := hsame.of_ascii hascii
  exact ⟨before, unit, after, hblank, by rw [← hskip]; exact htext, hunit, hrest⟩

/-- White space in front of items or members belongs to them. -/
theorem spells_blank {part : Part} {tree : JsonTree NumberToken part} {before body : Text}
    (hb : Blank before) (h : Spells tree body) (hpart : part ≠ .value) :
    Spells tree (before ++ body) := by
  have hjoin : ∀ {blank : Text}, Blank blank → Blank (before ++ blank) := by
    intro blank hblank unit hunit
    rcases List.mem_append.mp hunit with hmem | hmem
    · exact hb unit hmem
    · exact hblank unit hmem
  cases h with
  | lastItem hblank hhead hafter =>
      rw [← List.append_assoc]
      exact Spells.lastItem (hjoin hblank) hhead hafter
  | item hblank hhead hafter htail =>
      rw [← List.append_assoc]
      exact Spells.item (hjoin hblank) hhead hafter htail
  | lastMember hblank hname hmiddle hbefore hhead hafter =>
      rw [← List.append_assoc]
      exact Spells.lastMember (hjoin hblank) hname hmiddle hbefore hhead hafter
  | member hblank hname hmiddle hbefore hhead hafter htail =>
      rw [← List.append_assoc]
      exact Spells.member (hjoin hblank) hname hmiddle hbefore hhead hafter htail
  | _ => exact absurd rfl hpart

/-- What the scan of a value passes is spelled, within the levels. -/
def ValueSound (scan : Bytes → Option Bytes) (levels : Nat) : Prop :=
  ∀ {bytes : Bytes} {text : Text} {rest : Bytes}, SameText bytes text → scan bytes = some rest →
    ∃ (tree : JsonTree NumberToken .value) (before spelled after : Text),
      text = before ++ (spelled ++ after) ∧ Blank before ∧ Spells tree spelled ∧
        SameText rest after ∧ tree.depth < levels ∧ tree.Distinct

theorem items_sound {scan : Bytes → Option Bytes} {levels rounds : Nat}
    (hvalue : ValueSound scan levels) {bytes rest : Bytes} {text : Text} (h : SameText bytes text)
    (hscan : items scan rounds bytes = some rest) :
    ∃ (tree : JsonTree NumberToken .items) (body after : Text),
      text = body ++ closeBracket :: after ∧ Spells tree body ∧ SameText rest after ∧
        tree.depth ≤ levels ∧ tree.Distinct := by
  induction rounds generalizing bytes text with
  | zero => cases hscan
  | succ rounds ih =>
      obtain ⟨middle, hhead, hscan⟩ := Option.bind_eq_some_iff.mp hscan
      obtain ⟨head, before, spelled, after, rfl, hbefore, hspells, hsame, hdepth, hdistinct⟩ :=
        hvalue h hhead
      split at hscan
      · cases hscan
      · next current tail hwhite =>
          split at hscan
          · next hclose =>
              cases hscan
              obtain ⟨blank, unit, rest', hblank, rfl, hunit, hrest⟩ :=
                white_cons hsame hwhite (by rw [hclose]; decide)
              have hmark : unit = closeBracket := (same_iff hunit rfl).mp hclose
              refine ⟨.item head .noItems, before ++ (spelled ++ blank), rest', ?_,
                Spells.lastItem hbefore hspells hblank, hrest, ?_, hdistinct, trivial⟩
              · rw [hmark]
                simp
              · simp only [JsonTree.depth]
                omega
          · split at hscan
            · next hcomma =>
                obtain ⟨blank, unit, rest', hblank, rfl, hunit, hrest⟩ :=
                  white_cons hsame hwhite (by rw [hcomma]; decide)
                have hmark : unit = comma := (same_iff hunit rfl).mp hcomma
                obtain ⟨others, body, last, hbody, hothers, hlast, hdeep, hdistinct'⟩ :=
                  ih (white_same hrest) hscan
                obtain ⟨space, hspace, hsplit, _⟩ := exists_blank rest'
                refine ⟨.item head others, before ++ (spelled ++ (blank ++ comma :: (space ++ body))),
                  last, ?_, Spells.item hbefore hspells hblank (spells_blank hspace hothers (by simp)),
                  hlast, ?_, hdistinct, hdistinct'⟩
                · rw [hmark, hsplit, hbody]
                  simp
                · simp only [JsonTree.depth]
                  omega
            · cases hscan

theorem members_sound (hjson : json.Correct) {scan : Bytes → Option Bytes} {levels rounds : Nat}
    (hvalue : ValueSound scan levels) {keys : List Bytes} {bytes rest : Bytes} {text : Text}
    (h : SameText bytes text) (hscan : members json scan rounds keys bytes = some rest) :
    ∃ (tree : JsonTree NumberToken .members) (body after : Text),
      text = body ++ closeBrace :: after ∧ Spells tree body ∧ SameText rest after ∧
        tree.depth ≤ levels ∧ tree.Distinct ∧ tree.names.Nodup ∧
        ∀ name ∈ tree.names, luaString name ∉ keys := by
  induction rounds generalizing keys bytes text with
  | zero => cases hscan
  | succ rounds ih =>
      obtain ⟨⟨rawKey, middle⟩, hkey, hscan⟩ := Option.bind_eq_some_iff.mp hscan
      obtain ⟨key, hdecoded, hscan⟩ := Option.bind_eq_some_iff.mp hscan
      -- the key
      cases bytes with
      | nil => cases hkey
      | cons byte bytes =>
      obtain ⟨hquote, hkey⟩ := Option.ite_none_right_eq_some.mp hkey
      obtain ⟨⟨inner, _⟩, htail, hpair⟩ := Option.map_eq_some_iff.mp hkey
      cases hpair
      obtain ⟨unit, text', hunit, rfl, hafter⟩ := h.of_ascii (by rw [hquote]; decide)
      have hmark : unit = quote := (same_iff hunit rfl).mp hquote
      obtain ⟨name, written, after, rfl, hescaped, hsame, hinner⟩ := stringTail_sound hafter htail
      have hraw : SameText (byte :: inner) (quote :: (written ++ [quote])) := by
        rw [hquote]
        exact quote_same.append hinner
      rw [decodedKey_eq hjson hraw hescaped, Option.some.injEq] at hdecoded
      subst hdecoded
      split at hscan
      · cases hscan
      next hfresh =>
      -- the colon and the value
      split at hscan
      · cases hscan
      next colonByte tail hwhite =>
      split at hscan
      · cases hscan
      next hcolon =>
      rw [not_not] at hcolon
      obtain ⟨middleBlank, colonUnit, after', hmiddle, rfl, hcolonUnit, hrest⟩ :=
        white_cons hsame hwhite (by rw [hcolon]; decide)
      have hcolonMark : colonUnit = colon := (same_iff hcolonUnit rfl).mp hcolon
      obtain ⟨last, hhead, hscan⟩ := Option.bind_eq_some_iff.mp hscan
      obtain ⟨head, before, spelled, afterHead, rfl, hbefore, hspells, hsame', hdepth, hdistinct⟩ :=
        hvalue hrest hhead
      split at hscan
      · cases hscan
      next endByte tail' hwhite' =>
      split at hscan
      · next hclose =>
          cases hscan
          obtain ⟨blank, endUnit, rest', hblank, rfl, hendUnit, hend⟩ :=
            white_cons hsame' hwhite' (by rw [hclose]; decide)
          have hendMark : endUnit = closeBrace := (same_iff hendUnit rfl).mp hclose
          have hstart : Blank ([] : Text) := by simp [Blank]
          refine ⟨.member name head .noMembers, _, rest', ?_,
            Spells.lastMember hstart hescaped hmiddle hbefore hspells hblank, hend, ?_,
            ⟨hdistinct, trivial⟩, ?_, ?_⟩
          · rw [hmark, hcolonMark, hendMark]
            simp
          · simp only [JsonTree.depth]
            omega
          · simp [JsonTree.names]
          · simpa [JsonTree.names] using hfresh
      · split at hscan
        · next hcomma =>
            obtain ⟨blank, endUnit, rest', hblank, rfl, hendUnit, hend⟩ :=
              white_cons hsame' hwhite' (by rw [hcomma]; decide)
            have hendMark : endUnit = comma := (same_iff hendUnit rfl).mp hcomma
            obtain ⟨others, body, final, hbody, hothers, hfinal, hdeep, hdistinct', hnodup, hkeys⟩ :=
              ih (white_same hend) hscan
            obtain ⟨space, hspace, hsplit, _⟩ := exists_blank rest'
            have hstart : Blank ([] : Text) := by simp [Blank]
            have hnew : name ∉ others.names := by
              intro hmem
              exact hkeys name hmem List.mem_cons_self
            refine ⟨.member name head others, _, final, ?_,
              Spells.member hstart hescaped hmiddle hbefore hspells hblank
                (spells_blank hspace hothers (by simp)), hfinal, ?_, ⟨hdistinct, hdistinct'⟩, ?_, ?_⟩
            · rw [hmark, hcolonMark, hendMark, hsplit, hbody]
              simp
            · simp only [JsonTree.depth]
              omega
            · rw [JsonTree.names]
              exact List.nodup_cons.mpr ⟨hnew, hnodup⟩
            · intro other hother
              rw [JsonTree.names] at hother
              rcases List.mem_cons.mp hother with rfl | hmem
              · exact hfresh
              · exact fun hold => hkeys other hmem (List.mem_cons_of_mem _ hold)
        · cases hscan

theorem value_sound (hjson : json.Correct) (levels : Nat) :
    ValueSound (value json levels) levels := by
  induction levels with
  | zero =>
      intro bytes text rest h hscan
      cases hscan
  | succ levels ih =>
      intro bytes text rest h hscan
      obtain ⟨before, hbefore, htext, _⟩ := exists_blank text
      have hsame := white_same h
      generalize skipSpace text = inked at htext hsame
      subst htext
      unfold value at hscan
      split at hscan
      · cases hscan
      next current tail hwhite =>
      rw [hwhite] at hsame
      split at hscan
      · next hquote =>
          -- a string
          obtain ⟨unit, text', hunit, rfl, hrest⟩ := hsame.of_ascii (by rw [hquote]; decide)
          have hmark : unit = quote := (same_iff hunit rfl).mp hquote
          obtain ⟨⟨inner, _⟩, htail, hpair⟩ := Option.map_eq_some_iff.mp hscan
          cases hpair
          obtain ⟨content, spelled, after, rfl, hescaped, hafter, _⟩ := stringTail_sound hrest htail
          refine ⟨.text content, before, _, after, ?_, hbefore, Spells.text hescaped, hafter, ?_,
            trivial⟩
          · rw [hmark]
            simp
          · simp [JsonTree.depth]
      · split at hscan
        · next hbrace =>
            -- an object
            obtain ⟨unit, text', hunit, rfl, hrest⟩ := hsame.of_ascii (by rw [hbrace]; decide)
            have hmark : unit = openBrace := (same_iff hunit rfl).mp hbrace
            split at hscan
            · cases hscan
            next next after hnext =>
            split at hscan
            · next hclose =>
                cases hscan
                obtain ⟨blank, endUnit, text'', hblank, rfl, hend, hafter⟩ :=
                  white_cons hrest hnext (by rw [hclose]; decide)
                have hendMark : endUnit = closeBrace := (same_iff hend rfl).mp hclose
                refine ⟨.object .noMembers, before, _, text'', ?_, hbefore,
                  Spells.emptyObject hblank, hafter, ?_, by simp [JsonTree.names], trivial⟩
                · rw [hmark, hendMark]
                  simp
                · simp [JsonTree.depth]
            · obtain ⟨space, hspace, hsplit, _⟩ := exists_blank text'
              have hinner := white_same hrest
              rw [hnext] at hinner
              obtain ⟨tree, body, final, hbody, hspells, hfinal, hdeep, hdistinct, hnodup, _⟩ :=
                members_sound hjson ih hinner hscan
              refine ⟨.object tree, before, _, final, ?_, hbefore,
                Spells.object (spells_blank hspace hspells (by simp)), hfinal, ?_, hnodup, hdistinct⟩
              · rw [hmark, hsplit, hbody]
                simp
              · simp only [JsonTree.depth]
                omega
        · split at hscan
          · next hbracket =>
              -- an array
              obtain ⟨unit, text', hunit, rfl, hrest⟩ := hsame.of_ascii (by rw [hbracket]; decide)
              have hmark : unit = openBracket := (same_iff hunit rfl).mp hbracket
              split at hscan
              · cases hscan
              next next after hnext =>
              split at hscan
              · next hclose =>
                  cases hscan
                  obtain ⟨blank, endUnit, text'', hblank, rfl, hend, hafter⟩ :=
                    white_cons hrest hnext (by rw [hclose]; decide)
                  have hendMark : endUnit = closeBracket := (same_iff hend rfl).mp hclose
                  refine ⟨.array .noItems, before, _, text'', ?_, hbefore,
                    Spells.emptyArray hblank, hafter, ?_, trivial⟩
                  · rw [hmark, hendMark]
                    simp
                  · simp [JsonTree.depth]
              · obtain ⟨space, hspace, hsplit, _⟩ := exists_blank text'
                have hinner := white_same hrest
                rw [hnext] at hinner
                obtain ⟨tree, body, final, hbody, hspells, hfinal, hdeep, hdistinct⟩ :=
                  items_sound ih hinner hscan
                refine ⟨.array tree, before, _, final, ?_, hbefore,
                  Spells.array (spells_blank hspace hspells (by simp)), hfinal, ?_, hdistinct⟩
                · rw [hmark, hsplit, hbody]
                  simp
                · simp only [JsonTree.depth]
                  omega
          · -- a literal name or a number
            split at hscan
            · next text' hliteral =>
                cases hscan
                obtain ⟨tree, name, htree, hname⟩ := literal_eq_some hliteral
                obtain ⟨hascii, hspells, hdepth, hdistinct⟩ := htree.facts
                rw [hname] at hsame
                obtain ⟨after, rfl, hafter⟩ := name_sound hascii hsame
                exact ⟨tree, before, _, after, rfl, hbefore, hspells, hafter, by omega, hdistinct⟩
            · obtain ⟨token, after, rfl, hafter⟩ := number_sound hsame hscan
              exact ⟨.number token, before, _, after, rfl, hbefore, Spells.number token, hafter,
                by simp [JsonTree.depth], trivial⟩

end Sound

/-! ### What is spelled is passed -/

section Complete

variable {json : Decoder}

/-- Skipping white space does not make a text longer. -/
theorem length_skipSpace_le (text : Text) : (skipSpace text).length ≤ text.length := by
  obtain ⟨before, _, htext, _⟩ := exists_blank text
  have hlength := congrArg List.length htext
  rw [List.length_append] at hlength
  omega

theorem skipSpace_cons {before text : Text} {unit : UInt16} (hb : Blank before)
    (hunit : isSpace unit = false) : skipSpace (before ++ unit :: text) = unit :: text := by
  rw [skipSpace_append hb, skipSpace_of_inked]
  simpa [Inked] using hunit

/-- After white space the bytes have the character that the text has. -/
theorem white_mark {bytes : Bytes} {before after : Text} (current : UInt8) {mark : UInt16}
    (h : SameText bytes (before ++ mark :: after)) (hb : Blank before) (hmark : isSpace mark = false)
    (hcode : mark.toNat = current.toNat) (hascii : mark.toNat < 0x80) :
    ∃ rest, white bytes = current :: rest ∧ SameText rest after := by
  have hsame := white_same h
  rw [skipSpace_cons hb hmark] at hsame
  obtain ⟨byte, rest, hbyte, hwhite, hrest⟩ := hsame.to_ascii hascii
  have hcurrent : byte = current := UInt8.toNat_inj.mp (hbyte.trans hcode)
  exact ⟨rest, hcurrent ▸ hwhite, hrest⟩

/-- A text takes at least as many bytes as it has code units. -/
theorem length_le {bytes : Bytes} {text : Text} (h : SameText bytes text) :
    text.length ≤ bytes.length := by
  obtain ⟨chars, rfl, rfl⟩ := h
  induction chars with
  | nil => simp
  | cons c chars ih =>
      have hchar := length_encodeChar_le c
      rw [← String.length_utf8EncodeChar] at hchar
      simp only [utf8_cons, utf16_cons, List.length_append]
      omega

/-- No name is the start of a number. -/
theorem literal_number {bytes : Bytes} {token : NumberToken} {after : Text}
    (h : SameText bytes (token.text ++ after)) : literal bytes = none := by
  rw [Option.eq_none_iff_forall_ne_some]
  intro rest hliteral
  obtain ⟨tree, name, htree, rfl⟩ := literal_eq_some hliteral
  obtain ⟨after', htext, _⟩ := name_sound htree.facts.1 h
  have hname : Dialect.readName (ν := NumberToken) (units name ++ after') = none := by
    rw [← htext, Dialect.readName_number]
  cases htree <;> simp [Dialect.readName, booleanName, nullName, units, dropName] at hname

/-- The strings of a tree have no half of a surrogate pair alone, and no object a name twice. -/
structure Admitted {part : Part} (tree : JsonTree NumberToken part) : Prop where
  distinct : tree.Distinct
  paired : ∀ content ∈ tree.texts, hasLoneSurrogate content = false

theorem Admitted.item {head : JsonTree NumberToken .value} {tail : JsonTree NumberToken .items}
    (h : Admitted (.item head tail)) : Admitted head ∧ Admitted tail := by
  constructor
  · exact ⟨h.distinct.1, fun content hmem => h.paired content (List.mem_append_left _ hmem)⟩
  · exact ⟨h.distinct.2, fun content hmem => h.paired content (List.mem_append_right _ hmem)⟩

theorem Admitted.member {name : Text} {head : JsonTree NumberToken .value}
    {tail : JsonTree NumberToken .members} (h : Admitted (.member name head tail)) :
    hasLoneSurrogate name = false ∧ Admitted head ∧ Admitted tail := by
  refine ⟨h.paired name List.mem_cons_self, ⟨h.distinct.1, ?_⟩, ⟨h.distinct.2, ?_⟩⟩
  · intro content hmem
    exact h.paired content (List.mem_cons_of_mem _ (List.mem_append_left _ hmem))
  · intro content hmem
    exact h.paired content (List.mem_cons_of_mem _ (List.mem_append_right _ hmem))

/-- The names of an object are among its strings. -/
theorem mem_texts_of_mem_names {name : Text} : ∀ {tree : JsonTree NumberToken .members},
    name ∈ tree.names → name ∈ tree.texts
  | .noMembers, h => by simp [JsonTree.names] at h
  | .member first head tail, h => by
      rw [JsonTree.names] at h
      rw [JsonTree.texts]
      rcases List.mem_cons.mp h with rfl | hmem
      · exact List.mem_cons_self
      · exact List.mem_cons_of_mem _ (List.mem_append_right _ (mem_texts_of_mem_names hmem))

/-- What is spelled is passed, by a scan with enough levels and enough rounds. -/
def Passes (json : Decoder) : {part : Part} → JsonTree NumberToken part → Text → Prop
  | .value, tree, spelled =>
    ∀ (levels : Nat) (before : Text) {bytes : Bytes} {after : Text}, tree.depth < levels →
      Admitted tree → Blank before → NumberEnds after → SameText bytes (before ++ (spelled ++ after)) →
        ∃ rest, value json levels bytes = some rest ∧ SameText rest after
  | .items, tree, body =>
    ∀ (levels rounds : Nat) {bytes : Bytes} {after : Text}, tree.depth ≤ levels → Admitted tree →
      (skipSpace (body ++ closeBracket :: after)).length ≤ rounds →
      SameText bytes (skipSpace (body ++ closeBracket :: after)) →
        ∃ rest, items (value json levels) rounds bytes = some rest ∧ SameText rest after
  | .members, tree, body =>
    ∀ (levels rounds : Nat) (keys : List Bytes) {bytes : Bytes} {after : Text},
      tree.depth ≤ levels → Admitted tree → tree.names.Nodup →
      (∀ name ∈ tree.names, luaString name ∉ keys) →
      (skipSpace (body ++ closeBrace :: after)).length ≤ rounds →
      SameText bytes (skipSpace (body ++ closeBrace :: after)) →
        ∃ rest, members json (value json levels) rounds keys bytes = some rest ∧
          SameText rest after

/-- A value that starts with none of the opening marks is a name or a number. -/
theorem value_scalar {levels : Nat} {bytes rest : Bytes} {current : UInt8}
    (hwhite : white bytes = current :: rest) (hquote : current ≠ '"'.toUInt8)
    (hbrace : current ≠ '{'.toUInt8) (hbracket : current ≠ '['.toUInt8) :
    value json (levels + 1) bytes =
      (literal (current :: rest)).or (number (current :: rest)) := by
  rw [value, hwhite]
  dsimp only
  rw [if_neg hquote, if_neg hbrace, if_neg hbracket]
  cases literal (current :: rest) <;> rfl

/-- A value in brackets is an array. -/
theorem value_bracket {levels : Nat} {bytes inner rest : Bytes} {next : UInt8}
    (hopen : white bytes = '['.toUInt8 :: inner) (hnext : white inner = next :: rest) :
    value json (levels + 1) bytes =
      if next = ']'.toUInt8 then some rest
      else items (value json levels) (next :: rest).length (next :: rest) := by
  rw [value, hopen]
  dsimp only
  rw [if_neg (by decide), if_neg (by decide), if_pos rfl, hnext]
  rfl

/-- A value in braces is an object. -/
theorem value_brace {levels : Nat} {bytes inner rest : Bytes} {next : UInt8}
    (hopen : white bytes = '{'.toUInt8 :: inner) (hnext : white inner = next :: rest) :
    value json (levels + 1) bytes =
      if next = '}'.toUInt8 then some rest
      else members json (value json levels) (next :: rest).length [] (next :: rest) := by
  rw [value, hopen]
  dsimp only
  rw [if_neg (by decide), if_pos rfl, hnext]
  rfl

theorem exists_level {depth levels : Nat} (h : depth < levels) : ∃ fewer, levels = fewer + 1 :=
  Nat.exists_eq_add_one_of_ne_zero (Nat.ne_of_gt (Nat.zero_lt_of_lt h))

theorem passes_name {tree : JsonTree NumberToken .value} {name : List Char}
    (htree : LiteralTree tree name) : Passes json tree (units name) := by
  intro levels before bytes after hdepth _ hb _ hsame
  obtain ⟨levels, rfl⟩ := exists_level hdepth
  have hinked : skipSpace (before ++ (units name ++ after)) = units name ++ after := by
    rw [skipSpace_append hb, skipSpace_of_inked]
    cases htree <;> simp [Inked, units, isSpace]
  have hwhite := white_same hsame
  rw [hinked] at hwhite
  obtain ⟨rest, hbytes, hrest⟩ := name_complete htree.facts.1 hwhite
  refine ⟨rest, ?_, hrest⟩
  have hliteral := literal_of_tree rest htree
  rw [← hbytes] at hliteral
  have hfirst : ∃ current tail, name.map Char.toUInt8 ++ rest = current :: tail ∧
      current ≠ '"'.toUInt8 ∧ current ≠ '{'.toUInt8 ∧ current ≠ '['.toUInt8 := by
    cases htree <;> exact ⟨_, _, rfl, by decide, by decide, by decide⟩
  obtain ⟨current, tail, hcons, hquote, hbrace, hbracket⟩ := hfirst
  rw [hcons] at hbytes
  rw [value_scalar hbytes hquote hbrace hbracket, ← hbytes, hliteral, Option.some_or]

theorem digitUnit_ascii (digit : Digit) :
    isSpace (digitUnit digit) = false ∧ (digitUnit digit).toNat < 0x80 ∧ digitUnit digit ≠ quote ∧
      digitUnit digit ≠ openBrace ∧ digitUnit digit ≠ openBracket := by
  revert digit
  decide

theorem passes_number (token : NumberToken) : Passes json (.number token) token.text := by
  intro levels before bytes after hdepth _ hb hends hsame
  obtain ⟨levels, rfl⟩ := exists_level hdepth
  obtain ⟨unit, tail, htext, hunit⟩ := token.text_eq_cons
  have hfacts : isSpace unit = false ∧ unit.toNat < 0x80 ∧ unit ≠ quote ∧ unit ≠ openBrace ∧
      unit ≠ openBracket := by
    rcases hunit with rfl | ⟨digit, rfl⟩
    · decide
    · exact digitUnit_ascii digit
  obtain ⟨hspace, hascii, hquote, hbrace, hbracket⟩ := hfacts
  have hstart : skipSpace (before ++ (token.text ++ after)) = token.text ++ after := by
    rw [htext, List.cons_append, skipSpace_cons hb hspace]
  have hwhite := white_same hsame
  rw [hstart] at hwhite
  obtain ⟨rest, hnumber, hrest⟩ := number_complete hwhite hends
  have hliteral := literal_number hwhite
  refine ⟨rest, ?_, hrest⟩
  rw [htext, List.cons_append] at hwhite
  obtain ⟨current, others, hcurrent, hbytes, _⟩ := hwhite.to_ascii hascii
  have hother : ∀ {mark : UInt16} {byte : UInt8}, mark.toNat = byte.toNat → unit ≠ mark →
      current ≠ byte := fun hcode hne heq => hne ((same_iff hcurrent.symm hcode).mp heq)
  rw [value_scalar hbytes (hother rfl hquote) (hother rfl hbrace) (hother rfl hbracket), ← hbytes,
    hliteral, Option.none_or, hnumber]

theorem passes_text {content spelled : Text} (h : Escaped content spelled) :
    Passes json (.text content) (quote :: (spelled ++ [quote])) := by
  intro levels before bytes after hdepth _ hb _ hsame
  obtain ⟨levels, rfl⟩ := exists_level hdepth
  rw [List.cons_append, List.append_assoc, List.singleton_append] at hsame
  obtain ⟨tail, hwhite, htail⟩ := white_mark '"'.toUInt8 hsame hb (by decide) rfl (by decide)
  obtain ⟨inner, rest, hscan, hrest, _⟩ := stringTail_complete h htail
  refine ⟨rest, ?_, hrest⟩
  rw [value, hwhite]
  simp [hscan]

theorem passes_emptyArray {space : Text} (hs : Blank space) :
    Passes json (.array .noItems) (openBracket :: (space ++ [closeBracket])) := by
  intro levels before bytes after hdepth _ hb _ hsame
  obtain ⟨levels, rfl⟩ := exists_level hdepth
  rw [List.cons_append, List.append_assoc, List.singleton_append] at hsame
  obtain ⟨inner, hopen, hinner⟩ :=
    white_mark '['.toUInt8 hsame hb (by decide) rfl (by decide)
  obtain ⟨rest, hclose, hrest⟩ :=
    white_mark ']'.toUInt8 hinner hs (by decide) rfl (by decide)
  refine ⟨rest, ?_, hrest⟩
  rw [value_bracket hopen hclose, if_pos rfl]

theorem passes_emptyObject {space : Text} (hs : Blank space) :
    Passes json (.object .noMembers) (openBrace :: (space ++ [closeBrace])) := by
  intro levels before bytes after hdepth _ hb _ hsame
  obtain ⟨levels, rfl⟩ := exists_level hdepth
  rw [List.cons_append, List.append_assoc, List.singleton_append] at hsame
  obtain ⟨inner, hopen, hinner⟩ :=
    white_mark '{'.toUInt8 hsame hb (by decide) rfl (by decide)
  obtain ⟨rest, hclose, hrest⟩ :=
    white_mark '}'.toUInt8 hinner hs (by decide) rfl (by decide)
  refine ⟨rest, ?_, hrest⟩
  rw [value_brace hopen hclose, if_pos rfl]

/-- Bytes of a text that does not start with a mark do not start with it. -/
theorem starts_other {bytes : Bytes} {unit : UInt16} {text : Text} (mark : UInt16) (byte : UInt8)
    (h : SameText bytes (unit :: text)) (hcode : mark.toNat = byte.toNat) (hascii : byte.toNat < 0x80)
    (hne : unit ≠ mark) : ∃ current rest, bytes = current :: rest ∧ current ≠ byte := by
  cases bytes with
  | nil => exact absurd h.bytes_nil (by simp)
  | cons current rest =>
      refine ⟨current, rest, rfl, ?_⟩
      rintro rfl
      obtain ⟨unit', text', hunit, htext, _⟩ := h.of_ascii hascii
      obtain ⟨rfl, -⟩ := List.cons.inj htext
      exact hne (UInt16.toNat_inj.mp (hunit.trans hcode.symm))

theorem passes_array {tree : JsonTree NumberToken .items} {body : Text} (h : Spells tree body)
    (ih : Passes json tree body) :
    Passes json (.array tree) (openBracket :: (body ++ [closeBracket])) := by
  intro levels before bytes after hdepth hadmitted hb _ hsame
  obtain ⟨levels, rfl⟩ := exists_level hdepth
  rw [List.cons_append, List.append_assoc, List.singleton_append] at hsame
  obtain ⟨inner, hopen, hinner⟩ :=
    white_mark '['.toUInt8 hsame hb (by decide) rfl (by decide)
  have hwhite := white_same hinner
  obtain ⟨start, unit, tail, hstart, hbody, hspace, hmark⟩ := Dialect.items_start h rfl
  have hinked : skipSpace (body ++ closeBracket :: after) =
      unit :: (tail ++ closeBracket :: after) := by
    rw [hbody, List.append_assoc, List.cons_append, skipSpace_cons hstart hspace]
  have hfirst := hwhite
  rw [hinked] at hfirst
  obtain ⟨current, rest, hbytes, hother⟩ :=
    starts_other closeBracket ']'.toUInt8 hfirst rfl (by decide) hmark
  have hlength := length_le hwhite
  rw [hbytes] at hwhite hlength
  obtain ⟨last, hscan, hlast⟩ := ih levels _ (Nat.lt_succ_iff.mp hdepth)
    ⟨hadmitted.distinct, hadmitted.paired⟩ hlength hwhite
  refine ⟨last, ?_, hlast⟩
  rw [value_bracket hopen hbytes, if_neg hother, hscan]

theorem passes_object {tree : JsonTree NumberToken .members} {body : Text} (h : Spells tree body)
    (ih : Passes json tree body) :
    Passes json (.object tree) (openBrace :: (body ++ [closeBrace])) := by
  intro levels before bytes after hdepth hadmitted hb _ hsame
  obtain ⟨levels, rfl⟩ := exists_level hdepth
  rw [List.cons_append, List.append_assoc, List.singleton_append] at hsame
  obtain ⟨inner, hopen, hinner⟩ :=
    white_mark '{'.toUInt8 hsame hb (by decide) rfl (by decide)
  have hwhite := white_same hinner
  obtain ⟨start, tail, hstart, hbody⟩ := Dialect.members_start h rfl
  have hinked : skipSpace (body ++ closeBrace :: after) =
      quote :: (tail ++ closeBrace :: after) := by
    rw [hbody, List.append_assoc, List.cons_append, skipSpace_cons hstart (by decide)]
  have hfirst := hwhite
  rw [hinked] at hfirst
  obtain ⟨current, rest, hbytes, hother⟩ :=
    starts_other closeBrace '}'.toUInt8 hfirst rfl (by decide) (by decide)
  have hlength := length_le hwhite
  rw [hbytes] at hwhite hlength
  obtain ⟨hnodup, hdistinct⟩ := hadmitted.distinct
  obtain ⟨last, hscan, hlast⟩ := ih levels _ [] (Nat.lt_succ_iff.mp hdepth)
    ⟨hdistinct, hadmitted.paired⟩ hnodup (by simp) hlength hwhite
  refine ⟨last, ?_, hlast⟩
  rw [value_brace hopen hbytes, if_neg hother, hscan]

/-- A value is not white space. -/
theorem value_inked {tree : JsonTree NumberToken .value} {spelled : Text} (h : Spells tree spelled)
    (rest : Text) : Inked (spelled ++ rest) := by
  obtain ⟨unit, tail, rfl, hspace, _⟩ := Dialect.value_starts h rfl
  simpa [Inked] using hspace

theorem passes_lastItem {head : JsonTree NumberToken .value} {before spelled after : Text}
    (hb : Blank before) (h : Spells head spelled) (ha : Blank after) (ih : Passes json head spelled) :
    Passes json (.item head .noItems) (before ++ (spelled ++ after)) := by
  intro levels rounds bytes last hdepth hadmitted hrounds hsame
  have htext : before ++ (spelled ++ after) ++ closeBracket :: last =
      before ++ (spelled ++ (after ++ closeBracket :: last)) := by simp
  rw [htext, skipSpace_append hb, skipSpace_of_inked (value_inked h _)] at hrounds hsame
  rw [List.length_append, List.length_append, List.length_cons] at hrounds
  obtain ⟨rounds, rfl⟩ := Nat.exists_eq_add_one_of_ne_zero (show rounds ≠ 0 by omega)
  simp only [JsonTree.depth] at hdepth
  obtain ⟨middle, hvalue, hmiddle⟩ := ih levels [] (by omega)
    hadmitted.item.1 (by simp [Blank])
    (Dialect.numberEnds_blank ha (Dialect.ends_closeBracket last)) hsame
  obtain ⟨rest, hclose, hrest⟩ :=
    white_mark ']'.toUInt8 hmiddle ha (by decide) rfl (by decide)
  refine ⟨rest, ?_, hrest⟩
  rw [items, hvalue, Option.bind_some, hclose]
  rfl

theorem passes_item {head : JsonTree NumberToken .value} {tail : JsonTree NumberToken .items}
    {before spelled after body : Text} (hb : Blank before) (h : Spells head spelled)
    (ha : Blank after) (ihh : Passes json head spelled) (iht : Passes json tail body) :
    Passes json (.item head tail) (before ++ (spelled ++ (after ++ comma :: body))) := by
  intro levels rounds bytes last hdepth hadmitted hrounds hsame
  have htext : before ++ (spelled ++ (after ++ comma :: body)) ++ closeBracket :: last =
      before ++ (spelled ++ (after ++ comma :: (body ++ closeBracket :: last))) := by simp
  rw [htext, skipSpace_append hb, skipSpace_of_inked (value_inked h _)] at hrounds hsame
  have hle := length_skipSpace_le (body ++ closeBracket :: last)
  rw [List.length_append, List.length_append, List.length_cons] at hrounds
  obtain ⟨rounds, rfl⟩ := Nat.exists_eq_add_one_of_ne_zero (show rounds ≠ 0 by omega)
  simp only [JsonTree.depth] at hdepth
  obtain ⟨middle, hvalue, hmiddle⟩ := ihh levels [] (by omega)
    hadmitted.item.1 (by simp [Blank]) (Dialect.numberEnds_blank ha (Dialect.ends_comma _)) hsame
  obtain ⟨rest, hcomma, hrest⟩ :=
    white_mark ','.toUInt8 hmiddle ha (by decide) rfl (by decide)
  obtain ⟨final, hscan, hfinal⟩ := iht levels rounds (by omega)
    hadmitted.item.2 (by omega) (white_same hrest)
  refine ⟨final, ?_, hfinal⟩
  rw [items, hvalue, Option.bind_some, hcomma]
  exact hscan

/-- The key and the colon of a member are passed, and its value comes next. -/
theorem member_head (hjson : json.Correct) {name written middle text : Text} {bytes : Bytes}
    (hn : Escaped name written) (hm : Blank middle)
    (hsame : SameText bytes (quote :: (written ++ quote :: (middle ++ colon :: text)))) :
    ∃ rawKey next rest, jsonString bytes = some (rawKey, next) ∧
      decodedKey json rawKey = some (luaString name) ∧ white next = ':'.toUInt8 :: rest ∧
      SameText rest text := by
  obtain ⟨byte, inner, hbyte, rfl, hinner⟩ := hsame.to_ascii (by decide)
  have hquote : byte = '"'.toUInt8 := (same_iff hbyte.symm rfl).mpr rfl
  obtain ⟨tail, next, hscan, hnext, htail⟩ := stringTail_complete hn hinner
  obtain ⟨rest, hcolon, hrest⟩ :=
    white_mark ':'.toUInt8 hnext hm (by decide) rfl (by decide)
  have hraw : SameText ('"'.toUInt8 :: tail) (quote :: (written ++ [quote])) :=
    quote_same.append htail
  refine ⟨byte :: tail, next, rest, ?_, ?_, hcolon, hrest⟩
  · rw [jsonString, if_pos hquote, hscan]
    rfl
  · rw [hquote]
    exact decodedKey_eq hjson hraw hn

/-- One round of the loop of an object, up to the mark after the value. -/
theorem members_round {scan : Bytes → Option Bytes} {rounds : Nat} {keys : List Bytes}
    {bytes rawKey next rest last after : Bytes} {key : Bytes} {current : UInt8}
    (hkey : jsonString bytes = some (rawKey, next)) (hdecoded : decodedKey json rawKey = some key)
    (hfresh : key ∉ keys) (hcolon : white next = ':'.toUInt8 :: rest) (hvalue : scan rest = some last)
    (hend : white last = current :: after) :
    members json scan (rounds + 1) keys bytes =
      if current = '}'.toUInt8 then some after
      else if current = ','.toUInt8 then members json scan rounds (key :: keys) (white after)
      else none := by
  rw [members, hkey, Option.bind_some]
  dsimp only
  rw [hdecoded, Option.bind_some, if_neg hfresh, hcolon]
  dsimp only
  rw [if_neg (by simp), hvalue, Option.bind_some, hend]

theorem passes_lastMember (hjson : json.Correct) {name : Text} {head : JsonTree NumberToken .value}
    {start written middle before spelled after : Text} (hs : Blank start) (hn : Escaped name written)
    (hm : Blank middle) (hb : Blank before) (ha : Blank after) (ih : Passes json head spelled) :
    Passes json (.member name head .noMembers)
      (start ++ quote :: (written ++ quote :: (middle ++ colon ::
        (before ++ (spelled ++ after))))) := by
  intro levels rounds keys bytes last hdepth hadmitted hnodup hfresh hrounds hsame
  have htext : start ++ quote :: (written ++ quote :: (middle ++ colon ::
      (before ++ (spelled ++ after)))) ++ closeBrace :: last =
      start ++ quote :: (written ++ quote :: (middle ++ colon ::
        (before ++ (spelled ++ (after ++ closeBrace :: last))))) := by simp
  rw [htext, skipSpace_cons hs (by decide)] at hrounds hsame
  rw [List.length_cons] at hrounds
  obtain ⟨rounds, rfl⟩ := Nat.exists_eq_add_one_of_ne_zero (show rounds ≠ 0 by omega)
  obtain ⟨rawKey, next, text, hkey, hdecoded, hcolon, hrest⟩ := member_head hjson hn hm hsame
  simp only [JsonTree.depth] at hdepth
  obtain ⟨end', hvalue, hend⟩ := ih levels before (by omega) hadmitted.member.2.1 hb
    (Dialect.numberEnds_blank ha (Dialect.ends_closeBrace last)) hrest
  obtain ⟨rest, hclose, hafter⟩ :=
    white_mark '}'.toUInt8 hend ha (by decide) rfl (by decide)
  refine ⟨rest, ?_, hafter⟩
  rw [members_round hkey hdecoded (hfresh name (by simp [JsonTree.names])) hcolon hvalue hclose,
    if_pos rfl]

theorem passes_member (hjson : json.Correct) {name : Text} {head : JsonTree NumberToken .value}
    {tail : JsonTree NumberToken .members} {start written middle before spelled after body : Text}
    (hs : Blank start) (hn : Escaped name written) (hm : Blank middle) (hb : Blank before)
    (ha : Blank after) (ihh : Passes json head spelled) (iht : Passes json tail body) :
    Passes json (.member name head tail)
      (start ++ quote :: (written ++ quote :: (middle ++ colon ::
        (before ++ (spelled ++ (after ++ comma :: body)))))) := by
  intro levels rounds keys bytes last hdepth hadmitted hnodup hfresh hrounds hsame
  have htext : start ++ quote :: (written ++ quote :: (middle ++ colon ::
      (before ++ (spelled ++ (after ++ comma :: body))))) ++ closeBrace :: last =
      start ++ quote :: (written ++ quote :: (middle ++ colon ::
        (before ++ (spelled ++ (after ++ comma :: (body ++ closeBrace :: last)))))) := by simp
  rw [htext, skipSpace_cons hs (by decide)] at hrounds hsame
  have hle := length_skipSpace_le (body ++ closeBrace :: last)
  simp only [List.length_cons, List.length_append] at hrounds hle
  obtain ⟨rounds, rfl⟩ := Nat.exists_eq_add_one_of_ne_zero (show rounds ≠ 0 by omega)
  obtain ⟨rawKey, next, text, hkey, hdecoded, hcolon, hrest⟩ := member_head hjson hn hm hsame
  simp only [JsonTree.depth] at hdepth
  obtain ⟨hname, hhead, htail⟩ := hadmitted.member
  obtain ⟨end', hvalue, hend⟩ := ihh levels before (by omega) hhead hb
    (Dialect.numberEnds_blank ha (Dialect.ends_comma _)) hrest
  obtain ⟨rest, hcomma, hafter⟩ :=
    white_mark ','.toUInt8 hend ha (by decide) rfl (by decide)
  rw [JsonTree.names] at hnodup hfresh
  obtain ⟨hnew, hnodup⟩ := List.nodup_cons.mp hnodup
  have hkeys : ∀ other ∈ tail.names, luaString other ∉ luaString name :: keys := by
    intro other hother hmem
    rcases List.mem_cons.mp hmem with heq | hold
    · have hpaired := htail.paired other (mem_texts_of_mem_names hother)
      exact hnew (luaString_injective hpaired hname heq ▸ hother)
    · exact hfresh other (List.mem_cons_of_mem _ hother) hold
  obtain ⟨final, hscan, hfinal⟩ := iht levels rounds (luaString name :: keys) (by omega) htail hnodup
    hkeys (by omega) (white_same hafter)
  refine ⟨final, ?_, hfinal⟩
  rw [members_round hkey hdecoded (hfresh name List.mem_cons_self) hcolon hvalue hcomma,
    if_neg (by decide), if_pos rfl, hscan]

/-- What is spelled is passed. -/
theorem passes (hjson : json.Correct) {part : Part} {tree : JsonTree NumberToken part}
    {spelled : Text} (h : Spells tree spelled) : Passes json tree spelled := by
  induction h with
  | null => exact passes_name LiteralTree.null
  | boolean b =>
      cases b with
      | true => exact passes_name LiteralTree.yes
      | false => exact passes_name LiteralTree.no
  | number token => exact passes_number token
  | text h => exact passes_text h
  | emptyArray hb => exact passes_emptyArray hb
  | array h ih => exact passes_array h ih
  | emptyObject hb => exact passes_emptyObject hb
  | object h ih => exact passes_object h ih
  | lastItem hb h ha ih => exact passes_lastItem hb h ha ih
  | item hb h ha _ ihh iht => exact passes_item hb h ha ihh iht
  | lastMember hs hn hm hb _ ha ih => exact passes_lastMember hjson hs hn hm hb ha ih
  | member hs hn hm hb _ ha _ ihh iht => exact passes_member hjson hs hn hm hb ha ihh iht

end Complete

end StrictJson

/-! ## What is accepted -/

section Accepted

variable {json : Decoder}

/-- The scan accepts a document within the levels, with its strings decoded. -/
theorem strictJson_sound (hjson : json.Correct) {bytes : Bytes} {text : Text}
    (h : SameText bytes text) (hscan : strictJson json bytes = true) :
    ∃ tree, Document tree text ∧ tree.depth < 32 ∧ tree.Distinct := by
  unfold strictJson at hscan
  split at hscan
  · cases hscan
  · next rest hvalue =>
      obtain ⟨tree, before, spelled, after, htext, hbefore, hspells, hrest, hdepth, hdistinct⟩ :=
        StrictJson.value_sound hjson 32 h hvalue
      have hafter := StrictJson.white_same hrest
      rw [List.isEmpty_iff.mp hscan] at hafter
      exact ⟨tree, ⟨before, spelled, after, hbefore, hspells, skipSpace_eq_nil.mp hafter.bytes_nil,
        htext⟩, hdepth, hdistinct⟩

theorem strictJson_complete (hjson : json.Correct) {bytes : Bytes} {text : Text}
    {tree : JsonTree NumberToken .value} (h : SameText bytes text) (hdocument : Document tree text)
    (hdepth : tree.depth < 32) (hadmitted : StrictJson.Admitted tree) :
    strictJson json bytes = true := by
  obtain ⟨before, spelled, after, hbefore, hspells, hafter, rfl⟩ := hdocument
  have hends : NumberEnds after := by
    have hblank := Dialect.numberEnds_blank hafter (show NumberEnds [] by simp [NumberEnds])
    rwa [List.append_nil] at hblank
  obtain ⟨rest, hvalue, hrest⟩ :=
    StrictJson.passes hjson hspells 32 before hdepth hadmitted hbefore hends h
  have hwhite := StrictJson.white_same hrest
  rw [skipSpace_eq_nil.mpr hafter] at hwhite
  rw [strictJson, hvalue]
  simp [hwhite.text_nil]

/-- Every string is a text of characters and every number is finite. -/
@[mk_iff]
structure Sound {part : Part} (tree : JsonTree NumberToken part) : Prop where
  paired : ∀ content ∈ tree.texts, hasLoneSurrogate content = false
  finite : ∀ token ∈ tree.numbers, (luaNumber token).IsFinite

theorem sound_item {head : JsonTree NumberToken .value} {tail : JsonTree NumberToken .items} :
    Sound (.item head tail) ↔ Sound head ∧ Sound tail := by
  simp only [sound_iff, JsonTree.texts, JsonTree.numbers, List.forall_mem_append]
  tauto

theorem sound_member {name : Text} {head : JsonTree NumberToken .value}
    {tail : JsonTree NumberToken .members} :
    Sound (.member name head tail) ↔ hasLoneSurrogate name = false ∧ Sound head ∧ Sound tail := by
  simp only [sound_iff, JsonTree.texts, JsonTree.numbers, List.forall_mem_append,
    List.forall_mem_cons]
  tauto

theorem within_max {depth head tail : Nat} :
    depth + max (head + 1) tail ≤ 32 ↔ depth + 1 + head ≤ 32 ∧ depth + tail ≤ 32 := by
  omega

mutual

/-- The walk accepts the value of a tree within the levels that is sound. -/
theorem valid_denote : ∀ (tree : JsonTree NumberToken .value) (depth : Nat),
    (denote tree).valid depth = true ↔ depth + tree.depth ≤ 32 ∧ Sound tree
  | .null, depth => by
      simp [denote, LuaValue.valid, JsonTree.depth, sound_iff, JsonTree.texts, JsonTree.numbers]
  | .boolean b, depth => by
      simp [denote, LuaValue.valid, JsonTree.depth, sound_iff, JsonTree.texts, JsonTree.numbers]
  | .number token, depth => by
      simp [denote, LuaValue.valid, JsonTree.depth, sound_iff, JsonTree.texts, JsonTree.numbers]
  | .text content, depth => by
      simp [denote, LuaValue.valid, JsonTree.depth, sound_iff, JsonTree.texts, JsonTree.numbers,
        utf8Valid_luaString]
  | .array items, depth => by
      have hsound : Sound (.array items) ↔ Sound items := by
        simp [sound_iff, JsonTree.texts, JsonTree.numbers]
      rw [denote, LuaValue.valid, JsonTree.depth, hsound, Bool.and_eq_true, decide_eq_true_eq]
      constructor
      · rintro ⟨hdepth, hitems⟩
        exact (valid_denoteItems items depth hdepth).mp hitems
      · intro h
        have hdepth : depth ≤ 32 := by omega
        exact ⟨hdepth, (valid_denoteItems items depth hdepth).mpr h⟩
  | .object members, depth => by
      have hsound : Sound (.object members) ↔ Sound members := by
        simp [sound_iff, JsonTree.texts, JsonTree.numbers]
      rw [denote, LuaValue.valid, JsonTree.depth, hsound, Bool.and_eq_true, decide_eq_true_eq]
      constructor
      · rintro ⟨hdepth, hmembers⟩
        exact (valid_denoteMembers members depth hdepth).mp hmembers
      · intro h
        have hdepth : depth ≤ 32 := by omega
        exact ⟨hdepth, (valid_denoteMembers members depth hdepth).mpr h⟩

theorem valid_denoteItems : ∀ (tree : JsonTree NumberToken .items) (depth : Nat), depth ≤ 32 →
    (LuaValue.validItems (depth + 1) (denoteItems tree) = true ↔
      depth + tree.depth ≤ 32 ∧ Sound tree)
  | .noItems, depth, hdepth => by
      simpa [denoteItems, LuaValue.validItems, JsonTree.depth, sound_iff, JsonTree.texts,
        JsonTree.numbers] using hdepth
  | .item head tail, depth, hdepth => by
      rw [denoteItems, LuaValue.validItems, Bool.and_eq_true, valid_denote head,
        valid_denoteItems tail depth hdepth, sound_item, JsonTree.depth, within_max]
      tauto

theorem valid_denoteMembers : ∀ (tree : JsonTree NumberToken .members) (depth : Nat), depth ≤ 32 →
    (LuaValue.validMembers (depth + 1) (denoteMembers tree) = true ↔
      depth + tree.depth ≤ 32 ∧ Sound tree)
  | .noMembers, depth, hdepth => by
      simpa [denoteMembers, LuaValue.validMembers, JsonTree.depth, sound_iff, JsonTree.texts,
        JsonTree.numbers] using hdepth
  | .member name head tail, depth, hdepth => by
      rw [denoteMembers, LuaValue.validMembers, Bool.and_eq_true, Bool.and_eq_true,
        valid_denote head, valid_denoteMembers tail depth hdepth, sound_member, JsonTree.depth,
        utf8Valid_luaString, Bool.not_eq_true', within_max]
      tauto

end

/-- `decode` accepts the documents within its limits, and returns what they stand for. -/
theorem decode_eq_some (hjson : json.Correct) {bytes : Bytes} {found : LuaValue} :
    decode json bytes = some found ↔
      bytes.length ≤ maxResponseBytes ∧ ∃ chars tree, bytes = utf8 chars ∧
        Document tree (utf16 chars) ∧ tree.depth < 32 ∧ tree.Distinct ∧
        (∀ content ∈ tree.texts, hasLoneSurrogate content = false) ∧
        (∀ token ∈ tree.numbers, (luaNumber token).IsFinite) ∧ found = denote tree := by
  constructor
  · intro h
    unfold decode at h
    split at h
    · cases h
    next hchecks =>
    push Not at hchecks
    obtain ⟨hlength, hutf8, hstrict⟩ := hchecks
    obtain ⟨chars, rfl⟩ := utf8Valid_iff.mp (by simpa using hutf8)
    obtain ⟨tree, hdocument, hdepth, hdistinct⟩ :=
      strictJson_sound hjson ⟨chars, rfl, rfl⟩ (by simpa using hstrict)
    obtain ⟨position, hdecode, hblank⟩ := hjson _ _ tree ⟨chars, rfl, rfl⟩ hdocument hdepth hdistinct
    rw [hdecode] at h
    dsimp only at h
    split at h
    · cases h
    obtain ⟨hvalid, hfound⟩ := Option.ite_none_right_eq_some.mp h
    obtain ⟨_, hsound⟩ := (valid_denote tree 1).mp hvalid
    exact ⟨hlength, chars, tree, rfl, hdocument, hdepth, hdistinct, hsound.paired, hsound.finite,
      (Option.some.inj hfound).symm⟩
  · rintro ⟨hlength, chars, tree, rfl, hdocument, hdepth, hdistinct, hpaired, hfinite, rfl⟩
    have hstrict : strictJson json (utf8 chars) = true :=
      strictJson_complete hjson ⟨chars, rfl, rfl⟩ hdocument hdepth ⟨hdistinct, hpaired⟩
    obtain ⟨position, hdecode, hblank⟩ := hjson _ _ tree ⟨chars, rfl, rfl⟩ hdocument hdepth hdistinct
    have hrest : ((utf8 chars).drop (position - 1)).any (fun byte => !isWhite byte) = false := by
      rw [List.any_eq_false]
      intro byte hbyte
      simp [hblank byte hbyte]
    have hvalid : (denote tree).valid 1 = true :=
      (valid_denote tree 1).mpr ⟨by omega, hpaired, hfinite⟩
    have hutf8 : utf8Valid (utf8 chars) = true := utf8Valid_iff.mpr ⟨chars, rfl⟩
    unfold decode
    rw [if_neg (by simp [hutf8, hstrict, hlength]), hdecode]
    dsimp only
    rw [if_neg (by simp [hrest]), if_pos hvalid]

end Accepted

/-- `decode` accepts exactly the strict documents, and keeps null, the empty object and the
empty array apart. -/
theorem decode_strict (json : Decoder) (hjson : json.Correct) :
    (∀ bytes found, decode json bytes = some found ↔
      bytes.length ≤ maxResponseBytes ∧ ∃ chars tree, bytes = utf8 chars ∧
        Document tree (utf16 chars) ∧ tree.depth < 32 ∧ tree.Distinct ∧
        (∀ content ∈ tree.texts, hasLoneSurrogate content = false) ∧
        (∀ token ∈ tree.numbers, (luaNumber token).IsFinite) ∧ found = denote tree) ∧
      denote .null ≠ denote (.object .noMembers) ∧ denote .null ≠ denote (.array .noItems) ∧
      denote (.object .noMembers) ≠ denote (.array .noItems) := by
  refine ⟨fun bytes found => decode_eq_some hjson, ?_, ?_, ?_⟩
  · simp [denote]
  · simp [denote]
  · simp [denote]

/-! ## A decoder of the grammar -/

/-- The decoder that reads the documents and nothing else. -/
def grammarDecoder : Decoder := fun bytes =>
  (decodeUtf8 bytes.toByteArray).bind fun text =>
    (plainDialect.read text).map fun tree => (denote tree, bytes.length + 1)

theorem decodeUtf8_utf8 (chars : List Char) :
    decodeUtf8 (utf8 chars).toByteArray = some (utf16 chars) := by
  refine decodeUtf8_eq_some.mpr ⟨String.ofList chars, ?_, ?_⟩
  · rw [← String.utf8Encode_toList, String.toList_ofList]
    rfl
  · rw [encode, String.toList_ofList, utf16]

theorem grammarDecoder_correct : grammarDecoder.Correct := by
  rintro bytes text tree ⟨chars, rfl, rfl⟩ hdocument _ _
  refine ⟨(utf8 chars).length + 1, ?_, ?_⟩
  · rw [grammarDecoder, decodeUtf8_utf8, Option.bind_some, plainDialect_read.mpr hdocument]
    rfl
  · simp

/-- An object with null and both empty containers. -/
theorem decode_strict_sample :
    decode grammarDecoder (utf8 ['{', '"', 'a', '"', ':', '[', 'n', 'u', 'l', 'l', ',', '{', '}',
        ',', '[', ']', ']', '}']) =
      some (.object [(luaString [0x61], .array [.null, .object [], .array []])]) := by
  refine ((decode_strict grammarDecoder grammarDecoder_correct).1 _ _).mpr ⟨by decide, _,
    .object (.member [0x61] (.array (.item .null (.item (.object .noMembers)
      (.item (.array .noItems) .noItems)))) .noMembers), rfl, plainDialect_read.mp rfl, by decide,
    ?_, ?_, ?_, ?_⟩
  · simp [JsonTree.Distinct, JsonTree.names]
  · simp [JsonTree.texts]
    decide
  · simp [JsonTree.numbers]
  · simp [denote, denoteItems, denoteMembers]

end FlickrGroupAddr
