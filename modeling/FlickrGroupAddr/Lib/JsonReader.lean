import FlickrGroupAddr.Lib.Json

/-!
# Reading JSON

A scanner that reads a text once from left to right, with the bounds and the refusals
that such scanners have as parameters: a greatest nesting, a greatest number of values,
whether arrays and literal names exist, whether an object may repeat a name, which
decoded strings are refused, and how a number token becomes a number.  A text is read
exactly when the grammar spells it with a tree that meets the bounds, and no text is
spelled by two trees.
-/

namespace JsonText

set_option autoImplicit false

/-- The choices of a scanner. -/
structure Dialect (ν : Type) where
  maxDepth : Option ℕ
  maxNodes : Option ℕ
  compound : Bool
  distinct : Bool
  acceptsText : Text → Bool
  number : NumberToken → Option ν

/-- A bound holds when it is absent or not exceeded. -/
def Within (bound : Option ℕ) (n : ℕ) : Prop := ∀ limit ∈ bound, n ≤ limit

instance (bound : Option ℕ) (n : ℕ) : Decidable (Within bound n) :=
  inferInstanceAs (Decidable (∀ limit ∈ bound, n ≤ limit))

theorem Within.mono {bound : Option ℕ} {m n : ℕ} (h : Within bound n) (hm : m ≤ n) :
    Within bound m :=
  fun limit hlimit => hm.trans (h limit hlimit)

/-- The text that remains and the number of values met so far. -/
structure Cursor where
  rest : Text
  nodes : ℕ
deriving DecidableEq

/-- The text after a literal name. -/
def dropName : Text → Text → Option Text
  | [], text => some text
  | _ :: _, [] => none
  | unit :: name, first :: text => if first = unit then dropName name text else none

theorem dropName_append (name rest : Text) : dropName name (name ++ rest) = some rest := by
  induction name with
  | nil => rfl
  | cons unit name ih => simp [dropName, ih]

theorem dropName_eq_some {name text rest : Text} (h : dropName name text = some rest) :
    text = name ++ rest := by
  induction name generalizing text with
  | nil => simpa [dropName] using h
  | cons unit name ih =>
    cases text with
    | nil => simp [dropName] at h
    | cons first text =>
      simp only [dropName, Option.ite_none_right_eq_some] at h
      simp [h.1, ih h.2]

namespace Dialect

variable {ν : Type} (d : Dialect ν)

/-- The string whose opening quote has been passed, and the text after it. -/
def readText (text : Text) : Option (Text × Text) := do
  let (spelled, rest) ← closeQuote text
  let content ← unescape spelled
  if d.acceptsText content then some (content, rest) else none

/-- The literal names, in the order in which they are tried. -/
def readName (text : Text) : Option (JsonTree ν .value × Text) :=
  match dropName (booleanName true) text with
  | some rest => some (.boolean true, rest)
  | none =>
    match dropName (booleanName false) text with
    | some rest => some (.boolean false, rest)
    | none => (dropName nullName text).map fun rest => (.null, rest)

def readScalar (text : Text) : Option (JsonTree ν .value × Text) :=
  match (if d.compound then readName text else none) with
  | some found => some found
  | none => do
    let (token, rest) ← readNumber text
    let n ← d.number token
    some (.number n, rest)

mutual

/-- The value at the start of the text, after white space. -/
def readValue : ℕ → ℕ → Cursor → Option (JsonTree ν .value × Cursor)
  | 0, _, _ => none
  | fuel + 1, depth, ⟨text, nodes⟩ =>
    if Within d.maxDepth depth ∧ Within d.maxNodes (nodes + 1) then
      match expect quote text with
      | some rest => (d.readText rest).map fun (content, rest) => (.text content, ⟨rest, nodes + 1⟩)
      | none =>
        match expect openBrace text with
        | some rest =>
          match expect closeBrace rest with
          | some rest => some (.object .noMembers, ⟨rest, nodes + 1⟩)
          | none =>
            (readMembers fuel depth [] ⟨rest, nodes + 1⟩).map fun (members, cursor) =>
              (.object members, cursor)
        | none =>
          match (if d.compound then expect openBracket text else none) with
          | some rest =>
            match expect closeBracket rest with
            | some rest => some (.array .noItems, ⟨rest, nodes + 1⟩)
            | none =>
              (readItems fuel depth ⟨rest, nodes + 1⟩).map fun (items, cursor) =>
                (.array items, cursor)
          | none =>
            (d.readScalar (skipSpace text)).map fun (scalar, rest) => (scalar, ⟨rest, nodes + 1⟩)
    else none

/-- The items of an array at the given depth, up to the bracket that closes it. -/
def readItems : ℕ → ℕ → Cursor → Option (JsonTree ν .items × Cursor)
  | 0, _, _ => none
  | fuel + 1, depth, cursor => do
    let (head, ⟨text, nodes⟩) ← readValue fuel (depth + 1) cursor
    match expect closeBracket text with
    | some rest => some (.item head .noItems, ⟨rest, nodes⟩)
    | none => do
      let rest ← expect comma text
      let (tail, cursor) ← readItems fuel depth ⟨rest, nodes⟩
      some (.item head tail, cursor)

/-- The members of an object at the given depth, up to the brace that closes it. -/
def readMembers : ℕ → ℕ → List Text → Cursor → Option (JsonTree ν .members × Cursor)
  | 0, _, _, _ => none
  | fuel + 1, depth, seen, ⟨text, nodes⟩ => do
    let rest ← expect quote text
    let (name, rest) ← d.readText rest
    if d.distinct ∧ name ∈ seen then none
    else do
      let rest ← expect colon rest
      let (head, ⟨text, nodes⟩) ← readValue fuel (depth + 1) ⟨rest, nodes⟩
      match expect closeBrace text with
      | some rest => some (.member name head .noMembers, ⟨rest, nodes⟩)
      | none => do
        let rest ← expect comma text
        let (tail, cursor) ← readMembers fuel depth (name :: seen) ⟨rest, nodes⟩
        some (.member name head tail, cursor)

end

/-- The value that the whole text spells.  No value takes more steps than two for each
    code unit. -/
def read (text : Text) : Option (JsonTree ν .value) := do
  let (tree, cursor) ← d.readValue (2 * text.length + 1) 0 ⟨text, 0⟩
  if skipSpace cursor.rest = [] then some tree else none

end Dialect

/-! ### What a scanner accepts -/

namespace JsonTree

variable {ν μ : Type}

/-- The tree with every number converted, when all of them can be. -/
def traverse (f : ν → Option μ) : {part : Part} → JsonTree ν part → Option (JsonTree μ part)
  | _, null => some null
  | _, boolean b => some (boolean b)
  | _, number n => (f n).map number
  | _, text content => some (text content)
  | _, array items => (items.traverse f).map array
  | _, object members => (members.traverse f).map object
  | _, noItems => some noItems
  | _, item head tail => do
    let head ← head.traverse f
    let tail ← tail.traverse f
    some (item head tail)
  | _, noMembers => some noMembers
  | _, member name head tail => do
    let head ← head.traverse f
    let tail ← tail.traverse f
    some (member name head tail)

/-- A conversion that only refuses some numbers converts a tree without these. -/
theorem traverse_guard (f : ν → μ) (p : ν → Prop) [DecidablePred p] {part : Part} {tree : JsonTree ν part}
    {result : JsonTree μ part} :
    tree.traverse (fun n => if p n then some (f n) else none) = some result ↔
      (∀ n ∈ tree.numbers, p n) ∧ tree.map f = result := by
  induction tree with
  | null => simp [traverse, numbers, map]
  | boolean b => simp [traverse, numbers, map]
  | number n =>
    by_cases hn : p n <;> simp [traverse, numbers, map, hn]
  | text content => simp [traverse, numbers, map]
  | array items ih =>
    cases result with
    | array other => simp [traverse, numbers, map, ih]
    | _ => simp [traverse, map]
  | object members ih =>
    cases result with
    | object other => simp [traverse, numbers, map, ih]
    | _ => simp [traverse, map]
  | noItems => simp [traverse, numbers, map]
  | item head tail ihh iht =>
    cases result with
    | noItems => simp [traverse, map, Option.bind_eq_some_iff]
    | item first rest =>
      simp only [traverse, Option.bind_eq_bind, Option.bind_eq_some_iff, ihh, iht, Option.some.injEq,
        item.injEq, numbers, List.mem_append, map]
      constructor
      · rintro ⟨_, ⟨hh, rfl⟩, _, ⟨ht, rfl⟩, rfl, rfl⟩
        exact ⟨fun n hn => hn.elim (hh n) (ht n), rfl, rfl⟩
      · rintro ⟨hall, rfl, rfl⟩
        exact ⟨_, ⟨fun n hn => hall n (.inl hn), rfl⟩, _, ⟨fun n hn => hall n (.inr hn), rfl⟩, rfl, rfl⟩
  | noMembers => simp [traverse, numbers, map]
  | member name head tail ihh iht =>
    cases result with
    | noMembers => simp [traverse, map, Option.bind_eq_some_iff]
    | member other first rest =>
      simp only [traverse, Option.bind_eq_bind, Option.bind_eq_some_iff, ihh, iht, Option.some.injEq,
        member.injEq, numbers, List.mem_append, map]
      constructor
      · rintro ⟨_, ⟨hh, rfl⟩, _, ⟨ht, rfl⟩, rfl, rfl, rfl⟩
        exact ⟨fun n hn => hn.elim (hh n) (ht n), rfl, rfl, rfl⟩
      · rintro ⟨hall, rfl, rfl, rfl⟩
        exact ⟨_, ⟨fun n hn => hall n (.inl hn), rfl⟩, _, ⟨fun n hn => hall n (.inr hn), rfl⟩,
          rfl, rfl, rfl⟩

theorem traverse_congr {f g : ν → Option μ} {part : Part} {tree : JsonTree ν part}
    (h : ∀ n ∈ tree.numbers, f n = g n) : tree.traverse f = tree.traverse g := by
  induction tree with
  | null => rfl
  | boolean => rfl
  | number n => simp [traverse, h n (by simp [numbers])]
  | text => rfl
  | array items ih => simp [traverse, ih h]
  | object members ih => simp [traverse, ih h]
  | noItems => rfl
  | item head tail ihh iht =>
    simp only [numbers, List.mem_append] at h
    simp [traverse, ihh fun n hn => h n (.inl hn), iht fun n hn => h n (.inr hn)]
  | noMembers => rfl
  | member name head tail ihh iht =>
    simp only [numbers, List.mem_append] at h
    simp [traverse, ihh fun n hn => h n (.inl hn), iht fun n hn => h n (.inr hn)]

end JsonTree

theorem within_max {bound : Option ℕ} {a b : ℕ} :
    Within bound (max a b) ↔ Within bound a ∧ Within bound b := by
  constructor
  · intro h
    exact ⟨h.mono (le_max_left _ _), h.mono (le_max_right _ _)⟩
  · rintro ⟨ha, hb⟩ limit hlimit
    exact max_le (ha limit hlimit) (hb limit hlimit)

attribute [local simp] JsonTree.texts JsonTree.Plain JsonTree.Distinct JsonTree.traverse
  JsonTree.size JsonTree.depth

namespace Dialect

variable {ν : Type} (d : Dialect ν)

/-- The refusals of the scanner that concern strings, names and the kinds of values. -/
structure Allows {part : Part} (source : JsonTree NumberToken part) : Prop where
  texts : ∀ content ∈ source.texts, d.acceptsText content = true
  distinct : d.distinct = true → source.Distinct
  plain : d.compound = false → source.Plain

/-- The bounds hold for `size` values of a nesting of `deep` at the given depth, when
    `before` values precede them and `after` values precede what follows. -/
structure Fits (size deep depth before after : ℕ) : Prop where
  count : after = before + size
  deep : Within d.maxDepth (depth + deep)
  many : Within d.maxNodes after

/-- At the given depth the scanner may turn the source tree into the tree. -/
structure Meets {part : Part} (source : JsonTree NumberToken part) (tree : JsonTree ν part)
    (depth before after : ℕ) : Prop where
  converts : source.traverse d.number = some tree
  allows : d.Allows source
  fits : d.Fits source.size source.depth depth before after

variable {d} {depth before after : ℕ}

theorem fits_one : d.Fits 1 0 depth before after ↔
    after = before + 1 ∧ Within d.maxDepth depth ∧ Within d.maxNodes (before + 1) := by
  constructor
  · rintro ⟨rfl, hd, hm⟩
    exact ⟨rfl, hd, hm⟩
  · rintro ⟨rfl, hd, hm⟩
    exact ⟨rfl, hd, hm⟩

/-- The bounds of a container are those of its contents after one more value. -/
theorem fits_container {size deep : ℕ} :
    d.Fits (size + 1) deep depth before after ↔ d.Fits size deep depth (before + 1) after := by
  constructor
  · rintro ⟨rfl, hd, hm⟩
    exact ⟨by omega, hd, hm⟩
  · rintro ⟨rfl, hd, hm⟩
    exact ⟨by omega, hd, hm⟩

/-- The value that a scanner has just entered is within the bounds. -/
theorem Fits.enters {size deep : ℕ} (h : d.Fits size deep depth (before + 1) after) :
    Within d.maxDepth depth ∧ Within d.maxNodes (before + 1) :=
  ⟨h.deep.mono (by omega), h.many.mono (by rw [h.count]; omega)⟩

theorem meets_text {content : Text} {tree : JsonTree ν .value} :
    d.Meets (.text content) tree depth before after ↔
      tree = .text content ∧ d.acceptsText content = true ∧ d.Fits 1 0 depth before after := by
  constructor
  · rintro ⟨hc, ha, hf⟩
    simp only [JsonTree.traverse, Option.some.injEq] at hc
    exact ⟨hc.symm, ha.texts content (by simp [JsonTree.texts]), hf⟩
  · rintro ⟨rfl, ht, hf⟩
    exact ⟨rfl, ⟨by simp [JsonTree.texts, ht], fun _ => trivial, fun _ => trivial⟩, hf⟩

theorem meets_number {token : NumberToken} {tree : JsonTree ν .value} :
    d.Meets (.number token) tree depth before after ↔
      (∃ n, d.number token = some n ∧ tree = .number n) ∧ d.Fits 1 0 depth before after := by
  constructor
  · rintro ⟨hc, ha, hf⟩
    simp only [JsonTree.traverse, Option.map_eq_some_iff] at hc
    obtain ⟨n, hn, rfl⟩ := hc
    exact ⟨⟨n, hn, rfl⟩, hf⟩
  · rintro ⟨⟨n, hn, rfl⟩, hf⟩
    exact ⟨by simp [JsonTree.traverse, hn], ⟨by simp [JsonTree.texts], fun _ => trivial, fun _ => trivial⟩, hf⟩

theorem meets_boolean {b : Bool} {tree : JsonTree ν .value} :
    d.Meets (.boolean b) tree depth before after ↔
      tree = .boolean b ∧ d.compound = true ∧ d.Fits 1 0 depth before after := by
  constructor
  · rintro ⟨hc, ha, hf⟩
    simp only [JsonTree.traverse, Option.some.injEq] at hc
    exact ⟨hc.symm, by simpa [JsonTree.Plain] using ha.plain, hf⟩
  · rintro ⟨rfl, hcompound, hf⟩
    exact ⟨rfl, ⟨by simp [JsonTree.texts], fun _ => trivial, by simp [hcompound]⟩, hf⟩

theorem meets_null {tree : JsonTree ν .value} :
    d.Meets .null tree depth before after ↔
      tree = .null ∧ d.compound = true ∧ d.Fits 1 0 depth before after := by
  constructor
  · rintro ⟨hc, ha, hf⟩
    simp only [JsonTree.traverse, Option.some.injEq] at hc
    exact ⟨hc.symm, by simpa [JsonTree.Plain] using ha.plain, hf⟩
  · rintro ⟨rfl, hcompound, hf⟩
    exact ⟨rfl, ⟨by simp [JsonTree.texts], fun _ => trivial, by simp [hcompound]⟩, hf⟩

theorem meets_array {items : JsonTree NumberToken .items} {tree : JsonTree ν .value} :
    d.Meets (.array items) tree depth before after ↔
      d.compound = true ∧ ∃ read, tree = .array read ∧ d.Meets items read depth (before + 1) after := by
  constructor
  · rintro ⟨hc, ha, hf⟩
    simp only [JsonTree.traverse, Option.map_eq_some_iff] at hc
    obtain ⟨read, hread, rfl⟩ := hc
    have hcompound : d.compound = true := by simpa [JsonTree.Plain] using ha.plain
    exact ⟨hcompound, read, rfl, hread, ⟨ha.texts, ha.distinct, by simp [hcompound]⟩,
      fits_container.mp hf⟩
  · rintro ⟨hcompound, read, rfl, hread, ha, hf⟩
    exact ⟨by simp [JsonTree.traverse, hread], ⟨ha.texts, ha.distinct, by simp [hcompound]⟩,
      fits_container.mpr hf⟩

theorem meets_object {members : JsonTree NumberToken .members} {tree : JsonTree ν .value} :
    d.Meets (.object members) tree depth before after ↔
      (d.distinct = true → members.names.Nodup) ∧
        ∃ read, tree = .object read ∧ d.Meets members read depth (before + 1) after := by
  constructor
  · rintro ⟨hc, ha, hf⟩
    simp only [JsonTree.traverse, Option.map_eq_some_iff] at hc
    obtain ⟨read, hread, rfl⟩ := hc
    exact ⟨fun h => (ha.distinct h).1, read, rfl, hread,
      ⟨ha.texts, fun h => (ha.distinct h).2, ha.plain⟩, fits_container.mp hf⟩
  · rintro ⟨hnames, read, rfl, hread, ha, hf⟩
    exact ⟨by simp [JsonTree.traverse, hread],
      ⟨ha.texts, fun h => ⟨hnames h, ha.distinct h⟩, ha.plain⟩, fits_container.mpr hf⟩

theorem meets_noItems {tree : JsonTree ν .items} :
    d.Meets .noItems tree depth before after ↔ tree = .noItems ∧ d.Fits 0 0 depth before after := by
  constructor
  · rintro ⟨hc, ha, hf⟩
    simp only [JsonTree.traverse, Option.some.injEq] at hc
    exact ⟨hc.symm, hf⟩
  · rintro ⟨rfl, hf⟩
    exact ⟨rfl, ⟨by simp [JsonTree.texts], fun _ => trivial, fun _ => trivial⟩, hf⟩

theorem meets_noMembers {tree : JsonTree ν .members} :
    d.Meets .noMembers tree depth before after ↔ tree = .noMembers ∧ d.Fits 0 0 depth before after := by
  constructor
  · rintro ⟨hc, ha, hf⟩
    simp only [JsonTree.traverse, Option.some.injEq] at hc
    exact ⟨hc.symm, hf⟩
  · rintro ⟨rfl, hf⟩
    exact ⟨rfl, ⟨by simp [JsonTree.texts], fun _ => trivial, fun _ => trivial⟩, hf⟩

theorem allows_item {head : JsonTree NumberToken .value} {tail : JsonTree NumberToken .items} :
    d.Allows (.item head tail) ↔ d.Allows head ∧ d.Allows tail := by
  constructor
  · intro h
    constructor
    · exact ⟨fun c hc => h.texts c (by simp [JsonTree.texts, hc]), fun hd => (h.distinct hd).1,
        fun hp => (h.plain hp).1⟩
    · exact ⟨fun c hc => h.texts c (by simp [JsonTree.texts, hc]), fun hd => (h.distinct hd).2,
        fun hp => (h.plain hp).2⟩
  · rintro ⟨hh, ht⟩
    refine ⟨?_, fun hd => ⟨hh.distinct hd, ht.distinct hd⟩, fun hp => ⟨hh.plain hp, ht.plain hp⟩⟩
    intro c hc
    simp only [JsonTree.texts, List.mem_append] at hc
    exact hc.elim (hh.texts c) (ht.texts c)

theorem allows_member {name : Text} {head : JsonTree NumberToken .value}
    {tail : JsonTree NumberToken .members} :
    d.Allows (.member name head tail) ↔
      d.acceptsText name = true ∧ d.Allows head ∧ d.Allows tail := by
  constructor
  · intro h
    refine ⟨h.texts name (by simp [JsonTree.texts]), ?_, ?_⟩
    · exact ⟨fun c hc => h.texts c (by simp [JsonTree.texts, hc]), fun hd => (h.distinct hd).1,
        fun hp => (h.plain hp).1⟩
    · exact ⟨fun c hc => h.texts c (by simp [JsonTree.texts, hc]), fun hd => (h.distinct hd).2,
        fun hp => (h.plain hp).2⟩
  · rintro ⟨hname, hh, ht⟩
    refine ⟨?_, fun hd => ⟨hh.distinct hd, ht.distinct hd⟩, fun hp => ⟨hh.plain hp, ht.plain hp⟩⟩
    intro c hc
    simp only [JsonTree.texts, List.mem_cons, List.mem_append] at hc
    rcases hc with rfl | hc | hc
    · exact hname
    · exact hh.texts c hc
    · exact ht.texts c hc

/-- The bounds of a cell are those of its head, one level deeper, and of its tail. -/
theorem fits_cell {size size' deep deep' : ℕ} :
    d.Fits (size + size') (max (deep + 1) deep') depth before after ↔
      ∃ middle, d.Fits size deep (depth + 1) before middle ∧ d.Fits size' deep' depth middle after := by
  constructor
  · rintro ⟨rfl, hd, hm⟩
    rw [← Nat.add_max_add_left, within_max] at hd
    have hdeep : depth + 1 + deep = depth + (deep + 1) := by omega
    exact ⟨before + size, ⟨rfl, hdeep ▸ hd.1, hm.mono (by omega)⟩, ⟨by omega, hd.2, hm⟩⟩
  · rintro ⟨middle, ⟨rfl, hd, -⟩, ⟨rfl, hd', hm⟩⟩
    have hdeep : depth + 1 + deep = depth + (deep + 1) := by omega
    refine ⟨by omega, ?_, hm⟩
    rw [← Nat.add_max_add_left, within_max]
    exact ⟨hdeep ▸ hd, hd'⟩

theorem meets_item {head : JsonTree NumberToken .value} {tail : JsonTree NumberToken .items}
    {tree : JsonTree ν .items} :
    d.Meets (.item head tail) tree depth before after ↔
      ∃ first rest middle, tree = .item first rest ∧ d.Meets head first (depth + 1) before middle ∧
        d.Meets tail rest depth middle after := by
  constructor
  · rintro ⟨hc, ha, hf⟩
    simp only [JsonTree.traverse, Option.bind_eq_bind, Option.bind_eq_some_iff, Option.some.injEq] at hc
    obtain ⟨first, hfirst, rest, hrest, rfl⟩ := hc
    obtain ⟨hah, hat⟩ := allows_item.mp ha
    obtain ⟨middle, hfh, hft⟩ := fits_cell.mp hf
    exact ⟨first, rest, middle, rfl, ⟨hfirst, hah, hfh⟩, ⟨hrest, hat, hft⟩⟩
  · rintro ⟨first, rest, middle, rfl, hh, ht⟩
    refine ⟨?_, allows_item.mpr ⟨hh.allows, ht.allows⟩, fits_cell.mpr ⟨middle, hh.fits, ht.fits⟩⟩
    simp [JsonTree.traverse, hh.converts, ht.converts]

theorem meets_member {name : Text} {head : JsonTree NumberToken .value}
    {tail : JsonTree NumberToken .members} {tree : JsonTree ν .members} :
    d.Meets (.member name head tail) tree depth before after ↔
      d.acceptsText name = true ∧ ∃ first rest middle, tree = .member name first rest ∧
        d.Meets head first (depth + 1) before middle ∧ d.Meets tail rest depth middle after := by
  constructor
  · rintro ⟨hc, ha, hf⟩
    simp only [JsonTree.traverse, Option.bind_eq_bind, Option.bind_eq_some_iff, Option.some.injEq] at hc
    obtain ⟨first, hfirst, rest, hrest, rfl⟩ := hc
    obtain ⟨hname, hah, hat⟩ := allows_member.mp ha
    obtain ⟨middle, hfh, hft⟩ := fits_cell.mp hf
    exact ⟨hname, first, rest, middle, rfl, ⟨hfirst, hah, hfh⟩, ⟨hrest, hat, hft⟩⟩
  · rintro ⟨hname, first, rest, middle, rfl, hh, ht⟩
    refine ⟨?_, allows_member.mpr ⟨hname, hh.allows, ht.allows⟩,
      fits_cell.mpr ⟨middle, hh.fits, ht.fits⟩⟩
    simp [JsonTree.traverse, hh.converts, ht.converts]

/-! ### What is read is spelled -/

theorem readText_eq_some {text content rest : Text} :
    d.readText text = some (content, rest) ↔
      d.acceptsText content = true ∧
        ∃ spelled, Escaped content spelled ∧ text = spelled ++ quote :: rest := by
  simp only [readText, Option.bind_eq_bind, Option.bind_eq_some_iff, Option.ite_none_right_eq_some,
    Option.some.injEq, Prod.mk.injEq]
  constructor
  · rintro ⟨⟨spelled, tail⟩, hclose, other, hother, hok, rfl, rfl⟩
    exact ⟨hok, spelled, unescape_eq_some.mp hother, closeQuote_eq_some hclose⟩
  · rintro ⟨hok, spelled, hspelled, rfl⟩
    exact ⟨(spelled, rest), closeQuote_append hspelled rest, content,
      unescape_eq_some.mpr hspelled, hok, rfl, rfl⟩

theorem readName_sound {text rest : Text} {tree : JsonTree ν .value}
    (h : readName text = some (tree, rest)) (hcompound : d.compound = true) :
    ∃ source spelled, Spells source spelled ∧ text = spelled ++ rest ∧
      (d.Fits 1 0 depth before after → d.Meets source tree depth before after) := by
  simp only [readName] at h
  split at h
  · next tail htail =>
    simp only [Option.some.injEq, Prod.mk.injEq] at h
    obtain ⟨rfl, rfl⟩ := h
    exact ⟨.boolean true, _, .boolean true, dropName_eq_some htail,
      fun hf => meets_boolean.mpr ⟨rfl, hcompound, hf⟩⟩
  · split at h
    · next tail htail =>
      simp only [Option.some.injEq, Prod.mk.injEq] at h
      obtain ⟨rfl, rfl⟩ := h
      exact ⟨.boolean false, _, .boolean false, dropName_eq_some htail,
        fun hf => meets_boolean.mpr ⟨rfl, hcompound, hf⟩⟩
    · simp only [Option.map_eq_some_iff, Prod.mk.injEq] at h
      obtain ⟨tail, htail, rfl, rfl⟩ := h
      exact ⟨.null, _, .null, dropName_eq_some htail, fun hf => meets_null.mpr ⟨rfl, hcompound, hf⟩⟩

theorem readScalar_sound {text rest : Text} {tree : JsonTree ν .value}
    (h : d.readScalar text = some (tree, rest)) :
    ∃ source spelled, Spells source spelled ∧ text = spelled ++ rest ∧
      (d.Fits 1 0 depth before after → d.Meets source tree depth before after) := by
  simp only [readScalar] at h
  split at h
  · next found hfound =>
    simp only [Option.some.injEq] at h
    subst h
    rw [Option.ite_none_right_eq_some] at hfound
    exact readName_sound hfound.2 hfound.1
  · simp only [Option.bind_eq_bind, Option.bind_eq_some_iff, Option.some.injEq, Prod.mk.injEq] at h
    obtain ⟨⟨token, tail⟩, htoken, n, hn, rfl, rfl⟩ := h
    exact ⟨.number token, _, .number token, readNumber_text htoken,
      fun hf => meets_number.mpr ⟨⟨n, hn, rfl⟩, hf⟩⟩

variable (d)

def ValueRead (fuel : ℕ) : Prop :=
  ∀ {depth nodes : ℕ} {text : Text} {tree : JsonTree ν .value} {cursor : Cursor},
    d.readValue fuel depth ⟨text, nodes⟩ = some (tree, cursor) →
      ∃ source before spelled, Blank before ∧ Spells source spelled ∧
        text = before ++ (spelled ++ cursor.rest) ∧ d.Meets source tree depth nodes cursor.nodes

def ItemsRead (fuel : ℕ) : Prop :=
  ∀ {depth nodes : ℕ} {text : Text} {tree : JsonTree ν .items} {cursor : Cursor},
    d.readItems fuel depth ⟨text, nodes⟩ = some (tree, cursor) →
      ∃ source body, Spells source body ∧ text = body ++ closeBracket :: cursor.rest ∧
        d.Meets source tree depth nodes cursor.nodes

def MembersRead (fuel : ℕ) : Prop :=
  ∀ {depth nodes : ℕ} {seen : List Text} {text : Text} {tree : JsonTree ν .members} {cursor : Cursor},
    d.readMembers fuel depth seen ⟨text, nodes⟩ = some (tree, cursor) →
      ∃ source body, Spells source body ∧ text = body ++ closeBrace :: cursor.rest ∧
        d.Meets source tree depth nodes cursor.nodes ∧
        (d.distinct = true → source.names.Nodup ∧ ∀ name ∈ source.names, name ∉ seen)

variable {d}

theorem readValue_step {fuel : ℕ} (hitems : d.ItemsRead fuel) (hmembers : d.MembersRead fuel) :
    d.ValueRead (fuel + 1) := by
  intro depth nodes text tree cursor h
  simp only [readValue, Option.ite_none_right_eq_some] at h
  obtain ⟨⟨hdepth, hnodes⟩, h⟩ := h
  have hone : d.Fits 1 0 depth nodes (nodes + 1) := fits_one.mpr ⟨rfl, hdepth, hnodes⟩
  have hnone : d.Fits 0 0 depth (nodes + 1) (nodes + 1) := fits_container.mp hone
  split at h
  · next rest hquote =>
    simp only [Option.map_eq_some_iff, Prod.mk.injEq] at h
    obtain ⟨⟨content, tail⟩, hread, rfl, rfl⟩ := h
    obtain ⟨before, hb, rfl⟩ := expect_eq_some hquote
    obtain ⟨hok, spelled, hspelled, rfl⟩ := readText_eq_some.mp hread
    exact ⟨.text content, before, _, hb, .text hspelled, by simp, meets_text.mpr ⟨rfl, hok, hone⟩⟩
  · split at h
    · next rest hbrace =>
      obtain ⟨before, hb, rfl⟩ := expect_eq_some hbrace
      split at h
      · next tail hclose =>
        simp only [Option.some.injEq, Prod.mk.injEq] at h
        obtain ⟨rfl, rfl⟩ := h
        obtain ⟨blank, hblank, rfl⟩ := expect_eq_some hclose
        refine ⟨.object .noMembers, before, _, hb, .emptyObject hblank, by simp, ?_⟩
        exact meets_object.mpr
          ⟨by simp [JsonTree.names], _, rfl, meets_noMembers.mpr ⟨rfl, hnone⟩⟩
      · simp only [Option.map_eq_some_iff, Prod.mk.injEq] at h
        obtain ⟨⟨members, tail⟩, hread, rfl, rfl⟩ := h
        obtain ⟨source, body, hbody, rfl, hmeets, hnames⟩ := hmembers hread
        exact ⟨.object source, before, _, hb, .object hbody, by simp,
          meets_object.mpr ⟨fun hd => (hnames hd).1, members, rfl, hmeets⟩⟩
    · split at h
      · next rest hbracket =>
        rw [Option.ite_none_right_eq_some] at hbracket
        obtain ⟨before, hb, rfl⟩ := expect_eq_some hbracket.2
        split at h
        · next tail hclose =>
          simp only [Option.some.injEq, Prod.mk.injEq] at h
          obtain ⟨rfl, rfl⟩ := h
          obtain ⟨blank, hblank, rfl⟩ := expect_eq_some hclose
          exact ⟨.array .noItems, before, _, hb, .emptyArray hblank, by simp,
            meets_array.mpr ⟨hbracket.1, _, rfl, meets_noItems.mpr ⟨rfl, hnone⟩⟩⟩
        · simp only [Option.map_eq_some_iff, Prod.mk.injEq] at h
          obtain ⟨⟨items, tail⟩, hread, rfl, rfl⟩ := h
          obtain ⟨source, body, hbody, rfl, hmeets⟩ := hitems hread
          exact ⟨.array source, before, _, hb, .array hbody, by simp,
            meets_array.mpr ⟨hbracket.1, items, rfl, hmeets⟩⟩
      · simp only [Option.map_eq_some_iff, Prod.mk.injEq] at h
        obtain ⟨⟨scalar, tail⟩, hread, rfl, rfl⟩ := h
        obtain ⟨before, hb, htext, -⟩ := exists_blank text
        obtain ⟨source, spelled, hspelled, hrest, hmeets⟩ := readScalar_sound hread
        exact ⟨source, before, spelled, hb, hspelled, by rw [htext, hrest], hmeets hone⟩

theorem readItems_step {fuel : ℕ} (hvalue : d.ValueRead fuel) (hitems : d.ItemsRead fuel) :
    d.ItemsRead (fuel + 1) := by
  intro depth nodes text tree cursor h
  simp only [readItems, Option.bind_eq_bind, Option.bind_eq_some_iff] at h
  obtain ⟨⟨head, ⟨tail, middle⟩⟩, hhead, h⟩ := h
  obtain ⟨source, before, spelled, hb, hspelled, rfl, hmeets⟩ := hvalue hhead
  dsimp only at h
  split at h
  · next rest hclose =>
    simp only [Option.some.injEq, Prod.mk.injEq] at h
    obtain ⟨rfl, rfl⟩ := h
    obtain ⟨blank, hblank, rfl⟩ := expect_eq_some hclose
    refine ⟨.item source .noItems, _, .lastItem hb hspelled hblank, by simp, ?_⟩
    have hnone : d.Fits 0 0 depth middle middle := ⟨rfl, hmeets.fits.deep.mono (by omega), hmeets.fits.many⟩
    exact meets_item.mpr ⟨head, _, middle, rfl, hmeets, meets_noItems.mpr ⟨rfl, hnone⟩⟩
  · simp only [Option.bind_eq_some_iff, Option.some.injEq, Prod.mk.injEq] at h
    obtain ⟨rest, hcomma, ⟨others, last⟩, hothers, rfl, rfl⟩ := h
    obtain ⟨blank, hblank, rfl⟩ := expect_eq_some hcomma
    obtain ⟨remaining, body, hbody, rfl, hremaining⟩ := hitems hothers
    exact ⟨.item source remaining, _, .item hb hspelled hblank hbody, by simp,
      meets_item.mpr ⟨head, others, middle, rfl, hmeets, hremaining⟩⟩

theorem readMembers_step {fuel : ℕ} (hvalue : d.ValueRead fuel) (hmembers : d.MembersRead fuel) :
    d.MembersRead (fuel + 1) := by
  intro depth nodes seen text tree cursor h
  simp only [readMembers, Option.bind_eq_bind, Option.bind_eq_some_iff] at h
  obtain ⟨quoted, hquote, ⟨name, named⟩, hname, h⟩ := h
  dsimp only at h
  rw [Option.ite_none_left_eq_some] at h
  obtain ⟨hseen, h⟩ := h
  simp only [Option.bind_eq_some_iff] at h
  obtain ⟨colonRest, hcolon, ⟨head, ⟨tail, middle⟩⟩, hhead, h⟩ := h
  obtain ⟨start, hstart, rfl⟩ := expect_eq_some hquote
  obtain ⟨hok, written, hwritten, rfl⟩ := readText_eq_some.mp hname
  obtain ⟨between, hbetween, rfl⟩ := expect_eq_some hcolon
  obtain ⟨source, before, spelled, hb, hspelled, rfl, hmeets⟩ := hvalue hhead
  dsimp only at h
  split at h
  · next rest hclose =>
    simp only [Option.some.injEq, Prod.mk.injEq] at h
    obtain ⟨rfl, rfl⟩ := h
    obtain ⟨blank, hblank, rfl⟩ := expect_eq_some hclose
    have hnone : d.Fits 0 0 depth middle middle := ⟨rfl, hmeets.fits.deep.mono (by omega), hmeets.fits.many⟩
    refine ⟨.member name source .noMembers, _,
      .lastMember hstart hwritten hbetween hb hspelled hblank, by simp, ?_, ?_⟩
    · exact meets_member.mpr ⟨hok, head, _, middle, rfl, hmeets, meets_noMembers.mpr ⟨rfl, hnone⟩⟩
    · intro hd
      simpa [JsonTree.names, hd] using hseen
  · simp only [Option.bind_eq_some_iff, Option.some.injEq, Prod.mk.injEq] at h
    obtain ⟨rest, hcomma, ⟨others, last⟩, hothers, rfl, rfl⟩ := h
    obtain ⟨blank, hblank, rfl⟩ := expect_eq_some hcomma
    obtain ⟨remaining, body, hbody, rfl, hremaining, hnames⟩ := hmembers hothers
    refine ⟨.member name source remaining, _,
      .member hstart hwritten hbetween hb hspelled hblank hbody, by simp, ?_, ?_⟩
    · exact meets_member.mpr ⟨hok, head, others, middle, rfl, hmeets, hremaining⟩
    · intro hd
      obtain ⟨hnodup, hfresh⟩ := hnames hd
      simp only [hd, true_and] at hseen
      simp only [JsonTree.names, List.nodup_cons, List.forall_mem_cons]
      refine ⟨⟨?_, hnodup⟩, hseen, ?_⟩
      · intro hmem
        exact hfresh name hmem (by simp)
      · intro other hother hmem
        exact hfresh other hother (by simp [hmem])

/-- Whatever the fuel, what is read is spelled by the text that was passed. -/
theorem read_sound (fuel : ℕ) : d.ValueRead fuel ∧ d.ItemsRead fuel ∧ d.MembersRead fuel := by
  induction fuel with
  | zero =>
    refine ⟨?_, ?_, ?_⟩
    · intro depth nodes text tree cursor h
      simp [readValue] at h
    · intro depth nodes text tree cursor h
      simp [readItems] at h
    · intro depth nodes seen text tree cursor h
      simp [readMembers] at h
  | succ fuel ih =>
    obtain ⟨hvalue, hitems, hmembers⟩ := ih
    exact ⟨readValue_step hitems hmembers, readItems_step hvalue hitems,
      readMembers_step hvalue hmembers⟩

/-! ### What is spelled is read -/

theorem numberEnds_blank {blank rest : Text} (hb : Blank blank) (h : NumberEnds rest) :
    NumberEnds (blank ++ rest) := by
  cases blank with
  | nil => exact h
  | cons unit blank =>
    have hunit : isSpace unit = true := hb unit (by simp)
    simp only [isSpace, Bool.or_eq_true, beq_iff_eq] at hunit
    intro first hfirst
    simp only [List.cons_append, List.head?_cons, Option.mem_def, Option.some.injEq] at hfirst
    subst hfirst
    rcases hunit with ((rfl | rfl) | rfl) | rfl <;> simp [digit?, point, upperE, lowerE]

theorem numberEnds_cons {unit : UInt16} {rest : Text}
    (h : digit? unit = none ∧ unit ≠ point ∧ unit ≠ upperE ∧ unit ≠ lowerE) :
    NumberEnds (unit :: rest) := by
  intro first hfirst
  simp only [List.head?_cons, Option.mem_def, Option.some.injEq] at hfirst
  exact hfirst ▸ h

theorem digitUnit_facts (digit : Digit) :
    isSpace (digitUnit digit) = false ∧ digitUnit digit ≠ quote ∧ digitUnit digit ≠ openBrace ∧
      digitUnit digit ≠ openBracket ∧ digitUnit digit ≠ closeBracket ∧
      digitUnit digit ≠ 0x74 ∧ digitUnit digit ≠ 0x66 ∧ digitUnit digit ≠ 0x6E := by
  revert digit
  decide

/-- A value starts with a code unit that is neither white space nor a closing bracket. -/
theorem value_starts {part : Part} {source : JsonTree NumberToken part} {spelled : Text}
    (h : Spells source spelled) (hpart : part = .value) :
    ∃ unit rest, spelled = unit :: rest ∧ isSpace unit = false ∧ unit ≠ closeBracket := by
  cases h with
  | null => exact ⟨_, _, rfl, by decide, by decide⟩
  | boolean b => cases b <;> exact ⟨_, _, rfl, by decide, by decide⟩
  | number token =>
    obtain ⟨unit, rest, htext, hunit⟩ := token.text_eq_cons
    refine ⟨unit, rest, htext, ?_⟩
    rcases hunit with rfl | ⟨digit, rfl⟩
    · decide
    · have hfacts := digitUnit_facts digit
      exact ⟨hfacts.1, hfacts.2.2.2.2.1⟩
  | text h => exact ⟨_, _, rfl, by decide, by decide⟩
  | emptyArray => exact ⟨_, _, rfl, by decide, by decide⟩
  | array => exact ⟨_, _, rfl, by decide, by decide⟩
  | emptyObject => exact ⟨_, _, rfl, by decide, by decide⟩
  | object => exact ⟨_, _, rfl, by decide, by decide⟩
  | lastItem => cases hpart
  | item => cases hpart
  | lastMember => cases hpart
  | member => cases hpart

theorem readName_number (token : NumberToken) (rest : Text) :
    readName (ν := ν) (token.text ++ rest) = none := by
  obtain ⟨unit, tail, htext, hunit⟩ := token.text_eq_cons
  rw [htext]
  rcases hunit with rfl | ⟨digit, rfl⟩
  · rfl
  · have hfacts := digitUnit_facts digit
    simp [readName, booleanName, nullName, units, dropName, hfacts]

/-- A value that starts with none of the opening marks is read as a scalar. -/
theorem readValue_scalar {fuel : ℕ} {blank text : Text} {nodes : ℕ}
    (hone : d.Fits 1 0 depth nodes after) (hb : Blank blank)
    (hstart : ∃ unit rest, text = unit :: rest ∧ isSpace unit = false ∧ unit ≠ quote ∧
      unit ≠ openBrace ∧ unit ≠ openBracket) :
    d.readValue (fuel + 1) depth ⟨blank ++ text, nodes⟩ =
      (d.readScalar text).map fun (scalar, rest) => (scalar, ⟨rest, after⟩) := by
  obtain ⟨unit, rest, rfl, hspace, hquote, hbrace, hbracket⟩ := hstart
  obtain ⟨rfl, hdepth, hnodes⟩ := fits_one.mp hone
  have hskip : skipSpace (blank ++ unit :: rest) = unit :: rest := by
    rw [skipSpace_append hb, skipSpace_of_inked]
    simp [Inked, hspace]
  simp [readValue, hdepth, hnodes, expect_eq_none hb hspace hquote, expect_eq_none hb hspace hbrace,
    expect_eq_none hb hspace hbracket, hskip]

variable (d)

/-- What is spelled is read, with enough fuel, as every tree that the scanner may make of it. -/
def Complete : {part : Part} → JsonTree NumberToken part → Text → Prop
  | .value, source, spelled =>
    ∀ {fuel depth nodes after : ℕ} {tree : JsonTree ν .value} {blank rest : Text},
      2 * spelled.length ≤ fuel → Blank blank → NumberEnds rest →
      d.Meets source tree depth nodes after →
      d.readValue fuel depth ⟨blank ++ (spelled ++ rest), nodes⟩ = some (tree, ⟨rest, after⟩)
  | .items, source, body =>
    ∀ {fuel depth nodes after : ℕ} {tree : JsonTree ν .items} {rest : Text},
      2 * body.length + 1 ≤ fuel → d.Meets source tree depth nodes after →
      d.readItems fuel depth ⟨body ++ closeBracket :: rest, nodes⟩ = some (tree, ⟨rest, after⟩)
  | .members, source, body =>
    ∀ {fuel depth nodes after : ℕ} {seen : List Text} {tree : JsonTree ν .members} {rest : Text},
      2 * body.length + 1 ≤ fuel → d.Meets source tree depth nodes after →
      (d.distinct = true → source.names.Nodup ∧ ∀ name ∈ source.names, name ∉ seen) →
      d.readMembers fuel depth seen ⟨body ++ closeBrace :: rest, nodes⟩ = some (tree, ⟨rest, after⟩)

variable {d}

theorem readScalar_name {b : Bool} {rest : Text} (hcompound : d.compound = true) :
    d.readScalar (booleanName b ++ rest) = some (.boolean b, rest) := by
  have hname : readName (ν := ν) (booleanName b ++ rest) = some (.boolean b, rest) := by
    cases b with
    | true => simp [readName, dropName_append]
    | false =>
      have htrue : dropName (booleanName true) (booleanName false ++ rest) = none := rfl
      simp [readName, htrue, dropName_append]
  simp [readScalar, hcompound, hname]

theorem readScalar_null {rest : Text} (hcompound : d.compound = true) :
    d.readScalar (nullName ++ rest) = some (.null, rest) := by
  have htrue : dropName (booleanName true) (nullName ++ rest) = none := rfl
  have hfalse : dropName (booleanName false) (nullName ++ rest) = none := rfl
  simp [readScalar, hcompound, readName, htrue, hfalse, dropName_append]

theorem readScalar_number {token : NumberToken} {n : ν} {rest : Text} (hn : d.number token = some n)
    (hrest : NumberEnds rest) : d.readScalar (token.text ++ rest) = some (.number n, rest) := by
  simp [readScalar, readName_number, readNumber_append token hrest, hn]

theorem complete_null : d.Complete .null nullName := by
  intro fuel depth nodes after tree blank rest hfuel hb hrest hmeets
  obtain ⟨rfl, hcompound, hone⟩ := meets_null.mp hmeets
  obtain ⟨fuel, rfl⟩ := Nat.exists_eq_add_one_of_ne_zero (Nat.ne_of_gt (lt_of_lt_of_le (by decide) hfuel))
  rw [readValue_scalar hone hb, readScalar_null hcompound]
  · rfl
  · exact ⟨_, _, rfl, by decide, by decide, by decide, by decide⟩

theorem complete_boolean (b : Bool) : d.Complete (.boolean b) (booleanName b) := by
  intro fuel depth nodes after tree blank rest hfuel hb hrest hmeets
  obtain ⟨rfl, hcompound, hone⟩ := meets_boolean.mp hmeets
  have hpos : 0 < fuel := by
    refine lt_of_lt_of_le ?_ hfuel
    cases b <;> decide
  obtain ⟨fuel, rfl⟩ := Nat.exists_eq_add_one_of_ne_zero hpos.ne'
  rw [readValue_scalar hone hb, readScalar_name hcompound]
  · rfl
  · cases b <;> exact ⟨_, _, rfl, by decide, by decide, by decide, by decide⟩

theorem complete_number (token : NumberToken) :
    d.Complete (.number token) token.text := by
  intro fuel depth nodes after tree blank rest hfuel hb hrest hmeets
  obtain ⟨⟨n, hn, rfl⟩, hone⟩ := meets_number.mp hmeets
  obtain ⟨unit, tail, htext, hunit⟩ := token.text_eq_cons
  have hpos : 0 < fuel := by
    simp only [htext, List.length_cons] at hfuel
    omega
  obtain ⟨fuel, rfl⟩ := Nat.exists_eq_add_one_of_ne_zero hpos.ne'
  rw [readValue_scalar hone hb, readScalar_number hn hrest]
  · rfl
  · refine ⟨unit, tail ++ rest, by simp [htext], ?_⟩
    rcases hunit with rfl | ⟨digit, rfl⟩
    · decide
    · have hfacts := digitUnit_facts digit
      exact ⟨hfacts.1, hfacts.2.1, hfacts.2.2.1, hfacts.2.2.2.1⟩

theorem complete_text {content spelled : Text} (h : Escaped content spelled) :
    d.Complete (.text content) (quote :: (spelled ++ [quote])) := by
  intro fuel depth nodes after tree blank rest hfuel hb hrest hmeets
  obtain ⟨rfl, hok, hone⟩ := meets_text.mp hmeets
  obtain ⟨rfl, hdepth, hnodes⟩ := fits_one.mp hone
  obtain ⟨fuel, rfl⟩ := Nat.exists_eq_add_one_of_ne_zero
    (Nat.ne_of_gt (lt_of_lt_of_le (by simp) hfuel))
  have hquote : expect quote (blank ++ quote :: (spelled ++ quote :: rest)) =
      some (spelled ++ quote :: rest) := expect_append hb (by decide)
  have hread : d.readText (spelled ++ quote :: rest) = some (content, rest) :=
    readText_eq_some.mpr ⟨hok, spelled, h, rfl⟩
  simp [readValue, hdepth, hnodes, hquote, hread]

theorem complete_emptyObject {space : Text} (hs : Blank space) :
    d.Complete (.object .noMembers) (openBrace :: (space ++ [closeBrace])) := by
  intro fuel depth nodes after tree blank rest hfuel hb hrest hmeets
  obtain ⟨-, read, rfl, hread⟩ := meets_object.mp hmeets
  obtain ⟨rfl, hfits⟩ := meets_noMembers.mp hread
  obtain ⟨rfl, hdepth, hnodes⟩ := fits_one.mp (fits_container.mpr hfits)
  obtain ⟨fuel, rfl⟩ := Nat.exists_eq_add_one_of_ne_zero
    (Nat.ne_of_gt (lt_of_lt_of_le (by simp) hfuel))
  have hquote : expect quote (blank ++ openBrace :: (space ++ closeBrace :: rest)) = none :=
    expect_eq_none hb (by decide) (by decide)
  have hbrace : expect openBrace (blank ++ openBrace :: (space ++ closeBrace :: rest)) =
      some (space ++ closeBrace :: rest) := expect_append hb (by decide)
  have hclose : expect closeBrace (space ++ closeBrace :: rest) = some rest :=
    expect_append hs (by decide)
  simp [readValue, hdepth, hnodes, hquote, hbrace, hclose]

theorem complete_emptyArray {space : Text} (hs : Blank space) :
    d.Complete (.array .noItems) (openBracket :: (space ++ [closeBracket])) := by
  intro fuel depth nodes after tree blank rest hfuel hb hrest hmeets
  obtain ⟨hcompound, read, rfl, hread⟩ := meets_array.mp hmeets
  obtain ⟨rfl, hfits⟩ := meets_noItems.mp hread
  obtain ⟨rfl, hdepth, hnodes⟩ := fits_one.mp (fits_container.mpr hfits)
  obtain ⟨fuel, rfl⟩ := Nat.exists_eq_add_one_of_ne_zero
    (Nat.ne_of_gt (lt_of_lt_of_le (by simp) hfuel))
  have hquote : expect quote (blank ++ openBracket :: (space ++ closeBracket :: rest)) = none :=
    expect_eq_none hb (by decide) (by decide)
  have hbrace : expect openBrace (blank ++ openBracket :: (space ++ closeBracket :: rest)) = none :=
    expect_eq_none hb (by decide) (by decide)
  have hbracket : expect openBracket (blank ++ openBracket :: (space ++ closeBracket :: rest)) =
      some (space ++ closeBracket :: rest) := expect_append hb (by decide)
  have hclose : expect closeBracket (space ++ closeBracket :: rest) = some rest :=
    expect_append hs (by decide)
  simp [readValue, hdepth, hnodes, hquote, hbrace, hcompound, hbracket, hclose]

/-- The text of members starts with the quote of a name. -/
theorem members_start {part : Part} {source : JsonTree NumberToken part} {body : Text}
    (h : Spells source body) (hpart : part = .members) :
    ∃ start rest, Blank start ∧ body = start ++ quote :: rest := by
  cases h with
  | lastMember hs => exact ⟨_, _, hs, rfl⟩
  | member hs => exact ⟨_, _, hs, rfl⟩
  | _ => cases hpart

/-- The text of items starts with a value. -/
theorem items_start {part : Part} {source : JsonTree NumberToken part} {body : Text}
    (h : Spells source body) (hpart : part = .items) :
    ∃ start unit rest, Blank start ∧ body = start ++ unit :: rest ∧ isSpace unit = false ∧
      unit ≠ closeBracket := by
  cases h with
  | lastItem hb h =>
    obtain ⟨unit, rest, rfl, hunit⟩ := value_starts h rfl
    exact ⟨_, unit, _, hb, rfl, hunit⟩
  | item hb h =>
    obtain ⟨unit, rest, rfl, hunit⟩ := value_starts h rfl
    exact ⟨_, unit, _, hb, rfl, hunit⟩
  | _ => cases hpart

theorem complete_object {members : JsonTree NumberToken .members} {body : Text} (h : Spells members body)
    (ih : d.Complete members body) :
    d.Complete (.object members) (openBrace :: (body ++ [closeBrace])) := by
  intro fuel depth nodes after tree blank rest hfuel hb hrest hmeets
  obtain ⟨hnames, read, rfl, hread⟩ := meets_object.mp hmeets
  obtain ⟨hdepth, hnodes⟩ := hread.fits.enters
  simp only [List.length_cons, List.length_append, List.length_nil] at hfuel
  obtain ⟨fuel, rfl⟩ := Nat.exists_eq_add_one_of_ne_zero (n := fuel) (by omega)
  have hquote : expect quote (blank ++ openBrace :: (body ++ closeBrace :: rest)) = none :=
    expect_eq_none hb (by decide) (by decide)
  have hbrace : expect openBrace (blank ++ openBrace :: (body ++ closeBrace :: rest)) =
      some (body ++ closeBrace :: rest) := expect_append hb (by decide)
  have hclose : expect closeBrace (body ++ closeBrace :: rest) = none := by
    obtain ⟨start, tail, hstart, rfl⟩ := members_start h rfl
    simpa using expect_eq_none hstart (by decide) (by decide)
  have hbody : d.readMembers fuel depth [] ⟨body ++ closeBrace :: rest, nodes + 1⟩ =
      some (read, ⟨rest, after⟩) :=
    ih (by omega) hread fun hd => ⟨hnames hd, by simp⟩
  simp [readValue, hdepth, hnodes, hquote, hbrace, hclose, hbody]

theorem complete_array {items : JsonTree NumberToken .items} {body : Text} (h : Spells items body)
    (ih : d.Complete items body) :
    d.Complete (.array items) (openBracket :: (body ++ [closeBracket])) := by
  intro fuel depth nodes after tree blank rest hfuel hb hrest hmeets
  obtain ⟨hcompound, read, rfl, hread⟩ := meets_array.mp hmeets
  obtain ⟨hdepth, hnodes⟩ := hread.fits.enters
  simp only [List.length_cons, List.length_append, List.length_nil] at hfuel
  obtain ⟨fuel, rfl⟩ := Nat.exists_eq_add_one_of_ne_zero (n := fuel) (by omega)
  have hquote : expect quote (blank ++ openBracket :: (body ++ closeBracket :: rest)) = none :=
    expect_eq_none hb (by decide) (by decide)
  have hbrace : expect openBrace (blank ++ openBracket :: (body ++ closeBracket :: rest)) = none :=
    expect_eq_none hb (by decide) (by decide)
  have hbracket : expect openBracket (blank ++ openBracket :: (body ++ closeBracket :: rest)) =
      some (body ++ closeBracket :: rest) := expect_append hb (by decide)
  have hclose : expect closeBracket (body ++ closeBracket :: rest) = none := by
    obtain ⟨start, unit, tail, hstart, rfl, hspace, hne⟩ := items_start h rfl
    simpa using expect_eq_none hstart hspace hne
  have hbody : d.readItems fuel depth ⟨body ++ closeBracket :: rest, nodes + 1⟩ =
      some (read, ⟨rest, after⟩) := ih (by omega) hread
  simp [readValue, hdepth, hnodes, hquote, hbrace, hcompound, hbracket, hclose, hbody]

/-- What follows a value in an array or an object does not continue a number. -/
theorem ends_comma (rest : Text) : NumberEnds (comma :: rest) := numberEnds_cons (by decide)

theorem ends_closeBracket (rest : Text) : NumberEnds (closeBracket :: rest) :=
  numberEnds_cons (by decide)

theorem ends_closeBrace (rest : Text) : NumberEnds (closeBrace :: rest) := numberEnds_cons (by decide)

theorem complete_lastItem {head : JsonTree NumberToken .value} {before spelled after : Text}
    (hb : Blank before) (ha : Blank after) (ih : d.Complete head spelled) :
    d.Complete (.item head .noItems) (before ++ (spelled ++ after)) := by
  intro fuel depth nodes last tree rest hfuel hmeets
  obtain ⟨first, none, middle, rfl, hhead, htail⟩ := meets_item.mp hmeets
  obtain ⟨rfl, hfits⟩ := meets_noItems.mp htail
  obtain rfl : last = middle := hfits.count
  simp only [List.length_append] at hfuel
  obtain ⟨fuel, rfl⟩ := Nat.exists_eq_add_one_of_ne_zero (n := fuel) (by omega)
  have hread : d.readValue fuel (depth + 1) ⟨before ++ (spelled ++ (after ++ closeBracket :: rest)),
      nodes⟩ = some (first, ⟨after ++ closeBracket :: rest, last⟩) :=
    ih (by omega) hb (numberEnds_blank ha (ends_closeBracket rest)) hhead
  have hclose : expect closeBracket (after ++ closeBracket :: rest) = some rest :=
    expect_append ha (by decide)
  simp [readItems, hread, hclose]

theorem complete_item {head : JsonTree NumberToken .value} {tail : JsonTree NumberToken .items}
    {before spelled after body : Text} (hb : Blank before) (ha : Blank after)
    (ihh : d.Complete head spelled) (iht : d.Complete tail body) :
    d.Complete (.item head tail)
      (before ++ (spelled ++ (after ++ comma :: body))) := by
  intro fuel depth nodes last tree rest hfuel hmeets
  obtain ⟨first, others, middle, rfl, hhead, htail⟩ := meets_item.mp hmeets
  simp only [List.length_append, List.length_cons] at hfuel
  obtain ⟨fuel, rfl⟩ := Nat.exists_eq_add_one_of_ne_zero (n := fuel) (by omega)
  have hread : d.readValue fuel (depth + 1)
      ⟨before ++ (spelled ++ (after ++ comma :: (body ++ closeBracket :: rest))), nodes⟩ =
        some (first, ⟨after ++ comma :: (body ++ closeBracket :: rest), middle⟩) :=
    ihh (by omega) hb (numberEnds_blank ha (ends_comma _)) hhead
  have hclose : expect closeBracket (after ++ comma :: (body ++ closeBracket :: rest)) = none :=
    expect_eq_none ha (by decide) (by decide)
  have hcomma : expect comma (after ++ comma :: (body ++ closeBracket :: rest)) =
      some (body ++ closeBracket :: rest) := expect_append ha (by decide)
  have hothers : d.readItems fuel depth ⟨body ++ closeBracket :: rest, middle⟩ =
      some (others, ⟨rest, last⟩) := iht (by omega) htail
  simp [readItems, hread, hclose, hcomma, hothers]

theorem complete_lastMember {name : Text} {head : JsonTree NumberToken .value}
    {start written between before spelled after : Text} (hs : Blank start) (hn : Escaped name written)
    (hm : Blank between) (hb : Blank before) (ha : Blank after) (ih : d.Complete head spelled) :
    d.Complete (.member name head .noMembers)
      (start ++ quote :: (written ++ quote :: (between ++ colon ::
        (before ++ (spelled ++ after))))) := by
  intro fuel depth nodes last seen tree rest hfuel hmeets hnames
  obtain ⟨hok, first, none, middle, rfl, hhead, htail⟩ := meets_member.mp hmeets
  obtain ⟨rfl, hfits⟩ := meets_noMembers.mp htail
  obtain rfl : last = middle := hfits.count
  simp only [List.length_append, List.length_cons] at hfuel
  obtain ⟨fuel, rfl⟩ := Nat.exists_eq_add_one_of_ne_zero (n := fuel) (by omega)
  have hread : d.readValue fuel (depth + 1) ⟨before ++ (spelled ++ (after ++ closeBrace :: rest)),
      nodes⟩ = some (first, ⟨after ++ closeBrace :: rest, last⟩) :=
    ih (by omega) hb (numberEnds_blank ha (ends_closeBrace rest)) hhead
  have hclose : expect closeBrace (after ++ closeBrace :: rest) = some rest :=
    expect_append ha (by decide)
  have hname : d.readText (written ++ quote :: (between ++ colon ::
      (before ++ (spelled ++ (after ++ closeBrace :: rest))))) = some (name, _) :=
    readText_eq_some.mpr ⟨hok, written, hn, rfl⟩
  have hseen : ¬(d.distinct = true ∧ name ∈ seen) := by
    rintro ⟨hd, hmem⟩
    exact (hnames hd).2 name (by simp [JsonTree.names]) hmem
  simp [readMembers, expect_append hs, expect_append hm, hname, hseen, hread, hclose,
    show isSpace quote = false by decide, show isSpace colon = false by decide]

theorem complete_member {name : Text} {head : JsonTree NumberToken .value}
    {tail : JsonTree NumberToken .members} {start written between before spelled after body : Text}
    (hs : Blank start) (hn : Escaped name written) (hm : Blank between) (hb : Blank before)
    (ha : Blank after) (ihh : d.Complete head spelled) (iht : d.Complete tail body) :
    d.Complete (.member name head tail)
      (start ++ quote :: (written ++ quote :: (between ++ colon ::
        (before ++ (spelled ++ (after ++ comma :: body)))))) := by
  intro fuel depth nodes last seen tree rest hfuel hmeets hnames
  obtain ⟨hok, first, others, middle, rfl, hhead, htail⟩ := meets_member.mp hmeets
  simp only [List.length_append, List.length_cons] at hfuel
  obtain ⟨fuel, rfl⟩ := Nat.exists_eq_add_one_of_ne_zero (n := fuel) (by omega)
  have hread : d.readValue fuel (depth + 1)
      ⟨before ++ (spelled ++ (after ++ comma :: (body ++ closeBrace :: rest))), nodes⟩ =
        some (first, ⟨after ++ comma :: (body ++ closeBrace :: rest), middle⟩) :=
    ihh (by omega) hb (numberEnds_blank ha (ends_comma _)) hhead
  have hclose : expect closeBrace (after ++ comma :: (body ++ closeBrace :: rest)) = none :=
    expect_eq_none ha (by decide) (by decide)
  have hcomma : expect comma (after ++ comma :: (body ++ closeBrace :: rest)) =
      some (body ++ closeBrace :: rest) := expect_append ha (by decide)
  have hname : d.readText (written ++ quote :: (between ++ colon ::
      (before ++ (spelled ++ (after ++ comma :: (body ++ closeBrace :: rest)))))) = some (name, _) :=
    readText_eq_some.mpr ⟨hok, written, hn, rfl⟩
  have hseen : ¬(d.distinct = true ∧ name ∈ seen) := by
    rintro ⟨hd, hmem⟩
    exact (hnames hd).2 name (by simp [JsonTree.names]) hmem
  have hothers : d.readMembers fuel depth (name :: seen) ⟨body ++ closeBrace :: rest, middle⟩ =
      some (others, ⟨rest, last⟩) := by
    refine iht (by omega) htail fun hd => ?_
    obtain ⟨hnodup, hfresh⟩ := hnames hd
    simp only [JsonTree.names, List.nodup_cons, List.forall_mem_cons] at hnodup hfresh
    refine ⟨hnodup.2, fun other hother hmem => ?_⟩
    rcases List.mem_cons.mp hmem with rfl | hmem
    · exact hnodup.1 hother
    · exact hfresh.2 other hother hmem
  simp [readMembers, expect_append hs, expect_append hm, hname, hseen, hread, hclose, hcomma, hothers,
    show isSpace quote = false by decide, show isSpace colon = false by decide]

/-- With enough fuel, what is spelled is read. -/
theorem read_complete {part : Part} {source : JsonTree NumberToken part} {spelled : Text}
    (h : Spells source spelled) : d.Complete source spelled := by
  induction h with
  | null => exact complete_null
  | boolean b => exact complete_boolean b
  | number token => exact complete_number token
  | text h => exact complete_text h
  | emptyArray hb => exact complete_emptyArray hb
  | array h ih => exact complete_array h ih
  | emptyObject hb => exact complete_emptyObject hb
  | object h ih => exact complete_object h ih
  | lastItem hb _ ha ih => exact complete_lastItem hb ha ih
  | item hb _ ha _ ihh iht => exact complete_item hb ha ihh iht
  | lastMember hs hn hm hb _ ha ih => exact complete_lastMember hs hn hm hb ha ih
  | member hs hn hm hb _ ha _ ihh iht => exact complete_member hs hn hm hb ha ihh iht

/-! ### Whole texts -/

/-- A text is read exactly when the grammar spells it with a tree within the bounds, and the
    tree then is what the scanner returns. -/
theorem read_eq_some {text : Text} {tree : JsonTree ν .value} :
    d.read text = some tree ↔
      ∃ source, Document source text ∧ source.traverse d.number = some tree ∧ d.Allows source ∧
        Within d.maxDepth source.depth ∧ Within d.maxNodes source.size := by
  simp only [read, Option.bind_eq_bind, Option.bind_eq_some_iff, Option.ite_none_right_eq_some,
    Option.some.injEq]
  constructor
  · rintro ⟨⟨found, cursor⟩, hread, hrest, rfl⟩
    obtain ⟨source, before, spelled, hb, hspelled, htext, hmeets⟩ := (read_sound _).1 hread
    refine ⟨source, ⟨before, spelled, cursor.rest, hb, hspelled, skipSpace_eq_nil.mp hrest, htext⟩,
      hmeets.converts, hmeets.allows, ?_, ?_⟩
    · simpa using hmeets.fits.deep
    · have hcount := hmeets.fits.count
      simp only [Nat.zero_add] at hcount
      exact hcount ▸ hmeets.fits.many
  · rintro ⟨source, ⟨before, spelled, after, hb, hspelled, ha, rfl⟩, hconverts, hallows, hdeep, hmany⟩
    refine ⟨(tree, ⟨after, source.size⟩), ?_, skipSpace_eq_nil.mpr ha, rfl⟩
    refine read_complete hspelled ?_ hb ?_ ⟨hconverts, hallows, ⟨by simp, by simpa using hdeep, hmany⟩⟩
    · simp only [List.length_append]
      omega
    · have hends : NumberEnds (after ++ []) := numberEnds_blank ha (by simp [NumberEnds])
      simpa using hends

end Dialect

/-- The scanner that refuses nothing and keeps the tokens of numbers. -/
def plainDialect : Dialect NumberToken where
  maxDepth := none
  maxNodes := none
  compound := true
  distinct := false
  acceptsText := fun _ => true
  number := some

theorem JsonTree.traverse_some {ν : Type} {part : Part} (tree : JsonTree ν part) :
    tree.traverse some = some tree := by
  induction tree with
  | null => rfl
  | boolean => rfl
  | number => rfl
  | text => rfl
  | array items ih => simp [traverse, ih]
  | object members ih => simp [traverse, ih]
  | noItems => rfl
  | item head tail ihh iht => simp [traverse, ihh, iht]
  | noMembers => rfl
  | member name head tail ihh iht => simp [traverse, ihh, iht]

theorem plainDialect_read {text : Text} {tree : JsonTree NumberToken .value} :
    plainDialect.read text = some tree ↔ Document tree text := by
  rw [Dialect.read_eq_some]
  constructor
  · rintro ⟨source, hsource, htree, -⟩
    rw [show plainDialect.number = some from rfl, JsonTree.traverse_some, Option.some.injEq] at htree
    exact htree ▸ hsource
  · intro h
    refine ⟨tree, h, tree.traverse_some, ⟨fun _ _ => rfl, ?_, ?_⟩, ?_, ?_⟩
    · intro hd
      simp [plainDialect] at hd
    · intro hp
      simp [plainDialect] at hp
    · simp [plainDialect, Within]
    · simp [plainDialect, Within]

/-- No text is spelled by two trees. -/
theorem Document.unique {text : Text} {left right : JsonTree NumberToken .value}
    (hl : Document left text) (hr : Document right text) : left = right := by
  have hread := plainDialect_read.mpr hl
  rw [plainDialect_read.mpr hr, Option.some.injEq] at hread
  exact hread.symm

end JsonText
