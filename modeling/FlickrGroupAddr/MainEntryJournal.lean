import FlickrGroupAddr.Lib.Keyset
import FlickrGroupAddr.Lib.SqlInt
import FlickrGroupAddr.Lib.Table
import Mathlib.Data.String.Basic

/-!
# The main-entry journal

`journal.ts` and `schema.sql` of the journal database: one control row, the admitted
invocations and the effects they started.  Each call is one statement, or one
transaction of two, under guards that the triggers of the tables repeat.
-/

namespace FlickrGroupAddr

set_option autoImplicit false

open KeyedTable

/-! ## Values -/

def hexDigit (c : Char) : Bool := c.isDigit || ('a' ≤ c && c ≤ 'f')

/-- `/^[a-f0-9]{64}$/`. -/
def isLowerDigest (text : String) : Bool := text.length == 64 && text.toList.all hexDigit

/-- `/^[a-f0-9]{8}-[a-f0-9]{4}-[a-f0-9]{4}-[a-f0-9]{4}-[a-f0-9]{12}$/`. -/
def isUuid (text : String) : Bool :=
  text.length == 36 && text.toList.zipIdx.all fun c =>
    if c.2 = 8 ∨ c.2 = 13 ∨ c.2 = 18 ∨ c.2 = 23 then c.1 == '-' else hexDigit c.1

/-- `/^[A-Za-z0-9_-]{1,80}$/`. -/
def isLifecycle (text : String) : Bool :=
  decide (1 ≤ text.length ∧ text.length ≤ 80) &&
    text.toList.all fun c => c.isAlphanum || c == '_' || c == '-'

/-- The value of a string of digits, as `BigInt` reads it. -/
def decimalValue (digits : List Char) : Nat :=
  digits.foldl (fun value c => value * 10 + (c.toNat - '0'.toNat)) 0

/-- A positive decimal of at most 19 digits without a leading zero, up to `2^63 - 1`. -/
def isGeneration (text : String) : Bool :=
  decide (1 ≤ text.length ∧ text.length ≤ 19) && text.toList.all Char.isDigit &&
    text.toList.head? != some '0' && decide ((decimalValue text.toList : Int) ≤ SqlInt.maxInt64)

structure MainEntryBinding where
  candidate : String
  lifecycle : String
  generation : String
deriving DecidableEq

/-- `binding(v)`. -/
def MainEntryBinding.valid (binding : MainEntryBinding) : Bool :=
  isLowerDigest binding.candidate && isLifecycle binding.lifecycle && isGeneration binding.generation

inductive MainEntry where
  | fetch
  | scheduled
deriving DecidableEq

inductive MainEffect where
  | d1
  | provider
  | providerBody
  | providerCancel
  | secretRead
  | wake
  | asset
  | repairReader
deriving DecidableEq

inductive EntryOutcome where
  | fulfilled
  | rejected
deriving DecidableEq

structure MainEntryLease where
  binding : MainEntryBinding
  invocation : String
  entry : MainEntry
deriving DecidableEq

/-! ## Tables -/

/-- `pmb1_journal_control`, the singleton row; `state` is the nullness of the evidence. -/
structure JournalControl where
  binding : MainEntryBinding
  databaseId : String
  stopEvidence : Option String
  revision : Nat
deriving DecidableEq

/-- `pmb1_journal_invocations`. -/
structure JournalInvocation where
  invocation : String
  binding : MainEntryBinding
  entry : MainEntry
  returned : Option EntryOutcome
deriving DecidableEq

/-- `pmb1_journal_effects`. -/
structure JournalEffect where
  effect : String
  invocation : String
  kind : MainEffect
  settled : Option EntryOutcome
deriving DecidableEq

structure JournalDb where
  control : JournalControl
  invocations : Table JournalInvocation.invocation
  effects : Table JournalEffect.effect
deriving DecidableEq

namespace JournalDb

/-- An effect of the invocation has no outcome yet. -/
def pendingEffect (db : JournalDb) (invocation : String) : Bool :=
  db.effects.rows.any fun effect => effect.invocation = invocation ∧ effect.settled = none

/-- The row of an invocation that has not returned, as a lease names it. -/
def leased (db : JournalDb) (v : MainEntryLease) : Option JournalInvocation :=
  (db.invocations.find? v.invocation).filter fun row =>
    row.entry = v.entry ∧ row.binding = v.binding ∧ row.returned = none

/-! ## Writes with their triggers -/

/-- An update of the control row under `pmb1_control_update`. -/
def updateControl (db : JournalDb) (control : JournalControl) : Option JournalDb :=
  if control.binding = db.control.binding ∧ control.databaseId = db.control.databaseId ∧
      control.revision = db.control.revision + 1 ∧
      (db.control.stopEvidence.isSome = true → control.stopEvidence = db.control.stopEvidence) ∧
      (control.revision : Int) ≤ SqlInt.maxInt64 then
    some { db with control := control }
  else none

/-- The four `*_revision_*` triggers. -/
def bump (db : JournalDb) : Option JournalDb :=
  db.updateControl { db.control with revision := db.control.revision + 1 }

/-- An insert under `pmb1_invocation_insert`. -/
def insertInvocation (db : JournalDb) (row : JournalInvocation) : Option JournalDb :=
  if row.returned = none ∧ db.control.stopEvidence = none ∧
      db.control.binding = row.binding ∧ isUuid row.invocation = true then
    (db.invocations.insert? row).bind fun invocations =>
      ({ db with invocations := invocations }).bump
  else none

/-- An update under `pmb1_invocation_update`. -/
def updateInvocation (db : JournalDb) (row : JournalInvocation) (outcome : EntryOutcome) :
    Option JournalDb :=
  if row.returned = none ∧ db.pendingEffect row.invocation = false then
    ({ db with invocations := db.invocations.set { row with returned := some outcome } }).bump
  else none

/-- An insert under `pmb1_effect_insert`. -/
def insertEffect (db : JournalDb) (row : JournalEffect) : Option JournalDb :=
  if row.settled = none ∧ isUuid row.effect = true ∧
      ∃ invocation ∈ db.invocations.find? row.invocation,
        invocation.returned = none ∧ invocation.binding = db.control.binding then
    (db.effects.insert? row).bind fun effects => ({ db with effects := effects }).bump
  else none

/-- An update under `pmb1_effect_update`. -/
def updateEffect (db : JournalDb) (row : JournalEffect) (outcome : EntryOutcome) :
    Option JournalDb :=
  if row.settled = none ∧
      ∃ invocation ∈ db.invocations.find? row.invocation, invocation.returned = none then
    ({ db with effects := db.effects.set { row with settled := some outcome } }).bump
  else none

end JournalDb

/-! ## Statements -/

/-- One `D1MainEntryJournal`: its checked configuration. -/
structure JournalClient where
  binding : MainEntryBinding
  journalDatabaseId : String
  valid : binding.valid = true
  uuid : isUuid journalDatabaseId = true

namespace JournalClient

variable (client : JournalClient)

/-- `MATCH`, on the control row. -/
def matching (db : JournalDb) : Bool :=
  db.control.binding = client.binding ∧ db.control.databaseId = client.journalDatabaseId

/-- `PMB1_JOURNAL_SQL.admit`; a statement returns the tables and whether it returned a row,
`none` is an error. -/
def admitSql (db : JournalDb) (invocation : String) (entry : MainEntry) :
    Option (JournalDb × Bool) :=
  if client.matching db ∧ db.control.stopEvidence = none then
    (db.insertInvocation ⟨invocation, db.control.binding, entry, none⟩).map fun db => (db, true)
  else some (db, false)

/-- `PMB1_JOURNAL_SQL.effect`. -/
def effectSql (db : JournalDb) (v : MainEntryLease) (effect : String) (kind : MainEffect) :
    Option (JournalDb × Bool) :=
  match db.leased v with
  | some row =>
      if client.matching db then
        (db.insertEffect ⟨effect, row.invocation, kind, none⟩).map fun db => (db, true)
      else some (db, false)
  | none => some (db, false)

/-- `PMB1_JOURNAL_SQL.settled`. -/
def settledSql (db : JournalDb) (v : MainEntryLease) (effect : String) (result : EntryOutcome) :
    Option (JournalDb × Bool) :=
  match db.effects.find? effect with
  | some row =>
      if row.invocation = v.invocation ∧ row.settled = none ∧
          (db.leased v).isSome = true ∧ client.matching db then
        (db.updateEffect row result).map fun db => (db, true)
      else some (db, false)
  | none => some (db, false)

/-- `PMB1_JOURNAL_SQL.returned`. -/
def returnedSql (db : JournalDb) (v : MainEntryLease) (result : EntryOutcome) :
    Option (JournalDb × Bool) :=
  match db.leased v with
  | some row =>
      if db.pendingEffect row.invocation = false ∧ client.matching db then
        (db.updateInvocation row result).map fun db => (db, true)
      else some (db, false)
  | none => some (db, false)

/-- `PMB1_JOURNAL_SQL.stop`. -/
def stopSql (db : JournalDb) (evidence : String) : Option JournalDb :=
  if client.matching db ∧ db.control.stopEvidence = none then
    db.updateControl
      { db.control with
        stopEvidence := some evidence
        revision := db.control.revision + 1 }
  else some db

/-- `control(rows)`: the control row a batch read, as the client accepts it. -/
def control (db : JournalDb) : Option JournalControl :=
  if client.matching db ∧ (db.control.revision : Int) ≤ SqlInt.maxInt64 ∧
      ∀ evidence ∈ db.control.stopEvidence, isLowerDigest evidence = true then
    some db.control
  else none

end JournalClient

/-! ## Pages -/

/-- The rows of a page, of either table. -/
inductive JournalRows where
  | invocations (rows : List JournalInvocation)
  | effects (rows : List JournalEffect)
deriving DecidableEq

structure JournalPage where
  control : JournalControl
  rows : JournalRows
  next : Option String
deriving DecidableEq

/-- The ids are uuids, each above the one before. -/
def ascendingIds : String → List String → Bool
  | _, [] => true
  | previous, id :: rest => isUuid id && decide (previous < id) && ascendingIds id rest

/-- `rows.length === limit ? previous : null`. -/
def nextCursor (ids : List String) (limit : Nat) : Option String :=
  if ids.length = limit then ids.getLast? else none

namespace JournalClient

variable (client : JournalClient)

/-- The arguments `page` accepts. -/
def pageable (after : String) (limit : Nat) : Bool :=
  (after == "" || isUuid after) && decide (1 ≤ limit ∧ limit ≤ 256)

/-- `page('invocations', …)`. -/
def invocationsPage (db : JournalDb) (after : String) (limit : Nat) : Option JournalPage := do
  let control ← client.control db
  let rows := Keyset.page JournalInvocation.invocation db.invocations.rows after limit
  if pageable after limit = true ∧ rows.length ≤ limit ∧
      ascendingIds after (rows.map JournalInvocation.invocation) = true ∧
      ∀ row ∈ rows, row.binding = client.binding then
    some ⟨control, .invocations rows, nextCursor (rows.map JournalInvocation.invocation) limit⟩
  else none

/-- `page('effects', …)`. -/
def effectsPage (db : JournalDb) (after : String) (limit : Nat) : Option JournalPage := do
  let control ← client.control db
  let rows := Keyset.page JournalEffect.effect db.effects.rows after limit
  if pageable after limit = true ∧ rows.length ≤ limit ∧
      ascendingIds after (rows.map JournalEffect.effect) = true ∧
      ∀ row ∈ rows, isUuid row.invocation = true then
    some ⟨control, .effects rows, nextCursor (rows.map JournalEffect.effect) limit⟩
  else none

end JournalClient

/-! ## Calls -/

inductive JournalCall where
  | admits (binding : MainEntryBinding) (invocation : String) (entry : MainEntry)
  | effect (lease : MainEntryLease) (effect : String) (kind : MainEffect)
  | settled (lease : MainEntryLease) (effect : String) (result : EntryOutcome)
  | returned (lease : MainEntryLease) (result : EntryOutcome)
  | stop (binding : MainEntryBinding) (evidence : String)
  | pageInvocations (after : String) (limit : Nat)
  | pageEffects (after : String) (limit : Nat)
deriving DecidableEq

/-- What a call gives back; `unavailable` is every error it throws. -/
inductive JournalAnswer where
  | unavailable
  /-- `null` of `admit`, `false` of `effect`. -/
  | refused
  | leased (lease : MainEntryLease)
  | permitted
  | recorded
  | stopped (binding : MainEntryBinding) (evidence : String)
  | page (page : JournalPage)
deriving DecidableEq

namespace JournalClient

variable (client : JournalClient)

/-- The answer of a call whose statement must return a row. -/
def confirmed (db : JournalDb) (result : Option (JournalDb × Bool))
    (granted otherwise : JournalAnswer) : JournalDb × JournalAnswer :=
  match result with
  | none => (db, .unavailable)
  | some (db', true) => (db', granted)
  | some (db', false) => (db', otherwise)

/-- One call that reaches the database: the tables it leaves and what it answers. -/
def exec (db : JournalDb) : JournalCall → JournalDb × JournalAnswer
  | .admits v invocation entry =>
      if v = client.binding ∧ isUuid invocation = true then
        confirmed db (client.admitSql db invocation entry)
          (.leased ⟨client.binding, invocation, entry⟩) .refused
      else (db, .unavailable)
  | .effect v effect kind =>
      if v.binding = client.binding ∧ isUuid v.invocation = true ∧ isUuid effect = true then
        confirmed db (client.effectSql db v effect kind) .permitted .refused
      else (db, .unavailable)
  | .settled v effect result =>
      if v.binding = client.binding ∧ isUuid v.invocation = true ∧ isUuid effect = true then
        confirmed db (client.settledSql db v effect result) .recorded .unavailable
      else (db, .unavailable)
  | .returned v result =>
      if v.binding = client.binding ∧ isUuid v.invocation = true then
        confirmed db (client.returnedSql db v result) .recorded .unavailable
      else (db, .unavailable)
  | .stop v evidence =>
      if v = client.binding ∧ isLowerDigest evidence = true then
        match client.stopSql db evidence with
        | none => (db, .unavailable)
        | some db' =>
            match (client.control db').bind JournalControl.stopEvidence with
            | none => (db', .unavailable)
            | some evidence' => (db', .stopped client.binding evidence')
      else (db, .unavailable)
  | .pageInvocations after limit =>
      (db, ((client.invocationsPage db after limit).map JournalAnswer.page).getD .unavailable)
  | .pageEffects after limit =>
      (db, ((client.effectsPage db after limit).map JournalAnswer.page).getD .unavailable)

end JournalClient

end FlickrGroupAddr
