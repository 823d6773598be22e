import FlickrGroupAddr.AlbumWork
import FlickrGroupAddr.Lib.Transition

/-!
# The album system

Every call of an album store is one transition of the album tables.  The tables it
only reads belong to the step, so they may change in any way between two calls; so
do the ids and the clock readings a call draws, and the claims and contexts it is
handed, which may be stale or made up.
-/

namespace FlickrGroupAddr

set_option autoImplicit false

open KeyedTable Transition

/-- A call of an album store, with what its caller hands it and what it draws. -/
inductive AlbumCall where
  | ensure (clock : BatchClock) (auth : AdmissionAuth) (request : AlbumEnsureRequest)
      (bindingId obligationId : Token)
  | associate (clock : BatchClock) (auth : AdmissionAuth) (request : AlbumAssociateRequest)
      (obligationId : Token)
  | titleIntent (clock : BatchClock) (auth : AdmissionAuth) (request : AlbumTitleRequest)
  | removeAlbum (clock : BatchClock) (auth : AdmissionAuth) (request : AlbumRemovalRequest)
  | removePhoto (clock : BatchClock) (auth : AdmissionAuth) (request : PhotoRemovalRequest)
  | repair (clock : BatchClock) (auth : RepairAuth) (context : RepairContext)
      (request : ResolveRequest) (proof : AlbumResolutionProof)
  | claimCreate (clock : ClaimClock) (bindingId attemptId leaseId : Token)
  | markCreate (now : Us) (claim : AlbumMaterializationClaim) (preContextIds : List Token)
  | recordCreate (now : Us) (claim : AlbumMaterializationClaim) (photosetId : Token)
      (url : NavigationUrl)
  | finishCreate (now : Us) (claim : AlbumMaterializationClaim) (proof : AlbumMaterializationProof)
  | failCreate (now : Us) (claim : AlbumMaterializationClaim)
  | unknownCreate (now : Us) (claim : AlbumMaterializationClaim)
  | rejectCreate (now : Us) (claim : AlbumMaterializationClaim) (flickrCode : Nat)
  | claimTitle (clock : ClaimClock) (bindingId attemptId leaseId : Token)
  | readTitle (now : Us) (claim : AlbumTitleClaim)
  | markTitle (now : Us) (claim : AlbumTitleClaim) (proof : AlbumTitleProof)
  | recordTitle (now : Us) (claim : AlbumTitleClaim) (resultClass : TitleResultClass)
  | reconcileTitle (now : Us) (claim : AlbumTitleClaim) (proof : Option AlbumTitleProof)
  | releaseTitle (now : Us) (claim : AlbumTitleClaim) (notBeforeUs : Us)
  | missingTitle (now : Us) (claim : AlbumTitleClaim)
  | claimAttachment (clock : ClaimClock) (obligationId attemptId leaseId : Token)
  | markAttachment (now : Us) (grant : AttachmentGrant) (contextIds : List Token)
  | recordAttachment (now : Us) (grant : AttachmentGrant) (result : AttachmentResult)
  | finishAttachment (now : Us) (grant : AttachmentGrant) (proof : AlbumAttachmentProof)
  | deferAttachment (now : Us) (grant : AttachmentGrant) (proof : AlbumAttachmentProof)
  | unknownAttachment (now : Us) (grant : AttachmentGrant)
  | failAttachment (now : Us) (grant : AttachmentGrant)
  | attendAttachment (now : Us) (grant : AttachmentGrant) (reason : AttentionReason)
      (proof : Option AlbumAttachmentProof)

/-- The database after a batch; one that aborts leaves it as it was. -/
def committed {α : Type} (db : AlbumDb) : Batch α → AlbumDb
  | none => db
  | some (db', _) => db'

/-- The database after a call. -/
def AlbumCall.run (w : AlbumWorld) (db : AlbumDb) : AlbumCall → AlbumDb
  | .ensure clock auth request bindingId obligationId =>
      (ensureAlbumBinding w clock db auth request bindingId obligationId).1
  | .associate clock auth request obligationId =>
      (associateAlbumPhoto w clock db auth request obligationId).1
  | .titleIntent clock auth request => (putAlbumTitleIntent w clock db auth request).1
  | .removeAlbum clock auth request => (putAlbumLocalRemoval w clock db auth request).1
  | .removePhoto clock auth request => (putAlbumPhotoLocalRemoval w clock db auth request).1
  | .repair clock auth context request proof =>
      (commitAlbumResolution w clock db auth context request proof).1
  | .claimCreate clock bindingId attemptId leaseId =>
      committed db (claimAlbumMaterialization w clock db bindingId attemptId leaseId)
  | .markCreate now claim preContextIds =>
      committed db (markAlbumCreateDispatch ⟨w, now⟩ db claim preContextIds)
  | .recordCreate now claim photosetId url =>
      committed db (recordAlbumCreateResult ⟨w, now⟩ db claim photosetId url)
  | .finishCreate now claim proof =>
      committed db (finishAlbumMaterialization ⟨w, now⟩ db claim proof)
  | .failCreate now claim =>
      committed db (failAlbumMaterializationBeforeDispatch ⟨w, now⟩ db claim)
  | .unknownCreate now claim => committed db (unknownAlbumMaterialization ⟨w, now⟩ db claim)
  | .rejectCreate now claim flickrCode =>
      committed db (rejectAlbumMaterialization ⟨w, now⟩ db claim flickrCode)
  | .claimTitle clock bindingId attemptId leaseId =>
      committed db (claimAlbumTitle w clock db bindingId attemptId leaseId)
  | .readTitle now claim => committed db (beginAlbumTitleRead ⟨w, now⟩ db claim)
  | .markTitle now claim proof => committed db (markAlbumTitleDispatch ⟨w, now⟩ db claim proof)
  | .recordTitle now claim resultClass =>
      committed db (recordAlbumTitleResult ⟨w, now⟩ db claim resultClass)
  | .reconcileTitle now claim proof => committed db (reconcileAlbumTitle ⟨w, now⟩ db claim proof)
  | .releaseTitle now claim notBeforeUs =>
      committed db (releaseAlbumTitle ⟨w, now⟩ db claim notBeforeUs)
  | .missingTitle now claim => committed db (missingAlbumTitle ⟨w, now⟩ db claim)
  | .claimAttachment clock obligationId attemptId leaseId =>
      committed db (claimAlbumAttachment w clock db obligationId attemptId leaseId)
  | .markAttachment now grant contextIds =>
      committed db (markAlbumAttachmentDispatch ⟨w, now⟩ db grant contextIds)
  | .recordAttachment now grant result =>
      committed db (recordAlbumAttachmentResult ⟨w, now⟩ db grant result)
  | .finishAttachment now grant proof =>
      committed db (finishAlbumAttachment ⟨w, now⟩ db grant proof)
  | .deferAttachment now grant proof => committed db (deferAlbumAttachment ⟨w, now⟩ db grant proof)
  | .unknownAttachment now grant => committed db (unknownAlbumAttachment ⟨w, now⟩ db grant)
  | .failAttachment now grant =>
      committed db (failAlbumAttachmentBeforeDispatch ⟨w, now⟩ db grant)
  | .attendAttachment now grant reason proof =>
      committed db (attentionAlbumAttachment ⟨w, now⟩ db grant reason proof)

/-- A call, and the outside tables it meets. -/
structure AlbumMove where
  world : AlbumWorld
  call : AlbumCall

/-- A call of an album store. -/
def AlbumStep (db : AlbumDb) (move : AlbumMove) (db' : AlbumDb) : Prop :=
  move.call.run move.world db = db'

/-- The album tables start empty. -/
def AlbumInitial (db : AlbumDb) : Prop := db = emptyAlbumDb

/-- The call of a move, as a step function. -/
def AlbumMove.exec (db : AlbumDb) (move : AlbumMove) : Option AlbumDb :=
  some (move.call.run move.world db)

/-- The moves of a list of calls. -/
def albumTrace (db : AlbumDb) (moves : List AlbumMove) : List (Move AlbumDb AlbumMove) :=
  movesOf AlbumMove.exec id db moves

theorem run_albumTrace {db db' : AlbumDb} {moves : List AlbumMove}
    (h : execAll AlbumMove.exec db moves = some db') :
    Run AlbumStep db (albumTrace db moves) db' := by
  apply run_movesOf _ h
  intro before move after hexec
  exact Option.some.inj hexec

/-- What a list of calls leaves from the empty tables is reachable. -/
theorem reachable_of_execAll {db : AlbumDb} {moves : List AlbumMove}
    (h : execAll AlbumMove.exec emptyAlbumDb moves = some db) :
    Reachable AlbumStep AlbumInitial db :=
  ⟨emptyAlbumDb, albumTrace emptyAlbumDb moves, rfl, run_albumTrace h⟩

end FlickrGroupAddr
