import FlickrGroupAddr.QuotaCredit
import FlickrGroupAddr.AuthAdmission
import FlickrGroupAddr.SubmissionBlocks
import FlickrGroupAddr.FifoWake
import FlickrGroupAddr.ProtocolPause
import FlickrGroupAddr.ClaimEligibility
import FlickrGroupAddr.PluginCodeLifecycle
import FlickrGroupAddr.NativeCredentials
import FlickrGroupAddr.AlbumRemovals
import FlickrGroupAddr.AlbumTitleIntents
import FlickrGroupAddr.AlbumAdmissions
import FlickrGroupAddr.AlbumRepairReceipts
import FlickrGroupAddr.AlbumCreates
import FlickrGroupAddr.AlbumAdds
import FlickrGroupAddr.AdmissionReplay
import FlickrGroupAddr.JournalSnapshots
import FlickrGroupAddr.MaintenanceDrain
import FlickrGroupAddr.SelectionHandoffs
import FlickrGroupAddr.GroupReaders
import FlickrGroupAddr.AlbumJson
import FlickrGroupAddr.FlickrJson
import FlickrGroupAddr.AttemptCounters
import FlickrGroupAddr.BucketCleanup
import FlickrGroupAddr.SubmissionAcceptance
import FlickrGroupAddr.StatusPaging
import FlickrGroupAddr.StrictTexts
import FlickrGroupAddr.ReadSurface
import FlickrGroupAddr.WakeLedger
import FlickrGroupAddr.UploadBindingLedger
import FlickrGroupAddr.Lib.Calls
import FlickrGroupAddr.UploadAuthorizations
import FlickrGroupAddr.UploadFences
import FlickrGroupAddr.MembershipReaders
import FlickrGroupAddr.PluginCodePattern
import FlickrGroupAddr.RemotePages
import FlickrGroupAddr.CandidatePaging
import FlickrGroupAddr.KeyRefresh
import FlickrGroupAddr.SessionRevisions
import FlickrGroupAddr.OAuthTransactions
import FlickrGroupAddr.AdmissionCredits
import FlickrGroupAddr.Lib.Replies
import FlickrGroupAddr.ProofAgreement
import FlickrGroupAddr.AttemptMoves
import FlickrGroupAddr.DispatchWorker
import FlickrGroupAddr.WorkerStore
import FlickrGroupAddr.DispatchOrder
import FlickrGroupAddr.GroupPosts
import FlickrGroupAddr.PostAuthority
import FlickrGroupAddr.WindowAccounts
