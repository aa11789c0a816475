import ObjectGrants.Main
import ObjectGrants.Proofs.BackoffDelays
import ObjectGrants.Proofs.DownloadMatching
import ObjectGrants.Proofs.DownloadOfUploads
import ObjectGrants.Proofs.ErrorBodies
import ObjectGrants.Proofs.FileUploads
import ObjectGrants.Proofs.GateTimeouts
import ObjectGrants.Proofs.GrantExpiry
import ObjectGrants.Proofs.GrantFields
import ObjectGrants.Proofs.KeyRotation
import ObjectGrants.Proofs.LastReports
import ObjectGrants.Proofs.Refusals
import ObjectGrants.Proofs.RequestFlaws
import ObjectGrants.Proofs.RequestOrder
import ObjectGrants.Proofs.RetryAttempts
import ObjectGrants.Proofs.ScriptReplay
import ObjectGrants.Proofs.TransientCodes
import ObjectGrants.Proofs.UsableKeys
