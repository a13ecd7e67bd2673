import AdmissionLedger.Main
import AdmissionLedger.Proofs.Alert.Page
import AdmissionLedger.Proofs.Alert.Subject
import AdmissionLedger.Proofs.Alert.Telegram
import AdmissionLedger.Proofs.Event.Timestamp
import AdmissionLedger.Proofs.Http.Refusal
import AdmissionLedger.Proofs.Ledger.History
import AdmissionLedger.Proofs.Patch.Outside
import AdmissionLedger.Proofs.Patch.Permutation
import AdmissionLedger.Proofs.Patch.Secret
import AdmissionLedger.Proofs.Relay.Isolation
import AdmissionLedger.Proofs.Review.Concealment
import AdmissionLedger.Proofs.Review.Conservation
import AdmissionLedger.Proofs.Review.Correlation
import AdmissionLedger.Proofs.Review.Identity
import AdmissionLedger.Proofs.Review.Interleaving
import AdmissionLedger.Proofs.Review.Target
import AdmissionLedger.Proofs.Rules.Glob
import AdmissionLedger.Proofs.Rules.Reload
import AdmissionLedger.Proofs.Service.Reloader
import AdmissionLedger.Proofs.Settings.Loading
import AdmissionLedger.Proofs.Tree.Canonical
import AdmissionLedger.Proofs.Tree.Noise
