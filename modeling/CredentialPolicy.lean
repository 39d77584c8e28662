import CredentialPolicy.Main
import CredentialPolicy.Program.Session
import CredentialPolicy.Proofs.Generation.Completeness
import CredentialPolicy.Proofs.Generation.ForbiddenWord
import CredentialPolicy.Proofs.Generation.Outcome
import CredentialPolicy.Proofs.Generation.Soundness
import CredentialPolicy.Proofs.Rule.Stages
import CredentialPolicy.Proofs.Generation.Arrangement
import CredentialPolicy.Proofs.Generation.EntryPoints
import CredentialPolicy.Proofs.Rule.Storage
import CredentialPolicy.Proofs.Policy.Document
import CredentialPolicy.Proofs.Settings.Document
import CredentialPolicy.Proofs.Account.Enforcement
import CredentialPolicy.Proofs.Policy.History
import CredentialPolicy.Proofs.Program.Saving
import CredentialPolicy.Proofs.Pattern.Language
import CredentialPolicy.Proofs.Unicode.CharSet
import CredentialPolicy.Proofs.Pattern.Normal
import CredentialPolicy.Proofs.Pattern.Written
import CredentialPolicy.Proofs.Account.PatternGate
import CredentialPolicy.Proofs.Generation.Specials
import CredentialPolicy.Proofs.Rule.Presentation
import CredentialPolicy.Proofs.Policy.Selection
import CredentialPolicy.Proofs.Settings.Overlay
import CredentialPolicy.Proofs.Program.Assignment
import CredentialPolicy.Proofs.Generation.Default
import CredentialPolicy.Proofs.Policy.Attachment
import CredentialPolicy.Proofs.Generation.Pools
