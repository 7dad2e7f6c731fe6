import PresentationVerifier.Proofs.Stages
import PresentationVerifier.Session.Memory
import PresentationVerifier.Token.Compose
import PresentationVerifier.Verifier
import PresentationVerifier.Proofs.Journey
import PresentationVerifier.Proofs.Batch
import PresentationVerifier.Proofs.Checks
import PresentationVerifier.Proofs.Disclosures
import PresentationVerifier.Proofs.Soundness
import PresentationVerifier.Proofs.Tiers
import PresentationVerifier.Proofs.Calls
import PresentationVerifier.Proofs.Interleaving
import PresentationVerifier.Proofs.Errors
import PresentationVerifier.Proofs.Progression
import PresentationVerifier.Proofs.Extraction
import PresentationVerifier.Proofs.Footprint
import PresentationVerifier.Proofs.Leniency
import PresentationVerifier.Proofs.Binding
import PresentationVerifier.Proofs.Grammar
import PresentationVerifier.Proofs.BoundText
import PresentationVerifier.Proofs.Collaborators
import PresentationVerifier.Proofs.Walk
import PresentationVerifier.Proofs.Faults
import PresentationVerifier.Proofs.BindingType
import PresentationVerifier.Proofs.Integrity
import PresentationVerifier.Proofs.Composition
import PresentationVerifier.Proofs.CredentialToken
import PresentationVerifier.Proofs.Envelopes
import PresentationVerifier.Proofs.Selection
import PresentationVerifier.Proofs.Expectations
import PresentationVerifier.Proofs.Times
import PresentationVerifier.Proofs.Spellings
import PresentationVerifier.Proofs.BareTokens
import PresentationVerifier.Proofs.FormBodies
import PresentationVerifier.Proofs.Nesting
import PresentationVerifier.Proofs.KeyMaterial
import PresentationVerifier.Proofs.Parameters
import PresentationVerifier.Proofs.SubmissionText
