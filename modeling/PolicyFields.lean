import PolicyFields.Main
import PolicyFields.Proofs.Documents
import PolicyFields.Proofs.Mapping.Extracted
import PolicyFields.Proofs.Amount.Grammar
import PolicyFields.Proofs.Amount.Grouped
import PolicyFields.Proofs.Extraction.Fallback
import PolicyFields.Proofs.Extraction.Provenance
import PolicyFields.Proofs.Extraction.Format
import PolicyFields.Proofs.Extraction.Artifact
import PolicyFields.Proofs.Mapping.Loading
import PolicyFields.Proofs.Extraction.Interruption
import PolicyFields.Proofs.Extraction.Cache
import PolicyFields.Proofs.Mapping.Processing
import PolicyFields.Proofs.CommandLine.Batch
import PolicyFields.Proofs.Extraction.Collecting
import PolicyFields.Proofs.Number.Bits
import PolicyFields.Proofs.Number.Whole
import PolicyFields.Proofs.Mapping.Integers
import PolicyFields.Proofs.Number.Range
import PolicyFields.Proofs.Mapping.Failures
import PolicyFields.Proofs.Text.Trimming
import PolicyFields.Proofs.Amount.Currency
import PolicyFields.Proofs.Amount.Points
import PolicyFields.Proofs.Mapping.Points
import PolicyFields.Proofs.Mapping.Blanks
import PolicyFields.Proofs.Number.Numeral
import PolicyFields.Proofs.Mapping.Picking
import PolicyFields.Proofs.Mapping.Truncation
import PolicyFields.Proofs.Amount.Respelling
import PolicyFields.Proofs.Mapping.Isolation
import PolicyFields.Proofs.Mapping.EmptyItems
import PolicyFields.Proofs.CommandLine.SettingsEditor
import PolicyFields.Proofs.Company.Capitals
import PolicyFields.Proofs.CommandLine.Inspection
import PolicyFields.Proofs.Text.Words
