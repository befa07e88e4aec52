import ViewCode.Code.Layout
import ViewCode.Main
import ViewCode.Proofs.Balance
import ViewCode.Proofs.LayoutAgreement
import ViewCode.Proofs.Rendering
import ViewCode.Proofs.Wrapping
import ViewCode.Proofs.ContentModels
import ViewCode.Proofs.OmittedEndTags
import ViewCode.Proofs.UniqueReading
import ViewCode.Proofs.Sessions
import ViewCode.Proofs.Streams
import ViewCode.Proofs.SubDocuments
import ViewCode.Proofs.StreamErrors
import ViewCode.Proofs.Runs
import ViewCode.Proofs.AttributeForms
import ViewCode.Proofs.RawElements
import ViewCode.Proofs.ContentTokens
import ViewCode.Proofs.Locality
import ViewCode.Proofs.Positions
import ViewCode.Proofs.Unterminated
import ViewCode.Proofs.MarkupFreeText
import ViewCode.Proofs.StyleDeclarations
import ViewCode.Proofs.AttributeMeaning
import ViewCode.Proofs.LiteralGrammar
import ViewCode.Proofs.TokenPartition
