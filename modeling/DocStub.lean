import DocStub.Command.Run
import DocStub.Files.Planting
import DocStub.Proofs.Text.Blank
import DocStub.Proofs.Text.Words
import DocStub.Proofs.Text.LetterCase
import DocStub.Proofs.Text.Search
import DocStub.Proofs.Text.Closer
import DocStub.Proofs.Declaration.Modifiers
import DocStub.Proofs.Declaration.Header
import DocStub.Proofs.Declaration.Grammar
import DocStub.Proofs.Declaration.Parts
import DocStub.Proofs.Declaration.Extraction
import DocStub.Proofs.Declaration.CommaList
import DocStub.Proofs.Declaration.ParameterList
import DocStub.Proofs.Declaration.ThrowsClause
import DocStub.Proofs.Declaration.Access
import DocStub.Proofs.Declaration.FieldName
import DocStub.Proofs.Declaration.Construction
import DocStub.Proofs.Declaration.ClausePlace
import DocStub.Proofs.Prose.Phrase
import DocStub.Proofs.Prose.Words
import DocStub.Proofs.Comment.Content
import DocStub.Proofs.Comment.Closing
import DocStub.Proofs.Comment.RoundTrip
import DocStub.Proofs.Source.Entries
import DocStub.Proofs.Source.Accounting
import DocStub.Proofs.Source.FixedPoint
import DocStub.Proofs.Source.Locality
import DocStub.Proofs.Source.LineEndings
import DocStub.Proofs.Source.Indentation
import DocStub.Proofs.Source.BlockText
import DocStub.Proofs.Files.Reach
import DocStub.Proofs.Files.CopyPlace
import DocStub.Proofs.Files.Verdict
import DocStub.Proofs.Files.Run
import DocStub.Proofs.Files.SecondRun
import DocStub.Proofs.Files.Copies
import DocStub.Proofs.Files.Outcome
import DocStub.Proofs.Files.Independence
import DocStub.Proofs.Files.Isolation
import DocStub.Proofs.Files.Preview
import DocStub.Proofs.Files.Listing
import DocStub.Proofs.Files.Descent
import DocStub.Proofs.Files.Refusal
import DocStub.Proofs.Files.Original
import DocStub.Proofs.Files.Order
import DocStub.Proofs.Files.Rediscovery
import DocStub.Proofs.Files.Canonical
import DocStub.Proofs.Files.Totals
import DocStub.Proofs.Command.Report
