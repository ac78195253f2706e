import ExpectFile.Json.Reader
import ExpectFile.Proofs.Chunk.Offences
import ExpectFile.Proofs.Chunk.Resumption
import ExpectFile.Proofs.Partition.Ordinary
import ExpectFile.Proofs.Partition.Renderings
import ExpectFile.Proofs.Partition.Substitution
import ExpectFile.Proofs.Reprint.ReadingBack
import ExpectFile.Proofs.Source.Agreement
import ExpectFile.Proofs.Source.Safety
import ExpectFile.Proofs.Partition.Reports
import ExpectFile.Proofs.Chunk.Labels
import ExpectFile.Proofs.Reprint.Readable
import ExpectFile.Proofs.Source.Rejections
import ExpectFile.Proofs.Chunk.Ranges
import ExpectFile.Proofs.Text.Searches
import ExpectFile.Proofs.Source.Drift
import ExpectFile.Proofs.Span.Canonical
import ExpectFile.Proofs.Expectation.Comparison
import ExpectFile.Proofs.Reprint.Literals
import ExpectFile.Proofs.Export.Faithfulness
import ExpectFile.Proofs.Phrase.Decorators
import ExpectFile.Proofs.Phrase.Grouping
import ExpectFile.Proofs.Marker.Recognition
