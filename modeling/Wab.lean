import Wab.Main
import Wab.Proofs.Attributes
import Wab.Proofs.Folding
import Wab.Proofs.Lines
import Wab.Proofs.Utf8
import Wab.Zip.Writer
import Wab.Proofs.Cut
import Wab.Proofs.Outcome
import Wab.Proofs.Unfolding
import Wab.Proofs.HeaderName
import Wab.Proofs.Rereading
import Wab.Proofs.RoundTrip
import Wab.Proofs.Params
import Wab.Proofs.Headers
import Wab.Proofs.PlainArchive
import Wab.Proofs.BrokenNames
import Wab.Proofs.WrittenBundle
import Wab.Proofs.ClassPath
import Wab.Proofs.ClassPathNames
import Wab.Proofs.Refusals
import Wab.Proofs.CustomizedBundle
import Wab.Proofs.HeaderLines
import Wab.Proofs.Sections
import Wab.Proofs.Merging
import Wab.Proofs.ManifestFormat
import Wab.Manifest.Operation
import Wab.Proofs.References
import Wab.Proofs.BrokenReferences
import Wab.Proofs.HeaderList
import Wab.Proofs.Operations
import Wab.Proofs.StoredHeaders
import Wab.Proofs.GeneratedNames
import Wab.Proofs.QueryEncoding
import Wab.Proofs.WrittenParams
import Wab.Proofs.Signatures
import Wab.Proofs.Files
import Wab.Proofs.MisnamedEntries
import Wab.Proofs.Runs
import Wab.Proofs.UnreadableArchives
import Wab.Proofs.FixedPoint
import Wab.Proofs.NameInfluence
import Wab.Proofs.LastWord
import Wab.Proofs.Replacements
import Wab.Proofs.QueryDecoding
import Wab.Proofs.ParamsByName
import Wab.Proofs.LineNumbers
import Wab.Proofs.Refolding
import Wab.Proofs.LineEnds
import Wab.Proofs.GreedyFolding
import Wab.Proofs.RelativeReferences
import Wab.Proofs.Options
import Wab.Proofs.ErrorLines
