import TextQuery.Main
import TextQuery.Token.Session
import TextQuery.Proofs.Juxtaposition
import TextQuery.Proofs.RoundTrip
import TextQuery.Proofs.Enclosing
import TextQuery.Proofs.Meaning
import TextQuery.Proofs.Parsed
import TextQuery.Proofs.Blanks
import TextQuery.Proofs.Tokenization
import TextQuery.Proofs.Discovery
import TextQuery.Proofs.QuotedValues
import TextQuery.Proofs.WrittenSettings
import TextQuery.Proofs.Sources
import TextQuery.Proofs.Respelling
import TextQuery.Proofs.Faults
import TextQuery.Proofs.Substitution
import TextQuery.Proofs.EmptyLayers
import TextQuery.Proofs.Runs
import TextQuery.Proofs.QuoteBalance
import TextQuery.Proofs.Completion
import TextQuery.Proofs.QuotedWords
import TextQuery.Proofs.Precedence
import TextQuery.Proofs.Regrouping
import TextQuery.Proofs.Concatenation
import TextQuery.Proofs.FoundFiles
import TextQuery.Proofs.JoinedRuns
import TextQuery.Proofs.Sessions
import TextQuery.Proofs.Outline
