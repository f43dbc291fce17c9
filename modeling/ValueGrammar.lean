import ValueGrammar.Main
import ValueGrammar.Proofs.Alternation
import ValueGrammar.Proofs.Blame
import ValueGrammar.Proofs.Coverage
import ValueGrammar.Proofs.Grammar.Parsing
import ValueGrammar.Proofs.Grammar.Viability
import ValueGrammar.Proofs.Histories
import ValueGrammar.Proofs.Layout
import ValueGrammar.Proofs.Numerals
import ValueGrammar.Proofs.Quoting
import ValueGrammar.Proofs.Recovery
import ValueGrammar.Proofs.Rendering
import ValueGrammar.Proofs.Tiling
import ValueGrammar.Proofs.WellFormed
import ValueGrammar.Proofs.Printing
import ValueGrammar.Proofs.Outline
import ValueGrammar.Proofs.Lines
import ValueGrammar.Proofs.Literals
import ValueGrammar.Proofs.Reading
import ValueGrammar.Proofs.Encoding
import ValueGrammar.Proofs.CanonicalNumerals
import ValueGrammar.Proofs.Precedence.Splitting
import ValueGrammar.Proofs.Precedence.Uniqueness
import ValueGrammar.Proofs.Stages
import ValueGrammar.Proofs.Mishaps
import ValueGrammar.Proofs.StandardNumerals
import ValueGrammar.Proofs.Inert
import ValueGrammar.Proofs.Resolution
import ValueGrammar.Proofs.Merging
import ValueGrammar.Proofs.Parting
import ValueGrammar.Proofs.Bracketing
import ValueGrammar.Proofs.Forms
import ValueGrammar.Proofs.Tables
import ValueGrammar.Proofs.CurlyRanges
import ValueGrammar.Proofs.Inclusion
