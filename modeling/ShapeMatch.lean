import ShapeMatch.Json.Reader
import ShapeMatch.Pattern.Text
import ShapeMatch.Proofs.BuiltValues
import ShapeMatch.Proofs.ExactNumbers
import ShapeMatch.Session
import ShapeMatch.Proofs.DeepEquality
import ShapeMatch.Proofs.Captures
import ShapeMatch.Proofs.Acceptance
import ShapeMatch.Proofs.Adequacy
import ShapeMatch.Proofs.Completeness
import ShapeMatch.Proofs.Commits
import ShapeMatch.Proofs.Invariance
import ShapeMatch.Proofs.Runs
import ShapeMatch.Proofs.Simulation
import ShapeMatch.Proofs.Exchange
import ShapeMatch.Proofs.Reordering
import ShapeMatch.Proofs.Policies
import ShapeMatch.Proofs.Threading
import ShapeMatch.Proofs.Insertions
import ShapeMatch.Proofs.Extensionality
import ShapeMatch.Proofs.Isolation
import ShapeMatch.Proofs.Flattening
import ShapeMatch.Proofs.Contents
import ShapeMatch.Proofs.IterationOrder
import ShapeMatch.Proofs.Trails
import ShapeMatch.Proofs.Relaxation
import ShapeMatch.Proofs.CallOrder
import ShapeMatch.Proofs.Renaming
import ShapeMatch.Proofs.Chains
import ShapeMatch.Proofs.Rationals
import ShapeMatch.Proofs.TypeOrder
import ShapeMatch.Proofs.BareValues
import ShapeMatch.Proofs.ListedParts
import ShapeMatch.Proofs.FieldOrder
import ShapeMatch.Proofs.Growth
import ShapeMatch.Proofs.Rounding
import ShapeMatch.Proofs.Documents
import ShapeMatch.Proofs.Numerals
import ShapeMatch.Proofs.Reading
import ShapeMatch.Proofs.Unambiguity
