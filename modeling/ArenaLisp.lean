import ArenaLisp.CommandLine
import ArenaLisp.Main
import ArenaLisp.Proofs.Frame
import ArenaLisp.Proofs.Release
import ArenaLisp.Proofs.Journal
import ArenaLisp.Proofs.Lasting
import ArenaLisp.Proofs.Cutting
import ArenaLisp.Proofs.Scripts
import ArenaLisp.Proofs.Lexemes
import ArenaLisp.Proofs.Forests
import ArenaLisp.Proofs.Doubles
import ArenaLisp.Proofs.Numerals
import ArenaLisp.Proofs.RoundTrip
import ArenaLisp.Proofs.Capture
import ArenaLisp.Proofs.Scoping
import ArenaLisp.Proofs.Continuation
import ArenaLisp.Proofs.Words
import ArenaLisp.Proofs.Escapes
import ArenaLisp.Proofs.Isolation
import ArenaLisp.Proofs.Revisions
import ArenaLisp.Proofs.Sandbox
import ArenaLisp.Proofs.Readiness
import ArenaLisp.Proofs.LineEnds
import ArenaLisp.Proofs.TypedLines
import ArenaLisp.Proofs.Failures
import ArenaLisp.Proofs.Rereading
import ArenaLisp.Proofs.LambdaText
import ArenaLisp.Proofs.Encoding
import ArenaLisp.Proofs.Quotation
import ArenaLisp.Proofs.Queue
import ArenaLisp.Proofs.Locations
import ArenaLisp.Proofs.Traceback
import ArenaLisp.Proofs.Turns
import ArenaLisp.Proofs.Forwarding
import ArenaLisp.Proofs.Chains
import ArenaLisp.Proofs.Exactness
import ArenaLisp.Proofs.Readings
import ArenaLisp.Proofs.Splitting
import ArenaLisp.Proofs.Equality
import ArenaLisp.Proofs.Pulling
import ArenaLisp.Proofs.Positions
import ArenaLisp.Proofs.Partition
import ArenaLisp.Proofs.CallStack
