import CallSig.Main
import CallSig.Parameter
import CallSig.Proofs.Bracket.Comparison
import CallSig.Proofs.Call.Kinds
import CallSig.Proofs.Command.Source
import CallSig.Proofs.Format.Outline
import CallSig.Proofs.Format.Registry
import CallSig.Proofs.Octet.Close
import CallSig.Proofs.Yaml.Report
import CallSig.Proofs.Parse.Dangling
import CallSig.Proofs.Parse.Depth
import CallSig.Proofs.Parse.Ellipsis
import CallSig.Proofs.Parse.GivenUp
import CallSig.Proofs.Parse.Logged
import CallSig.Proofs.Parse.Rendered
import CallSig.Proofs.Parse.Variadic
import CallSig.Proofs.Settings.Layering
