import DualPhy.Main
import DualPhy.Transport.Recorded
import DualPhy.Transport.Scripted
import DualPhy.Proofs.Flowgraph
import DualPhy.Proofs.Clients
import DualPhy.Proofs.ProfileText
import DualPhy.Proofs.Fates
import DualPhy.Proofs.Uses
import DualPhy.Proofs.Endings
import DualPhy.Proofs.Hopping
import DualPhy.Proofs.LexemeGrammar
import DualPhy.Proofs.ValueGrammar
import DualPhy.Proofs.RecordGrammar
import DualPhy.Proofs.Rearrangement
import DualPhy.Proofs.ProfileGrammar
import DualPhy.Proofs.Answers
import DualPhy.Proofs.Coverage
import DualPhy.Proofs.Preview
import DualPhy.Proofs.Guidance
import DualPhy.Proofs.SelectCommand
import DualPhy.Proofs.Matching
import DualPhy.Proofs.Addresses
import DualPhy.Proofs.MenuSession
import DualPhy.Proofs.Snapshot
import DualPhy.Proofs.BlockList
import DualPhy.Proofs.Bodies
import DualPhy.Proofs.LastWrite
import DualPhy.Proofs.Truncation
import DualPhy.Proofs.PrintedValues
import DualPhy.Proofs.PayloadText
import DualPhy.Proofs.ImmediateCall
import DualPhy.Proofs.AddressReading
import DualPhy.Proofs.TableText
import DualPhy.Proofs.Muting
import DualPhy.Proofs.LogReading
import DualPhy.Proofs.LogTrace
import DualPhy.Proofs.BarAccounts
import DualPhy.Proofs.BarCounts
