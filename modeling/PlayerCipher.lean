import PlayerCipher.Main
import PlayerCipher.Proofs.Renaming.Recording
import PlayerCipher.Proofs.Renaming.Spacing
import PlayerCipher.Proofs.Helper.Agreement
import PlayerCipher.Proofs.Helper.Grammar
import PlayerCipher.Proofs.Scrambler.Resolution
import PlayerCipher.Proofs.Checked.Recording
import PlayerCipher.Proofs.Decipherer.Transparency
import PlayerCipher.Proofs.Decipherer.Retention
import PlayerCipher.Proofs.Helper.Decision
import PlayerCipher.Proofs.Driver.CallSites
import PlayerCipher.Proofs.Operation.Selection
import PlayerCipher.Proofs.Operation.Inversion
import PlayerCipher.Proofs.Command.LocalRun
import PlayerCipher.Proofs.Driver.Selection
import PlayerCipher.Proofs.Driver.Segments
import PlayerCipher.Proofs.Script.Forms
import PlayerCipher.Proofs.Script.Lines
import PlayerCipher.Proofs.Script.Division
import PlayerCipher.Proofs.Script.Literal
import PlayerCipher.Proofs.Script.Locality
import PlayerCipher.Proofs.Script.Pairing
import PlayerCipher.Proofs.Script.Partition
import PlayerCipher.Proofs.Text.Encoding
import PlayerCipher.Proofs.Url.Form
import PlayerCipher.Proofs.Driver.Arguments
import PlayerCipher.Proofs.Json.Forms
import PlayerCipher.Proofs.Json.Recipe
import PlayerCipher.Proofs.StreamUrl
import PlayerCipher.Proofs.Driver.Locating
import PlayerCipher.Proofs.PlayerPage
import PlayerCipher.Proofs.Video.Missing
import PlayerCipher.Proofs.Error
import PlayerCipher.Proofs.Report.Quiet
import PlayerCipher.Proofs.Report.Json
import PlayerCipher.Proofs.ScriptVersion
