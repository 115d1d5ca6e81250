import FlashStore.Bytes
import FlashStore.Text
import FlashStore.Request
import FlashStore.Entries
import FlashStore.Device
import FlashStore.Device.FaultSchedule
import FlashStore.Device.Rack
import FlashStore.Decimal
import FlashStore.Json.Lexeme
import FlashStore.Json.Shape
import FlashStore.Settings
import FlashStore.Drive
import FlashStore.Row
import FlashStore.Row.Json
import FlashStore.Database
import FlashStore.Smoke
import FlashStore.Session
import FlashStore.LogFilter
import FlashStore.CommandLine.Arguments
import FlashStore.CommandLine.SmokeTest
import FlashStore.Main
import FlashStore.Proofs.RequestChecks
import FlashStore.Proofs.DriveCalls
import FlashStore.Proofs.CallLayers
import FlashStore.Proofs.ComparedRuns
import FlashStore.Proofs.StoredEntries
import FlashStore.Proofs.EntryAccounts
import FlashStore.Proofs.ValueCopies
import FlashStore.Proofs.Sharding
import FlashStore.Proofs.RowBlobs
import FlashStore.Proofs.BlobFaults
import FlashStore.Proofs.RowCalls
import FlashStore.Proofs.HarnessOutcomes
import FlashStore.Proofs.ErrorTexts
import FlashStore.Proofs.DriveCodes
import FlashStore.Proofs.TextReaders
import FlashStore.Proofs.ScriptRuns
import FlashStore.Proofs.BulkRuns
import FlashStore.Proofs.WholeWrites
import FlashStore.Proofs.SmokeRuns
import FlashStore.Proofs.LostUpdates
import FlashStore.Proofs.SettingsProperties
import FlashStore.Proofs.JsonStrings
import FlashStore.Proofs.JsonNumbers
import FlashStore.Proofs.JsonSkips
import FlashStore.Proofs.JsonObjects
import FlashStore.Proofs.JsonTexts
import FlashStore.Proofs.AcceptedArguments
import FlashStore.Proofs.ProgramRuns
