import CoffeeHost.Main
import CoffeeHost.Report.Payload
import CoffeeHost.Run
import CoffeeHost.Script.Engine
import CoffeeHost.Script.Text
import CoffeeHost.Proofs.SessionLog
import CoffeeHost.Proofs.Preparing
import CoffeeHost.Proofs.Operations
import CoffeeHost.Proofs.Lifecycle
import CoffeeHost.Proofs.Evaluation
import CoffeeHost.Proofs.LiteralReading
import CoffeeHost.Proofs.CallReading
import CoffeeHost.Proofs.Escapes
import CoffeeHost.Proofs.Composition
import CoffeeHost.Proofs.Silence
import CoffeeHost.Proofs.HandleAccounts
import CoffeeHost.Proofs.HandleLedger
import CoffeeHost.Proofs.FailedStart
import CoffeeHost.Proofs.AnswerReading
import CoffeeHost.Proofs.Classification
import CoffeeHost.Proofs.HandleLife
import CoffeeHost.Proofs.ShortestDecimal
import CoffeeHost.Proofs.NumberTexts
import CoffeeHost.Proofs.MessageReading
import CoffeeHost.Proofs.Rounding
import CoffeeHost.Proofs.NumberReading
import CoffeeHost.Proofs.HelperAnswers
import CoffeeHost.Proofs.ThrownValues
import CoffeeHost.Proofs.Neighbourhoods
import CoffeeHost.Proofs.Released
import CoffeeHost.Proofs.ReportContents
import CoffeeHost.Proofs.Delivery
import CoffeeHost.Proofs.LiterateNames
import CoffeeHost.Proofs.FileTexts
import CoffeeHost.Proofs.WrittenFiles
import CoffeeHost.Proofs.LibraryCalls
import CoffeeHost.Proofs.LineBreaks
import CoffeeHost.Proofs.SourceWindow
import CoffeeHost.Proofs.Histories
import CoffeeHost.Proofs.Interchange
import CoffeeHost.Proofs.Observation
import CoffeeHost.Proofs.Custody
import CoffeeHost.Proofs.Isolation
import CoffeeHost.Proofs.LiteralScanning
import CoffeeHost.Proofs.EntryReports
import CoffeeHost.Proofs.IntegerTexts
import CoffeeHost.Proofs.LoosePlaces
import CoffeeHost.Proofs.SettingsKeys
import CoffeeHost.Proofs.DocumentLimits
import CoffeeHost.Proofs.SettingsFiles
import CoffeeHost.Proofs.SettingsLookup
