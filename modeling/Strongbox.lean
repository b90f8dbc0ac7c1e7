import Strongbox.Json.Printer
import Strongbox.Config.Sources
import Strongbox.Backend.Script
import Strongbox.Backend.Memory
import Strongbox.Service
import Strongbox.Wire.Header
import Strongbox.Wire.Transport
import Strongbox.Proofs.Paths
import Strongbox.Proofs.Actions
import Strongbox.Proofs.Requests
import Strongbox.Proofs.Authority
import Strongbox.Proofs.Origin
import Strongbox.Proofs.Placement
import Strongbox.Proofs.Answers
import Strongbox.Proofs.Cells
import Strongbox.Proofs.Ledger
import Strongbox.Proofs.Numerals
import Strongbox.Proofs.Routes
import Strongbox.Proofs.Refinement
import Strongbox.Proofs.Validation
import Strongbox.Proofs.Absence
import Strongbox.Proofs.Outlines
import Strongbox.Proofs.Disclosure
import Strongbox.Proofs.Verdicts
import Strongbox.Proofs.Replies
import Strongbox.Proofs.Failures
import Strongbox.Proofs.Lookups
import Strongbox.Proofs.Statistics
import Strongbox.Proofs.Sealing
import Strongbox.Proofs.Aliases
import Strongbox.Proofs.DirectCalls
import Strongbox.Proofs.Credentials
import Strongbox.Proofs.Addresses
import Strongbox.Proofs.Callers
import Strongbox.Proofs.Writers
import Strongbox.Proofs.Configs
import Strongbox.Proofs.Loaders
import Strongbox.Proofs.Tokens
import Strongbox.Proofs.Interruptions
import Strongbox.Proofs.Reports
import Strongbox.Proofs.Payloads
import Strongbox.Proofs.Arguments
import Strongbox.Proofs.Segments
import Strongbox.Proofs.Encryption
import Strongbox.Proofs.Forms
import Strongbox.Proofs.Shortest
import Strongbox.Proofs.NumberTexts
import Strongbox.Proofs.JsonTexts
import Strongbox.Proofs.Messages
import Strongbox.Proofs.Engines
