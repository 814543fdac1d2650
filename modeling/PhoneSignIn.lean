import PhoneSignIn.Console.Dialogue
import PhoneSignIn.Console.Program
import PhoneSignIn.Console.Terminal
import PhoneSignIn.EmailAddress
import PhoneSignIn.Flow.Display
import PhoneSignIn.Flow.ErrorBudget
import PhoneSignIn.Flow.Handoff
import PhoneSignIn.Flow.Host
import PhoneSignIn.Flow.OpenStep
import PhoneSignIn.Flow.Receiver
import PhoneSignIn.Flow.SignIn
import PhoneSignIn.Flow.Step.Code
import PhoneSignIn.Flow.Step.Email
import PhoneSignIn.Flow.Step.Phone
import PhoneSignIn.Flow.StepState
import PhoneSignIn.Flow.World
import PhoneSignIn.Gateway.Answer
import PhoneSignIn.Gateway.Call
import PhoneSignIn.Gateway.Error
import PhoneSignIn.Gateway.Rest
import PhoneSignIn.Gateway.Script
import PhoneSignIn.Http.Base64
import PhoneSignIn.Http.Message
import PhoneSignIn.Http.Server
import PhoneSignIn.Http.Status
import PhoneSignIn.Journal
import PhoneSignIn.Json.Lexer
import PhoneSignIn.Json.Reader
import PhoneSignIn.Json.Record
import PhoneSignIn.Json.Value
import PhoneSignIn.Main
import PhoneSignIn.Session.Basic
import PhoneSignIn.Session.Stored
import PhoneSignIn.Settings
import PhoneSignIn.Store.Basic
import PhoneSignIn.Store.File
import PhoneSignIn.Store.FileTree
import PhoneSignIn.Text.Blank
import PhoneSignIn.Text.Decimal
import PhoneSignIn.Text.Fold
import PhoneSignIn.Text.Glyph
import PhoneSignIn.Text.Hex
import PhoneSignIn.Text.Quoted
import PhoneSignIn.Text.Utf8
import PhoneSignIn.Url.Address
import PhoneSignIn.Url.Basic
import PhoneSignIn.Url.Domain
import PhoneSignIn.Url.Error
import PhoneSignIn.Url.Form
import PhoneSignIn.Url.Parse
import PhoneSignIn.Url.Percent
import PhoneSignIn.Url.Punycode
import PhoneSignIn.Proofs.Flow.Effect
import PhoneSignIn.Proofs.Flow.Submission
import PhoneSignIn.Proofs.Flow.Scene
import PhoneSignIn.Proofs.Flow.Turn
import PhoneSignIn.Proofs.Flow.AtMostOnce
import PhoneSignIn.Proofs.Flow.Persistence
import PhoneSignIn.Proofs.Flow.Orderly
import PhoneSignIn.Proofs.Flow.Granted
import PhoneSignIn.Proofs.Flow.Failure
import PhoneSignIn.Proofs.Flow.Following
import PhoneSignIn.Proofs.Flow.Provenance
import PhoneSignIn.Proofs.Flow.Response
import PhoneSignIn.Proofs.Flow.Budget
import PhoneSignIn.Proofs.Flow.Descent
import PhoneSignIn.Proofs.Flow.Voice
import PhoneSignIn.Proofs.Flow.Consent
import PhoneSignIn.Proofs.Json.Lexer
import PhoneSignIn.Proofs.Json.Reader
import PhoneSignIn.Proofs.Json.Record
import PhoneSignIn.Proofs.Session.Stored
import PhoneSignIn.Proofs.Store.Lawful
import PhoneSignIn.Proofs.Store.FileTree
import PhoneSignIn.Proofs.Text.Utf8
import PhoneSignIn.Proofs.Store.Refinement
import PhoneSignIn.Proofs.Store.Interruption
import PhoneSignIn.Proofs.Url.Form
import PhoneSignIn.Proofs.Gateway.Request
import PhoneSignIn.Proofs.Url.Directory
import PhoneSignIn.Proofs.Gateway.Endpoint
import PhoneSignIn.Proofs.Store.Reopening
import PhoneSignIn.Proofs.Store.Content
import PhoneSignIn.Proofs.Store.Refusal
import PhoneSignIn.Proofs.Store.Stability
import PhoneSignIn.Proofs.Flow.Survival
import PhoneSignIn.Proofs.Console.Exchange
import PhoneSignIn.Proofs.Console.Dialogue
import PhoneSignIn.Proofs.Secrecy.Alike
import PhoneSignIn.Proofs.Secrecy.Body
import PhoneSignIn.Proofs.Secrecy.Answer
import PhoneSignIn.Proofs.Secrecy.Store
import PhoneSignIn.Proofs.Secrecy.Operation
import PhoneSignIn.Proofs.Secrecy.Run
import PhoneSignIn.Proofs.Gateway.Wire
import PhoneSignIn.Proofs.Http.Header
import PhoneSignIn.Proofs.Gateway.Classification
import PhoneSignIn.Proofs.Json.Fields
import PhoneSignIn.Proofs.Session.Canonical
import PhoneSignIn.Proofs.Json.Tolerance
import PhoneSignIn.Proofs.Gateway.Tolerance
import PhoneSignIn.Proofs.EmailAddress
import PhoneSignIn.Proofs.Flow.Wording
import PhoneSignIn.Proofs.Flow.SecondCode
import PhoneSignIn.Proofs.Flow.Activity
import PhoneSignIn.Proofs.Flow.Registration
import PhoneSignIn.Proofs.Flow.Closing
import PhoneSignIn.Proofs.Flow.Retry
import PhoneSignIn.Proofs.Flow.Ledger
import PhoneSignIn.Proofs.Flow.ErrorBudget
import PhoneSignIn.Proofs.Store.Keeping
import PhoneSignIn.Proofs.Flow.Verification
import PhoneSignIn.Proofs.Flow.Suggestion
