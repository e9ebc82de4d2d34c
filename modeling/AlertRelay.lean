import AlertRelay.Proofs.Endpoint
import AlertRelay.Proofs.Environment.Refusal
import AlertRelay.Proofs.Environment.Written
import AlertRelay.Proofs.Log.Quiet
import AlertRelay.Proofs.Rendering.Order
import AlertRelay.Proofs.Rendering.Renaming
import AlertRelay.Proofs.Schema.Projection
import AlertRelay.Proofs.Schema.Spelling
import AlertRelay.Proofs.Send.Query
import AlertRelay.Proofs.Send.Rejection
import AlertRelay.Proofs.Service.Answers
import AlertRelay.Proofs.Service.Replacement
import AlertRelay.Proofs.Session.Atomicity
import AlertRelay.Proofs.Session.Dispatch
import AlertRelay.Proofs.Session.Frame
import AlertRelay.Proofs.Session.Influence
