import RouterGate.Main
import RouterGate.Service.Run
import RouterGate.Proofs.Http.TextValues
import RouterGate.Proofs.Router.Yields
import RouterGate.Proofs.Router.Conversation
import RouterGate.Proofs.Router.LoginRequests
import RouterGate.Proofs.Router.LoginOutcome
import RouterGate.Proofs.Api.Pages
import RouterGate.Proofs.Service.Moves
import RouterGate.Proofs.Session.Steps
import RouterGate.Proofs.Session.Access
import RouterGate.Proofs.Verdict.Key
import RouterGate.Proofs.Verdict.Steps
import RouterGate.Proofs.Verdict.Access
import RouterGate.Proofs.Api.Guarding
import RouterGate.Proofs.Session.History
import RouterGate.Proofs.Gateway.Modes
import RouterGate.Proofs.Settings.Counts
import RouterGate.Proofs.Settings.Layers
import RouterGate.Proofs.Settings.Load
import RouterGate.Proofs.Verdict.Judging
import RouterGate.Proofs.Gateway.Checks
import RouterGate.Proofs.Verdict.Known
import RouterGate.Proofs.Verdict.Asking
import RouterGate.Proofs.Http.GivenBack
import RouterGate.Proofs.Session.Standing
import RouterGate.Proofs.Api.LoginPage
import RouterGate.Proofs.Text.Occurs
import RouterGate.Proofs.Url.Spaceless
import RouterGate.Proofs.Router.Outages
import RouterGate.Proofs.Api.LoginFailures
import RouterGate.Proofs.Verdict.History
import RouterGate.Proofs.Settings.Written
import RouterGate.Proofs.Verdict.SharedKey
import RouterGate.Proofs.Verdict.StrangeAnswers
import RouterGate.Proofs.Text.Base64
import RouterGate.Proofs.Http.BasicScheme
import RouterGate.Proofs.Http.Respelling
import RouterGate.Proofs.Verdict.ShownCookies
import RouterGate.Proofs.Router.Discovery
import RouterGate.Proofs.Router.SameAnswers
import RouterGate.Proofs.Session.Passwords
import RouterGate.Proofs.Service.Interleaving
import RouterGate.Proofs.Session.Reaping
import RouterGate.Proofs.Router.ReturnedCookies
import RouterGate.Proofs.Http.RereadCookies
import RouterGate.Proofs.Service.Unbroken
