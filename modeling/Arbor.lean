import Arbor.Text.Basic
import Arbor.Text.Blank
import Arbor.Text.Digit
import Arbor.Text.Printable
import Arbor.Text.Quoted
import Arbor.Text.Utf8
import Arbor.Text.Codec
import Arbor.Text.Numeral
import Arbor.Text.Lowercase
import Arbor.Decimal.Binary
import Arbor.Decimal.Shortest
import Arbor.Decimal.Fixed
import Arbor.Json.Value
import Arbor.Json.Reader
import Arbor.Json.Writer
import Arbor.Json.Display
import Arbor.Fault
import Arbor.Number
import Arbor.Forest.Basic
import Arbor.Forest.Build
import Arbor.Page.Basic
import Arbor.Page.Codec
import Arbor.Store.Basic
import Arbor.Cache.Key
import Arbor.Cache.Stats
import Arbor.Cache.Memory
import Arbor.Cache.Server
import Arbor.Cache.Remote
import Arbor.Cache.Basic
import Arbor.Service.Basic
import Arbor.Session.Cache
import Arbor.Session.Service
import Arbor.Config.Env
import Arbor.Config.Address
import Arbor.Config.Basic
import Arbor.Http.Message
import Arbor.Http.Issue
import Arbor.Http.Integer
import Arbor.Http.Url
import Arbor.Http.Target
import Arbor.Http.Rules
import Arbor.Idna.Class
import Arbor.Idna.Bidi
import Arbor.Idna.Normal
import Arbor.Idna.Context
import Arbor.Idna.Punycode
import Arbor.Idna.Label
import Arbor.Http.Address
import Arbor.Http.Body
import Arbor.Http.Route
import Arbor.Http.Policy
import Arbor.Http.Api
import Arbor.Session.Http
import Arbor.Proofs.Cache.Key
import Arbor.Proofs.Cache.Memory
import Arbor.Proofs.Number.Order
import Arbor.Proofs.Decimal.Bits
import Arbor.Proofs.Store.Climb
import Arbor.Proofs.Decimal.Quotient
import Arbor.Proofs.Forest.Walk
import Arbor.Proofs.Page.Count
import Arbor.Proofs.Page.Codec
import Arbor.Proofs.Page.Grammar
import Arbor.Proofs.Store.Write
import Arbor.Store.Subtree
import Arbor.Store.Write
import Arbor.Proofs.Store.Subtree
import Arbor.Proofs.Store.Ops
import Arbor.Proofs.Store.Sound
import Arbor.Proofs.Store.Run
import Arbor.Proofs.Forest.Page
import Arbor.Proofs.Store.Page
import Arbor.Proofs.Store.Update
import Arbor.Proofs.Store.Delete
import Arbor.Proofs.Store.Backends
import Arbor.Proofs.Cache.History
import Arbor.Proofs.Cache.Order
import Arbor.Proofs.Cache.Latest
import Arbor.Proofs.Cache.Decode
import Arbor.Proofs.Cache.Remote
import Arbor.Proofs.Forest.Cycles
import Arbor.Proofs.Service.Change
import Arbor.Proofs.Service.Run
import Arbor.Proofs.Service.Transparency
import Arbor.Proofs.Service.Paging
import Arbor.Proofs.Service.Effectiveness
