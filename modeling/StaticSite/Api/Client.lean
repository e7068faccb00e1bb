import StaticSite.Action
import StaticSite.Journal
import StaticSite.Number.Double

/-!
# Fetching data

A data group has a base address; an endpoint of the group is fetched from the base address followed
by the endpoint. What the network answers to a request is a parameter, and so is which answers count
as failures; two requests for one address may be answered differently. Every fault of a fetch has a
text that names the address.
-/

namespace StaticSite.Api

/-- What comes back for a request. -/
inductive Response where
  /-- No answer, or one whose status counts as a failure, and the reason that is given for it. -/
  | failed (reason : String)
  /-- An answer that is no failure, and its body if that is JSON. -/
  | answered (body : Option Value)

/-- The network: what comes back for a request, given the requests sent before it. -/
abbrev Network := (sent : List Request) → Request → Response

/-- The network that is not there. -/
def noNetwork : Network := fun _ _ => .failed "no route"

structure Client where
  network : Network
  /-- The base address of each group. -/
  groups : List (String × String)
  /-- How long to wait for an answer. -/
  timeout : Value

/-- How often and when a request is sent again before it counts as failed. -/
structure RetryPolicy where
  total : Nat
  read : Nat
  connect : Nat
  backoff : Float
  statuses : List Nat
  methods : List String

def standardRetries : RetryPolicy :=
  ⟨5, 5, 3, Double.ofDecimal false 5 (-1), [500, 502, 503, 504], ["GET", "HEAD"]⟩

def standardTimeout : Value := .float (Double.ofDecimal false 30 0)

/-- The state of a client: whether it holds a connection, and what it has sent. -/
structure Exchange where
  isOpen : Bool
  journal : Journal

namespace Exchange

def start : Exchange := ⟨false, .empty⟩

def record (journal : Journal) (exchange : Exchange) : Exchange :=
  { exchange with journal := exchange.journal ++ journal }

def note (severity : Severity) (text : String) : Action Exchange Unit :=
  .modify (record (.ofNotices [⟨severity, .api, text⟩]))

/-- Opens a connection and sends a request over it. -/
def send (request : Request) : Action Exchange Unit :=
  .modify fun exchange => { exchange.record ⟨[], [request], []⟩ with isOpen := true }

end Exchange

/-- The body of an answer. -/
def readResponse (address : String) : Response → Except Fault Value
  | .failed reason => .error (.api ("Fetch failed for " ++ address ++ ": " ++ reason))
  | .answered none => .error (.api ("Response from " ++ address ++ " was not valid JSON"))
  | .answered (some body) => .ok body

/-- Fetches an endpoint of a group. Nothing is sent for a group without a base address. -/
def Client.fetch (client : Client) (group endpoint : String) : Action Exchange Value :=
  match client.groups.lookup group with
  | none | some "" => .fail (.api ("API group \"" ++ group ++ "\" not found in site config"))
  | some base => do
    let request : Request := ⟨base ++ endpoint, client.timeout⟩
    let exchange ← .get
    -- A request counts as sent whatever the answer is.
    Exchange.send request
    .lift (readResponse request.address (client.network exchange.journal.requests request))

end StaticSite.Api
