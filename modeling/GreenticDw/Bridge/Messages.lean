import GreenticDw.Invoker.Dispatch

namespace GreenticDw

inductive DispatchMode where
  | await
  | fireAndForget
  deriving DecidableEq, Repr

structure RuntimeDispatchRequest where
  target : String
  operation : String
  mode : DispatchMode
  input : Value
  deadlineMs : Option UInt64

structure DispatchError where
  code : String
  message : String

structure RuntimeDispatchResponse where
  ok : Bool
  output : Value
  events : List Value
  error : Option DispatchError

def runtimeName : String := "operala"

def responseTopic (runtime : String) : String := "greentic." ++ runtime ++ ".response.v1"

structure Message where
  headers : Option (List (String × String))
  payload : List UInt8

namespace Message

variable (msg : Message)

def getHeader (name : String) : Option String :=
  msg.headers.bind fun headers => (headers.find? (·.1 = name)).map (·.2)

def correlation : Option String := msg.getHeader "Greentic-Correlation-Id"

def idempotency : Option String := (msg.getHeader "Greentic-Idempotency-Key").or msg.correlation

def tenant : String := (msg.getHeader "Greentic-Tenant").getD ""

def env : String := (msg.getHeader "Greentic-Env").getD "default"

def responseHeaders : List (String × String) :=
  (msg.correlation.map (("Greentic-Correlation-Id", ·))).toList ++
    [("Greentic-Tenant", msg.tenant), ("Greentic-Env", msg.env)]

end Message

inductive BridgeError where
  | undecodable (message : String)
  | unpublished (message : String)

inductive BridgeEvent (τ : Type) where
  | dispatch (event : DispatchEvent τ)
  | published (topic : String) (headers : List (String × String))
      (response : RuntimeDispatchResponse) (answer : Except String Unit)

structure OperalaBridge (τ : Type) where
  invoker : DeepWorkerInvoker τ
  decode : List UInt8 → Except String RuntimeDispatchRequest
  errorText : InvokeError → String
  publish : String → List (String × String) → RuntimeDispatchResponse → τ → Except String Unit × τ

namespace OperalaBridge

variable {τ : Type} (bridge : OperalaBridge τ)

def responseOf : Except InvokeError InvokeOutcome → RuntimeDispatchResponse
  | .ok outcome => ⟨outcome.ok, outcome.output, outcome.events, none⟩
  | .error error => ⟨false, .null, [], some ⟨"invoke_failed", bridge.errorText error⟩⟩

def buildResponse (tenant env : String) (idempotencyKey : Option String)
    (req : RuntimeDispatchRequest) :
    Traced τ (BridgeEvent τ) BridgeError RuntimeDispatchResponse := do
  let answer ← ((bridge.invoker.invoke tenant env req.target req.operation req.input
    idempotencyKey).relabel .dispatch).attempt
  pure (bridge.responseOf answer)

def handleMessage (msg : Message) : Traced τ (BridgeEvent τ) BridgeError Unit := do
  let req ← Traced.ofExcept ((bridge.decode msg.payload).mapError .undecodable)
  let resp ← bridge.buildResponse msg.tenant msg.env msg.idempotency req
  let topic := responseTopic runtimeName
  (Traced.ask (bridge.publish topic msg.responseHeaders resp)
    (.published topic msg.responseHeaders resp)).mapError .unpublished

end OperalaBridge

end GreenticDw
