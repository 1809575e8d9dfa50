import GreenticDw.Bridge.LateRefusals
import GreenticDw.Traced.Pools

/-! The bridge at work: one task for each message, and the tasks take their steps in any order. -/

namespace GreenticDw

inductive HandlerState where
  | received (msg : Message)
  | invoking (msg : Message) (req : RuntimeDispatchRequest)
  | responding (msg : Message) (response : RuntimeDispatchResponse)
  | finished (msg : Message)
  | failed (msg : Message) (error : BridgeError)
  | dead (msg : Message)

inductive HandlerAction where
  | start
  | answer (answer : Except InvokeError InvokeOutcome)
  | publish (answer : Except String Unit)
  | panic

structure Invocation where
  tenant : String
  env : String
  target : String
  operation : String
  input : Value
  idempotencyKey : Option String

structure Publication where
  topic : String
  headers : List (String × String)
  response : RuntimeDispatchResponse

inductive HandlerOutput where
  | invoked (invocation : Invocation)
  | published (publication : Publication)

namespace HandlerState

def msg : HandlerState → Message
  | received msg => msg
  | invoking msg _ => msg
  | responding msg _ => msg
  | finished msg => msg
  | failed msg _ => msg
  | dead msg => msg

def isOver : HandlerState → Bool
  | finished _ => true
  | failed _ _ => true
  | dead _ => true
  | _ => false

end HandlerState

def Message.invocation (msg : Message) (req : RuntimeDispatchRequest) : Invocation where
  tenant := msg.tenant
  env := msg.env
  target := req.target
  operation := req.operation
  input := req.input
  idempotencyKey := msg.idempotency

def Message.publication (msg : Message) (response : RuntimeDispatchResponse) : Publication where
  topic := responseTopic runtimeName
  headers := msg.responseHeaders
  response := response

namespace OperalaBridge

variable {τ : Type} (bridge : OperalaBridge τ)

/-- The task of one message, cut at the points where it waits. -/
def handler : TaskMachine HandlerState HandlerAction HandlerOutput
  | .received msg, .start =>
    match bridge.decode msg.payload with
    | .ok req => some (.invoking msg req, [.invoked (msg.invocation req)])
    | .error e => some (.failed msg (.undecodable e), [])
  | .invoking msg _, .answer answer => some (.responding msg (bridge.responseOf answer), [])
  | .responding msg response, .publish (.ok _) =>
    some (.finished msg, [.published (msg.publication response)])
  | .responding msg _, .publish (.error e) => some (.failed msg (.unpublished e), [])
  | state, .panic => if state.isOver then none else some (.dead state.msg, [])
  | _, _ => none

inductive Handled (msg : Message) (actions : List HandlerAction) :
    HandlerState → List HandlerOutput → Prop
  | received : Handled msg actions (.received msg) []
  | undecodable {e : String} : bridge.decode msg.payload = .error e →
      Handled msg actions (.failed msg (.undecodable e)) []
  | invoking {req : RuntimeDispatchRequest} : bridge.decode msg.payload = .ok req →
      Handled msg actions (.invoking msg req) [.invoked (msg.invocation req)]
  | responding {req : RuntimeDispatchRequest} {answer : Except InvokeError InvokeOutcome} :
      bridge.decode msg.payload = .ok req → .answer answer ∈ actions →
      Handled msg actions (.responding msg (bridge.responseOf answer))
        [.invoked (msg.invocation req)]
  | unpublished {req : RuntimeDispatchRequest} {e : String} :
      bridge.decode msg.payload = .ok req → .publish (.error e) ∈ actions →
      Handled msg actions (.failed msg (.unpublished e)) [.invoked (msg.invocation req)]
  | finished {req : RuntimeDispatchRequest} {answer : Except InvokeError InvokeOutcome} :
      bridge.decode msg.payload = .ok req → .answer answer ∈ actions →
      Handled msg actions (.finished msg) [.invoked (msg.invocation req),
        .published (msg.publication (bridge.responseOf answer))]
  | unstarted : .panic ∈ actions → Handled msg actions (.dead msg) []
  | unanswered {req : RuntimeDispatchRequest} : bridge.decode msg.payload = .ok req →
      .panic ∈ actions → Handled msg actions (.dead msg) [.invoked (msg.invocation req)]

variable {bridge} {msg : Message} {state state' : HandlerState} {actions : List HandlerAction}
  {os os' : List HandlerOutput}

lemma Handled.step {action : HandlerAction} (h : bridge.Handled msg actions state os)
    (hs : bridge.handler state action = some (state', os')) :
    bridge.Handled msg (actions ++ [action]) state' (os ++ os') := by
  cases h with
  | received =>
    cases action with
    | start =>
      cases hd : bridge.decode msg.payload with
      | error e =>
        simp only [handler, hd, Option.some.injEq, Prod.mk.injEq] at hs
        obtain ⟨rfl, rfl⟩ := hs
        exact .undecodable hd
      | ok req =>
        simp only [handler, hd, Option.some.injEq, Prod.mk.injEq] at hs
        obtain ⟨rfl, rfl⟩ := hs
        exact .invoking hd
    | panic =>
      obtain ⟨rfl, rfl⟩ := Prod.mk.inj (Option.some.inj hs)
      exact .unstarted (by simp)
    | _ => cases hs
  | invoking hd =>
    cases action with
    | answer answer =>
      obtain ⟨rfl, rfl⟩ := Prod.mk.inj (Option.some.inj hs)
      exact .responding hd (by simp)
    | panic =>
      obtain ⟨rfl, rfl⟩ := Prod.mk.inj (Option.some.inj hs)
      exact .unanswered hd (by simp)
    | _ => cases hs
  | responding hd ha =>
    cases action with
    | publish r =>
      cases r with
      | error e =>
        obtain ⟨rfl, rfl⟩ := Prod.mk.inj (Option.some.inj hs)
        exact .unpublished hd (by simp)
      | ok _ =>
        obtain ⟨rfl, rfl⟩ := Prod.mk.inj (Option.some.inj hs)
        exact .finished hd (List.mem_append_left _ ha)
    | panic =>
      obtain ⟨rfl, rfl⟩ := Prod.mk.inj (Option.some.inj hs)
      exact .unanswered hd (by simp)
    | _ => cases hs
  | _ => cases action <;> cases hs

lemma Handled.of_run (h : bridge.handler.run (.received msg) actions = some (state, os)) :
    bridge.Handled msg actions state os := by
  have hrun := @TaskMachine.run_invariant _ _ _ _
    (fun state actions os => bridge.Handled msg actions state os)
    (fun _ _ _ _ _ _ hg hs => hg.step hs) _ _ [] _ [] _ .received h
  simpa using hrun

end OperalaBridge

inductive BridgeAction where
  | message (msg : Message)
  | task (number : ℕ) (action : HandlerAction)

def BridgeAction.poolAction : BridgeAction → PoolAction HandlerState HandlerAction
  | message msg => .spawn (.received msg)
  | task i action => .act i action

def BridgeAction.incoming : BridgeAction → Option Message
  | message msg => some msg
  | task _ _ => none

def HandlerOutput.publication : HandlerOutput → Option Publication
  | published p => some p
  | invoked _ => none

def HandlerOutput.invocation : HandlerOutput → Option Invocation
  | invoked i => some i
  | published _ => none

namespace OperalaBridge

variable {τ : Type} {bridge : OperalaBridge τ}

def runBridge (bridge : OperalaBridge τ) (actions : List BridgeAction) :
    Option (Pool HandlerState HandlerOutput) :=
  Pool.run bridge.handler .empty (actions.map BridgeAction.poolAction)

end OperalaBridge

namespace Script

def payloadRequest : RuntimeDispatchRequest := ⟨"worker", "", .await, .object [], none⟩

def overtaking : List BridgeAction :=
  [.message untenanted, .task 0 .start, .message { untenanted with headers := none },
    .task 1 .start, .task 1 (.answer (.error (.unsupportedOperation "x"))),
    .task 1 (.publish (.ok ())), .task 0 (.answer (.ok ⟨true, .null, []⟩)),
    .task 0 (.publish (.ok ()))]

def overtakenResponse : Publication :=
  untenanted.publication (toolBridge.responseOf (.ok ⟨true, .null, []⟩))

def overtakingResponse : Publication :=
  Message.publication { untenanted with headers := none }
    (toolBridge.responseOf (.error (.unsupportedOperation "x")))

def overtaken : Pool HandlerState HandlerOutput where
  tasks := [.finished untenanted, .finished { untenanted with headers := none }]
  outputs :=
    [(0, .invoked (untenanted.invocation payloadRequest)),
      (1, .invoked (Message.invocation { untenanted with headers := none } payloadRequest)),
      (1, .published overtakingResponse), (0, .published overtakenResponse)]

lemma decode_payload : toolBridge.decode untenanted.payload = .ok payloadRequest := if_pos rfl

lemma run_overtaking : toolBridge.runBridge overtaking = some overtaken := by
  have hd := decode_payload
  simp [OperalaBridge.runBridge, overtaking, BridgeAction.poolAction, Pool.run, Pool.step,
    Pool.empty, OperalaBridge.handler, hd, overtaken, overtakingResponse, overtakenResponse,
    Message.publication, Message.invocation]

end Script

namespace OperalaBridge

variable {τ : Type} {bridge : OperalaBridge τ} {actions : List BridgeAction}
  {pool : Pool HandlerState HandlerOutput}

lemma spawned_eq (actions : List BridgeAction) :
    (actions.map BridgeAction.poolAction).filterMap PoolAction.spawned =
      (actions.filterMap BridgeAction.incoming).map .received := by
  induction actions with
  | nil => rfl
  | cons action actions ih =>
    rw [List.map_cons]
    cases action with
    | message msg => exact congrArg (HandlerState.received msg :: ·) ih
    | task i action => exact ih

theorem runBridge_task (h : bridge.runBridge actions = some pool) {i : ℕ} {msg : Message}
    (hi : (actions.filterMap BridgeAction.incoming)[i]? = some msg) :
    ∃ state own, pool.tasks[i]? = some state ∧
      bridge.handler.run (.received msg) own = some (state, pool.outputsOf i) ∧
      ∀ action, action ∈ own ↔ .task i action ∈ actions := by
  have hproj := Pool.run_projects h
  have hspawned : ((actions.map BridgeAction.poolAction).filterMap PoolAction.spawned)[i]? =
      some (.received msg) := by rw [spawned_eq, List.getElem?_map, hi, Option.map_some]
  obtain ⟨state, hstate, hrun⟩ := hproj.task i _ hspawned
  refine ⟨state, _, hstate, hrun, fun action => ?_⟩
  rw [List.filterMap_map, List.mem_filterMap]
  constructor
  · rintro ⟨_ | ⟨j, a⟩, hb, hown⟩
    · cases hown
    · simp only [Function.comp_apply, BridgeAction.poolAction, PoolAction.actionOf,
        Option.ite_none_right_eq_some, Option.some.injEq] at hown
      obtain ⟨rfl, rfl⟩ := hown
      exact hb
  · exact fun hb => ⟨_, hb, if_pos rfl⟩

theorem runBridge_handled (h : bridge.runBridge actions = some pool) {i : ℕ} {msg : Message}
    (hi : (actions.filterMap BridgeAction.incoming)[i]? = some msg) :
    ∃ state own, pool.tasks[i]? = some state ∧ bridge.Handled msg own state (pool.outputsOf i) ∧
      ∀ action ∈ own, .task i action ∈ actions := by
  obtain ⟨state, own, hstate, hrun, hown⟩ := runBridge_task h hi
  exact ⟨state, own, hstate, .of_run hrun, fun action => (hown action).mp⟩

lemma Handled.publication_eq {own : List HandlerAction} {state : HandlerState}
    {os : List HandlerOutput} {msg : Message} {p : Publication}
    (h : bridge.Handled msg own state os) (hp : .published p ∈ os) :
    ∃ req answer, bridge.decode msg.payload = .ok req ∧ .answer answer ∈ own ∧
      p = msg.publication (bridge.responseOf answer) ∧
      os = [.invoked (msg.invocation req), .published p] := by
  cases h with
  | finished hd ha =>
    obtain rfl : p = _ := by simpa using hp
    exact ⟨_, _, hd, ha, rfl, rfl⟩
  | _ => simp at hp

lemma Handled.invocation_eq {own : List HandlerAction} {state : HandlerState}
    {os : List HandlerOutput} {msg : Message} {invocation : Invocation}
    (h : bridge.Handled msg own state os) (hi : .invoked invocation ∈ os) :
    ∃ req, bridge.decode msg.payload = .ok req ∧ invocation = msg.invocation req ∧
      os.filterMap HandlerOutput.invocation = [invocation] := by
  cases h with
  | invoking hd =>
    obtain rfl : invocation = _ := by simpa using hi
    exact ⟨_, hd, rfl, rfl⟩
  | responding hd _ =>
    obtain rfl : invocation = _ := by simpa using hi
    exact ⟨_, hd, rfl, rfl⟩
  | unpublished hd _ =>
    obtain rfl : invocation = _ := by simpa using hi
    exact ⟨_, hd, rfl, rfl⟩
  | finished hd _ =>
    obtain rfl : invocation = _ := by simpa using hi
    exact ⟨_, hd, rfl, rfl⟩
  | unanswered hd _ =>
    obtain rfl : invocation = _ := by simpa using hi
    exact ⟨_, hd, rfl, rfl⟩
  | _ => simp at hi

lemma mem_outputsOf {i : ℕ} {output : HandlerOutput} :
    output ∈ pool.outputsOf i ↔ (i, output) ∈ pool.outputs := by
  simp [Pool.outputsOf, List.mem_filterMap, and_comm]

lemma runBridge_owner (h : bridge.runBridge actions = some pool) {i : ℕ} {output : HandlerOutput}
    (ho : (i, output) ∈ pool.outputs) :
    ∃ msg, (actions.filterMap BridgeAction.incoming)[i]? = some msg := by
  have hproj := Pool.run_projects h
  by_contra hno
  rw [← mem_outputsOf] at ho
  have hlen : pool.tasks.length ≤ i := by
    rw [hproj.length, spawned_eq, List.length_map]
    by_contra hlt
    exact hno ⟨_, List.getElem?_eq_getElem (by omega)⟩
  rw [(hproj.fresh i hlen).2] at ho
  exact nomatch ho

lemma publication_answers (h : bridge.runBridge actions = some pool) {i : ℕ} {p : Publication}
    (hp : (i, .published p) ∈ pool.outputs) :
    ∃ msg req answer, (actions.filterMap BridgeAction.incoming)[i]? = some msg ∧
      bridge.decode msg.payload = .ok req ∧ .task i (.answer answer) ∈ actions ∧
      p = msg.publication (bridge.responseOf answer) ∧
      pool.outputsOf i = [.invoked (msg.invocation req), .published p] := by
  obtain ⟨msg, hmsg⟩ := runBridge_owner h hp
  obtain ⟨state, own, _, hh, hown⟩ := runBridge_handled h hmsg
  obtain ⟨req, answer, hd, ha, hpub, hos⟩ := hh.publication_eq (mem_outputsOf.mpr hp)
  exact ⟨msg, req, answer, hmsg, hd, hown _ ha, hpub, hos⟩

lemma invocation_forwards (h : bridge.runBridge actions = some pool) {i : ℕ}
    {invocation : Invocation} (hi : (i, .invoked invocation) ∈ pool.outputs) :
    ∃ msg req, (actions.filterMap BridgeAction.incoming)[i]? = some msg ∧
      bridge.decode msg.payload = .ok req ∧ invocation = msg.invocation req ∧
      (pool.outputsOf i).filterMap HandlerOutput.invocation = [invocation] := by
  obtain ⟨msg, hmsg⟩ := runBridge_owner h hi
  obtain ⟨state, own, _, hh, _⟩ := runBridge_handled h hmsg
  obtain ⟨req, hd, hinv, hos⟩ := hh.invocation_eq (mem_outputsOf.mpr hi)
  exact ⟨msg, req, hmsg, hd, hinv, hos⟩

theorem responses_answer_messages (h : bridge.runBridge actions = some pool) :
    (∀ i p, (i, .published p) ∈ pool.outputs →
      ∃ msg req answer, (actions.filterMap BridgeAction.incoming)[i]? = some msg ∧
        bridge.decode msg.payload = .ok req ∧ .task i (.answer answer) ∈ actions ∧
        p = msg.publication (bridge.responseOf answer) ∧
        pool.outputsOf i = [.invoked (msg.invocation req), .published p]) ∧
    ∀ i invocation, (i, .invoked invocation) ∈ pool.outputs →
      ∃ msg req, (actions.filterMap BridgeAction.incoming)[i]? = some msg ∧
        bridge.decode msg.payload = .ok req ∧ invocation = msg.invocation req ∧
        (pool.outputsOf i).filterMap HandlerOutput.invocation = [invocation] :=
  ⟨fun _ _ hp => publication_answers h hp, fun _ _ hi => invocation_forwards h hi⟩

theorem responses_answer_messages_overtaking :
    ∃ msg req answer, (Script.overtaking.filterMap BridgeAction.incoming)[1]? = some msg ∧
      Script.toolBridge.decode msg.payload = .ok req ∧
      .task 1 (.answer answer) ∈ Script.overtaking ∧
      Script.overtakingResponse = msg.publication (Script.toolBridge.responseOf answer) ∧
      Script.overtaken.outputsOf 1 =
        [.invoked (msg.invocation req), .published Script.overtakingResponse] :=
  (responses_answer_messages Script.run_overtaking).1 1 _ (by simp [Script.overtaken])

lemma handler_of_isOver {state : HandlerState} (h : state.isOver = true) (action : HandlerAction) :
    bridge.handler state action = none := by
  cases state <;> cases h <;> cases action <;> rfl

lemma handler_panic {state state' : HandlerState} {os : List HandlerOutput}
    (h : bridge.handler state .panic = some (state', os)) : state' = .dead state.msg := by
  cases state <;> cases h <;> rfl

lemma handler_refused {state state' : HandlerState} {os : List HandlerOutput} {e : String}
    (h : bridge.handler state (.publish (.error e)) = some (state', os)) :
    state' = .failed state.msg (.unpublished e) := by
  cases state <;> cases h
  rfl

lemma unpublished_of_failure {msg : Message} {state : HandlerState} {own : List HandlerAction}
    {os : List HandlerOutput} (h : bridge.handler.run (.received msg) own = some (state, os))
    (hf : .panic ∈ own ∨ ∃ e, .publish (.error e) ∈ own) (p : Publication) :
    .published p ∉ os := by
  have hstate : ∀ msg, state ≠ .finished msg := by
    rcases hf with hp | ⟨e, he⟩
    · obtain ⟨u, o, hs⟩ := TaskMachine.run_last h hp fun _ _ _ b hs =>
        handler_of_isOver (by rw [handler_panic hs]; rfl) b
      rw [handler_panic hs]
      exact fun _ => HandlerState.noConfusion
    · obtain ⟨u, o, hs⟩ := TaskMachine.run_last h he fun _ _ _ b hs =>
        handler_of_isOver (by rw [handler_refused hs]; rfl) b
      rw [handler_refused hs]
      exact fun _ => HandlerState.noConfusion
  intro hpub
  have hh := Handled.of_run h
  cases hh with
  | finished _ _ => exact hstate _ rfl
  | _ => simp at hpub

theorem messages_are_answered (h : bridge.runBridge actions = some pool)
    (hover : ∀ state ∈ pool.tasks, state.isOver = true) {i : ℕ} {msg : Message}
    (hi : (actions.filterMap BridgeAction.incoming)[i]? = some msg) :
    (∀ req, bridge.decode msg.payload = .ok req → .task i .panic ∉ actions →
      (∀ e, .task i (.publish (.error e)) ∉ actions) →
      ∃ answer, .task i (.answer answer) ∈ actions ∧ pool.outputsOf i =
        [.invoked (msg.invocation req),
          .published (msg.publication (bridge.responseOf answer))]) ∧
    ((∃ e, bridge.decode msg.payload = .error e) ∨ .task i .panic ∈ actions ∨
        (∃ e, .task i (.publish (.error e)) ∈ actions) →
      ∀ p, .published p ∉ pool.outputsOf i) := by
  obtain ⟨state, own, hstate, hrun, hown⟩ := runBridge_task h hi
  have hdone := hover state (List.mem_of_getElem? hstate)
  have hh := Handled.of_run hrun
  refine ⟨fun req hd hpanic hpub => ?_, ?_⟩
  · generalize pool.outputsOf i = os at hh ⊢
    cases hh with
    | undecodable he => cases hd.symm.trans he
    | unpublished _ hp => exact absurd ((hown _).mp hp) (hpub _)
    | finished hd' ha =>
      obtain rfl := Except.ok.inj (hd.symm.trans hd')
      exact ⟨_, (hown _).mp ha, rfl⟩
    | unstarted hp => exact absurd ((hown _).mp hp) hpanic
    | unanswered _ hp => exact absurd ((hown _).mp hp) hpanic
    | _ => cases hdone
  · rintro (⟨e, he⟩ | hp | ⟨e, he⟩) p
    · intro hpub
      obtain ⟨req, _, hd, _⟩ := hh.publication_eq hpub
      cases hd.symm.trans he
    · exact unpublished_of_failure hrun (.inl ((hown _).mpr hp)) p
    · exact unpublished_of_failure hrun (.inr ⟨e, (hown _).mpr he⟩) p

theorem messages_are_answered_overtaking :
    ∃ answer, .task 0 (.answer answer) ∈ Script.overtaking ∧ Script.overtaken.outputsOf 0 =
      [.invoked (Script.untenanted.invocation Script.payloadRequest),
        .published (Script.untenanted.publication (Script.toolBridge.responseOf answer))] :=
  (messages_are_answered Script.run_overtaking (by simp [Script.overtaken, HandlerState.isOver])
    rfl).1 _ Script.decode_payload (by simp [Script.overtaking]) (by simp [Script.overtaking])

lemma Handled.continues {own : List HandlerAction} {state : HandlerState} {os : List HandlerOutput}
    {msg : Message} {req : RuntimeDispatchRequest} (h : bridge.Handled msg own state os)
    (hd : bridge.decode msg.payload = .ok req) (hlive : state.isOver = false)
    (answer : Except InvokeError InvokeOutcome) :
    ∃ k os', bridge.handler.run state ([.start, .answer answer, .publish (.ok ())].drop k) =
      some (.finished msg, os') := by
  cases h with
  | received =>
    refine ⟨0, [.invoked (msg.invocation req),
      .published (msg.publication (bridge.responseOf answer))], ?_⟩
    simp only [List.drop_zero, TaskMachine.run, handler, hd]
    rfl
  | invoking _ => exact ⟨1, _, rfl⟩
  | responding _ _ => exact ⟨2, _, rfl⟩
  | _ => cases hlive

def remaining (i : ℕ) (answer : Except InvokeError InvokeOutcome) (made : ℕ) : List BridgeAction :=
  ([.start, .answer answer, .publish (.ok ())].drop made).map (.task i)

lemma publication_of_finished {own : List HandlerAction} {os : List HandlerOutput} {msg : Message}
    {req : RuntimeDispatchRequest} (h : bridge.Handled msg own (.finished msg) os)
    (hd : bridge.decode msg.payload = .ok req) :
    ∃ answer, .answer answer ∈ own ∧ os = [.invoked (msg.invocation req),
      .published (msg.publication (bridge.responseOf answer))] := by
  cases h with
  | finished hd' ha =>
    obtain rfl := Except.ok.inj (hd.symm.trans hd')
    exact ⟨_, ha, rfl⟩

lemma runBridge_append_task (h : bridge.runBridge actions = some pool) {i : ℕ}
    {state state' : HandlerState} {own : List HandlerAction} {os : List HandlerOutput}
    (hstate : pool.tasks[i]? = some state) (hrun : bridge.handler.run state own = some (state', os)) :
    bridge.runBridge (actions ++ own.map (.task i)) =
      some ⟨pool.tasks.set i state', pool.outputs ++ os.map (i, ·)⟩ := by
  have hact := Pool.run_act hstate hrun
  unfold runBridge at h ⊢
  rw [List.map_append, List.map_map]
  simp only [Pool.run, List.foldlM_append] at h hact ⊢
  rw [h]
  exact hact

theorem message_can_be_answered (h : bridge.runBridge actions = some pool) {i : ℕ} {msg : Message}
    {req : RuntimeDispatchRequest} {state : HandlerState}
    (hi : (actions.filterMap BridgeAction.incoming)[i]? = some msg)
    (hd : bridge.decode msg.payload = .ok req) (hstate : pool.tasks[i]? = some state)
    (hlive : state.isOver = false) (answer : Except InvokeError InvokeOutcome) :
    ∃ made pool' answer', bridge.runBridge (actions ++ remaining i answer made) = some pool' ∧
      .task i (.answer answer') ∈ actions ++ remaining i answer made ∧
      pool'.outputsOf i = [.invoked (msg.invocation req),
        .published (msg.publication (bridge.responseOf answer'))] ∧
      ∀ j, j ≠ i → pool'.tasks[j]? = pool.tasks[j]? ∧ pool'.outputsOf j = pool.outputsOf j := by
  obtain ⟨state', own, hstate', hh, _⟩ := runBridge_handled h hi
  obtain rfl := Option.some.inj (hstate.symm.trans hstate')
  obtain ⟨made, os', hrun⟩ := hh.continues hd hlive answer
  have hlt : i < pool.tasks.length := (List.getElem?_eq_some_iff.mp hstate).1
  have hgoes : bridge.runBridge (actions ++ remaining i answer made) =
      some ⟨pool.tasks.set i (.finished msg), pool.outputs ++ os'.map (i, ·)⟩ :=
    runBridge_append_task h hstate hrun
  have hi' : ((actions ++ remaining i answer made).filterMap BridgeAction.incoming)[i]? =
      some msg := by
    rw [List.filterMap_append, List.getElem?_append_left (List.getElem?_eq_some_iff.mp hi).1, hi]
  obtain ⟨final, own', hfinal, hh', hown'⟩ := runBridge_handled hgoes hi'
  obtain rfl : .finished msg = final := by simpa [hlt] using hfinal
  obtain ⟨answer', ha, hout⟩ := publication_of_finished hh' hd
  refine ⟨made, _, answer', hgoes, hown' _ ha, hout,
    fun j hj => ⟨List.getElem?_set_ne hj.symm, ?_⟩⟩
  rw [Pool.outputsOf_append j i pool.tasks, if_neg hj.symm, List.append_nil]

theorem message_can_be_answered_started :
    ∃ made pool' answer', Script.toolBridge.runBridge ([.message Script.untenanted,
        .task 0 .start] ++ remaining 0 (.ok ⟨true, .null, []⟩) made) = some pool' ∧
      pool'.outputsOf 0 = [.invoked (Script.untenanted.invocation Script.payloadRequest),
        .published (Script.untenanted.publication (Script.toolBridge.responseOf answer'))] := by
  have hrun : Script.toolBridge.runBridge [.message Script.untenanted, .task 0 .start] =
      some ⟨[.invoking Script.untenanted Script.payloadRequest],
        [(0, .invoked (Script.untenanted.invocation Script.payloadRequest))]⟩ := by
    simp [runBridge, BridgeAction.poolAction, Pool.run, Pool.step, Pool.empty, handler,
      Script.decode_payload]
  have hstate : [HandlerState.invoking Script.untenanted Script.payloadRequest][0]? =
      some (.invoking Script.untenanted Script.payloadRequest) := rfl
  obtain ⟨made, pool', answer', h, _, hout, _⟩ := message_can_be_answered hrun rfl
    Script.decode_payload hstate rfl (.ok ⟨true, .null, []⟩)
  exact ⟨made, pool', answer', h, hout⟩

end OperalaBridge

def BridgeEvent.publication {τ : Type} : BridgeEvent τ → Option Publication
  | .published topic headers response (.ok _) => some ⟨topic, headers, response⟩
  | _ => none

def BridgeEvent.dispatched {τ : Type} : BridgeEvent τ → Option (DispatchEvent τ)
  | .dispatch event => some event
  | .published _ _ _ _ => none

def HandlerAction.answered : HandlerAction → Option (Except InvokeError InvokeOutcome)
  | .answer a => some a
  | _ => none

namespace OperalaBridge

variable {τ : Type}

def invokeAll (bridge : OperalaBridge τ) :
    List Invocation → Traced τ (DispatchEvent τ) Empty (List (Except InvokeError InvokeOutcome))
  | [] => pure []
  | i :: is => do
    let answer ← (bridge.invoker.invoke i.tenant i.env i.target i.operation i.input
      i.idempotencyKey).attempt
    let answers ← bridge.invokeAll is
    pure (answer :: answers)

theorem handleMessage_is_run (bridge : OperalaBridge τ) (msg : Message) (host : τ) :
    ∃ acts state os, bridge.handler.run (.received msg) acts = some (state, os) ∧
      ((bridge.invokeAll (os.filterMap HandlerOutput.invocation)).run host).result =
        .ok (acts.filterMap HandlerAction.answered) ∧
      ((bridge.invokeAll (os.filterMap HandlerOutput.invocation)).run host).trace =
        ((bridge.handleMessage msg).run host).trace.filterMap BridgeEvent.dispatched ∧
      os.filterMap HandlerOutput.publication =
        ((bridge.handleMessage msg).run host).trace.filterMap BridgeEvent.publication ∧
      state = match ((bridge.handleMessage msg).run host).result with
        | .ok _ => .finished msg
        | .error e => .failed msg e := by
  cases hd : bridge.decode msg.payload with
  | error e =>
    have hrun : (bridge.handleMessage msg).run host = ⟨.error (.undecodable e), host, []⟩ := by
      simp [handleMessage, hd, Except.mapError]
    rw [hrun]
    refine ⟨[.start], .failed msg (.undecodable e), [], ?_, rfl, rfl, rfl, rfl⟩
    simp [TaskMachine.run, handler, hd]
  | ok req =>
    rcases hr : (bridge.invoker.invoke msg.tenant msg.env req.target req.operation req.input
      msg.idempotency).run host with ⟨answer, host', t⟩
    have hinvoked : (bridge.invokeAll [msg.invocation req]).run host = ⟨.ok [answer], host', t⟩ := by
      simp [invokeAll, Message.invocation, hr]
    have hsilent : (t.map BridgeEvent.dispatch).filterMap BridgeEvent.publication = [] := by
      simp [List.filterMap_map, BridgeEvent.publication, Function.comp_def]
    have hdispatched : (t.map BridgeEvent.dispatch).filterMap BridgeEvent.dispatched = t := by
      simp [List.filterMap_map, BridgeEvent.dispatched, Function.comp_def]
    rcases hp : bridge.publish (responseTopic runtimeName) msg.responseHeaders
      (bridge.responseOf answer) host' with ⟨published, host''⟩
    have hrun : (bridge.handleMessage msg).run host =
        ⟨published.mapError .unpublished, host'', t.map .dispatch ++
          [.published (responseTopic runtimeName) msg.responseHeaders (bridge.responseOf answer)
            published]⟩ := by
      simp [handleMessage, buildResponse, hd, hr, hp, Except.mapError]
    simp only [hrun, List.filterMap_append, hsilent, hdispatched]
    cases published with
    | error e =>
      refine ⟨[.start, .answer answer, .publish (.error e)], .failed msg (.unpublished e),
        [.invoked (msg.invocation req)], ?_, congrArg Outcome.result hinvoked, ?_, rfl, rfl⟩
      · simp [TaskMachine.run, handler, hd]
      · exact (congrArg Outcome.trace hinvoked).trans (List.append_nil t).symm
    | ok _ =>
      refine ⟨[.start, .answer answer, .publish (.ok ())], .finished msg,
        [.invoked (msg.invocation req), .published (msg.publication (bridge.responseOf answer))],
        ?_, congrArg Outcome.result hinvoked, ?_, rfl, rfl⟩
      · simp [TaskMachine.run, handler, hd]
      · exact (congrArg Outcome.trace hinvoked).trans (List.append_nil t).symm

end OperalaBridge

end GreenticDw
