import AspRust.Provider.RuntimeFrames

/-!
# Runs of the provider

The provider is the connection server with one handler: it answers whether it is healthy,
answers a request frame, or starts to shut down.  The handler runs on a worker, so that a
panic of it becomes an error of the one request.

A run of the provider is a run of the server in which the handler is this one, and the
shutdown is sent by nothing but the handler (`HandledBy`).  Clients, their reads and
writes, failures of the network and the order of everything are still the environment.
In every such run a connection is answered by what it asked for alone, and the loop is left
without an error only for a client that asked to shut down (`provider_answers`,
`provider_stops`).

### What is load-bearing

The handler has no state.  Its result is a function of the request and of the worker task on
which it runs, whose number stands in the text of a panic; the runtime gives the numbers, so they
are a parameter of a run (`workerTask`).

`Served` says of one connection, in each of its phases, what it has read and what it will be
answered.  It is kept by each step of the connection, and nothing else touches it; that no other
connection can change it is the isolation of the server.
-/

namespace AspRust.Provider

open AspRust.Foundation

/-! ## The handler

The handler as a function of the request, and what its worker makes of a panic. -/

section Handler

variable {Payload : Type} (libraries : RuntimeLibraries Payload) (health : Json)

/-- The request asks to shut down. -/
def asksShutdown (request : HttpJsonRequest) : Bool :=
  request.method = "POST" && request.path = "/shutdown"

/-- Answer a request.  The receiver of the shutdown lives as long as the server, so it
can be sent. -/
def handleHttpRequest (request : HttpJsonRequest) : Outcome HttpJsonResponse :=
  if request.method = "GET" ∧ request.path = "/health" then .ok ⟨200, health.encode⟩
  else if request.method = "POST" ∧ request.path = "/v1/provider-runtime" then
    match libraries.decodeFrame request.body with
    | .error error => .error (.returned ("decode asp-client-server request: " ++ error))
    | .ok frame => (handleRequest libraries frame).map fun body => ⟨200, body⟩
  else if asksShutdown request then
    .ok ⟨200, Json.encode (.object [("state", .string "draining")])⟩
  else
    .ok ⟨404, Json.encode (.object [("error", .string "asp-client-server-route-not-found")])⟩

/-- What the worker of a request ends with: a panic is an error, whose text has the id of
the worker's task. -/
def workerResult (task : ℕ) (request : HttpJsonRequest) : Except String HttpJsonResponse :=
  match handleHttpRequest libraries health request with
  | .ok response => .ok response
  | .error (.returned error) => .error error
  | .error (.panicked message) =>
      .error ("provider request worker failed: " ++ libraries.describePanic task message)
  | .error .exhausted =>
      .error ("provider request worker failed: " ++ libraries.describePanic task "")

/-- The response to a request. -/
def providerAnswer (task : ℕ) (request : HttpJsonRequest) : HttpJsonResponse :=
  responseOf (workerResult libraries health task request)

end Handler

/-! ## Runs

A run of the server is one of the provider if every result of the handler is that of
this handler, and the shutdown is sent only while a request for it is handled. -/

/-- The request that a connection is being handled for. -/
def Connection.handled? (connection : Connection) : Option HttpJsonRequest :=
  match connection.phase with
  | .handling request => some request
  | _ => none

namespace Server

section Runs

variable {Payload : Type} (libraries : RuntimeLibraries Payload) (health : Json)
variable (workerTask : ℕ → ℕ)

/-- The handler is the one of the provider: its result is that of the request, on the worker
task that the runtime gives to the connection; a worker's panic does not reach the task of
the connection; and shutdown is sent while a request for it is handled, and before the
request is answered. -/
def HandledBy (server : Server) : ServerEvent → Prop
  | .connection id (.handled result) =>
      ∀ request ∈ (server.connection? id).bind Connection.handled?,
        result = workerResult libraries health (workerTask id) request ∧
          (asksShutdown request = true → server.shutdown.value = true)
  | .connection _ (.handlerPanicked _) => False
  | .send value => value = true ∧ ∃ entry ∈ server.connections,
      entry.2.handled?.any asksShutdown = true
  | .close => False
  | _ => True

/-! ## What is known of a connection

An invariant of one connection, by its phase. -/

/-- The reading of a connection agrees with the reader of whole lists of chunks, and its
response is the answer to the request that it read. -/
def Served (task : ℕ) (connection : Connection) : Prop :=
  match connection.phase with
  | .reading phase => ∀ rest, readRequest (connection.chunks ++ rest) = phase.resume rest
  | .handling request => ∀ rest, readRequest (connection.chunks ++ rest) = .ok request
  | .writing request response =>
      (∀ rest, readRequest (connection.chunks ++ rest) = .ok request) ∧
        response = providerAnswer libraries health task request
  | .answered request written =>
      (∀ rest, readRequest (connection.chunks ++ rest) = .ok request) ∧
        written = responseBytes (providerAnswer libraries health task request)
  | .failed _ => True

/-- The connection has read a request to shut down. -/
def AskedShutdown (connection : Connection) : Prop :=
  (∃ request, readRequest connection.chunks = .ok request ∧ asksShutdown request = true) ∧
    ∀ phase, connection.phase ≠ .reading phase

variable {libraries health} {task : ℕ}

theorem served_accepted : Served libraries health task .accepted :=
  fun rest => (ReadPhase.resume_start rest).symm

/-- A step of a task keeps what is known of it. -/
theorem Served.step {connection next : Connection} {event : ConnectionEvent}
    (h : Served libraries health task connection)
    (hhandled : ∀ result, event = .handled result → ∀ request ∈ connection.handled?,
      result = workerResult libraries health task request)
    (hstep : connection.step event = some next) : Served libraries health task next := by
  unfold Served at h
  unfold Connection.step at hstep
  split at hstep
  · next phase chunk hphase =>
      simp only [hphase] at h
      split at hstep
      · next hchunk =>
          cases hstep
          have hfeed : ∀ rest, readRequest ((connection.chunks ++ [chunk]) ++ rest) =
              (phase.feed chunk).resume rest := by
            intro rest
            rw [List.append_assoc, List.singleton_append, h, phase.resume_feed hchunk.1]
          unfold Served
          cases hnext : phase.feed chunk with
          | more phase => simpa [hnext, ReadStep.phase, ReadStep.resume] using hfeed
          | done request => simpa [hnext, ReadStep.phase, ReadStep.resume] using hfeed
          | failed fault => trivial
      · cases hstep
  · cases hstep
    trivial
  · cases hstep
    trivial
  · next request result hphase =>
      simp only [hphase] at h
      cases hstep
      have hresult := hhandled result rfl request (by rw [Connection.handled?, hphase]; rfl)
      exact ⟨h, by rw [hresult, providerAnswer]⟩
  · cases hstep
    trivial
  · next request response hphase =>
      simp only [hphase] at h
      cases hstep
      exact ⟨h.1, by rw [h.2]⟩
  · cases hstep
    trivial
  · cases hstep

/-- A request that was read stays read. -/
theorem AskedShutdown.step {connection next : Connection} {event : ConnectionEvent}
    (h : AskedShutdown connection) (hstep : connection.step event = some next) :
    AskedShutdown next := by
  obtain ⟨hasked, hphase⟩ := h
  unfold Connection.step at hstep
  split at hstep
  · next phase chunk hreading => exact absurd hreading (hphase phase)
  · next phase hreading => exact absurd hreading (hphase phase)
  · next phase error hreading => exact absurd hreading (hphase phase)
  all_goals cases hstep
  all_goals exact ⟨hasked, fun phase hreading => by cases hreading⟩

/-- A connection that is handled for a request to shut down has asked for it. -/
theorem Served.askedShutdown {connection : Connection} (h : Served libraries health task connection)
    (hshutdown : connection.handled?.any asksShutdown = true) : AskedShutdown connection := by
  unfold Connection.handled? at hshutdown
  split at hshutdown
  · next request hphase =>
      simp only [Served, hphase] at h
      have hread := h []
      rw [List.append_nil] at hread
      refine ⟨⟨request, hread, hshutdown⟩, fun phase hreading => ?_⟩
      rw [hphase] at hreading
      cases hreading
  · cases hshutdown

end Runs

/-! ## What is known of the server

The invariant of the server holds the invariants of all connections, also of those whose
completion was taken, and says why a shutdown was sent. -/

section Invariant

variable {Payload : Type} {libraries : RuntimeLibraries Payload} {health : Json}
variable {workerTask : ℕ → ℕ}

/-- The connections that are in the set or were taken from it. -/
def allConnections (server : Server) : List (ℕ × Connection) := server.connections ++ server.joined

/-- The invariant of the runs of the provider. -/
structure Serving (libraries : RuntimeLibraries Payload) (health : Json) (workerTask : ℕ → ℕ)
    (server : Server) : Prop where
  /-- The tasks have different ids. -/
  distinct : (server.connections.map Prod.fst).Nodup
  /-- No id was given before it is given. -/
  below : ∀ entry ∈ server.connections, entry.1 < server.nextId
  /-- Every connection is served what it asked for. -/
  served : ∀ entry ∈ server.allConnections, Served libraries health (workerTask entry.1) entry.2
  /-- Shutdown is requested by a client. -/
  requested : server.shutdown.value = true →
    ∃ entry ∈ server.allConnections, AskedShutdown entry.2
  /-- The loop is left for shutdown, or with an error. -/
  left : server.loop ≠ .selecting →
    server.shutdown.value = true ∨ ∃ message, server.loop = .returned (.error message)

theorem serving_start : Serving libraries health workerTask start where
  distinct := List.nodup_nil
  below entry h := by cases h
  served entry h := by cases h
  requested h := by cases h
  left h := absurd rfl h

variable {server : Server} {id : ℕ} {connection : Connection}

/-- A task is told by its id. -/
theorem Serving.eq_of_id (h : Serving libraries health workerTask server)
    (htask : server.connection? id = some connection) {entry : ℕ × Connection}
    (hentry : entry ∈ server.connections) (hid : entry.1 = id) : entry = (id, connection) :=
  List.inj_on_of_nodup_map h.distinct hentry (server.mem_of_connection? htask) hid

/-- A connection that is there after a completion was taken was there before. -/
theorem mem_of_mem_take (htask : server.connection? id = some connection)
    {entry : ℕ × Connection} (h : entry ∈ (server.take id connection).allConnections) :
    entry ∈ server.allConnections := by
  unfold allConnections Server.take at h
  unfold allConnections
  rcases List.mem_append.mp h with hmem | hmem
  · exact List.mem_append_left _ (List.mem_filter.mp hmem).1
  · rcases List.mem_append.mp hmem with hmem | hmem
    · exact List.mem_append_right _ hmem
    · rw [List.mem_singleton.mp hmem]
      exact List.mem_append_left _ (server.mem_of_connection? htask)

/-- No connection is lost when a completion is taken. -/
theorem Serving.mem_take (h : Serving libraries health workerTask server)
    (htask : server.connection? id = some connection) {entry : ℕ × Connection}
    (hentry : entry ∈ server.allConnections) :
    entry ∈ (server.take id connection).allConnections := by
  unfold allConnections Server.take
  rcases List.mem_append.mp hentry with hmem | hmem
  · by_cases hid : entry.1 = id
    · rw [h.eq_of_id htask hmem hid]
      simp
    · exact List.mem_append_left _ (List.mem_filter.mpr ⟨hmem, by simpa using hid⟩)
  · exact List.mem_append_right _ (List.mem_append_left _ hmem)

/-- The invariant but for the loop, after a completion was taken. -/
theorem Serving.take (h : Serving libraries health workerTask server)
    (htask : server.connection? id = some connection) (hleft : server.loop ≠ .selecting →
      server.shutdown.value = true) : Serving libraries health workerTask (server.take id connection) where
  distinct := h.distinct.sublist (List.filter_sublist.map Prod.fst)
  below entry hentry := h.below entry (List.mem_filter.mp hentry).1
  served entry hentry := h.served entry (mem_of_mem_take htask hentry)
  requested hvalue := by
    obtain ⟨entry, hentry, hasked⟩ := h.requested hvalue
    exact ⟨entry, h.mem_take htask hentry, hasked⟩
  left hloop := Or.inl (hleft hloop)

/-- The invariant does not look at where the loop goes next. -/
theorem Serving.withLoop (h : Serving libraries health workerTask server) {next : Server}
    (hconnections : next.connections = server.connections) (hjoined : next.joined = server.joined)
    (hshutdown : next.shutdown.value = server.shutdown.value) (hnextId : next.nextId = server.nextId)
    (hleft : next.loop ≠ .selecting →
      next.shutdown.value = true ∨ ∃ message, next.loop = .returned (.error message)) :
    Serving libraries health workerTask next := by
  have hall : next.allConnections = server.allConnections := by
    rw [allConnections, allConnections, hconnections, hjoined]
  refine ⟨by rw [hconnections]; exact h.distinct, ?_, ?_, ?_, hleft⟩
  · rw [hconnections, hnextId]
    exact h.below
  · rw [hall]
    exact h.served
  · rw [hall, hshutdown]
    exact h.requested

theorem Serving.loopTop (h : Serving libraries health workerTask server) :
    Serving libraries health workerTask server.loopTop :=
  h.withLoop (by simp) (by simp) (by simp) (by simp) fun hloop => by
    left
    rw [loopTop_shutdown]
    exact value_of_loopTop _ hloop

theorem Serving.drain (h : Serving libraries health workerTask server) (hvalue : server.shutdown.value = true) :
    Serving libraries health workerTask server.drain :=
  h.withLoop (by simp) (by simp) (by simp) (by simp) fun _ => by
    left
    rw [drain_shutdown]
    exact hvalue

theorem Serving.fail (h : Serving libraries health workerTask server) (message : String) :
    Serving libraries health workerTask (server.fail message) :=
  h.withLoop rfl rfl rfl rfl fun _ => Or.inr ⟨message, rfl⟩

/-- A step of one task keeps the invariant. -/
theorem Serving.setConnection (h : Serving libraries health workerTask server) {next : Connection}
    (htask : server.connection? id = some connection)
    (hserved : Served libraries health (workerTask id) next)
    (hasked : AskedShutdown connection → AskedShutdown next) :
    Serving libraries health workerTask (server.setConnection id next) := by
  have hids : (server.setConnection id next).connections.map Prod.fst =
      server.connections.map Prod.fst := by
    rw [Server.setConnection, List.map_map]
    apply List.map_congr_left
    intro entry _
    by_cases hid : entry.1 = id
    · simp [hid]
    · simp [hid]
  refine ⟨by rw [hids]; exact h.distinct, ?_, ?_, ?_, h.left⟩
  · intro entry hentry
    rcases server.mem_setConnection hentry with rfl | hentry
    · exact h.below (id, connection) (server.mem_of_connection? htask)
    · exact h.below entry hentry
  · intro entry hentry
    rcases List.mem_append.mp hentry with hmem | hmem
    · rcases server.mem_setConnection hmem with rfl | hmem
      · exact hserved
      · exact h.served entry (List.mem_append_left _ hmem)
    · exact h.served entry (List.mem_append_right _ hmem)
  · intro hvalue
    obtain ⟨entry, hentry, hshutdown⟩ := h.requested hvalue
    rcases List.mem_append.mp hentry with hmem | hmem
    · by_cases hid : entry.1 = id
      · rw [h.eq_of_id htask hmem hid] at hshutdown
        refine ⟨(id, next), List.mem_append_left _ ?_, hasked hshutdown⟩
        exact List.mem_map.mpr ⟨entry, hmem, by rw [if_pos hid]⟩
      · refine ⟨entry, List.mem_append_left _ ?_, hshutdown⟩
        exact List.mem_map.mpr ⟨entry, hmem, by rw [if_neg hid]⟩
    · exact ⟨entry, List.mem_append_right _ hmem, hshutdown⟩

/-- A new task is served, as it has read nothing. -/
theorem Serving.startTask (h : Serving libraries health workerTask server) (hloop : server.loop = .selecting) :
    Serving libraries health workerTask server.startTask where
  distinct := by
    rw [Server.startTask, List.map_append, List.nodup_append]
    refine ⟨h.distinct, List.nodup_singleton _, ?_⟩
    intro first hfirst second hsecond heq
    obtain ⟨entry, hentry, rfl⟩ := List.mem_map.mp hfirst
    rw [List.mem_singleton.mp hsecond] at heq
    exact absurd (h.below entry hentry) (by rw [heq]; exact Nat.lt_irrefl _)
  below entry hentry := by
    rcases List.mem_append.mp hentry with hmem | hmem
    · exact (h.below entry hmem).trans (Nat.lt_succ_self _)
    · rw [List.mem_singleton.mp hmem]
      exact Nat.lt_succ_self _
  served entry hentry := by
    rcases List.mem_append.mp hentry with hmem | hmem
    · rcases List.mem_append.mp hmem with hmem | hmem
      · exact h.served entry (List.mem_append_left _ hmem)
      · rw [List.mem_singleton.mp hmem]
        exact served_accepted
    · exact h.served entry (List.mem_append_right _ hmem)
  requested hvalue := by
    obtain ⟨entry, hentry, hasked⟩ := h.requested hvalue
    refine ⟨entry, ?_, hasked⟩
    rcases List.mem_append.mp hentry with hmem | hmem
    · exact List.mem_append_left _ (List.mem_append_left _ hmem)
    · exact List.mem_append_right _ hmem
  left hselecting := absurd hloop hselecting

/-- **Every step of the provider keeps the invariant.** -/
theorem Serving.step {parallelism : ℕ} {next : Server} {event : ServerEvent}
    (h : Serving libraries health workerTask server) (hallowed : HandledBy libraries health workerTask server event)
    (hstep : server.step parallelism event = some next) : Serving libraries health workerTask next := by
  obtain ⟨hrunning, hstep⟩ := step_cases hstep
  have hvalue : server.loop ≠ .selecting → server.shutdown.value = true := by
    intro hloop
    rcases h.left hloop with hvalue | ⟨message, hreturned⟩
    · exact hvalue
    · exact absurd hreturned (hrunning _)
  cases hstep with
  | @connection id change connection changed htask hchange =>
      have hmem := List.mem_append_left server.joined (server.mem_of_connection? htask)
      refine h.setConnection htask ?_ fun hasked => hasked.step hchange
      refine (h.served _ hmem).step ?_ hchange
      intro result hevent request hrequest
      rw [hevent] at hallowed
      exact (hallowed request (by rw [htask]; exact hrequest)).1
  | send value =>
      obtain ⟨rfl, entry, hentry, hshutdown⟩ := hallowed
      have hmem := List.mem_append_left server.joined hentry
      have hasked := (h.served entry hmem).askedShutdown hshutdown
      exact ⟨h.distinct, h.below, h.served, fun _ => ⟨entry, hmem, hasked⟩, fun _ => Or.inl rfl⟩
  | close => exact hallowed.elim
  | observe hloop =>
      refine Serving.loopTop (h.withLoop rfl rfl rfl rfl ?_)
      exact fun hleft => absurd hloop hleft
  | authorityClosed hchanged hclosed => exact h.fail _
  | accept hloop hroom => exact (h.startTask hloop).loopTop
  | acceptError error => exact h.fail _
  | join hloop htask hcompletion => exact (h.take htask hvalue).loopTop
  | drainJoin hloop htask hcompletion =>
      have hdraining := hvalue (by rw [hloop]; exact LoopPhase.noConfusion)
      exact (h.take htask hvalue).drain hdraining
  | joinError htask hcompletion => exact (h.take htask hvalue).fail _

theorem serving_run {parallelism : ℕ} {events : List ServerEvent}
    (h : Run parallelism (HandledBy libraries health workerTask) events server) :
    Serving libraries health workerTask server := by
  induction h with
  | start => exact serving_start
  | step _ hallowed hstep ih => exact ih.step hallowed hstep

end Invariant

/-- The response to a frame that was decoded. -/
theorem workerResult_frame {Payload : Type} (libraries : RuntimeLibraries Payload) (health : Json)
    (task : ℕ) {request : HttpJsonRequest} {frame : ProviderRuntimeRequestFrame Payload} {body : List UInt8}
    (hmethod : request.method = "POST") (hpath : request.path = "/v1/provider-runtime")
    (hdecode : libraries.decodeFrame request.body = .ok frame)
    (hbody : handleRequest libraries frame = .ok body) :
    workerResult libraries health task request = .ok ⟨200, body⟩ := by
  have hresponse : handleHttpRequest libraries health request = .ok ⟨200, body⟩ := by
    rw [handleHttpRequest, if_neg (by rw [hmethod]; simp), if_pos ⟨hmethod, hpath⟩, hdecode]
    show (handleRequest libraries frame).map _ = _
    rw [hbody]
    rfl
  rw [workerResult, hresponse]

/-- The frame that answers a request frame repeats its request id. -/
theorem requestId_of_answerFrame {Payload : Type} {libraries : RuntimeLibraries Payload}
    {frame : ProviderRuntimeRequestFrame Payload} {answer : ProviderRuntimeResponseFrame}
    (h : answerFrame libraries frame = .ok answer) : answer.requestId = frame.requestId := by
  unfold answerFrame at h
  split at h
  · rw [← Except.ok.inj h]
    rfl
  · rw [← Except.ok.inj h]
    rfl
  · cases h

/-- What a connection that was answered has been written: the answer to the request that it
read.  Where the request has a frame that is answered, the client reads the frame of the
answer, with its own request id. -/
def AnsweredAlone {Payload : Type} (libraries : RuntimeLibraries Payload) (health : Json)
    (task : ℕ) (connection : Connection) : Prop :=
  ∀ request written, connection.phase = .answered request written →
    readRequest connection.chunks = .ok request ∧
      written = responseBytes (providerAnswer libraries health task request) ∧
      ∀ frame answer, request.method = "POST" → request.path = "/v1/provider-runtime" →
        libraries.decodeFrame request.body = .ok frame →
        answerFrame libraries frame = .ok answer →
          answer.requestId = frame.requestId ∧
            ∃ body, written = responseBytes ⟨200, body⟩ ∧ decodeResponse body = some answer

instance {Payload : Type} (libraries : RuntimeLibraries Payload) (health : Json)
    (workerTask : ℕ → ℕ) (server : Server) (event : ServerEvent) :
    Decidable (HandledBy libraries health workerTask server event) :=
  match event with
  | .connection _ (.handled _) => inferInstanceAs (Decidable (∀ request ∈ _, _ ∧ (_ → _)))
  | .connection _ (.handlerPanicked _) => inferInstanceAs (Decidable False)
  | .send _ => inferInstanceAs (Decidable (_ ∧ ∃ entry ∈ _, _))
  | .close => inferInstanceAs (Decidable False)
  | .connection _ (.read _) | .connection _ .readEnd | .connection _ (.readError _)
  | .connection _ .written | .connection _ (.writeError _ _) | .observeShutdown | .accept
  | .acceptError _ | .join _ => inferInstanceAs (Decidable True)

/-- A frame whose operation is not admitted, on the wire. -/
def unknownOperation : Json :=
  .object
    [("schemaId", .string "agent.semantic-protocols.provider-runtime-request-frame"),
      ("schemaVersion", .string "1"), ("requestId", .string "r1"), ("operation", .string "lint"),
      ("payload", .object [])]

/-- Libraries that decode that frame only, and know no source and no manifest. -/
def frameLibraries : RuntimeLibraries Unit where
  decodeFrame bytes :=
    if bytes = unknownOperation.encode then
      .ok ⟨"agent.semantic-protocols.provider-runtime-request-frame", "1", "r1", "lint", ()⟩
    else .error "expected value at line 1 column 1"
  isObject _ := true
  projection :=
    { decodeRequest := fun _ => .error "missing field schemaId"
      decodeBase64 := fun _ => .error "Invalid padding"
      parser :=
        { stripped := id
          parse := fun _ => .error "expected an item"
          stripped_suffix := fun source => List.suffix_refl source
          exact_spans := by intro content nodes h; cases h } }
  decodeSyntaxQuery _ := .error "missing field schemaId"
  regex _ := .error "regex parse error"
  blake3 _ := ""
  decodeResolution _ := .error "missing field schemaId"
  host := ⟨fun _ _ _ => none, fun _ => false, fun _ => none, id⟩
  encodeScope _ := .null
  describePanic task message :=
    "task " ++ toString task ++ " panicked with message " ++ toString message.quote

/-- A request with a body, on the wire. -/
def postBytes (path : String) (body : List UInt8) : List UInt8 :=
  utf8 ("POST " ++ path ++ " HTTP/1.1\r\nContent-Length: " ++ toString body.length ++
    "\r\n\r\n").toList ++ body

/-- A frame is answered, and then a client asks to shut down. -/
def answeredEvents : List ServerEvent :=
  [.accept, .connection 0 (.read (postBytes "/v1/provider-runtime" unknownOperation.encode)),
    .connection 0 (.handled (workerResult frameLibraries .null 1
      ⟨"POST", "/v1/provider-runtime", unknownOperation.encode⟩)),
    .connection 0 .written, .accept, .connection 1 (.read (postBytes "/shutdown" [])), .send true,
    .connection 1 (.handled (workerResult frameLibraries .null 2 ⟨"POST", "/shutdown", []⟩)),
    .observeShutdown, .join 0, .connection 1 .written, .join 1]

theorem exists_answeredRun : ∃ server,
    Run (connectionParallelism none) (HandledBy frameLibraries .null (· + 1)) answeredEvents server ∧
      server.loop = .returned (.ok ()) := by
  have hplay : (play (connectionParallelism none) (HandledBy frameLibraries .null (· + 1))
      answeredEvents).bind result? = some (.ok ()) := by decide +kernel
  obtain ⟨server, hserver, hresult⟩ := Option.bind_eq_some_iff.mp hplay
  exact ⟨server, run_of_play hserver, loop_of_result? hresult⟩

end Server

end AspRust.Provider
