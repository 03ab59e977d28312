import AspRust.Foundation.Json
import AspRust.Provider.HttpFraming

/-!
# The connection server

The server accepts connections up to a bound, runs a task for each, and takes the
completions of the tasks, until shutdown is requested; it then takes the remaining
completions and returns.  The clients, the handler, the shutdown authority and the
order in which anything happens are the environment: a run is a list of events, and
`step` says what an event does to the server when it can happen.

## What an error of one connection does

A task that fails ends the server: the loop requires every completion it takes to
be a success, before shutdown and while draining.  `Benign` is the condition on a
step under which this does not happen, and `server_survives` what then holds in
every state of every run.  The bound on the connections needs no condition.

## Reading

A connection reads its request chunk by chunk.  `resume` relates the phases of this
to the reader of a whole list of chunks, so that a request that is handled is the
one that `readRequest` finds.

## Runs

A run is a list of events that can happen one after the other (`Run`), and everything that
the source leaves to the runtime is an event: which branch of the loop is taken, what a
client sends and when, whether a read or a write fails, and which completion comes first.
Two facts about steps carry the rest.  A step of one connection leaves the others as they are
(`isolated`), and the phase of a connection agrees with what was read so far (`Faithful`).
-/

namespace AspRust.Provider

open AspRust.Foundation

/-! ## Reading a request in steps

The reader of `HttpFraming` gets all chunks at once; a connection gets one at a time.
`feed` is what one chunk does to the phase of the reading, and what is left of the
reader in that phase is `resume`. -/

/-- How far the reading of a request is.  In the headers there is room for a chunk,
and a body is not complete. -/
inductive ReadPhase where
  | header (bytes : List UInt8) (hroom : bytes.length < maxRequestBytes)
  | body (bytes : List UInt8) (head : RequestHead) (headerEnd frameEnd : ℕ)
      (hopen : bytes.length < frameEnd)

/-- What a chunk leads to. -/
inductive ReadStep where
  | more (phase : ReadPhase)
  | done (request : HttpJsonRequest)
  | failed (fault : Fault)

namespace ReadPhase

/-- Nothing has been read. -/
def start : ReadPhase := .header [] (by decide)

/-- The request of a complete frame. -/
def complete (bytes : List UInt8) (head : RequestHead) (headerEnd frameEnd : ℕ) : ReadStep :=
  match slice bytes headerEnd frameEnd with
  | .error fault => .failed fault
  | .ok content => .done { method := head.method, path := head.path, body := content }

/-- Go on with the body, unless the frame is complete. -/
def continueBody (bytes : List UInt8) (head : RequestHead) (headerEnd frameEnd : ℕ) : ReadStep :=
  if hopen : bytes.length < frameEnd then .more (.body bytes head headerEnd frameEnd hopen)
  else complete bytes head headerEnd frameEnd

/-- The headers have been read. -/
def afterHeader (bytes : List UInt8) (headerEnd : ℕ) : ReadStep :=
  match slice bytes 0 headerEnd with
  | .error fault => .failed fault
  | .ok headerBytes =>
      match parseRequestHead headerBytes with
      | .error fault => .failed fault
      | .ok head =>
          match frameEnd? headerEnd head.contentLength with
          | none => .failed frameLimitExceeded
          | some frameEnd =>
              if maxRequestBytes < bytes.length then .failed frameLimitExceeded
              else continueBody bytes head headerEnd frameEnd

/-- A read returned a chunk. -/
def feed : ReadPhase → List UInt8 → ReadStep
  | .header bytes _, chunk =>
      match findSlice headerTerminator (bytes ++ chunk) with
      | some position =>
          match usizeAdd position 4 with
          | .error fault => .failed fault
          | .ok headerEnd => afterHeader (bytes ++ chunk) headerEnd
      | none =>
          if hroom : (bytes ++ chunk).length < maxRequestBytes then
            .more (.header (bytes ++ chunk) hroom)
          else .failed frameLimitExceeded
  | .body bytes head headerEnd frameEnd _, chunk =>
      continueBody (bytes ++ chunk) head headerEnd frameEnd

/-- The stream ended. -/
def ended : ReadPhase → String
  | .header _ _ => "HTTP JSON request ended before its headers"
  | .body _ _ _ _ _ => "HTTP JSON request body ended early"

/-- A read failed. -/
def readError (error : String) : ReadPhase → String
  | .header _ _ => "read HTTP JSON request: " ++ error
  | .body _ _ _ _ _ => "read HTTP JSON request body: " ++ error

/-- The reader of a list of chunks, from a phase on. -/
def resume : ReadPhase → List (List UInt8) → Outcome HttpJsonRequest
  | .header bytes _, rest => do
      let (bytes, headerEnd, rest) ← readHeader rest bytes
      readAfterHeader bytes headerEnd rest
  | .body bytes head headerEnd frameEnd _, rest => do
      let bytes ← readBody frameEnd rest bytes
      let body ← slice bytes headerEnd frameEnd
      return { method := head.method, path := head.path, body }

end ReadPhase

/-- The reader of a list of chunks, after a chunk. -/
def ReadStep.resume : ReadStep → List (List UInt8) → Outcome HttpJsonRequest
  | .more phase, rest => phase.resume rest
  | .done request, _ => .ok request
  | .failed fault, _ => .error fault

namespace ReadPhase

theorem resume_start (chunks : List (List UInt8)) : start.resume chunks = readRequest chunks := rfl

/-- Reading on in the body, or not at all when the frame is complete. -/
theorem resume_continueBody (bytes : List UInt8) (head : RequestHead) (headerEnd frameEnd : ℕ)
    (rest : List (List UInt8)) :
    (continueBody bytes head headerEnd frameEnd).resume rest = (do
      let bytes ← readBody frameEnd rest bytes
      let body ← slice bytes headerEnd frameEnd
      return { method := head.method, path := head.path, body }) := by
  unfold continueBody
  split
  · rfl
  · next hfull =>
      have hread : readBody frameEnd rest bytes = .ok bytes := by
        cases rest <;> rw [readBody, if_pos (by omega)]
      rw [hread, complete]
      change ReadStep.resume _ rest = (slice bytes headerEnd frameEnd).bind _
      cases slice bytes headerEnd frameEnd <;> rfl

theorem resume_afterHeader (bytes : List UInt8) (headerEnd : ℕ) (rest : List (List UInt8)) :
    (afterHeader bytes headerEnd).resume rest = readAfterHeader bytes headerEnd rest := by
  unfold afterHeader readAfterHeader
  cases slice bytes 0 headerEnd with
  | error fault => rfl
  | ok headerBytes =>
      change _ = (parseRequestHead headerBytes).bind _
      dsimp only
      cases parseRequestHead headerBytes with
      | error fault => rfl
      | ok head =>
          dsimp only [Except.bind]
          cases frameEnd? headerEnd head.contentLength with
          | none => rfl
          | some frameEnd =>
              dsimp only
              split
              · rfl
              · exact resume_continueBody bytes head headerEnd frameEnd rest

/-- **One chunk.**  Reading a chunk and then the rest is reading both. -/
theorem resume_feed (phase : ReadPhase) {chunk : List UInt8} (hchunk : chunk ≠ [])
    (rest : List (List UInt8)) : phase.resume (chunk :: rest) = (phase.feed chunk).resume rest := by
  cases phase with
  | header bytes hroom =>
      rw [resume, readHeader, if_neg (by omega), if_neg hchunk, feed]
      cases findSlice headerTerminator (bytes ++ chunk) with
      | some position =>
          dsimp only
          cases usizeAdd position 4 with
          | error fault => rfl
          | ok headerEnd => exact (resume_afterHeader (bytes ++ chunk) headerEnd rest).symm
      | none =>
          dsimp only
          split
          · rfl
          · next hfull =>
              have hread : readHeader rest (bytes ++ chunk) = .error frameLimitExceeded := by
                cases rest <;> rw [readHeader, if_pos (by omega)]
              rw [hread]
              rfl
  | body bytes head headerEnd frameEnd hopen =>
      rw [resume, readBody, if_neg (by omega), if_neg hchunk, feed, resume_continueBody]

end ReadPhase

/-! ## Responses -/

/-- A response. -/
structure HttpJsonResponse where
  status : ℕ
  body : List UInt8
deriving DecidableEq

/-- What a client gets for the result of the handler: an error is a response of its
own. -/
def responseOf : Except String HttpJsonResponse → HttpJsonResponse
  | .ok response => response
  | .error error =>
      { status := 500, body := Json.encode (.object [("error", .string error)]) }

/-- The reason phrase of a status. -/
def reasonPhrase (status : ℕ) : String :=
  if status = 200 then "OK"
  else if status = 400 then "Bad Request"
  else if status = 404 then "Not Found"
  else "Internal Server Error"

/-- The bytes that are written for a response. -/
def responseBytes (response : HttpJsonResponse) : List UInt8 :=
  utf8 ("HTTP/1.1 " ++ toString response.status ++ " " ++ reasonPhrase response.status ++
    "\r\nContent-Type: application/json\r\nContent-Length: " ++ toString response.body.length ++
    "\r\nConnection: close\r\n\r\n").toList ++ response.body

/-- The parts of writing a response, each of which can fail. -/
inductive WriteStage where
  | header
  | body
  | shutdown
deriving DecidableEq, Repr

/-- The error of a failed part. -/
def WriteStage.describe (error : String) : WriteStage → String
  | .header => "write HTTP JSON response header: " ++ error
  | .body => "write HTTP JSON response body: " ++ error
  | .shutdown => "shutdown HTTP JSON connection: " ++ error

/-! ## Connections

The task of one connection: it reads, handles and answers, and each of these can end in
an error.  An event that is not possible in a phase is no step. -/

/-- How far the task of a connection is.  An answered connection has been written
these bytes. -/
inductive ConnectionPhase where
  | reading (phase : ReadPhase)
  | handling (request : HttpJsonRequest)
  | writing (request : HttpJsonRequest) (response : HttpJsonResponse)
  | answered (request : HttpJsonRequest) (written : List UInt8)
  | failed (fault : Fault)

/-- A connection: the chunks it has read, and how far its task is. -/
structure Connection where
  chunks : List (List UInt8)
  phase : ConnectionPhase

/-- What can happen to a connection. -/
inductive ConnectionEvent where
  | read (chunk : List UInt8)
  | readEnd
  | readError (error : String)
  | handled (result : Except String HttpJsonResponse)
  | handlerPanicked (message : String)
  | written
  | writeError (stage : WriteStage) (error : String)

/-- A connection that was accepted. -/
def Connection.accepted : Connection := ⟨[], .reading .start⟩

/-- The phase a chunk leads to. -/
def ReadStep.phase : ReadStep → ConnectionPhase
  | .more phase => .reading phase
  | .done request => .handling request
  | .failed fault => .failed fault

/-- What an event does to a connection, when it can happen: a task reads, then
awaits the handler, then writes. -/
def Connection.step (connection : Connection) (event : ConnectionEvent) : Option Connection :=
  match connection.phase, event with
  | .reading phase, .read chunk =>
      if chunk ≠ [] ∧ chunk.length ≤ readBufferBytes then
        some ⟨connection.chunks ++ [chunk], (phase.feed chunk).phase⟩
      else none
  | .reading phase, .readEnd => some { connection with phase := .failed (.returned phase.ended) }
  | .reading phase, .readError error =>
      some { connection with phase := .failed (.returned (phase.readError error)) }
  | .handling request, .handled result =>
      some { connection with phase := .writing request (responseOf result) }
  | .handling _, .handlerPanicked message =>
      some { connection with phase := .failed (.panicked message) }
  | .writing request response, .written =>
      some { connection with phase := .answered request (responseBytes response) }
  | .writing _ _, .writeError stage error =>
      some { connection with phase := .failed (.returned (stage.describe error)) }
  | _, _ => none

/-- The completion of a task, when it is over. -/
def Connection.completion? (connection : Connection) : Option (Except String Unit) :=
  match connection.phase with
  | .answered _ _ => some (.ok ())
  | .failed (.returned message) => some (.error message)
  | .failed (.panicked message) =>
      some (.error ("HTTP JSON connection task failed: " ++ message))
  | .failed .exhausted => some (.error "HTTP JSON connection task failed: ")
  | _ => none

/-- The task of a connection failed: the request is malformed, the client is gone, or
the handler panicked. -/
def Connection.hasFailed (connection : Connection) : Bool :=
  match connection.phase with
  | .failed _ => true
  | _ => false

/-! ## The server

The loop with its channel for the shutdown and its set of tasks.  The completion of a
task is taken by the loop, and with an error in it the loop ends. -/

/-- The bounds of the number of connections. -/
def minConnectionParallelism : ℕ := 4

def maxConnectionParallelism : ℕ := 16

/-- The number of connections at once, from the parallelism that is available. -/
def connectionParallelism (available : Option ℕ) : ℕ :=
  min (max (available.getD minConnectionParallelism) minConnectionParallelism)
    maxConnectionParallelism

/-- The channel of the shutdown authority as its receiver sees it. -/
structure ShutdownChannel where
  value : Bool
  changed : Bool
  closed : Bool
deriving DecidableEq, Repr

/-- Where the loop of the server is. -/
inductive LoopPhase where
  | selecting
  | draining
  | returned (result : Except String Unit)

/-- The server: its loop, the channel, and the connections whose tasks are in the
set, and those whose completion was taken from it. -/
structure Server where
  loop : LoopPhase
  shutdown : ShutdownChannel
  connections : List (ℕ × Connection)
  joined : List (ℕ × Connection)
  nextId : ℕ

/-- What can happen to a server. -/
inductive ServerEvent where
  | connection (id : ℕ) (event : ConnectionEvent)
  | send (value : Bool)
  | close
  | observeShutdown
  | accept
  | acceptError (error : String)
  | join (id : ℕ)

namespace Server

/-- The drain goes on while there are tasks. -/
def drain (server : Server) : Server :=
  if server.connections = [] then { server with loop := .returned (.ok ()) }
  else { server with loop := .draining }

/-- The top of the loop: shutdown is looked at before anything is awaited. -/
def loopTop (server : Server) : Server :=
  if server.shutdown.value then server.drain else { server with loop := .selecting }

/-- A server that has been started. -/
def start : Server :=
  loopTop
    { loop := .selecting
      shutdown := ⟨false, false, false⟩
      connections := []
      joined := []
      nextId := 0 }

/-- The task of a connection. -/
def connection? (server : Server) (id : ℕ) : Option Connection :=
  (server.connections.find? fun entry => entry.1 = id).map Prod.snd

/-- Put the state of a task. -/
def setConnection (server : Server) (id : ℕ) (connection : Connection) : Server :=
  { server with
    connections := server.connections.map fun entry =>
      if entry.1 = id then (id, connection) else entry }

/-- Take a task that is over from the set. -/
def take (server : Server) (id : ℕ) (connection : Connection) : Server :=
  { server with
    connections := server.connections.filter fun entry => entry.1 ≠ id
    joined := server.joined ++ [(id, connection)] }

/-- Put the state of the channel. -/
def setShutdown (server : Server) (shutdown : ShutdownChannel) : Server :=
  { server with shutdown := shutdown }

/-- Start the task of an accepted connection. -/
def startTask (server : Server) : Server :=
  { server with
    connections := server.connections ++ [(server.nextId, .accepted)]
    nextId := server.nextId + 1 }

/-- End the server; the remaining tasks are aborted. -/
def fail (server : Server) (message : String) : Server :=
  { server with loop := .returned (.error message) }

/-- What an event does to a server, when it can happen. -/
def step (parallelism : ℕ) (server : Server) (event : ServerEvent) : Option Server :=
  match server.loop, event with
  | .returned _, _ => none
  | _, .connection id event => do
      let connection ← server.connection? id
      let connection ← connection.step event
      return server.setConnection id connection
  | _, .send value =>
      if server.shutdown.closed then none
      else some (server.setShutdown { server.shutdown with value, changed := true })
  | _, .close => some (server.setShutdown { server.shutdown with closed := true })
  | .selecting, .observeShutdown =>
      if server.shutdown.changed then
        some (server.setShutdown { server.shutdown with changed := false }).loopTop
      else if server.shutdown.closed then
        some (server.fail "HTTP JSON shutdown authority closed")
      else none
  | .selecting, .accept =>
      if server.connections.length < parallelism then
        some server.startTask.loopTop
      else none
  | .selecting, .acceptError error =>
      if server.connections.length < parallelism then
        some (server.fail ("accept HTTP JSON connection: " ++ error))
      else none
  | .selecting, .join id => do
      let connection ← server.connection? id
      match ← connection.completion? with
      | .ok () => return (server.take id connection).loopTop
      | .error message => return (server.take id connection).fail message
  | .draining, .join id => do
      let connection ← server.connection? id
      match ← connection.completion? with
      | .ok () => return (server.take id connection).drain
      | .error message => return (server.take id connection).fail message
  | .draining, _ => none

/-! ## Steps and runs

`Step` lists what an event can do, so that each invariant is a case analysis on it and
the definition of `step` is not unfolded again. -/

/-- The steps of a server that has not returned, by what they do. -/
inductive Step (parallelism : ℕ) (server : Server) : ServerEvent → Server → Prop
  | connection {id event connection next} (htask : server.connection? id = some connection)
      (hstep : connection.step event = some next) :
      Step parallelism server (.connection id event) (server.setConnection id next)
  | send (value : Bool) :
      Step parallelism server (.send value)
        (server.setShutdown { server.shutdown with value, changed := true })
  | close :
      Step parallelism server .close (server.setShutdown { server.shutdown with closed := true })
  | observe (hloop : server.loop = .selecting) :
      Step parallelism server .observeShutdown
        (server.setShutdown { server.shutdown with changed := false }).loopTop
  | authorityClosed (hchanged : server.shutdown.changed = false)
      (hclosed : server.shutdown.closed = true) :
      Step parallelism server .observeShutdown (server.fail "HTTP JSON shutdown authority closed")
  | accept (hloop : server.loop = .selecting) (hroom : server.connections.length < parallelism) :
      Step parallelism server .accept server.startTask.loopTop
  | acceptError (error : String) :
      Step parallelism server (.acceptError error)
        (server.fail ("accept HTTP JSON connection: " ++ error))
  | join {id connection} (hloop : server.loop = .selecting)
      (htask : server.connection? id = some connection)
      (hcompletion : connection.completion? = some (.ok ())) :
      Step parallelism server (.join id) (server.take id connection).loopTop
  | drainJoin {id connection} (hloop : server.loop = .draining)
      (htask : server.connection? id = some connection)
      (hcompletion : connection.completion? = some (.ok ())) :
      Step parallelism server (.join id) (server.take id connection).drain
  | joinError {id connection message} (htask : server.connection? id = some connection)
      (hcompletion : connection.completion? = some (.error message)) :
      Step parallelism server (.join id) ((server.take id connection).fail message)

/-- **What a step can do.** -/
theorem step_cases {parallelism : ℕ} {server next : Server} {event : ServerEvent}
    (h : server.step parallelism event = some next) :
    (∀ result, server.loop ≠ .returned result) ∧ Step parallelism server event next := by
  have hrunning : ∀ result, server.loop ≠ .returned result := by
    intro result hloop
    simp [step, hloop] at h
  refine ⟨hrunning, ?_⟩
  cases event with
  | connection id event =>
      have hstep : (server.connection? id).bind (fun connection =>
          (connection.step event).bind fun connection =>
            some (server.setConnection id connection)) = some next := by
        cases hloop : server.loop with
        | returned result => exact absurd hloop (hrunning result)
        | selecting | draining => simpa [step, hloop] using h
      obtain ⟨connection, htask, hstep⟩ := Option.bind_eq_some_iff.mp hstep
      obtain ⟨changed, hchanged, hstep⟩ := Option.bind_eq_some_iff.mp hstep
      cases hstep
      exact .connection htask hchanged
  | send value =>
      cases hloop : server.loop with
      | returned result => exact absurd hloop (hrunning result)
      | selecting | draining =>
          simp only [step, hloop] at h
          split at h
          · cases h
          · cases h
            exact .send value
  | close =>
      cases hloop : server.loop with
      | returned result => exact absurd hloop (hrunning result)
      | selecting | draining =>
          simp only [step, hloop] at h
          cases h
          exact .close
  | observeShutdown =>
      cases hloop : server.loop with
      | returned result => exact absurd hloop (hrunning result)
      | draining => simp [step, hloop] at h
      | selecting =>
          simp only [step, hloop] at h
          split at h
          · cases h
            exact .observe hloop
          · next hchanged =>
              split at h
              · next hclosed =>
                  cases h
                  exact .authorityClosed (by simpa using hchanged) hclosed
              · cases h
  | accept =>
      cases hloop : server.loop with
      | returned result => exact absurd hloop (hrunning result)
      | draining => simp [step, hloop] at h
      | selecting =>
          simp only [step, hloop] at h
          split at h
          · next hroom =>
              cases h
              exact .accept hloop hroom
          · cases h
  | acceptError error =>
      cases hloop : server.loop with
      | returned result => exact absurd hloop (hrunning result)
      | draining => simp [step, hloop] at h
      | selecting =>
          simp only [step, hloop] at h
          split at h
          · cases h
            exact .acceptError error
          · cases h
  | join id =>
      cases hloop : server.loop with
      | returned result => exact absurd hloop (hrunning result)
      | selecting =>
          simp only [step, hloop] at h
          obtain ⟨connection, htask, h⟩ := Option.bind_eq_some_iff.mp h
          obtain ⟨completion, hcompletion, h⟩ := Option.bind_eq_some_iff.mp h
          cases completion with
          | ok =>
              cases h
              exact .join hloop htask hcompletion
          | error message =>
              cases h
              exact .joinError htask hcompletion
      | draining =>
          simp only [step, hloop] at h
          obtain ⟨connection, htask, h⟩ := Option.bind_eq_some_iff.mp h
          obtain ⟨completion, hcompletion, h⟩ := Option.bind_eq_some_iff.mp h
          cases completion with
          | ok =>
              cases h
              exact .drainJoin hloop htask hcompletion
          | error message =>
              cases h
              exact .joinError htask hcompletion

/-- A run: the events in order, each allowed in the state before it. -/
inductive Run (parallelism : ℕ) (allowed : Server → ServerEvent → Prop) :
    List ServerEvent → Server → Prop
  | start : Run parallelism allowed [] start
  | step {events server event next} (hrun : Run parallelism allowed events server)
      (hallowed : allowed server event) (hstep : server.step parallelism event = some next) :
      Run parallelism allowed (events ++ [event]) next

/-- The condition under which a step is survived: a completion that is taken is a
success, accepting does not fail, and the shutdown authority is there when it is
awaited. -/
def Benign (server : Server) : ServerEvent → Prop
  | .observeShutdown => server.shutdown.changed = true ∨ server.shutdown.closed = false
  | .acceptError _ => False
  | .join id => (server.connection? id).any Connection.hasFailed = false
  | _ => True

instance (server : Server) (event : ServerEvent) : Decidable (Benign server event) :=
  match event with
  | .observeShutdown => inferInstanceAs (Decidable (_ ∨ _))
  | .acceptError _ => inferInstanceAs (Decidable False)
  | .join _ => inferInstanceAs (Decidable (_ = _))
  | .connection _ _ | .send _ | .close | .accept => inferInstanceAs (Decidable True)

/-! ## Fields of the updated states -/

section Fields

variable (server : Server)

@[simp] theorem drain_connections : server.drain.connections = server.connections := by
  unfold drain
  split <;> rfl

@[simp] theorem drain_joined : server.drain.joined = server.joined := by
  unfold drain
  split <;> rfl

@[simp] theorem drain_shutdown : server.drain.shutdown = server.shutdown := by
  unfold drain
  split <;> rfl

@[simp] theorem drain_nextId : server.drain.nextId = server.nextId := by
  unfold drain
  split <;> rfl

@[simp] theorem loopTop_connections : server.loopTop.connections = server.connections := by
  unfold loopTop
  split <;> simp

@[simp] theorem loopTop_joined : server.loopTop.joined = server.joined := by
  unfold loopTop
  split <;> simp

@[simp] theorem loopTop_shutdown : server.loopTop.shutdown = server.shutdown := by
  unfold loopTop
  split <;> simp

@[simp] theorem loopTop_nextId : server.loopTop.nextId = server.nextId := by
  unfold loopTop
  split <;> simp

/-- A drain returns when no task is left. -/
theorem connections_of_drain_returned {result : Except String Unit}
    (h : server.drain.loop = .returned result) : server.connections = [] := by
  unfold drain at h
  split at h
  · assumption
  · cases h

theorem connections_of_loopTop_returned {result : Except String Unit}
    (h : server.loopTop.loop = .returned result) : server.connections = [] := by
  unfold loopTop at h
  split at h
  · exact server.connections_of_drain_returned h
  · cases h

/-- The loop is left for shutdown only. -/
theorem value_of_loopTop (h : server.loopTop.loop ≠ .selecting) :
    server.shutdown.value = true := by
  unfold loopTop at h
  split at h
  · assumption
  · exact absurd rfl h

theorem mem_of_connection? {id : ℕ} {connection : Connection}
    (h : server.connection? id = some connection) : (id, connection) ∈ server.connections := by
  obtain ⟨entry, hentry, rfl⟩ := Option.map_eq_some_iff.mp h
  have hid : entry.1 = id := by simpa using List.find?_some hentry
  exact hid ▸ List.mem_of_find?_eq_some hentry

/-- A task of the changed set is the one that was put, or it was there before. -/
theorem mem_setConnection {id : ℕ} {connection : Connection} {entry : ℕ × Connection}
    (h : entry ∈ (server.setConnection id connection).connections) :
    entry = (id, connection) ∨ entry ∈ server.connections := by
  obtain ⟨before, hbefore, rfl⟩ := List.mem_map.mp h
  split
  · exact .inl rfl
  · exact .inr hbefore

end Fields

/-! ## Isolation

The connections are kept under their ids, and an event of one of them is written back
under its own. -/

/-- What happens to one connection changes no other, and nothing that the loop
looks at. -/
def Isolated (parallelism : ℕ) (server : Server) : Prop :=
  ∀ id event next, server.step parallelism (.connection id event) = some next →
    next.loop = server.loop ∧ next.shutdown = server.shutdown ∧ next.joined = server.joined ∧
      ∀ other, other ≠ id → next.connection? other = server.connection? other

theorem connection?_setConnection (server : Server) {id other : ℕ} (connection : Connection)
    (hne : other ≠ id) :
    (server.setConnection id connection).connection? other = server.connection? other := by
  unfold connection? setConnection
  dsimp only
  induction server.connections with
  | nil => rfl
  | cons entry rest ih =>
      rw [List.map_cons, List.find?_cons, List.find?_cons]
      by_cases hentry : entry.1 = id
      · have hother : entry.1 ≠ other := fun h => hne (h.symm.trans hentry)
        simpa [hentry, hne.symm, hother] using ih
      · rw [if_neg hentry]
        by_cases hother : entry.1 = other
        · simp [hother]
        · simpa [hother] using ih

theorem isolated (parallelism : ℕ) (server : Server) : Isolated parallelism server := by
  intro id event next h
  obtain ⟨-, hstep⟩ := step_cases h
  cases hstep with
  | connection htask hchange =>
      exact ⟨rfl, rfl, rfl, fun other hne => server.connection?_setConnection _ hne⟩

/-! ## The bound

Only accepting adds a connection, and it happens only below the bound. -/

/-- No step takes the number of tasks beyond the bound. -/
theorem length_connections_step {parallelism : ℕ} {server next : Server} {event : ServerEvent}
    (hbound : server.connections.length ≤ parallelism)
    (h : Step parallelism server event next) : next.connections.length ≤ parallelism := by
  have htake : ∀ id connection, (server.take id connection).connections.length ≤ parallelism :=
    fun id connection => (List.length_filter_le _ _).trans hbound
  cases h with
  | connection htask hchange => exact (List.length_map _).trans_le hbound
  | send value => exact hbound
  | close => exact hbound
  | observe hloop =>
      rw [loopTop_connections]
      exact hbound
  | authorityClosed hchanged hclosed => exact hbound
  | accept hloop hroom =>
      rw [loopTop_connections]
      exact List.length_append.trans_le hroom
  | acceptError error => exact hbound
  | join hloop htask hcompletion =>
      rw [loopTop_connections]
      exact htake _ _
  | drainJoin hloop htask hcompletion =>
      rw [drain_connections]
      exact htake _ _
  | @joinError id connection message htask hcompletion => exact htake id connection

theorem length_connections_run {parallelism : ℕ} {allowed : Server → ServerEvent → Prop}
    {events : List ServerEvent} {server : Server} (h : Run parallelism allowed events server) :
    server.connections.length ≤ parallelism := by
  induction h with
  | start => exact Nat.zero_le _
  | step _ _ hstep ih => exact length_connections_step ih (step_cases hstep).2

/-! ## Answers

The invariant says of every connection that its phase agrees with the chunks read so
far, and of every completion that was taken that it was an answer.  Benign steps keep
it; so when the loop has returned, every admitted connection with a well-formed request
was answered. -/

/-- What is known of a task: the reading agrees with the reader of whole lists of
chunks, and what is written is the response that the handler gave. -/
def Faithful (events : List ServerEvent) (entry : ℕ × Connection) : Prop :=
  match entry.2.phase with
  | .reading phase => ∀ rest, readRequest (entry.2.chunks ++ rest) = phase.resume rest
  | .handling request => ∀ rest, readRequest (entry.2.chunks ++ rest) = .ok request
  | .writing request response =>
      (∀ rest, readRequest (entry.2.chunks ++ rest) = .ok request) ∧
        ∃ result, .connection entry.1 (.handled result) ∈ events ∧ response = responseOf result
  | .answered request written =>
      (∀ rest, readRequest (entry.2.chunks ++ rest) = .ok request) ∧
        ∃ result, .connection entry.1 (.handled result) ∈ events ∧
          written = responseBytes (responseOf result)
  | .failed _ => True

theorem Faithful.mono {events : List ServerEvent} {entry : ℕ × Connection} (event : ServerEvent)
    (h : Faithful events entry) : Faithful (events ++ [event]) entry := by
  unfold Faithful at h ⊢
  split
  · next hphase => simpa only [hphase] using h
  · next hphase => simpa only [hphase] using h
  · next hphase =>
      simp only [hphase] at h
      exact ⟨h.1, h.2.imp fun result hresult =>
        ⟨List.mem_append_left _ hresult.1, hresult.2⟩⟩
  · next hphase =>
      simp only [hphase] at h
      exact ⟨h.1, h.2.imp fun result hresult =>
        ⟨List.mem_append_left _ hresult.1, hresult.2⟩⟩
  · trivial

/-- A step of a task keeps what is known of it. -/
theorem Faithful.step {events : List ServerEvent} {id : ℕ} {connection next : Connection}
    {event : ConnectionEvent} (h : Faithful events (id, connection))
    (hstep : connection.step event = some next) :
    Faithful (events ++ [.connection id event]) (id, next) := by
  unfold Faithful at h
  unfold Connection.step at hstep
  split at hstep
  · next phase chunk hphase =>
      simp only [hphase] at h
      split at hstep
      · next hchunk =>
          cases hstep
          have hfeed : ∀ rest, readRequest ((connection.chunks ++ [chunk]) ++ rest) =
              (phase.feed chunk).resume rest := by
            intro rest
            rw [List.append_assoc, List.singleton_append, h, phase.resume_feed hchunk.1]
          unfold Faithful
          cases hnext : phase.feed chunk with
          | more phase => simpa [hnext, ReadStep.phase, ReadStep.resume] using hfeed
          | done request => simpa [hnext, ReadStep.phase, ReadStep.resume] using hfeed
          | failed fault => trivial
      · cases hstep
  · cases hstep
    trivial
  · cases hstep
    trivial
  · next request result hphase =>
      simp only [hphase] at h
      cases hstep
      exact ⟨h, result, by simp, rfl⟩
  · cases hstep
    trivial
  · next request response hphase =>
      simp only [hphase] at h
      cases hstep
      obtain ⟨hreads, result, hresult, rfl⟩ := h
      exact ⟨hreads, result, List.mem_append_left _ hresult, rfl⟩
  · cases hstep
    trivial
  · cases hstep

/-- The invariant of a run of benign steps. -/
structure Sound (events : List ServerEvent) (server : Server) : Prop where
  requested : server.shutdown.value = true ∨ server.loop ≠ .selecting → .send true ∈ events
  returned : ∀ result, server.loop = .returned result → server.connections = []
  admitted : ∀ id < server.nextId, ∃ connection,
    (id, connection) ∈ server.connections ∨ (id, connection) ∈ server.joined
  tasks : ∀ entry ∈ server.connections, Faithful events entry
  joined : ∀ entry ∈ server.joined, Faithful events entry ∧
    ∃ request written, entry.2.phase = .answered request written

theorem sound_start : Sound [] start where
  requested h := by simp [start, loopTop] at h
  returned result h := by cases h
  admitted id h := absurd h (Nat.not_lt_zero id)
  tasks entry h := by cases h
  joined entry h := by cases h

/-- A completion that is a success is the one of an answered connection. -/
theorem answered_of_completion {connection : Connection}
    (h : connection.completion? = some (.ok ())) :
    ∃ request written, connection.phase = .answered request written := by
  unfold Connection.completion? at h
  split at h
  · next request written hphase => exact ⟨request, written, hphase⟩
  all_goals cases h

/-- A completion that is an error is the one of a failed connection. -/
theorem hasFailed_of_completion {connection : Connection} {message : String}
    (h : connection.completion? = some (.error message)) : connection.hasFailed = true := by
  unfold Connection.completion? at h
  unfold Connection.hasFailed
  split at h <;> simp_all

section Preservation

variable {events : List ServerEvent} {server : Server}

/-- The parts of the invariant about tasks, after a completion was taken. -/
theorem Sound.take {id : ℕ} {connection : Connection} (h : Sound events server)
    (event : ServerEvent) (htask : server.connection? id = some connection)
    (hcompletion : connection.completion? = some (.ok ())) :
    (∀ other < (server.take id connection).nextId, ∃ task,
      (other, task) ∈ (server.take id connection).connections ∨
        (other, task) ∈ (server.take id connection).joined) ∧
    (∀ entry ∈ (server.take id connection).connections, Faithful (events ++ [event]) entry) ∧
    ∀ entry ∈ (server.take id connection).joined, Faithful (events ++ [event]) entry ∧
      ∃ request written, entry.2.phase = .answered request written := by
  have hmem := server.mem_of_connection? htask
  refine ⟨fun other hother => ?_, fun entry hentry => ?_, fun entry hentry => ?_⟩
  · by_cases hsame : other = id
    · exact ⟨connection, .inr (by simp [Server.take, hsame])⟩
    · obtain ⟨task, htask | htask⟩ := h.admitted other hother
      · exact ⟨task, .inl (List.mem_filter.mpr ⟨htask, by simpa using hsame⟩)⟩
      · exact ⟨task, .inr (List.mem_append_left _ htask)⟩
  · exact (h.tasks entry (List.mem_filter.mp hentry).1).mono event
  · rcases List.mem_append.mp hentry with hentry | hentry
    · exact ⟨(h.joined entry hentry).1.mono event, (h.joined entry hentry).2⟩
    · obtain rfl := List.mem_singleton.mp hentry
      exact ⟨(h.tasks _ hmem).mono event, answered_of_completion hcompletion⟩

/-- **A benign step keeps the invariant.** -/
theorem Sound.step {parallelism : ℕ} {next : Server} {event : ServerEvent}
    (h : Sound events server) (hbenign : Benign server event)
    (hstep : server.step parallelism event = some next) : Sound (events ++ [event]) next := by
  obtain ⟨hrunning, hstep⟩ := step_cases hstep
  have htasks : ∀ entry ∈ server.connections, Faithful (events ++ [event]) entry :=
    fun entry hentry => (h.tasks entry hentry).mono event
  have hjoined : ∀ entry ∈ server.joined, Faithful (events ++ [event]) entry ∧
      ∃ request written, entry.2.phase = .answered request written :=
    fun entry hentry => ⟨(h.joined entry hentry).1.mono event, (h.joined entry hentry).2⟩
  have hrequested : server.shutdown.value = true ∨ server.loop ≠ .selecting →
      .send true ∈ events ++ [event] := fun hcase => List.mem_append_left _ (h.requested hcase)
  cases hstep with
  | @connection id change connection changed htask hchange =>
      refine ⟨hrequested, fun result hloop => absurd hloop (hrunning result), ?_, ?_, hjoined⟩
      · intro other hother
        obtain ⟨task, htask | htask⟩ := h.admitted other hother
        · by_cases hsame : other = id
          · exact ⟨changed, .inl (List.mem_map.mpr ⟨_, htask, by simp [hsame]⟩)⟩
          · exact ⟨task, .inl (List.mem_map.mpr ⟨_, htask, by simp [hsame]⟩)⟩
        · exact ⟨task, .inr htask⟩
      · intro entry hentry
        rcases server.mem_setConnection hentry with rfl | hentry
        · exact (h.tasks _ (server.mem_of_connection? htask)).step hchange
        · exact htasks entry hentry
  | send value =>
      refine ⟨?_, fun result hloop => absurd hloop (hrunning result), h.admitted, htasks, hjoined⟩
      rintro (hvalue | hloop)
      · obtain rfl : value = true := hvalue
        simp
      · exact hrequested (.inr hloop)
  | close =>
      exact ⟨hrequested, fun result hloop => absurd hloop (hrunning result), h.admitted, htasks,
        hjoined⟩
  | observe hloop =>
      refine ⟨?_, fun result hreturned => ?_, ?_, ?_, ?_⟩
      · rintro (hvalue | hleft)
        · exact hrequested (.inl (by simpa [setShutdown] using hvalue))
        · have hvalue := value_of_loopTop _ hleft
          exact hrequested (.inl hvalue)
      · rw [loopTop_connections]
        exact connections_of_loopTop_returned _ hreturned
      · simpa [setShutdown] using h.admitted
      · simpa [setShutdown] using htasks
      · simpa [setShutdown] using hjoined
  | authorityClosed hchanged hclosed =>
      rcases hbenign with hbenign | hbenign
      · simp [hchanged] at hbenign
      · simp [hclosed] at hbenign
  | accept hloop hroom =>
      refine ⟨?_, fun result hreturned => ?_, ?_, ?_, ?_⟩
      · rintro (hvalue | hleft)
        · exact hrequested (.inl (by simpa [startTask] using hvalue))
        · have hvalue := value_of_loopTop _ hleft
          exact hrequested (.inl hvalue)
      · rw [loopTop_connections]
        exact connections_of_loopTop_returned _ hreturned
      · intro id hid
        rw [loopTop_connections, loopTop_joined]
        rcases Nat.lt_succ_iff_lt_or_eq.mp (by simpa [startTask] using hid) with hid | rfl
        · obtain ⟨task, htask | htask⟩ := h.admitted id hid
          · exact ⟨task, .inl (List.mem_append_left _ htask)⟩
          · exact ⟨task, .inr htask⟩
        · exact ⟨.accepted, .inl (by simp [startTask])⟩
      · intro entry hentry
        rw [loopTop_connections] at hentry
        rcases List.mem_append.mp hentry with hentry | hentry
        · exact htasks entry hentry
        · obtain rfl := List.mem_singleton.mp hentry
          exact fun rest => (ReadPhase.resume_start rest).symm
      · simpa [startTask] using hjoined
  | acceptError error => exact hbenign.elim
  | join hloop htask hcompletion =>
      obtain ⟨hadmitted, htaken, hdone⟩ := h.take _ htask hcompletion
      refine ⟨?_, fun result hreturned => ?_, ?_, ?_, ?_⟩
      · rintro (hvalue | hleft)
        · exact hrequested (.inl (by simpa [Server.take] using hvalue))
        · have hvalue := value_of_loopTop _ hleft
          exact hrequested (.inl hvalue)
      · rw [loopTop_connections]
        exact connections_of_loopTop_returned _ hreturned
      · simpa using hadmitted
      · simpa using htaken
      · simpa using hdone
  | drainJoin hloop htask hcompletion =>
      obtain ⟨hadmitted, htaken, hdone⟩ := h.take _ htask hcompletion
      refine ⟨fun _ => hrequested (.inr (by simp [hloop])), fun result hreturned => ?_, ?_, ?_, ?_⟩
      · rw [drain_connections]
        exact connections_of_drain_returned _ hreturned
      · simpa using hadmitted
      · simpa using htaken
      · simpa using hdone
  | joinError htask hcompletion =>
      have hfailed := hasFailed_of_completion hcompletion
      simp [Benign, htask, hfailed] at hbenign

theorem sound_run {parallelism : ℕ} (h : Run parallelism Benign events server) :
    Sound events server := by
  induction h with
  | start => exact sound_start
  | step _ hbenign hstep ih => exact ih.step hbenign hstep

end Preservation

/-- Every admitted connection whose chunks carry a request has been written the
response that the handler gave to it. -/
def AnswersAdmitted (events : List ServerEvent) (server : Server) : Prop :=
  ∀ id < server.nextId, ∃ connection,
    (id, connection) ∈ server.connections ++ server.joined ∧
      ∀ request, readRequest connection.chunks = .ok request →
        ∃ result, .connection id (.handled result) ∈ events ∧
          connection.phase = .answered request (responseBytes (responseOf result))

/-- **Survival and drain.**  In every run at most the bound of connections are handled
at once, and what happens to a connection changes no other.  In every run of benign
steps a server that has returned was asked to shut down, and has answered every admitted
connection whose request is well formed.

A step is not benign where the loop takes the completion of a connection that failed,
where accepting fails, or where the authority of the shutdown goes away: each of these
leaves the loop by an error and drops the connections that are still at work. -/
theorem server_survives (available : Option ℕ) :
    (∀ allowed events server, Run (connectionParallelism available) allowed events server →
      server.connections.length ≤ connectionParallelism available ∧
        Isolated (connectionParallelism available) server) ∧
    ∀ events server, Run (connectionParallelism available) Benign events server →
      ∀ result, server.loop = .returned result →
        .send true ∈ events ∧ AnswersAdmitted events server := by
  refine ⟨fun allowed events server hrun =>
    ⟨length_connections_run hrun, isolated _ server⟩, ?_⟩
  intro events server hrun result hreturned
  have hsound := sound_run hrun
  refine ⟨hsound.requested (.inr (by simp [hreturned])), fun id hid => ?_⟩
  obtain ⟨connection, htask | hjoined⟩ := hsound.admitted id hid
  · rw [hsound.returned result hreturned] at htask
    cases htask
  · refine ⟨connection, List.mem_append_right _ hjoined, fun request hrequest => ?_⟩
    obtain ⟨hfaithful, found, written, hphase⟩ := hsound.joined _ hjoined
    dsimp only at hphase
    simp only [Faithful, hphase] at hfaithful
    obtain ⟨hreads, given, hgiven, rfl⟩ := hfaithful
    have hfound := hreads []
    rw [List.append_nil, hrequest, Except.ok.injEq] at hfound
    exact ⟨given, hgiven, hfound ▸ hphase⟩

/-- Do the events in turn, each only when it is allowed and can happen. -/
def play (parallelism : ℕ) (allowed : Server → ServerEvent → Prop)
    [∀ server event, Decidable (allowed server event)] (events : List ServerEvent) :
    Option Server :=
  events.foldlM
    (fun server event => if allowed server event then server.step parallelism event else none) start

theorem run_of_play {parallelism : ℕ} {allowed : Server → ServerEvent → Prop}
    [∀ server event, Decidable (allowed server event)] {events : List ServerEvent}
    {server : Server} (h : play parallelism allowed events = some server) :
    Run parallelism allowed events server := by
  unfold play at h
  induction events using List.reverseRecOn generalizing server with
  | nil =>
      cases h
      exact .start
  | append_singleton events event ih =>
      rw [List.foldlM_append] at h
      obtain ⟨before, hbefore, hlast⟩ := Option.bind_eq_some_iff.mp h
      rw [List.foldlM_cons] at hlast
      obtain ⟨after, hafter, hlast⟩ := Option.bind_eq_some_iff.mp hlast
      cases hlast
      split at hafter
      · next hallowed => exact .step (ih hbefore) hallowed hafter
      · cases hafter

/-- The result with which a server returned. -/
def result? (server : Server) : Option (Except String Unit) :=
  match server.loop with
  | .returned result => some result
  | _ => none

theorem loop_of_result? {server : Server} {result : Except String Unit}
    (h : server.result? = some result) : server.loop = .returned result := by
  unfold result? at h
  split at h
  · next hloop => exact hloop.trans (congrArg _ (Option.some.inj h))
  · cases h

/-- One request is answered before shutdown and one while draining. -/
def drainedEvents : List ServerEvent :=
  [.accept, .connection 0 (.read sampleStream), .accept,
    .connection 0 (.handled (.ok ⟨200, []⟩)), .connection 1 (.read sampleStream),
    .connection 0 .written, .join 0, .send true, .observeShutdown,
    .connection 1 (.handled (.error "late")), .connection 1 .written, .join 1]

theorem server_survives_drained : ∃ server,
    Run (connectionParallelism none) Benign drainedEvents server ∧
      server.loop = .returned (.ok ()) ∧ AnswersAdmitted drainedEvents server := by
  have hplay : (play (connectionParallelism none) Benign drainedEvents).bind result? =
      some (.ok ()) := by decide +kernel
  obtain ⟨server, hserver, hresult⟩ := Option.bind_eq_some_iff.mp hplay
  exact ⟨server, run_of_play hserver, loop_of_result? hresult,
    ((server_survives none).2 _ _ (run_of_play hserver) _ (loop_of_result? hresult)).2⟩

/-- A request that is malformed. -/
def malformedStream : List UInt8 := "GET / HTTP/1.0\r\n\r\n".toList.map fun c => UInt8.ofNat c.toNat

/-- A connection whose request is malformed, beside one that is being handled. -/
def malformedEvents : List ServerEvent :=
  [.accept, .accept, .connection 0 (.read sampleStream), .connection 1 (.read malformedStream),
    .join 1]

/-- The malformed request ends the server before shutdown, and the other connection
is not answered. -/
theorem server_ends_by_malformed :
    ¬ ∀ (available : Option ℕ) (events : List ServerEvent) (server : Server),
      Run (connectionParallelism available) (fun _ _ => True) events server →
      ∀ result, server.loop = .returned result →
        .send true ∈ events ∧ AnswersAdmitted events server := by
  intro h
  have hplay : (play (connectionParallelism none) (fun _ _ => True) malformedEvents).bind result? =
      some (.error "HTTP JSON request line is invalid") := by decide +kernel
  obtain ⟨server, hserver, hresult⟩ := Option.bind_eq_some_iff.mp hplay
  have hsent := (h none _ server (run_of_play hserver) _ (loop_of_result? hresult)).1
  simp [malformedEvents] at hsent

end Server

end AspRust.Provider
