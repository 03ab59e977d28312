import AspRust.Foundation.Outcome
import AspRust.Foundation.Text

/-!
# Framing of an HTTP JSON request

`readRequest` is the provider server's request reader: it reads chunks until
the buffer holds the end of the headers, parses them, computes where the frame
ends from the declared content length, and reads on until the buffer reaches
that point.  The stream is the list of chunks that successive reads return,
followed by end of file.

## Refinement of the whole stream

`wholeFrame` says what a request *is*, with no reads in it: the part of the
stream up to the first blank line is the header, the bytes after it the body.
The reader refines it (`readRequest_refines`).  A request that it returns is the
whole stream's, and on a stream within the frame limit it returns every request
there is.  Independence of the chunking follows, because `wholeFrame` does not
see the chunks.

Beyond the frame limit the reader may refuse where another chunking succeeds:
the size is checked between reads, so it depends on where they end.

## What is load-bearing

The header loop looks for the blank line in the whole buffer after each read, so a blank line
that is split between two chunks is found.  The body loop reads to a position that was computed
from the header, with a check for overflow; no slice is taken before the buffer reaches that far,
which is why neither loop panics.
-/

namespace AspRust.Provider

open AspRust.Foundation

/-- A parsed request. -/
structure HttpJsonRequest where
  method : String
  path : String
  body : List UInt8
deriving DecidableEq

/-- The largest frame the server accepts. -/
def maxRequestBytes : ℕ := 1024 * 1024

/-- The size of the buffer that one read fills. -/
def readBufferBytes : ℕ := 4096

/-- The blank line that ends the headers. -/
def headerTerminator : List UInt8 := [0x0D, 0x0A, 0x0D, 0x0A]

/-- What the headers say about the request. -/
structure RequestHead where
  method : String
  path : String
  contentLength : ℕ
deriving DecidableEq

/-- The refusal of a frame that is too large. -/
def frameLimitExceeded : Fault :=
  .returned "HTTP JSON request exceeds the bounded frame limit"

/-- Read until the buffer holds the end of the headers: the buffer, the length
of the headers, and what is still unread. -/
def readHeader : List (List UInt8) → List UInt8 →
    Outcome (List UInt8 × ℕ × List (List UInt8))
  | [], bytes =>
      if maxRequestBytes ≤ bytes.length then .error frameLimitExceeded
      else .error (.returned "HTTP JSON request ended before its headers")
  | chunk :: rest, bytes =>
      if maxRequestBytes ≤ bytes.length then .error frameLimitExceeded
      else if chunk = [] then
        .error (.returned "HTTP JSON request ended before its headers")
      else
        match findSlice headerTerminator (bytes ++ chunk) with
        | some position => do
            let headerEnd ← usizeAdd position 4
            return (bytes ++ chunk, headerEnd, rest)
        | none => readHeader rest (bytes ++ chunk)

/-- The declared content length; the first such header counts, none means zero. -/
def parseContentLength (lines : List (List Char)) : Outcome ℕ :=
  match (lines.filterMap (splitOnce? ':')).find? fun header =>
      eqIgnoreAsciiCase header.1 "content-length".toList with
  | none => .ok 0
  | some (_, value) =>
      match parseUsize (trim value) with
      | .ok contentLength => .ok contentLength
      | .error error =>
          .error (.returned ("HTTP JSON content-length is invalid: " ++ error.describe))

/-- The request line, then the headers. -/
def parseRequestHead (header : List UInt8) : Outcome RequestHead :=
  match fromUtf8 header with
  | .error error =>
      .error (.returned ("HTTP JSON request header is not UTF-8: " ++ error.describe))
  | .ok text =>
      match splitPattern ['\r', '\n'] text with
      | [] => .error (.returned "HTTP JSON request line is absent")
      | requestLine :: lines =>
          match splitWhitespace requestLine with
          | [] => .error (.returned "HTTP JSON request method is absent")
          | [_] => .error (.returned "HTTP JSON request path is absent")
          | method :: path :: rest =>
              if rest.head? = some "HTTP/1.1".toList then do
                let contentLength ← parseContentLength lines
                return {
                  method := String.ofList method
                  path := String.ofList path
                  contentLength }
              else .error (.returned "HTTP JSON request line is invalid")

/-- Read until the buffer reaches the end of the frame. -/
def readBody (frameEnd : ℕ) : List (List UInt8) → List UInt8 → Outcome (List UInt8)
  | [], bytes =>
      if frameEnd ≤ bytes.length then .ok bytes
      else .error (.returned "HTTP JSON request body ended early")
  | chunk :: rest, bytes =>
      if frameEnd ≤ bytes.length then .ok bytes
      else if chunk = [] then .error (.returned "HTTP JSON request body ended early")
      else readBody frameEnd rest (bytes ++ chunk)

/-- The end of the frame, when it is within the limit. -/
def frameEnd? (headerEnd contentLength : ℕ) : Option ℕ :=
  (usizeCheckedAdd? headerEnd contentLength).filter (· ≤ maxRequestBytes)

/-- What follows the headers: the size checks, the body, and the request. -/
def readAfterHeader (bytes : List UInt8) (headerEnd : ℕ) (chunks : List (List UInt8)) :
    Outcome HttpJsonRequest := do
  let header ← slice bytes 0 headerEnd
  let head ← parseRequestHead header
  match frameEnd? headerEnd head.contentLength with
  | none => .error frameLimitExceeded
  | some frameEnd =>
      if maxRequestBytes < bytes.length then .error frameLimitExceeded
      else do
        let bytes ← readBody frameEnd chunks bytes
        let body ← slice bytes headerEnd frameEnd
        return { method := head.method, path := head.path, body }

/-- Read one request from the chunks that successive reads return. -/
def readRequest (chunks : List (List UInt8)) : Outcome HttpJsonRequest := do
  let (bytes, headerEnd, rest) ← readHeader chunks []
  readAfterHeader bytes headerEnd rest

/-- Successive reads of a stream: none is empty, and none exceeds the buffer. -/
structure IsChunking (stream : List UInt8) (chunks : List (List UInt8)) : Prop where
  flatten_eq : chunks.flatten = stream
  nonempty : ∀ chunk ∈ chunks, chunk ≠ []
  bounded : ∀ chunk ∈ chunks, chunk.length ≤ readBufferBytes

/-! ## The request of a whole stream

The specification: the bytes up to the first blank line, and behind it as many as the
headers declare. -/

/-- The request a stream carries: headers up to the first blank line, and as
many bytes after it as they declare. -/
def wholeFrame (stream : List UInt8) : Option HttpJsonRequest := do
  let position ← findSlice headerTerminator stream
  let head ← (parseRequestHead (stream.take (position + 4))).toOption
  if position + 4 + head.contentLength ≤ maxRequestBytes ∧
      position + 4 + head.contentLength ≤ stream.length then
    some {
      method := head.method
      path := head.path
      body := (stream.drop (position + 4)).take head.contentLength }
  else none

theorem wholeFrame_eq_some {stream : List UInt8} {request : HttpJsonRequest} :
    wholeFrame stream = some request ↔
      ∃ position head,
        findSlice headerTerminator stream = some position ∧
        parseRequestHead (stream.take (position + 4)) = .ok head ∧
        position + 4 + head.contentLength ≤ maxRequestBytes ∧
        position + 4 + head.contentLength ≤ stream.length ∧
        request = {
          method := head.method
          path := head.path
          body := (stream.drop (position + 4)).take head.contentLength } := by
  unfold wholeFrame
  constructor
  · intro h
    obtain ⟨position, hposition, h⟩ := Option.bind_eq_some_iff.mp h
    obtain ⟨head, hhead, h⟩ := Option.bind_eq_some_iff.mp h
    split at h
    · next hfits =>
        refine ⟨position, head, hposition, ?_, hfits.1, hfits.2, (Option.some.inj h).symm⟩
        cases hparse : parseRequestHead (stream.take (position + 4)) with
        | error fault => simp [hparse, Except.toOption] at hhead
        | ok parsed =>
            simp only [hparse, Except.toOption, Option.some.injEq] at hhead
            rw [hhead]
    · simp at h
  · rintro ⟨position, head, hposition, hhead, hlimit, hlength, rfl⟩
    simp [hposition, hhead, Except.toOption, hlimit, hlength]

/-! ## One loop at a time

Each loop is described against the whole stream, which is what is in the buffer and what
is still to come. -/

/-- **The header loop.**  From a buffer without a blank line it ends with the
first blank line of the whole stream in the buffer, or with an error; an error
means that the stream has no blank line, or that a part of it without one is
already as long as the limit. -/
theorem readHeader_spec (bytes : List UInt8) (chunks : List (List UInt8))
    (hnone : findSlice headerTerminator bytes = none)
    (hnonempty : ∀ chunk ∈ chunks, chunk ≠ [])
    (hbounded : ∀ chunk ∈ chunks, chunk.length ≤ readBufferBytes) :
    (∃ buffer position rest,
      readHeader chunks bytes = .ok (buffer, position + 4, rest) ∧
      findSlice headerTerminator buffer = some position ∧
      buffer ++ rest.flatten = bytes ++ chunks.flatten ∧
      (∀ chunk ∈ rest, chunk ∈ chunks)) ∨
    (∃ message, readHeader chunks bytes = .error (.returned message) ∧
      (findSlice headerTerminator (bytes ++ chunks.flatten) = none ∨
        maxRequestBytes < (bytes ++ chunks.flatten).length)) := by
  induction chunks generalizing bytes with
  | nil =>
      refine Or.inr ?_
      by_cases hfull : maxRequestBytes ≤ bytes.length
      · exact ⟨_, by rw [readHeader, if_pos hfull]; rfl, Or.inl (by simpa using hnone)⟩
      · exact ⟨_, by rw [readHeader, if_neg hfull], Or.inl (by simpa using hnone)⟩
  | cons chunk rest ih =>
      have hchunk : chunk ≠ [] := hnonempty chunk List.mem_cons_self
      by_cases hfull : maxRequestBytes ≤ bytes.length
      · -- the limit is reached with more input to come, so the stream exceeds it
        refine Or.inr ⟨_, by rw [readHeader, if_pos hfull]; rfl, Or.inr ?_⟩
        have hpos : 0 < chunk.length := List.length_pos_iff.mpr hchunk
        simp only [List.flatten_cons, List.length_append]
        omega
      · rw [readHeader, if_neg hfull, if_neg hchunk]
        cases hfind : findSlice headerTerminator (bytes ++ chunk) with
        | some position =>
            refine Or.inl ⟨bytes ++ chunk, position, rest, ?_, hfind, by simp, ?_⟩
            · have hend := findSlice_add_length_le hfind
              have hlen : chunk.length ≤ readBufferBytes := hbounded chunk List.mem_cons_self
              have hsmall : position + 4 ≤ usizeMax := by
                simp only [headerTerminator, List.length_append, List.length_cons,
                  List.length_nil, maxRequestBytes, readBufferBytes] at hend hlen hfull
                simp only [usizeMax]
                omega
              simp only [usizeAdd, if_pos hsmall]
              rfl
            · exact fun other hother => List.mem_cons_of_mem _ hother
        | none =>
            have hrest := ih _ hfind (fun c hc => hnonempty c (List.mem_cons_of_mem _ hc))
              (fun c hc => hbounded c (List.mem_cons_of_mem _ hc))
            rcases hrest with ⟨buffer, position, unread, hok, hpos, hflat, hsub⟩ |
              ⟨message, herror, hreason⟩
            · refine Or.inl ⟨buffer, position, unread, hok, hpos, by simpa using hflat, ?_⟩
              exact fun other hother => List.mem_cons_of_mem _ (hsub other hother)
            · exact Or.inr ⟨message, herror, by simpa using hreason⟩

/-- **The body loop.**  It ends with a buffer that reaches the end of the frame,
or with an error when the whole stream does not. -/
theorem readBody_spec (frameEnd : ℕ) {chunks : List (List UInt8)} (bytes : List UInt8)
    (hnonempty : ∀ chunk ∈ chunks, chunk ≠ []) :
    (∃ buffer, readBody frameEnd chunks bytes = .ok buffer ∧ frameEnd ≤ buffer.length ∧
      buffer <+: bytes ++ chunks.flatten) ∨
    (∃ message, readBody frameEnd chunks bytes = .error (.returned message) ∧
      (bytes ++ chunks.flatten).length < frameEnd) := by
  induction chunks generalizing bytes with
  | nil =>
      by_cases hdone : frameEnd ≤ bytes.length
      · exact Or.inl ⟨bytes, by rw [readBody, if_pos hdone], hdone, by simp⟩
      · exact Or.inr ⟨_, by rw [readBody, if_neg hdone], by simpa using hdone⟩
  | cons chunk rest ih =>
      have hchunk : chunk ≠ [] := hnonempty chunk List.mem_cons_self
      by_cases hdone : frameEnd ≤ bytes.length
      · exact Or.inl ⟨bytes, by rw [readBody, if_pos hdone], hdone, List.prefix_append _ _⟩
      · rw [readBody, if_neg hdone, if_neg hchunk]
        simpa using ih (bytes ++ chunk)
          (fun c hc => hnonempty c (List.mem_cons_of_mem _ hc))

/-- A head that parses leaves no panic behind. -/
theorem parseRequestHead_error {header : List UInt8} {fault : Fault}
    (h : parseRequestHead header = .error fault) : ∃ message, fault = .returned message := by
  unfold parseRequestHead at h
  split at h
  · exact ⟨_, (Except.error.inj h).symm⟩
  · split at h
    · exact ⟨_, (Except.error.inj h).symm⟩
    · split at h
      · exact ⟨_, (Except.error.inj h).symm⟩
      · exact ⟨_, (Except.error.inj h).symm⟩
      · split at h
        · unfold parseContentLength at h
          split at h
          · simp [bind, Except.bind, pure, Except.pure] at h
          · split at h
            · simp [bind, Except.bind, pure, Except.pure] at h
            · exact ⟨_, (Except.error.inj h).symm⟩
        · exact ⟨_, (Except.error.inj h).symm⟩

theorem frameEnd?_eq_some {headerEnd contentLength frameEnd : ℕ} :
    frameEnd? headerEnd contentLength = some frameEnd ↔
      frameEnd = headerEnd + contentLength ∧ headerEnd + contentLength ≤ maxRequestBytes := by
  simp only [frameEnd?, usizeCheckedAdd?, Option.filter_eq_some_iff]
  constructor
  · rintro ⟨hsum, hlimit⟩
    split at hsum
    · rw [← Option.some.inj hsum] at hlimit ⊢
      exact ⟨rfl, by simpa using hlimit⟩
    · simp at hsum
  · rintro ⟨rfl, hlimit⟩
    have hsmall : headerEnd + contentLength ≤ usizeMax := by
      simp only [maxRequestBytes] at hlimit
      simp only [usizeMax]
      omega
    exact ⟨if_pos hsmall, by simpa using hlimit⟩

/-- **After the headers.**  With the first blank line of the stream in the
buffer, the rest of the reader returns the request of the whole stream or an
error; on a stream within the limit it errs only where there is no request. -/
theorem readAfterHeader_spec {buffer stream : List UInt8} {position : ℕ}
    {rest : List (List UInt8)} (hposition : findSlice headerTerminator buffer = some position)
    (hstream : buffer ++ rest.flatten = stream) (hnonempty : ∀ chunk ∈ rest, chunk ≠ []) :
    (∃ request, readAfterHeader buffer (position + 4) rest = .ok request ∧
      wholeFrame stream = some request) ∨
    (∃ message, readAfterHeader buffer (position + 4) rest = .error (.returned message) ∧
      (stream.length ≤ maxRequestBytes → wholeFrame stream = none)) := by
  have hend : position + 4 ≤ buffer.length := by
    simpa [headerTerminator] using findSlice_add_length_le hposition
  have hfirst : findSlice headerTerminator stream = some position :=
    hstream ▸ findSlice_append hposition rest.flatten
  have htake : stream.take (position + 4) = buffer.take (position + 4) := by
    rw [← hstream, List.take_append_of_le_length hend]
  have hslice : slice buffer 0 (position + 4) = .ok (stream.take (position + 4)) := by
    rw [slice_eq_ok (Nat.zero_le _) hend, htake]
    simp
  unfold readAfterHeader
  simp only [hslice, bind, Except.bind]
  cases hhead : parseRequestHead (stream.take (position + 4)) with
  | error fault =>
      obtain ⟨message, rfl⟩ := parseRequestHead_error hhead
      refine Or.inr ⟨message, rfl, fun _ => ?_⟩
      rw [Option.eq_none_iff_forall_ne_some]
      intro request hrequest
      obtain ⟨other, head, hother, hparse, -⟩ := wholeFrame_eq_some.mp hrequest
      rw [hfirst, Option.some.injEq] at hother
      subst hother
      rw [hhead] at hparse
      simp at hparse
  | ok head =>
      -- the stream's request, if any, is the one these headers announce
      have hframe : ∀ request, wholeFrame stream = some request →
          position + 4 + head.contentLength ≤ maxRequestBytes ∧
          position + 4 + head.contentLength ≤ stream.length := by
        intro request hrequest
        obtain ⟨other, parsed, hother, hparse, hlimit, hlength, -⟩ :=
          wholeFrame_eq_some.mp hrequest
        rw [hfirst, Option.some.injEq] at hother
        subst hother
        rw [hhead, Except.ok.injEq] at hparse
        subst hparse
        exact ⟨hlimit, hlength⟩
      dsimp only
      cases hsum : frameEnd? (position + 4) head.contentLength with
      | none =>
          refine Or.inr ⟨_, rfl, fun _ => ?_⟩
          rw [Option.eq_none_iff_forall_ne_some]
          intro request hrequest
          have hsome := frameEnd?_eq_some.mpr ⟨rfl, (hframe request hrequest).1⟩
          rw [hsum] at hsome
          simp at hsome
      | some frameEnd =>
          obtain ⟨rfl, hlimit⟩ := frameEnd?_eq_some.mp hsum
          dsimp only
          by_cases hlong : maxRequestBytes < buffer.length
          · refine Or.inr ⟨_, by rw [if_pos hlong]; rfl, fun hshort => ?_⟩
            have hle : buffer.length ≤ stream.length := by
              rw [← hstream, List.length_append]
              omega
            omega
          · rw [if_neg hlong]
            rcases readBody_spec (position + 4 + head.contentLength) buffer hnonempty with
              ⟨whole, hread, hreaches, hbegin⟩ | ⟨message, hread, hshort⟩
            · rw [hstream] at hbegin
              obtain ⟨tail, rfl⟩ := hbegin
              have hbody : slice whole (position + 4) (position + 4 + head.contentLength) =
                  .ok (((whole ++ tail).drop (position + 4)).take head.contentLength) := by
                rw [slice_eq_ok (Nat.le_add_right _ _) hreaches,
                  List.drop_append_of_le_length (by omega),
                  List.take_append_of_le_length (by rw [List.length_drop]; omega)]
                congr 2
                omega
              refine Or.inl ⟨_, by simp only [hread, hbody]; rfl, ?_⟩
              refine wholeFrame_eq_some.mpr
                ⟨position, head, hfirst, hhead, hlimit, ?_, rfl⟩
              rw [List.length_append]
              omega
            · refine Or.inr ⟨message, by simp only [hread], fun _ => ?_⟩
              rw [Option.eq_none_iff_forall_ne_some]
              intro request hrequest
              rw [hstream] at hshort
              exact absurd (hframe request hrequest).2 (by omega)

/-! ## The reader refines the whole stream -/

/-- **The reader refines `wholeFrame`.**  However a stream is read, the reader
returns its request or an error; on a stream within the limit an error means
that there is no request. -/
theorem readRequest_refines {stream : List UInt8} {chunks : List (List UInt8)}
    (hchunks : IsChunking stream chunks) :
    (∃ request, readRequest chunks = .ok request ∧ wholeFrame stream = some request) ∨
    (∃ message, readRequest chunks = .error (.returned message) ∧
      (stream.length ≤ maxRequestBytes → wholeFrame stream = none)) := by
  rcases readHeader_spec [] chunks (by decide)
      hchunks.nonempty hchunks.bounded with
    ⟨buffer, position, rest, hok, hposition, hflat, hsub⟩ | ⟨message, herror, hreason⟩
  · rw [List.nil_append, hchunks.flatten_eq] at hflat
    have hafter := readAfterHeader_spec hposition hflat
      (fun chunk hchunk => hchunks.nonempty chunk (hsub chunk hchunk))
    simpa only [readRequest, hok, bind, Except.bind] using hafter
  · rw [List.nil_append, hchunks.flatten_eq] at hreason
    refine Or.inr ⟨message, by simp only [readRequest, herror, bind, Except.bind], ?_⟩
    intro hshort
    rcases hreason with hnone | hlong
    · simp [wholeFrame, hnone]
    · omega

/-- **Framing is independent of chunking.**  For any two ways of reading one
stream: neither panics; on a stream within the frame limit they end alike, with
the same request or both with an error; on any stream two requests returned are
equal; and a returned body is exactly the declared number of bytes after the
first blank line. -/
theorem readRequest_independent_of_chunking (stream : List UInt8)
    (first second : List (List UInt8)) (hfirst : IsChunking stream first)
    (hsecond : IsChunking stream second) :
    (∀ message, readRequest first ≠ .error (.panicked message)) ∧
    (stream.length ≤ maxRequestBytes →
      Outcome.SameObservation (readRequest first) (readRequest second)) ∧
    (∀ request request', readRequest first = .ok request →
      readRequest second = .ok request' → request = request') ∧
    (∀ request, readRequest first = .ok request →
      ∃ position head,
        findSlice headerTerminator stream = some position ∧
        parseRequestHead (stream.take (position + 4)) = .ok head ∧
        request.method = head.method ∧ request.path = head.path ∧
        request.body = (stream.drop (position + 4)).take head.contentLength ∧
        request.body.length = head.contentLength) := by
  have hleft := readRequest_refines hfirst
  have hright := readRequest_refines hsecond
  refine ⟨?_, ?_, ?_, ?_⟩
  · intro message hpanic
    rcases hleft with ⟨request, hok, -⟩ | ⟨other, herror, -⟩
    · rw [hok] at hpanic
      simp at hpanic
    · rw [herror] at hpanic
      simp at hpanic
  · intro hshort
    rcases hleft with ⟨request, hok, hframe⟩ | ⟨message, herror, hnone⟩ <;>
      rcases hright with ⟨request', hok', hframe'⟩ | ⟨message', herror', hnone'⟩
    · rw [hframe, Option.some.injEq] at hframe'
      rw [hok, hok']
      exact hframe'
    · rw [hnone' hshort] at hframe
      simp at hframe
    · rw [hnone hshort] at hframe'
      simp at hframe'
    · rw [herror, herror']
      trivial
  · intro request request' hok hok'
    rcases hleft with ⟨a, ha, hframe⟩ | ⟨message, herror, -⟩
    · rcases hright with ⟨b, hb, hframe'⟩ | ⟨message, herror, -⟩
      · rw [ha, Except.ok.injEq] at hok
        rw [hb, Except.ok.injEq] at hok'
        rw [hframe, Option.some.injEq] at hframe'
        exact hok ▸ hok' ▸ hframe'
      · rw [herror] at hok'
        simp at hok'
    · rw [herror] at hok
      simp at hok
  · intro request hok
    rcases hleft with ⟨a, ha, hframe⟩ | ⟨message, herror, -⟩
    · rw [ha, Except.ok.injEq] at hok
      subst hok
      obtain ⟨position, head, hposition, hhead, -, hlength, rfl⟩ :=
        wholeFrame_eq_some.mp hframe
      refine ⟨position, head, hposition, hhead, rfl, rfl, rfl, ?_⟩
      rw [List.length_take, List.length_drop]
      omega
    · rw [herror] at hok
      simp at hok

/-- A request with a two-byte body. -/
def sampleStream : List UInt8 :=
  "POST /v1 HTTP/1.1\r\nContent-Length: 2\r\n\r\n[]".toList.map fun c => UInt8.ofNat c.toNat

/-- The sample request, read at once and byte by byte. -/
theorem readRequest_sample :
    readRequest [sampleStream] = .ok ⟨"POST", "/v1", [0x5B, 0x5D]⟩ ∧
      ∀ request, readRequest (sampleStream.map fun byte => [byte]) = .ok request →
        request = ⟨"POST", "/v1", [0x5B, 0x5D]⟩ := by
  have hwhole : readRequest [sampleStream] = .ok ⟨"POST", "/v1", [0x5B, 0x5D]⟩ := by decide +kernel
  refine ⟨hwhole, fun request hrequest => ?_⟩
  exact ((readRequest_independent_of_chunking sampleStream
    (sampleStream.map fun byte => [byte]) [sampleStream]
    ⟨by decide, by decide, by decide⟩ ⟨by decide, by decide, by decide⟩).2.2.1
    request _ hrequest hwhole)

end AspRust.Provider
