import RecordMarking.Echo.Client
import RecordMarking.Proofs.Ascii
import RecordMarking.Proofs.ReadingBack
import RecordMarking.Proofs.Replies

/-!
# The echo client and the echo server

The client cuts its requests into fragments, the server bounds the fragments that it reads but not
those that it writes, and the client reads replies under the default limit. `Exchangeable` says
which texts pass in both directions.

`run_converse` is one round of the client on a source that begins with its reply, and
`plays_converseRepeatedly` all rounds. `shows_and_ends_cleanly` is the handler on an input that it
can read to the end. `client_and_server_agree` hands the requests of the client to the handler and
the output of the handler back to the client.
-/

namespace RecordMarking

/-- A record of which the one write is taken is written. -/
theorem Sink.run_writeRecord_of_taken {record framed : Octets} {fragmentSize : Value} {sink : Sink}
    (cut : frame record fragmentSize = .ok framed) (takes : sink.nextAnswer.takes framed = true) :
    (writeRecord record fragmentSize).run sink =
      ⟨.ok (), [.offer framed, .notice (.recordWritten record.length)],
        ⟨sink.answers.tail, framed :: sink.taken⟩⟩ := by
  obtain ⟨offered, left, success⟩ := run_writeAll framed sink
  match ran : (writeAll framed).run sink with
  | ⟨result, trace, last⟩ =>
    rw [ran] at offered left success
    obtain rfl : result = .ok () := success.2 takes
    obtain rfl : trace = [.offer framed] := offered
    have state_eq : last = ⟨sink.answers.tail, framed :: sink.taken⟩ := by
      rw [show last = _ from left]
      exact congrArg (fun taken => (⟨sink.answers.tail, taken :: sink.taken⟩ : Sink))
        (answer_of_takes takes)
    rw [writeRecord, cut, Activity.run_bind_ok (Activity.run_conclude _ sink),
      Activity.run_bind_ok ran, state_eq]
    rfl

/-- A sink without answers of its own takes every write. -/
theorem Sink.tookAll_nil (offered : List Octets) : tookAll [] offered = true := by
  induction offered with
  | nil => rfl
  | cons octets later inductionHypothesis => exact inductionHypothesis

/-- A source that delivers one octet at a time. -/
def Source.octetByOctet (octets : Octets) : Source :=
  octets.map fun octet => .data [octet]

theorem Source.wellBehaved_octetByOctet (octets : Octets) : (octetByOctet octets).WellBehaved := by
  intro segment among
  obtain ⟨octet, _, rfl⟩ := List.mem_map.1 among
  exact ⟨[octet], List.cons_ne_nil octet [], rfl⟩

theorem Source.octets_octetByOctet (delivered : Octets) :
    (octetByOctet delivered).octets = delivered := by
  rw [octets, octetByOctet, List.flatMap_map]
  exact List.flatMap_singleton' delivered

/-- An iterator that ends says so at last. -/
theorem Source.streamEnded_of_nextRecord {limit : Value} {source rest : Source}
    {trace : List Event} (read : (nextRecord limit).run source = ⟨.ok none, trace, rest⟩) :
    ∃ before, trace = before ++ [.notice .streamEnded] := by
  simp only [nextRecord] at read
  split at read
  · split at read
    · cases read
      exact ⟨_, rfl⟩
    · cases read
  · split at read
    · cases read
    · cases read

/-- Of reading a record nothing but reading is observed before the record is complete. -/
theorem Source.trace_of_readRecord {limit : Value} {source rest : Source} {record : Octets}
    {trace : List Event} (read : (readRecord limit).run source = ⟨.ok record, trace, rest⟩) :
    ∃ before fragments, trace = before ++ [.notice (.recordRead record.length fragments)] ∧
      Confined Event.reads before := by
  have completes := (completes_nextRecord limit source).1 record
  rw [run_nextRecord_of_ok read] at completes
  exact (completes rfl).2

namespace Echo

open Text.Utf8

/-- A text that can be sent in fragments of a size to a server with a limit, and that fits into a
single fragment below the default limit. -/
structure Exchangeable (size limit : Int) (text : String) : Prop where
  nonempty : text ≠ ""
  ascii : Ascii text
  short : ((encode text).length : Int) < defaultLimit
  below : min ((encode text).length : Int) size < limit

section Exchangeable

variable {size limit : Int} {text : String}

theorem Exchangeable.framable (exchangeable : Exchangeable size limit text) (positive : 1 ≤ size)
    (announced : size ≤ Marker.maxLength) : Framable limit (encode text) size :=
  ⟨encode_ne_nil exchangeable.ascii exchangeable.nonempty, positive, announced,
    exchangeable.below⟩

theorem Exchangeable.fits (exchangeable : Exchangeable size limit text) :
    (encode text).length ≤ Marker.maxLength := by
  have short := exchangeable.short
  rw [defaultLimit] at short
  rw [Marker.maxLength]
  omega

/-- The octets that a client sends for a text. -/
def request (size : Int) (text : String) : Octets :=
  (fragments size.toNat (encode text)).flatMap Fragment.octets

/-- What a client sends are the frames of its texts. -/
theorem mapM_frame_texts {texts : List String}
    (framable : ∀ text ∈ texts, Framable limit (encode text) size) :
    texts.mapM (fun text => frame (encode text) (.integer size)) =
      .ok (texts.map (request size)) := by
  induction texts with
  | nil => rfl
  | cons text later inductionHypothesis =>
    obtain ⟨first, others⟩ := List.forall_mem_cons.1 framable
    rw [List.mapM_cons, first.frame_eq, inductionHypothesis others]
    rfl

end Exchangeable

/-- What is observed of one round of a client: it writes and flushes the request, and then it reads
a reply, shows it, and waits. -/
inductive Round (size : Int) (text : String) : List Event → Prop where
  | played {framed : Octets} {reading : List Event} {fragments : Nat}
      (cut : frame (encode text) (.integer size) = .ok framed)
      (reads : Confined Event.reads reading) :
      Round size text
        ([.offer framed, .notice (.recordWritten (encode text).length), .flush] ++ reading ++
          [.notice (.recordRead (encode text).length fragments), .announce (.replyReceived text),
            .pause pauseLength])

/-- What is observed of a client that plays one round for each text. -/
inductive Rounds (size : Int) : List String → List Event → Prop where
  | none : Rounds size [] []
  | next {text : String} {later : List String} {trace behind : List Event}
      (round : Round size text trace) (rest : Rounds size later behind) :
      Rounds size (text :: later) (trace ++ behind)

/-- The line that shows a reply. -/
def replyLine (reply : String) : String :=
  "Client received reply: " ++ reply

/-- In its rounds a client shows just its texts for replies. -/
theorem Rounds.printed_eq {size : Int} {texts : List String} {trace : List Event}
    (rounds : Rounds size texts trace) : printed trace = texts.map replyLine := by
  rw [printed_eq_map]
  induction rounds with
  | none => rfl
  | @next text later trace behind round rest inductionHypothesis =>
    have shown : trace.filterMap Event.announced? = [.replyReceived text] := by
      cases round with
      | @played framed reading fragments cut reads =>
        rw [List.filterMap_append, List.filterMap_append, (filterMap_eq_nil_of_reads reads).2.1]
        rfl
    rw [List.filterMap_append, List.map_append, shown, inductionHypothesis]
    rfl

section Client

variable {size limit : Int} {duplex : Duplex}

/-- A round of a client whose request is taken and whose source begins with the reply. -/
theorem run_converse {text : String} {rest : Octets} (exchangeable : Exchangeable size limit text)
    (positive : 1 ≤ size) (announced : size ≤ Marker.maxLength)
    (taken : duplex.output.nextAnswer.takes (request size text) = true)
    (behaved : duplex.input.WellBehaved)
    (holds : duplex.input.octets = (⟨encode text, true⟩ : Fragment).octets ++ rest) :
    ∃ trace input, (converse (.integer size) text).run duplex =
        ⟨.ok (), trace, input, duplex.output.answers.tail,
          request size text :: duplex.output.taken⟩ ∧
      Round size text trace ∧ input.WellBehaved ∧ input.octets = rest := by
  have framable := exchangeable.framable positive announced
  have cut := framable.frame_eq
  have wrote := Sink.run_writeRecord_of_taken cut taken
  have read := Source.leaves_readRecord_reply behaved framable.nonempty exchangeable.fits
    exchangeable.short holds
  match received : (Source.readRecord (.integer defaultLimit)).run duplex.input with
  | ⟨result, trace, input⟩ =>
    rw [received] at read
    obtain rfl : result = .ok (encode text) := read.result_eq
    obtain ⟨reading, fragments, rfl, reads⟩ := Source.trace_of_readRecord received
    have shown : replyText (encode text) = .ok text := by
      rw [replyText, decode_encode_of_ascii exchangeable.ascii]
    have round := @Round.played size text _ reading fragments cut reads
    refine ⟨_, input, ?_, round, read.wellBehaved, read.octets_eq⟩
    simp [converse, bind, Activity.andThen, Duplex.run_sending, Duplex.run_receiving, wrote,
      Sink.flush, received, shown, Activity.announce, Outcome.after, request]

/-- A run of a client that plays a round for each text, reads the replies off its source, and writes
the requests. -/
structure Plays (size : Int) (texts : List String) (duplex : Duplex)
    (outcome : Outcome Duplex Unit) : Prop where
  result_eq : outcome.result = .ok ()
  rounds : Rounds size texts outcome.trace
  emptied : outcome.state.input.octets = []
  written : outcome.state.output.accepted =
    duplex.output.accepted ++ (texts.map (request size)).flatten

/-- The client plays all rounds if its source holds just the replies to its texts. -/
theorem plays_converseRepeatedly {text : Nat → String} {first count : Nat}
    (positive : 1 ≤ size) (announced : size ≤ Marker.maxLength)
    (exchangeable : ∀ sent ∈ (List.range' first count).map text, Exchangeable size limit sent)
    (taken : Sink.tookAll duplex.output.answers
      (((List.range' first count).map text).map (request size)) = true)
    (behaved : duplex.input.WellBehaved)
    (holds : duplex.input.octets = replies (((List.range' first count).map text).map encode)) :
    Plays size ((List.range' first count).map text) duplex
      ((converseRepeatedly (.integer size) text first count).run duplex) := by
  induction count generalizing first duplex with
  | zero => exact ⟨rfl, .none, holds, (List.append_nil _).symm⟩
  | succ count inductionHypothesis =>
    rw [List.range'_succ, List.map_cons] at exchangeable taken holds ⊢
    obtain ⟨next, others⟩ := List.forall_mem_cons.1 exchangeable
    rw [List.map_cons, Sink.tookAll, Bool.and_eq_true] at taken
    obtain ⟨trace, input, ran, round, inputBehaved, left⟩ :=
      run_converse next positive announced taken.1 behaved holds
    obtain ⟨result_eq, rounds, emptied, written⟩ :=
      @inductionHypothesis ⟨input, _, _⟩ _ others taken.2 inputBehaved left
    rw [converseRepeatedly, Activity.run_bind_ok ran]
    refine ⟨result_eq, .next round rounds, emptied, written.trans ?_⟩
    simp [Sink.accepted]

end Client

section Server

variable {address limit : Value} {duplex : Duplex}

/-- A handler that stops without a fault does so at the end of its input. -/
theorem streamEnded_of_replyToAll {trace : List Event} {last : Duplex}
    (ran : (replyToAll address limit).run duplex = ⟨.ok (), trace, last⟩) :
    ∃ before, trace = before ++ [.notice .streamEnded] := by
  simp only [replyToAll] at ran
  fun_induction replyToAllFrom address limit duplex generalizing trace last with
  | case1 | case3 => cases ran
  | case2 duplex requests next read =>
    cases ran
    obtain ⟨given, _⟩ := nextRecord_of_nextRequest read
    exact Source.streamEnded_of_nextRecord given
  | case4 duplex record requests next read later between replied inductionHypothesis =>
    cases continued : replyToAllFrom address limit between with
    | mk result behind final =>
      rw [continued] at ran inductionHypothesis
      cases ran
      obtain ⟨before, rfl⟩ := inductionHypothesis rfl
      exact ⟨requests ++ later ++ before, (List.append_assoc _ _ _).symm⟩

/-- Around replies that succeed the handler shows just that the client comes and goes. -/
theorem run_handle_of_ok {trace : List Event} {last : Duplex}
    (ran : (replyToAll address limit).run duplex = ⟨.ok (), trace, last⟩) :
    (handle address limit).run duplex =
      ⟨.ok (), .announce (.clientConnected address) :: trace ++
        [.announce (.clientDisconnected address)], last⟩ := by
  rw [run_handle, ran]
  rfl

/-- A handler that reads its input to a clean end, and of which every write is taken, shows every
record, replies to it, and shows nothing between the end of the stream and the departure of the
client. -/
theorem shows_and_ends_cleanly
    (fit : ∀ record ∈ (Source.iterate limit duplex.input).records,
      record.length ≤ Marker.maxLength)
    (clean : (Source.iterate limit duplex.input).ending = .ok ())
    (taken : Sink.tookAll duplex.output.answers
      (Sink.offers ((handle address limit).run duplex).trace) = true) :
    printed ((handle address limit).run duplex).trace =
        connectedLine address ::
          (Source.iterate limit duplex.input).records.map (receivedLine address) ++
            [disconnectedLine address] ∧
      ∃ before, ((handle address limit).run duplex).trace =
        before ++ [.notice .streamEnded, .announce (.clientDisconnected address)] := by
  rw [offers_handle] at taken
  have returned := (result_replyToAll fit taken).trans clean
  obtain ⟨count, echoes⟩ := echoes_replyToAll address limit duplex
  match ran : (replyToAll address limit).run duplex with
  | ⟨result, trace, last⟩ =>
    rw [ran] at echoes taken returned
    obtain rfl : result = .ok () := returned
    obtain ⟨counted, _⟩ := echoes.finished taken fun _ impossible => nomatch impossible
    have announced := echoes.announced
    rw [counted, List.take_length, ← ran] at announced
    have shown := printed_handle address announced
    rw [ran] at shown
    obtain ⟨before, rfl⟩ := streamEnded_of_replyToAll ran
    refine ⟨shown, .announce (.clientConnected address) :: before, ?_⟩
    rw [run_handle_of_ok ran]
    simp

/-- The handler replies to the requests of a client, each in a single fragment. -/
theorem serves_requests {size limit : Int} {texts : List String}
    (framable : ∀ sent ∈ texts, Framable limit (encode sent) size)
    (fit : ∀ sent ∈ texts, (encode sent).length ≤ Marker.maxLength)
    (behaved : duplex.input.WellBehaved)
    (holds : duplex.input.octets = (texts.map (request size)).flatten)
    (taken : Sink.tookAll duplex.output.answers
      (Sink.offers ((handle address (.integer limit)).run duplex).trace) = true) :
    let outcome := (handle address (.integer limit)).run duplex
    outcome.result = .ok () ∧
      outcome.state.output.accepted = duplex.output.accepted ++ replies (texts.map encode) ∧
      printed outcome.trace =
        connectedLine address :: texts.map (fun sent => receivedLine address (encode sent)) ++
          [disconnectedLine address] ∧
      ∃ before, outcome.trace =
        before ++ [.notice .streamEnded, .announce (.clientDisconnected address)] := by
  intro outcome
  have each : ∀ entry ∈ texts.map fun sent => (encode sent, size),
      Framable limit entry.1 entry.2 := List.forall_mem_map.2 framable
  have frames : ((fragmentGroups (texts.map fun sent => (encode sent, size))).map
      (·.flatMap Fragment.octets)).flatten = (texts.map (request size)).flatten := by
    simp only [fragmentGroups, List.map_map]
    rfl
  obtain ⟨given, clean⟩ := iterate_of_frames each behaved (holds.trans frames.symm)
  have records_eq : (Source.iterate (.integer limit) duplex.input).records = texts.map encode := by
    rw [given, List.map_map]
    rfl
  have announceable : ∀ record ∈ (Source.iterate (.integer limit) duplex.input).records,
      record.length ≤ Marker.maxLength := by
    rw [records_eq]
    exact List.forall_mem_map.2 fit
  obtain ⟨returned, accepted⟩ := handle_of_clean_end announceable clean taken
  obtain ⟨shown, ended⟩ := shows_and_ends_cleanly announceable clean taken
  rw [records_eq] at accepted shown
  refine ⟨returned, accepted, ?_, ended⟩
  rw [show printed outcome.trace = _ from shown, List.map_map]
  rfl

end Server

/-- Around its rounds the client says that it is connected and that it is not any more. -/
theorem run_runClient {settings : ClientSettings} {level : LogLevel} {count : Nat} {size : Int}
    {text : Nat → String} {client : Duplex} (leveled : settings.logLevel = some level)
    (counted : settings.count = .integer count) (sized : settings.fragmentSize = .integer size)
    {texts : List String}
    (plays : Plays size texts client
      ((converseRepeatedly (.integer size) text 0 count).run client)) :
    let outcome := (runClient settings text).run client
    outcome.result = .ok () ∧
      (∃ rounds, Rounds size texts rounds ∧
        outcome.trace = [.logging level, .connect settings.host settings.port,
          .announce .connected] ++ rounds ++ [.announce .disconnected]) ∧
      outcome.state = ((converseRepeatedly (.integer size) text 0 count).run client).state := by
  match ran : (converseRepeatedly (.integer size) text 0 count).run client with
  | ⟨result, trace, last⟩ =>
    rw [ran] at plays
    obtain rfl : result = .ok () := plays.result_eq
    have whole : (runClient settings text).run client =
        ⟨.ok (), [.logging level, .connect settings.host settings.port, .announce .connected] ++
          trace ++ [.announce .disconnected], last⟩ := by
      simp [runClient, leveled, counted, sized, chosenLevel, Value.whole, bind, Activity.andThen,
        Activity.announce, ran, Outcome.after]
    rw [whole]
    exact ⟨rfl, ⟨trace, plays.rounds, rfl⟩, rfl⟩

/-- Texts that pass in both directions are exchanged: the handler shows the requests of the client,
in order, and ends cleanly at the end of its input, and the client, which reads what the handler
writes, plays all its rounds, each of which shows the text that it sent. The lines that are shown
are those and the ones about the connection. -/
theorem client_and_server_agree {settings : ClientSettings} {level : LogLevel} {count : Nat}
    {size limit : Int} {text : Nat → String} (leveled : settings.logLevel = some level)
    (counted : settings.count = .integer count) (sized : settings.fragmentSize = .integer size)
    (positive : 1 ≤ size) (announced : size ≤ Marker.maxLength) (least : 2 ≤ limit)
    (exchangeable : ∀ number < count, Exchangeable size limit (text number)) :
    let texts := (List.range count).map text
    checkLimit (.integer limit) = .ok limit ∧
      ∃ requests,
        texts.mapM (fun sent => frame (encode sent) (.integer size)) = .ok requests ∧
        ∀ (address : Value) (server client : Duplex),
          let served := (handle address (.integer limit)).run server
          let ran := (runClient settings text).run client
          server.input.WellBehaved → server.input.octets = requests.flatten →
          Sink.tookAll server.output.answers (Sink.offers served.trace) = true →
          client.input.WellBehaved →
          server.output.accepted ++ client.input.octets = served.state.output.accepted →
          Sink.tookAll client.output.answers requests = true →
          (served.result = .ok () ∧
            printed served.trace =
              connectedLine address ::
                texts.map (fun sent => receivedLine address (encode sent)) ++
                  [disconnectedLine address] ∧
            ∃ before, served.trace =
              before ++ [.notice .streamEnded, .announce (.clientDisconnected address)]) ∧
          ran.result = .ok () ∧
            (∃ rounds, Rounds size texts rounds ∧
              ran.trace = [.logging level, .connect settings.host settings.port,
                .announce .connected] ++ rounds ++ [.announce .disconnected]) ∧
            printed ran.trace =
              "Client connected" :: texts.map replyLine ++ ["Client disconnected"] ∧
            ran.state.input.octets = [] ∧
            ran.state.output.accepted = client.output.accepted ++ requests.flatten := by
  intro texts
  have passing : ∀ sent ∈ texts, Exchangeable size limit sent := by
    intro sent among
    obtain ⟨number, listed, rfl⟩ := List.mem_map.1 among
    exact exchangeable number (List.mem_range.1 listed)
  have framable : ∀ sent ∈ texts, Framable limit (encode sent) size :=
    fun sent among => (passing sent among).framable positive announced
  refine ⟨if_pos least, _, mapM_frame_texts framable, ?_⟩
  intro address server client served ran serverBehaved requested served_all clientBehaved answered
    taken
  obtain ⟨returned, accepted, shown, ended⟩ := serves_requests framable
    (fun sent among => (passing sent among).fits) serverBehaved requested served_all
  have replied : client.input.octets = replies (texts.map encode) := by
    rw [show served.state.output.accepted = _ from accepted] at answered
    exact List.append_cancel_left answered
  have same : texts = (List.range' 0 count).map text := congrArg _ List.range_eq_range'
  have plays := plays_converseRepeatedly positive announced (same ▸ passing) (same ▸ taken)
    clientBehaved (same ▸ replied)
  rw [← same] at plays
  obtain ⟨finished, ⟨rounds, played, trace_eq⟩, (state_eq : ran.state = _)⟩ :=
    run_runClient leveled counted sized plays
  refine ⟨⟨returned, shown, ended⟩, finished, ⟨rounds, played, trace_eq⟩, ?_, ?_, ?_⟩
  · rw [show ran.trace = _ from trace_eq, printed, List.filterMap_append, List.filterMap_append,
      ← printed, ← printed, played.printed_eq]
    rfl
  · rw [state_eq]
    exact plays.emptied
  · rw [state_eq]
    exact plays.written

/-- A client exchanges two texts in fragments of two octets with a server that accepts no more,
while both directions deliver one octet at a time. -/
theorem client_and_server_agree_octet_by_octet :
    let settings : ClientSettings :=
      { ClientSettings.defaults with fragmentSize := .integer 2, count := .integer 2 }
    let text : Nat → String := fun number => if number = 0 then "09:30" else "09:31"
    ∃ requests,
      ["09:30", "09:31"].mapM (fun sent => frame (encode sent) (.integer 2)) = .ok requests ∧
      (let server : Duplex := ⟨.octetByOctet requests.flatten, .ofAnswers []⟩
      let served := (handle (.text "peer") (.integer 3)).run server
      let client : Duplex := ⟨.octetByOctet served.state.output.accepted, .ofAnswers []⟩
      let ran := (runClient settings text).run client
      served.result = .ok () ∧ ran.result = .ok () ∧
        printed served.trace =
          ["Client peer connected", "Server received record from peer: b'09:30'",
            "Server received record from peer: b'09:31'", "Client peer disconnected"] ∧
        printed ran.trace =
          ["Client connected", "Client received reply: 09:30", "Client received reply: 09:31",
            "Client disconnected"] ∧
        ran.state.output.accepted = requests.flatten) := by
  intro settings text
  have exchangeable : ∀ number < 2, Exchangeable 2 3 (text number) := by
    have early : Exchangeable 2 3 "09:30" := by
      have ascii : Ascii "09:30" := by decide
      refine ⟨by decide, ascii, ?_, ?_⟩ <;> rw [encode_of_ascii ascii] <;> decide
    have late : Exchangeable 2 3 "09:31" := by
      have ascii : Ascii "09:31" := by decide
      refine ⟨by decide, ascii, ?_, ?_⟩ <;> rw [encode_of_ascii ascii] <;> decide
    intro number bounded
    match number with
    | 0 => exact early
    | 1 => exact late
  obtain ⟨_, requests, framed, agree⟩ :=
    @client_and_server_agree settings .error 2 2 3 text rfl rfl rfl (by decide) (by decide)
      (by decide) exchangeable
  refine ⟨requests, framed, ?_⟩
  intro server served client ran
  obtain ⟨⟨returned, received, _⟩, finished, _, shown, _, written⟩ :=
    agree (.text "peer") server client (Source.wellBehaved_octetByOctet _)
      (Source.octets_octetByOctet _) (Sink.tookAll_nil _) (Source.wellBehaved_octetByOctet _)
      (Source.octets_octetByOctet _) (Sink.tookAll_nil _)
  refine ⟨returned, finished, ?_, ?_, written⟩
  · rw [show printed served.trace = _ from received]
    decide +kernel
  · rw [show printed ran.trace = _ from shown]
    decide +kernel

end Echo

end RecordMarking
