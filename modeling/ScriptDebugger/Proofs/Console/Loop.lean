import ScriptDebugger.CommandLine.Run
import ScriptDebugger.Proofs.Session.Resuming

/-!
# The loop at the prompt

The console takes typed lines, notices and lines of the output in whatever order they are ready, until
it quits.  Meanwhile the worker of its session takes turns and the script goes on.  The transcript of
the program is that of one such loop: the one that takes all that is ready before the next line.
-/

namespace ScriptDebugger

/-! ## Sessions between two lines -/

namespace Session

variable {script : List String} {held : Bool} {session changed : Session Interpreter}

theorem Coherent.congr
    (coherent : session.Coherent script held) (queue : changed.queue = session.queue)
    (state : changed.state = session.state) :
    changed.Coherent script held := by
  obtain ⟨script, held, paused, serving⟩ := coherent
  constructor <;> simpa only [queue, state]

/-- A session that nothing happens to until the next request: its worker has nothing to deliver, and its
script was not asked to go on. -/
structure Steady (script : List String) (held : Bool) (session : Session Interpreter) : Prop where
  coherent : session.Coherent script held
  idle : session.Idle
  quiet : session.state.target.Quiet

theorem Steady.congr
    (steady : session.Steady script held) (queue : changed.queue = session.queue)
    (state : changed.state = session.state) :
    changed.Steady script held := by
  refine ⟨steady.coherent.congr queue state, ?_, ?_⟩
  · rw [Idle, queue]
    exact steady.idle
  · rw [state]
    exact steady.quiet

theorem Steady.settled (steady : session.Steady script held) : session.Settled := by
  refine ⟨?_, steady.quiet⟩
  rcases steady.idle with working | closed
  · rw [working]
    rfl
  · rw [closed]
    rfl

theorem Steady.settle (steady : session.Steady script held) : session.settle = session :=
  settle_of_quiet steady.idle steady.quiet

/-- A steady session is steady again when it has settled after a request. -/
theorem Steady.settle_submit (steady : session.Steady script held) (request : Request) :
    (session.submit request).settle.Steady script held := by
  rcases steady.idle with working | closed
  · obtain ⟨moved, signals, _, quiet, settles⟩ :=
      Session.settle_submit steady.coherent working request
    refine ⟨(steady.coherent.act (.submit request)).settle, settles.idle ?_, ?_⟩
    · split
      · exact .inr rfl
      · exact .inl rfl
    · rw [settles.target]
      exact quiet
  · -- A closed session ignores the request.
    have ignored : session.submit request = session := by
      rw [submit, closed]
      cases session
      cases closed
      rfl
    rwa [ignored, steady.settle]

end Session

/-! ## The loop at the prompt -/

namespace Console

/-- `console.Offers typed source` means that the console can take from a source when the lines `typed`
are still to be typed.  A line, or the end of the input, is taken when the session has settled.  The
notices offer their end once.  The output has no end as long as the console is there. -/
def Offers (console : Console) (typed : List String) : Source → Prop
  | .input line => console.session.Settled ∧ line = typed.head?
  | .notice =>
    console.session.unread ≠ [] ∨
      (console.session.isClosed = true ∧ console.noticesClosed = false)
  | .output => console.unshown ≠ []

/-- The lines to be typed when the console has taken from a source. -/
def Source.left (typed : List String) : Source → List String
  | .input _ => typed.tail
  | .notice | .output => typed

/-- `Loop console typed record ended` means that the console goes on until it quits and is `ended` then.
It takes from sources in any order, which with the texts printed for them are the `record`; and at any
time the worker of its session takes a turn, or the script goes on. -/
inductive Loop : Console → List String → List (Source × List String) → Console → Prop
  | works {console ended : Console} {typed : List String} {record : List (Source × List String)}
      (action : Session.Action) :
      action = .deliver ∨ action = .proceed →
      Loop { console with session := console.session.act action } typed record ended →
      Loop console typed record ended
  | takes {console ended : Console} {typed : List String} {record : List (Source × List String)}
      (source : Source) :
      console.Offers typed source →
      (console.take source).quits = false →
      Loop (console.take source).console (source.left typed) record ended →
      Loop console typed ((source, (console.take source).printed) :: record) ended
  | quits {console : Console} {typed : List String} (source : Source) :
      console.Offers typed source →
      (console.take source).quits = true →
      Loop console typed [(source, (console.take source).printed)] (console.take source).console

/-! ## Typed lines -/

/-- What a typed line does: it submits one request at most and shows nothing of the output. -/
structure Asks (console asked : Console) : Prop where
  shown : asked.shown = console.shown
  outputClosed : asked.outputClosed = console.outputClosed
  session : ∃ before : Session Interpreter,
    before.queue = console.session.queue ∧ before.state = console.session.state ∧
      (asked.session = before ∨ ∃ request, asked.session = before.submit request)

theorem execute_asks
    {console : Console} {command : Command} {turn : Turn}
    (executed : console.execute command = .ok turn) :
    console.Asks turn.console := by
  cases command with
  | nothing | quit | help | listBreakpoints | whereabouts =>
      obtain rfl := Except.ok.inj executed
      exact ⟨rfl, rfl, _, rfl, rfl, .inl rfl⟩
  | «continue» | stepOver | showVariables | setVariable | memory | terminate | disconnect =>
      obtain rfl := Except.ok.inj executed
      exact ⟨rfl, rfl, console.session, rfl, rfl, .inr ⟨_, rfl⟩⟩
  | evaluate expression =>
      obtain rfl := Except.ok.inj executed
      exact ⟨rfl, rfl, (console.session.newEvaluation expression).2, rfl, rfl, .inr ⟨_, rfl⟩⟩
  | addBreakpoint line =>
      rw [execute] at executed
      split at executed
      · obtain rfl := Except.ok.inj executed
        exact ⟨rfl, rfl,
          { console.session with requested := console.session.requested.insert line }, rfl, rfl,
          .inr ⟨_, rfl⟩⟩
      · cases executed
  | removeBreakpoint line =>
      obtain rfl := Except.ok.inj executed
      exact ⟨rfl, rfl,
        { console.session with requested := console.session.requested.erase line }, rfl, rfl,
        .inr ⟨_, rfl⟩⟩

theorem enter_asks (console : Console) (line : String) :
    console.Asks (console.enter line).console := by
  unfold enter
  split
  · exact ⟨rfl, rfl, _, rfl, rfl, .inl rfl⟩
  · split
    case h_1 turn executed => exact execute_asks executed
    case h_2 => exact ⟨rfl, rfl, _, rfl, rfl, .inl rfl⟩

theorem Asks.steady
    {script : List String} {held : Bool} {console asked : Console} (asks : console.Asks asked)
    (steady : console.session.Steady script held) :
    asked.settle.session.Steady script held := by
  obtain ⟨before, queue, state, same | ⟨request, submitted⟩⟩ := asks.session
  · have steadyNow := steady.congr queue state
    rw [settle, same, steadyNow.settle]
    exact steadyNow
  · rw [settle, submitted]
    exact (steady.congr queue state).settle_submit request

/-! ## The loop of the program -/

section Program

variable {console ended : Console} {typed : List String} {record : List (Source × List String)}

theorem Loop.of_delivers
    (count : Nat)
    (loop : Loop { console with session := console.session.acts (List.replicate count .deliver) }
      typed record ended) :
    Loop console typed record ended := by
  induction count generalizing console with
  | zero => exact loop
  | succ count inductionHypothesis =>
      rw [List.replicate_succ] at loop
      exact .works .deliver (.inl rfl) (inductionHypothesis loop)

/-- The loop may wait until the session has settled. -/
theorem Loop.of_settle (loop : Loop console.settle typed record ended) :
    Loop console typed record ended := by
  rw [settle, Session.settle, Session.drain_eq_acts console.session.drain.proceed] at loop
  have delivered : Loop { console with session := console.session.drain } typed record ended :=
    .works .proceed (.inr rfl) (.of_delivers _ loop)
  rw [Session.drain_eq_acts] at delivered
  exact .of_delivers _ delivered

/-- What is shown for each turn of a loop: the prompt, then what the turn printed. -/
def turnTexts (record : List (Source × List String)) : List String :=
  record.map fun entry => entry.2.foldl (fun shown line => shown ++ line ++ "\n") "> "

/-- `Continues reached typed quits later ended` means that the console quits when it has reached a state,
or that a loop goes on from there and shows `later`. -/
inductive Continues (reached : Console) (typed : List String) (quits : Bool) :
    List String → Console → Prop
  | quit : quits = true → Continues reached typed quits [] reached
  | goOn {record : List (Source × List String)} {ended : Console} :
      quits = false →
      Loop reached typed record ended →
      Continues reached typed quits (turnTexts record) ended

/-- The console offers sources other than the typed lines one after the other, until it quits. -/
def OffersAll (console : Console) : List Source → Prop
  | [] => True
  | source :: later =>
    (source = .notice ∨ source = .output) ∧ console.Offers [] source ∧
      ((console.take source).quits = false → (console.take source).console.OffersAll later)

theorem Offers.of_untyped
    {source : Source} (offers : console.Offers [] source)
    (untyped : source = .notice ∨ source = .output) :
    console.Offers typed source ∧ source.left typed = typed := by
  rcases untyped with rfl | rfl
  · exact ⟨offers, rfl⟩
  · exact ⟨offers, rfl⟩

theorem takeNotice_frame (console : Console) :
    console.takeNotice.console.session.queue = console.session.queue ∧
      console.takeNotice.console.session.state = console.session.state := by
  unfold takeNotice
  split
  · exact ⟨rfl, rfl⟩
  · exact ⟨rfl, rfl⟩

theorem takeOutput_session (console : Console) :
    console.takeOutput.console.session = console.session := by
  unfold takeOutput
  split
  · rfl
  · rfl

theorem takeAll_steady
    {script : List String} {held : Bool} {sources : List Source}
    (steady : console.session.Steady script held) (offered : console.OffersAll sources) :
    (console.takeAll sources).console.session.Steady script held := by
  induction sources generalizing console with
  | nil => exact steady
  | cons source later inductionHypothesis =>
      obtain ⟨untyped, _, goesOn⟩ := offered
      have steadyNow : (console.take source).console.session.Steady script held := by
        rcases untyped with rfl | rfl
        · exact steady.congr console.takeNotice_frame.1 console.takeNotice_frame.2
        · rw [take, takeOutput_session]
          exact steady
      cases quits : (console.take source).quits with
      | true =>
          simp only [takeAll, quits, if_true]
          exact steadyNow
      | false =>
          simp only [takeAll, quits]
          exact inductionHypothesis steadyNow (goesOn quits)

theorem Loop.of_takeAll
    {sources : List Source} {later : List String} (offered : console.OffersAll sources)
    (continues : Continues (console.takeAll sources).console typed (console.takeAll sources).quits
      later ended) :
    ∃ record, Loop console typed record ended ∧
      turnTexts record = (console.takeAll sources).texts ++ later := by
  induction sources generalizing console with
  | nil =>
      cases continues with
      | quit quits => cases quits
      | goOn _ loop => exact ⟨_, loop, rfl⟩
  | cons source rest inductionHypothesis =>
      obtain ⟨untyped, offers, goesOn⟩ := offered
      obtain ⟨offersNow, left⟩ := offers.of_untyped untyped
      cases quits : (console.take source).quits with
      | true =>
          simp only [takeAll, quits, if_true] at continues ⊢
          cases continues with
          | quit => exact ⟨_, .quits _ offersNow quits, rfl⟩
          | goOn goesOn => cases goesOn
      | false =>
          simp only [takeAll, quits, Bool.false_eq_true, if_false] at continues ⊢
          obtain ⟨record, loop, texts⟩ := inductionHypothesis (goesOn quits) continues
          refine ⟨_, .takes _ offersNow quits (left.symm ▸ loop), ?_⟩
          rw [turnTexts, List.map_cons, ← turnTexts, texts]
          rfl

theorem offersAll_notices (count : Nat) (unread : console.session.unread.length = count) :
    console.OffersAll (List.replicate count .notice ++
      if console.session.isClosed && !console.noticesClosed then [.notice] else []) := by
  induction count generalizing console with
  | zero =>
      split
      case isTrue ends =>
        have ended : console.session.isClosed = true ∧ console.noticesClosed = false := by
          simpa using ends
        exact ⟨.inl rfl, .inr ended, fun _ => trivial⟩
      case isFalse => trivial
  | succ count inductionHypothesis =>
      obtain ⟨notice, later, next⟩ := List.exists_cons_of_length_eq_add_one unread
      refine ⟨.inl rfl, .inl (by simp [next]), fun _ => ?_⟩
      have taken : (console.take .notice).console =
          { console with
            session := { console.session with received := console.session.received + 1 } } := by
        simp only [take, takeNotice, next]
      rw [taken]
      apply inductionHypothesis
      rw [Session.unread, List.length_drop] at unread ⊢
      change console.session.state.published.length - (console.session.received + 1) = count
      omega

theorem offersAll_ready (console : Console) : console.OffersAll console.ready := by
  unfold ready
  generalize many : console.unshown.length = count
  induction count generalizing console with
  | zero => exact offersAll_notices _ rfl
  | succ count inductionHypothesis =>
      obtain ⟨line, later, next⟩ := List.exists_cons_of_length_eq_add_one many
      refine ⟨.inr rfl, by simp [Offers, next], fun _ => ?_⟩
      have taken : (console.take .output).console =
          { console with shown := console.shown + 1 } := by
        simp only [take, takeOutput, nextOutput?_eq_head?, next, List.head?_cons]
      rw [taken]
      apply inductionHypothesis { console with shown := console.shown + 1 }
      rw [unshown] at many ⊢
      split at many
      · cases many
      case isFalse isOpen =>
        rw [if_neg isOpen, List.length_drop]
        rw [List.length_drop] at many
        change console.interpreter.output.toList.length - (console.shown + 1) = count
        omega

theorem showReady_steady
    {script : List String} {held : Bool} (steady : console.session.Steady script held) :
    console.showReady.console.session.Steady script held :=
  takeAll_steady steady console.offersAll_ready

theorem Loop.of_showReady
    {later : List String}
    (continues : Continues console.showReady.console typed console.showReady.quits later ended) :
    ∃ record, Loop console typed record ended ∧
      turnTexts record = console.showReady.texts ++ later :=
  Loop.of_takeAll console.offersAll_ready continues

theorem Loop.of_takeAndShow
    {line : Option String} {later : List String} (offers : console.Offers typed (.input line))
    (continues : Continues (console.takeAndShow (.input line)).console typed.tail
      (console.takeAndShow (.input line)).quits later ended) :
    ∃ record, Loop console typed record ended ∧
      turnTexts record = (console.takeAndShow (.input line)).texts ++ later := by
  cases quits : (console.take (.input line)).quits with
  | true =>
      simp only [takeAndShow, quits, if_true] at continues ⊢
      cases continues with
      | quit => exact ⟨_, .quits _ offers quits, rfl⟩
      | goOn goesOn => cases goesOn
  | false =>
      simp only [takeAndShow, quits, Bool.false_eq_true, if_false] at continues ⊢
      obtain ⟨record, loop, texts⟩ := Loop.of_showReady continues
      refine ⟨_, .takes _ offers quits loop.of_settle, ?_⟩
      rw [turnTexts, List.map_cons, ← turnTexts, texts]
      rfl

variable {script : List String} {held : Bool}

theorem takeAndShow_steady
    {line : Option String} (steady : console.session.Steady script held)
    (goesOn : (console.takeAndShow (.input line)).quits = false) :
    (console.takeAndShow (.input line)).console.session.Steady script held := by
  cases line with
  | none => simp [takeAndShow, take] at goesOn
  | some line =>
      cases quits : (console.enter line).quits with
      | true => simp [takeAndShow, take, quits] at goesOn
      | false =>
          have shows : (console.takeAndShow (.input (some line))).console =
              (console.enter line).console.settle.showReady.console := by
            simp [takeAndShow, take, quits]
          rw [shows]
          exact showReady_steady ((console.enter_asks line).steady steady)

/-- When lines are typed and the input ends, the console quits, and has gone through a loop. -/
theorem converse_loop (steady : console.session.Steady script held) (typed : List String) :
    ∃ texts ended record,
      console.converse ((typed.map some ++ [none]).map .input) = (texts, ended, true) ∧
        Loop console typed record ended ∧ turnTexts record = texts.flatten := by
  induction typed generalizing console with
  | nil =>
      exact ⟨[["> "]], console, [(.input none, [])], rfl, .quits _ ⟨steady.settled, rfl⟩ rfl, rfl⟩
  | cons line rest inductionHypothesis =>
      have offers : console.Offers (line :: rest) (.input (some line)) := ⟨steady.settled, rfl⟩
      rw [List.map_cons, List.cons_append, List.map_cons, converse]
      cases quits : (console.takeAndShow (.input (some line))).quits with
      | true =>
          obtain ⟨record, loop, texts⟩ := Loop.of_takeAndShow offers (.quit quits)
          refine ⟨_, _, record, if_pos rfl, loop, ?_⟩
          rw [texts, List.append_nil, List.flatten_singleton]
      | false =>
          obtain ⟨later, ended, record, conversed, loop, texts⟩ :=
            inductionHypothesis (takeAndShow_steady steady quits)
          obtain ⟨whole, loopNow, textsNow⟩ :=
            Loop.of_takeAndShow offers (.goOn quits loop)
          refine ⟨(console.takeAndShow (.input (some line))).texts :: later, ended, whole, ?_,
            loopNow, ?_⟩
          · rw [if_neg Bool.false_ne_true, conversed]
          · rw [textsNow, texts, List.flatten_cons]

/-- The transcript of the program, when lines are typed and the input ends, is that of a loop. -/
theorem transcript_loop (steady : console.session.Steady script held) (typed : List String) :
    ∃ record ended, Loop console typed record ended ∧
      console.transcript (typed.map some ++ [none]) =
        String.join (turnTexts record) ++ printLines (ended.finish.unshown.map outputLine) := by
  unfold transcript
  cases quits : console.showReady.quits with
  | true =>
      obtain ⟨record, loop, texts⟩ :=
        Loop.of_showReady (.quit quits : Continues _ typed _ _ _)
      refine ⟨record, _, loop, ?_⟩
      rw [texts]
      simp only [quits, if_true, List.flatten_nil]
  | false =>
      obtain ⟨later, ended, record, conversed, loop, texts⟩ :=
        converse_loop (showReady_steady steady) typed
      obtain ⟨whole, loopNow, textsNow⟩ := Loop.of_showReady (.goOn quits loop)
      refine ⟨whole, ended, loopNow, ?_⟩
      rw [textsNow, texts]
      simp only [quits, Bool.false_eq_true, if_false, if_true, conversed]

theorem create_steady (source : String) (breakpoints : List Nat) (stopOnEntry : Bool) :
    (create source breakpoints stopOnEntry).session.Steady (Text.lines source) stopOnEntry := by
  have coherent := Session.create_coherent source stopOnEntry breakpoints
  obtain ⟨queue, state⟩ := Session.create_eq (Interpreter.ofSource source stopOnEntry) breakpoints
  obtain ⟨begun, moved, signals, started, _, quiet, _, settles⟩ :=
    Session.settle_start coherent (.inl queue) (by rw [state]; rfl)
  have begunCoherent := coherent.act .start
  simp only [Session.act, started] at begunCoherent
  simp only [create, started]
  refine ⟨begunCoherent.settle, settles.idle ?_, ?_⟩
  · split
    · exact .inr rfl
    · exact .inl queue
  · rw [settles.target]
    exact quiet

end Program

end Console

end ScriptDebugger
