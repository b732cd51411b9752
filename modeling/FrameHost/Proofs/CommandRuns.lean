import FrameHost.Proofs.Addressing
import FrameHost.Proofs.CallEvents
import FrameHost.Proofs.CommandTables

/-!
# What an application can make its frame run

The commands of a frame change by registrations only, so at any time of a run they are those of the
library after the attempts that were made for this frame (`commandsOf_after`). A message that calls
a command runs the host code of the first attempt that was not refused, and nothing at all if there
is none under exactly this name; under a name of the library it does what the library does, which
may call the handlers of two events (`first_command_wins`).
-/

namespace FrameHost

open Json (Value)

namespace Host

variable {h h' : Host} {f g : FrameRef} {frame frame' : Frame} {m : Move} {data given : Value}
  {name : String}

/-! ## The commands of a frame -/

/-- The commands of a frame. From the start they are those of the library. -/
def commandsOf (h : Host) (f : FrameRef) : Commands :=
  ((h.frame? f).map Frame.commands).getD Commands.builtin

/-- The commands of a frame are those its state holds. -/
theorem commandsOf_of_frame? (hf : h.frame? f = some frame) : h.commandsOf f = frame.commands := by
  unfold commandsOf
  rw [hf]
  rfl

/-- Frames that stay the same have the same commands. -/
theorem commandsOf_of_frames (hframes : h'.frames = h.frames) (f : FrameRef) :
    h'.commandsOf f = h.commandsOf f := by
  unfold commandsOf frame?
  rw [hframes]

/-- A frame that is added has the commands of the library. -/
theorem commandsOf_of_added {added : Frame} (hframes : h'.frames = h.frames ++ [added])
    (hadded : added.commands = Commands.builtin) (f : FrameRef) :
    h'.commandsOf f = h.commandsOf f := by
  unfold commandsOf frame?
  rw [hframes, List.getElem?_append]
  split
  · rfl
  · next hle =>
    rw [List.getElem?_eq_none (Nat.le_of_not_lt hle), List.getElem?_singleton]
    split
    · exact hadded
    · rfl

/-- Setting a frame whose commands stay keeps everybody's commands. -/
theorem commandsOf_of_sets (hf : h.frame? g = some frame) (hs : h.Sets h' g frame')
    (hcommands : frame'.commands = frame.commands) (f : FrameRef) :
    h'.commandsOf f = h.commandsOf f := by
  by_cases heq : f = g
  · subst heq
    rw [commandsOf_of_frame? hs.frame?, commandsOf_of_frame? hf, hcommands]
  · unfold commandsOf
    rw [hs.frame?_of_ne heq]

/-- Enrolling a frame under an ID touches no commands. -/
theorem commandsOf_enroll (frameId : String) (f : FrameRef) :
    (h.registered frameId).1.commandsOf f = h.commandsOf f := by
  unfold registered
  split
  · rfl
  · exact commandsOf_of_added rfl rfl f

/-- A mount touches no commands. -/
theorem commandsOf_mount (g : FrameRef) (config : Config) (f : FrameRef) :
    (h.mount g config).1.commandsOf f = h.commandsOf f := by
  cases hg : h.frame? g with
  | none => rw [mount_of_none hg]
  | some frame =>
    rcases mount_cases hg config with ⟨-, -, hs, -⟩ | ⟨place, nodes, -, -, hplaced⟩
    · exact commandsOf_of_sets hg hs rfl f
    · obtain ⟨check, hs⟩ := hplaced.frames
      exact commandsOf_of_sets hg hs rfl f

/-- Destroying a frame touches no commands. -/
theorem commandsOf_destroy (g f : FrameRef) : (h.destroy g).commandsOf f = h.commandsOf f := by
  cases hg : h.frame? g with
  | none => rw [destroy_of_none hg]
  | some frame =>
    rcases destroy_cases hg with ⟨-, hsame⟩ | ⟨-, hs, -⟩
    · rw [hsame]
    · exact commandsOf_of_sets hg hs rfl f

/-- Showing the content touches no commands. -/
theorem commandsOf_showContent (g f : FrameRef) :
    (h.showContent g).1.commandsOf f = h.commandsOf f := by
  cases hg : h.frame? g with
  | none => rw [showContent_of_none hg]
  | some frame =>
    rcases showContent_cases hg with hsame | ⟨nodes, -, -, hs, -⟩
    · rw [hsame]
    · exact commandsOf_of_sets hg hs rfl f

/-- A call touches no commands. -/
theorem commandsOf_execute (g : FrameRef) (task : Task) (responder : Responder) (f : FrameRef) :
    ((h.execute (.frame g) task responder).toOption.getD h).commandsOf f = h.commandsOf f := by
  cases hg : h.frame? g with
  | none =>
    rw [execute_of_none hg]
    rfl
  | some frame =>
    rcases execute_cases hg task responder with ⟨e, hx, -⟩ | ⟨bus, posted, h', hx, -, hs, -⟩
    · rw [hx]
      rfl
    · rw [hx]
      exact commandsOf_of_sets hg hs rfl f

/-- An answer touches no commands. -/
theorem commandsOf_reply (g : FrameRef) (data : Option Value) (f : FrameRef) :
    (h.reply (.frame g) data).1.commandsOf f = h.commandsOf f := by
  cases hg : h.frame? g with
  | none => rw [reply_of_none hg]
  | some frame => exact commandsOf_of_sets hg (reply_cases hg data).1 rfl f

/-- Posting a deferred task touches no commands. -/
theorem commandsOf_postNext (g f : FrameRef) :
    (h.postNext (.frame g)).commandsOf f = h.commandsOf f := by
  cases hg : h.frame? g with
  | none => rw [postNext_of_none hg]
  | some frame => exact commandsOf_of_sets hg (postNext_cases hg).1 rfl f

/-- Connecting touches no commands. -/
theorem commandsOf_connect (g : FrameRef) (generation : ℕ) (f : FrameRef) :
    (h.connect g generation).1.commandsOf f = h.commandsOf f := by
  cases hg : h.frame? g with
  | none => rw [connect_of_none hg]
  | some frame =>
    rcases connect_cases hg generation with ⟨-, hsame⟩ | ⟨-, phase, -, hs, -⟩
    · rw [hsame]
    · exact commandsOf_of_sets hg hs rfl f

/-- Retiring the loader touches no commands. -/
theorem commandsOf_retire (g : FrameRef) (generation : ℕ) (loader : NodeId) (f : FrameRef) :
    (h.retireLoader g generation loader).1.commandsOf f = h.commandsOf f := by
  cases hg : h.frame? g with
  | none => rw [retireLoader_of_none hg]
  | some frame =>
    rcases retireLoader_cases hg generation loader with ⟨-, hsame⟩ | ⟨-, hs, -⟩
    · rw [hsame]
    · exact commandsOf_of_sets hg hs rfl f

/-- Only a registration changes the commands of a frame. -/
theorem commandsOf_move (hm : ∀ g name cb, m ≠ .registerCommand g name cb) (f : FrameRef) :
    (h.move m).commandsOf f = h.commandsOf f := by
  -- What belongs to no frame keeps all of them, and of the rest only a registration adds commands.
  by_cases hframeless : m.isFrameless = true
  · exact commandsOf_of_frames (frames_move hframeless) f
  cases m with
  | newFrame checks => exact commandsOf_of_added rfl rfl f
  | enroll frameId => exact commandsOf_enroll frameId f
  | mount g config => exact commandsOf_mount g config f
  | destroy g => exact commandsOf_destroy g f
  | showContent g => exact commandsOf_showContent g f
  | patch g config =>
    cases hg : h.frame? g with
    | none => exact commandsOf_of_frames (frames_modifyFrame_of_none hg _) f
    | some frame => exact commandsOf_of_sets hg (sets_modifyFrame hg _) rfl f
  | registerCommand g name cb => exact absurd rfl (hm g name cb)
  | connect g generation => exact commandsOf_connect g generation f
  | retire g generation loader => exact commandsOf_retire g generation loader f
  | execute r task responder =>
    cases r with
    | bare => exact absurd rfl hframeless
    | frame g => exact commandsOf_execute g task responder f
  | reply r data =>
    cases r with
    | bare => exact absurd rfl hframeless
    | frame g => exact commandsOf_reply g data f
  | postNext r =>
    cases r with
    | bare => exact absurd rfl hframeless
    | frame g => exact commandsOf_postNext g f
  | _ => exact absurd rfl hframeless

/-- A registration is an attempt on the commands of its frame, if there is this frame. -/
theorem commandsOf_registerCommand (g : FrameRef) (name : String) (cb : Callback) (f : FrameRef) :
    (h.move (.registerCommand g name cb)).commandsOf f =
      if g = f ∧ (h.frame? f).isSome then (h.commandsOf f).attempt ⟨name, cb⟩
      else h.commandsOf f := by
  show ((h.registerCommand g name cb).toOption.getD h).commandsOf f = _
  unfold registerCommand
  cases hg : h.frame? g with
  | none =>
    rw [if_neg]
    · rfl
    · rintro ⟨rfl, hsome⟩
      rw [hg] at hsome
      cases hsome
  | some frame =>
    dsimp only
    cases hr : frame.commands.register name cb with
    | error e =>
      -- A refused registration is an attempt that changes nothing.
      have hsame : (h.commandsOf g).attempt ⟨name, cb⟩ = h.commandsOf g :=
        Commands.attempt_of_error (a := ⟨name, cb⟩) (commandsOf_of_frame? hg ▸ hr)
      show h.commandsOf f = _
      split
      · next heq => rw [← heq.1, hsame]
      · rfl
    | ok commands =>
      have hattempt : (h.commandsOf g).attempt ⟨name, cb⟩ = commands :=
        Commands.attempt_of_ok (a := ⟨name, cb⟩) (commandsOf_of_frame? hg ▸ hr)
      have hs := sets_modifyFrame hg fun frame => { frame with commands }
      show (h.modifyFrame g fun frame => { frame with commands }).commandsOf f = _
      by_cases heq : g = f
      · subst heq
        rw [if_pos ⟨rfl, by rw [hg]; rfl⟩, hattempt]
        exact commandsOf_of_frame? hs.frame?
      · rw [if_neg fun h => heq h.1]
        unfold commandsOf
        rw [hs.frame?_of_ne (Ne.symm heq)]

/-! ## Messages that call a command -/

/-- The data is the text of a message that calls the command `name` of a frame, with the data
`given`. -/
def CallsCommand (h : Host) (f : FrameRef) (data : Value) (name : String) (given : Value) : Prop :=
  ∃ frame text, h.frame? f = some frame ∧ data = .string text ∧
    (Inbound.decode text).frameId = frame.frameId ∧ (Inbound.decode text).kind = .callCommand ∧
    (Inbound.decode text).commandName.getD "" = name ∧ orNull (Inbound.decode text).commandData = given

/-- A message that calls a command is handled by running it. -/
theorem handle_of_callsCommand (hc : h.CallsCommand f data name given) :
    h.handle f data = h.runCommand f name given := by
  obtain ⟨frame, text, hf, rfl, hid, hkind, rfl, rfl⟩ := hc
  exact handle_of_command hf rfl hid hkind

/-- Running a command does what its entry in the table says, with nothing where there is none. -/
theorem CallsCommand.runCommand_eq (hc : h.CallsCommand f data name given) :
    h.runCommand f name given =
      match (h.commandsOf f).get? name with
      | none => (h, [])
      | some .showContent => h.showContent f
      | some .destroy => (h.destroy f, [])
      | some (.host cb) => (h, [.invoke cb given])
      | some .configure =>
        match Config.ofValue given with
        | .error e => (h, h.report f e)
        | .ok patch => ((h.configure f patch).1, (h.configure f patch).2.2) := by
  obtain ⟨frame, -, hf, -⟩ := hc
  unfold runCommand
  rw [hf, commandsOf_of_frame? hf]
  rfl

/-- Something left to be done is the call of a handler that the frame has for the end of its loading
or for errors. -/
def TellsHandler (h : Host) (f : FrameRef) (x : Followup) : Prop :=
  ∃ event v, (event = Event.contentReady ∨ event = Event.appError) ∧ x ∈ h.emit f event v

/-- Showing the content calls no handler but the frame's own. -/
theorem tellsHandler_showContent : ∀ x ∈ (h.showContent f).2, (h.showContent f).1.TellsHandler f x := by
  intro x hx
  unfold showContent at hx ⊢
  split at hx
  · cases hx
  · split at hx
    · cases hx
    · dsimp only at hx ⊢
      split at hx
      · cases hx
      · exact ⟨_, _, .inl rfl, hx⟩

/-- A report calls no handler but the frame's own. -/
theorem tellsHandler_report {e : Error} : ∀ x ∈ h.report f e, h.TellsHandler f x :=
  fun _ hx => ⟨_, _, .inr rfl, hx⟩

/-- A call tells nobody but the frame's own handler. -/
theorem tellsHandler_call (m : Method) : ∀ x ∈ (h.call f m).2.2, (h.call f m).1.TellsHandler f x := by
  intro x hx
  rw [call_eq] at hx ⊢
  split at hx
  · cases hx
  · exact tellsHandler_report x hx

/-- Configuring a frame tells nobody but the frame's own handler. -/
theorem tellsHandler_configure (patch : Config) :
    ∀ x ∈ (h.configure f patch).2.2, (h.configure f patch).1.TellsHandler f x := by
  intro x hx
  unfold configure at hx ⊢
  split at hx
  · cases hx
  · split at hx
    · cases hx
    · next hreload =>
      rw [if_neg hreload]
      exact tellsHandler_call _ x hx

/-- What a command of the library leaves to be done is the call of a handler for the end of the
loading or for errors. -/
theorem tellsHandler_runCommand (hc : h.CallsCommand f data name given)
    (hcommand : ∀ cb, (h.commandsOf f).get? name ≠ some (.host cb)) :
    ∀ x ∈ (h.runCommand f name given).2, (h.runCommand f name given).1.TellsHandler f x := by
  rw [hc.runCommand_eq]
  split
  · exact fun x hx => absurd hx List.not_mem_nil
  · exact tellsHandler_showContent
  · exact fun x hx => absurd hx List.not_mem_nil
  · next cb hget => exact absurd hget (hcommand cb)
  · split
    · exact tellsHandler_report
    · exact tellsHandler_configure _

end Host

namespace Session

open Host (Reaches)

variable {s : Session} {f : FrameRef} {name : String} {data given : Value} {job : Job} {jobs : List Job}

/-! ## The attempts of a run -/

/-- The attempt of the next job to register a command for a frame that is there, if it is one. -/
def attempts (s : Session) (f : FrameRef) : List Commands.Attempt :=
  match s.agenda with
  | .act _ (.frame (.registerCommand name command cb)) :: _ =>
    if s.frames.get? name = some f ∧ (s.host.frame? f).isSome then [⟨command, cb⟩] else []
  | _ => []

/-- The attempts to register commands for a frame before the time `i` of a run, in their order. -/
def attemptsBefore (run : ℕ → Session) (f : FrameRef) (i : ℕ) : List Commands.Attempt :=
  (List.range i).flatMap fun j => (run j).attempts f

/-- A job that registers a command is a move of the frame that its name stands for. -/
theorem step_registerCommand {nested : Bool} {command : String} {cb : Callback}
    (hagenda : s.agenda = .act nested (.frame (.registerCommand name command cb)) :: jobs) :
    s.step.host =
      match s.frames.get? name with
      | none => s.host
      | some g => s.host.move (.registerCommand g command cb) := by
  rw [step_cons hagenda]
  show (onFrame { s with agenda := jobs } name _).host = _
  unfold onFrame
  show Session.host (match s.frames.get? name with | none => _ | some f => _) = _
  cases s.frames.get? name with
  | none => rfl
  | some g =>
    show _ = (s.host.registerCommand g command cb).toOption.getD s.host
    dsimp only
    cases s.host.registerCommand g command cb <;> rfl

/-- A step makes the attempt that the next job is, and changes no commands otherwise. -/
theorem commandsOf_step (s : Session) (f : FrameRef) :
    s.step.host.commandsOf f = (s.host.commandsOf f).attempted (s.attempts f) := by
  cases hagenda : s.agenda with
  | nil =>
    unfold attempts
    rw [step_nil hagenda, hagenda]
    rfl
  | cons job jobs =>
    by_cases hjob : ∃ nested name command cb,
        job = .act nested (.frame (.registerCommand name command cb))
    · obtain ⟨nested, name, command, cb, rfl⟩ := hjob
      unfold attempts
      rw [step_registerCommand hagenda, hagenda]
      dsimp only
      cases s.frames.get? name with
      | none => rfl
      | some g =>
        dsimp only
        rw [Host.commandsOf_registerCommand]
        by_cases hthere : g = f ∧ (s.host.frame? f).isSome
        · rw [if_pos hthere, if_pos ⟨congrArg some hthere.1, hthere.2⟩]
          rfl
        · rw [if_neg hthere, if_neg fun h => hthere ⟨Option.some.inj h.1, h.2⟩]
          rfl
    · -- Any other step attempts nothing, and its moves keep the commands.
      have hnone : s.attempts f = [] := by
        unfold attempts
        rw [hagenda]
        split
        · next heq =>
          cases heq
          exact absurd ⟨_, _, _, _, rfl⟩ hjob
        · rfl
      rw [hnone]
      refine (step_reaches hagenda).preserves (P := fun h => h.commandsOf f = s.host.commandsOf f)
        (fun h m hm hP => ?_) rfl
      rw [Host.commandsOf_move (fun g command cb heq => ?_) f, hP]
      rw [heq] at hm
      obtain ⟨nested, name, rfl⟩ := hm
      exact hjob ⟨nested, name, command, cb, rfl⟩

/-- The commands of a frame are those of the library after the attempts that were made for it. -/
theorem commandsOf_after (hs : s.host.commandsOf f = Commands.builtin) (as : List Action) (i : ℕ) :
    (s.after as i).host.commandsOf f =
      Commands.builtin.attempted (attemptsBefore (s.after as) f i) := by
  induction i with
  | zero => exact hs
  | succ i ih =>
    -- The attempts of the next step come after those before it.
    have hbefore : attemptsBefore (s.after as) f (i + 1) =
        attemptsBefore (s.after as) f i ++ (s.after as i).attempts f := by
      unfold attemptsBefore
      rw [List.range_succ, List.flatMap_append, List.flatMap_singleton]
    rw [hbefore, Commands.attempted_append, ← ih]
    rcases after_succ s as i with ⟨-, hstep⟩ | ⟨a, -, hempty, hbegin⟩ | ⟨hempty, hsame⟩
    · rw [hstep]
      exact commandsOf_step _ f
    all_goals
      -- An idle state attempts nothing.
      have hnone : (s.after as i).attempts f = [] := by
        unfold attempts
        rw [hempty]
      rw [hnone]
    · rw [hbegin]
      rfl
    · rw [hsame]
      rfl

/-- The commands of a frame are a closed table in which the first registration wins. After any
attempts to register commands, one more succeeds exactly if its name is not blank and not taken, and
changes nothing if it fails; the names of the library stand for what they stood for, any other name
for the host code of the first attempt under it that was not refused, which is the first one at all
unless the name is blank; and the names are listed in order, each once. At any time of a run the
commands of a frame are those after the attempts that were made for this frame until then. So a
message that calls a command leaves nothing to be done but the call of this host code, or nothing at
all, and the host as it is, unless the name is one of the library. Then the frame shows its content,
is configured or is torn down, and of the host's own code only its handlers for the end of the
loading and for errors are called. -/
theorem first_command_wins (origin : String) (allowList : Option AllowList) (defaults : Config)
    (runtime : Bool) (scripts : List (List Action)) (as : List Action) :
    Commands.builtin.entries =
      [("setIsLoaded", .showContent), ("setConfig", .configure), ("destroyFrame", .destroy)] ∧
    (∀ attempts name cb,
      let cs := Commands.builtin.attempted attempts
      ((∃ cs', cs.register name cb = .ok cs') ↔
        Text.trim name.toList ≠ [] ∧ cs.get? name = none) ∧
      ((∃ e, cs.register name cb = .error e) →
        Commands.builtin.attempted (attempts ++ [⟨name, cb⟩]) = cs) ∧
      cs.get? name = (if name ∈ Commands.builtin.keys then Commands.builtin.get? name
        else (Commands.first? (Commands.builtin.accepted attempts) name).map fun a => .host a.cb) ∧
      (name ∉ Commands.builtin.keys → Commands.first? (Commands.builtin.accepted attempts) name =
        if Text.trim name.toList = [] then none else Commands.first? attempts name) ∧
      cs.names.Pairwise (· < ·) ∧ (name ∈ cs.names ↔ (cs.get? name).isSome)) ∧
    ∀ i f,
      let run := (start origin allowList defaults runtime scripts).after as
      let t := run i
      t.host.commandsOf f = Commands.builtin.attempted (attemptsBefore run f i) ∧
      ∀ data name given, t.op? = some (f, .handle data) → t.host.CallsCommand f data name given →
        ∃ followups rest, (∀ x ∈ rest, x = Job.reply .done) ∧
          t.step.agenda = followups.map .follow ++ .hold f :: (rest ++ t.agenda.tail) ∧
          (name ∉ Commands.builtin.keys → t.step.host = t.host ∧ followups =
            ((Commands.first? (Commands.builtin.accepted (attemptsBefore run f i)) name).map fun a =>
              .invoke a.cb given).toList) ∧
          (name ∈ Commands.builtin.keys → ∀ x ∈ followups, t.step.host.TellsHandler f x) ∧
          (name = "setIsLoaded" → (t.step.host, followups) = t.host.showContent f) ∧
          (name = "setConfig" → (t.step.host, followups) =
            match Config.ofValue given with
            | .error e => (t.host, t.host.report f e)
            | .ok patch => ((t.host.configure f patch).1, (t.host.configure f patch).2.2)) ∧
          (name = "destroyFrame" → (t.step.host, followups) = (t.host.destroy f, [])) := by
  refine ⟨Commands.entries_builtin, fun attempts name cb => ⟨?_, ?_, ?_, ?_, ?_, ?_⟩, fun i f => ?_⟩
  · exact ⟨fun ⟨cs', hr⟩ => ⟨(Commands.register_eq_ok_iff.mp hr).1,
      (Commands.register_eq_ok_iff.mp hr).2.1⟩,
      fun ⟨hblank, hfree⟩ => ⟨_, Commands.register_eq_ok_iff.mpr ⟨hblank, hfree, rfl⟩⟩⟩
  · rintro ⟨e, hr⟩
    rw [Commands.attempted_append]
    exact Commands.attempt_of_error (a := ⟨name, cb⟩) hr
  · exact Commands.get?_builtin_attempted attempts name
  · intro hname
    have hnot : ¬ (Commands.builtin.get? name).isSome := fun h => hname (Table.isSome_get?_iff.mp h)
    rw [Commands.find?_accepted]
    exact if_congr (or_iff_left hnot) rfl rfl
  · exact Commands.pairwise_names _
  · exact Commands.mem_names
  · intro run t
    have hcommands : t.host.commandsOf f = Commands.builtin.attempted (attemptsBefore run f i) :=
      commandsOf_after rfl as i
    refine ⟨hcommands, fun data name given hop hcalls => ?_⟩
    obtain ⟨rest, hrest, hagenda⟩ := step_leaves hop trivial
    -- The step handles the message by running the command it names.
    have hstep : (t.step.host, (t.host.handle f data).2) = t.host.runCommand f name given := by
      rw [step_operate hop, ← Host.handle_of_callsCommand hcalls]
      rfl
    have hcommand := hcommands ▸ Commands.get?_builtin_attempted (attemptsBefore run f i) name
    refine ⟨_, rest, hrest, hagenda, fun hname => ?_, fun hname => ?_, ?_, ?_, ?_⟩
    · rw [if_neg hname] at hcommand
      rw [hcalls.runCommand_eq, hcommand] at hstep
      cases hfirst : Commands.first? (Commands.builtin.accepted (attemptsBefore run f i)) name with
      | none =>
        rw [hfirst] at hstep
        exact Prod.mk.inj hstep
      | some a =>
        rw [hfirst] at hstep
        exact Prod.mk.inj hstep
    · rw [if_pos hname] at hcommand
      -- A built-in command tells nobody but the frame's own handler.
      have htells := Host.tellsHandler_runCommand hcalls fun cb hget =>
        Commands.get?_builtin_ne_host name cb (hcommand.symm.trans hget)
      rwa [← hstep] at htells
    all_goals
      rintro rfl
      rw [hcalls.runCommand_eq, hcommand] at hstep
      exact hstep

/-- The application calls the command `refresh` of the frame `f`. -/
def refreshCall : Value :=
  .object [("frameId", .string "f"), ("type", .string "onCallCommand"),
    ("commandName", .string "refresh"), ("commandData", .int 5)]

/-- A frame is mounted, commands are registered for it under a blank name, twice under one name and
under a name of the library, and then a command is called. -/
def registering : List Action :=
  [.page (.insert "f" "slot"), .frame (.openFrame "A" none (.ok (slotted "f"))),
    .frame (.registerCommand "A" " " ⟨"blank", false, 0⟩),
    .frame (.registerCommand "A" "refresh" ⟨"first", false, 0⟩),
    .frame (.registerCommand "A" "refresh" ⟨"second", false, 0⟩),
    .frame (.registerCommand "A" "setConfig" ⟨"builtin", false, 0⟩),
    .frame (.handle "A" (.string refreshCall.text))]

/-- Of the two pieces of host code that were to have the name, the message calls the first one. -/
theorem first_command_wins_refresh :
    let run := (start "https://host.example.com" none Config.empty false []).after registering
    (run 13).op? = some (0, .handle (.string refreshCall.text)) ∧
      (run 13).host.CallsCommand 0 (.string refreshCall.text) "refresh" (.int 5) ∧
      (attemptsBefore run 0 13).map Commands.Attempt.name =
        [" ", "refresh", "refresh", "setConfig"] ∧
      ∃ rest, (run 13).step.host = (run 13).host ∧
        (run 13).step.agenda = .follow (.invoke ⟨"first", false, 0⟩ (.int 5)) :: .hold 0 :: rest := by
  intro run
  -- The blank name and the built-in one are refused, as is the second under `refresh`.
  have hattempts : attemptsBefore run 0 13 = [⟨" ", ⟨"blank", false, 0⟩⟩,
      ⟨"refresh", ⟨"first", false, 0⟩⟩, ⟨"refresh", ⟨"second", false, 0⟩⟩,
      ⟨"setConfig", ⟨"builtin", false, 0⟩⟩] := by decide +kernel
  have hframe : ((run 13).host.frame? 0).map Frame.frameId = some "f" := by decide +kernel
  obtain ⟨frame, hf, hid⟩ := Option.map_eq_some_iff.mp hframe
  have hop : (run 13).op? = some (0, .handle (.string refreshCall.text)) := rfl
  have hto : (Inbound.decode refreshCall.text).frameId = "f" := by decide +kernel
  have hkind : (Inbound.decode refreshCall.text).kind = .callCommand := by rfl
  have hname : (Inbound.decode refreshCall.text).commandName.getD "" = "refresh" := by decide +kernel
  have hgiven : orNull (Inbound.decode refreshCall.text).commandData = .int 5 := by rfl
  have hcalls : (run 13).host.CallsCommand 0 (.string refreshCall.text) "refresh" (.int 5) :=
    ⟨frame, _, hf, rfl, hto.trans hid.symm, hkind, hname, hgiven⟩
  obtain ⟨-, -, hruns⟩ := first_command_wins "https://host.example.com" none Config.empty false []
    registering
  obtain ⟨-, hhandled⟩ := hruns 13 0
  obtain ⟨followups, rest, -, hagenda, hhost, -⟩ := hhandled _ _ _ hop hcalls
  obtain ⟨hsame, hfollowups⟩ := hhost (by decide)
  have hfirst : Commands.first? (Commands.builtin.accepted (attemptsBefore run 0 13)) "refresh" =
      some ⟨"refresh", ⟨"first", false, 0⟩⟩ := by
    rw [hattempts]
    decide +kernel
  rw [hfollowups, hfirst] at hagenda
  exact ⟨hop, hcalls, congrArg _ hattempts, _, hsame, hagenda⟩

end Session

end FrameHost
