import CallSig.Command.Run
import CallSig.Proofs.Parse.Taken

/-!
# What the log says of a reading

An argument is logged where it is recorded, and that is before the group that it
stands in makes it optional. The arguments of a group become optional and join
those of the list around it afterwards, while their events stay as they are.

So the logged arguments are the arguments of the reading without their optional
flags (`readList_logs`), however the reading ends: `traceMessages_parseEvents`
says so for the messages of a whole signature.
-/

namespace CallSig

namespace Parse

/-- The argument that is recorded in the event. -/
def Event.argument? : Event → Option Argument
  | .parsed arg => some arg
  | .abandoned _ => none

/-- The argument without its optional flag. -/
def unmarked (arg : Argument) : Argument :=
  { arg with optional := false }

/-- The logged arguments are the arguments as they were before any group made
them optional. -/
def Reading.Logs (reading : Reading) : Prop :=
  reading.events.filterMap Event.argument? = reading.args.map unmarked

variable {first second reading : Reading} {arg : Argument}

theorem Reading.logs_empty : Reading.empty.Logs := rfl

theorem Reading.logs_abandoned (why : Abandonment) : (Reading.abandoned why).Logs := rfl

/-- An argument that is read is logged, and no group has made it optional yet. -/
theorem Reading.logs_single (required : arg.optional = false) : (Reading.single arg).Logs := by
  have same : unmarked arg = arg := by
    rcases arg with ⟨name, type, default, optional⟩
    cases required
    rfl
  rw [Logs, args_single, List.map_singleton, same]
  rfl

theorem Reading.Logs.append (before : first.Logs) (behind : second.Logs) :
    (first ++ second).Logs := by
  rw [Logs, events_append, List.filterMap_append, args_append, List.map_append, before, behind]

/-- Making arguments optional shows neither in the events nor in the arguments
without their flags. -/
theorem Reading.Logs.asOptional (logs : reading.Logs) : reading.asOptional.Logs := by
  have sameArgs : (reading.args.map (·.asOptional)).map unmarked = reading.args.map unmarked := by
    rw [List.map_map]
    rfl
  rw [Logs, args_asOptional, sameArgs]
  exact logs

/-- The arguments that are read of a list are logged one for one, in their order. -/
theorem readList_logs (depth : Nat) (previous : Option Argument) (body : List Char) :
    (readList depth previous body).Logs := by
  fun_induction readList depth previous body with
  | case1 depth previous body finished => exact Reading.logs_empty
  | case2 depth previous body why abandoned => exact Reading.logs_abandoned why
  | case3 depth previous body rest skipped ih => exact ih
  | case4 depth previous body inner rest expanded group ihInner ihRest =>
    exact ihInner.asOptional.append ihRest
  | case5 depth previous body arg turn => exact Reading.logs_single (required_of_nextTurn turn)
  | case6 depth previous body arg why turn =>
    exact (Reading.logs_abandoned why).append (Reading.logs_single (required_of_nextTurn turn))
  | case7 depth previous body arg rest turn ih =>
    exact (Reading.logs_single (required_of_nextTurn turn)).append ih

/-- The arguments of a signature are logged one for one. -/
theorem readSignature_logs (text : List Char) : (readSignature text).Logs := by
  unfold readSignature
  split
  · exact readList_logs 0 none _
  · split
    · exact Reading.logs_empty
    · exact Reading.logs_abandoned _

end Parse

/-- The messages of the records of one level, in their order. -/
def Log.messagesAt (level : Log.Level) (records : List Log.Record) : List String :=
  (records.filter fun record => record.level = level).map (·.message)

/-- The records of level `trace` are those of the recorded arguments. -/
theorem Parse.messagesAt_trace (events : List Event) :
    Log.messagesAt .trace (events.map Command.recordOf) =
      (events.filterMap Event.argument?).map fun arg => "parsed argument " ++ arg.render := by
  induction events with
  | nil => rfl
  | cons event events ih =>
    rw [Log.messagesAt] at ih ⊢
    cases event with
    | parsed arg => simp [Command.recordOf, Event.argument?, Event.message, ih]
    | abandoned why =>
      rw [List.filterMap_cons_none rfl]
      simpa [Command.recordOf] using ih

/-- The log has one message of level `trace` for each argument of the signature,
in the same order, which shows the argument without its optional flag. -/
theorem traceMessages_parseEvents (text : String) :
    Log.messagesAt .trace ((parseEvents text).map Command.recordOf) =
      (parseArguments text).map fun arg =>
        "parsed argument " ++ ({ arg with optional := false } : Argument).render := by
  have logs := Parse.readSignature_logs text.toList
  calc Log.messagesAt .trace ((parseEvents text).map Command.recordOf)
      = ((parseEvents text).filterMap Parse.Event.argument?).map
          (fun arg => "parsed argument " ++ arg.render) := Parse.messagesAt_trace _
    _ = ((parseArguments text).map Parse.unmarked).map
          (fun arg => "parsed argument " ++ arg.render) := by rw [parseEvents, logs]; rfl
    _ = _ := by rw [List.map_map]; rfl

example : Log.messagesAt .trace ((parseEvents "(a[, b=[1][, c'd], e], f: 'x)").map
    Command.recordOf) =
      ["parsed argument a", "parsed argument b = [1]", "parsed argument e",
        "parsed argument f"] := by
  decide +kernel

end CallSig
