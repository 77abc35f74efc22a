/-
**What a run tells.**

A notice is printed on standard output or on standard error, or it is an event for the log. Its text
may have more than one line.

* `Notice.channel` and `Notice.text`: where a notice goes, and what it says;
* `Notice.sent`: the notices of one channel.
-/

import Retarget.Arguments.Help
import Retarget.Log.Event

namespace Retarget

/-- What a run tells. -/
inductive Notice where
  | log (event : Log.Event)
  /-- Why the command line leads to no run. -/
  | stopped (stop : Arguments.Stop)
  | ignoring (tokens : List String)
  | nothingFound
  | found (count : Nat)
  | finished (outcome : Outcome)
  | complete
  | tally (converted total unconverted : Nat)
  /-- Why the run fails. -/
  | failed (failure : Failure)

/-- Where a notice goes. -/
inductive Channel where
  | output
  | errors
  | log
  deriving DecidableEq, Repr

namespace Notice

def channel : Notice → Channel
  | .log _ => .log
  | .stopped stop => if stop.isFault then .errors else .output
  | .finished (.unconverted _) | .failed _ => .errors
  | _ => .output

/-- The notices that go to a channel. -/
def sent (channel : Channel) (notices : List Notice) : List Notice :=
  notices.filter (·.channel = channel)

@[simp] theorem sent_nil (channel : Channel) : sent channel [] = [] := rfl

@[simp] theorem sent_cons (channel : Channel) (notice : Notice) (rest : List Notice) :
    sent channel (notice :: rest) =
      if notice.channel = channel then notice :: sent channel rest else sent channel rest := by
  simp [sent, List.filter_cons]

@[simp] theorem sent_append (channel : Channel) (front back : List Notice) :
    sent channel (front ++ back) = sent channel front ++ sent channel back :=
  List.filter_append ..

/-- Events go to the log only. -/
theorem sent_events {channel : Channel} (printed : channel ≠ .log) (events : List Log.Event) :
    sent channel (events.map Notice.log) = [] := by
  rw [sent, List.filter_eq_nil_iff]
  rintro notice inside
  obtain ⟨event, -, rfl⟩ := List.mem_map.mp inside
  simp [Notice.channel, printed.symm]

/-- The text of a failure. -/
def failureText : Failure → String
  | .noDirectory =>
    "\n".intercalate
      [ "❌ " ++ Failure.noDirectory.message,
        "Usage: js2ts <directory> [ignore-pattern1] [ignore-pattern2] ...",
        "Example: js2ts ./src dist build node_modules" ]
  | .missing root => "❌ " ++ (Failure.missing root).message
  | .notDirectory root => "❌ " ++ (Failure.notDirectory root).message
  | .unconverted count => "❌ " ++ (Failure.unconverted count).message
  | failure => "❌ Error: " ++ failure.message

/-- The text of the end of a conversion. -/
def outcomeText : Outcome → String
  | .converted file =>
    "✅ Converted: " ++ file.source.shown ++ " -> " ++ file.destination.shown
  | .unconverted file => "❌ Failed to convert " ++ file.path.shown ++ ": " ++ file.message

/-- The text of a notice, without the line feed behind it. -/
def text : Notice → String
  | .log event => event.text
  | .stopped stop => stop.text
  | .ignoring tokens => "🚫 Ignoring patterns: " ++ ", ".intercalate tokens
  | .nothingFound => "ℹ️ No .js/.jsx files found (after applying ignore patterns)."
  | .found count => "🔍 Found " ++ Nat.repr count ++ " JS file(s) to convert"
  | .finished outcome => outcomeText outcome
  | .complete => "🎉 Conversion complete."
  | .tally converted total unconverted =>
    "   " ++ Nat.repr converted ++ "/" ++ Nat.repr total ++ " converted, " ++
      Nat.repr unconverted ++ " failed"
  | .failed failure => failureText failure

end Notice

end Retarget
