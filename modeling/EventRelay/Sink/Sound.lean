import EventRelay.Config
import EventRelay.Program
import EventRelay.Sink

namespace EventRelay

structure SoundPlayer where
  play : Path → Except String Unit
  say : String → Except String Unit

namespace SoundPlayer

def ofConfig (c : SoundConfig) (starts : Program.Starts) : SoundPlayer :=
  { play := fun file => starts c.player file.text, say := starts c.sayCommand }

def ready : SoundPlayer := { play := fun _ => .ok (), say := fun _ => .ok () }

end SoundPlayer

structure SoundSink where
  enabled : Bool
  file : Path
  sayMessage : Bool
  deriving DecidableEq, Repr

namespace SoundSink

def ofConfig (c : SoundConfig) : SoundSink :=
  { enabled := c.enabled, file := c.file, sayMessage := c.sayMessage }

def spokenLength : Nat := 10

def spokenText (title : String) : String := String.ofList (title.toList.take spokenLength)

structure Attempt where
  acts : List Act := []
  warnings : List String := []

def warningsOf (failed : String) : Except String Unit → List String
  | .ok () => []
  | .error cause => [failed ++ ": " ++ cause]

def playback (s : SoundSink) (player : SoundPlayer) (fs : FileSystem) : Attempt :=
  if fs.exists? s.file then
    { acts := [.play s.file]
      warnings := warningsOf s!"Failed to play {s.file.text}" (player.play s.file) }
  else { warnings := [s!"Sound file {s.file.text} not found, skipping playback"] }

def speech (s : SoundSink) (player : SoundPlayer) (m : Message) : Attempt :=
  if s.sayMessage then
    let text := spokenText m.title
    { acts := [.say text]
      warnings := warningsOf "Failed to speak notification" (player.say text) }
  else {}

/-- The programs are started and not waited for, so that no failure of theirs counts. -/
def deliver (s : SoundSink) (player : SoundPlayer) (fs : FileSystem) (m : Message) : Delivery :=
  if ¬ s.enabled then { result := .ok none }
  else
    let playback := s.playback player fs
    let speech := s.speech player m
    { acts := playback.acts ++ speech.acts
      warnings := playback.warnings ++ speech.warnings
      result := .ok none }

def toSink (s : SoundSink) (player : SoundPlayer := .ready) : Sink :=
  { name := "sound", deliver := fun o m => s.deliver player o.files m }

end SoundSink

end EventRelay
