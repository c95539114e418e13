import OperatorPrecedence.FileSystem
import OperatorPrecedence.Report

/-!
What a program needs from outside: its files, its two streams, and a log, which shares
the first stream.
-/

namespace OperatorPrecedence

/-- What writes the log.  Some events are let through; how one is worded depends on
those before it too, since the words may tell the time. -/
structure Subscriber where
  enabled : RunEvent → Bool
  words : List RunEvent → RunEvent → String

namespace Subscriber

/-- Only errors are let through, as they are where nothing else has been asked for. -/
def ErrorsOnly (subscriber : Subscriber) : Prop :=
  ∀ event, subscriber.enabled event = true → event.level = .error

/-- What is written of an event that comes after others. -/
def line (subscriber : Subscriber) (earlier : List RunEvent) (event : RunEvent) : String :=
  if subscriber.enabled event then subscriber.words earlier event else ""

def lines (subscriber : Subscriber) (earlier : List RunEvent) : List RunEvent → String
  | [] => ""
  | event :: later =>
      subscriber.line earlier event ++ subscriber.lines (earlier ++ [event]) later

end Subscriber

/-- What is done for a program outside of it. -/
structure Host (m : Type → Type) where
  log : RunEvent → m Unit
  read : String → m (Except FileError ByteArray)
  write : String → String → m (Except FileError Unit)
  print : String → m Unit
  eprint : String → m Unit

structure World (σ : Type) where
  files : σ
  events : List RunEvent
  stdout : String
  stderr : String

def World.start {σ : Type} (files : σ) : World σ := ⟨files, [], "", ""⟩

def Host.ofWorld (σ : Type) [FileSystem σ] (subscriber : Subscriber) :
    Host (StateM (World σ)) where
  log event := modify fun world =>
    { world with
      events := world.events ++ [event]
      stdout := world.stdout ++ subscriber.line world.events event }
  read path := return FileSystem.read (← get).files path
  write path text := do
    let world ← get
    let (result, files) := FileSystem.write world.files path text
    set { world with files := files }
    return result
  print text := modify fun world => { world with stdout := world.stdout ++ text }
  eprint text := modify fun world => { world with stderr := world.stderr ++ text }

namespace Host

variable {σ : Type} [FileSystem σ] (subscriber : Subscriber) (world : World σ)

@[simp] theorem run_log (event : RunEvent) :
    ((ofWorld σ subscriber).log event).run world =
      pure ((), { world with
        events := world.events ++ [event]
        stdout := world.stdout ++ subscriber.line world.events event }) :=
  rfl

@[simp] theorem run_read (path : String) :
    ((ofWorld σ subscriber).read path).run world =
      pure (FileSystem.read world.files path, world) :=
  rfl

@[simp] theorem run_write (path text : String) :
    ((ofWorld σ subscriber).write path text).run world =
      pure ((FileSystem.write world.files path text).1,
        { world with files := (FileSystem.write world.files path text).2 }) :=
  rfl

@[simp] theorem run_print (text : String) :
    ((ofWorld σ subscriber).print text).run world =
      pure ((), { world with stdout := world.stdout ++ text }) :=
  rfl

@[simp] theorem run_eprint (text : String) :
    ((ofWorld σ subscriber).eprint text).run world =
      pure ((), { world with stderr := world.stderr ++ text }) :=
  rfl

end Host

end OperatorPrecedence
