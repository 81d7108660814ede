/-
**Attempts.**

An attempt is a piece of work that leaves a trace and ends in a value or an error. `Attempt` is for
work that writes nothing; `Sending` is for work on a sink, which is left as the work left it even
when the work fails.
-/
import JpegTranscoder.Codec

namespace JpegTranscoder

/-- Work that left a trace and ended in a value or an error. -/
structure Attempt (α : Type) where
  trace : Trace
  result : Except TranscodeError α

namespace Attempt

variable {α β : Type}

/-- Nothing happened. -/
def done (value : α) : Attempt α := ⟨[], .ok value⟩

/-- Work that failed without a trace. -/
def fail (error : TranscodeError) : Attempt α := ⟨[], .error error⟩

/-- One piece of work after another; the second only if the first did not fail. -/
def andThen (first : Attempt α) (next : α → Attempt β) : Attempt β :=
  match first.result with
  | .ok value => ⟨first.trace ++ (next value).trace, (next value).result⟩
  | .error error => ⟨first.trace, .error error⟩

instance : Monad Attempt where
  pure := done
  bind := andThen

/-- Work that leaves no trace. -/
def ofExcept (result : Except TranscodeError α) : Attempt α := ⟨[], result⟩

def log (level : Log.Level) (text : String) : Attempt Unit := ⟨[.logged ⟨level, text⟩], .ok ()⟩

def call (call : CodecCall) (answer : Except CodecError α) : Attempt α :=
  ⟨[.called call], answer.mapError .ofCodec⟩

end Attempt

/-- Work on a sink. -/
def Sending (α : Type) : Type := Sink → Attempt α × Sink

namespace Sending

variable {α β : Type}

/-- Work that leaves the sink alone. -/
def ofAttempt (attempt : Attempt α) : Sending α := fun sink => (attempt, sink)

/-- One piece of work after another; the second only if the first did not fail. -/
def andThen (first : Sending α) (next : α → Sending β) : Sending β := fun sink =>
  match first sink with
  | (⟨trace, .ok value⟩, middle) =>
    match next value middle with
    | (⟨more, result⟩, last) => (⟨trace ++ more, result⟩, last)
  | (⟨trace, .error error⟩, last) => (⟨trace, .error error⟩, last)

instance : Monad Sending where
  pure value := ofAttempt (.done value)
  bind := andThen

end Sending

end JpegTranscoder
