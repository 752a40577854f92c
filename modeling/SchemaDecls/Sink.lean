import SchemaDecls.Files

/-! Where text goes: a buffer, or the output of a run. -/
namespace SchemaDecls

/-- A place that takes text piece by piece and may fail at any of them. -/
class Sink (m : Type → Type) where
  write : String → m (Except FileFault Unit)

/-- A buffer in memory takes every piece. -/
instance : Sink (StateM String) where
  write text := fun buffer => (.ok (), buffer ++ text)

namespace Sink
variable {m : Type → Type} [Monad m] [Sink m]

def put (text : String) : ExceptT Failure m Unit := Files.attempt (Sink.write text)

end Sink
end SchemaDecls
