import SchemaDecls.CommandLine.Report
import SchemaDecls.UnitFiles

/-!
Units written to a sink. A sink takes text piece by piece and may refuse any piece. A buffer and the
output of a run take every piece and keep nothing but the text that the pieces make together, so units
written to either are one text, and what is written to a buffer first is what is written directly.
-/
namespace SchemaDecls

/-- A unit under a line that names its file. -/
def SourceUnit.banner (unit : SourceUnit) (language : Language) : String :=
  "// " ++ unit.fileName language ++ "\n" ++ unit.source

/-- Units as one text, with an empty line before each but the first. -/
def printUnits (units : List SourceUnit) (language : Language) : String :=
  String.join (units.zipIdx.map fun (unit, index) =>
    (if 0 < index then "\n" else "") ++ unit.banner language)

/-- A sink that refuses nothing and for which pieces are their text. -/
class LawfulSink (m : Type → Type) [Monad m] [Sink m] : Prop where
  put_empty : (Sink.put "" : ExceptT Failure m Unit) = pure ()
  put_put (first second : String) :
    (Sink.put first >>= fun _ => Sink.put second : ExceptT Failure m Unit)
      = Sink.put (first ++ second)

instance : LawfulSink (StateM String) where
  put_empty := by
    apply ExceptT.ext
    funext buffer
    exact congrArg (Prod.mk _) String.append_empty
  put_put first second := by
    apply ExceptT.ext
    funext buffer
    exact congrArg (Prod.mk _) String.append_assoc

section Output
variable {m : Type → Type} [Monad m]

/-- What is printed stands behind what was printed before. -/
theorem put_report [LawfulMonad m] (text : String) (report : CommandLine.Report) :
    (Sink.put text : ExceptT Failure (StateT CommandLine.Report m) Unit).run.run report
      = pure (.ok (), { report with output := report.output ++ text }) := by
  have taken : Except.mapError Failure.file (.ok () : Except FileFault Unit) = .ok () := rfl
  simp [Sink.put, Files.attempt, Sink.write, taken]

instance [LawfulMonad m] : LawfulSink (StateT CommandLine.Report m) where
  put_empty := by
    apply ExceptT.ext
    apply StateT.ext
    intro report
    rw [put_report, String.append_empty]
    rfl
  put_put first second := by
    apply ExceptT.ext
    apply StateT.ext
    intro report
    rw [ExceptT.run_bind, StateT.run_bind, put_report, pure_bind, put_report (first ++ second),
      ← String.append_assoc]
    exact put_report second { report with output := report.output ++ first }

variable [Sink m] [LawfulSink m]

theorem forM_put {α : Type} {write : α → ExceptT Failure m Unit} {textOf : α → String}
    (each : ∀ item, write item = Sink.put (textOf item)) (items : List α) :
    items.forM write = Sink.put (String.join (items.map textOf)) := by
  induction items with
  | nil => exact LawfulSink.put_empty.symm
  | cons item rest ih =>
    rw [List.map_cons, String.join_cons, ← LawfulSink.put_put, ← ih, ← each item]
    rfl

theorem writeBlocks_eq (units : List SourceUnit) (language : Language) :
    (writeBlocks units language : ExceptT Failure m Unit) = Sink.put (printUnits units language) := by
  unfold writeBlocks printUnits
  refine forM_put ?_ units.zipIdx
  rintro ⟨unit, index⟩
  have block : (Sink.put ("// " ++ unit.fileName language ++ "\n") >>= fun _ =>
      Sink.put unit.source : ExceptT Failure m Unit) = Sink.put (unit.banner language) :=
    LawfulSink.put_put _ _
  simp only [block]
  split
  · exact LawfulSink.put_put "\n" (unit.banner language)
  · rw [String.empty_append]

theorem generateTo_eq [LawfulMonad m] (text : String) (format : DocumentFormat) (settings : Settings) :
    (generateTo text format settings : ExceptT Failure m Unit)
      = liftM (compileText text format settings) >>= fun units =>
          Sink.put (printUnits units settings.language) := by
  unfold generateTo compileText
  simp only [liftM_bind, bind_assoc, writeBlocks_eq]

end Output

/-- What goes into the buffer is the whole text. -/
theorem generateText_eq (text : String) (format : DocumentFormat) (settings : Settings) :
    generateText text format settings = (do
      let units ← compileText text format settings
      return printUnits units settings.language) := by
  unfold generateText
  rw [generateTo_eq]
  cases compileText text format settings with
  | error failure => rfl
  | ok units => exact congrArg Except.ok String.empty_append

end SchemaDecls
