import SchemaDecls.SourceUnit
import SchemaDecls.Text

/-!
The text of a unit without its writer. A unit is written line by line, and a writer may refuse any of
the lines. Both languages only append, so no line is refused and none depends on what stands before it:
a unit is a function of its module, its language and its declaration.
-/
namespace SchemaDecls

theorem Text.unlines_append (lines others : List String) :
    unlines (lines ++ others) = unlines lines ++ unlines others := by
  simp [unlines, String.join_append]

/-- All that the writer does is to append these lines. -/
def Writes (writer : Writer Unit) (lines : List String) : Prop :=
  ∀ front, writer.run front = .ok ((), front ++ Text.unlines lines)

namespace Writes

theorem nothing : Writes (pure ()) [] := by
  intro front
  have blank : Text.unlines [] = "" := rfl
  rw [blank, String.append_empty]
  rfl

theorem line (text : String) : Writes (writeLine text) [text] := by
  intro front
  simp [writeLine, Text.unlines, pure, Except.pure, String.append_assoc]

theorem andThen {first second : Writer Unit} {lines others : List String}
    (before : Writes first lines) (after : Writes second others) :
    Writes (first >>= fun _ => second) (lines ++ others) := by
  intro front
  rw [StateT.run_bind, before front]
  change second.run _ = _
  rw [after, Text.unlines_append, String.append_assoc]

theorem lineThen (text : String) {later : Writer Unit} {lines : List String}
    (after : Writes later lines) : Writes (writeLine text >>= fun _ => later) (text :: lines) :=
  (line text).andThen after

theorem each (lineOf : α → String) (items : List α) :
    Writes (items.forM fun item => writeLine (lineOf item)) (items.map lineOf) := by
  induction items with
  | nil => exact nothing
  | cons item rest ih => exact lineThen (lineOf item) ih

end Writes

/-- The lines of a unit in a module of this very name. -/
def CSharp.unitLines (moduleName : String) (imports : List String) (declaration : Declaration) :
    List String :=
  imports.map (fun name => "using " ++ name ++ ";")
    ++ ["", "namespace " ++ identifier moduleName, "\x7b",
      "    public class " ++ identifier declaration.name, "    \x7b"]
    ++ declaration.fields.map fieldLine
    ++ ["    \x7d", "\x7d"]

theorem CSharp.writeUnit_writes (moduleName : String) (imports : List String)
    (declaration : Declaration) :
    Writes (writeUnit moduleName imports declaration)
      (unitLines moduleName imports declaration) := by
  unfold writeUnit unitLines
  simp only [List.append_assoc, List.cons_append, List.nil_append]
  refine (Writes.each _ imports).andThen ?_
  iterate 5 apply Writes.lineThen
  refine (Writes.each fieldLine declaration.fields).andThen ?_
  exact Writes.lineThen _ (Writes.line _)

/-- The lines of a unit, in snake case the name of its module. -/
def Rust.unitLines (moduleName : String) (imports : List String) (declaration : Declaration) :
    List String :=
  ["//! `" ++ declaration.name ++ "` in module `" ++ Name.snake moduleName
      ++ "`. Generated by openapi-codegen. Do not edit manually.",
    "", "#![allow(unused_imports)]", ""]
    ++ imports.map (fun name => "use " ++ name ++ ";")
    ++ ["", "#[derive(Debug, Clone, PartialEq)]",
      "pub struct " ++ identifier declaration.name ++ " \x7b"]
    ++ declaration.fields.map fieldLine
    ++ ["\x7d"]

theorem Rust.writeUnit_writes (moduleName : String) (imports : List String)
    (declaration : Declaration) :
    Writes (writeUnit moduleName imports declaration)
      (unitLines moduleName imports declaration) := by
  unfold writeUnit unitLines
  simp only [List.append_assoc, List.cons_append, List.nil_append]
  iterate 4 apply Writes.lineThen
  refine (Writes.each _ imports).andThen ?_
  iterate 3 apply Writes.lineThen
  exact (Writes.each fieldLine declaration.fields).andThen (Writes.line _)

namespace Language

def unitLines : Language → String → List String → Declaration → List String
  | .csharp => CSharp.unitLines
  | .rust => Rust.unitLines

/-- The text of a unit in a module of this very name. -/
def unitSource (language : Language) (moduleName : String) (imports : List String)
    (declaration : Declaration) : String :=
  Text.unlines (language.unitLines moduleName imports declaration)

theorem writeUnit_writes (language : Language) (moduleName : String) (imports : List String)
    (declaration : Declaration) :
    Writes (language.writeUnit moduleName imports declaration)
      (language.unitLines moduleName imports declaration) := by
  cases language with
  | csharp => exact CSharp.writeUnit_writes moduleName imports declaration
  | rust => exact Rust.writeUnit_writes moduleName imports declaration

end Language

/-- The unit of a declaration in the module that `moduleName` normalizes to. -/
def SourceUnit.ofDeclaration (moduleName : String) (declaration : Declaration)
    (language : Language) : SourceUnit :=
  ⟨declaration.name,
    language.unitSource (Name.pascal moduleName) (imports declaration language) declaration⟩

/-- Declarations as units of one module. -/
def unitsOf (moduleName : String) (language : Language) (declarations : List Declaration) :
    List SourceUnit :=
  declarations.map fun declaration => SourceUnit.ofDeclaration moduleName declaration language

/-- No declaration is refused by the writer. -/
theorem SourceUnit.build_eq (moduleName : String) (declaration : Declaration) (language : Language) :
    build moduleName declaration language = .ok (ofDeclaration moduleName declaration language) := by
  have written := language.writeUnit_writes (Name.pascal moduleName) (imports declaration language)
    declaration ""
  rw [String.empty_append] at written
  rw [build, written]
  rfl

end SchemaDecls
