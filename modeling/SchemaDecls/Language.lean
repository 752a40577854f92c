import SchemaDecls.Language.CSharp
import SchemaDecls.Language.Rust

/-! The languages that declarations are written in. -/
namespace SchemaDecls

inductive Language where
  | csharp | rust
deriving DecidableEq, Repr

namespace Language

def name : Language → String
  | .csharp => "csharp"
  | .rust => "rust"

/-- Extension of generated files. -/
def fileExtension : Language → String
  | .csharp => "cs"
  | .rust => "rs"

/-- The import that every unit carries. -/
def baseImport : Language → String
  | .csharp => "System"
  | .rust => "super::*"

/-- The import that lists need. -/
def collectionImport : Language → String
  | .csharp => "System.Collections.Generic"
  | .rust => "std::vec::Vec"

def renderType : Language → TargetType → String
  | .csharp => CSharp.renderType
  | .rust => Rust.renderType

def writeUnit : Language → String → List String → Declaration → Writer Unit
  | .csharp => CSharp.writeUnit
  | .rust => Rust.writeUnit

end Language

/-- What a run may choose. -/
structure Settings where
  language : Language := .csharp
  defaultNamespace : String := "GeneratedClasses"
deriving DecidableEq, Repr

end SchemaDecls
