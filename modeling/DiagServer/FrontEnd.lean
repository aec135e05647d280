import DiagServer.Document
import DiagServer.Report

/-!
# Front-ends

A front-end knows how to parse one document. It keeps a *system*, which is built once a session
and handed from parse to parse, and builds a new *program* for each parse. A parse is a function
of the system, the program, the name of the file and its bytes; it gives back the system and the
program it leaves and every error it found, in order. Under which name a document is parsed comes
with the front-end. A URI names a file by rules that are long and have nothing to do with
diagnostics, so what is told of sessions and servers is told for every way to name documents.

What is done with a front-end is written for operations that are actions of some monad, so that it
can be told which of them are called, and when. A front-end whose operations are values is one
whose actions only return.
-/

namespace DiagServer

/-- What a parse works on: the program it fills and the system that is the program's parent. -/
structure ParseContext (σ π : Type) where
  system : σ
  program : π

/-- The scope in which a program looks up the names it does not define: the system. -/
def ParseContext.parent {σ π : Type} (c : ParseContext σ π) : σ := c.system

/-- A front-end with systems of type `σ` and programs of type `π`. -/
structure FrontEnd (σ π : Type) where
  newSystem : σ
  newProgram : π
  parse : ParseContext σ π → String → List UInt8 → ParseContext σ π × List Report
  /-- The name of the file that a document is parsed as. -/
  name : DocumentId → String := DocumentId.fileName

namespace FrontEnd

variable {σ π : Type} {m : Type → Type} [Monad m]

/-- A front-end whose operations are actions. -/
structure Effectful (m : Type → Type) (σ π : Type) where
  newSystem : m σ
  newProgram : m π
  parse : ParseContext σ π → String → List UInt8 → m (ParseContext σ π × List Report)
  name : DocumentId → String

/-- The front-end whose actions only return. -/
def silent (f : FrontEnd σ π) : Effectful Id σ π where
  newSystem := pure f.newSystem
  newProgram := pure f.newProgram
  parse := fun context file input => pure (f.parse context file input)
  name := f.name

/-- The first `length` bytes of an input, or all of it if there are fewer. -/
def clip (input : List UInt8) (length : Nat) : List UInt8 := input.take length

theorem clip_length (input : List UInt8) : clip input input.length = input := List.take_length

/-- Parse the first `length` bytes of an input into a new program. -/
def Effectful.run (f : Effectful m σ π) (system : σ) (file : String) (input : List UInt8)
    (length : Nat) : m (ParseContext σ π × List Report) := do
  let program ← f.newProgram
  f.parse ⟨system, program⟩ file (clip input length)

/-- Parse the first `length` bytes of an input into a new program, where nothing but the result
shows. -/
def run (f : FrontEnd σ π) (system : σ) (file : String) (input : List UInt8) (length : Nat) :
    ParseContext σ π × List Report :=
  (f.silent.run system file input length).run

theorem run_eq (f : FrontEnd σ π) (system : σ) (file : String) (input : List UInt8)
    (length : Nat) :
    f.run system file input length =
      f.parse ⟨system, f.newProgram⟩ file (clip input length) := rfl

end FrontEnd

end DiagServer
