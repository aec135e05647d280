import DiagServer.Config.Load
import DiagServer.Proofs.Host.FileSystem
import DiagServer.Proofs.Session.LastParse
import DiagServer.Proofs.Text.Replace
import DiagServer.Toolchain

/-!
# From the configuration to the arguments of a compiler

The arguments in a configuration file are filled in twice, with the values of variables when the
file is loaded and with the name of a file at each parse. Both times each argument is filled in by
itself, so there are as many afterwards and they stand in the same order. Values are there before
the placeholder is looked for and may hold one; the name is put into pieces that are fixed before
it is known, so nothing in a name is looked at again.

What a parse starts is seen from outside: it is the launch for which whatever a runner gives is what
the parse ends with.
-/

namespace DiagServer

namespace Compiler

variable {run? : Runner} {files : FileSystem} {c : Compiler} {context : ParseContext Toolchain Unit}
  {file : String} {input : List UInt8} {launch : Launch}

/-! ## What a parse starts -/

/-- A parse makes a launch: with any runner that starts it, the parse ends with the files that the
program leaves and reports what it prints. -/
def Launches (c : Compiler) (context : ParseContext Toolchain Unit) (file : String)
    (input : List UInt8) (launch : Launch) : Prop :=
  ∀ (run? : Runner) (files left : FileSystem) (output : List UInt8),
    run? context.system.files launch = some (output, left) →
      ∃ after, (c.frontEnd run? files).parse context file input = (after, reportsOf output) ∧
        after.system.files = left

/-- There is one launch that a parse makes, if that can be started, and no other. -/
theorem launches_iff : c.Launches context file input launch ↔
    canStart launch = true ∧ launch = ⟨context.system.program, c.argsFor file, input⟩ := by
  constructor
  · intro h
    -- a runner that starts nothing else, and leaves other files than those it was given
    let left : FileSystem :=
      { context.system.files with links := ([], []) :: context.system.files.links }
    let run? : Runner := fun _ l => if l = launch then some ([], left) else none
    have hleft : context.system.files ≠ left := by
      intro heq
      have hlinks := congrArg (fun fs : FileSystem => fs.links.length) heq
      simp [left] at hlinks
    obtain ⟨after, hparse, hafter⟩ := h run? {} left [] (if_pos rfl)
    simp only [frontEnd, Prod.mk.injEq] at hparse
    rw [← hparse.1] at hafter
    split at hafter
    · next hstart =>
        by_cases heq : (⟨context.system.program, c.argsFor file, input⟩ : Launch) = launch
        · exact ⟨heq ▸ hstart, heq.symm⟩
        · simp only [run?, if_neg heq] at hafter
          exact absurd hafter hleft
    · exact absurd hafter hleft
  · rintro ⟨hstart, rfl⟩ run? files left output hrun
    simp only [frontEnd, hstart, if_true, hrun, Option.getD_some]
    exact ⟨_, rfl, rfl⟩

theorem program_parse (files : FileSystem) (context : ParseContext Toolchain Unit) (file : String)
    (input : List UInt8) :
    ((c.frontEnd run? files).parse context file input).1.system.program =
      context.system.program :=
  rfl

/-- Every parse of a session is made with the program that the session started with. -/
theorem program_of_mem_parsesOf {d : TextDocument} {p : Parse Toolchain} {ds : List TextDocument}
    {start : Toolchain} (h : (d, p) ∈ (c.frontEnd run? files).parsesOf start ds) :
    p.start.program = start.program := by
  induction ds generalizing start with
  | nil => cases h
  | cons d' rest ih =>
      rcases List.mem_cons.mp h with heq | hrest
      · cases heq
        rfl
      · exact (ih hrest).trans (program_parse files _ _ _)

/-! ## The arguments for a file -/

theorem placeholder_ne_nil : placeholder.toList ≠ [] := by decide

theorem length_argsFor (c : Compiler) (file : String) :
    (c.argsFor file).length = c.args.length :=
  List.length_map _

/-- An argument is cut at its placeholders, and these pieces do not hang on the name of the file. -/
theorem getElem?_argsFor {i : Nat} {arg : String} (h : c.args[i]? = some arg) :
    ∃! p : Text.Pieces,
      p.Leftmost placeholder.toList ∧ p.joined placeholder.toList = arg.toList ∧
        ∀ file, (c.argsFor file)[i]? = some (String.ofList (p.joined file.toList)) := by
  obtain ⟨p, hp, htext⟩ := Text.exists_leftmost placeholder_ne_nil arg.toList
  refine ⟨p, ⟨hp, htext, fun file => ?_⟩, fun q ⟨hq, hqtext, _⟩ => ?_⟩
  · rw [argsFor, List.getElem?_map, h, ← Text.replace_joined placeholder_ne_nil hp, htext]
    rfl
  · exact hq.eq_of_joined placeholder_ne_nil hp (hqtext.trans htext.symm)

end Compiler

namespace Config

theorem loadFrom_of_readText {fs : FileSystem} {path : List UInt8} {text : String} {c : Config}
    (hread : fs.readText path = .ok text) (hparse : Config.parse text = some c) (e : Environment) :
    loadFrom fs e path = .ok (some (c.expand e.text?)) := by
  rw [loadFrom, if_pos (FileSystem.exists?_of_readText hread), hread]
  simp only [hparse]

/-- A file that holds a configuration is loaded in every environment, with the same settings for
diagnostics and as many arguments. In each, the compiler is looked up under the command that stands
in the file, with the values of its variables and nothing else filled in. Every parse then starts
it, if that can be done, with one argument for each in the file and in their order: the argument
with the values of its variables, in which the name of the file stands between the pieces that the
placeholder had stood between. The pieces are the same for every name. -/
theorem loadFrom_launches (fs : FileSystem) (path : List UInt8) (text : String) (c : Config)
    (hread : fs.readText path = .ok text) (hparse : Config.parse text = some c) :
    (∀ e e' : Environment, ∃ loaded loaded',
      loadFrom fs e path = .ok (some loaded) ∧ loadFrom fs e' path = .ok (some loaded') ∧
      loaded.diagnostics = loaded'.diagnostics ∧
      loaded.frontEnd.map (·.args.length) = loaded'.frontEnd.map (·.args.length)) ∧
    ∀ e : Environment, ∃ loaded, loadFrom fs e path = .ok (some loaded) ∧
      loaded.diagnostics = c.diagnostics ∧ loaded.frontEnd.isSome = c.frontEnd.isSome ∧
      ∀ written settings, c.frontEnd = some written → loaded.frontEnd = some settings →
        settings.command = Template.expand e.text? written.command ∧
        ∀ find? compiler, Compiler.ofConfig? find? settings = some compiler →
          find? settings.command = some compiler.program ∧
          (∀ run? files ds d p,
            let f := compiler.frontEnd run? files
            (d, p) ∈ f.parsesOf f.newSystem ds → p.start.program = compiler.program) ∧
          (∀ context file input launch, compiler.Launches context file input launch ↔
            Compiler.canStart launch = true ∧
              launch = ⟨context.system.program, compiler.argsFor file, input⟩) ∧
          (∀ file, (compiler.argsFor file).length = written.args.length) ∧
          ∀ (i : Nat) (arg : String), written.args[i]? = some arg → ∃! p : Text.Pieces,
            p.Leftmost Compiler.placeholder.toList ∧
            p.joined Compiler.placeholder.toList = (Template.expand e.text? arg).toList ∧
            ∀ file, (compiler.argsFor file)[i]? = some (String.ofList (p.joined file.toList)) := by
  have hload := loadFrom_of_readText hread hparse
  refine ⟨fun e e' => ⟨_, _, hload e, hload e', rfl, ?_⟩, fun e => ⟨_, hload e, rfl, ?_, ?_⟩⟩
  · simp only [expand, Option.map_map]
    refine congrArg (fun count => c.frontEnd.map count) (funext fun settings => ?_)
    simp [FrontEnd.expand]
  · exact Option.isSome_map
  · rintro written settings hwritten hsettings
    simp only [expand, hwritten, Option.map_some, Option.some.injEq] at hsettings
    subst hsettings
    refine ⟨rfl, fun find? compiler hcompiler => ?_⟩
    rw [Compiler.ofConfig?, Option.map_eq_some_iff] at hcompiler
    obtain ⟨program, hfind, rfl⟩ := hcompiler
    refine ⟨hfind, fun run? files ds d p => Compiler.program_of_mem_parsesOf,
      fun context file input launch => Compiler.launches_iff, fun file => ?_, fun i arg harg => ?_⟩
    · rw [Compiler.length_argsFor]
      exact List.length_map _
    · refine Compiler.getElem?_argsFor ?_
      rw [FrontEnd.expand, List.getElem?_map, harg]
      rfl

/-- A configuration of which one argument holds the placeholder and another a reference. -/
def sampleText : String :=
  "[frontend]\ncommand = \"$\x7bCC\x7d\"\nargs = [\"-n\x7bfile\x7d\", \"$\x7bX\x7d\"]\n"

def sampleSettings : FrontEnd where
  command := "$\x7bCC\x7d"
  args := ["-n\x7bfile\x7d", "$\x7bX\x7d"]

def sampleFiles : FileSystem where
  entries := [([[0x63]], .file (Text.Utf8.encode sampleText))]

/-- An environment in which the value that an argument refers to holds the placeholder. -/
def sampleEnvironment : Environment where
  entries := [("CC", [0x61]), ("X", Text.Utf8.encode "\x7bfile\x7d -x")]

theorem loadFrom_launches_sample :
    sampleFiles.readText [0x63] = .ok sampleText ∧
    Config.parse sampleText = some { frontEnd := some sampleSettings } ∧
    ∃ loaded compiler, loadFrom sampleFiles sampleEnvironment [0x63] = .ok (some loaded) ∧
      loaded.frontEnd.bind (Compiler.ofConfig? fun _ => some [Path.slash]) = some compiler ∧
      ∀ file, (compiler.argsFor file).length = 2 := by
  have hread : sampleFiles.readText [0x63] = .ok sampleText := by decide +kernel
  have hparse : Config.parse sampleText = some { frontEnd := some sampleSettings } := by
    decide +kernel
  obtain ⟨-, hlaunches⟩ := loadFrom_launches sampleFiles [0x63] sampleText _ hread hparse
  obtain ⟨loaded, hload, -, hsome, hsettings⟩ := hlaunches sampleEnvironment
  obtain ⟨settings, hloaded⟩ := Option.isSome_iff_exists.mp hsome
  obtain ⟨-, hcompiler⟩ := hsettings sampleSettings settings rfl hloaded
  obtain ⟨-, -, -, hlength, -⟩ := hcompiler (fun _ => some [Path.slash]) _ rfl
  refine ⟨hread, hparse, loaded, _, hload, ?_, hlength⟩
  rw [hloaded]
  rfl

/-- A value may bring in the placeholder; a name brings in nothing. -/
example : (Compiler.mk [] (sampleSettings.expand sampleEnvironment.text?).args).argsFor
    "$\x7bX\x7d\x7bfile\x7d" =
      ["-n$\x7bX\x7d\x7bfile\x7d", "$\x7bX\x7d\x7bfile\x7d -x"] := by
  decide +kernel

end Config

end DiagServer
