import SwaggerGen.Proofs.Command.Machine
import SwaggerGen.Proofs.Command.Naming
import SwaggerGen.Proofs.Command.Parent
import SwaggerGen.Proofs.Description.RoundTrip

/-!
# All or nothing

A run of the command delivers the whole document of its input, on standard output or in one file, or it
prints nothing and leaves every file as it was. What it delivers depends on the text of the input alone,
not on where that was read from.
-/

namespace SwaggerGen.Command

theorem decodeText_eq_ok_iff {bytes : ByteArray} {text : String} :
    decodeText bytes = .ok text ↔ bytes = text.toUTF8 := by
  rw [decodeText, String.fromUTF8?]
  split
  · next h =>
      split at h
      · cases h
        rw [Except.ok.injEq, ← String.toByteArray_inj]
        rfl
      · cases h
  · next h =>
      split at h
      · cases h
      · next hvalid =>
          refine iff_of_false nofun ?_
          rintro rfl
          exact hvalid text.isValidUTF8

namespace Request

open Machine (Action run_bind run_adapt run_contains run_writeFile)

variable {File : Type} [Storage File] {request : Request} {stdin : ByteArray} {tree : FileTree File}
variable {machine : Machine File}

/-- Whether a text is the input: all of standard input, or what a file holds that may be read. -/
def Reads (request : Request) (stdin : ByteArray) (tree : FileTree File) (text : String) : Prop :=
  match request.inputFile? with
  | none => stdin = text.toUTF8
  | some path => ∃ place file, tree.locate path = .ok place ∧ tree.file? place = some file ∧
      path.asDirectory = false ∧ Storage.refusal? .read place (some file) = none ∧
      Storage.bytes file = text.toUTF8

omit [Storage File] in
theorem run_textOf (bytes : Action File IoFault ByteArray) :
    machine.run (textOf bytes) =
      (((machine.run bytes).1 >>= decodeText).mapError .io, (machine.run bytes).2) := by
  rw [textOf, run_adapt, run_bind]
  obtain ⟨result, after⟩ := machine.run bytes
  cases result with
  | error => rfl
  | ok read => cases h : decodeText read <;> simp only [Except.ok_bind, h] <;> rfl

/-- The input is read without a trace. -/
theorem run_readInput (request : Request) (stdin : ByteArray) (machine : Machine File) :
    ∃ result, machine.run (request.readInput (pure stdin)) = (result, machine) ∧
      ∀ text, result = .ok text ↔ request.Reads stdin machine.tree text := by
  rw [readInput]
  unfold Reads
  cases request.inputFile? with
  | none =>
      exact ⟨_, run_textOf _, fun text => Except.mapError_eq_ok_iff.trans decodeText_eq_ok_iff⟩
  | some path =>
      simp only [← FileTree.read_eq_ok_iff]
      rw [run_bind, run_contains]
      cases hcontains : machine.tree.contains path with
      | false =>
          refine ⟨_, rfl, fun text => iff_of_false nofun fun hread => ?_⟩
          rw [FileTree.contains_of_read hread] at hcontains
          cases hcontains
      | true =>
          refine ⟨_, run_textOf _, fun text => ?_⟩
          rw [Except.mapError_eq_ok_iff, Except.bind_eq_ok_iff]
          constructor
          · rintro ⟨bytes, hread, hbytes⟩
            rw [← decodeText_eq_ok_iff.mp hbytes]
            exact hread
          · exact fun hread => ⟨_, hread, decodeText_eq_ok_iff.mpr rfl⟩

/-- Whether a request asks for YAML: by its format, or without one by the name of its output file. -/
def AsksYaml (request : Request) : Prop :=
  request.format = some .yaml ∨ request.format = none ∧
    ∃ path, request.outputFile? = some path ∧ (path.HasExtension "yaml" ∨ path.HasExtension "yml")

/-- The text of a document that a request asks for. -/
inductive Renders (request : Request) (document : Document) : String → Prop
  | yaml (asked : request.AsksYaml) : Renders request document document.toYaml
  | json (asked : ¬ request.AsksYaml) : Renders request document document.toPrettyJson

theorem resolvedFormat_eq_yaml_iff : request.resolvedFormat = .yaml ↔ request.AsksYaml := by
  have hyaml (path : PathName) : path.extension? = some "yaml" ↔ path.HasExtension "yaml" :=
    PathName.extension?_eq_some_iff (by decide) (by decide)
  have hyml (path : PathName) : path.extension? = some "yml" ↔ path.HasExtension "yml" :=
    PathName.extension?_eq_some_iff (by decide) (by decide)
  rw [resolvedFormat, AsksYaml]
  cases request.format with
  | some format => simp
  | none =>
      simp only [← hyaml, ← hyml]
      cases request.outputFile? with
      | none => simp
      | some path =>
          simp only [Option.bind_some, Option.some.injEq, exists_eq_left', reduceCtorEq, true_and, false_or]
          split <;> simp_all

theorem renders_render (request : Request) (document : Document) :
    request.Renders document (request.resolvedFormat.render document) := by
  cases h : request.resolvedFormat with
  | yaml => exact .yaml (resolvedFormat_eq_yaml_iff.mp h)
  | json =>
      refine .json fun hasked => ?_
      rw [resolvedFormat_eq_yaml_iff.mpr hasked] at h
      cases h

/-- What a run of a request leaves behind, whatever it reports. -/
inductive Leaves (request : Request) (stdin : ByteArray) (tree : FileTree File) : Outcome File → Prop
  /-- The document on standard output, with all files as they were. -/
  | printed {text rendered : String} {api : Api} {stderr : String}
      (reads : request.Reads stdin tree text) (decodes : Api.parse text = .ok api)
      (renders : request.Renders api.document rendered) (target : request.outputFile? = none) :
      Leaves request stdin tree ⟨0, rendered ++ "\n", stderr, tree⟩
  /-- The document in the output file, with all other files as they were. -/
  | written {text rendered : String} {api : Api} {stderr : String} {path : PathName} {place : Place}
      {file : File} {after : FileTree File}
      (reads : request.Reads stdin tree text) (decodes : Api.parse text = .ok api)
      (renders : request.Renders api.document rendered) (target : request.outputFile? = some path)
      (located : after.locate path = .ok place) (found : after.file? place = some file)
      (bytes : Storage.bytes file = rendered.toUTF8)
      (others : ∀ other, other ≠ place → after.file? other = tree.file? other) :
      Leaves request stdin tree ⟨0, "", stderr, after⟩
  /-- Nothing, since the input is missing, may not be read or is no text. -/
  | unread {stderr : String} (unreadable : ∀ text, ¬ request.Reads stdin tree text) :
      Leaves request stdin tree ⟨1, "", stderr, tree⟩
  /-- Nothing, since the input is no description. -/
  | undecoded {text : String} {error : Json.InputError} {stderr : String}
      (reads : request.Reads stdin tree text) (faulty : Api.parse text = .error error) :
      Leaves request stdin tree ⟨1, "", stderr, tree⟩
  /-- At most directories, since the output file cannot be written as the tree is. -/
  | unwritten {text rendered : String} {api : Api} {stderr : String} {path : PathName}
      {after : FileTree File}
      (reads : request.Reads stdin tree text) (decodes : Api.parse text = .ok api)
      (renders : request.Renders api.document rendered) (target : request.outputFile? = some path)
      (unwritable : ∀ written, tree.write path rendered ≠ .ok written)
      (files : after.files = tree.files) :
      Leaves request stdin tree ⟨1, "", stderr, after⟩

/-- Nothing has to be prepared for a file that can be written. -/
theorem run_prepare_of_write {path : PathName} {text : String} {written : FileTree File}
    (h : machine.tree.write path text = .ok written) : machine.run (prepare path) = (.ok (), machine) := by
  obtain ⟨place, hplace, -⟩ := FileTree.write_eq_ok_iff.mp h
  rw [prepare]
  split
  · rfl
  · next parent hparent =>
      rw [run_bind, run_contains, (FileTree.writable_of_eq_ok hplace).contains_parent hparent]
      rfl

/-- What is written is found under its name, and no other file has changed. -/
theorem written_of_writeOut {path : PathName} {text : String} {after : Machine File}
    (h : machine.run (writeOut path text) = (.ok (), after)) :
    after.stdout = machine.stdout ∧ ∃ place file, after.tree.locate path = .ok place ∧
      after.tree.file? place = some file ∧ Storage.bytes file = text.toUTF8 ∧
      ∀ other, other ≠ place → after.tree.file? other = machine.tree.file? other := by
  have hframe := spares_prepare path machine
  rw [writeOut, run_bind] at h
  split at h
  · next prepared hprepare =>
      rw [hprepare] at hframe
      rw [run_writeFile] at h
      split at h
      · next tree hwrite =>
          cases h
          obtain ⟨place, hplace, rfl⟩ := FileTree.write_eq_ok_iff.mp hwrite
          refine ⟨hframe.stdout, place, _, (FileTree.writable_of_eq_ok hplace).locate_put,
            (FileTree.file?_put ..).trans (if_pos rfl), Storage.bytes_store _ _, fun other hother => ?_⟩
          rw [FileTree.file?_put, if_neg hother, FileTree.file?, hframe.files, FileTree.file?]
      · cases h
  · cases h

/-- When writing is refused, it is refused as the files were before, and they stay so. -/
theorem unwritable_of_writeOut {path : PathName} {text : String} {fault : IoFault}
    {after : Machine File} (h : machine.run (writeOut path text) = (.error fault, after)) :
    Machine.Frame machine after ∧ ∀ written, machine.tree.write path text ≠ .ok written := by
  have hframe := spares_prepare path machine
  rw [writeOut, run_bind] at h
  constructor
  · split at h
    · next prepared hprepare =>
        rw [hprepare] at hframe
        rw [run_writeFile] at h
        split at h
        · cases h
        · cases h
          exact hframe
    · next hprepare =>
        cases h
        rwa [hprepare] at hframe
  · intro written hwritten
    rw [run_prepare_of_write hwritten] at h
    simp only [run_writeFile, hwritten] at h
    cases h

/-- What an execution leaves behind, once its failure is reported. -/
def ofResult : Except Failure Unit × Machine File → Outcome File
  | (.ok (), machine) => ⟨0, machine.stdout, machine.stderr, machine.tree⟩
  | (.error failure, machine) => ⟨1, machine.stdout, machine.stderr ++ failure.report, machine.tree⟩

theorem ofAction_perform (request : Request) (stdin : ByteArray) (machine : Machine File) :
    Outcome.ofAction (request.perform (pure stdin)) machine =
      ofResult (machine.run (request.execute (pure stdin))) := by
  rw [perform, Outcome.ofAction, StateT.run_bind, Machine.run]
  obtain ⟨result, after⟩ := StateT.run (request.execute (pure stdin)).run machine
  cases result <;> rfl

theorem leaves_deliver {text rendered : String} {api : Api} (hstdout : machine.stdout = "")
    (reads : request.Reads stdin machine.tree text) (decodes : Api.parse text = .ok api)
    (renders : request.Renders api.document rendered) :
    request.Leaves stdin machine.tree (ofResult (machine.run (request.deliver rendered))) := by
  rw [deliver]
  cases htarget : request.outputFile? with
  | none =>
      have hprint : machine.run (ExceptT.lift (Host.print (rendered ++ "\n")) : Action File Failure Unit) =
          (.ok (), { machine with stdout := machine.stdout ++ (rendered ++ "\n") }) := rfl
      rw [hprint, hstdout, String.empty_append]
      exact .printed reads decodes renders htarget
  | some path =>
      simp only [run_adapt]
      cases hrun : machine.run (writeOut path rendered) with
      | mk result after =>
          cases result with
          | ok =>
              obtain ⟨hprinted, place, file, hlocated, hfound, hbytes, hothers⟩ := written_of_writeOut hrun
              simp only [Except.mapError, ofResult, hprinted, hstdout]
              exact .written reads decodes renders htarget hlocated hfound hbytes hothers
          | error fault =>
              obtain ⟨hframe, hunwritable⟩ := unwritable_of_writeOut hrun
              simp only [Except.mapError, ofResult, hframe.stdout, hstdout]
              exact .unwritten reads decodes renders htarget hunwritable hframe.files

theorem run_execute_of_reads (machine : Machine File) {text : String}
    (h : request.Reads stdin machine.tree text) :
    machine.run (request.execute (pure stdin)) =
      match request.render text with
      | .ok rendered => machine.run (request.deliver rendered)
      | .error failure => (.error failure, machine) := by
  obtain ⟨result, hread, hreads⟩ := run_readInput request stdin machine
  rw [execute, run_bind, hread, (hreads text).mpr h]
  simp only [run_bind]
  cases request.render text <;> rfl

theorem leaves_execute (hstdout : machine.stdout = "") :
    request.Leaves stdin machine.tree
      (ofResult (machine.run (request.execute (pure stdin)))) := by
  obtain ⟨result, hread, hreads⟩ := run_readInput request stdin machine
  cases result with
  | error failure =>
      rw [execute, run_bind, hread]
      simp only [ofResult, hstdout]
      exact .unread fun text htext => nomatch (hreads text).mpr htext
  | ok text =>
      have htext := (hreads text).mp rfl
      rw [run_execute_of_reads machine htext, render]
      cases hparse : Api.parse text with
      | error error =>
          simp only [ofResult, hstdout]
          exact .undecoded htext hparse
      | ok api => exact leaves_deliver hstdout htext hparse (renders_render request api.document)

theorem leaves_perform (machine : Machine File) (hstdout : machine.stdout = "") :
    request.Leaves stdin machine.tree (.ofAction (request.perform (pure stdin)) machine) := by
  rw [ofAction_perform]
  exact leaves_execute hstdout

/-- The outcome depends on the text of the input and not on where it is read from. -/
theorem outcome_eq_of_reads {other : Request} {input : ByteArray} {text : String}
    (houtput : other.output = request.output) (hformat : other.format = request.format)
    (h : request.Reads stdin tree text) (hother : other.Reads input tree text) :
    other.outcome input tree = request.outcome stdin tree := by
  have hrender : other.render = request.render := by
    obtain ⟨_, _, _⟩ := other
    obtain rfl : _ = request.output := houtput
    obtain rfl : _ = request.format := hformat
    rfl
  have hdeliver (rendered : String) :
      (other.deliver rendered : Action File Failure Unit) = request.deliver rendered := by
    obtain ⟨_, _, _⟩ := other
    obtain rfl : _ = request.output := houtput
    rfl
  have hrun := run_execute_of_reads ⟨tree, "", ""⟩ h
  have hrunOther := run_execute_of_reads ⟨tree, "", ""⟩ hother
  rw [outcome, outcome, ofAction_perform, ofAction_perform, hrun, hrunOther, hrender]
  simp only [hdeliver]

/-- A run of a request leaves the whole document of its input or no trace in any file, and the text of
the input alone decides which. This holds of every run of the program that asks for the request. -/
theorem all_or_nothing (request : Request) (stdin : ByteArray) (tree : FileTree File) :
    request.Leaves stdin tree (request.outcome stdin tree) ∧
    (∀ (other : Request) (input : ByteArray) (text : String),
      other.output = request.output → other.format = request.format →
      request.Reads stdin tree text → other.Reads input tree text →
      other.outcome input tree = request.outcome stdin tree) ∧
    ∀ (environment : String → Option String) (arguments : List String),
      Invocation.ofArguments environment arguments = .ok (.generate request) →
      request.Leaves stdin tree (run environment arguments stdin tree) := by
  refine ⟨leaves_perform ⟨tree, "", ""⟩ rfl, fun _ _ _ => outcome_eq_of_reads, ?_⟩
  intro environment arguments h
  have hrun : run environment arguments stdin tree =
      .ofAction (request.perform (pure stdin)) ⟨tree, "", "" ++ logNotices environment⟩ := by
    rw [run, program, h]
    rfl
  rw [hrun]
  exact leaves_perform ⟨tree, "", "" ++ logNotices environment⟩ rfl

/-- A service without any route. -/
def shop : Api := ⟨⟨.empty⟩, ⟨"shop", []⟩, []⟩

def shopText : String :=
  "\x7b\"info\":\x7b\"properties\":\x7b\x7d\x7d,\"service\":\x7b\"name\":\"shop\",\"groups\":[]\x7d,\"types\":[]\x7d"

def shopYaml : String := "\n".intercalate
  ["swagger: '2.0'", "info:", "  title: ''", "  version: ''", "schemes:", "- http", "- https", "consumes:",
    "- application/json", "produces:", "- application/json", "paths: \x7b\x7d", "definitions: \x7b\x7d",
    "streamDefinitions: \x7b\x7d", "securityDefinitions:", "  apiKey:", "    type: apiKey",
    "    description: Enter JWT Bearer token **_only_**", "    name: Authorization", "    in: header", ""]

theorem parse_shopText : Api.parse shopText = .ok shop := by
  have h : shop.toJson.toCompact = shopText := by cbv
  rw [← h]
  exact Api.parse_toCompact shop

theorem toYaml_shop : shop.document.toYaml = shopYaml := by
  rw [← String.toList_inj, Document.toYaml, Json.toYaml, String.toList_ofList, shopYaml,
    String.toList_intercalate]
  decide +kernel

/-- Files that are bytes: a description, and a picture that is no text. -/
def archive : FileTree ByteArray where
  files := [(["work", "shop.json"], shopText.toUTF8), (["work", "logo.png"], ⟨#[0x89, 0x50]⟩)]
  directories := []
  workingDirectory := ["work"]

/-- The YAML text of the document comes into a new directory, from the file as from standard input. -/
theorem outcome_archive_eq :
    let ofFile : Request := ⟨some "./shop.json", some "api/shop.yaml", none⟩
    let ofStdin : Request := ⟨none, some "api/shop.yaml", none⟩
    ofFile.Reads .empty archive shopText ∧ ofStdin.Reads shopText.toUTF8 archive shopText ∧
      ofFile.outcome .empty archive = ofStdin.outcome shopText.toUTF8 archive ∧
      ofFile.Leaves .empty archive (run (fun _ => none)
        ["generate", "--input", "./shop.json", "--output=api/shop.yaml"] .empty archive) ∧
      ofStdin.outcome shopText.toUTF8 archive = ⟨0, "", "", { archive with
        files := archive.files ++ [(["work", "api", "shop.yaml"], shopYaml.toUTF8)]
        directories := [["work", "api"]] }⟩ := by
  intro ofFile ofStdin
  have hfile : ofFile.Reads .empty archive shopText :=
    ⟨["work", "shop.json"], shopText.toUTF8, rfl, rfl, rfl, rfl, rfl⟩
  have hstdin : ofStdin.Reads shopText.toUTF8 archive shopText := rfl
  have harguments : Invocation.ofArguments (fun _ => none)
      ["generate", "--input", "./shop.json", "--output=api/shop.yaml"] = .ok (.generate ofFile) := rfl
  obtain ⟨-, hequal, -⟩ := all_or_nothing ofStdin shopText.toUTF8 archive
  obtain ⟨-, -, hrun⟩ := all_or_nothing ofFile .empty archive
  refine ⟨hfile, hstdin, hequal ofFile .empty shopText rfl rfl hstdin hfile,
    hrun (fun _ => none) _ harguments, ?_⟩
  have hrender : ofStdin.render shopText = .ok shopYaml := by
    rw [render, parse_shopText, ← toYaml_shop]
    rfl
  rw [outcome, ofAction_perform, run_execute_of_reads _ hstdin, hrender]
  rfl

end Request

end SwaggerGen.Command
