/-
The whole program.

`run` takes the arguments, the environment and the files, and says what is printed, which code the program ends with and
what the files are afterwards. A mistake in the arguments ends it with code 2, any other failure with code 1 and a report
of the failure and its causes.
-/
import Benchwork.Benchmark.Load
import Benchwork.Build.Host
import Benchwork.Build.Repository
import Benchwork.Chart.Model
import Benchwork.CommandLine.Top
import Benchwork.Page.Drawing
import Benchwork.Table
import Benchwork.Terminal.View

namespace Benchwork

open Benchwork.Build Benchwork.Benchmark Benchwork.Chart Benchwork.CommandLine Benchwork.Text

/-- a failure and the failures underneath, outermost first -/
structure Report where
  message : String
  causes : List String := []
  deriving DecidableEq, Repr

namespace Report

def ofBuild (e : BuildError) : Report := ⟨e.message, e.causes⟩

def ofPlot (e : PlotError) : Report := ⟨e.message, e.causes⟩

/-- something that was attempted on a path, and the fault that stopped it -/
def attempt (what : String) (path : Path) (fault : Fault) : Report := ⟨what ++ ": " ++ path.quoted, [fault.message]⟩

/-- a cause after `lead`; further lines of it are indented as far -/
def causeLine (lead cause : String) : String := lead ++ replace "\n" ("\n" ++ "".pushn ' ' lead.length) cause

/-- the number of a cause, in five columns -/
def number (i : Nat) : String :=
  let digits := toString i
  "".pushn ' ' (5 - digits.length) ++ digits ++ ": "

/-- one cause alone is indented; several are numbered -/
def causeLines : List String → List String
  | [] => []
  | [cause] => ["", "Caused by:", causeLine "    " cause]
  | causes => "" :: "Caused by:" :: causes.zipIdx.map fun (cause, i) => causeLine (number i) cause

/-- the report as it is printed -/
def text (r : Report) : String :=
  String.join ((("Error: " ++ r.message) :: causeLines r.causes).map (· ++ "\n"))

end Report

/-- how the program ended -/
structure Completion where
  code : Nat
  output : List UInt8
  errors : List UInt8
  files : FileStore

namespace Program

def version : String := "streamliner-tools 0.1.0"

/-- where runtimes can be named for all builds -/
def runtimesVariable : String := "STREAMLINER_RUNTIMES"

/-- how the program is used -/
def usage : String :=
  "Usage: streamliner-tools <COMMAND>\n\n" ++
  "Commands:\n" ++
  "  build  Clone and build the repositories of a manifest\n" ++
  "  plot   Compare benchmark results as a table or a bar chart\n" ++
  "  help   Print this message\n\n" ++
  "Options:\n" ++
  "  -h, --help     Print help\n" ++
  "  -V, --version  Print version\n"

/-- the end after something that can fail -/
def finish (streams : Host.Streams) (files : FileStore) : Except Report Unit → Completion
  | .ok () => ⟨0, streams.output, streams.errors, files⟩
  | .error r => ⟨1, streams.output, streams.errors ++ Utf8.encode r.text, files⟩

/-- ends the program when its arguments ask for nothing else -/
def decline (files : FileStore) : UsageError → Completion
  | .version => ⟨0, Utf8.encode (version ++ "\n"), [], files⟩
  | .help => ⟨0, Utf8.encode usage, [], files⟩
  | _ => ⟨2, [], Utf8.encode usage, files⟩

/-! ## Building -/

/-- fetches and builds the repositories of a manifest -/
def build (environment : Shell.Environment) (files : FileStore) (config : BuildConfig) : Completion :=
  match files.readText config.manifest with
  | .error e => finish {} files (.error (Report.attempt "Failed to read manifest" config.manifest e))
  | .ok text =>
    match Manifest.parse text with
    | .error e => finish {} files (.error (Report.ofBuild e))
    | .ok entries =>
      let (result, world) :=
        (Repository.run ⟨config.reposDir, config.runtimes⟩ (Host.runner environment) entries).run { files, memory := {} }
      finish world.memory world.files (result.mapError Report.ofBuild)

/-! ## Showing results -/

/-- the table below a line on the virtual machine, which is printed even if there is no table -/
def showTable (files : FileStore) (results : Results) : Completion :=
  let line := Table.vmLine results.vm ++ "\n"
  match Table.render results with
  | .ok table => finish ⟨Utf8.encode (line ++ table ++ "\n"), []⟩ files (.ok ())
  | .error e => finish ⟨Utf8.encode line, []⟩ files (.error (Report.ofPlot e))

/-- makes the directory above a path -/
def makeParent (files : FileStore) (path : Path) : Except Report Unit × FileStore :=
  match path.parent? with
  | none => (.ok (), files)
  | some dir =>
    let (result, files) := files.makeDirs dir
    (result.mapError (Report.attempt "Failed to create directory" dir), files)

/-- draws a chart to a file -/
def savePage (files : FileStore) (config : PlotConfig) (chart : Chart) (path : Path) : Completion :=
  match makeParent files path with
  | (.error r, files) => finish {} files (.error r)
  | (.ok (), files) =>
    match Page.render chart config.figureSize config.title with
    | none => finish {} files (.error ⟨"Failed to render chart", []⟩)
    | some page =>
      match files.write path (Utf8.encode page) with
      | .ok files => finish {} files (.ok ())
      | .error e => finish {} files (.error (Report.attempt "Failed to write chart" path e))

/-- the chart as it looks on a screen of the usual size -/
def showScreen (files : FileStore) (config : PlotConfig) (chart : Chart) : Completion :=
  let screen := Terminal.view chart Theme.standard config.title 80 24
  let lines := screen.rows.map fun row => String.join (row.map (·.symbol)) ++ "\n"
  finish ⟨Utf8.encode (String.join lines), []⟩ files (.ok ())

/-- loads results and shows them -/
def plot (files : FileStore) (config : PlotConfig) : Completion :=
  match Results.load files config.files config.filter config.zero with
  | .error e => finish {} files (.error (Report.ofPlot e))
  | .ok results =>
    match config.output with
    | .table => showTable files results
    | .screen =>
      match Chart.build results Theme.standard config.limit with
      | .error e => finish {} files (.error (Report.ofPlot e))
      | .ok chart => showScreen files config chart
    | .file path =>
      match Chart.build results Theme.standard config.limit with
      | .error e => finish {} files (.error (Report.ofPlot e))
      | .ok chart => savePage files config chart path

/-- runs the program with the arguments after its name -/
def run (args : List String) (environment : Shell.Environment) (files : FileStore) : Completion :=
  match Invocation.read args with
  | .error e => decline files e
  | .ok (.build c) =>
    match BuildConfig.ofCommand c (environment.get? runtimesVariable) with
    | .error e => finish {} files (.error (Report.ofBuild e))
    | .ok config => build environment files config
  | .ok (.plot c) => plot files (PlotConfig.ofCommand c)

end Program

end Benchwork
